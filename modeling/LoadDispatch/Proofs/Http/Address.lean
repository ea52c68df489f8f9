import LoadDispatch.Http.JobClient
import LoadDispatch.Http.MetadataClient
import LoadDispatch.Proofs.Text.Trimming

/-!
# What becomes of an address

An address is trimmed twice: the blanks around it go first, and then the slashes at its end.  What
is left is the base of all targets.  It is in normal form (`IsNormal`), and an address is refused
for blanks and slashes alone, as long as trimming the slashes uncovers no blank: that is what a
frayed address has in front of them (`Frayed`).

Everything here rests on one cut of the address into blanks, the base, slashes and blanks
(`exists_cut`), and on there being no other one (`baseChars_eq`).
-/

namespace LoadDispatch.Http

open Text (isBlank stripWhile)

/-! ## Addresses and bases -/

/-- A text has nothing but slashes, or nothing at all, between blanks. -/
def NoAddress (address : String) : Prop :=
  ∃ front n back, address.toList = front ++ List.replicate n '/' ++ back ∧
    (∀ c ∈ front, isBlank c = true) ∧ ∀ c ∈ back, isBlank c = true

/-- An address ends in slashes, blanks behind them apart, and has a blank right in front of them
that is not one of those the address begins with. -/
def Frayed (address : String) : Prop :=
  ∃ front b n back, address.toList = front ++ [b] ++ List.replicate (n + 1) '/' ++ back ∧
    (∃ c ∈ front, isBlank c = false) ∧ isBlank b = true ∧ ∀ c ∈ back, isBlank c = true

/-- A target that the clients of this library build. -/
inductive Client.Builds (c : Client) : String → Prop where
  /-- A job is submitted. -/
  | submission : c.Builds (JobClient.mk c).submissionTarget
  /-- The status of a job is asked for. -/
  | status (job : Int) : c.Builds ((JobClient.mk c).statusTarget job)
  /-- The metadata of a path are asked for. -/
  | stat : c.Builds (MetadataClient.mk c).statTarget
  /-- A listing is asked for. -/
  | listing : c.Builds (MetadataClient.mk c).listTarget

/-- Where a base ends in a target there is one slash, and no blank on either side of it. -/
def CleanSeam (base target : String) : Prop :=
  ∃ front before after rest, base.toList = front ++ [before] ∧
    target.toList = front ++ before :: '/' :: after :: rest ∧
    (isBlank before = false ∧ before ≠ '/') ∧ isBlank after = false ∧ after ≠ '/'

/-- A base as targets want it. -/
structure IsNormal (kind : FaultKind) (name base : String) : Prop where
  /-- There is one. -/
  nonempty : base ≠ ""
  /-- It begins with no blank. -/
  begins : ∀ c ∈ base.toList.head?, isBlank c = false
  /-- It ends in no blank and in no slash. -/
  ends : ∀ c ∈ base.toList.getLast?, isBlank c = false ∧ c ≠ '/'
  /-- As an address it is its own base. -/
  fixed : endpoint base kind name = .ok base
  /-- A path behind it is joined by one slash. -/
  seam : ∀ (c : Client) (target : String), c.base = base → c.Builds target → CleanSeam base target

/-- The base of an address is in normal form, and an address without one is blanks and slashes. -/
structure Normalizes (kind : FaultKind) (name address : String) : Prop where
  /-- What is accepted. -/
  accepted : ∀ base, endpoint address kind name = .ok base → IsNormal kind name base
  /-- What is refused, and how. -/
  refused_iff : ∀ fault, endpoint address kind name = .error fault ↔
    fault = .emptyEndpoint name kind ∧ ∀ c ∈ address.toList, isBlank c = true ∨ c = '/'

/-! ## The cut -/

/-- The characters of the base of an address. -/
def baseChars (address : String) : List Char :=
  (stripWhile isBlank address.toList).rdropWhile (· == '/')

section Cut

variable {address base name : String} {kind : FaultKind} {fault : Fault}

theorem ofList_baseChars (address : String) :
    Text.trimEnd (· == '/') (Text.trim address) = String.ofList (baseChars address) := by
  rw [Text.trimEnd, Text.trim, String.toList_ofList, baseChars, List.rdropWhile]

theorem endpoint_eq_ok_iff : endpoint address kind name = .ok base ↔
    baseChars address = base.toList ∧ base ≠ "" := by
  have hbase : baseChars address = base.toList ↔ String.ofList (baseChars address) = base := by
    rw [← String.toList_inj, String.toList_ofList]
  rw [hbase, endpoint, ofList_baseChars]
  split
  · next hempty => simp [hempty, eq_comm]
  · next hne =>
    rw [Except.ok.injEq]
    exact ⟨fun h => ⟨h, h ▸ hne⟩, And.left⟩

theorem endpoint_eq_error_iff : endpoint address kind name = .error fault ↔
    fault = .emptyEndpoint name kind ∧ baseChars address = [] := by
  rw [← String.ofList_eq_empty_iff, endpoint, ofList_baseChars]
  split
  · next hempty => simp [hempty, eq_comm]
  · next hne => simp [hne]

/-- An address is what trimming takes from it around its base. -/
theorem exists_cut (address : String) :
    ∃ front n back, address.toList = front ++ (baseChars address ++ List.replicate n '/') ++ back ∧
      stripWhile isBlank address.toList = baseChars address ++ List.replicate n '/' ∧
      (∀ c ∈ front, isBlank c = true) ∧ ∀ c ∈ back, isBlank c = true := by
  obtain ⟨front, back, haddress, hfront, hback⟩ := Text.exists_stripWhile isBlank address.toList
  obtain ⟨tail, htrimmed, htail⟩ :=
    Text.exists_rdropWhile (· == '/') (stripWhile isBlank address.toList)
  have hslashes : tail = List.replicate tail.length '/' :=
    List.eq_replicate_iff.mpr ⟨rfl, fun c hc => eq_of_beq (htail c hc)⟩
  have hcore : stripWhile isBlank address.toList =
      baseChars address ++ List.replicate tail.length '/' := by
    rw [← hslashes]
    exact htrimmed
  refine ⟨front, tail.length, back, ?_, hcore, hfront, hback⟩
  rw [← hcore]
  exact haddress

/-- There is no other way to cut an address. -/
theorem baseChars_eq {front core back : List Char} {n : Nat}
    (haddress : address.toList = front ++ (core ++ List.replicate n '/') ++ back)
    (hne : core ++ List.replicate n '/' ≠ [])
    (hfront : ∀ c ∈ front, isBlank c = true)
    (hhead : ∀ c ∈ (core ++ List.replicate n '/').head?, isBlank c = false)
    (hlast : ∀ c ∈ (core ++ List.replicate n '/').getLast?, isBlank c = false)
    (hback : ∀ c ∈ back, isBlank c = true) (hcore : ∀ c ∈ core.getLast?, c ≠ '/') :
    baseChars address = core := by
  rw [baseChars, haddress, Text.stripWhile_eq hne hfront hhead hlast hback]
  exact Text.rdropWhile_eq (fun c hc => beq_false_of_ne (hcore c hc))
    fun c hc => beq_iff_eq.mpr (List.eq_of_mem_replicate hc)

theorem not_blank_of_mem_head? {c : Char} (h : c ∈ (baseChars address).head?) :
    isBlank c = false := by
  obtain ⟨-, n, -, -, hcore, -, -⟩ := exists_cut address
  have hhead : c ∈ (stripWhile isBlank address.toList).head? := by
    rw [hcore, List.head?_append, Option.mem_def.mp h]
    rfl
  exact Text.eq_false_of_mem_head?_stripWhile hhead

theorem ne_slash_of_mem_getLast? {c : Char} (h : c ∈ (baseChars address).getLast?) : c ≠ '/' :=
  ne_of_beq_false (Text.eq_false_of_mem_getLast?_rdropWhile (p := (· == '/')) h)

/-- An address has no base exactly if there is nothing in it but slashes between blanks. -/
theorem baseChars_eq_nil_iff : baseChars address = [] ↔ NoAddress address := by
  constructor
  · intro hnil
    obtain ⟨front, n, back, haddress, -, hfront, hback⟩ := exists_cut address
    rw [hnil, List.nil_append] at haddress
    exact ⟨front, n, back, haddress, hfront, hback⟩
  · rintro ⟨front, n, back, haddress, hfront, hback⟩
    cases n with
    | zero =>
        have hall : ∀ c ∈ address.toList, isBlank c = true := by
          rw [haddress, List.replicate_zero, List.append_nil]
          exact fun c hc => (List.mem_append.mp hc).elim (hfront c) (hback c)
        rw [baseChars, Text.stripWhile_eq_nil_iff.mpr hall, List.rdropWhile_nil]
    | succ n =>
        have hslash : ∀ c ∈ List.replicate (n + 1) '/', isBlank c = false := by
          intro c hc
          rw [List.eq_of_mem_replicate hc]
          decide
        have hcut : address.toList = front ++ ([] ++ List.replicate (n + 1) '/') ++ back := haddress
        exact baseChars_eq hcut (by simp) hfront
          (fun c hc => hslash c (List.mem_of_mem_head? hc))
          (fun c hc => hslash c (List.mem_of_mem_getLast? hc)) hback (by simp)

/-- The base of an address ends in a blank exactly if the address is frayed. -/
theorem frayed_iff : Frayed address ↔ ∃ b ∈ (baseChars address).getLast?, isBlank b = true := by
  constructor
  · rintro ⟨front, b, n, back, haddress, ⟨c, hc, hcblank⟩, hb, hback⟩
    -- The front has blanks to trim, and something behind them that stays.
    obtain ⟨d, rest, hrest⟩ : ∃ d rest, front.dropWhile isBlank = d :: rest := by
      apply List.exists_cons_of_ne_nil
      intro hnil
      rw [List.dropWhile_eq_nil_iff.mp hnil c hc] at hcblank
      cases hcblank
    have hd : isBlank d = false := by
      have := List.head?_dropWhile_not isBlank front
      rwa [hrest] at this
    have hsplit : front = front.takeWhile isBlank ++ d :: rest := by
      rw [← hrest, List.takeWhile_append_dropWhile]
    have hcut : address.toList = front.takeWhile isBlank ++
        (d :: rest ++ [b] ++ List.replicate (n + 1) '/') ++ back := by
      rw [haddress]
      conv_lhs => rw [hsplit]
      simp only [List.append_assoc]
    have hbase : baseChars address = d :: rest ++ [b] := by
      refine baseChars_eq hcut (by simp) (fun c hc => List.mem_takeWhile_imp hc) ?_ ?_ hback ?_
      · intro c hc
        cases hc
        exact hd
      · intro c hc
        rw [List.replicate_succ', ← List.append_assoc, List.getLast?_concat] at hc
        cases hc
        decide
      · intro c hc
        rw [List.getLast?_concat] at hc
        cases hc
        rintro rfl
        exact absurd hb (by decide)
    refine ⟨b, ?_, hb⟩
    rw [hbase, List.getLast?_concat]
    rfl
  · rintro ⟨b, hlast, hb⟩
    obtain ⟨front, n, back, haddress, hcore, hfront, hback⟩ := exists_cut address
    obtain ⟨body, hbody⟩ : ∃ body, baseChars address = body ++ [b] :=
      List.getLast?_eq_some_iff.mp hlast
    cases n with
    | zero =>
        -- Without slashes the base is all that trimming left, which ends in no blank.
        have hend : b ∈ (stripWhile isBlank address.toList).getLast? := by
          rw [hcore, List.replicate_zero, List.append_nil]
          exact hlast
        rw [Text.eq_false_of_mem_getLast?_stripWhile hend] at hb
        cases hb
    | succ n =>
        refine ⟨front ++ body, b, n, back, ?_, ?_, hb, hback⟩
        · rw [haddress, hbody]
          simp only [List.append_assoc]
        · cases body with
          | nil =>
              have : isBlank b = false := not_blank_of_mem_head? (by rw [hbody]; rfl)
              rw [this] at hb
              cases hb
          | cons c rest =>
              refine ⟨c, List.mem_append_right _ List.mem_cons_self, ?_⟩
              exact not_blank_of_mem_head? (by rw [hbody]; rfl)

end Cut

/-! ## Normal forms -/

section Normal

variable {address base name target : String} {kind : FaultKind} {c : Client}

/-- Every target has the same path to begin with behind its base. -/
theorem Client.Builds.exists_rest (h : c.Builds target) :
    ∃ rest, target = c.base ++ ("/api/v1/" ++ rest) := by
  cases h with
  | submission => exact ⟨"jobs/run", rfl⟩
  | status job =>
      refine ⟨"jobs/" ++ toString job ++ "/status", ?_⟩
      change c.base ++ "/api/v1/jobs/" ++ toString job ++ "/status" = _
      rw [show "/api/v1/jobs/" = "/api/v1/" ++ "jobs/" from rfl]
      simp only [String.append_assoc]
  | stat => exact ⟨"paths/status", rfl⟩
  | listing => exact ⟨"paths/children", rfl⟩

theorem Client.Builds.cleanSeam (h : c.Builds target) (hne : c.base ≠ "")
    (hends : ∀ d ∈ c.base.toList.getLast?, isBlank d = false ∧ d ≠ '/') :
    CleanSeam c.base target := by
  obtain ⟨rest, rfl⟩ := h.exists_rest
  have hchars : c.base.toList ≠ [] := fun hnil => hne (String.toList_eq_nil_iff.mp hnil)
  have hlast : c.base.toList = c.base.toList.dropLast ++ [c.base.toList.getLast hchars] :=
    (List.dropLast_append_getLast hchars).symm
  refine ⟨c.base.toList.dropLast, c.base.toList.getLast hchars, 'a',
    "pi/v1/".toList ++ rest.toList, hlast, ?_, hends _ (List.getLast_mem_getLast? hchars),
    by decide, by decide⟩
  calc (c.base ++ ("/api/v1/" ++ rest)).toList
      = c.base.toList ++ ('/' :: 'a' :: ("pi/v1/".toList ++ rest.toList)) := by
        rw [String.toList_append, String.toList_append]
        rfl
    _ = _ := by
        conv_lhs => rw [hlast]
        rw [List.append_assoc, List.singleton_append]

/-- A base that ends in no blank is in normal form. -/
theorem isNormal_of_endpoint (h : endpoint address kind name = .ok base)
    (hblank : ∀ c ∈ base.toList.getLast?, isBlank c = false) : IsNormal kind name base := by
  obtain ⟨hchars, hne⟩ := endpoint_eq_ok_iff.mp h
  have hbegins : ∀ c ∈ base.toList.head?, isBlank c = false := fun c hc =>
    not_blank_of_mem_head? (hchars ▸ hc)
  have hends : ∀ c ∈ base.toList.getLast?, isBlank c = false ∧ c ≠ '/' := fun c hc =>
    ⟨hblank c hc, ne_slash_of_mem_getLast? (hchars ▸ hc)⟩
  have hfixed : baseChars base = base.toList := by
    have hcore : base.toList ++ List.replicate 0 '/' = base.toList := List.append_nil _
    have hcut : base.toList = [] ++ (base.toList ++ List.replicate 0 '/') ++ [] := by
      rw [hcore, List.nil_append, List.append_nil]
    refine baseChars_eq hcut ?_ (List.forall_mem_nil _) ?_ ?_ (List.forall_mem_nil _)
      fun c hc => (hends c hc).2
    · rw [hcore]
      exact fun hnil => hne (String.toList_eq_nil_iff.mp hnil)
    · rw [hcore]
      exact hbegins
    · rw [hcore]
      exact hblank
  refine ⟨hne, hbegins, hends, endpoint_eq_ok_iff.mpr ⟨hfixed, hne⟩, ?_⟩
  rintro c target rfl hbuilds
  exact hbuilds.cleanSeam hne hends

/-- A frayed address is accepted, and leaves the blank at the end of its base. -/
theorem endpoint_of_frayed (h : Frayed address) (kind : FaultKind) (name : String) :
    ∃ base, endpoint address kind name = .ok base ∧
      ∃ b ∈ base.toList.getLast?, isBlank b = true := by
  obtain ⟨b, hlast, hb⟩ := frayed_iff.mp h
  refine ⟨String.ofList (baseChars address), endpoint_eq_ok_iff.mpr ⟨?_, ?_⟩, b, ?_, hb⟩
  · rw [String.toList_ofList]
  · intro hempty
    rw [String.ofList_eq_empty_iff.mp hempty] at hlast
    cases hlast
  · rw [String.toList_ofList]
    exact hlast

/-- An address that is its own base ends in no blank. -/
theorem not_blank_of_fixed (h : endpoint base kind name = .ok base) :
    ∀ c ∈ base.toList.getLast?, isBlank c = false := by
  obtain ⟨hchars, -⟩ := endpoint_eq_ok_iff.mp h
  obtain ⟨front, n, back, hbase, hcore, -, -⟩ := exists_cut base
  have hn : n = 0 := by
    have hlength := congrArg List.length hbase
    rw [hchars] at hlength
    simp only [List.length_append, List.length_replicate] at hlength
    omega
  have hall : stripWhile isBlank base.toList = base.toList := by
    rw [hcore, hchars, hn, List.replicate_zero, List.append_nil]
  intro c hc
  rw [← hall] at hc
  exact Text.eq_false_of_mem_getLast?_stripWhile hc

/-- An address is normalized unless it is frayed. -/
theorem normalizes_iff : Normalizes kind name address ↔ ¬ Frayed address := by
  constructor
  · intro h hfrayed
    obtain ⟨base, hok, b, hlast, hb⟩ := endpoint_of_frayed hfrayed kind name
    rw [((h.accepted base hok).ends b hlast).1] at hb
    cases hb
  · intro hsound
    have hblank : ∀ c ∈ (baseChars address).getLast?, isBlank c = false := fun c hc =>
      Bool.eq_false_iff.mpr fun hb => hsound (frayed_iff.mpr ⟨c, hc, hb⟩)
    refine ⟨fun base h => isNormal_of_endpoint h ?_, fun fault => ?_⟩
    · rw [← (endpoint_eq_ok_iff.mp h).1]
      exact hblank
    · rw [endpoint_eq_error_iff]
      refine and_congr_right fun _ => ⟨fun hnil => ?_, fun hall => ?_⟩
      · obtain ⟨front, n, back, haddress, hfront, hback⟩ := baseChars_eq_nil_iff.mp hnil
        rw [haddress]
        intro c hc
        rcases List.mem_append.mp hc with hc | hc
        · rcases List.mem_append.mp hc with hc | hc
          · exact .inl (hfront c hc)
          · exact .inr (List.eq_of_mem_replicate hc)
        · exact .inl (hback c hc)
      · -- A base would end in a character of the address that is neither.
        by_contra hne
        obtain ⟨front, n, back, haddress, -, -, -⟩ := exists_cut address
        have hlast := List.getLast_mem_getLast? hne
        have hmem : (baseChars address).getLast hne ∈ address.toList := by
          rw [haddress]
          exact List.mem_append_left _ (List.mem_append_right _
            (List.mem_append_left _ (List.getLast_mem hne)))
        rcases hall _ hmem with hb | hslash
        · rw [hblank _ hlast] at hb
          cases hb
        · exact ne_slash_of_mem_getLast? hlast hslash

end Normal

/-- **Bases are in normal form unless the address is frayed.**  Whatever the address is:

* it is normalized exactly if it is not frayed: its base is in normal form, and it is refused
  exactly if it is made of blanks and slashes;
* a frayed address is never refused, and its base ends in a blank and is not its own base;
* an address is refused, frayed or not, exactly if slashes between blanks are all there is of it;
* every base is there, begins with no blank and ends in no slash. -/
theorem bases_are_normal_unless_frayed (kind : FaultKind) (name address : String) :
    (Normalizes kind name address ↔ ¬ Frayed address) ∧
    (Frayed address → ∃ base, endpoint address kind name = .ok base ∧
      (∃ b ∈ base.toList.getLast?, isBlank b = true) ∧ endpoint base kind name ≠ .ok base) ∧
    (∀ fault, endpoint address kind name = .error fault ↔
      fault = .emptyEndpoint name kind ∧ NoAddress address) ∧
    ∀ base, endpoint address kind name = .ok base →
      base ≠ "" ∧ (∀ c ∈ base.toList.head?, isBlank c = false) ∧
        ∀ c ∈ base.toList.getLast?, c ≠ '/' := by
  refine ⟨normalizes_iff, fun hfrayed => ?_, fun fault => ?_, fun base h => ?_⟩
  · obtain ⟨base, hok, b, hlast, hb⟩ := endpoint_of_frayed hfrayed kind name
    refine ⟨base, hok, ⟨b, hlast, hb⟩, fun hfixed => ?_⟩
    rw [not_blank_of_fixed hfixed b hlast] at hb
    cases hb
  · rw [endpoint_eq_error_iff, baseChars_eq_nil_iff]
  · obtain ⟨hchars, hne⟩ := endpoint_eq_ok_iff.mp h
    rw [← hchars]
    exact ⟨hne, fun c hc => not_blank_of_mem_head? hc, fun c hc => ne_slash_of_mem_getLast? hc⟩

/-- The blank in front of the last slash stays at the end of the base, and goes if the base is
trimmed again.  It also keeps slashes and blanks alone from being refused. -/
theorem blank_before_slash_stays :
    endpoint "a /" .value "Job service" = .ok "a " ∧
    endpoint "a " .value "Job service" = .ok "a" ∧
    endpoint "/ /" .value "Job service" = .ok "/ " ∧
    ¬ Normalizes .value "Job service" "a /" := by
  have h : endpoint "a /" .value "Job service" = .ok "a " := by decide
  have h' : endpoint "a " .value "Job service" = .ok "a" := by decide
  refine ⟨h, h', by decide, fun hnormal => ?_⟩
  have hfixed := (hnormal.accepted _ h).fixed
  rw [h'] at hfixed
  exact absurd hfixed (by decide)

end LoadDispatch.Http
