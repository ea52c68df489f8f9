import LoadDispatch.Proofs.Pool.Pass

/-!
# Closing and calling as turns

Two more operations consist of one part for each attempt in flight.

When a pool is closed, every attempt is released and leaves (`Attempt.LetGo`, `Closes.turn`).  When
the owner calls an attempt, that attempt does as it is told and all others do nothing
(`Attempt.Called`, `Calls.turn`).  The second needs to be told that attempts with the same session
are the same, and that those which have left are released; then calling one of them does nothing.
-/

namespace LoadDispatch

/-- The part of one attempt when its pool is closed. -/
inductive Attempt.LetGo (a : Attempt) : List Event → Attempt → Option Departure → Prop where
  /-- The attempt is released and leaves. -/
  | mk {xs : List Event} {answer : Except Fault Unit} {b : Attempt} : a.Releases xs answer b →
    LetGo a (callsOn a.session xs) b (some .closed)

/-- The part of one attempt when the owner makes a call.  Only releasing releases. -/
structure Attempt.Called (c : Attempt.Call) (a : Attempt) (calls : List Event) (b : Attempt)
    (why : Option Departure) : Prop where
  /-- The attempt stays. -/
  stays : why = none
  /-- It makes its calls. -/
  course : a.Course calls b
  /-- It is released only if it is told to be. -/
  released_eq : c ≠ .release → b.released = a.released

/-! ## Closing -/

section Releases

variable {as released : List Attempt} {events : List Event} {fault : Option Fault}

theorem releaseNotices_among (b : Attempt) (answer : Except Fault Unit) (ss : List Session) :
    ∀ e ∈ Pool.releaseNotices b answer, e.Among ss := by
  intro e he
  match answer with
  | .ok () => cases he
  | .error fault =>
      rw [List.mem_singleton.mp he]
      exact trivial

namespace Pool.ReleasesAll

theorem sessions (h : ReleasesAll as events fault released) :
    sessionsOf released = sessionsOf as := by
  induction h with
  | nil => rfl
  | cons hrel _ ih =>
      rw [sessionsOf_cons, sessionsOf_cons, ih, hrel.lives.course.session_eq]

theorem among (h : ReleasesAll as events fault released) :
    ∀ e ∈ events, e.Among (sessionsOf as) := by
  induction h with
  | nil => simp
  | cons hrel _ ih =>
      refine among_append hrel.lives.own ?_ (by simp) (List.Subset.refl _)
      exact among_append (releaseNotices_among _ _ []) ih (List.nil_subset _) (by simp)

/-- With sessions of their own, the calls of one attempt are those of its own release. -/
theorem of_mem (h : ReleasesAll as events fault released) (hn : (sessionsOf as).Nodup)
    {b : Attempt} (hb : b ∈ released) :
    ∃ a ∈ as, a.LetGo (callsOn b.session events) b (some .closed) := by
  induction h with
  | nil => cases hb
  | @cons c b' rest _ xs ys answer _ hrel hrest ih =>
      rw [sessionsOf_cons, List.nodup_cons] at hn
      have hnotices : ∀ s, callsOn s (releaseNotices b' answer) = [] := fun s =>
        callsOn_eq_nil (releaseNotices_among b' answer []) List.not_mem_nil
      rw [callsOn_append, callsOn_append, hnotices, List.nil_append]
      rcases List.mem_cons.mp hb with rfl | hb
      · refine ⟨c, List.mem_cons_self, ?_⟩
        rw [hrel.lives.course.session_eq, callsOn_eq_nil hrest.among hn.1, List.append_nil]
        exact .mk hrel
      · obtain ⟨a, ha, hpart⟩ := ih hn.2 hb
        have hne := session_not_mem_singleton (hrest.sessions ▸ hn.1) hb
        refine ⟨a, List.mem_cons_of_mem _ ha, ?_⟩
        rw [callsOn_eq_nil hrel.lives.own hne, List.nil_append]
        exact hpart

end Pool.ReleasesAll

end Releases

namespace Pool

variable {p q : Pool} {events : List Event}

/-- Closing calls only sessions in flight. -/
theorem Closes.among {answer : Except Fault Unit} (h : p.Closes events answer q) :
    ∀ e ∈ events, e.Among (sessionsOf p.inFlight) := by
  obtain ⟨hrel⟩ := h
  intro e he
  rcases List.mem_cons.mp he with rfl | he
  · exact trivial
  · exact hrel.among e he

/-- **Closing is made of the parts of the attempts**: everyone in flight leaves. -/
theorem Closes.turn {answer : Except Fault Unit} (h : p.Closes events answer q)
    (hn : (sessionsOf p.inFlight).Nodup) :
    ∃ gone, p.Turn Attempt.LetGo events gone q ∧ q.inFlight = [] ∧
      sessionsOf (gone.map (·.attempt)) = sessionsOf p.inFlight ∧ ∀ x ∈ gone, x.why = .closed := by
  have hamong := h.among
  obtain ⟨hrel⟩ := h
  rename_i events released
  have hgone : (released.map (Departed.mk .closed)).map (·.attempt) = released := by
    rw [List.map_map]
    exact List.map_id released
  have hwhy : ∀ x ∈ released.map (Departed.mk .closed), x.why = .closed := by
    intro x hx
    obtain ⟨b, -, rfl⟩ := List.mem_map.mp hx
    rfl
  have hcount : ∀ r, r ≠ Departure.closed →
      (released.map (Departed.mk .closed)).countP (·.why == r) = 0 := by
    intro r hr
    rw [List.countP_eq_zero]
    intro x hx
    rw [hwhy x hx]
    simpa using hr.symm
  refine ⟨released.map (⟨.closed, ·⟩), ⟨rfl, rfl, ?_, ?_, ?_, ?_, hamong, ?_, ?_⟩, rfl, ?_, hwhy⟩
  · show p.completed = p.completed + _
    rw [hcount _ (by decide), Nat.add_zero]
  · show p.abandoned = p.abandoned + _
    rw [hcount _ (by decide), Nat.add_zero]
  · rw [hgone, List.nil_append, hrel.sessions]
  · exact List.nil_sublist _
  · rintro b ⟨⟩
  · intro x hx
    obtain ⟨b, hb, rfl⟩ := List.mem_map.mp hx
    simpa using hrel.of_mem hn hb
  · rw [hgone, hrel.sessions]

/-! ## Calling -/

theorem find?_eq_some {s : Session} {a : Attempt} (h : p.find? s = some a) :
    a ∈ p.inFlight ++ p.departed.map (·.attempt) ∧ a.session = s :=
  ⟨List.mem_of_find?_eq_some h, by simpa using List.find?_some h⟩

/-- Attempts other than the one that is put back stay as they are. -/
theorem mem_map_put {as : List Attempt} {b c : Attempt}
    (h : c ∈ as.map fun d => if d.session = b.session then b else d) :
    (c = b ∧ b.session ∈ sessionsOf as) ∨ (c ∈ as ∧ c.session ≠ b.session) := by
  obtain ⟨d, hd, rfl⟩ := List.mem_map.mp h
  by_cases hs : d.session = b.session
  · rw [if_pos hs]
    exact .inl ⟨rfl, hs ▸ session_mem_sessionsOf hd⟩
  · rw [if_neg hs]
    exact .inr ⟨hd, hs⟩

theorem sessionsOf_map_put (as : List Attempt) (b : Attempt) :
    sessionsOf (as.map fun d => if d.session = b.session then b else d) = sessionsOf as := by
  rw [sessionsOf, List.map_map]
  refine List.map_congr_left fun d _ => ?_
  by_cases hs : d.session = b.session <;> simp [hs]

/-- **Calling is made of the parts of the attempts**: one of them does as it is told. -/
theorem Calls.turn {session : Session} {c : Attempt.Call} (h : p.Calls session c events q)
    (hn : (sessionsOf (p.inFlight ++ p.departed.map (·.attempt))).Nodup)
    (hleft : ∀ x ∈ p.departed, x.attempt.released = true) :
    p.Turn (Attempt.Called c) events [] q := by
  cases h with
  | unknown =>
      refine ⟨rfl, by simp, rfl, rfl, by simp, .refl _, by simp, ?_, by simp⟩
      intro b hb
      exact ⟨b, hb, rfl, .refl b, fun _ => rfl⟩
  | @called a b _ hfind hlives _ hreleased =>
      obtain ⟨ha, -⟩ := find?_eq_some hfind
      have hs : b.session = a.session := hlives.course.session_eq
      -- An attempt that has left makes no call, and is put back as it was.
      have hgone : a ∈ p.departed.map (·.attempt) → callsOn a.session events = [] ∧ b = a := by
        intro hmem
        obtain ⟨x, hx, rfl⟩ := List.mem_map.mp hmem
        exact Attempt.Course.of_released (hleft x hx) hlives.course
      have hsame : ∀ d ∈ p.inFlight ++ p.departed.map (·.attempt), d.session = b.session → d = a :=
        fun d hd heq => List.inj_on_of_nodup_map hn hd ha (heq.trans hs)
      refine ⟨rfl, ?_, rfl, rfl, ?_, ?_, ?_, ?_, by simp⟩
      · rw [List.append_nil]
        refine (List.map_congr_left fun x hx => ?_).trans (List.map_id _)
        have hmem : x.attempt ∈ p.departed.map (·.attempt) := List.mem_map_of_mem hx
        have hput : (if x.attempt.session = b.session then b else x.attempt) = x.attempt := by
          by_cases heq : x.attempt.session = b.session
          · have hx' := hsame _ (List.mem_append_right _ hmem) heq
            rw [if_pos heq, (hgone (hx' ▸ hmem)).2, hx']
          · rw [if_neg heq]
        exact congrArg (Departed.mk x.why) hput
      · rw [List.map_nil, List.append_nil]
        exact .of_eq (sessionsOf_map_put _ _)
      · rw [show sessionsOf (p.replace b).inFlight = _ from sessionsOf_map_put _ _]
      · intro e he
        match hcall : e.callOn? with
        | none => exact (hlives.own e he).of_callOn?_eq_none hcall
        | some s =>
            have hown := List.mem_singleton.mp ((hlives.own e he).mem hcall)
            -- Only a call could be out of the frame, and then the attempt is in flight.
            rcases List.mem_append.mp ha with ha | ha
            · refine (hlives.own e he).mono ?_
              rw [List.cons_subset]
              exact ⟨session_mem_sessionsOf ha, List.nil_subset _⟩
            · have hmem : e ∈ callsOn a.session events := mem_callsOn.mpr ⟨he, hown ▸ hcall⟩
              rw [(hgone ha).1] at hmem
              cases hmem
      · intro d hd
        rcases mem_map_put hd with ⟨rfl, hmem⟩ | ⟨hd, hne⟩
        · obtain ⟨d', hd', heq⟩ := mem_sessionsOf.mp hmem
          have hda := hsame d' (List.mem_append_left _ hd') heq
          exact ⟨a, hda ▸ hd', rfl, hs ▸ hlives.course, hreleased⟩
        · refine ⟨d, hd, rfl, ?_, fun _ => rfl⟩
          rw [callsOn_eq_nil hlives.own (by simpa [hs] using hne)]
          exact .refl d

end Pool

end LoadDispatch
