import LoadDispatch.Proofs.Command.Validated
import LoadDispatch.Proofs.Http.Inquiry
import LoadDispatch.Proofs.Json.Reading
import LoadDispatch.Proofs.Schema.Projection
import LoadDispatch.Proofs.Text.Utf8

/-!
# What a submission says

The body of a submission is a JSON text in UTF-8.  Whoever reads it as such, by the schema of a
submission, learns the path and the number of replicas that were to be sent
(`submissions_read_back`): nothing in a path can break out of its quotes, and all its characters
have bytes.

A reader takes integers up to a number of digits.  That two bodies are alike only if path and number
are holds beyond it too, since the text shows the digits all the same.
-/

namespace LoadDispatch.Json

open Text (HasUtf8)

variable {c d : Char} {cs : List Char}

/-! ## Escaped texts -/

theorem digitChar_ascii : ∀ d < 16, (Nat.digitChar d).toNat < 0x80 := by
  decide

theorem hexField_ascii {n : Nat} (h : n < 0x20) : ∀ d ∈ Text.hexField 4 n, d.toNat < 0x80 := by
  have hhigh := digitChar_ascii (n / 16) (by omega)
  have hlow := digitChar_ascii (n % 16) (by omega)
  rw [hexField_four n h]
  simp [hhigh, hlow]

/-- An escape is ASCII. -/
theorem mem_escapeChar (h : d ∈ escapeChar c) : d = c ∨ d.toNat < 0x80 := by
  revert h
  fun_cases escapeChar c with
  | case8 _ _ _ _ _ _ _ hcontrol =>
      intro h
      rcases List.mem_cons.mp h with rfl | h
      · exact .inr (by decide)
      rcases List.mem_cons.mp h with rfl | h
      · exact .inr (by decide)
      · exact .inr (hexField_ascii hcontrol d h)
  | case9 => exact fun h => .inl (List.mem_singleton.mp h)
  | _ =>
      intro h
      simp only [List.mem_cons, List.not_mem_nil, or_false] at h
      rcases h with rfl | rfl <;> exact .inr (by decide)

/-- What is beyond ASCII is not escaped. -/
theorem escapeChar_of_not_ascii (h : 0x80 ≤ c.toNat) : escapeChar c = [c] := by
  fun_cases escapeChar c with
  | case8 => omega
  | case9 => rfl
  | _ =>
      subst_vars
      exact absurd h (by decide)

/-- A code point that is kept as a pair is not escaped; the others are kept as one character. -/
theorem hasUtf8_escaped_ofCodePoint {code : Nat} (h : Text.IsScalar code) :
    HasUtf8 ((Text.ofCodePoint code).flatMap escapeChar) := by
  cases hreserved : Text.isReserved code with
  | true =>
      have hrange : Text.markCode ≤ code := by
        simp only [Text.isReserved, Bool.and_eq_true, decide_eq_true_eq] at hreserved
        exact hreserved.1
      have hmark : 0x80 ≤ (Char.ofNat Text.markCode).toNat := by decide
      have hcode : 0x80 ≤ (Char.ofNat code).toNat := by
        rw [Text.toNat_ofNat h.1 h.2]
        simp only [Text.markCode] at hrange
        omega
      have hkept : Text.ofCodePoint code = [Char.ofNat Text.markCode, Char.ofNat code] := by
        rw [Text.ofCodePoint, if_neg (by simp [h.2]), if_pos hreserved]
      refine ⟨[code], by simpa using h, ?_⟩
      rw [Text.ofCodePoints, List.flatMap_singleton, hkept, List.flatMap_cons,
        List.flatMap_singleton, escapeChar_of_not_ascii hmark, escapeChar_of_not_ascii hcode,
        List.singleton_append]
  | false =>
      have hkept : Text.ofCodePoint code = [Char.ofNat code] := by
        rw [Text.ofCodePoint, if_neg (by simp [h.2]), if_neg (by simp [hreserved])]
      rw [hkept, List.flatMap_singleton]
      refine HasUtf8.of_unreserved fun d hd => ?_
      rcases mem_escapeChar hd with rfl | hascii
      · rw [Text.toNat_ofNat h.1 h.2, hreserved]
      · exact Text.isReserved_of_ascii hascii

/-- An escaped text has bytes if the text has. -/
theorem hasUtf8_escaped (h : HasUtf8 cs) : HasUtf8 (cs.flatMap escapeChar) := by
  obtain ⟨codes, hcodes, rfl⟩ := h
  induction codes with
  | nil => exact HasUtf8.of_ascii (by simp [Text.ofCodePoints])
  | cons code codes ih =>
      rw [Text.ofCodePoints, List.flatMap_cons, List.flatMap_append]
      exact (hasUtf8_escaped_ofCodePoint (hcodes code List.mem_cons_self)).append
        (ih fun x hx => hcodes x (List.mem_cons_of_mem _ hx))

end LoadDispatch.Json

namespace LoadDispatch.Http

open Decimal.Numeral (digitLimit)
open Json (escapeChar Legible)
open Schema (LoadJobPayload SubmissionPayload)
open Text (HasUtf8)

variable {path path' : String} {n n' : Int}

/-! ## The text of a submission -/

/-- What stands in front of the path, and the quote that opens it. -/
def bodyOpening : List Char :=
  "\x7b\"jobConfig\":\x7b\"@type\":\"load\",\"filePath\":\"".toList

/-- What stands between the quote that closes the path and the number. -/
def bodyMiddle : List Char :=
  ",\"replication\":".toList

/-- What stands behind the number. -/
def bodyEnd : List Char :=
  ['\x7d', '\x7d']

theorem toList_submissionBody (path : String) (n : Int) :
    (submissionBody { filePath := path, replication := n }).toList =
      bodyOpening ++ (path.toList.flatMap escapeChar ++
        '"' :: (bodyMiddle ++ (Text.intDigits n ++ bodyEnd))) := by
  rw [submissionBody, Json.compact, String.toList_ofList, SubmissionPayload.write,
    LoadJobPayload.write]
  simp only [Json.write_obj_cons, Json.writeMembers_cons, Json.write_str, Json.write_int,
    Json.writeString, List.cons_append, List.append_assoc, List.nil_append]
  rfl

theorem intDigits_ascii : ∀ d ∈ Text.intDigits n, d.toNat < 0x80 := by
  have hdigit {d : Char} (h : d.isDigit = true) : d.toNat < 0x80 := by
    simp only [Char.isDigit, Bool.and_eq_true, decide_eq_true_eq] at h
    have hle : d.toNat ≤ 57 := h.2
    omega
  intro d hd
  unfold Text.intDigits at hd
  split at hd
  · rcases List.mem_cons.mp hd with rfl | hd
    · decide
    · exact hdigit (Json.isDigit_toDigits d hd)
  · exact hdigit (Json.isDigit_toDigits d hd)

/-- The body has bytes if the path has. -/
theorem hasUtf8_submissionBody (h : HasUtf8 path.toList) :
    HasUtf8 (submissionBody { filePath := path, replication := n }).toList := by
  have hopening : HasUtf8 bodyOpening := HasUtf8.of_all_ascii rfl
  have hquote : HasUtf8 ['"'] := HasUtf8.of_all_ascii rfl
  have hmiddle : HasUtf8 bodyMiddle := HasUtf8.of_all_ascii rfl
  have hend : HasUtf8 bodyEnd := HasUtf8.of_all_ascii rfl
  have hdigits : HasUtf8 (Text.intDigits n) := HasUtf8.of_ascii intDigits_ascii
  rw [toList_submissionBody]
  exact hopening.append ((Json.hasUtf8_escaped h).append
    (hquote.append (hmiddle.append (hdigits.append hend))))

/-! ## Reading it -/

/-- Bytes convey a submission: as the body of any message they are JSON, wherever there is room for
an object in an object, and what they say fits the schema. -/
def Conveys (bytes : List UInt8) (payload : SubmissionPayload) : Prop :=
  ∃ j, (∀ message : Response, message.body = bytes →
      ∀ depth, 2 ≤ depth → message.json? depth = .ok (some j)) ∧
    SubmissionPayload.read j = .ok payload

/-- What is written for a submission is read as it. -/
theorem read_write_submission (h : 1 ≤ n) :
    SubmissionPayload.read
        (SubmissionPayload.write true { job := { filePath := path, replication := n } }) =
      .ok { job := { filePath := path, replication := n } } := by
  have hconfig : LoadJobPayload.ofConfig { path, replication := n } =
      .ok { filePath := path, replication := n } := LoadJobPayload.ofConfig_eq h
  have hjob : Schema.readObject LoadJobPayload.readMembers
      (LoadJobPayload.write true { filePath := path, replication := n }) =
        .ok { filePath := path, replication := n } :=
    LoadJobPayload.normalizes true (Schema.Reading.titled_eq_ok_iff.mp hconfig)
  rw [SubmissionPayload.read, Schema.Reading.titled_eq_ok_iff, SubmissionPayload.write,
    Schema.readObject, SubmissionPayload.readMembers_eq_ok_iff, Schema.Field.required_eq_ok_iff]
  exact ⟨_, _, rfl, hjob⟩

theorem legible_submission (hdigits : (Nat.toDigits 10 n.natAbs).length ≤ digitLimit) (k : Nat) :
    Legible (k + 2)
      (SubmissionPayload.write true { job := { filePath := path, replication := n } }) := by
  have hjob : Legible (k + 1)
      (LoadJobPayload.write true { filePath := path, replication := n }) := by
    refine Legible.obj (show ["@type", "filePath", "replication"].Nodup by decide) ?_
    simp only [List.mem_cons, List.not_mem_nil, or_false, forall_eq_or_imp, forall_eq]
    exact ⟨.str _, .str _, .int hdigits⟩
  refine Legible.obj (List.nodup_singleton _) ?_
  simpa using hjob

/-- The bytes of a submission convey it. -/
theorem conveys_submissionBody (hpath : HasUtf8 path.toList) (hn : 1 ≤ n)
    (hdigits : (Nat.toDigits 10 n.natAbs).length ≤ digitLimit) :
    Conveys (Text.utf8Bytes (submissionBody { filePath := path, replication := n }))
      { job := { filePath := path, replication := n } } := by
  refine ⟨_, fun message hbody depth hdepth => ?_, read_write_submission hn⟩
  have hencoding : Text.Encoding.ofJson message.body = .utf8 := by
    have htext := toList_submissionBody path n
    rw [hbody, ← String.ofList_toList (s := submissionBody _), htext]
    exact Text.ofJson_utf8Bytes (by decide) (by decide) (by decide) (by decide)
  have hutf8 : HasUtf8 (submissionBody { filePath := path, replication := n }).toList :=
    hasUtf8_submissionBody hpath
  have hchars := Text.strict?_utf8Bytes hutf8
  obtain ⟨k, rfl⟩ := Nat.exists_eq_add_of_le' hdepth
  have hlegible : Legible (k + 2)
      (SubmissionPayload.write true { job := { filePath := path, replication := n } }) :=
    legible_submission hdigits k
  have hread := Json.readWithin_write hlegible
  rw [Response.json?, hencoding, hbody, hchars, submissionBody, Json.compact,
    String.toList_ofList]
  dsimp only
  rw [hread]

/-! ## Telling submissions apart -/

theorem eq_of_intDigits_eq (hn : 1 ≤ n) (hn' : 1 ≤ n')
    (h : Text.intDigits n = Text.intDigits n') : n = n' := by
  rw [Text.intDigits, Text.intDigits, if_neg (by omega), if_neg (by omega)] at h
  have hvalue (k : Nat) : Text.decimalValue (Nat.toDigits 10 k) = k := Nat.ofDigitChars_ten_toDigits
  have habs : n.natAbs = n'.natAbs := by
    rw [← hvalue n.natAbs, h, hvalue]
  omega

/-- The text of a submission shows its path and its number, however many digits that has. -/
theorem eq_of_submissionBody_eq (hn : 1 ≤ n) (hn' : 1 ≤ n')
    (h : submissionBody { filePath := path, replication := n } =
      submissionBody { filePath := path', replication := n' }) : path = path' ∧ n = n' := by
  have htext := congrArg String.toList h
  rw [toList_submissionBody, toList_submissionBody, List.append_cancel_left_eq] at htext
  -- The reader of strings finds the end of the path.
  have hstring := congrArg Json.string? htext
  rw [Json.string?_escaped, Json.string?_escaped, Option.some.injEq, Prod.mk.injEq] at hstring
  obtain ⟨hpath, hrest⟩ := hstring
  rw [List.append_cancel_left_eq, List.append_cancel_right_eq] at hrest
  exact ⟨hpath, eq_of_intDigits_eq hn hn' hrest⟩

/-! ## What is sent -/

/-- A job with a replication of at least one is submitted: its payload is sent, and the answer has
a meaning. -/
theorem JobClient.submit_of_one_le {m : Type → Type} [Monad m] (transport : Transport m)
    (c : JobClient) {config : JobConfig} (h : 1 ≤ config.replication) :
    c.submit transport config = (do
      match ← c.send transport "POST" c.submissionTarget (some (submissionBody
          { filePath := config.path, replication := config.replication })) with
      | .error fault => pure (.error fault)
      | .ok (request, response) => pure (interpretSubmission request response)) := by
  unfold submit
  split
  · next report hreport =>
    rw [LoadJobPayload.ofConfig_eq h] at hreport
    cases hreport
  · next payload hpayload =>
    rw [LoadJobPayload.ofConfig_eq h] at hpayload
    cases hpayload
    rfl

/-- **A submission reads back**, whatever characters its path has: what is sent for a job has bytes,
the bytes convey the job's path and number and the type `load`, and those of another job differ. -/
theorem submissions_read_back (c : JobClient) (s : String) {n : Int} (hn : 1 ≤ n) :
    let config : JobConfig := { path := Text.ofCharacters s, replication := n }
    let payload : LoadJobPayload := { type := "load", filePath := config.path, replication := n }
    (∀ {m : Type → Type} [Monad m] (transport : Transport m), c.submit transport config = (do
      match ← c.send transport "POST" c.submissionTarget (some (submissionBody payload)) with
      | .error fault => pure (.error fault)
      | .ok (request, response) => pure (interpretSubmission request response))) ∧
    Text.utf8Refusal? (submissionBody payload) = none ∧
    ((Nat.toDigits 10 n.natAbs).length ≤ digitLimit →
      Conveys (Text.utf8Bytes (submissionBody payload)) { job := payload }) ∧
    ∀ (t : String) (k : Int), 1 ≤ k →
      Text.utf8Bytes (submissionBody { filePath := Text.ofCharacters t, replication := k }) =
        Text.utf8Bytes (submissionBody payload) → t = s ∧ k = n := by
  intro config payload
  have hutf8 (t : String) (k : Int) :
      HasUtf8 (submissionBody { filePath := Text.ofCharacters t, replication := k }).toList :=
    hasUtf8_submissionBody (HasUtf8.ofCharacters t)
  refine ⟨fun transport => c.submit_of_one_le transport hn, Text.utf8Refusal?_eq_none (hutf8 s n),
    conveys_submissionBody (HasUtf8.ofCharacters s) hn, fun t k hk hbytes => ?_⟩
  have hchars := congrArg (Text.Encoding.strict? .utf8) hbytes
  rw [Text.strict?_utf8Bytes (hutf8 t k), Text.strict?_utf8Bytes (hutf8 s n), Option.some.injEq,
    String.toList_inj] at hchars
  obtain ⟨hpath, hnumber⟩ := eq_of_submissionBody_eq hk hn hchars
  exact ⟨Text.eq_of_ofCharacters_eq hpath, hnumber⟩

/-- Two submissions of one file whose name has a quote, a backslash, a line feed and letters beyond
ASCII: the bytes of the first convey it, and they are not those of the second. -/
theorem submissions_read_back_at_odd_name :
    (1 : Int) ≤ 3 ∧ (1 : Int) ≤ 4 ∧
    Conveys (Text.utf8Bytes (submissionBody
        { filePath := Text.ofCharacters "/a \"b\" \\ \n ß 𝄞", replication := 3 }))
      { job := { filePath := Text.ofCharacters "/a \"b\" \\ \n ß 𝄞", replication := 3 } } ∧
    Text.utf8Bytes (submissionBody
        { filePath := Text.ofCharacters "/a \"b\" \\ \n ß 𝄞", replication := 4 }) ≠
      Text.utf8Bytes (submissionBody
        { filePath := Text.ofCharacters "/a \"b\" \\ \n ß 𝄞", replication := 3 }) := by
  have hread := submissions_read_back
    ⟨{ base := "http://jobs", timeout := none, number := 1 }⟩ "/a \"b\" \\ \n ß 𝄞"
    (show (1 : Int) ≤ 3 by decide)
  refine ⟨by decide, by decide, hread.2.2.1 (by decide), fun hbytes => ?_⟩
  exact absurd (hread.2.2.2 _ 4 (by decide) hbytes).2 (by decide)

end LoadDispatch.Http
