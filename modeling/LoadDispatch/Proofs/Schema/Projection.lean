import LoadDispatch.Schema.Payload
import Mathlib.Data.List.Lattice
import Mathlib.Data.List.Nodup
import Mathlib.Data.List.Pairwise
import Mathlib.Logic.Relation

/-!
# Reading a payload is a projection

A payload that has been read can be written in two ways, with the names of this library or with
those of the services, and either is read to the very same payload.  A value that is read is
therefore its own normal form: what was taken for an integer is an integer now, and what was missing
is there.

Much of a value does not count for its reading at all.  A `Shape` is the tree of the fields of a
schema, and a `Shape.Edit` changes one member of one object in what the shape does not look at: a
member that is no field's, or the member under a field's own name while the services' name is there
too.  The object may be inside another one.  No number of edits is seen by a reader of that shape
(`Shape.Governs.unseen`), be the value accepted or refused.

`payloads_are_projections` says both of all five payloads.
-/

namespace LoadDispatch.Schema

variable {α β : Type}

/-! ## Shapes and edits -/

/-- What a schema looks at: a scalar, or the fields of an object with what each looks at. -/
inductive Shape where
  /-- A scalar. -/
  | scalar
  /-- An object with fields. -/
  | object (fields : List (Field × Shape))

/-- The keys under which a field is found. -/
def Field.keys (f : Field) : List String :=
  f.wireName.toList ++ [f.name]

/-- No key has two fields, and no field has the same key twice. -/
def Separate (fields : List (Field × Shape)) : Prop :=
  (fields.flatMap fun field => field.1.keys).Nodup

instance (fields : List (Field × Shape)) : Decidable (Separate fields) :=
  inferInstanceAs (Decidable (List.Nodup _))

/-- Two objects have the same members, the one under `key` apart, which either may lack. -/
def DifferAt (key : String) (members members' : List (String × Json)) : Prop :=
  ∀ other, other ≠ key → Json.member? members' other = Json.member? members other

/-- A value is changed in one place that its shape does not look at. -/
inductive Shape.Edit : Shape → Json → Json → Prop where
  /-- A member that is no field's is added, changed or left out. -/
  | foreign {fields : List (Field × Shape)} {key : String} {members members' : List (String × Json)}
      (unknown : ∀ field ∈ fields, key ∉ field.1.keys) (differ : DifferAt key members members') :
      Edit (.object fields) (.obj members) (.obj members')
  /-- The member under a field's own name is added, changed or left out, while there is one under
  the name that the services use. -/
  | shadowed {fields : List (Field × Shape)} {field : Field × Shape} {wireName : String}
      {members members' : List (String × Json)} (known : field ∈ fields)
      (named : field.1.wireName = some wireName)
      (there : (Json.member? members wireName).isSome = true)
      (differ : DifferAt field.1.name members members') :
      Edit (.object fields) (.obj members) (.obj members')
  /-- The value of a field is changed in such a place. -/
  | inside {fields : List (Field × Shape)} {field : Field × Shape} {key : String}
      {members members' : List (String × Json)} {j j' : Json} (known : field ∈ fields)
      (named : key ∈ field.1.keys) (before : Json.member? members key = some j)
      (after : Json.member? members' key = some j') (differ : DifferAt key members members')
      (edit : Edit field.2 j j') :
      Edit (.object fields) (.obj members) (.obj members')

/-- A value is changed any number of times in places that its shape does not look at. -/
abbrev Shape.Edits (shape : Shape) : Json → Json → Prop :=
  Relation.ReflTransGen shape.Edit

/-- A reader looks at no more than a shape. -/
def Shape.Governs (shape : Shape) (read : Json → β) : Prop :=
  ∀ ⦃j j'⦄, shape.Edit j j' → read j' = read j

/-- No number of edits is seen. -/
theorem Shape.Governs.unseen {shape : Shape} {read : Json → β} (h : shape.Governs read)
    {j j' : Json} (hedits : shape.Edits j j') : read j' = read j := by
  induction hedits with
  | refl => rfl
  | tail _ edit ih => rw [h edit, ih]

/-- A scalar has no place that does not count. -/
theorem Shape.governs_scalar (read : Json → β) : Shape.scalar.Governs read := by
  intro j j' hedit
  cases hedit

/-! ## Fields behind an edit -/

section Find

variable {f : Field} {key : String} {members members' : List (String × Json)}

theorem Field.mem_keys : key ∈ f.keys ↔ f.wireName = some key ∨ f.name = key := by
  cases h : f.wireName <;> simp [Field.keys, h, eq_comm]

/-- What the services call a field is not its own name. -/
theorem Separate.wireName_ne {fields : List (Field × Shape)} (h : Separate fields)
    {field : Field × Shape} (hfield : field ∈ fields) {wireName : String}
    (hwire : field.1.wireName = some wireName) : wireName ≠ field.1.name := by
  have hkeys : field.1.keys.Nodup := (List.nodup_flatMap.mp h).1 field hfield
  simpa [Field.keys, hwire] using hkeys

/-- Two fields are the same if they have a key in common. -/
theorem Separate.eq_of_key {fields : List (Field × Shape)} (h : Separate fields)
    {a b : Field × Shape} (ha : a ∈ fields) (hb : b ∈ fields) (hkey : key ∈ a.1.keys)
    (hkey' : key ∈ b.1.keys) : a = b := by
  have : Std.Symm (Function.onFun List.Disjoint fun field : Field × Shape => field.1.keys) :=
    ⟨fun _ _ hdisjoint => List.Disjoint.symm hdisjoint⟩
  by_contra hne
  exact (List.nodup_flatMap.mp h).2.forall ha hb hne hkey hkey'

/-- A field is found as before if the members under its keys are as before. -/
theorem Field.find?_congr
    (h : ∀ key ∈ f.keys, Json.member? members' key = Json.member? members key) :
    f.find? members' = f.find? members := by
  have hname : Json.member? members' f.name = Json.member? members f.name :=
    h _ (Field.mem_keys.mpr (.inr rfl))
  unfold Field.find?
  cases hwire : f.wireName with
  | none => simp [hname]
  | some wireName => simp [hname, h _ (Field.mem_keys.mpr (.inl hwire))]

/-- A change elsewhere does not matter to a field. -/
theorem Field.find?_of_differAt (hdiffer : DifferAt key members members') (hkey : key ∉ f.keys) :
    f.find? members' = f.find? members :=
  Field.find?_congr fun other hother => hdiffer other fun heq => hkey (heq ▸ hother)

/-- What is under the services' name is found. -/
theorem Field.find?_of_wireName {wireName : String} {j : Json} (hwire : f.wireName = some wireName)
    (hj : Json.member? members wireName = some j) : f.find? members = some (wireName, j) := by
  simp [Field.find?, hwire, hj]

/-- What is under the field's own name is found, unless there is something under the other. -/
theorem Field.find?_of_name (hwire : ∀ key ∈ f.wireName, Json.member? members key = none) :
    f.find? members = (Json.member? members f.name).map (f.name, ·) := by
  cases h : f.wireName with
  | none => simp [Field.find?, h]
  | some wireName => simp [Field.find?, h, hwire wireName h]

/-- What a field finds in an object and in an edited one. -/
inductive Found (shape : Shape) : Option (String × Json) → Option (String × Json) → Prop where
  /-- The same. -/
  | same (found : Option (String × Json)) : Found shape found found
  /-- An edited value. -/
  | edited (key : String) {j j' : Json} (edit : shape.Edit j j') :
      Found shape (some (key, j)) (some (key, j'))

/-- The value of a field is edited under one of its keys. -/
theorem Found.of_inside {shape : Shape} {j j' : Json} (hkey : key ∈ f.keys)
    (hbefore : Json.member? members key = some j) (hafter : Json.member? members' key = some j')
    (hdiffer : DifferAt key members members') (hedit : shape.Edit j j') :
    Found shape (f.find? members) (f.find? members') := by
  by_cases hwire : f.wireName = some key
  · rw [Field.find?_of_wireName hwire hbefore, Field.find?_of_wireName hwire hafter]
    exact .edited key hedit
  · have hname : f.name = key := (Field.mem_keys.mp hkey).resolve_left hwire
    -- Under its own name the value counts only if there is nothing under the other name.
    cases hother : f.wireName.bind (Json.member? members) with
    | some value =>
        obtain ⟨wireName, hwireName, hvalue⟩ := Option.bind_eq_some_iff.mp hother
        have hne : wireName ≠ key := fun heq => hwire (heq ▸ hwireName)
        rw [Field.find?_of_wireName hwireName hvalue,
          Field.find?_of_wireName hwireName ((hdiffer wireName hne).trans hvalue)]
        exact .same _
    | none =>
        have hnone : ∀ other ∈ f.wireName, Json.member? members other = none :=
          Option.bind_eq_none_iff.mp hother
        have hnone' : ∀ other ∈ f.wireName, Json.member? members' other = none := by
          intro other hmem
          rw [hdiffer other fun heq => hwire (heq ▸ hmem)]
          exact hnone other hmem
        rw [Field.find?_of_name hnone, Field.find?_of_name hnone', hname, hbefore, hafter]
        exact .edited key hedit

/-- Every field of an edited object finds what it found, or the same edited. -/
theorem Shape.Edit.found {fields : List (Field × Shape)} (hseparate : Separate fields)
    (hedit : (Shape.object fields).Edit (.obj members) (.obj members')) {field : Field × Shape}
    (hfield : field ∈ fields) :
    Found field.2 (field.1.find? members) (field.1.find? members') := by
  cases hedit with
  | foreign unknown differ =>
      rw [Field.find?_of_differAt differ (unknown field hfield)]
      exact .same _
  | @shadowed _ other wireName _ _ known named there differ =>
      by_cases hkey : other.1.name ∈ field.1.keys
      · obtain rfl := hseparate.eq_of_key hfield known hkey (Field.mem_keys.mpr (.inr rfl))
        obtain ⟨j, hj⟩ := Option.isSome_iff_exists.mp there
        have hj' := (differ wireName (hseparate.wireName_ne hfield named)).trans hj
        rw [Field.find?_of_wireName named hj, Field.find?_of_wireName named hj']
        exact .same _
      · rw [Field.find?_of_differAt differ hkey]
        exact .same _
  | @inside _ other key _ _ j j' known named before after differ edit =>
      by_cases hkey : key ∈ field.1.keys
      · obtain rfl := hseparate.eq_of_key hfield known hkey named
        exact .of_inside named before after differ edit
      · rw [Field.find?_of_differAt differ hkey]
        exact .same _

end Find

/-! ## Readers behind an edit -/

section Readers

variable {f : Field} {shape : Shape} {members members' : List (String × Json)}
  {read : Json → Reading α}

theorem Field.required_congr (h : shape.Governs read)
    (hfound : Found shape (f.find? members) (f.find? members')) :
    f.required read members' = f.required read members := by
  unfold Field.required
  generalize f.find? members = found, f.find? members' = found' at hfound
  cases hfound with
  | same => rfl
  | edited key edit => simp [h edit]

theorem Field.optional_congr {default : α} (h : shape.Governs read)
    (hfound : Found shape (f.find? members) (f.find? members')) :
    f.optional default read members' = f.optional default read members := by
  unfold Field.optional
  generalize f.find? members = found, f.find? members' = found' at hfound
  cases hfound with
  | same => rfl
  | edited key edit => simp [h edit]

/-- The reader of an object looks at no more than its fields do. -/
theorem Shape.governs_object {fields : List (Field × Shape)} (hseparate : Separate fields)
    {read : List (String × Json) → Reading α}
    (h : ∀ {members members'}, (∀ field ∈ fields,
      Found field.2 (field.1.find? members) (field.1.find? members')) →
        read members' = read members) :
    (Shape.object fields).Governs (readObject read) := by
  intro j j' hedit
  have hfound {members members'}
      (hedit : (Shape.object fields).Edit (.obj members) (.obj members')) :
      read members' = read members := h fun _ hfield => hedit.found hseparate hfield
  cases hedit with
  | foreign unknown differ => exact hfound (.foreign unknown differ)
  | shadowed known named there differ => exact hfound (.shadowed known named there differ)
  | inside known named before after differ edit =>
      exact hfound (.inside known named before after differ edit)

end Readers

/-! ## Values that were read -/

section Values

variable {ε : Type} {f : Field} {key : String} {members : List (String × Json)} {a default : α}
  {j : Json}

/-- What was read is read again from its written form. -/
def Normalizes (read : Json → Except ε α) (write : α → Json) : Prop :=
  ∀ ⦃j a⦄, read j = .ok a → read (write a) = .ok a

theorem normalizes_readText : Normalizes readText .str := fun _ _ _ => rfl

theorem normalizes_readTruth : Normalizes readTruth .bool := fun _ _ _ => rfl

theorem normalizes_readWhole : Normalizes readWhole .int := fun _ _ _ => rfl

theorem atLeast_eq_ok_iff {least n : Int} {read : Json → Except Rule Int} :
    atLeast least read j = .ok n ↔ read j = .ok n ∧ least ≤ n := by
  unfold atLeast
  cases read j with
  | error rule => simp
  | ok m => by_cases h : m < least <;> simp [h] <;> omega

theorem atMost_eq_ok_iff {greatest n : Int} {read : Json → Except Rule Int} :
    atMost greatest read j = .ok n ↔ read j = .ok n ∧ n ≤ greatest := by
  unfold atMost
  cases read j with
  | error rule => simp
  | ok m => by_cases h : greatest < m <;> simp [h] <;> omega

theorem Normalizes.atLeast {read : Json → Except Rule Int} (h : Normalizes read .int)
    (least : Int) : Normalizes (Schema.atLeast least read) .int := by
  intro j n hread
  rw [atLeast_eq_ok_iff] at hread ⊢
  exact ⟨h hread.1, hread.2⟩

theorem Normalizes.atMost {read : Json → Except Rule Int} (h : Normalizes read .int)
    (greatest : Int) : Normalizes (Schema.atMost greatest read) .int := by
  intro j n hread
  rw [atMost_eq_ok_iff] at hread ⊢
  exact ⟨h hread.1, hread.2⟩

@[simp] theorem Reading.ofScalar_eq_ok_iff {x : Except Rule α} :
    Reading.ofScalar x = .ok a ↔ x = .ok a := by
  cases x <;> simp [Reading.ofScalar]

@[simp] theorem Reading.under_eq_ok_iff {step : Step} {x : Reading α} :
    x.under step = .ok a ↔ x = .ok a := by
  cases x <;> simp [Reading.under]

@[simp] theorem Reading.titled_eq_ok_iff {title : String} {x : Reading α} :
    x.titled title = .ok a ↔ x = .ok a := by
  cases x <;> simp [Reading.titled]

theorem readObject_eq_ok_iff {read : List (String × Json) → Reading α} :
    readObject read j = .ok a ↔ ∃ members, j = .obj members ∧ read members = .ok a := by
  cases j <;> simp [readObject]

theorem Normalizes.ofScalar {read : Json → Except Rule α} {write : α → Json}
    (h : Normalizes read write) : Normalizes (Reading.ofScalar ∘ read) write := by
  intro j a hread
  rw [Function.comp, Reading.ofScalar_eq_ok_iff] at hread ⊢
  exact h hread

variable {read : Json → Reading α} {write : α → Json}

theorem Field.required_eq_ok_iff : f.required read members = .ok a ↔
    ∃ key j, f.find? members = some (key, j) ∧ read j = .ok a := by
  unfold Field.required
  rcases f.find? members with _ | ⟨key, j⟩ <;> simp

theorem Field.optional_eq_ok_iff : f.optional default read members = .ok a ↔
    (∃ key j, f.find? members = some (key, j) ∧ read j = .ok a) ∨
      f.find? members = none ∧ default = a := by
  unfold Field.optional
  rcases f.find? members with _ | ⟨key, j⟩ <;> simp

/-- A field that has to be there is read again from its written value. -/
theorem Normalizes.required (h : Normalizes read write) (hread : f.required read members = .ok a) :
    read (write a) = .ok a := by
  obtain ⟨_, _, -, hread⟩ := Field.required_eq_ok_iff.mp hread
  exact h hread

/-- A field that may be missing too, if its default passes as a value of the field. -/
theorem Normalizes.optional (h : Normalizes read write)
    (hdefault : read (write default) = .ok default)
    (hread : f.optional default read members = .ok a) : read (write a) = .ok a := by
  rcases Field.optional_eq_ok_iff.mp hread with ⟨_, _, -, hread⟩ | ⟨-, rfl⟩
  · exact h hread
  · exact hdefault

end Values

/-! ## Projections -/

/-- A payload is read from either of its written forms, and places that its shape does not look at
are not seen in reading it. -/
structure IsProjection (shape : Shape) (read : Json → Except Report α) (write : Bool → α → Json) :
    Prop where
  /-- What was read is read again as it is written, under either names. -/
  reread : ∀ ⦃j a⦄, read j = .ok a → ∀ onWire, read (write onWire a) = .ok a
  /-- The answer of the reader is the same behind any number of edits. -/
  unseen : ∀ ⦃j j'⦄, shape.Edits j j' → read j' = read j

/-- A payload is a projection if its object is. -/
theorem isProjection_of_object {shape : Shape} {readMembers : List (String × Json) → Reading α}
    {write : Bool → α → Json} (title : String) (hshape : shape.Governs (readObject readMembers))
    (hwrite : ∀ onWire, Normalizes (readObject readMembers) (write onWire)) :
    IsProjection shape (fun j => (readObject readMembers j).titled title) write where
  reread := by
    intro j a hread onWire
    rw [Reading.titled_eq_ok_iff] at hread ⊢
    exact hwrite onWire hread
  unseen := by
    intro j j' hedits
    rw [hshape.unseen hedits]

namespace FileStatusPayload

/-- The shape of the status of a file. -/
def shape : Shape :=
  .object [(path, .scalar), (folder, .scalar), (residency, .scalar), (length, .scalar)]

theorem readMembers_eq_ok_iff {members : List (String × Json)} {f : FileStatus} :
    readMembers members = .ok f ↔
      path.required (.ofScalar ∘ readText) members = .ok f.path ∧
      folder.optional false (.ofScalar ∘ readTruth) members = .ok f.folder ∧
      residency.optional 0 (.ofScalar ∘ atLeast 0 (atMost 100 readWhole)) members =
        .ok f.residency ∧
      length.optional 0 (.ofScalar ∘ atLeast 0 readWhole) members = .ok f.length := by
  unfold readMembers
  dsimp only
  rw [← Reading.pair_eq_ok_iff, ← Reading.pair_eq_ok_iff, ← Reading.pair_eq_ok_iff]
  split
  · rename_i heq
    rw [heq]
    cases f
    simp
  · rename_i heq
    rw [heq]
    simp

theorem governs : shape.Governs (readObject readMembers) := by
  refine Shape.governs_object (by decide) fun hfound => ?_
  unfold readMembers
  rw [Field.required_congr (Shape.governs_scalar _) (hfound (path, .scalar) (by simp)),
    Field.optional_congr (Shape.governs_scalar _) (hfound (folder, .scalar) (by simp)),
    Field.optional_congr (Shape.governs_scalar _) (hfound (residency, .scalar) (by simp)),
    Field.optional_congr (Shape.governs_scalar _) (hfound (length, .scalar) (by simp))]

theorem normalizes (onWire : Bool) : Normalizes (readObject readMembers) (write onWire) := by
  intro j f hread
  obtain ⟨members, -, hmembers⟩ := readObject_eq_ok_iff.mp hread
  obtain ⟨hpath, hfolder, hresidency, hlength⟩ := readMembers_eq_ok_iff.mp hmembers
  have hpath' := normalizes_readText.ofScalar.required hpath
  have hfolder' := normalizes_readTruth.ofScalar.optional rfl hfolder
  have hresidency' :=
    ((normalizes_readWhole.atMost 100).atLeast 0).ofScalar.optional rfl hresidency
  have hlength' := (normalizes_readWhole.atLeast 0).ofScalar.optional rfl hlength
  rw [write, readObject, readMembers_eq_ok_iff]
  simp only [Field.required_eq_ok_iff, Field.optional_eq_ok_iff]
  cases onWire <;> exact ⟨⟨_, _, rfl, hpath'⟩, .inl ⟨_, _, rfl, hfolder'⟩,
    .inl ⟨_, _, rfl, hresidency'⟩, .inl ⟨_, _, rfl, hlength'⟩⟩

end FileStatusPayload

namespace LoadJobPayload

/-- The shape of a job. -/
def shape : Shape :=
  .object [(typeField, .scalar), (filePathField, .scalar), (replicationField, .scalar)]

theorem readMembers_eq_ok_iff {members : List (String × Json)} {p : LoadJobPayload} :
    readMembers members = .ok p ↔
      typeField.optional "load" (.ofScalar ∘ readText) members = .ok p.type ∧
      filePathField.required (.ofScalar ∘ readText) members = .ok p.filePath ∧
      replicationField.required (.ofScalar ∘ atLeast 1 readWhole) members = .ok p.replication := by
  unfold readMembers
  dsimp only
  rw [← Reading.pair_eq_ok_iff, ← Reading.pair_eq_ok_iff]
  split
  · rename_i heq
    rw [heq]
    cases p
    simp
  · rename_i heq
    rw [heq]
    simp

theorem governs : shape.Governs (readObject readMembers) := by
  refine Shape.governs_object (by decide) fun hfound => ?_
  unfold readMembers
  rw [Field.optional_congr (Shape.governs_scalar _) (hfound (typeField, .scalar) (by simp)),
    Field.required_congr (Shape.governs_scalar _) (hfound (filePathField, .scalar) (by simp)),
    Field.required_congr (Shape.governs_scalar _) (hfound (replicationField, .scalar) (by simp))]

theorem normalizes (onWire : Bool) : Normalizes (readObject readMembers) (write onWire) := by
  intro j p hread
  obtain ⟨members, -, hmembers⟩ := readObject_eq_ok_iff.mp hread
  obtain ⟨htype, hfilePath, hreplication⟩ := readMembers_eq_ok_iff.mp hmembers
  have htype' := normalizes_readText.ofScalar.optional rfl htype
  have hfilePath' := normalizes_readText.ofScalar.required hfilePath
  have hreplication' := (normalizes_readWhole.atLeast 1).ofScalar.required hreplication
  rw [write, readObject, readMembers_eq_ok_iff]
  simp only [Field.required_eq_ok_iff, Field.optional_eq_ok_iff]
  cases onWire <;>
    exact ⟨.inl ⟨_, _, rfl, htype'⟩, ⟨_, _, rfl, hfilePath'⟩, ⟨_, _, rfl, hreplication'⟩⟩

end LoadJobPayload

namespace SubmissionPayload

/-- The shape of a submission. -/
def shape : Shape :=
  .object [(jobField, LoadJobPayload.shape)]

theorem readMembers_eq_ok_iff {members : List (String × Json)} {p : SubmissionPayload} :
    readMembers members = .ok p ↔
      jobField.required (readObject LoadJobPayload.readMembers) members = .ok p.job := by
  unfold readMembers
  cases p
  split <;> rename_i heq <;> rw [heq] <;> simp

theorem governs : shape.Governs (readObject readMembers) := by
  refine Shape.governs_object (by decide) fun hfound => ?_
  unfold readMembers
  rw [Field.required_congr LoadJobPayload.governs
    (hfound (jobField, LoadJobPayload.shape) (by simp))]

theorem normalizes (onWire : Bool) : Normalizes (readObject readMembers) (write onWire) := by
  intro j p hread
  obtain ⟨members, -, hmembers⟩ := readObject_eq_ok_iff.mp hread
  have hjob := (LoadJobPayload.normalizes onWire).required (readMembers_eq_ok_iff.mp hmembers)
  rw [write, readObject, readMembers_eq_ok_iff, Field.required_eq_ok_iff]
  cases onWire <;> exact ⟨_, _, rfl, hjob⟩

end SubmissionPayload

namespace SubmittedPayload

/-- The shape of the answer to a submission. -/
def shape : Shape :=
  .object [(jobIdField, .scalar)]

theorem readMembers_eq_ok_iff {members : List (String × Json)} {p : SubmittedPayload} :
    readMembers members = .ok p ↔
      jobIdField.required (.ofScalar ∘ readWhole) members = .ok p.jobId := by
  unfold readMembers
  cases p
  split <;> rename_i heq <;> rw [heq] <;> simp

theorem governs : shape.Governs (readObject readMembers) := by
  refine Shape.governs_object (by decide) fun hfound => ?_
  unfold readMembers
  rw [Field.required_congr (Shape.governs_scalar _) (hfound (jobIdField, .scalar) (by simp))]

theorem normalizes (onWire : Bool) : Normalizes (readObject readMembers) (write onWire) := by
  intro j p hread
  obtain ⟨members, -, hmembers⟩ := readObject_eq_ok_iff.mp hread
  have hjobId := normalizes_readWhole.ofScalar.required (readMembers_eq_ok_iff.mp hmembers)
  rw [write, readObject, readMembers_eq_ok_iff, Field.required_eq_ok_iff]
  cases onWire <;> exact ⟨_, _, rfl, hjobId⟩

end SubmittedPayload

namespace JobStatusPayload

/-- The shape of the answer to a status query. -/
def shape : Shape :=
  .object [(jobIdField, .scalar), (statusField, .scalar)]

theorem readMembers_eq_ok_iff {members : List (String × Json)} {p : JobStatusPayload} :
    readMembers members = .ok p ↔
      jobIdField.required (.ofScalar ∘ readWhole) members = .ok p.jobId ∧
      statusField.required (.ofScalar ∘ readText) members = .ok p.status := by
  unfold readMembers
  dsimp only
  rw [← Reading.pair_eq_ok_iff]
  cases p
  split <;> rename_i heq <;> rw [heq] <;> simp

theorem governs : shape.Governs (readObject readMembers) := by
  refine Shape.governs_object (by decide) fun hfound => ?_
  unfold readMembers
  rw [Field.required_congr (Shape.governs_scalar _) (hfound (jobIdField, .scalar) (by simp)),
    Field.required_congr (Shape.governs_scalar _) (hfound (statusField, .scalar) (by simp))]

theorem normalizes (onWire : Bool) : Normalizes (readObject readMembers) (write onWire) := by
  intro j p hread
  obtain ⟨members, -, hmembers⟩ := readObject_eq_ok_iff.mp hread
  obtain ⟨hjobId, hstatus⟩ := readMembers_eq_ok_iff.mp hmembers
  have hjobId' := normalizes_readWhole.ofScalar.required hjobId
  have hstatus' := normalizes_readText.ofScalar.required hstatus
  rw [write, readObject, readMembers_eq_ok_iff]
  simp only [Field.required_eq_ok_iff]
  cases onWire <;> exact ⟨⟨_, _, rfl, hjobId'⟩, ⟨_, _, rfl, hstatus'⟩⟩

end JobStatusPayload

/-- **The five payloads are projections**: what is read is read again from both of its written
forms, and neither foreign members nor members in the shadow of the services' names are seen. -/
theorem payloads_are_projections :
    IsProjection FileStatusPayload.shape FileStatusPayload.read FileStatusPayload.write ∧
    IsProjection LoadJobPayload.shape LoadJobPayload.read LoadJobPayload.write ∧
    IsProjection SubmissionPayload.shape SubmissionPayload.read SubmissionPayload.write ∧
    IsProjection SubmittedPayload.shape SubmittedPayload.read SubmittedPayload.write ∧
    IsProjection JobStatusPayload.shape JobStatusPayload.read JobStatusPayload.write :=
  ⟨isProjection_of_object _ FileStatusPayload.governs FileStatusPayload.normalizes,
    isProjection_of_object _ LoadJobPayload.governs LoadJobPayload.normalizes,
    isProjection_of_object _ SubmissionPayload.governs SubmissionPayload.normalizes,
    isProjection_of_object _ SubmittedPayload.governs SubmittedPayload.normalizes,
    isProjection_of_object _ JobStatusPayload.governs JobStatusPayload.normalizes⟩

end LoadDispatch.Schema
