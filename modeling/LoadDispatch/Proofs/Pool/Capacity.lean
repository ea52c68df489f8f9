import LoadDispatch.Proofs.Pool.Ownership
import Mathlib.Data.List.Perm.Subperm

/-!
# Capacity at every moment

A pool is told how many attempts it may have in flight, and keeps to it at every moment of a run
and not only between operations.  A moment is a beginning of the events: what is in flight then is
the number that was told last (`inFlightAfter`), and the sessions that are open then are those
opened and not closed yet (`openAfter`).  As everywhere, a session whose closing failed counts as
closed.

The two numbers are bounded for different reasons.

* Waiting, draining, closing and calling never tell a number above the one they began with
  (`Shrinks`), so only an opening can raise it.
* An open session belongs to an attempt in flight, so there are no more of them.

An opening comes only when the pool is not full: at once, or behind a wait that has returned, and
such a wait has taken somebody out (`Waits.length_lt`).
-/

namespace LoadDispatch

/-- The sessions that are open after events. -/
def openAfter (events : List Event) : List Session :=
  (openedIn events).filter fun s => closings s events = 0

/-- How many attempts are in flight after an event, if there were `n` before it. -/
def Event.inFlight (n : Nat) : Event → Nat
  | .told (.inFlight count) => count
  | _ => n

/-- How many attempts are in flight after events, if there were `n` before them. -/
def inFlightAfter (n : Nat) (events : List Event) : Nat :=
  events.foldl Event.inFlight n

section Moments

variable {n m : Nat} {e : Event} {xs ys events : List Event}

@[simp] theorem inFlightAfter_cons :
    inFlightAfter n (e :: xs) = inFlightAfter (e.inFlight n) xs := rfl

@[simp] theorem inFlightAfter_append :
    inFlightAfter n (xs ++ ys) = inFlightAfter (inFlightAfter n xs) ys :=
  List.foldl_append

/-- An event tells a number, or leaves it as it is. -/
theorem Event.inFlight_told_or_kept (e : Event) :
    (∃ count, ∀ n, e.inFlight n = count) ∨ ∀ n, e.inFlight n = n := by
  cases e with
  | told notice =>
      cases notice with
      | inFlight count => exact .inl ⟨count, fun _ => rfl⟩
      | _ => exact .inr fun _ => rfl
  | _ => exact .inr fun _ => rfl

/-- An event that tells no more than `m` leads from below a bound above `m` to below it. -/
theorem Event.inFlight_le {k : Nat} (h : e.inFlight m ≤ m) (hm : m ≤ n) (hk : k ≤ n) :
    e.inFlight k ≤ n := by
  rcases e.inFlight_told_or_kept with ⟨count, htold⟩ | hkept
  · rw [htold] at h ⊢
    exact h.trans hm
  · rwa [hkept]

theorem inFlightAfter_le (h : ∀ e ∈ xs, e.inFlight n ≤ n) {k : Nat} (hk : k ≤ n) :
    inFlightAfter k xs ≤ n := by
  induction xs generalizing k with
  | nil => exact hk
  | cons e rest ih =>
      rw [List.forall_mem_cons] at h
      exact ih h.2 (Event.inFlight_le h.1 (Nat.le_refl n) hk)

theorem Event.Plain.inFlight_eq (h : e.Plain) (n : Nat) : e.inFlight n = n := by
  cases e with
  | told notice =>
      cases notice with
      | inFlight => exact h.elim
      | _ => rfl
  | _ => rfl

theorem Event.Plain.asked?_eq_none (h : e.Plain) : e.asked? = none := by
  cases e with
  | opened => exact h.elim
  | _ => rfl

/-- One event closes sessions, or opens the one that it shows. -/
theorem length_openAfter_concat_le :
    (openAfter (xs ++ [e])).length ≤ (openAfter xs).length + e.opened?.toList.length := by
  have hsub : (openAfter (xs ++ [e])).Sublist (openAfter xs ++ e.opened?.toList) := by
    rw [openAfter, openedIn_append, openedIn_cons, openedIn_nil, List.append_nil,
      List.filter_append]
    refine List.Sublist.append ?_ List.filter_sublist
    -- What is not closed in the end was not closed before.
    refine List.monotone_filter_right _ fun s hs => ?_
    rw [decide_eq_true_eq] at hs ⊢
    rw [closings, callsOn_append, List.countP_append] at hs
    exact (Nat.add_eq_zero_iff.mp hs).1
  simpa using hsub.length_le

/-! ## The bound -/

/-- At every moment of the events no more are in flight, and no more sessions open, than the
capacity allows; and when a session is asked for, there is room for it. -/
structure WithinCapacity (capacity : Nat) (events : List Event) : Prop where
  /-- The attempts in flight. -/
  inFlight : ∀ xs, xs <+: events → inFlightAfter 0 xs ≤ capacity
  /-- The open sessions. -/
  sessions : ∀ xs, xs <+: events → (openAfter xs).length ≤ capacity
  /-- There is room for a session that is asked for. -/
  room : ∀ xs session answer, xs ++ [.opened session answer] <+: events →
    (openAfter xs).length < capacity

namespace WithinCapacity

variable {capacity : Nat}

theorem nil (capacity : Nat) : WithinCapacity capacity [] := by
  refine ⟨?_, ?_, ?_⟩
  · intro xs hxs
    rw [List.prefix_nil.mp hxs]
    exact Nat.zero_le _
  · intro xs hxs
    rw [List.prefix_nil.mp hxs]
    exact Nat.zero_le _
  · intro xs session answer hxs
    exact absurd (List.prefix_nil.mp hxs) (by simp)

/-- One event more, with room for what it opens. -/
theorem concat (h : WithinCapacity capacity xs) (hin : (inFlightAfter 0 (xs ++ [e])) ≤ capacity)
    (hroom : ∀ session answer, e = .opened session answer → (openAfter xs).length < capacity) :
    WithinCapacity capacity (xs ++ [e]) := by
  have hopen : (openAfter (xs ++ [e])).length ≤ capacity := by
    have hle : (openAfter (xs ++ [e])).length ≤
        (openAfter xs).length + e.opened?.toList.length := length_openAfter_concat_le
    have hbefore := h.sessions xs (List.prefix_refl xs)
    cases e with
    | opened session answer =>
        have hlt := hroom session answer rfl
        have hone : (Event.opened session answer).opened?.toList.length ≤ 1 := by
          cases answer <;> simp [Event.opened?]
        omega
    | _ => exact Nat.le_trans hle hbefore
  refine ⟨?_, ?_, ?_⟩
  · intro ys hys
    rcases List.prefix_concat_iff.mp hys with rfl | hys
    · exact hin
    · exact h.inFlight ys hys
  · intro ys hys
    rcases List.prefix_concat_iff.mp hys with rfl | hys
    · exact hopen
    · exact h.sessions ys hys
  · intro ys session answer hys
    rcases List.prefix_concat_iff.mp hys with heq | hys
    · obtain ⟨rfl, hlast⟩ := List.append_inj' heq rfl
      exact hroom session answer (List.singleton_inj.mp hlast).symm
    · exact h.room ys session answer hys

/-- Any number of events that ask for no session and tell no more than the capacity. -/
theorem append (h : WithinCapacity capacity xs) (hasked : ∀ e ∈ ys, e.asked? = none)
    (hin : ∀ e ∈ ys, e.inFlight capacity ≤ capacity) : WithinCapacity capacity (xs ++ ys) := by
  induction ys generalizing xs with
  | nil => simpa using h
  | cons e rest ih =>
      rw [List.forall_mem_cons] at hasked hin
      rw [List.append_cons]
      refine ih (h.concat ?_ ?_) hasked.2 hin.2
      · rw [inFlightAfter_append]
        exact Event.inFlight_le hin.1 (Nat.le_refl _) (h.inFlight xs (List.prefix_refl xs))
      · rintro session answer rfl
        cases hasked.1

end WithinCapacity

/-! ## What never raises the number in flight -/

/-- The events ask for no session, and lead the number in flight from `n` to `m` without ever
telling more than `n`. -/
structure Shrinks (n : Nat) (events : List Event) (m : Nat) : Prop where
  /-- No session is asked for. -/
  asked : ∀ e ∈ events, e.asked? = none
  /-- No number above `n` is told. -/
  bound : ∀ e ∈ events, e.inFlight n ≤ n
  /-- The last number is `m`. -/
  last : inFlightAfter n events = m

namespace Shrinks

variable {k : Nat}

theorem nil (n : Nat) : Shrinks n [] n :=
  ⟨by simp, by simp, rfl⟩

theorem le (h : Shrinks n xs m) : m ≤ n :=
  h.last ▸ inFlightAfter_le h.bound (Nat.le_refl n)

theorem append (h : Shrinks n xs m) (h' : Shrinks m ys k) : Shrinks n (xs ++ ys) k := by
  refine ⟨?_, ?_, ?_⟩
  · exact List.forall_mem_append.mpr ⟨h.asked, h'.asked⟩
  · refine List.forall_mem_append.mpr ⟨h.bound, fun e he => ?_⟩
    exact Event.inFlight_le (h'.bound e he) h.le (Nat.le_refl n)
  · rw [inFlightAfter_append, h.last, h'.last]

theorem single (hasked : e.asked? = none) (hle : e.inFlight n ≤ n) :
    Shrinks n [e] (e.inFlight n) :=
  ⟨by simpa using hasked, by simpa using hle, rfl⟩

/-- What attempts do by themselves tells no number. -/
theorem plain (h : ∀ e ∈ xs, e.Plain) : Shrinks n xs n := by
  induction xs with
  | nil => exact .nil n
  | cons e rest ih =>
      rw [List.forall_mem_cons] at h
      have hfirst := single (n := n) h.1.asked?_eq_none (h.1.inFlight_eq n).le
      rw [h.1.inFlight_eq n] at hfirst
      exact hfirst.append (ih h.2)

end Shrinks

end Moments

section Lists

variable {as : List Attempt} {events : List Event}

theorem length_sessionsOf (as : List Attempt) : (sessionsOf as).length = as.length :=
  List.length_map _

theorem AsksAll.plain {answers : List (Except Fault PolledStatus)}
    (h : AsksAll as events answers) : ∀ e ∈ events, e.Plain := by
  induction h with
  | nil => simp
  | cons hask _ ih => exact List.forall_mem_append.mpr ⟨hask.plain, ih⟩

theorem SettlesAll.plain {pairs : List (Attempt × PolledStatus)} {s : Sweep}
    (h : SettlesAll pairs events s) : ∀ e ∈ events, e.Plain := by
  induction h with
  | nil => simp
  | cons hset _ _ ih => exact List.forall_mem_append.mpr ⟨hset.plain, ih⟩
  | broken hset => exact hset.plain

end Lists

namespace Pool

variable {p q : Pool} {before events : List Event} {passes : Nat}

/-! ## Sweeps and waits -/

section Waiting

theorem ReleasesAll.plain {as released : List Attempt} {fault : Option Fault}
    (h : ReleasesAll as events fault released) : ∀ e ∈ events, e.Plain := by
  induction h with
  | nil => simp
  | @cons _ b _ _ _ _ answer _ hrel _ ih =>
      have hnotices : ∀ e ∈ releaseNotices b answer, e.Plain := by
        cases answer <;> simp [releaseNotices, Event.Plain]
      exact List.forall_mem_append.mpr ⟨hrel.plain, List.forall_mem_append.mpr ⟨hnotices, ih⟩⟩

theorem Sweeps.shrinks {answer : Except Fault Nat} (h : p.Sweeps events answer q) :
    Shrinks p.inFlight.length events q.inFlight.length := by
  have hle := h.among.2.length_le
  rw [length_sessionsOf, length_sessionsOf] at hle
  have hpass : Shrinks p.inFlight.length
      [.told (.pass (min p.limits.statusChecks p.pollable))] p.inFlight.length :=
    .single rfl (Nat.le_refl _)
  cases h with
  | refused hask => exact hpass.append (.plain hask.plain)
  | settled hask hset =>
      have hcalls := List.forall_mem_append.mpr ⟨hask.plain, hset.plain⟩
      exact hpass.append ((Shrinks.plain hcalls).append (.single rfl hle))

/-- A sweep that is not broken off answers how many attempts left. -/
theorem Sweeps.length_add {removed : Nat} (h : p.Sweeps events (.ok removed) q) :
    q.inFlight.length + removed = p.inFlight.length := by
  generalize hanswer : (.ok removed : Except Fault Nat) = answer at h
  cases h with
  | refused => cases hanswer
  | @settled _ _ statuses s hask hset =>
      have hfst : (p.inFlight.zip statuses).map Prod.fst = p.inFlight :=
        List.map_fst_zip (by rw [hask.length_eq, List.length_map])
      have hsessions := hset.sessions.length_eq
      rw [hfst, length_sessionsOf, length_sessionsOf, List.length_append, List.length_map]
        at hsessions
      have hremoved : removed = s.gone.length := by
        unfold Sweep.answer at hanswer
        split at hanswer
        · cases hanswer
        · exact Except.ok.inj hanswer
      rw [hremoved]
      exact hsessions

theorem Waits.shrinks {outcome : Outcome Nat} (h : Waits passes p events outcome q) :
    Shrinks p.inFlight.length events q.inFlight.length := by
  induction h with
  | tired p => exact .nil _
  | broken hsweep => exact hsweep.shrinks
  | freed hsweep => exact hsweep.shrinks
  | again hsweep _ ih =>
      exact hsweep.shrinks.append ((Shrinks.single rfl (Nat.le_refl _)).append ih)

/-- **A wait that returns has taken somebody out.** -/
theorem Waits.length_lt {removed : Nat} (h : Waits passes p events (.returned removed) q) :
    q.inFlight.length < p.inFlight.length := by
  generalize houtcome : Outcome.returned removed = outcome at h
  induction h with
  | tired | broken => cases houtcome
  | freed hsweep =>
      have hlen := hsweep.length_add
      omega
  | again hsweep _ ih =>
      have hlen := hsweep.length_add
      have hrest := ih houtcome
      omega

theorem WaitsForSlot.shrinks {outcome : Outcome Nat} (h : WaitsForSlot passes p events outcome q) :
    Shrinks p.inFlight.length events q.inFlight.length := by
  cases h with
  | idle => exact .nil _
  | waits _ hwaits => exact hwaits.shrinks

theorem WaitsForSlot.length_lt {removed : Nat}
    (h : WaitsForSlot passes p events (.returned removed) q) :
    q.inFlight.length < p.inFlight.length := by
  generalize houtcome : Outcome.returned removed = outcome at h
  cases h with
  | idle => cases houtcome
  | waits _ hwaits =>
      rw [← houtcome] at hwaits
      exact hwaits.length_lt

theorem Drains.shrinks {waits : Nat} {outcome : Outcome Unit}
    (h : Drains passes waits p events outcome q) :
    Shrinks p.inFlight.length events q.inFlight.length := by
  induction h with
  | done => exact .nil _
  | tired => exact .nil _
  | waited _ hwaits _ ih => exact hwaits.shrinks.append ih
  | broken _ hwaits => exact hwaits.shrinks
  | unfinished _ hwaits => exact hwaits.shrinks

theorem Closes.shrinks {answer : Except Fault Unit} (h : p.Closes events answer q) :
    Shrinks p.inFlight.length events q.inFlight.length := by
  obtain ⟨hrel⟩ := h
  have hempty : Shrinks p.inFlight.length [.told (.inFlight 0)] 0 := .single rfl (Nat.zero_le _)
  exact hempty.append (.plain hrel.plain)

theorem Calls.shrinks {session : Session} {c : Attempt.Call} (h : p.Calls session c events q) :
    Shrinks p.inFlight.length events q.inFlight.length := by
  cases h with
  | unknown => exact .nil _
  | @called a b _ _ _ hplain =>
      have hlen : (p.replace b).inFlight.length = p.inFlight.length := List.length_map _
      rw [hlen]
      exact .plain hplain

end Waiting

/-! ## Operations -/

/-- The events so far have kept to the capacity, and tell how many attempts are in flight. -/
structure Fits (events : List Event) (p : Pool) : Prop where
  /-- They have kept to the capacity. -/
  within : WithinCapacity p.limits.capacity events
  /-- The number that was told last is right. -/
  told : inFlightAfter 0 events = p.inFlight.length

namespace Fits

theorem initial (limits : PoolLimits) : Fits [] { limits } :=
  ⟨.nil _, rfl⟩

theorem length_le (f : Fits events p) : p.inFlight.length ≤ p.limits.capacity :=
  f.told ▸ f.within.inFlight events (List.prefix_refl events)

theorem shrinks (f : Fits before p) (hlimits : q.limits = p.limits)
    (h : Shrinks p.inFlight.length events q.inFlight.length) : Fits (before ++ events) q := by
  refine ⟨?_, ?_⟩
  · rw [hlimits]
    exact f.within.append h.asked fun e he =>
      Event.inFlight_le (h.bound e he) f.length_le (Nat.le_refl _)
  · rw [inFlightAfter_append, f.told, h.last]

end Fits

/-- There are no more open sessions than attempts in flight. -/
theorem Ledger.length_openAfter_le (l : Ledger events p) (hn : (openedIn events).Nodup) :
    (openAfter events).length ≤ p.inFlight.length := by
  have hsub : openAfter events ⊆ sessionsOf p.inFlight := by
    intro s hs
    obtain ⟨hopened, hopen⟩ := List.mem_filter.mp hs
    exact l.inFlight_of_open hopened (by simpa using hopen)
  rw [← length_sessionsOf]
  exact (List.Nodup.subperm (hn.filter _) hsub).length_le

/-- **An opening comes when there is room**: the pool is not full, so fewer sessions are open than
the capacity allows, and one attempt more may be in flight. -/
theorem Fits.place (f : Fits before p) (l : Ledger before p) (hn : (openedIn before).Nodup)
    (hroom : p.inFlight.length < p.limits.capacity) {config : JobConfig}
    {answer : Except Fault Attempt} (h : Places config p events answer q) :
    Fits (before ++ events) q := by
  have hopen := (l.length_openAfter_le hn).trans_lt hroom
  have hasked : ∀ session opening,
      WithinCapacity p.limits.capacity (before ++ [.opened session opening]) := by
    intro session opening
    refine f.within.concat ?_ fun _ _ _ => hopen
    rw [inFlightAfter_append, f.told]
    exact f.length_le
  -- Behind the opening, one more is in flight, and then the attempt submits its job.
  have hplaced : ∀ session more, (∀ e ∈ more, e.Plain) → ∀ a : Attempt,
      Fits (before ++ .opened session (.ok ()) :: .told (.inFlight (p.inFlight.length + 1)) :: more)
        { p with inFlight := p.inFlight ++ [a] } := by
    intro session more hplain a
    have hquiet := Shrinks.plain (n := p.inFlight.length + 1) hplain
    rw [List.append_cons]
    refine ⟨(hasked session _).append ?_ ?_, ?_⟩
    · exact List.forall_mem_cons.mpr ⟨rfl, hquiet.asked⟩
    · exact List.forall_mem_cons.mpr ⟨hroom, fun e he =>
        Event.inFlight_le (hquiet.bound e he) hroom (Nat.le_refl _)⟩
    · have hlast : inFlightAfter (p.inFlight.length + 1) more = (p.inFlight ++ [a]).length := by
        rw [hquiet.last, List.length_append, List.length_singleton]
      rw [inFlightAfter_append, inFlightAfter_cons]
      exact hlast
  cases h with
  | refused =>
      refine ⟨hasked _ _, ?_⟩
      rw [inFlightAfter_append, f.told]
      rfl
  | admitted hsub =>
      exact hplaced _ _ (List.forall_mem_append.mpr ⟨hsub.plain, by simp [Event.Plain]⟩) _
  | failed hsub => exact hplaced _ _ hsub.plain _

theorem length_lt_of_not_full (h : p.isFull = false) : p.inFlight.length < p.limits.capacity := by
  simpa [isFull] using h

theorem Fits.admits (f : Fits before p) (l : Ledger before p)
    (hn : (openedIn (before ++ events)).Nodup) {config : JobConfig} {outcome : Outcome Attempt}
    (h : Admits passes config p events outcome q) : Fits (before ++ events) q := by
  cases h with
  | atOnce hfull hplace =>
      exact f.place l (nodup_openedIn_left hn) (length_lt_of_not_full hfull) hplace
  | waited _ hwait hplace =>
      rw [← List.append_assoc] at hn ⊢
      have hn' := nodup_openedIn_left hn
      have hlimits := hwait.moves.limits_eq
      have hroom := hwait.length_lt.trans_le f.length_le
      rw [← hlimits] at hroom
      exact (f.shrinks hlimits hwait.shrinks).place (l.moves hwait.moves hn') hn' hroom hplace
  | broken _ hwait => exact f.shrinks hwait.moves.limits_eq hwait.shrinks
  | unfinished _ hwait => exact f.shrinks hwait.moves.limits_eq hwait.shrinks

/-- **Every operation keeps to the capacity**, however it ends. -/
theorem Fits.performs (f : Fits before p) (l : Ledger before p)
    (hn : (openedIn (before ++ events)).Nodup) {o : Operation}
    (h : Performs passes p o events q) : Fits (before ++ events) q := by
  have hlimits := h.limits_eq
  cases h with
  | admitJob hadmit => exact f.admits l hn hadmit
  | waitForSlot hwait => exact f.shrinks hlimits hwait.shrinks
  | drain hdrain => exact f.shrinks hlimits hdrain.shrinks
  | close hclose => exact f.shrinks hlimits hclose.shrinks
  | leave _ hclose => exact f.shrinks hlimits hclose.shrinks
  | call hcall => exact f.shrinks hlimits hcall.shrinks

theorem Fits.performsAll (f : Fits before p) (l : Ledger before p)
    (hn : (openedIn (before ++ events)).Nodup) {ops : List Operation}
    (h : PerformsAll passes p ops events q) : Fits (before ++ events) q := by
  induction h generalizing before with
  | nil => simpa using f
  | cons hfirst _ ih =>
      rw [← List.append_assoc] at hn ⊢
      have hn' := nodup_openedIn_left hn
      exact ih (f.performs l hn' hfirst) (l.performs hfirst hn') hn

/-- **Capacity holds at every moment.**  In any world, whatever operations are performed on a new
pool and whatever they end with, calls of its attempts among them:

* at each moment neither the attempts in flight nor the open sessions are more than the capacity;
* whenever a session is asked for, fewer sessions than the capacity are open;
* the number that was told last is the number of attempts in flight. -/
theorem capacity_holds_at_every_moment {ω : Type} (w : World ω) (passes : Nat)
    (limits : PoolLimits) (ops : List Operation) (d : Desk ω) :
    let p := (run w passes limits ops d).1
    let events := (run w passes limits ops d).2
    (∀ xs, xs <+: events →
      inFlightAfter 0 xs ≤ limits.capacity ∧ (openAfter xs).length ≤ limits.capacity) ∧
    (∀ xs session answer, xs ++ [.opened session answer] <+: events →
      (openAfter xs).length < limits.capacity) ∧
    inFlightAfter 0 events = p.inFlight.length := by
  intro p events
  obtain ⟨hops, hn⟩ := run_performs w passes limits ops d
  have f : Fits events p := (Fits.initial limits).performsAll (.initial limits) hn hops
  have hlimits : p.limits = limits := hops.limits_eq
  rw [← hlimits]
  exact ⟨fun xs hxs => ⟨f.within.inFlight xs hxs, f.within.sessions xs hxs⟩, f.within.room, f.told⟩

end Pool

end LoadDispatch
