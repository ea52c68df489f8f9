import LoadDispatch.Proofs.Recording
import LoadDispatch.Steps

/-!
# The events of a session

A trace is one list of events, with those of all sessions in it.  This module takes it apart.

* `openedIn` are the sessions that were opened, in order, and `callsOn s` the calls on one of them:
  submissions, status queries and closings.
* `Event.Among ss` is the frame of everything a pool does between two openings: calls on sessions
  among `ss`, pauses, and notices that no person is told of.  What is framed by `ss` leaves the
  calls on all other sessions as they are (`callsOn_eq_nil`) and opens none (`openedIn_eq_nil`).
-/

namespace LoadDispatch

/-! ## The calls on a session -/

namespace Event

/-- The session that was opened. -/
def opened? : Event → Option Session
  | .opened session (.ok _) => some session
  | _ => none

/-- The session that is called. -/
def callOn? : Event → Option Session
  | .submitted session _ _ => some session
  | .polled session _ _ => some session
  | .closed session _ => some session
  | _ => none

/-- A session is closed, or was tried to be. -/
def isClosing : Event → Bool
  | .closed _ _ => true
  | _ => false

/-- A job is submitted. -/
def isSubmission : Event → Bool
  | .submitted _ _ _ => true
  | _ => false

@[simp] theorem callOn?_opened (s : Session) (a : Except Fault Unit) :
    (opened s a).callOn? = none := rfl

@[simp] theorem callOn?_submitted (s : Session) (c : JobConfig)
    (a : Except Fault (Option Int)) : (submitted s c a).callOn? = some s := rfl

@[simp] theorem callOn?_polled (s : Session) (job : Int) (a : Except Fault PolledStatus) :
    (polled s job a).callOn? = some s := rfl

@[simp] theorem callOn?_closed (s : Session) (a : Except Fault Unit) :
    (closed s a).callOn? = some s := rfl

@[simp] theorem callOn?_told (n : Notice) : (told n).callOn? = none := rfl

@[simp] theorem callOn?_paused (seconds : Float) : (paused seconds).callOn? = none := rfl

/-- What happens in a pool between two openings: calls on sessions among `ss`, pauses, and notices
other than the steps a person is told of. -/
def Among (ss : List Session) : Event → Prop
  | .submitted session _ _ => session ∈ ss
  | .polled session _ _ => session ∈ ss
  | .closed session _ => session ∈ ss
  | .told (.progress _) => False
  | .told _ => True
  | .paused _ => True
  | _ => False

/-- What an attempt does by itself: calls on a session, and entries of the log. -/
def Plain : Event → Prop
  | .submitted .. | .polled .. | .closed .. | .told (.log _) => True
  | _ => False

theorem Among.mono {ss ts : List Session} (h : ss ⊆ ts) {e : Event} (he : e.Among ss) :
    e.Among ts := by
  cases e with
  | submitted | polled | closed => exact h he
  | told notice => cases notice <;> exact he
  | _ => exact he

theorem Among.mem {ss : List Session} {e : Event} (he : e.Among ss) {s : Session}
    (hs : e.callOn? = some s) : s ∈ ss := by
  cases e with
  | submitted | polled | closed =>
      cases hs
      exact he
  | _ => cases hs

/-- What calls no session is framed by no session. -/
theorem Among.of_callOn?_eq_none {ss ts : List Session} {e : Event} (he : e.Among ss)
    (hcall : e.callOn? = none) : e.Among ts := by
  cases e with
  | submitted | polled | closed => cases hcall
  | told notice => cases notice <;> exact he
  | _ => exact he

theorem Among.opened?_eq_none {ss : List Session} {e : Event} (he : e.Among ss) :
    e.opened? = none := by
  cases e with
  | opened => exact he.elim
  | _ => rfl

end Event

/-- The sessions that were opened, in order. -/
def openedIn (events : List Event) : List Session :=
  events.filterMap Event.opened?

/-- The calls on a session, in order. -/
def callsOn (s : Session) (events : List Event) : List Event :=
  events.filter fun e => e.callOn? = some s

section Projections

variable {s : Session} {ss ts us : List Session} {e : Event} {xs ys : List Event}

@[simp] theorem openedIn_nil : openedIn [] = [] := rfl

@[simp] theorem openedIn_cons : openedIn (e :: xs) = e.opened?.toList ++ openedIn xs := by
  rw [openedIn, List.filterMap_cons]
  cases e.opened? <;> rfl

@[simp] theorem openedIn_append : openedIn (xs ++ ys) = openedIn xs ++ openedIn ys :=
  List.filterMap_append

@[simp] theorem callsOn_nil : callsOn s [] = [] := rfl

@[simp] theorem callsOn_append : callsOn s (xs ++ ys) = callsOn s xs ++ callsOn s ys :=
  List.filter_append ..

@[simp] theorem callsOn_cons : callsOn s (e :: xs) =
    if e.callOn? = some s then e :: callsOn s xs else callsOn s xs := by
  rw [callsOn, List.filter_cons]
  simp only [decide_eq_true_eq]
  rfl

theorem mem_callsOn : e ∈ callsOn s xs ↔ e ∈ xs ∧ e.callOn? = some s := by
  simp [callsOn]

/-- Opened sessions were asked for. -/
theorem openedIn_sublist_askedIn (xs : List Event) : (openedIn xs).Sublist (askedIn xs) := by
  induction xs with
  | nil => exact List.Sublist.slnil
  | cons e xs ih =>
      rw [openedIn, askedIn, List.filterMap_cons, List.filterMap_cons]
      cases e with
      | opened session answer =>
          cases answer with
          | ok _ => exact ih.cons_cons session
          | error _ => exact ih.cons session
      | _ => exact ih

theorem Records.nodup_openedIn {ω : Type} {w : World ω} {d d' : Desk ω}
    (h : Records w d xs d') : (openedIn xs).Nodup :=
  h.nodup_askedIn.sublist (openedIn_sublist_askedIn xs)

/-- What comes first in a run opens sessions that are different if those of the run are. -/
theorem nodup_openedIn_left (h : (openedIn (xs ++ ys)).Nodup) : (openedIn xs).Nodup := by
  rw [openedIn_append] at h
  exact h.of_append_left

/-- A session that is opened in such a run was not opened before. -/
theorem not_mem_openedIn_of_nodup
    (h : (openedIn (xs ++ .opened s (.ok ()) :: ys)).Nodup) : s ∉ openedIn xs := by
  intro hmem
  rw [openedIn_append, List.nodup_append] at h
  exact h.2.2 _ hmem _ List.mem_cons_self rfl

/-- Two frames one after the other are framed by whatever has both of them. -/
theorem among_append (hxs : ∀ e ∈ xs, e.Among ss) (hys : ∀ e ∈ ys, e.Among ts) (hss : ss ⊆ us)
    (hts : ts ⊆ us) : ∀ e ∈ xs ++ ys, e.Among us := by
  intro e he
  rcases List.mem_append.mp he with he | he
  · exact (hxs e he).mono hss
  · exact (hys e he).mono hts

/-- Sessions outside of a frame see no call. -/
theorem callsOn_eq_nil (h : ∀ e ∈ xs, e.Among ss) (hs : s ∉ ss) : callsOn s xs = [] := by
  refine List.filter_eq_nil_iff.mpr fun e he hcall => ?_
  exact hs ((h e he).mem (by simpa using hcall))

/-- In the frame of one session all calls are on it. -/
theorem filter_callOn?_eq_callsOn (h : ∀ e ∈ xs, e.Among [s]) :
    xs.filter (·.callOn?.isSome) = callsOn s xs := by
  refine List.filter_congr fun e he => ?_
  cases hcall : e.callOn? with
  | none => simp
  | some t => simpa using List.mem_singleton.mp ((h e he).mem hcall)

/-- In a frame no session is opened. -/
theorem openedIn_eq_nil (h : ∀ e ∈ xs, e.Among ss) : openedIn xs = [] :=
  List.filterMap_eq_nil_iff.mpr fun e he => (h e he).opened?_eq_none

end Projections

end LoadDispatch
