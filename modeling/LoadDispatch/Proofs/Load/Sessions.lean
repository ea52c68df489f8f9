import LoadDispatch.Proofs.Load.Cleanup

/-!
# The sessions of a load

A load opens a session for each file that it admits, and nothing else opens one: the sessions of a
load and the files that a person is told to be loading correspond to each other, in order
(`Admitted`).  If a submission meets no fault but those that are absorbed, this holds of every load,
however it ends.

Each session has one life.  It is opened before anything else happens on it (`OpenedFirst`), it is
called, and by the time the load is over it is closed, once and for the last
(`load_sessions_live`).
-/

namespace LoadDispatch

/-! ## Files and their sessions -/

/-- The file that a person is told to be loading. -/
def Event.loading? : Event → Option String
  | .told (.progress (.loading path)) => some path
  | _ => none

/-- The files that a person was told to be loading, in order. -/
def loadingIn (events : List Event) : List String :=
  events.filterMap Event.loading?

/-- A submission meets no fault but those of the job service. -/
def Event.SubmitsAbsorbed : Event → Prop
  | .submitted _ _ (.error fault) => fault.isJobService = true
  | _ => True

/-- The sessions that were opened are those of the files, in order; a person was told of each file,
and a job for it was submitted on its session. -/
structure Admitted (replication : Int) (events : List Event) (files : List (Session × String)) :
    Prop where
  /-- The sessions. -/
  sessions : openedIn events = files.map Prod.fst
  /-- The files. -/
  told : loadingIn events = files.map Prod.snd
  /-- The submissions. -/
  submitted : ∀ f ∈ files, ∃ answer, .submitted f.1 { path := f.2, replication } answer ∈ events

section Admitted

variable {ss : List Session} {replication : Int} {xs ys : List Event}
  {files more : List (Session × String)}

@[simp] theorem loadingIn_append : loadingIn (xs ++ ys) = loadingIn xs ++ loadingIn ys :=
  List.filterMap_append

theorem loadingIn_eq_nil (h : ∀ e ∈ xs, e.Among ss) : loadingIn xs = [] := by
  refine List.filterMap_eq_nil_iff.mpr fun e he => ?_
  have hamong := h e he
  match e with
  | .told (.progress _) => exact hamong.elim
  | .told (.log _) | .told (.pass _) | .told (.inFlight _) | .opened .. | .submitted .. |
    .polled .. | .closed .. | .statted .. | .listed .. | .connected _ | .exchanged .. |
    .disconnected _ | .paused _ | .printed .. | .complained _ | .logged _ | .helped => rfl

theorem Admitted.append (h : Admitted replication xs files) (h' : Admitted replication ys more) :
    Admitted replication (xs ++ ys) (files ++ more) := by
  refine ⟨?_, ?_, fun f hf => ?_⟩
  · rw [openedIn_append, h.sessions, h'.sessions, List.map_append]
  · rw [loadingIn_append, h.told, h'.told, List.map_append]
  · rcases List.mem_append.mp hf with hf | hf
    · obtain ⟨answer, hmem⟩ := h.submitted f hf
      exact ⟨answer, List.mem_append_left _ hmem⟩
    · obtain ⟨answer, hmem⟩ := h'.submitted f hf
      exact ⟨answer, List.mem_append_right _ hmem⟩

theorem Admitted.nil (hopened : openedIn xs = []) (htold : loadingIn xs = []) :
    Admitted replication xs [] :=
  ⟨hopened, htold, by simp⟩

theorem Admitted.of_among (h : ∀ e ∈ xs, e.Among ss) : Admitted replication xs [] :=
  .nil (openedIn_eq_nil h) (loadingIn_eq_nil h)

end Admitted

namespace Pool

variable {p q : Pool} {passes : Nat} {replication : Int} {events before : List Event}

/-- A job that is placed has a session of its own. -/
theorem Places.opens_session {config : JobConfig} {a : Attempt}
    (h : Places config p events (.ok a) q) :
    ∃ session reply, openedIn events = [session] ∧ loadingIn events = [] ∧
      .submitted session config reply ∈ events := by
  rcases h.opens with ⟨_, _, -, hanswer, -⟩ |
      ⟨session, count, reply, more, b, rfl, -, hlives, -, -, -⟩
  · cases hanswer
  · have htold := loadingIn_eq_nil hlives.own
    refine ⟨session, reply, ?_, htold, by simp⟩
    rw [openedIn_cons, openedIn_eq_nil hlives.own]
    rfl

/-- A job that is not placed has none, unless a submission has met a fault that is not absorbed. -/
theorem Places.opens_none {config : JobConfig} {fault : Fault}
    (h : Places config p events (.error fault) q) (hsub : ∀ e ∈ events, e.SubmitsAbsorbed) :
    openedIn events = [] ∧ loadingIn events = [] := by
  cases h with
  | refused => exact ⟨rfl, rfl⟩
  | @failed session _ _ _ hfailed =>
      cases hfailed with
      | refused hr => cases hr
      | failed _ _ hfault =>
          have habsorbed : fault.isJobService = true :=
            hsub _ (List.mem_cons_of_mem _ (List.mem_cons_of_mem _ List.mem_cons_self))
          rw [hfault] at habsorbed
          cases habsorbed

theorem Admits.opens_session {config : JobConfig} {a : Attempt}
    (h : Admits passes config p events (.returned a) q) :
    ∃ session reply, openedIn events = [session] ∧ loadingIn events = [] ∧
      .submitted session config reply ∈ events := by
  generalize houtcome : Outcome.returned a = outcome at h
  cases h with
  | @atOnce _ answer _ _ hplace =>
      cases answer <;> cases houtcome
      exact hplace.opens_session
  | @waited _ _ _ answer _ _ _ hwait hplace =>
      cases answer <;> cases houtcome
      obtain ⟨session, reply, hopened, htold, hmem⟩ := hplace.opens_session
      refine ⟨session, reply, ?_, ?_, List.mem_append_right _ hmem⟩
      · rw [openedIn_append, openedIn_eq_nil hwait.among.1, hopened, List.nil_append]
      · rw [loadingIn_append, loadingIn_eq_nil hwait.among.1, htold, List.nil_append]
  | broken | unfinished => cases houtcome

theorem Admits.opens_none {config : JobConfig} {outcome : Outcome Attempt}
    (h : Admits passes config p events outcome q) (hearly : ∀ a, outcome ≠ .returned a)
    (hsub : ∀ e ∈ events, e.SubmitsAbsorbed) : openedIn events = [] ∧ loadingIn events = [] := by
  cases h with
  | @atOnce _ answer _ _ hplace =>
      cases answer with
      | ok a => exact absurd rfl (hearly a)
      | error => exact hplace.opens_none hsub
  | @waited _ _ _ answer _ _ _ hwait hplace =>
      cases answer with
      | ok a => exact absurd rfl (hearly a)
      | error =>
          rw [openedIn_append, openedIn_eq_nil hwait.among.1, loadingIn_append,
            loadingIn_eq_nil hwait.among.1]
          exact hplace.opens_none (List.forall_mem_append.mp hsub).2
  | broken _ hwait | unfinished _ hwait =>
      exact ⟨openedIn_eq_nil hwait.among.1, loadingIn_eq_nil hwait.among.1⟩

/-- **A walk opens a session for each file that it admits**, and tells of these files. -/
theorem Walks.admitted {es : List Errand} {outcome : Outcome Unit}
    (h : Walks passes replication es p events outcome q)
    (hsub : ∀ e ∈ events, e.SubmitsAbsorbed) : ∃ files, Admitted replication events files := by
  have idle : ∀ {e : Event} {xs : List Event} {files : List (Session × String)},
      e.opened? = none → e.loading? = none → Admitted replication xs files →
        Admitted replication (e :: xs) files := by
    intro e xs files hopened hloading hrest
    have hone : Admitted replication [e] [] :=
      .nil (by simp [hopened]) (by simp [loadingIn, hloading])
    exact hone.append hrest
  induction h with
  | done | tired => exact ⟨[], .nil rfl rfl⟩
  | lost => exact ⟨[], idle rfl rfl (.nil rfl rfl)⟩
  | unlisted => exact ⟨[], idle rfl rfl (idle rfl rfl (.nil rfl rfl))⟩
  | leaf _ _ ih | resident _ _ ih =>
      obtain ⟨files, hfiles⟩ := ih (List.forall_mem_cons.mp hsub).2
      exact ⟨files, idle rfl rfl hfiles⟩
  | folder _ _ ih =>
      rw [List.forall_mem_cons, List.forall_mem_cons] at hsub
      obtain ⟨files, hfiles⟩ := ih hsub.2.2
      exact ⟨files, idle rfl rfl (idle rfl rfl hfiles)⟩
  | @loading status _ _ _ _ xs ys _ _ _ hadmit _ ih =>
      rw [List.forall_mem_append, List.forall_mem_cons] at hsub
      obtain ⟨files, hfiles⟩ := ih hsub.2.2
      obtain ⟨session, reply, hopened, htold, hmem⟩ := hadmit.opens_session
      refine ⟨(session, status.path) :: files, ?_⟩
      rw [List.append_cons]
      suffices hone : Admitted replication (xs ++ [_]) [(session, status.path)] from
        hone.append hfiles
      refine ⟨?_, ?_, ?_⟩
      · simp [hopened, Event.opened?]
      · rw [loadingIn_append, htold]
        rfl
      · intro f hf
        obtain rfl := List.mem_singleton.mp hf
        exact ⟨reply, List.mem_append_left _ hmem⟩
  | refused _ _ hadmit | waiting _ _ hadmit =>
      obtain ⟨hopened, htold⟩ := hadmit.opens_none (by simp) hsub
      exact ⟨[], .nil hopened htold⟩

theorem LoadsAll.admitted {patience : Patience} {request : LoadRequest} {outcome : Outcome Unit}
    (h : LoadsAll patience request p events outcome q)
    (hsub : ∀ e ∈ events, e.SubmitsAbsorbed) :
    ∃ files, Admitted request.replication events files := by
  cases h with
  | walked hwalk hdrain =>
      obtain ⟨files, hfiles⟩ := hwalk.admitted (List.forall_mem_append.mp hsub).1
      exact ⟨files ++ [], hfiles.append (.of_among hdrain.among.1)⟩
  | aborted hwalk => exact hwalk.admitted hsub

/-! ## What is submitted -/

/-- On every session that a walk opens, a job is submitted with the replication of the walk. -/
theorem Walks.submits {es : List Errand} {outcome : Outcome Unit}
    (h : Walks passes replication es p events outcome q) :
    ∀ s ∈ openedIn events, ∃ path answer, .submitted s { path, replication } answer ∈ events := by
  have place : ∀ {path : String} {answer : Except Fault Attempt} {p q : Pool} {xs : List Event},
      Places { path, replication } p xs answer q → ∀ s ∈ openedIn xs,
        ∃ reply, .submitted s { path, replication } reply ∈ xs := by
    intro path answer p q xs h s hs
    rcases h.opens with ⟨_, _, rfl, -, -⟩ |
        ⟨session, count, reply, more, b, rfl, -, hlives, -, -, -⟩
    · cases hs
    · rw [openedIn_cons, openedIn_eq_nil hlives.own] at hs
      obtain rfl : s = session := by simpa [Event.opened?] using hs
      exact ⟨reply, by simp⟩
  have admission : ∀ {path : String} {outcome : Outcome Attempt} {p q : Pool} {xs : List Event},
      Admits passes { path, replication } p xs outcome q → ∀ s ∈ openedIn xs,
        ∃ reply, .submitted s { path, replication } reply ∈ xs := by
    intro path outcome p q xs h s hs
    cases h with
    | atOnce _ hplace => exact place hplace s hs
    | waited _ hwait hplace =>
        rw [openedIn_append, openedIn_eq_nil hwait.among.1] at hs
        obtain ⟨reply, hmem⟩ := place hplace s hs
        exact ⟨reply, List.mem_append_right _ hmem⟩
    | broken _ hwait | unfinished _ hwait =>
        rw [openedIn_eq_nil hwait.among.1] at hs
        cases hs
  induction h with
  | done | tired | lost | unlisted => simp [Event.opened?]
  | leaf _ _ ih | resident _ _ ih =>
      intro s hs
      obtain ⟨path, answer, hmem⟩ := ih s (by simpa [Event.opened?] using hs)
      exact ⟨path, answer, List.mem_cons_of_mem _ hmem⟩
  | folder _ _ ih =>
      intro s hs
      obtain ⟨path, answer, hmem⟩ := ih s (by simpa [Event.opened?] using hs)
      exact ⟨path, answer, List.mem_cons_of_mem _ (List.mem_cons_of_mem _ hmem)⟩
  | loading _ hadmit _ ih =>
      intro s hs
      rw [openedIn_append, openedIn_cons] at hs
      rcases List.mem_append.mp hs with hs | hs
      · obtain ⟨reply, hmem⟩ := admission hadmit s hs
        exact ⟨_, reply, List.mem_append_left _ hmem⟩
      · obtain ⟨path, answer, hmem⟩ := ih s hs
        exact ⟨path, answer, List.mem_append_right _ (List.mem_cons_of_mem _ hmem)⟩
  | refused _ _ hadmit | waiting _ _ hadmit =>
      intro s hs
      obtain ⟨reply, hmem⟩ := admission hadmit s hs
      exact ⟨_, reply, hmem⟩

theorem LoadsAll.submits {patience : Patience} {request : LoadRequest} {outcome : Outcome Unit}
    (h : LoadsAll patience request p events outcome q) :
    ∀ s ∈ openedIn events, ∃ path answer,
      .submitted s { path, replication := request.replication } answer ∈ events := by
  cases h with
  | walked hwalk hdrain =>
      intro s hs
      rw [openedIn_append, openedIn_eq_nil hdrain.among.1, List.append_nil] at hs
      obtain ⟨path, answer, hmem⟩ := hwalk.submits s hs
      exact ⟨path, answer, List.mem_append_left _ hmem⟩
  | aborted hwalk => exact hwalk.submits

/-- On one session always the same job is submitted. -/
theorem Ledger.config_eq (l : Ledger events p) {s : Session} {config config' : JobConfig}
    {answer answer' : Except Fault (Option Int)} (h : .submitted s config answer ∈ events)
    (h' : .submitted s config' answer' ∈ events) : config = config' := by
  obtain ⟨a, ha, rfl⟩ := l.exists_of_opened (l.known _ h s rfl)
  obtain ⟨first, hcourse⟩ := l.course a ha
  have hfirst := Attempt.Course.config_of_submitted hcourse (mem_callsOn.mpr ⟨h, rfl⟩)
  rw [hfirst, Attempt.Course.config_of_submitted hcourse (mem_callsOn.mpr ⟨h', rfl⟩)]

end Pool

/-! ## The life of a session -/

/-- The events of a session, in order: its opening, and the calls on it. -/
def onSession (s : Session) (events : List Event) : List Event :=
  events.filter fun e => e.opened? = some s ∨ e.callOn? = some s

/-- Every session is opened before anything else happens on it. -/
def OpenedFirst (events : List Event) : Prop :=
  ∀ s ∈ openedIn events, onSession s events = .opened s (.ok ()) :: callsOn s events

section OpenedFirst

variable {s : Session} {xs ys : List Event}

theorem onSession_append : onSession s (xs ++ ys) = onSession s xs ++ onSession s ys :=
  List.filter_append ..

theorem onSession_eq_callsOn (h : s ∉ openedIn xs) : onSession s xs = callsOn s xs := by
  refine List.filter_congr fun e he => ?_
  have hne : e.opened? ≠ some s := fun heq => h (List.mem_filterMap.mpr ⟨e, he, heq⟩)
  simp [hne]

/-- What opens no session leaves the order as it is. -/
theorem OpenedFirst.append (h : OpenedFirst xs) (hnone : openedIn ys = []) :
    OpenedFirst (xs ++ ys) := by
  intro s hs
  rw [openedIn_append, hnone, List.append_nil] at hs
  rw [onSession_append, h s hs, callsOn_append, onSession_eq_callsOn (hnone ▸ List.not_mem_nil)]
  rfl

/-- A session is opened that was not called yet. -/
theorem OpenedFirst.opened (h : OpenedFirst xs) (hnew : s ∉ openedIn xs)
    (hcalls : callsOn s xs = []) (hnone : openedIn ys = []) :
    OpenedFirst (xs ++ .opened s (.ok ()) :: ys) := by
  intro t ht
  rw [openedIn_append, openedIn_cons, hnone, List.append_nil] at ht
  have hrest : onSession t ys = callsOn t ys := onSession_eq_callsOn (hnone ▸ List.not_mem_nil)
  rcases List.mem_append.mp ht with hold | hthis
  · have hne : s ≠ t := fun heq => hnew (heq ▸ hold)
    have hopening : onSession t (.opened s (.ok ()) :: ys) = onSession t ys := by
      simp [onSession, Event.opened?, hne]
    rw [onSession_append, h t hold, hopening, hrest, callsOn_append, callsOn_cons,
      if_neg (by simp)]
    rfl
  · obtain rfl : t = s := by simpa [Event.opened?] using hthis
    have hopening : onSession t (.opened t (.ok ()) :: ys) =
        .opened t (.ok ()) :: onSession t ys := by
      simp [onSession, Event.opened?]
    rw [onSession_append, onSession_eq_callsOn hnew, hcalls, hopening, hrest, callsOn_append,
      hcalls, callsOn_cons, if_neg (by simp)]
    rfl

end OpenedFirst

namespace Pool

variable {p q : Pool} {before events : List Event}

/-- **Moves open a session before they call it.** -/
theorem Moves.openedFirst (h : Moves p events q) (l : Ledger before p)
    (hn : (openedIn (before ++ events)).Nodup) (hp : OpenedFirst before) :
    OpenedFirst (before ++ events) := by
  refine (Steps.keeps (I := fun xs p => (openedIn xs).Nodup → Ledger xs p ∧ OpenedFirst xs) ?_
    (fun _ => ⟨l, hp⟩) h hn).2
  intro xs p ys q ih hmove hn
  have hn' := nodup_openedIn_left hn
  obtain ⟨l, hfirst⟩ := ih hn'
  refine ⟨l.move hmove hn, ?_⟩
  cases hmove with
  | sweep hsweep => exact hfirst.append (openedIn_eq_nil hsweep.among.1)
  | idle _ hopen => exact hfirst.append (by simp [hopen])
  | place hplace =>
      rcases hplace.opens with ⟨_, _, rfl, -, -⟩ | ⟨session, _, _, _, _, rfl, -, hlives, -, -, -⟩
      · exact hfirst.append rfl
      · have hnew := not_mem_openedIn_of_nodup hn
        exact hfirst.opened hnew (l.callsOn_eq_nil hnew) (openedIn_eq_nil hlives.own)

end Pool

/-! ## Sessions when a load is over -/

section Over

variable {ω : Type} {w : World ω} {patience : Patience} {policy : LoadPolicy}
  {request : LoadRequest} {limits : PoolLimits} {d : Desk ω}

variable (w patience d) in
/-- However a load ends, it has led to a pool with a right ledger, and with nothing in flight unless
its patience ran out. -/
theorem load_ledger (hlimits : policy.limits? request = .ok limits) :
    ∃ q, Pool.Ledger ((load w.environment patience policy request d).2.eventsSince
        d.journal.length) q ∧
      ((load w.environment patience policy request d).1 ≠ .unfinished → q.inFlight = []) ∧
      OpenedFirst ((load w.environment patience policy request d).2.eventsSince
        d.journal.length) := by
  obtain ⟨⟨⟨outcome, p⟩, d₁⟩, hinside⟩ :
      ∃ r, ({ limits } : Pool).loadAll w.environment patience request d = r := ⟨_, rfl⟩
  obtain ⟨hrecords, hloads, l, -⟩ := Pool.loadAll_run hinside
  have hn := hrecords.nodup_openedIn
  have hfirst : OpenedFirst (d₁.eventsSince d.journal.length) :=
    show OpenedFirst ([] ++ _) from
      Pool.Moves.openedFirst hloads.moves (.initial limits) hn (by simp [OpenedFirst])
  match outcome with
  | .unfinished =>
      rw [load_of_unfinished hlimits hinside]
      exact ⟨p, l, fun hover => absurd rfl hover, hfirst⟩
  | .raised fault =>
      obtain ⟨_, q, _, events, hwhole, hrecords', hcloses⟩ := load_of_raised hlimits hinside
      rw [hwhole, (hrecords.append hrecords').eventsSince]
      exact ⟨q, l.closes hcloses hn, fun _ => hcloses.inFlight_eq,
        hfirst.append (openedIn_eq_nil hcloses.among)⟩
  | .returned () =>
      obtain ⟨_, hwhole, hrecords'⟩ := load_of_returned hlimits hinside hloads.inFlight_eq
      rw [hwhole, (hrecords.append hrecords').eventsSince, List.append_cons]
      exact ⟨p, (l.idle rfl rfl).idle rfl rfl, fun _ => hloads.inFlight_eq,
        (hfirst.append rfl).append rfl⟩

/-- Every job that a load submits has the replication that was asked for. -/
theorem load_replication (hlimits : policy.limits? request = .ok limits) {s : Session}
    {config : JobConfig} {answer : Except Fault (Option Int)}
    (h : .submitted s config answer ∈
      (load w.environment patience policy request d).2.eventsSince d.journal.length) :
    config.replication = request.replication := by
  obtain ⟨⟨⟨outcome, p⟩, d₁⟩, hinside⟩ :
      ∃ r, ({ limits } : Pool).loadAll w.environment patience request d = r := ⟨_, rfl⟩
  obtain ⟨hrecords, hloads, -⟩ := Pool.loadAll_run hinside
  obtain ⟨after, hrecords', hamong⟩ := load_goes_on hlimits hinside
  obtain ⟨q, l, -⟩ := load_ledger w patience d hlimits
  rw [(hrecords.append hrecords').eventsSince] at h l
  have hs := l.known _ h s rfl
  rw [openedIn_append, openedIn_eq_nil hamong, List.append_nil] at hs
  obtain ⟨path, reply, hmem⟩ := hloads.submits s hs
  rw [l.config_eq h (List.mem_append_left _ hmem)]

/-- A load has a session for each file that it admits. -/
theorem load_admitted (hlimits : policy.limits? request = .ok limits)
    (hsub : ∀ e ∈ (load w.environment patience policy request d).2.eventsSince d.journal.length,
      e.SubmitsAbsorbed) :
    ∃ files, Admitted request.replication
      ((load w.environment patience policy request d).2.eventsSince d.journal.length) files := by
  obtain ⟨⟨⟨outcome, p⟩, d₁⟩, hinside⟩ :
      ∃ r, ({ limits } : Pool).loadAll w.environment patience request d = r := ⟨_, rfl⟩
  obtain ⟨hrecords, hloads, -⟩ := Pool.loadAll_run hinside
  obtain ⟨after, hrecords', hamong⟩ := load_goes_on hlimits hinside
  rw [(hrecords.append hrecords').eventsSince] at hsub ⊢
  obtain ⟨files, hfiles⟩ := hloads.admitted (List.forall_mem_append.mp hsub).1
  exact ⟨files ++ [], hfiles.append (.of_among hamong)⟩

variable (w patience d) in
/-- **Each session of a load has lived**: it was opened, it was called, and it was closed for the
last, the latter unless the patience of the load ran out.  No other session was called. -/
theorem load_sessions_live (hlimits : policy.limits? request = .ok limits) :
    let whole := load w.environment patience policy request d
    let events := whole.2.eventsSince d.journal.length
    (∀ s ∈ openedIn events, ∃ talk last,
      onSession s events = .opened s (.ok ()) :: (talk ++ last) ∧
        (∀ e ∈ talk, e.isClosing = false ∧ e.callOn? = some s) ∧
        ((last = [] ∧ whole.1 = .unfinished) ∨ ∃ answer, last = [.closed s answer])) ∧
    ∀ e ∈ events, ∀ s, e.callOn? = some s → s ∈ openedIn events := by
  intro whole events
  obtain ⟨q, l, hnil, hfirst⟩ := load_ledger w patience d hlimits
  refine ⟨fun s hs => ?_, l.known⟩
  obtain ⟨a, ha, rfl⟩ := l.exists_of_opened hs
  obtain ⟨talk, last, hcalls, htalk, hlast⟩ := l.talk_then_close ha
  refine ⟨talk, last, ?_, fun e he => ⟨htalk e he, ?_⟩, ?_⟩
  · rw [hfirst _ hs, hcalls]
  · have hmem : e ∈ callsOn a.session events := by
      rw [hcalls]
      exact List.mem_append_left _ he
    exact (mem_callsOn.mp hmem).2
  · refine hlast.imp (fun ⟨hopen, hnone⟩ => ⟨hnone, ?_⟩) And.right
    -- With nothing in flight, everyone has left and is released.
    by_contra hover
    rw [Pool.roster, hnil hover, List.nil_append] at ha
    obtain ⟨x, hx, rfl⟩ := List.mem_map.mp ha
    rw [(l.left x hx).1] at hopen
    cases hopen

end Over

end LoadDispatch
