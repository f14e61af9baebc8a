import ConnmanService.Bookkeeping

/-! # Connect callbacks over runs

The connects of a run issue calls numbered from the service's next token
(`issuedCalls`); a completion reports once to its own call's callback, when it has one
(`completeConnect_spec`), and every other event leaves the calls and the reports alone
(`step_quiet`).  `Accounted` is the resulting ledger: the reports and the calls still in
flight with a callback are exactly the issued calls with a callback, each once.

* `connect_reports_exact`: along every run from a created service, each connect issued
  with a callback is either still in flight or reported exactly once, and no other call
  is reported;
* `connect_reports_nodup`: so no call is reported twice, nor while it is in flight;
* `connect_reported_once`: and none is lost: a call with a callback that is no longer in
  flight has been reported exactly once.

The defects of overlapping connects (`Tokens.lean`) lie in what a report says (`FALSE` for a call that
succeeded) and in when the service is released, not in how many reports there are.  The
other direction holds: `connect_success_sound`, a callback receives `TRUE` only from the
completion of its own call, and only when that call succeeded or failed with
`AlreadyConnected` (for a peer also `Operation aborted`).

The property-change callback is the other listener a service calls.  Every event keeps
its notifications in step with the state and the online flag (`step_notesFollow`): a
connect and a completion touch neither, and the rest are `Quiet`.  Hence
`notifications_follow_changes`: once the callback is registered, along every run each
`State` notification announces a state other than the one before it, and the last
announces the current state; the same for `Online`.  No change is missed, none is
announced twice, and the callback is never left with a stale value. -/

namespace ConnmanService

/-- What one event adds to the issued calls: a connect issues the next number. -/
def issueCall (n : Nat) (cs : List Call) : Event → List Call
  | .connect peer cb => cs ++ [⟨n + cs.length, peer, cb⟩]
  | _ => cs

/-- The calls the connects of a history issue, numbered from `n`. -/
def issuedCalls (n : Nat) (es : List Event) : List Call := es.foldl (issueCall n) []

theorem issuedCalls_snoc (n : Nat) (es : List Event) (e : Event) :
    issuedCalls n (es ++ [e]) = issueCall n (issuedCalls n es) e := by
  rw [issuedCalls, List.foldl_append]
  rfl

/-- The issued calls are numbered `n`, `n + 1`, ... in order. -/
theorem issuedCalls_ids (n : Nat) (es : List Event) :
    (issuedCalls n es).map Call.id = List.range' n (issuedCalls n es).length := by
  induction es using List.reverseRecOn with
  | nil => rfl
  | append_singleton es e ih =>
      rw [issuedCalls_snoc]
      cases e with
      | connect peer cb =>
          simp only [issueCall, List.map_append, List.length_append, List.length_singleton,
            List.range'_concat, ih, List.map_cons, List.map_nil, Nat.one_mul]
      | _ => exact ih

/-- Taking a call out of flight moves its number, if it has a callback, to the reports. -/
theorem erase_pending_perm {c : Call} {l : List Call} (hc : c ∈ l) (ret : Bool) :
    (reportedCalls (if c.cb then [.connectCb c.id ret] else []) ++
        ((l.erase c).filter Call.cb).map Call.id).Perm ((l.filter Call.cb).map Call.id) := by
  have h := ((List.perm_cons_erase hc).filter Call.cb).map Call.id
  cases hcb : c.cb <;> simp only [hcb, List.filter_cons] at h ⊢ <;> exact h.symm

/-- The ledger of the connects after the history `es`, from a service with no call in
flight, no report and next token `n`. -/
structure Accounted (n : Nat) (es : List Event) (w : World) : Prop where
  nextToken : w.nextToken = n + (issuedCalls n es).length
  calls : (reportedCalls w.log ++ (w.pending.filter Call.cb).map Call.id).Perm
    (((issuedCalls n es).filter Call.cb).map Call.id)

theorem Accounted.step {n : Nat} {es : List Event} {w w' : World} {e : Event}
    (h : Accounted n es w) (hs : Step w e w') : Accounted n (es ++ [e]) w' := by
  cases e with
  | connect peer cb =>
      cases hs
      have hw : (if peer then connmanPeerConnect cb w else connmanServiceConnect cb w) =
          connectWith peer cb w := by cases peer <;> rfl
      rw [hw]
      refine ⟨?_, ?_⟩ <;> simp only [connectWith, issuedCalls_snoc, issueCall]
      · rw [h.nextToken, List.length_append, List.length_singleton, Nat.add_assoc]
      · rw [← h.nextToken, List.filter_append, List.filter_append, List.map_append,
          List.map_append, ← List.append_assoc]
        exact h.calls.append_right _
  | complete c o =>
      cases hs with
      | complete _ hc =>
          obtain ⟨ret, hl, -, hp, ht⟩ := completeConnect_spec w c o
          refine ⟨by rw [ht, issuedCalls_snoc]; exact h.nextToken, ?_⟩
          rw [hl, hp, reportedCalls_append, List.append_assoc, issuedCalls_snoc]
          exact ((erase_pending_perm hc ret).append_left _).trans h.calls
  | _ =>
      have hq := step_quiet hs (fun _ _ => Event.noConfusion) (fun _ _ => Event.noConfusion)
      exact ⟨by rw [issuedCalls_snoc]; exact hq.nextToken.trans h.nextToken,
        by rw [issuedCalls_snoc, hq.reports, hq.pending]; exact h.calls⟩

theorem Accounted.run {n : Nat} {es es' : List Event} {w w' : World} (h : Accounted n es w)
    (hrun : Run w es' w') : Accounted n (es ++ es') w' := by
  induction hrun with
  | nil => simpa using h
  | snoc _ hs ih => rw [← List.append_assoc]; exact ih.step hs

/-- Along every run from a created service, each connect issued with a callback is
either still in flight or reported exactly once, and no other call is reported; the
calls are numbered by the run's connects from `0`. -/
theorem connect_reports_exact {w₀ w : World} {es : List Event} (h₀ : Created w₀)
    (hrun : Run w₀ es w) :
    (reportedCalls w.log ++ (w.pending.filter Call.cb).map Call.id).Perm
      (((issuedCalls 0 es).filter Call.cb).map Call.id) := by
  obtain ⟨path, hq⟩ := created_quiet h₀
  have h₀ : Accounted 0 [] w₀ :=
    ⟨hq.nextToken, by rw [hq.reports, hq.pending]; exact .refl _⟩
  simpa using (h₀.run hrun).calls

/-- No connect is reported twice, nor while it is still in flight. -/
theorem connect_reports_nodup {w₀ w : World} {es : List Event} (h₀ : Created w₀)
    (hrun : Run w₀ es w) :
    (reportedCalls w.log ++ (w.pending.filter Call.cb).map Call.id).Nodup := by
  have hids : ((issuedCalls 0 es).map Call.id).Nodup := by
    rw [issuedCalls_ids]
    exact List.nodup_range' _ _
  exact (connect_reports_exact h₀ hrun).nodup_iff.mpr (hids.sublist ((List.filter_sublist _).map _))

/-- No callback is lost: a connect issued with a callback and no longer in flight has
been reported exactly once. -/
theorem connect_reported_once {w₀ w : World} {es : List Event} (h₀ : Created w₀)
    (hrun : Run w₀ es w) {c : Call} (hc : c ∈ issuedCalls 0 es) (hcb : c.cb = true)
    (hdone : c.id ∉ w.pending.map Call.id) :
    (reportedCalls w.log).count c.id = 1 := by
  have hin : c.id ∈ reportedCalls w.log ++ (w.pending.filter Call.cb).map Call.id :=
    (connect_reports_exact h₀ hrun).mem_iff.mpr
      (List.mem_map.mpr ⟨c, List.mem_filter.mpr ⟨hc, hcb⟩, rfl⟩)
  have hrep : c.id ∈ reportedCalls w.log := by
    refine (List.mem_append.mp hin).resolve_right fun h => hdone ?_
    obtain ⟨d, hd, hid⟩ := List.mem_map.mp h
    exact List.mem_map.mpr ⟨d, (List.mem_filter.mp hd).1, hid⟩
  exact List.count_eq_one_of_mem (connect_reports_nodup h₀ hrun).of_append_left hrep

/-- One connect with a callback, completed: reported exactly once. -/
theorem connect_reported_once_after_completion :
    let es := [Event.connect false true, .complete ⟨0, false, true⟩ .ok]
    let w := completeConnect (connmanServiceConnect true (freshWorld "/s")) ⟨0, false, true⟩ .ok
    Created (freshWorld "/s") ∧ Run (freshWorld "/s") es w ∧
      (⟨0, false, true⟩ : Call) ∈ issuedCalls 0 es ∧ (⟨0, false, true⟩ : Call).cb = true ∧
      0 ∉ w.pending.map Call.id ∧ (reportedCalls w.log).count 0 = 1 := by
  intro es w
  have h₀ := created_fresh "/s" x86Env
  have hrun : Run (freshWorld "/s") es w :=
    .snoc (.single (.connect _ false true)) (.complete .ok (List.mem_singleton_self _))
  have hc : (⟨0, false, true⟩ : Call) ∈ issuedCalls 0 es := List.mem_singleton_self _
  have hdone : 0 ∉ w.pending.map Call.id := List.not_mem_nil _
  exact ⟨h₀, hrun, hc, rfl, hdone, connect_reported_once h₀ hrun hc rfl hdone⟩

/-! ### What a report says -/

theorem mem_reportedCalls {l : List Effect} {id : Nat} {b : Bool}
    (h : Effect.connectCb id b ∈ l) : id ∈ reportedCalls l := by
  induction l with
  | nil => exact absurd h (List.not_mem_nil _)
  | cons e l ih =>
      rcases List.mem_cons.mp h with rfl | hl
      · exact List.mem_cons_self _ _
      · cases e with
        | connectCb call => exact List.mem_cons_of_mem _ (ih hl)
        | _ => exact ih hl

/-- A quiet event adds no connect report to the log. -/
theorem Quiet.connectCb_mem {w w' : World} (hq : Quiet w w') {id : Nat} {b : Bool}
    (h : Effect.connectCb id b ∈ w'.log) : Effect.connectCb id b ∈ w.log := by
  obtain ⟨l, hl, -⟩ := hq.rules
  have hr := hq.reports
  rw [hl, reportedCalls_append, List.append_right_eq_self] at hr
  rw [hl] at h
  exact (List.mem_append.mp h).resolve_right fun h' => by
    simpa [hr] using mem_reportedCalls h'

/-- The result the callback of `c` gets from its own call's outcome. -/
def ownResult (c : Call) (o : Outcome) : Bool :=
  connectResult (if c.peer then peerAlreadyConnected else serviceAlreadyConnected) o

/-- A completion adds at most the report of its own call, `TRUE` only when the call
succeeded. -/
theorem connectCallbackWith_success (alreadyConnected : String → Bool) (w : World) (c : Call)
    (o : Outcome) {id : Nat}
    (h : Effect.connectCb id true ∈ (connectCallbackWith alreadyConnected w c o).log) :
    Effect.connectCb id true ∈ w.log ∨ (id = c.id ∧ connectResult alreadyConnected o = true) := by
  unfold connectCallbackWith reportConnect releaseCancellable at h
  dsimp only at h
  split at h
  · split at h <;> simp_all [World.emit]
  · split_ifs at h <;> simp_all [World.emit]

theorem completeConnect_success (w : World) (c : Call) (o : Outcome) {id : Nat}
    (h : Effect.connectCb id true ∈ (completeConnect w c o).log) :
    Effect.connectCb id true ∈ w.log ∨ (id = c.id ∧ ownResult c o = true) := by
  unfold completeConnect at h
  unfold ownResult
  split at h
  · next hp => rw [if_pos hp]; exact connectCallbackWith_success _ w c o h
  · next hp => rw [if_neg hp]; exact connectCallbackWith_success _ w c o h

/-- Every `TRUE` report of the log comes from a completion of the history whose own call
succeeded. -/
def SuccessReported (es : List Event) (w : World) : Prop :=
  ∀ id, Effect.connectCb id true ∈ w.log →
    ∃ c o, Event.complete c o ∈ es ∧ c.id = id ∧ ownResult c o = true

theorem SuccessReported.step {es : List Event} {w w' : World} {e : Event}
    (h : SuccessReported es w) (hs : Step w e w') : SuccessReported (es ++ [e]) w' := by
  have keep : ∀ id, Effect.connectCb id true ∈ w.log →
      ∃ c o, Event.complete c o ∈ es ++ [e] ∧ c.id = id ∧ ownResult c o = true := by
    intro id hid
    obtain ⟨c, o, hc, rest⟩ := h id hid
    exact ⟨c, o, List.mem_append_left _ hc, rest⟩
  intro id hid
  cases e with
  | connect peer cb =>
      cases hs
      exact keep id (by cases peer <;> exact hid)
  | complete c o =>
      cases hs
      rcases completeConnect_success w c o hid with hold | ⟨rfl, hok⟩
      · exact keep _ hold
      · exact ⟨c, o, List.mem_append_right _ (List.mem_singleton_self _), rfl, hok⟩
  | _ =>
      exact keep id ((step_quiet hs (fun _ _ => Event.noConfusion)
        (fun _ _ => Event.noConfusion)).connectCb_mem hid)

theorem SuccessReported.run {es es' : List Event} {w w' : World} (h : SuccessReported es w)
    (hrun : Run w es' w') : SuccessReported (es ++ es') w' := by
  induction hrun with
  | nil => simpa using h
  | snoc _ hs ih => rw [← List.append_assoc]; exact ih.step hs

/-- Along every run from a created service, a connect callback receives `TRUE` only from
the completion of its own call, and only when that call succeeded or failed with
`AlreadyConnected` (for a peer also `Operation aborted`), whatever else the run does. -/
theorem connect_success_sound {w₀ w : World} {es : List Event} (h₀ : Created w₀)
    (hrun : Run w₀ es w) {id : Nat} (hid : Effect.connectCb id true ∈ w.log) :
    ∃ c o, Event.complete c o ∈ es ∧ c.id = id ∧ ownResult c o = true := by
  obtain ⟨path, hq⟩ := created_quiet h₀
  have h : SuccessReported [] w₀ := fun _ hid => absurd (hq.connectCb_mem hid) (List.not_mem_nil _)
  simpa using h.run hrun id hid

/-- One connect, completed successfully: its callback gets `TRUE`. -/
theorem connect_success_sound_completed :
    let es := [Event.connect false true, .complete ⟨0, false, true⟩ .ok]
    let w := completeConnect (connmanServiceConnect true (freshWorld "/s")) ⟨0, false, true⟩ .ok
    Created (freshWorld "/s") ∧ Run (freshWorld "/s") es w ∧ Effect.connectCb 0 true ∈ w.log ∧
      ∃ c o, Event.complete c o ∈ es ∧ c.id = 0 ∧ ownResult c o = true := by
  intro es w
  have h₀ := created_fresh "/s" x86Env
  have hrun : Run (freshWorld "/s") es w :=
    .snoc (.single (.connect _ false true)) (.complete .ok (List.mem_singleton_self _))
  have hid : Effect.connectCb 0 true ∈ w.log := List.mem_singleton_self _
  exact ⟨h₀, hrun, hid, connect_success_sound h₀ hrun hid⟩

/-! ### What the property-change callback hears -/

/-- A completion only clears the token the service holds. -/
theorem connectCallbackWith_svc (alreadyConnected : String → Bool) (w : World) (c : Call)
    (o : Outcome) :
    (connectCallbackWith alreadyConnected w c o).svc = { w.svc with cancellable := none } := by
  unfold connectCallbackWith reportConnect releaseCancellable
  dsimp only
  split
  · next h =>
      rw [← h]
      split <;> rfl
  · split_ifs <;> rfl

theorem completeConnect_notesFollow (w : World) (c : Call) (o : Outcome) :
    NotesFollow w (completeConnect w c o) := by
  obtain ⟨ret, hl, -⟩ := completeConnect_spec w c o
  have hs : (completeConnect w c o).svc = { w.svc with cancellable := none } := by
    unfold completeConnect
    split <;> exact connectCallbackWith_svc _ w c o
  exact .of_silent hl (by split <;> rfl) (by split <;> rfl) (by rw [hs]) (by rw [hs])
    (by rw [hs])

/-- Every event keeps the notifications in step with the state and the online flag. -/
theorem step_notesFollow {w w' : World} {e : Event} (hs : Step w e w') : NotesFollow w w' := by
  cases e with
  | connect peer cb =>
      cases hs
      split <;> exact .of_silent (List.append_nil _).symm rfl rfl rfl rfl rfl
  | complete c o =>
      cases hs
      exact completeConnect_notesFollow w c o
  | _ => exact (step_quiet hs (fun _ _ => Event.noConfusion) (fun _ _ => Event.noConfusion)).notes

theorem run_notesFollow {w w' : World} {es : List Event} (hrun : Run w es w') :
    NotesFollow w w' := by
  induction hrun with
  | nil => exact .refl _
  | snoc _ hs ih => exact ih.trans (step_notesFollow hs)

/-- Once the property-change callback is registered, along every run it hears of each
change of the state and of the online flag and of nothing else: each `State`
notification announces a state other than the one before it, the first other than the
state at registration, and the last announces the current state; likewise for
`Online`. -/
theorem notifications_follow_changes {w w' : World} {es : List Event}
    (hr : w.svc.handlePropertyChangeFn = true) (hrun : Run w es w') :
    ∃ l, w'.log = w.log ++ l ∧
      (List.Chain (· ≠ ·) w.svc.state (notes "State" Value.getString l) ∧
        (notes "State" Value.getString l).getLastD w.svc.state = w'.svc.state) ∧
      (List.Chain (· ≠ ·) w.svc.online (notes "Online" Value.getBoolean l) ∧
        (notes "Online" Value.getBoolean l).getLastD w.svc.online = w'.svc.online) := by
  obtain ⟨-, l, hl, hs, ho⟩ := run_notesFollow hrun hr
  exact ⟨l, hl, (replayNotes_eq_some_iff _ _ _ _ _).mp hs,
    (replayNotes_eq_some_iff _ _ _ _ _).mp ho⟩

/-- A registered callback, then `State` pushed twice and `Online` once. -/
theorem notifications_follow_changes_ready_online :
    let w := connmanServiceRegisterPropertyChangedCb (freshWorld "/s") true
    let es := [Event.push "State" (.str "ready"), .push "State" (.str "ready"),
      .push "Online" (.boolean true)]
    let w' := propertyChangedCb x86Env (propertyChangedCb x86Env
      (propertyChangedCb x86Env w "State" (.str "ready")) "State" (.str "ready"))
      "Online" (.boolean true)
    w.svc.handlePropertyChangeFn = true ∧ Run w es w' ∧
      ∃ l, w'.log = w.log ++ l ∧
        (List.Chain (· ≠ ·) w.svc.state (notes "State" Value.getString l) ∧
          (notes "State" Value.getString l).getLastD w.svc.state = w'.svc.state) ∧
        (List.Chain (· ≠ ·) w.svc.online (notes "Online" Value.getBoolean l) ∧
          (notes "Online" Value.getBoolean l).getLastD w.svc.online = w'.svc.online) := by
  intro w es w'
  have hrun : Run w es w' :=
    .snoc (.snoc (.single (.push x86Env _ _ _)) (.push x86Env _ _ _)) (.push x86Env _ _ _)
  exact ⟨rfl, hrun, notifications_follow_changes rfl hrun⟩

end ConnmanService
