import ConnmanService.Callbacks

/-! # Cancellation tokens over runs

Each connect allocates a `GCancellable` with `g_cancellable_new` and stores it in
`service->cancellable`, over whatever token was there; a completion reads that field,
and if it holds a token releases it with `g_object_unref` and clears it; and
`connman_service_free` cancels the token it holds.  In the model the tokens are the
numbers `nextToken` hands out, and `unrefs` lists the tokens released, in order.

`TokensLive` is the lifetime invariant: no token was released twice, and a token the
service holds was allocated by the newest connect, whose call is still in flight, and
was never released.  A connect keeps it because its token is fresh, a completion because
it releases the token it holds and clears the field (`connectCallbackWith_tokens`), and
every other event because it is `Quiet`.  Hence `cancellable_live`: on every reachable
service, no `GCancellable` is unreferenced twice, and the one that
`g_cancellable_cancel`, `g_cancellable_is_cancelled` and `g_object_unref` are applied
to is live.  That a token overwritten by a second connect is never released at all is a
leak, not a double release.

Because every connect overwrites the one field, two overlapping connects go wrong in
three ways, each shown on a run from a new service: the first completion releases the
second connect's token, so a later `connman_service_free` releases the service while
the second call is still in flight (`connect_connect_free_releases_early`); while the
second connect is in flight the service holds no token, and the first connect's token
is never released (`connect_connect_token_state`); and the newest connect's callback
receives `FALSE` although its own remote call succeeded
(`connect_connect_latest_fails`).

`connman_service_free` with a token held only cancels it: "The cancel callback will free
service", its comment says, but neither completion ever releases the service; only a
free that finds no token does (`connmanServiceFree_released`).  So a service freed while a
connect is in flight stays unreleased along every run that does not free it again
(`free_in_flight_unreleased`), whatever completes in the meantime.

What the free does do is cancel: afterwards the service holds no token or a cancelled
one (`TokenCancelled`), every event but a connect keeps it so, and a completion then
reports `FALSE`.  Hence `no_success_after_free`: from a free to the next connect, no
connect callback receives `TRUE`, whatever the outcome of the calls that complete.  Nor
does the cancelled token leak: the first completion after the free releases it, and
until the next connect it stays released exactly once (`free_token_released_once`). -/

namespace ConnmanService

open World

/-! ### What a completion does to the tokens -/

/-- A completion releases the token the service holds, if any, and clears the field. -/
theorem connectCallbackWith_tokens (alreadyConnected : String → Bool) (w : World) (c : Call)
    (o : Outcome) :
    (connectCallbackWith alreadyConnected w c o).svc.cancellable = none ∧
      (connectCallbackWith alreadyConnected w c o).unrefs =
        w.unrefs ++ w.svc.cancellable.toList := by
  unfold connectCallbackWith reportConnect releaseCancellable
  dsimp only
  split
  · next h => split <;> simp [h, emit]
  · next t h => split_ifs <;> simp [h, emit]

theorem completeConnect_tokens (w : World) (c : Call) (o : Outcome) :
    (completeConnect w c o).svc.cancellable = none ∧
      (completeConnect w c o).unrefs = w.unrefs ++ w.svc.cancellable.toList := by
  unfold completeConnect
  split
  · exact connectCallbackWith_tokens _ w c o
  · exact connectCallbackWith_tokens _ w c o

/-! ### The lifetime invariant -/

/-- No token was released twice, every released token was allocated, and a token the
service holds was allocated by the newest connect, whose call is in flight, and was
never released. -/
structure TokensLive (w : World) : Prop where
  nodup : w.unrefs.Nodup
  released_lt : ∀ t ∈ w.unrefs, t < w.nextToken
  held : ∀ t, w.svc.cancellable = some t →
    t ∉ w.unrefs ∧ t + 1 = w.nextToken ∧ t ∈ w.pending.map Call.id

namespace TokensLive

variable {w w' : World}

theorem of_quiet (h : TokensLive w) (hq : Quiet w w') : TokensLive w' := by
  obtain ⟨-, -, hp, ht, hc, hu, -, -, -⟩ := hq
  exact ⟨hu ▸ h.nodup, by rw [hu, ht]; exact h.released_lt,
    by rw [hc, hu, ht, hp]; exact h.held⟩

/-- A connect stores a fresh token. -/
theorem connect (h : TokensLive w) (peer cb : Bool) : TokensLive (connectWith peer cb w) := by
  refine ⟨h.nodup, fun t ht => Nat.lt_succ_of_lt (h.released_lt t ht), ?_⟩
  rintro t ⟨⟩
  exact ⟨fun ht => Nat.lt_irrefl _ (h.released_lt _ ht), rfl,
    List.mem_map.mpr ⟨_, List.mem_append_right _ (List.mem_singleton_self _), rfl⟩⟩

/-- A completion releases the live token it finds, if any. -/
theorem complete (h : TokensLive w) (c : Call) (o : Outcome) :
    TokensLive (completeConnect w c o) := by
  obtain ⟨hc, hu⟩ := completeConnect_tokens w c o
  obtain ⟨-, -, -, -, ht⟩ := completeConnect_spec w c o
  refine ⟨?_, ?_, by simp [hc]⟩ <;> rw [hu]
  · cases hs : w.svc.cancellable with
    | none => simpa using h.nodup
    | some t =>
        refine List.nodup_append.mpr ⟨h.nodup, List.nodup_singleton t, ?_⟩
        intro a ha hb
        simp only [Option.toList_some, List.mem_singleton] at hb
        exact (h.held t hs).1 (hb ▸ ha)
  · rw [ht]
    cases hs : w.svc.cancellable with
    | none => simpa using h.released_lt
    | some t =>
        have hnext := (h.held t hs).2.1
        simp only [Option.toList_some, List.mem_append, List.mem_singleton]
        rintro u (hu | rfl)
        · exact h.released_lt u hu
        · omega

theorem step (h : TokensLive w) {e : Event} (hs : Step w e w') : TokensLive w' := by
  cases e with
  | connect peer cb =>
      cases hs
      cases peer <;> exact h.connect _ _
  | complete c o =>
      cases hs
      exact h.complete c o
  | _ =>
      have h' := h.of_quiet
        (step_quiet hs (fun _ _ => Event.noConfusion) fun _ _ => Event.noConfusion)
      exact ⟨h'.nodup, h'.released_lt, h'.held⟩

theorem run (h : TokensLive w) {es : List Event} (hrun : Run w es w') : TokensLive w' := by
  induction hrun with
  | nil => exact h
  | snoc _ hs ih => exact ih.step hs

end TokensLive

theorem tokensLive_of_created {w₀ : World} (h₀ : Created w₀) : TokensLive w₀ := by
  obtain ⟨path, hq⟩ := created_quiet h₀
  have h : TokensLive (freshWorld path) :=
    ⟨List.nodup_nil, by simp [freshWorld], by simp [freshWorld]⟩
  exact h.of_quiet hq

/-- On every reachable service no cancellation token has been released twice, and the
token the service holds, the one `connman_service_free` cancels and the next
completion checks and releases, belongs to the newest connect, whose call is still in
flight, and has not been released. -/
theorem cancellable_live {w : World} (hw : Reachable w) :
    w.unrefs.Nodup ∧ ∀ t, w.svc.cancellable = some t →
      t ∉ w.unrefs ∧ t + 1 = w.nextToken ∧ t ∈ w.pending.map Call.id := by
  obtain ⟨w₀, es, h₀, hrun⟩ := hw
  have h := (tokensLive_of_created h₀).run hrun
  exact ⟨h.nodup, h.held⟩

/-- Two connects around a completion: the first token is released, the second is held. -/
theorem cancellable_live_after_completion :
    let w := connmanServiceConnect true
      (completeConnect (connmanServiceConnect true (freshWorld "/s")) ⟨0, false, true⟩ .ok)
    Reachable w ∧ w.unrefs.Nodup ∧ ∀ t, w.svc.cancellable = some t →
      t ∉ w.unrefs ∧ t + 1 = w.nextToken ∧ t ∈ w.pending.map Call.id := by
  intro w
  have hw : Reachable w := ⟨_, _, created_fresh "/s" x86Env,
    .snoc (.snoc (.single (.connect _ false true)) (.complete .ok (List.mem_singleton_self _)))
      (.connect _ false true)⟩
  exact ⟨hw, cancellable_live hw⟩

/-! ### Overlapping connects -/

/-- The `n`-th connect issued on a fresh service, with a callback. -/
def serviceCall (n : Nat) : Call := ⟨n, false, true⟩

/-- Two connects, then the first one completes successfully. -/
theorem run_connect_connect_complete (path : String) :
    Run (freshWorld path) [.connect false true, .connect false true, .complete (serviceCall 0) .ok]
      (completeConnect (connmanServiceConnect true (connmanServiceConnect true (freshWorld path)))
        (serviceCall 0) .ok) :=
  .snoc (.snoc (.single (.connect _ false true)) (.connect _ false true))
    (.complete .ok (List.mem_cons_self _ _))

theorem connect_connect_free_releases_early (env : Env) (path : String) :
    ∃ w, Run (freshWorld path)
        [.connect false true, .connect false true, .complete (serviceCall 0) .ok, .free] w ∧
      w.released = true ∧ w.pending = [serviceCall 1] := by
  refine ⟨_, .snoc (run_connect_connect_complete path) (.free env _), rfl, ?_⟩
  have hc : (completeConnect (connmanServiceConnect true (connmanServiceConnect true
      (freshWorld path))) (serviceCall 0) .ok).svc.cancellable = none := rfl
  simp only [connmanServiceFree, hc]
  split <;> rfl

theorem connect_connect_token_state (path : String) :
    (∃ w, Run (freshWorld path)
        [.connect false true, .connect false true, .complete (serviceCall 0) .ok] w ∧
      w.svc.cancellable = none ∧ w.pending = [serviceCall 1]) ∧
    ∃ w, Run (freshWorld path) [.connect false true, .connect false true,
        .complete (serviceCall 0) .ok, .complete (serviceCall 1) .ok] w ∧
      w.pending = [] ∧ 0 < w.nextToken ∧ 0 ∉ w.unrefs :=
  ⟨⟨_, run_connect_connect_complete path, rfl, rfl⟩,
    ⟨_, .snoc (run_connect_connect_complete path) (.complete .ok (List.mem_cons_self _ _)), rfl,
      Nat.succ_pos _, show 0 ∉ [1] by decide⟩⟩

theorem connect_connect_latest_fails (path : String) :
    ∃ w, Run (freshWorld path) [.connect false true, .connect false true,
        .complete (serviceCall 0) .ok, .complete (serviceCall 1) .ok] w ∧
      w.log = [.connectCb 0 true, .connectCb 1 false] :=
  ⟨_, .snoc (run_connect_connect_complete path) (.complete .ok (List.mem_cons_self _ _)), rfl⟩

/-! ### The deferred release -/

theorem connectCallbackWith_released (alreadyConnected : String → Bool) (w : World) (c : Call)
    (o : Outcome) : (connectCallbackWith alreadyConnected w c o).released = w.released := by
  unfold connectCallbackWith reportConnect releaseCancellable
  dsimp only
  split
  · split <;> rfl
  · split_ifs <;> rfl

theorem completeConnect_released (w : World) (c : Call) (o : Outcome) :
    (completeConnect w c o).released = w.released := by
  unfold completeConnect
  split <;> exact connectCallbackWith_released _ w c o

/-- Only `connman_service_free` changes the release of the service. -/
theorem step_released {w w' : World} {e : Event} (hs : Step w e w') (hf : e ≠ .free) :
    w'.released = w.released := by
  cases e with
  | connect peer cb =>
      cases hs
      cases peer <;> rfl
  | complete c o =>
      cases hs
      exact completeConnect_released w c o
  | free => exact absurd rfl hf
  | _ =>
      exact (step_quiet_of_ne_free hs (fun _ _ => Event.noConfusion)
        (fun _ _ => Event.noConfusion) hf).released

theorem run_released {w w' : World} {es : List Event} (hrun : Run w es w')
    (hf : Event.free ∉ es) : w'.released = w.released := by
  induction hrun with
  | nil => rfl
  | snoc _ hs ih =>
      simp only [List.mem_append, List.mem_singleton, not_or] at hf
      exact (step_released hs (Ne.symm hf.2)).trans (ih hf.1)

/-- A service freed while it holds a cancellation token, that is with a connect in
flight, is not released by the completion: it stays unreleased along every run that
does not call `connman_service_free` again. -/
theorem free_in_flight_unreleased {env : Env} {w w' : World} {es : List Event}
    (ht : w.svc.cancellable ≠ none) (hr : w.released = false)
    (hrun : Run (connmanServiceFree env w) es w') (hf : Event.free ∉ es) :
    w'.released = false := by
  rw [run_released hrun hf, connmanServiceFree_released, hr, Bool.false_or]
  exact Bool.eq_false_iff.mpr fun h => ht (Option.isNone_iff_eq_none.mp h)

/-- A connect, a free, and the completion of the connect. -/
theorem free_in_flight_unreleased_completed :
    let w := connmanServiceConnect true (freshWorld "/s")
    let w' := completeConnect (connmanServiceFree x86Env w) ⟨0, false, true⟩ .ok
    w.svc.cancellable ≠ none ∧ w.released = false ∧
      Run (connmanServiceFree x86Env w) [.complete ⟨0, false, true⟩ .ok] w' ∧
      Event.free ∉ [Event.complete ⟨0, false, true⟩ .ok] ∧ w'.released = false := by
  intro w w'
  have hrun : Run (connmanServiceFree x86Env w) [.complete ⟨0, false, true⟩ .ok] w' :=
    .single (.complete .ok (List.mem_singleton_self _))
  have ht : w.svc.cancellable ≠ none := Option.some_ne_none _
  have hf : Event.free ∉ [Event.complete ⟨0, false, true⟩ .ok] := by simp
  exact ⟨ht, rfl, hrun, hf, free_in_flight_unreleased ht rfl hrun hf⟩

/-! ### What a free does to the completions -/

/-- The token `service->cancellable` holds, if any, was cancelled. -/
def TokenCancelled (w : World) : Prop := ∀ t, w.svc.cancellable = some t → t ∈ w.cancelled

/-- After `connman_service_free` the service holds no token, or one it has just
cancelled. -/
theorem connmanServiceFree_tokenCancelled (env : Env) (w : World) :
    TokenCancelled (connmanServiceFree env w) := by
  intro t h
  have hc : (connmanServiceFree env w).svc.cancellable = w.svc.cancellable :=
    (connmanServiceFree_quiet env w).cancellable
  rw [hc] at h
  simp only [connmanServiceFree, h]
  exact List.mem_concat_self _ _

theorem completeConnect_tokenCancelled (w : World) (c : Call) (o : Outcome) :
    TokenCancelled (completeConnect w c o) := by
  intro t h
  rw [(completeConnect_tokens w c o).1] at h
  cases h

/-- A completion while the service holds no token, or a cancelled one, reports `FALSE`
whatever the outcome. -/
theorem connectCallbackWith_cancelled (alreadyConnected : String → Bool) (w : World)
    (c : Call) (o : Outcome) (h : TokenCancelled w) {id : Nat}
    (hid : Effect.connectCb id true ∈ (connectCallbackWith alreadyConnected w c o).log) :
    Effect.connectCb id true ∈ w.log := by
  unfold connectCallbackWith reportConnect releaseCancellable at hid
  dsimp only at hid
  split at hid
  · split at hid <;> simp_all [emit]
  · next t ht =>
      rw [if_pos (h t ht)] at hid
      split at hid <;> simp_all [emit]

theorem completeConnect_cancelled (w : World) (c : Call) (o : Outcome) (h : TokenCancelled w)
    {id : Nat} (hid : Effect.connectCb id true ∈ (completeConnect w c o).log) :
    Effect.connectCb id true ∈ w.log := by
  unfold completeConnect at hid
  split at hid <;> exact connectCallbackWith_cancelled _ w c o h hid

/-- Every event but a connect keeps the token cancelled, and adds no `TRUE` report. -/
theorem TokenCancelled.step {w w' : World} {e : Event} (h : TokenCancelled w)
    (hs : Step w e w') (hc : ∀ peer cb, e ≠ .connect peer cb) :
    TokenCancelled w' ∧
      ∀ id, Effect.connectCb id true ∈ w'.log → Effect.connectCb id true ∈ w.log := by
  cases e with
  | connect peer cb => exact absurd rfl (hc peer cb)
  | complete c o =>
      cases hs
      exact ⟨completeConnect_tokenCancelled w c o, fun _ => completeConnect_cancelled w c o h⟩
  | free =>
      cases hs
      exact ⟨connmanServiceFree_tokenCancelled _ w,
        fun _ => (connmanServiceFree_quiet _ w).connectCb_mem⟩
  | _ =>
      have hq := step_quiet_of_ne_free hs (fun _ _ => Event.noConfusion)
        (fun _ _ => Event.noConfusion) Event.noConfusion
      refine ⟨fun t ht => ?_, fun _ => hq.connectCb_mem⟩
      rw [hq.cancelled]
      exact h t (hq.cancellable.symm.trans ht)

theorem TokenCancelled.run {w w' : World} {es : List Event} (h : TokenCancelled w)
    (hrun : Run w es w') (hc : ∀ peer cb, Event.connect peer cb ∉ es) :
    TokenCancelled w' ∧
      ∀ id, Effect.connectCb id true ∈ w'.log → Effect.connectCb id true ∈ w.log := by
  induction hrun with
  | nil => exact ⟨h, fun _ => id⟩
  | snoc _ hs ih =>
      obtain ⟨h₁, hl₁⟩ := ih fun p b hm => hc p b (List.mem_append_left _ hm)
      obtain ⟨h₂, hl₂⟩ := h₁.step hs fun p b he =>
        hc p b (List.mem_append_right _ (he ▸ List.mem_singleton_self _))
      exact ⟨h₂, fun i hi => hl₁ i (hl₂ i hi)⟩

/-- After `connman_service_free`, with or without a connect in flight, no connect callback
receives `TRUE` until the next connect: every `TRUE` report of the log was there before
the free, whatever completes in the meantime and with whatever outcome. -/
theorem no_success_after_free {env : Env} {w w' : World} {es : List Event}
    (hrun : Run (connmanServiceFree env w) es w') (hc : ∀ peer cb, Event.connect peer cb ∉ es) :
    ∀ id, Effect.connectCb id true ∈ w'.log → Effect.connectCb id true ∈ w.log :=
  fun id hid => (connmanServiceFree_quiet env w).connectCb_mem
    (((connmanServiceFree_tokenCancelled env w).run hrun hc).2 id hid)

/-- A connect, a free, and the successful completion of the connect: its callback gets
`FALSE`. -/
theorem no_success_after_free_completed :
    let w := connmanServiceConnect true (freshWorld "/s")
    let w' := completeConnect (connmanServiceFree x86Env w) ⟨0, false, true⟩ .ok
    Run (connmanServiceFree x86Env w) [.complete ⟨0, false, true⟩ .ok] w' ∧
      (∀ peer cb, Event.connect peer cb ∉ [Event.complete ⟨0, false, true⟩ .ok]) ∧
      w'.log = [.connectCb 0 false] ∧
      ∀ id, Effect.connectCb id true ∈ w'.log → Effect.connectCb id true ∈ w.log := by
  intro w w'
  have hrun : Run (connmanServiceFree x86Env w) [.complete ⟨0, false, true⟩ .ok] w' :=
    .single (.complete .ok (List.mem_singleton_self _))
  have hc : ∀ peer cb, Event.connect peer cb ∉ [Event.complete ⟨0, false, true⟩ .ok] := by
    simp
  exact ⟨hrun, hc, rfl, no_success_after_free hrun hc⟩

/-- Token `t` has been released, and the service holds no token. -/
def TokenReleased (t : Nat) (w : World) : Prop := w.svc.cancellable = none ∧ t ∈ w.unrefs

/-- A completion releases the token it finds, and keeps a released one released. -/
theorem completeConnect_tokenReleased {w : World} {t : Nat}
    (h : w.svc.cancellable = some t ∨ TokenReleased t w) (c : Call) (o : Outcome) :
    TokenReleased t (completeConnect w c o) := by
  obtain ⟨hc, hu⟩ := completeConnect_tokens w c o
  refine ⟨hc, ?_⟩
  rw [hu]
  rcases h with ht | ⟨-, hm⟩
  · rw [ht]
    exact List.mem_append_right _ (List.mem_singleton_self t)
  · exact List.mem_append_left _ hm

/-- Along a run without a connect, a token the service holds stays held until a
completion, which releases it; from then on it stays released. -/
theorem tokenReleased_run {w w' : World} {es : List Event} {t : Nat}
    (h : w.svc.cancellable = some t) (hrun : Run w es w')
    (hc : ∀ peer cb, Event.connect peer cb ∉ es) :
    TokenReleased t w' ∨ (w'.svc.cancellable = some t ∧ ∀ c o, Event.complete c o ∉ es) := by
  induction hrun with
  | nil => exact .inr ⟨h, fun _ _ => List.not_mem_nil _⟩
  | @snoc _ _ es e _ hs ih =>
      have ih := ih fun p b hm => hc p b (List.mem_append_left _ hm)
      have hce : ∀ peer cb, e ≠ .connect peer cb := fun p b he =>
        hc p b (List.mem_append_right _ (he ▸ List.mem_singleton_self _))
      cases e with
      | connect peer cb => exact absurd rfl (hce peer cb)
      | complete c o =>
          cases hs
          exact .inl (completeConnect_tokenReleased (ih.imp_right And.left).symm c o)
      | _ =>
          -- any other event keeps the token field and the released tokens
          have hq := step_quiet hs hce fun _ _ => Event.noConfusion
          rcases ih with ⟨hn, hm⟩ | ⟨ht, hn⟩
          · exact .inl ⟨hq.cancellable.trans hn, hq.unrefs ▸ hm⟩
          · exact .inr ⟨hq.cancellable.trans ht, fun c o hm => (List.mem_append.mp hm).elim
              (hn c o) fun he => Event.noConfusion (List.mem_singleton.mp he)⟩

/-- A connect cancelled by `connman_service_free` neither leaks its token nor releases it
twice: once a completion has run after the free, for whichever call, the service holds
no token and the cancelled one has been released exactly once, along every run that
starts no new connect. -/
theorem free_token_released_once {env : Env} {w w' : World} {es : List Event} {t : Nat}
    (hw : Reachable w) (ht : w.svc.cancellable = some t)
    (hrun : Run (connmanServiceFree env w) es w') (hc : ∀ peer cb, Event.connect peer cb ∉ es)
    (hd : ∃ c o, Event.complete c o ∈ es) :
    w'.svc.cancellable = none ∧ w'.unrefs.count t = 1 := by
  have hf : (connmanServiceFree env w).svc.cancellable = some t :=
    (connmanServiceFree_quiet env w).cancellable.trans ht
  obtain ⟨w₀, es₀, h₀, hrun₀⟩ := hw
  have hlive : TokensLive w' :=
    (tokensLive_of_created h₀).run (run_append (hrun₀.snoc (.free env w)) hrun)
  rcases tokenReleased_run hf hrun hc with ⟨hn, hm⟩ | ⟨-, hno⟩
  · exact ⟨hn, List.count_eq_one_of_mem hlive.nodup hm⟩
  · obtain ⟨c, o, hm⟩ := hd
    exact absurd hm (hno c o)

/-- A connect, a free, and the completion of the connect: the token is released once. -/
theorem free_token_released_once_completed :
    let w := connmanServiceConnect true (freshWorld "/s")
    let w' := completeConnect (connmanServiceFree x86Env w) ⟨0, false, true⟩ .ok
    Reachable w ∧ w.svc.cancellable = some 0 ∧
      Run (connmanServiceFree x86Env w) [.complete ⟨0, false, true⟩ .ok] w' ∧
      (∀ peer cb, Event.connect peer cb ∉ [Event.complete ⟨0, false, true⟩ .ok]) ∧
      (∃ c o, Event.complete c o ∈ [Event.complete ⟨0, false, true⟩ .ok]) ∧
      w'.svc.cancellable = none ∧ w'.unrefs.count 0 = 1 := by
  intro w w'
  have hw : Reachable w := ⟨_, _, created_fresh "/s" x86Env, .single (.connect _ false true)⟩
  have hrun : Run (connmanServiceFree x86Env w) [.complete ⟨0, false, true⟩ .ok] w' :=
    .single (.complete .ok (List.mem_singleton_self _))
  have hc : ∀ peer cb, Event.connect peer cb ∉ [Event.complete ⟨0, false, true⟩ .ok] := by
    simp
  have hd : ∃ c o, Event.complete c o ∈ [Event.complete ⟨0, false, true⟩ .ok] :=
    ⟨_, _, List.mem_singleton_self _⟩
  exact ⟨hw, rfl, hrun, hc, hd, free_token_released_once hw rfl hrun hc hd⟩

end ConnmanService
