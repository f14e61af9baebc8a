import ConnmanService.System

/-! # Suppressed state events

A `State` event (a push of `State`, or a snapshot holding only it) is suppressed when the
service is disconnecting and the value is neither `ready` nor `online`.  The flag is set
by every disconnect and remove call, whatever the reply, cleared by every connect call
and by the suppression itself, and left alone by `ready`/`online` values and by every
other accepted state change.

`Armed hist` is the same condition computed event by event over the history of calls
and events; `Window hist` states it over the whole history (`armed_iff_window`): there
was a disconnect or remove call, and since the most recent one no connect call and no
suppressed State event.  Along every run of
State events, connect and disconnect calls from a service that is not disconnecting,
`disconnecting_eq_armed` says the code's flag is `Armed hist`; hence
`stateEvent_suppression`: a State event is suppressed exactly when its value is neither
`ready` nor `online` and the history is in the window of a disconnect call, a suppressed event leaves the state, the
change mask and the callbacks alone, every other one stores its value, at most one
event is suppressed per disconnect call, and with no such call the state is the last
value delivered. -/

namespace ConnmanService

open World

/-! ### Events of the law -/

/-- The value a `State` event delivers. -/
def Event.stateValue : Event → Option Value
  | .push "State" v => some v
  | .snapshot [("State", v)] => some v
  | _ => none

/-- A connect call, on a service or a peer. -/
def Event.isConnect : Event → Bool
  | .connect _ _ => true
  | _ => false

/-- A disconnect or remove call, whatever its reply. -/
def Event.isDisconnect : Event → Bool
  | .command .disconnect _ | .command .peerDisconnect _ | .command .remove _ => true
  | _ => false

/-- The events of the law: State events, connect calls and disconnect calls. -/
def Event.InStateRun (e : Event) : Prop :=
  e.stateValue.isSome ∨ e.isConnect = true ∨ e.isDisconnect = true

/-- A `State` value that is neither `ready` nor `online`. -/
def notReadyOnline (v : Value) : Bool :=
  v.getString != some "ready" && v.getString != some "online"

theorem advanceStateSuppresses_eq (s : Service) (v : Value) :
    advanceStateSuppresses s v.getString = (s.disconnecting && notReadyOnline v) := by
  simp [advanceStateSuppresses, notReadyOnline, Bool.and_assoc]

theorem stateValue_isConnect {e : Event} {v : Value} (h : e.stateValue = some v) :
    e.isConnect = false := by
  cases e <;> simp_all [Event.isConnect, Event.stateValue]

theorem stateValue_isDisconnect {e : Event} {v : Value} (h : e.stateValue = some v) :
    e.isDisconnect = false := by
  cases e with
  | command c o => cases c <;> simp_all [Event.stateValue, Event.isDisconnect]
  | _ => rfl

theorem isConnect_isDisconnect {e : Event} (h : e.isConnect = true) : e.isDisconnect = false := by
  cases e <;> simp_all [Event.isConnect, Event.isDisconnect]

/-! ### The history -/

/-- One event of the history: a disconnect call arms, a connect call disarms, a State
event disarms when it is suppressed. -/
def armedAfter (armed : Bool) (e : Event) : Bool :=
  if e.isDisconnect then true
  else if e.isConnect then false
  else
    match e.stateValue with
    | some v => armed && !(armed && notReadyOnline v)
    | none => armed

/-- The history since creation leaves the next non-`ready`/`online` State event to be
suppressed. -/
def Armed (hist : List Event) : Bool := hist.foldl armedAfter false

/-- The State event at position `i` of the history is suppressed. -/
def SuppressedAt (hist : List Event) (i : Nat) : Prop :=
  ∃ v, (hist[i]?).bind Event.stateValue = some v ∧ notReadyOnline v = true ∧
    Armed (hist.take i) = true

instance (hist : List Event) (i : Nat) : Decidable (SuppressedAt hist i) :=
  match h : (hist[i]?).bind Event.stateValue with
  | some v =>
      decidable_of_iff (notReadyOnline v = true ∧ Armed (hist.take i) = true)
        ⟨fun hv => ⟨v, h, hv⟩, fun ⟨_, h', hv⟩ => by rw [h] at h'; cases h'; exact hv⟩
  | none => isFalse fun ⟨_, h', _⟩ => by rw [h] at h'; cases h'

/-- The number of suppressed State events in the history. -/
def suppressedCount (hist : List Event) : Nat :=
  ((List.range hist.length).filter fun i => decide (SuppressedAt hist i)).length

/-- The number of disconnect and remove calls in the history. -/
def disconnectCount (hist : List Event) : Nat := hist.countP Event.isDisconnect

/-- The last State value of the history. -/
def lastStateValue (hist : List Event) : Option Value :=
  hist.foldl (fun last e => e.stateValue.or last) none

/-- The event suppresses itself after an armed history. -/
def suppresses (armed : Bool) (e : Event) : Bool :=
  match e.stateValue with
  | some v => armed && notReadyOnline v
  | none => false

@[simp] theorem armed_nil : Armed [] = false := rfl

@[simp] theorem armed_snoc (hist : List Event) (e : Event) :
    Armed (hist ++ [e]) = armedAfter (Armed hist) e := by
  simp [Armed]

theorem suppressedAt_snoc_lt {hist : List Event} {e : Event} {i : Nat} (hi : i < hist.length) :
    SuppressedAt (hist ++ [e]) i ↔ SuppressedAt hist i := by
  simp only [SuppressedAt, List.getElem?_append_left hi, List.take_append_of_le_length hi.le]

theorem suppressedAt_snoc_length (hist : List Event) (e : Event) :
    SuppressedAt (hist ++ [e]) hist.length ↔ suppresses (Armed hist) e = true := by
  simp only [SuppressedAt, List.getElem?_concat_length, Option.some_bind, List.take_left',
    suppresses]
  split <;> simp_all [and_comm]

theorem suppressedCount_snoc (hist : List Event) (e : Event) :
    suppressedCount (hist ++ [e]) =
      suppressedCount hist + if suppresses (Armed hist) e then 1 else 0 := by
  have hcongr : (List.range hist.length).filter (fun i => decide (SuppressedAt (hist ++ [e]) i)) =
      (List.range hist.length).filter (fun i => decide (SuppressedAt hist i)) :=
    List.filter_congr fun i hi => by
      rw [decide_eq_decide]; exact suppressedAt_snoc_lt (List.mem_range.mp hi)
  simp only [suppressedCount, List.length_append, List.length_singleton, List.range_succ,
    List.filter_append, hcongr, List.length_append, List.filter_singleton,
    decide_eq_true_eq, suppressedAt_snoc_length]
  by_cases h : suppresses (Armed hist) e <;> simp [h]

theorem disconnectCount_snoc (hist : List Event) (e : Event) :
    disconnectCount (hist ++ [e]) = disconnectCount hist + if e.isDisconnect then 1 else 0 := by
  simp only [disconnectCount, List.countP_append, List.countP_cons, List.countP_nil]
  cases e.isDisconnect <;> rfl

theorem armedAfter_eq (armed : Bool) (e : Event) :
    armedAfter armed e =
      (e.isDisconnect || (!e.isConnect && armed && !suppresses armed e)) := by
  unfold armedAfter suppresses
  cases e.isDisconnect <;> cases e.isConnect <;> simp only [if_true, if_false,
    Bool.false_eq_true, Bool.true_or, Bool.false_or, Bool.not_true, Bool.not_false,
    Bool.true_and, Bool.false_and]
  split <;> simp

/-- Each suppressed State event uses up the disconnect call that armed it. -/
theorem suppressedCount_add_armed_le (hist : List Event) :
    suppressedCount hist + (if Armed hist then 1 else 0) ≤ disconnectCount hist := by
  induction hist using List.reverseRecOn with
  | nil => rfl
  | append_singleton hist e ih =>
      rw [suppressedCount_snoc, disconnectCount_snoc, armed_snoc, armedAfter_eq]
      have hsa : suppresses (Armed hist) e = true → Armed hist = true := by
        unfold suppresses; split <;> simp_all
      generalize suppresses (Armed hist) e = s at hsa ⊢
      generalize Armed hist = a at ih hsa ⊢
      cases e.isDisconnect <;> cases e.isConnect <;> cases a <;> cases s <;> simp_all <;> omega

/-- The window of the most recent disconnect call: since it, no connect call, no other
disconnect call and no suppressed State event. -/
def Window (hist : List Event) : Prop :=
  ∃ k, ∃ hk : k < hist.length, hist[k].isDisconnect = true ∧
    ∀ j (hj : j < hist.length), k < j →
      hist[j].isConnect = false ∧ hist[j].isDisconnect = false ∧ ¬SuppressedAt hist j

theorem window_snoc (hist : List Event) (e : Event) :
    Window (hist ++ [e]) ↔ e.isDisconnect = true ∨
      (Window hist ∧ e.isConnect = false ∧ e.isDisconnect = false ∧
        suppresses (Armed hist) e = false) := by
  have hlen : hist.length < (hist ++ [e]).length := by simp
  have hlast : (hist ++ [e])[hist.length] = e := List.getElem_concat_length _ _ _ rfl _
  constructor
  · rintro ⟨k, hk, hkd, hall⟩
    rw [List.length_append, List.length_singleton] at hk
    rcases Nat.lt_succ_iff_lt_or_eq.mp hk with hk | rfl
    · right
      obtain ⟨hc, hd, hsup⟩ := hall hist.length (by simp) hk
      rw [hlast] at hc hd
      refine ⟨⟨k, hk, by rwa [List.getElem_append_left hk] at hkd, fun j hj hkj => ?_⟩, hc, hd,
        by simpa [suppressedAt_snoc_length] using hsup⟩
      obtain ⟨hc, hd, hsup⟩ := hall j (by simp; omega) hkj
      rw [List.getElem_append_left hj] at hc hd
      exact ⟨hc, hd, fun h => hsup ((suppressedAt_snoc_lt hj).mpr h)⟩
    · exact .inl (by rwa [hlast] at hkd)
  · rintro (hd | ⟨⟨k, hk, hkd, hall⟩, hc, hd, hs⟩)
    · exact ⟨hist.length, by simp, by rwa [hlast], fun j hj hkj => by simp at hj; omega⟩
    · refine ⟨k, by simp; omega, by rwa [List.getElem_append_left hk], fun j hj hkj => ?_⟩
      rw [List.length_append, List.length_singleton] at hj
      rcases Nat.lt_succ_iff_lt_or_eq.mp hj with hj | rfl
      · obtain ⟨hc', hd', hs'⟩ := hall j hj hkj
        rw [List.getElem_append_left hj]
        exact ⟨hc', hd', fun h => hs' ((suppressedAt_snoc_lt hj).mp h)⟩
      · rw [hlast]
        exact ⟨hc, hd, by simpa [suppressedAt_snoc_length] using hs⟩

/-- The flag computed event by event is set exactly when the history is in the window
of a disconnect: there was a disconnect or remove call, and since the most recent one
no connect call and no suppressed State event. -/
theorem armed_iff_window (hist : List Event) : Armed hist = true ↔ Window hist := by
  induction hist using List.reverseRecOn with
  | nil => simp [Window]
  | append_singleton hist e ih =>
      rw [window_snoc, armed_snoc, armedAfter_eq, ← ih]
      cases e.isDisconnect <;> cases e.isConnect <;> cases Armed hist <;>
        cases suppresses _ e <;> simp

/-! ### Steps -/

/-- The fields a State event decides. -/
def stateFields (s : Service) : Option String × BitVec 32 × Bool :=
  (s.state, s.changeMask, s.disconnecting)

theorem stateFields_of_mirror {s t : Service} (h : s.mirror = t.mirror) :
    stateFields s = stateFields t := by
  simp only [Service.mirror, Mirror.mk.injEq] at h
  simp [stateFields, h]

theorem stateValue_eq_some {e : Event} {v : Value} (h : e.stateValue = some v) :
    e = .push "State" v ∨ e = .snapshot [("State", v)] := by
  unfold Event.stateValue at h
  split at h <;> simp_all

theorem advanceStateSvc_disconnecting (s : Service) (v : Value) :
    (advanceStateSvc s v).disconnecting =
      (s.disconnecting && !(s.disconnecting && notReadyOnline v)) := by
  unfold advanceStateSvc
  rw [advanceStateSuppresses_eq]
  split_ifs with h1 <;> simp_all [connmanServiceSetChanged]

theorem advanceStateSvc_of_suppresses {s : Service} {v : Value}
    (h : advanceStateSuppresses s v.getString = true) :
    (advanceStateSvc s v).state = s.state ∧ (advanceStateSvc s v).changeMask = s.changeMask := by
  simp [advanceStateSvc, h]

theorem advanceStateSvc_state {s : Service} {v : Value}
    (h : advanceStateSuppresses s v.getString = false) : (advanceStateSvc s v).state = v.getString := by
  unfold advanceStateSvc
  simp only [h, Bool.false_eq_true, if_false]
  split_ifs with hs
  · exact hs
  · rfl

/-- A State event acts on the state fields as `advanceStateSvc`, and a suppressed one
calls no property-change callback. -/
theorem stateEvent_step {w w' : World} {e : Event} {v : Value} (he : e.stateValue = some v)
    (hs : Step w e w') :
    stateFields w'.svc = stateFields (advanceStateSvc w.svc v) ∧
      (advanceStateSuppresses w.svc v.getString = true →
        callbackCalls w'.log = callbackCalls w.log) := by
  rcases stateValue_eq_some he with rfl | rfl
  · cases hs with
    | push env =>
        obtain ⟨p, hp, hcp⟩ := propertyChangedCb_eq env w "State" v
        rw [hp]
        refine ⟨stateFields_of_mirror (advanceState_mirror env _ v), fun h => ?_⟩
        change callbackCalls (connmanServiceAdvanceState env _ v).log = _
        rw [advanceState_of_suppresses (by simpa using h)]
        simp only [setSvc_log, prependLog_log, List.nil_append, callbackCalls_append, hcp,
          List.append_nil]
  · cases hs with
    | snapshot env fuel h =>
        rw [updateProperties_single_of_some (by decide) h]
        obtain ⟨hf, hl⟩ := updateProperty_state env w v
        have hs : stateFields (updateProperty env w "State" v).svc =
            stateFields (connmanServiceAdvanceState env w v).svc := by
          simp only [decodedFields, Prod.mk.injEq] at hf
          simp only [stateFields, hf]
        refine ⟨hs.trans (stateFields_of_mirror (advanceState_mirror env w v)), fun hsup => ?_⟩
        rw [hl, advanceState_of_suppresses hsup]
        rfl

theorem connect_step {w w' : World} {e : Event} (he : e.isConnect = true) (hs : Step w e w') :
    w'.svc.disconnecting = false ∧ w'.svc.state = w.svc.state := by
  cases hs <;> simp_all [Event.isConnect]
  split <;> exact ⟨rfl, rfl⟩

theorem disconnect_step {w w' : World} {e : Event} (he : e.isDisconnect = true)
    (hs : Step w e w') : w'.svc.disconnecting = true ∧ w'.svc.state = w.svc.state := by
  cases hs with
  | command w c o => cases c <;> simp_all [Event.isDisconnect] <;> exact ⟨rfl, rfl⟩
  | _ => simp_all [Event.isDisconnect]

/-! ### The flag is the history -/

/-- Along a run of the law's events from a service that is not disconnecting, the flag
is `Armed` of the history. -/
theorem disconnecting_eq_armed {w₀ w : World} {hist : List Event} (hrun : Run w₀ hist w)
    (h0 : w₀.svc.disconnecting = false) (halph : ∀ e ∈ hist, e.InStateRun) :
    w.svc.disconnecting = Armed hist := by
  induction hrun with
  | nil => simpa using h0
  | @snoc w₁ w₂ es e _ hs ih =>
      rw [armed_snoc, ← ih fun e he => halph e (List.mem_append_left _ he)]
      rcases halph e (by simp) with hsv | hc | hd
      · obtain ⟨v, hv⟩ := Option.isSome_iff_exists.mp hsv
        have h := congrArg (fun x => x.2.2) (stateEvent_step hv hs).1
        simp only [stateFields] at h
        rw [h, advanceStateSvc_disconnecting]
        simp [armedAfter, stateValue_isDisconnect hv, stateValue_isConnect hv, hv]
      · simp [armedAfter, (connect_step hc hs).1, hc, isConnect_isDisconnect hc]
      · simp [armedAfter, (disconnect_step hd hs).1, hd]

/-! ### The law -/

theorem lastStateValue_snoc (hist : List Event) (e : Event) :
    lastStateValue (hist ++ [e]) = e.stateValue.or (lastStateValue hist) := by
  simp [lastStateValue]

theorem armed_of_no_disconnect {hist : List Event} (h : disconnectCount hist = 0) :
    Armed hist = false := by
  have := suppressedCount_add_armed_le hist
  cases ha : Armed hist <;> simp_all

/-- With no disconnect call in the history, the state is the last State value. -/
theorem state_eq_lastStateValue {w₀ w : World} {hist : List Event} (hrun : Run w₀ hist w)
    (h0 : w₀.svc.disconnecting = false) (halph : ∀ e ∈ hist, e.InStateRun)
    (hd : disconnectCount hist = 0) :
    ∀ v, lastStateValue hist = some v → w.svc.state = v.getString := by
  induction hrun with
  | nil => simp [lastStateValue]
  | @snoc w₁ w₂ es e hr hs ih =>
      have hes : ∀ e ∈ es, e.InStateRun := fun e he => halph e (List.mem_append_left _ he)
      have hdes : disconnectCount es = 0 := by rw [disconnectCount_snoc] at hd; omega
      intro v hv
      rw [lastStateValue_snoc] at hv
      cases hsv : e.stateValue with
      | some v' =>
          rw [hsv] at hv
          cases hv
          have hflag := disconnecting_eq_armed hr h0 hes
          rw [armed_of_no_disconnect hdes] at hflag
          have hsup : advanceStateSuppresses w₁.svc v.getString = false := by
            simp [advanceStateSuppresses_eq, hflag]
          rw [← advanceStateSvc_state hsup]
          exact congrArg Prod.fst (stateEvent_step hsv hs).1
      | none =>
          rw [hsv] at hv
          rcases halph e (by simp) with h | hc | hde
          · simp [hsv] at h
          · rw [(connect_step hc hs).2]; exact ih hes hdes v hv
          · rw [disconnectCount_snoc, hde] at hd; simp at hd

/-- The suppression law.  Along every run of State events, connect calls and disconnect
or remove calls from a service that is not disconnecting, the next State event is
suppressed exactly when its value is neither `ready` nor `online` and the history is in
the window of a disconnect call; a suppressed event leaves the state, the change mask and the property-change
callback alone, and every other one stores its value.  At most one State event is
suppressed per disconnect call, and with no disconnect call the state is the last
State value delivered. -/
theorem stateEvent_suppression {w₀ w : World} {hist : List Event} (hrun : Run w₀ hist w)
    (h0 : w₀.svc.disconnecting = false) (halph : ∀ e ∈ hist, e.InStateRun) :
    (∀ e v w', e.stateValue = some v → Step w e w' →
      (advanceStateSuppresses w.svc v.getString = true ↔
          notReadyOnline v = true ∧ Window hist) ∧
      (advanceStateSuppresses w.svc v.getString = true →
          w'.svc.state = w.svc.state ∧ w'.svc.changeMask = w.svc.changeMask ∧
            callbackCalls w'.log = callbackCalls w.log) ∧
      (advanceStateSuppresses w.svc v.getString = false → w'.svc.state = v.getString)) ∧
    suppressedCount hist ≤ disconnectCount hist ∧
    (disconnectCount hist = 0 → ∀ v, lastStateValue hist = some v → w.svc.state = v.getString) := by
  refine ⟨fun e v w' he hs => ?_, ?_, state_eq_lastStateValue hrun h0 halph⟩
  · obtain ⟨hf, hcb⟩ := stateEvent_step he hs
    have hflag := disconnecting_eq_armed hrun h0 halph
    refine ⟨by simp [advanceStateSuppresses_eq, hflag, and_comm, ← armed_iff_window],
      fun hsup => ?_, fun hsup => ?_⟩
    · obtain ⟨hst, hm⟩ := advanceStateSvc_of_suppresses hsup
      simp only [stateFields, Prod.mk.injEq] at hf
      exact ⟨hf.1.trans hst, hf.2.1.trans hm, hcb hsup⟩
    · exact (congrArg Prod.fst hf).trans (advanceStateSvc_state hsup)
  · have := suppressedCount_add_armed_le hist
    omega

theorem stateEvent_suppression_after_disconnect :
    (∀ e v w', e.stateValue = some v →
        Step (Command.disconnect.run (freshWorld "/s") .ok).1 e w' →
      (advanceStateSuppresses (Command.disconnect.run (freshWorld "/s") .ok).1.svc v.getString =
          true ↔ notReadyOnline v = true ∧ Window [.command .disconnect .ok]) ∧
      (advanceStateSuppresses (Command.disconnect.run (freshWorld "/s") .ok).1.svc v.getString =
          true →
        w'.svc.state = (Command.disconnect.run (freshWorld "/s") .ok).1.svc.state ∧
          w'.svc.changeMask = (Command.disconnect.run (freshWorld "/s") .ok).1.svc.changeMask ∧
          callbackCalls w'.log = callbackCalls (Command.disconnect.run (freshWorld "/s") .ok).1.log) ∧
      (advanceStateSuppresses (Command.disconnect.run (freshWorld "/s") .ok).1.svc v.getString =
          false → w'.svc.state = v.getString)) ∧
    suppressedCount [.command .disconnect .ok] ≤ disconnectCount [.command .disconnect .ok] ∧
    (disconnectCount [.command .disconnect .ok] = 0 → ∀ v,
      lastStateValue [.command .disconnect .ok] = some v →
        (Command.disconnect.run (freshWorld "/s") .ok).1.svc.state = v.getString) :=
  stateEvent_suppression (Run.single (Step.command _ .disconnect .ok)) rfl
    fun _ he => .inr (.inr (List.mem_singleton.mp he ▸ rfl))

end ConnmanService
