import ConnmanService.System

/-! # What the handlers do to the bookkeeping

Two parts of the service's state are kept by its own code rather than mirrored from the
daemon: the routing rules, and the connects in flight.

* **Routing rules.**  With `MULTIPLE_ROUTING_TABLE`, an Ethernet service installs its
  default route and its two `ip rule`s when it enters `ready` (or gets an interface name
  while `ready`), and deletes them on any other state change and in
  `connman_service_free`.  `service->iprule_added` records whether they are installed;
  `connman_service_create_ip_rule` and `connman_service_delete_ip_rule` test it first,
  and `connman_service_set_ip_rule` sets it exactly when it issues the commands.
  `replayRules` replays the routing commands of a log on that one bit, and fails when
  an `add` comes while it is set or a `delete` while it is clear; `RulesFollow w w'`
  says that from `w` to `w'` the log grows by commands that replay from the flag of `w`
  to the flag of `w'`.  The bit is all that is tracked: `connman_service_set_ip_rule`
  builds each command's table, gateway and address from the `interface_name` and
  `ipinfo` of the moment, so a `delete` need not name what the `add` before it
  installed.
* **Connect reports.**  `reportedCalls` lists the calls a log reports to connect
  callbacks.
* **Notifications.**  Once a property-change callback is registered, a change of
  `state` or `online` is announced to it with the new value.  `replayNotes` replays the
  `State` (or `Online`) notifications of a log on the field, and fails when one announces
  the value already there; `NotesFollow w w'` says that, with the callback registered,
  the log grows by notifications that replay from the fields of `w` to those of `w'`.

`Quiet w w'` is what every event other than a connect, a completion or a free does: its
routing commands and its notifications follow, it reports no connect, and it leaves the
calls in flight, the next token, the token in `service->cancellable`, the released and
the cancelled tokens and the release of the service alone.  Each handler of the model gets one `_quiet` lemma,
whatever its key, value, reply or environment; `connman_service_free` is quiet but for
the cancel and the release (`connmanServiceFree_quiet`).  `Routing.lean`,
`Callbacks.lean` and `Tokens.lean` derive the run-level laws from them. -/

namespace ConnmanService

open World

/-! ### Replaying the routing commands -/

/-- Replay routing commands on the `iprule_added` bit: `none` when an `add` comes while
it is set or a `delete` while it is clear.  Only each command's direction is read. -/
def replayRules : Bool → List Effect → Option Bool
  | b, [] => some b
  | b, .ipRule add _ _ _ _ :: l => if add = b then none else replayRules add l
  | b, _ :: l => replayRules b l

/-- The routing commands of a log, `true` for an `add`. -/
def ruleCommands : List Effect → List Bool
  | [] => []
  | .ipRule add _ _ _ _ :: l => add :: ruleCommands l
  | _ :: l => ruleCommands l

/-- The calls a log reports to connect callbacks. -/
def reportedCalls : List Effect → List Nat
  | [] => []
  | .connectCb call _ :: l => call :: reportedCalls l
  | _ :: l => reportedCalls l

/-- Replay the `name` notifications of a log on the value they announce, read by `f`:
`none` when one announces the value already there. -/
def replayNotes {α : Type} [DecidableEq α] (name : String) (f : Value → α) :
    α → List Effect → Option α
  | a, [] => some a
  | a, .propertyChange n v :: l =>
      if n = name then (if f v = a then none else replayNotes name f (f v) l)
      else replayNotes name f a l
  | a, _ :: l => replayNotes name f a l

/-- The values the `name` notifications of a log announce. -/
def notes {α : Type} (name : String) (f : Value → α) : List Effect → List α
  | [] => []
  | .propertyChange n v :: l => if n = name then f v :: notes name f l else notes name f l
  | _ :: l => notes name f l

/-- An effect no replay reads: not a routing command, a connect report, or a `State` or
`Online` notification. -/
def Effect.neutral : Effect → Bool
  | .ipRule .. => false
  | .connectCb .. => false
  | .propertyChange name _ => name != "State" && name != "Online"
  | _ => true

theorem replayRules_append (b : Bool) (l₁ l₂ : List Effect) :
    replayRules b (l₁ ++ l₂) = (replayRules b l₁).bind (replayRules · l₂) := by
  induction l₁ generalizing b with
  | nil => rfl
  | cons e l ih =>
      cases e with
      | ipRule add =>
          simp only [List.cons_append, replayRules]
          split
          · rfl
          · exact ih add
      | _ => exact ih b

@[simp] theorem reportedCalls_append (l₁ l₂ : List Effect) :
    reportedCalls (l₁ ++ l₂) = reportedCalls l₁ ++ reportedCalls l₂ := by
  induction l₁ with
  | nil => rfl
  | cons e l ih =>
      cases e with
      | connectCb call => exact congrArg (call :: ·) ih
      | _ => exact ih

theorem replayNotes_append {α : Type} [DecidableEq α] (name : String) (f : Value → α) (a : α)
    (l₁ l₂ : List Effect) :
    replayNotes name f a (l₁ ++ l₂) = (replayNotes name f a l₁).bind (replayNotes name f · l₂) := by
  induction l₁ generalizing a with
  | nil => rfl
  | cons e l ih =>
      cases e with
      | propertyChange n v =>
          simp only [List.cons_append, replayNotes]
          split_ifs
          · rfl
          · exact ih _
          · exact ih a
      | _ => exact ih a

/-- A replay succeeds exactly when each notification announces a value other than the one
before it (the first other than the starting value), and it ends in the last one. -/
theorem replayNotes_eq_some_iff {α : Type} [DecidableEq α] (name : String) (f : Value → α)
    (a b : α) (l : List Effect) :
    replayNotes name f a l = some b ↔
      List.Chain (· ≠ ·) a (notes name f l) ∧ (notes name f l).getLastD a = b := by
  induction l generalizing a with
  | nil => simp [replayNotes, notes, eq_comm]
  | cons e l ih =>
      cases e with
      | propertyChange n v =>
          by_cases hn : n = name
          · by_cases hv : f v = a
            · simp [replayNotes, notes, hn, hv]
            · simp only [replayNotes, notes, hn, hv, if_true, if_false, List.chain_cons,
                List.getLastD_cons, ih, and_assoc, ne_eq, Ne.symm hv, not_false_eq_true,
                true_and]
          · simp only [replayNotes, notes, hn, if_false]
            exact ih a
      | _ => exact ih a

theorem Effect.neutral_spec {e : Effect} (h : e.neutral = true) :
    ruleCommands [e] = [] ∧ reportedCalls [e] = [] ∧ notes "State" Value.getString [e] = [] ∧
      notes "Online" Value.getBoolean [e] = [] := by
  cases e <;> simp_all [Effect.neutral, ruleCommands, reportedCalls, notes]

/-- A replay succeeds exactly when each command differs from the one before it (the
first from the starting state), and it ends in the last command. -/
theorem replayRules_eq_some_iff (b b' : Bool) (l : List Effect) :
    replayRules b l = some b' ↔
      List.Chain (· ≠ ·) b (ruleCommands l) ∧ (ruleCommands l).getLastD b = b' := by
  induction l generalizing b with
  | nil => simp [replayRules, ruleCommands, eq_comm]
  | cons e l ih =>
      cases e with
      | ipRule add =>
          simp only [replayRules, ruleCommands, List.chain_cons, List.getLastD_cons]
          split
          · next h => simp [h]
          · next h => rw [ih, and_assoc]; simp [Ne.symm h]
      | _ => exact ih b

/-- From `w` to `w'` the log grows by routing commands that replay from the flag of `w`
to the flag of `w'`. -/
def RulesFollow (w w' : World) : Prop :=
  ∃ l, w'.log = w.log ++ l ∧ replayRules w.svc.ipruleAdded l = some w'.svc.ipruleAdded

namespace RulesFollow

variable {u v w : World}

theorem refl (w : World) : RulesFollow w w := ⟨[], (List.append_nil _).symm, rfl⟩

theorem trans (h₁ : RulesFollow u v) (h₂ : RulesFollow v w) : RulesFollow u w := by
  obtain ⟨l₁, hl₁, hr₁⟩ := h₁
  obtain ⟨l₂, hl₂, hr₂⟩ := h₂
  exact ⟨l₁ ++ l₂, by rw [hl₂, hl₁, List.append_assoc], by rw [replayRules_append, hr₁]; exact hr₂⟩

/-- A change that keeps the log and the flag. -/
theorem of_frame (hl : v.log = u.log) (hf : v.svc.ipruleAdded = u.svc.ipruleAdded) :
    RulesFollow u v :=
  ⟨[], by rw [hl, List.append_nil], by rw [hf]; rfl⟩

end RulesFollow

/-- Once the property-change callback is registered it stays so, and from `w` to `w'` the
log grows by `State` and `Online` notifications that replay from the state and the online
flag of `w` to those of `w'`. -/
def NotesFollow (w w' : World) : Prop :=
  w.svc.handlePropertyChangeFn = true →
    w'.svc.handlePropertyChangeFn = true ∧ ∃ l, w'.log = w.log ++ l ∧
      replayNotes "State" Value.getString w.svc.state l = some w'.svc.state ∧
      replayNotes "Online" Value.getBoolean w.svc.online l = some w'.svc.online

namespace NotesFollow

variable {u v w : World}

theorem refl (w : World) : NotesFollow w w :=
  fun h => ⟨h, [], (List.append_nil _).symm, rfl, rfl⟩

theorem trans (h₁ : NotesFollow u v) (h₂ : NotesFollow v w) : NotesFollow u w := by
  intro hu
  obtain ⟨hv, l₁, hl₁, hs₁, ho₁⟩ := h₁ hu
  obtain ⟨hw, l₂, hl₂, hs₂, ho₂⟩ := h₂ hv
  refine ⟨hw, l₁ ++ l₂, by rw [hl₂, hl₁, List.append_assoc], ?_, ?_⟩
  · rw [replayNotes_append, hs₁]; exact hs₂
  · rw [replayNotes_append, ho₁]; exact ho₂

/-- A change that logs no `State` or `Online` notification and keeps the state, the online
flag and the callback. -/
theorem of_silent {l : List Effect} (hl : v.log = u.log ++ l)
    (hs : notes "State" Value.getString l = []) (ho : notes "Online" Value.getBoolean l = [])
    (hst : v.svc.state = u.svc.state) (hon : v.svc.online = u.svc.online)
    (hh : v.svc.handlePropertyChangeFn = u.svc.handlePropertyChangeFn) : NotesFollow u v :=
  fun h => ⟨hh.trans h, l, hl,
    (replayNotes_eq_some_iff _ _ _ _ _).mpr (by rw [hs, hst]; exact ⟨.nil, rfl⟩),
    (replayNotes_eq_some_iff _ _ _ _ _).mpr (by rw [ho, hon]; exact ⟨.nil, rfl⟩)⟩

/-- With no callback registered nothing is announced, and nothing need be. -/
theorem of_unregistered (hr : u.svc.handlePropertyChangeFn = false) : NotesFollow u v :=
  fun h => Bool.noConfusion (h.symm.trans hr)

/-- A new state, announced to the callback. -/
theorem announceState {s : Service} {val : Value} (h : w.svc.state ≠ val.getString)
    (hs : s.state = val.getString) (ho : s.online = w.svc.online)
    (hh : s.handlePropertyChangeFn = w.svc.handlePropertyChangeFn) :
    NotesFollow w ((w.setSvc s).emit (.propertyChange "State" val)) :=
  fun hw => ⟨hh.trans hw, [.propertyChange "State" val], rfl,
    by simp [replayNotes, Ne.symm h, hs], by simp [replayNotes, ho]⟩

/-- A new online flag, announced to the callback. -/
theorem announceOnline {s : Service} {val : Value} (h : w.svc.online ≠ val.getBoolean)
    (hs : s.state = w.svc.state) (ho : s.online = val.getBoolean)
    (hh : s.handlePropertyChangeFn = w.svc.handlePropertyChangeFn) :
    NotesFollow w ((w.setSvc s).emit (.propertyChange "Online" val)) :=
  fun hw => ⟨hh.trans hw, [.propertyChange "Online" val], rfl,
    by simp [replayNotes, hs], by simp [replayNotes, Ne.symm h, ho]⟩

end NotesFollow

/-! ### Quiet events -/

/-- The fields of the service record the bookkeeping follows: the routing flag, the
token, the state, the online flag and the property-change callback. -/
def Service.kept (s : Service) : Bool × Option Nat × Option String × Bool × Bool :=
  (s.ipruleAdded, s.cancellable, s.state, s.online, s.handlePropertyChangeFn)

/-- What an event other than a connect, a completion or a free does to the bookkeeping:
its routing commands and its notifications follow, it reports no connect, and it leaves
the calls in flight, the next token, the token the service holds, the released and the
cancelled tokens and the release of the service alone. -/
structure Quiet (w w' : World) : Prop where
  rules : RulesFollow w w'
  reports : reportedCalls w'.log = reportedCalls w.log
  pending : w'.pending = w.pending
  nextToken : w'.nextToken = w.nextToken
  cancellable : w'.svc.cancellable = w.svc.cancellable
  unrefs : w'.unrefs = w.unrefs
  cancelled : w'.cancelled = w.cancelled
  released : w'.released = w.released
  notes : NotesFollow w w'

namespace Quiet

variable {u v w : World}

theorem refl (w : World) : Quiet w w := ⟨.refl w, rfl, rfl, rfl, rfl, rfl, rfl, rfl, .refl w⟩

theorem trans (h₁ : Quiet u v) (h₂ : Quiet v w) : Quiet u w :=
  ⟨h₁.rules.trans h₂.rules, h₂.reports.trans h₁.reports, h₂.pending.trans h₁.pending,
    h₂.nextToken.trans h₁.nextToken, h₂.cancellable.trans h₁.cancellable,
    h₂.unrefs.trans h₁.unrefs, h₂.cancelled.trans h₁.cancelled,
    h₂.released.trans h₁.released, h₁.notes.trans h₂.notes⟩

/-- A change of the service record that keeps the fields the bookkeeping follows. -/
theorem setSvc {s : Service} (h : s.kept = w.svc.kept) : Quiet w (w.setSvc s) := by
  simp only [Service.kept, Prod.mk.injEq] at h
  obtain ⟨hf, hc, hs, ho, hh⟩ := h
  exact ⟨.of_frame rfl hf, rfl, rfl, rfl, hc, rfl, rfl, rfl,
    .of_silent (List.append_nil _).symm rfl rfl hs ho hh⟩

/-- A change of the service record that keeps the routing flag, the token and the
callback, while none is registered. -/
theorem setSvc_unregistered {s : Service} (hr : w.svc.handlePropertyChangeFn = false)
    (hf : s.ipruleAdded = w.svc.ipruleAdded) (hc : s.cancellable = w.svc.cancellable) :
    Quiet w (w.setSvc s) :=
  ⟨.of_frame rfl hf, rfl, rfl, rfl, hc, rfl, rfl, rfl, .of_unregistered hr⟩

theorem setDiag (b : Bool) : Quiet w (w.setDiag b) :=
  ⟨.of_frame rfl rfl, rfl, rfl, rfl, rfl, rfl, rfl, rfl,
    .of_silent (List.append_nil _).symm rfl rfl rfl rfl rfl⟩

/-- Logging an effect that no replay reads. -/
theorem emit {e : Effect} (h : e.neutral = true) : Quiet w (w.emit e) := by
  obtain ⟨hr, hc, hs, ho⟩ := Effect.neutral_spec h
  exact ⟨⟨[e], rfl, (replayRules_eq_some_iff _ _ _).mpr (by rw [hr]; exact ⟨.nil, rfl⟩)⟩,
    by rw [emit_log, reportedCalls_append, hc, List.append_nil], rfl, rfl, rfl, rfl, rfl, rfl,
    .of_silent rfl hs ho rfl rfl rfl⟩

/-- Logging such an effect, when a registered callback asks for it. -/
theorem emitIf {e : Effect} (c : Prop) [Decidable c] (h : e.neutral = true) :
    Quiet w (if c then w.emit e else w) := by
  split
  · exact emit h
  · exact refl w

/-- A change of the service record announced to the callback: quiet for the rules, the
reports and the calls, with the announcement checked by `hn`. -/
theorem announced {s : Service} {name : String} {val : Value}
    (hf : s.ipruleAdded = w.svc.ipruleAdded) (hc : s.cancellable = w.svc.cancellable)
    (hn : NotesFollow w ((w.setSvc s).emit (.propertyChange name val))) :
    Quiet w ((w.setSvc s).emit (.propertyChange name val)) :=
  ⟨⟨[_], rfl, by simp only [emit_svc, setSvc_svc, hf]; rfl⟩,
    by rw [emit_log, reportedCalls_append, setSvc_log]; exact List.append_nil _, rfl, rfl, hc,
    rfl, rfl, rfl, hn⟩

/-- Issuing the routing commands that move the rules away from the flag, and recording
it. -/
theorem rule {status : Bool} (h : status ≠ w.svc.ipruleAdded) (t : Int) (g a : String) (p : Int) :
    Quiet w ((w.emit (.ipRule status t g a p)).setSvc { w.svc with ipruleAdded := status }) :=
  ⟨⟨_, rfl, by simp only [replayRules, if_neg h]; rfl⟩,
    by simp only [setSvc_log, emit_log, reportedCalls_append]; exact List.append_nil _, rfl, rfl,
    rfl, rfl, rfl, rfl, .of_silent rfl rfl rfl rfl rfl rfl⟩

end Quiet

/-! ### The routing functions -/

section Rules

variable (env : Env) (w : World)

theorem setIpRule_quiet (status : Bool) (h : status ≠ w.svc.ipruleAdded) :
    Quiet w (connmanServiceSetIpRule env w status) := by
  unfold connmanServiceSetIpRule
  split <;> (try split) <;> (try split) <;> first | exact .refl w | exact .rule h _ _ _ _

theorem createIpRule_quiet : Quiet w (connmanServiceCreateIpRule env w) := by
  unfold connmanServiceCreateIpRule
  split
  · next h =>
      simp only [Bool.and_eq_true, Bool.not_eq_true'] at h
      exact setIpRule_quiet env w true (by rw [h.1]; decide)
  · exact .refl w

theorem deleteIpRule_quiet : Quiet w (connmanServiceDeleteIpRule env w) := by
  unfold connmanServiceDeleteIpRule
  split
  · next h => exact setIpRule_quiet env w false (by rw [h]; decide)
  · exact .refl w

theorem getIpinfo_kept (s : Service) : (connmanServiceGetIpinfo env s).1.kept = s.kept := by
  unfold connmanServiceGetIpinfo; split <;> rfl

theorem getProxyinfo_kept (s : Service) : (connmanServiceGetProxyinfo env s).1.kept = s.kept := by
  unfold connmanServiceGetProxyinfo; split <;> rfl

theorem updateDisplayName_kept (s : Service) :
    (connmanServiceUpdateDisplayName env s).kept = s.kept := by
  rw [updateDisplayName_frame]; rfl

end Rules

/-! ### State and online changes -/

section Advance

variable (env : Env) (w : World) (v : Value)

theorem advanceStateRouting_quiet (ns : Option String) :
    Quiet w (advanceStateRouting env w ns) := by
  unfold advanceStateRouting
  split
  · exact (Quiet.setSvc (getIpinfo_kept env w.svc)).trans (createIpRule_quiet env _)
  · split
    · exact deleteIpRule_quiet env w
    · exact .refl w

/-- A new state, announced to a registered callback. -/
theorem announceState_quiet (h : w.svc.state ≠ v.getString) :
    let u := w.setSvc (connmanServiceSetChanged { w.svc with state := v.getString }
      (categoryGetstatus ||| categoryFindnetworks))
    Quiet w (if u.svc.handlePropertyChangeFn then u.emit (.propertyChange "State" v) else u) := by
  intro u
  split
  · exact .announced rfl rfl (.announceState h rfl rfl rfl)
  · next hr => exact .setSvc_unregistered (Bool.eq_false_iff.mpr hr) rfl rfl

theorem advanceStateChange_quiet (h : w.svc.state ≠ v.getString) :
    Quiet w (advanceStateChange env w v v.getString) := by
  unfold advanceStateChange
  dsimp only
  split
  · exact (announceState_quiet w v h).trans (advanceStateRouting_quiet env _ _)
  · exact announceState_quiet w v h

theorem advanceStateDiagnostics_quiet : Quiet w (advanceStateDiagnostics env w) := by
  unfold advanceStateDiagnostics
  split_ifs <;> first | exact .refl w | exact (Quiet.emit (by rfl)).trans (.setDiag _)

theorem advanceState_quiet : Quiet w (connmanServiceAdvanceState env w v) := by
  unfold connmanServiceAdvanceState
  dsimp only
  split
  · exact .setSvc rfl
  · refine Quiet.trans ?_ (advanceStateDiagnostics_quiet env _)
    split
    · next h => exact advanceStateChange_quiet env w v h
    · exact .refl w

theorem advanceOnlineState_quiet : Quiet w (connmanServiceAdvanceOnlineState w v) := by
  unfold connmanServiceAdvanceOnlineState
  dsimp only
  split_ifs with h hr
  · exact .announced rfl rfl (.announceOnline h rfl rfl rfl)
  · -- no callback: the change is not announced
    have hr : w.svc.handlePropertyChangeFn = false := Bool.eq_false_iff.mpr hr
    refine Quiet.trans ?_ (.emit (by rfl))
    exact (Quiet.setSvc_unregistered hr (by rfl) (by rfl)).trans
      (.setSvc_unregistered hr (by rfl) (by rfl))
  · have hr : w.svc.handlePropertyChangeFn = false := Bool.eq_false_iff.mpr hr
    exact (Quiet.setSvc_unregistered hr (by rfl) (by rfl)).trans
      (.setSvc_unregistered hr (by rfl) (by rfl))
  · have ho : v.getBoolean = w.svc.online := (not_not.mp h).symm
    exact .setSvc (by simp only [Service.kept, ho])

end Advance

/-! ### Snapshots and pushes -/

section Properties

variable (env : Env)

theorem ethernetProperty_quiet (w : World) (e : String × Value) :
    Quiet w (ethernetProperty env w e) := by
  unfold ethernetProperty
  split
  · dsimp only
    split
    · exact (Quiet.setSvc (by rfl)).trans (createIpRule_quiet env _)
    · exact .setSvc rfl
  · exact .setSvc rfl
  · exact .refl w

theorem foldl_ethernetProperty_quiet (entries : List (String × Value)) (w : World) :
    Quiet w (entries.foldl (ethernetProperty env) w) := by
  induction entries generalizing w with
  | nil => exact .refl w
  | cons e es ih => exact (ethernetProperty_quiet env w e).trans (ih _)

theorem updateProperty_quiet (w : World) (key : String) (val : Value) :
    Quiet w (updateProperty env w key val) := by
  unfold updateProperty
  split
  case h_1 => -- Name
    dsimp only
    split_ifs <;> exact .setSvc rfl
  case h_2 => -- WiFi.SSID
    split
    · exact .setSvc (updateDisplayName_kept env _)
    · exact .refl w
  case h_4 => -- State
    dsimp only
    split_ifs
    · exact (advanceState_quiet env w val).trans (.setSvc rfl)
    · exact advanceState_quiet env w val
  case h_5 => -- Strength
    dsimp only
    split_ifs
    · exact .setSvc rfl
    · exact .refl w
  case h_10 => exact advanceOnlineState_quiet w val
  case h_15 => exact foldl_ethernetProperty_quiet env _ w
  all_goals exact .setSvc rfl

theorem updatePropertiesLoop_quiet (bag : Bag) :
    ∀ (fuel i : Nat) (w w' : World), updatePropertiesLoop env bag fuel i w = some w' →
      Quiet w w'
  | 0, _, _, _, hl => nomatch hl
  | fuel + 1, i, w, w', hl => by
      unfold updatePropertiesLoop at hl
      split at hl
      · cases hl
        exact .refl w
      · exact (updateProperty_quiet env w _ _).trans (updatePropertiesLoop_quiet bag fuel _ _ _ hl)

theorem p2pRequest_quiet (w : World) (wps : WpsType) (pin goaddr : Option String)
    (event : String) : Quiet w (p2pRequest w wps pin goaddr event) :=
  Quiet.emitIf _ rfl

theorem markStatusAndBroadcast_quiet (w : World) : Quiet w (markStatusAndBroadcast w) :=
  (Quiet.setSvc (by rfl)).trans (.emit rfl)

theorem propertyChangedBody_quiet (w : World) (property : String) (va : Value) :
    Quiet w (propertyChangedBody env w property va) := by
  unfold propertyChangedBody
  split
  · exact advanceState_quiet env w va
  · -- Strength
    dsimp only
    split_ifs
    · exact .setSvc rfl
    · exact .refl w
  · exact .setSvc rfl
  · exact advanceOnlineState_quiet w va
  · -- RunOnlineCheck
    split_ifs
    · exact (Quiet.setSvc (by rfl)).trans (.emit rfl)
    · exact .refl w
  -- the field copies, the P2P requests, the broadcasts, the IPv4 callback, other keys
  all_goals first
    | exact .setSvc rfl
    | exact p2pRequest_quiet w _ _ _ _
    | exact markStatusAndBroadcast_quiet w
    | exact .emitIf _ rfl

theorem propertyChangedCb_quiet (w : World) (property : String) (va : Value) :
    Quiet w (propertyChangedCb env w property va) :=
  (Quiet.emitIf _ (by rfl)).trans (propertyChangedBody_quiet env _ property va)

end Properties

/-! ### Commands and free -/

theorem Command.run_quiet (c : Command) (w : World) (o : Outcome) : Quiet w (c.run w o).1 := by
  cases c <;> simp only [Command.run, connmanServiceDisconnect, connmanPeerDisconnect,
    connmanServiceRemove, connmanServiceRejectPeer, connmanServiceSetDefault,
    connmanServiceSetIpv4, connmanServiceSetIpv6, connmanServiceSetProxy,
    connmanServiceSetNameservers, connmanServiceSetAutoconnect,
    connmanServiceSetRunOnlineCheck, connmanServiceSetPassphrase] <;>
    (try split) <;>
    first
    | exact .refl w
    | exact .emit rfl
    | exact (Quiet.setSvc (by rfl)).trans (.emit rfl)

/-- Forget what an event does to the cancelled tokens and the release of the service. -/
theorem Quiet.forgetFree {w w' : World} (h : Quiet w w') :
    Quiet w { w' with cancelled := w.cancelled, released := w.released } :=
  ⟨h.rules, h.reports, h.pending, h.nextToken, h.cancellable, h.unrefs, rfl, rfl, h.notes⟩

/-- `connman_service_free` releases the service exactly when it holds no token. -/
theorem connmanServiceFree_released (env : Env) (w : World) :
    (connmanServiceFree env w).released = (w.released || w.svc.cancellable.isNone) := by
  unfold connmanServiceFree
  split <;> simp [*]

/-- `connman_service_free` is quiet but for the cancel and the release: with a token it
only cancels it, without one it deletes the rules first. -/
theorem connmanServiceFree_quiet (env : Env) (w : World) :
    Quiet w { connmanServiceFree env w with cancelled := w.cancelled, released := w.released } := by
  unfold connmanServiceFree
  split
  · exact Quiet.refl w
  · split
    · exact (deleteIpRule_quiet env w).forgetFree
    · exact Quiet.refl w

theorem register_quiet (w : World) (p2p func : Bool) :
    Quiet w (if p2p then connmanServiceRegisterP2pRequestsCb w func
      else connmanServiceRegisterPropertyChangedCb w func) := by
  unfold connmanServiceRegisterP2pRequestsCb connmanServiceRegisterPropertyChangedCb
  split_ifs
  · exact .setSvc rfl
  · exact .refl w
  · -- the callback, once registered, stays registered
    exact ⟨.of_frame rfl rfl, rfl, rfl, rfl, rfl, rfl, rfl, rfl,
      fun _ => ⟨rfl, [], (List.append_nil _).symm, rfl, rfl⟩⟩
  · exact .refl w

/-! ### Connects, completions and the other events -/

theorem reportConnect_spec (w : World) (c : Call) (ret : Bool) :
    (reportConnect w c ret).log = w.log ++ (if c.cb then [.connectCb c.id ret] else []) ∧
      (reportConnect w c ret).svc = w.svc ∧ (reportConnect w c ret).pending = w.pending ∧
      (reportConnect w c ret).nextToken = w.nextToken := by
  unfold reportConnect
  split
  · exact ⟨rfl, rfl, rfl, rfl⟩
  · exact ⟨(List.append_nil _).symm, rfl, rfl, rfl⟩

/-- A completion reports once to its call's callback, when it has one, takes the call
out of flight, and keeps the routing flag and the next token. -/
theorem completeConnect_spec (w : World) (c : Call) (o : Outcome) :
    ∃ ret, (completeConnect w c o).log = w.log ++ (if c.cb then [.connectCb c.id ret] else []) ∧
      (completeConnect w c o).svc.ipruleAdded = w.svc.ipruleAdded ∧
      (completeConnect w c o).pending = w.pending.erase c ∧
      (completeConnect w c o).nextToken = w.nextToken := by
  -- every branch of the callback reports once, before or after releasing the token
  have report (u : World) (r : Bool) (hl : u.log = w.log)
      (hs : u.svc.ipruleAdded = w.svc.ipruleAdded) (hp : u.pending = w.pending.erase c)
      (ht : u.nextToken = w.nextToken) :
      ∃ ret, (reportConnect u c r).log = w.log ++ (if c.cb then [.connectCb c.id ret] else []) ∧
        (reportConnect u c r).svc.ipruleAdded = w.svc.ipruleAdded ∧
        (reportConnect u c r).pending = w.pending.erase c ∧
        (reportConnect u c r).nextToken = w.nextToken := by
    obtain ⟨hl', hs', hp', ht'⟩ := reportConnect_spec u c r
    exact ⟨r, by rw [hl', hl], by rw [hs', hs], by rw [hp', hp], by rw [ht', ht]⟩
  have h (ac : String → Bool) : ∃ ret, (connectCallbackWith ac w c o).log =
        w.log ++ (if c.cb then [.connectCb c.id ret] else []) ∧
      (connectCallbackWith ac w c o).svc.ipruleAdded = w.svc.ipruleAdded ∧
      (connectCallbackWith ac w c o).pending = w.pending.erase c ∧
      (connectCallbackWith ac w c o).nextToken = w.nextToken := by
    unfold connectCallbackWith
    dsimp only
    split
    · exact report _ false rfl rfl rfl rfl
    · split
      · exact report _ false rfl rfl rfl rfl
      · exact report _ _ rfl rfl rfl rfl
  unfold completeConnect
  split
  · exact h peerAlreadyConnected
  · exact h serviceAlreadyConnected

/-- Every event other than a connect, a completion or a free is quiet. -/
theorem step_quiet_of_ne_free {w w' : World} {e : Event} (hs : Step w e w')
    (hc : ∀ peer cb, e ≠ .connect peer cb) (hd : ∀ c o, e ≠ .complete c o)
    (hf : e ≠ .free) : Quiet w w' := by
  cases hs with
  | snapshot env fuel h => exact updatePropertiesLoop_quiet env _ fuel 0 w w' h
  | push env _ property v => exact propertyChangedCb_quiet env w property v
  | unsetChanged => exact .setSvc rfl
  | connect _ peer cb => exact absurd rfl (hc peer cb)
  | complete o => exact absurd rfl (hd _ o)
  | command _ c o => exact Command.run_quiet c w o
  | getIpinfo env => exact .setSvc (getIpinfo_kept env w.svc)
  | getProxyinfo env => exact .setSvc (getProxyinfo_kept env w.svc)
  | register _ p2p func => exact register_quiet w p2p func
  | free => exact absurd rfl hf

/-- Every event other than a connect or a completion is quiet but for the cancel and the
release. -/
theorem step_quiet {w w' : World} {e : Event} (hs : Step w e w')
    (hc : ∀ peer cb, e ≠ .connect peer cb) (hd : ∀ c o, e ≠ .complete c o) :
    Quiet w { w' with cancelled := w.cancelled, released := w.released } := by
  by_cases hf : e = .free
  · subst hf
    cases hs with
    | free env => exact connmanServiceFree_quiet env w
  · exact (step_quiet_of_ne_free hs hc hd hf).forgetFree

/-- A created service starts with no routing command, no report and no call. -/
theorem created_quiet {w₀ : World} (h₀ : Created w₀) :
    ∃ path, Quiet (freshWorld path) w₀ := by
  obtain ⟨env, fuel, path, props, hnew⟩ := h₀
  exact ⟨path, updatePropertiesLoop_quiet env props fuel 0 _ _ hnew⟩

end ConnmanService
