import ConnmanService.UpdateProperties

/-! # Push decoding

`property_changed_cb` is the handler of the remote object's `PropertyChanged` signal.  It
first forwards every push to `connman_update_callbacks->service_property_changed`, then
dispatches on the key: state and online changes through the transition engine, the
scalar properties, the BSS list, the P2P request events to the P2P request callback,
and the IP and proxy notifications to the subscribers.

For the keys both decoders know, a push and a one-entry snapshot of the same pair
agree on the state and change fields and on the property-change callback calls
(`push_agrees_snapshot`), except `RunOnlineCheck`: the push marks the status category
and broadcasts a change, the snapshot copies the flag silently
(`runOnlineCheck_push_snapshot_differ`).

Both decode a `BSS` array alike: the service's list becomes one entry per dictionary of
the array, in order, each as `bssSpec` says, whatever it held before
(`bss_decoded_as_spec`). -/

namespace ConnmanService

open World

/-- Call the P2P request callback, when one is registered. -/
def p2pRequest (w : World) (wps : WpsType) (pin goaddr : Option String) (event : String) :
    World :=
  if w.svc.handleP2pRequestFn then w.emit (.p2pRequest wps pin goaddr event) else w

/-- Mark the status category and broadcast: the `IPv6`, `Proxy` and `Nameservers`
branches. -/
def markStatusAndBroadcast (w : World) : World :=
  (w.setSvc (connmanServiceSetChanged w.svc categoryGetstatus)).emit .sendStatus

/-- The key dispatch of `property_changed_cb`, after the global callback. -/
def propertyChangedBody (env : Env) (w : World) (property : String) (va : Value) : World :=
  match property with
  | "State" => connmanServiceAdvanceState env w va
  | "Strength" =>
      let strength := va.getByte
      if strength ≠ w.svc.strength then
        w.setSvc (connmanServiceSetChanged { w.svc with strength := strength } categoryFindnetworks)
      else w
  | "BSS" => w.setSvc { w.svc with bss := some (bssDecode va) }
  | "Online" => connmanServiceAdvanceOnlineState w va
  | "RunOnlineCheck" =>
      if w.svc.onlineChecking ≠ va.getBoolean then
        (w.setSvc (connmanServiceSetChanged { w.svc with onlineChecking := va.getBoolean }
          categoryGetstatus)).emit .sendStatus
      else w
  | "AutoConnect" => w.setSvc { w.svc with autoConnect := va.getBoolean }
  | "Favorite" => w.setSvc { w.svc with favorite := va.getBoolean }
  | "Error" => w.setSvc { w.svc with error := va.getString }
  | "P2PGONegRequested" => p2pRequest w (.value va.getInt32.toInt) none none "P2PGONegRequested"
  | "P2PProvDiscRequestedPBC" => p2pRequest w .pbc none none "P2PProvDiscRequestedPBC"
  | "P2PProvDiscRequestedEnterPin" =>
      p2pRequest w .keypad none none "P2PProvDiscRequestedEnterPin"
  | "P2PProvDiscRequestedDisplayPin" =>
      p2pRequest w .display va.getString none "P2PProvDiscRequestedDisplayPin"
  | "P2PInvitationReceived" => p2pRequest w (.value 0) none va.getString "P2PInvitationReceived"
  | "P2PPersistentReceived" => p2pRequest w (.value 0) none va.getString "P2PPersistentReceived"
  | "PeerAdded" =>
      if w.svc.handleP2pRequestFn && env.p2pConnected then
        w.emit (.p2pRequest (.value 0) none none "PeerAdded")
      else w
  | "IPv6" => markStatusAndBroadcast w
  | "Proxy" => markStatusAndBroadcast w
  | "IPv4" =>
      if w.svc.type = .p2p ∧ w.svc.peer.groupOwner ∧ w.svc.handlePropertyChangeFn then
        w.emit (.propertyChange "IPv4" va)
      else w
  | "Nameservers" => markStatusAndBroadcast w
  | _ => w

/-- `property_changed_cb (proxy, property, v, service)`, with `va` the unboxed value. -/
def propertyChangedCb (env : Env) (w : World) (property : String) (va : Value) : World :=
  let w := if env.servicePropertyChangedFn then
      w.emit (.servicePropertyChanged w.svc.path property va)
    else w
  propertyChangedBody env w property va

/-! ### Push and snapshot -/

/-- The arguments of the property-change callback calls in a log. -/
def callbackCalls (log : List Effect) : List (String × Value) :=
  log.filterMap fun
    | .propertyChange name v => some (name, v)
    | _ => none

/-- The fields a push and a snapshot of the same pair are compared on. -/
def decodedFields (s : Service) :
    Option String × Bool × UInt8 × Option (List BssInfo) × Bool × Bool × Bool × Bool × BitVec 32 :=
  (s.state, s.disconnecting, s.strength, s.bss, s.online, s.onlineChecking, s.autoConnect,
    s.favorite, s.changeMask)

theorem callbackCalls_append (l l' : List Effect) :
    callbackCalls (l ++ l') = callbackCalls l ++ callbackCalls l' :=
  List.filterMap_append _ _ _

/-- The global callback a push goes through first: the same world with an effect in
front of whatever follows. -/
theorem propertyChangedCb_eq (env : Env) (w : World) (property : String) (va : Value) :
    ∃ p, propertyChangedCb env w property va =
      propertyChangedBody env (({ w with log := [] } : World).prependLog (w.log ++ p)) property va ∧
      callbackCalls p = [] := by
  unfold propertyChangedCb
  split
  · exact ⟨[.servicePropertyChanged w.svc.path property va], by rw [emit_eq_prependLog], rfl⟩
  · exact ⟨[], by rw [List.append_nil, ← eq_prependLog], rfl⟩

theorem updateProperty_state (env : Env) (w : World) (v : Value) :
    decodedFields (updateProperty env w "State" v).svc =
        decodedFields (connmanServiceAdvanceState env w v).svc ∧
      (updateProperty env w "State" v).log = (connmanServiceAdvanceState env w v).log := by
  show decodedFields (ite _ _ _ : World).svc = _ ∧ (ite _ _ _ : World).log = _
  split <;> exact ⟨rfl, rfl⟩

theorem p2pRequest_prependLog (w : World) (p : List Effect) (wps : WpsType)
    (pin goaddr : Option String) (event : String) :
    p2pRequest (w.prependLog p) wps pin goaddr event =
      (p2pRequest w wps pin goaddr event).prependLog p := by
  unfold p2pRequest
  rw [prependLog_svc]
  split_ifs <;> simp only [emit_prependLog]

/-- No branch of the key dispatch reads the log. -/
theorem propertyChangedBody_prependLog (env : Env) (w : World) (p : List Effect)
    (property : String) (va : Value) :
    propertyChangedBody env (w.prependLog p) property va =
      (propertyChangedBody env w property va).prependLog p := by
  unfold propertyChangedBody markStatusAndBroadcast
  split <;> simp only [prependLog_svc, advanceState_prependLog, advanceOnlineState_prependLog,
    setSvc_prependLog, emit_prependLog, p2pRequest_prependLog] <;>
    split_ifs <;> simp only [setSvc_prependLog, emit_prependLog]

/-- For these keys the snapshot branch is the push branch. -/
theorem updateProperty_eq_body (env : Env) (w : World) (key : String) (v : Value)
    (hk : key ∈ ["Strength", "BSS", "Online", "AutoConnect", "Favorite"]) :
    updateProperty env w key v = propertyChangedBody env w key v := by
  simp only [List.mem_cons, List.mem_singleton, List.not_mem_nil, or_false] at hk
  rcases hk with rfl | rfl | rfl | rfl | rfl <;> rfl

theorem agree_of_prependLog (x : World) (l : List Effect) {p : List Effect}
    (hcp : callbackCalls p = []) :
    decodedFields (x.prependLog l).svc = decodedFields (x.prependLog (l ++ p)).svc ∧
      callbackCalls (x.prependLog l).log = callbackCalls (x.prependLog (l ++ p)).log := by
  simp [callbackCalls_append, hcp]

/-- For `State`, `Strength`, `BSS`, `Online`, `AutoConnect` and `Favorite`, a push and a
one-entry snapshot of the same pair leave the same state and change fields and call the
property-change callback with the same arguments. -/
theorem push_agrees_snapshot (env : Env) (w : World) (key : String) (v : Value)
    (hk : key ∈ ["State", "Strength", "BSS", "Online", "AutoConnect", "Favorite"]) :
    ∃ r, connmanServiceUpdateProperties env 2 w [(key, v)] = some r ∧
      decodedFields r.svc = decodedFields (propertyChangedCb env w key v).svc ∧
      callbackCalls r.log = callbackCalls (propertyChangedCb env w key v).log := by
  obtain ⟨p, hp, hcp⟩ := propertyChangedCb_eq env w key v
  have hne : key ≠ "WiFi.SSID" := by rintro rfl; revert hk; decide
  refine ⟨_, updateProperties_single env w key v hne, ?_⟩
  rw [hp, propertyChangedBody_prependLog]
  have hw := eq_prependLog w
  generalize ({ w with log := [] } : World) = w0 at hw ⊢
  generalize w.log = l at hw ⊢
  subst hw
  rcases List.mem_cons.mp hk with rfl | hk
  · obtain ⟨hf, hl⟩ := updateProperty_state env (w0.prependLog l) v
    rw [hf, hl, advanceState_prependLog]
    exact agree_of_prependLog _ l hcp
  · rw [updateProperty_eq_body env _ key v hk, propertyChangedBody_prependLog]
    exact agree_of_prependLog _ l hcp

/-- A `ready` state delivered to a service with a registered property-change callback,
as a snapshot and as a push. -/
theorem push_agrees_snapshot_ready :
    let w : World := { svc := { path := "/s", handlePropertyChangeFn := true } }
    "State" ∈ ["State", "Strength", "BSS", "Online", "AutoConnect", "Favorite"] ∧
      ∃ r, connmanServiceUpdateProperties x86Env 2 w [("State", .str "ready")] = some r ∧
        decodedFields r.svc = decodedFields (propertyChangedCb x86Env w "State" (.str "ready")).svc ∧
        callbackCalls r.log = callbackCalls (propertyChangedCb x86Env w "State" (.str "ready")).log :=
  ⟨by decide, push_agrees_snapshot x86Env _ "State" _ (by decide)⟩

/-- A snapshot copies `RunOnlineCheck` and marks nothing. -/
theorem runOnlineCheck_snapshot (env : Env) (w : World) (b : Bool) :
    ∃ r, connmanServiceUpdateProperties env 2 w [("RunOnlineCheck", .boolean b)] = some r ∧
      r.svc.onlineChecking = b ∧ r.svc.changeMask = w.svc.changeMask ∧ r.log = w.log :=
  ⟨_, updateProperties_single env w _ _ (by decide), rfl, rfl, rfl⟩

/-- A push of a new `RunOnlineCheck` marks the status category and broadcasts. -/
theorem runOnlineCheck_push (env : Env) (w : World) (b : Bool) (h : w.svc.onlineChecking ≠ b) :
    let r := propertyChangedCb env w "RunOnlineCheck" (.boolean b)
    r.svc.onlineChecking = b ∧ r.svc.changeMask = w.svc.changeMask ||| categoryGetstatus ∧
      Effect.sendStatus ∈ r.log := by
  have body (u : World) (hu : u.svc = w.svc) :
      propertyChangedBody env u "RunOnlineCheck" (.boolean b) = (u.setSvc
        (connmanServiceSetChanged { u.svc with onlineChecking := b } categoryGetstatus)).emit
          .sendStatus := by
    show (if _ then _ else _ : World) = _
    rw [if_pos (hu ▸ h)]
    rfl
  unfold propertyChangedCb
  split <;> simp [body, connmanServiceSetChanged]

/-- On a new `RunOnlineCheck` value with the status category clear, the snapshot leaves
the category clear and the push sets it. -/
theorem runOnlineCheck_push_snapshot_differ (env : Env) (w : World) (b : Bool)
    (h : w.svc.onlineChecking ≠ b)
    (hclear : connmanServiceIsChanged w.svc categoryGetstatus = false) :
    ∃ r, connmanServiceUpdateProperties env 2 w [("RunOnlineCheck", .boolean b)] = some r ∧
      connmanServiceIsChanged r.svc categoryGetstatus = false ∧
      connmanServiceIsChanged (propertyChangedCb env w "RunOnlineCheck" (.boolean b)).svc
        categoryGetstatus = true := by
  obtain ⟨r, hr, -, hm, -⟩ := runOnlineCheck_snapshot env w b
  refine ⟨r, hr, by simpa [connmanServiceIsChanged, hm] using hclear, ?_⟩
  have hp := (runOnlineCheck_push env w b h).2.1
  have : connmanServiceIsChanged (connmanServiceSetChanged w.svc categoryGetstatus)
      categoryGetstatus = true := isChanged_setChanged_self (by decide)
  simpa [connmanServiceIsChanged, connmanServiceSetChanged, hp] using this

/-! ### The BSS list -/

theorem propertyChangedBody_bss (env : Env) (w : World) (va : Value) :
    (propertyChangedBody env w "BSS" va).svc.bss = some (bssDecode va) := rfl

/-- A `BSS` array decoded by the snapshot's branch or by the push replaces the service's
list by one entry per dictionary, in order, each as `bssSpec` says: a GVariant string
holds no `NUL` byte.  The snapshot `[("BSS", v)]` through
`connman_service_update_properties` finishes with the branch's result. -/
theorem bss_decoded_as_spec (env : Env) (w : World) (ds : List (List (String × Value)))
    (hid : ∀ d ∈ ds, ∀ s, dictField d "Id" = some (.str s) → (0 : UInt8) ∉ s.toUTF8.toList) :
    (updateProperty env w "BSS" (bssValue ds)).svc.bss = some (ds.map bssSpec) ∧
      (connmanServiceUpdateProperties env 2 w [("BSS", bssValue ds)]).map (·.svc.bss) =
        some (some (ds.map bssSpec)) ∧
      (propertyChangedCb env w "BSS" (bssValue ds)).svc.bss = some (ds.map bssSpec) := by
  rw [← bssDecode_bssValue ds hid, updateProperties_single env w "BSS" _ (by decide),
    Option.map_some', updateProperty_eq_body env w "BSS" _ (by simp)]
  exact ⟨propertyChangedBody_bss env .., congrArg some (propertyChangedBody_bss env ..),
    propertyChangedBody_bss env ..⟩

/-- An `Id` of twenty bytes, cut to seventeen, and a dictionary with a mistyped `Signal`
and no `Frequency`. -/
theorem bss_decoded_as_spec_sample :
    let ds : List (List (String × Value)) :=
      [[("Id", .str "00:11:22:33:44:55:66"), ("Signal", .int32 (-60)), ("Frequency", .int32 2412)],
        [("Signal", .str "strong"), ("Id", .str "ab")]]
    let w : World := { svc := { path := "/s" } }
    (∀ d ∈ ds, ∀ s, dictField d "Id" = some (.str s) → (0 : UInt8) ∉ s.toUTF8.toList) ∧
      (updateProperty x86Env w "BSS" (bssValue ds)).svc.bss = some (ds.map bssSpec) ∧
      (connmanServiceUpdateProperties x86Env 2 w [("BSS", bssValue ds)]).map (·.svc.bss) =
        some (some (ds.map bssSpec)) ∧
      (propertyChangedCb x86Env w "BSS" (bssValue ds)).svc.bss = some (ds.map bssSpec) := by
  intro ds w
  have hid : ∀ d ∈ ds, ∀ s, dictField d "Id" = some (.str s) → (0 : UInt8) ∉ s.toUTF8.toList := by
    simp only [ds, List.mem_cons, List.mem_singleton, List.not_mem_nil, or_false]
    rintro d (rfl | rfl) s hs <;> cases hs <;>
      simp [ByteArray.toList, ByteArray.toList.loop, String.toUTF8, ByteArray.size,
        ByteArray.get!, String.utf8EncodeChar] <;> decide
  exact ⟨hid, bss_decoded_as_spec x86Env w ds hid⟩

end ConnmanService
