import ConnmanService.Config

/-! # The state transition engine

`connman_service_advance_state` and `connman_service_advance_online_state`, and what
they call: the display-name refresh, the routing rules of an Ethernet service
(`connman_service_set_ip_rule` and its create/delete wrappers, compiled under
`MULTIPLE_ROUTING_TABLE`) and the P2P diagnostics subscription.

* A `State` value is *suppressed* when the service is disconnecting and the value is
  neither `ready` nor `online` (`advanceStateSuppresses`): the flag is cleared and
  nothing else happens (`advanceState_of_suppresses`).
* Otherwise the new state is stored, and if it differs from the old one both change
  categories are marked and the property-change callback is called
  (`advanceState_svc`).  Routing only touches `ipinfo` and `iprule_added`; the
  diagnostics flag only the world.
* Every operation here commutes with putting effects in front of the log
  (`advanceState_prependLog`, `advanceOnlineState_prependLog`). -/

namespace ConnmanService

open World

/-! ### Display name -/

/-- `connman_service_update_display_name`: a UTF-8 SSID is copied as a C string, any
other is re-encoded for the current locale. -/
def connmanServiceUpdateDisplayName (env : Env) (s : Service) : Service :=
  match s.ssid with
  | none => s
  | some buf =>
      if env.utf8Validate (buf.take s.ssidLen) then
        { s with displayName := some (cString (buf.map (·.getD 0))) }
      else { s with displayName := env.convertSsidToUtf8 buf s.ssidLen env.locale }

/-- The refresh changes the display name and nothing else. -/
theorem updateDisplayName_frame (env : Env) (s : Service) :
    connmanServiceUpdateDisplayName env s =
      { s with displayName := (connmanServiceUpdateDisplayName env s).displayName } := by
  unfold connmanServiceUpdateDisplayName
  split
  · rfl
  · split <;> rfl

/-- The display name computed from a buffer: its first `ssid_len` cells decide whether it
is UTF-8, then it is read as a C string or converted with its length. -/
theorem updateDisplayName_displayName (env : Env) {s : Service} {buf : List (Option UInt8)}
    (h : s.ssid = some buf) :
    (connmanServiceUpdateDisplayName env s).displayName =
      if env.utf8Validate (buf.take s.ssidLen) then some (cString (buf.map (·.getD 0)))
      else env.convertSsidToUtf8 buf s.ssidLen env.locale := by
  simp only [connmanServiceUpdateDisplayName, h]
  split <;> rfl

/-! ### Routing rules -/

/-- `isspace` in the C locale. -/
def isCSpace (c : Char) : Bool :=
  c = ' ' || c = '\t' || c = '\n' || c = '\r' || c.toNat = 11 || c.toNat = 12

/-- `sscanf (s, "%d", &n) > 0`: blanks, an optional sign, then at least one digit. -/
def sscanfInt (cs : List Char) : Option Int :=
  let cs := cs.dropWhile isCSpace
  let (neg, cs) : Bool × List Char := match cs with
    | '-' :: r => (true, r)
    | '+' :: r => (false, r)
    | r => (false, r)
  let ds := cs.takeWhile Char.isDigit
  if ds = [] then none
  else
    let n : Nat := ds.foldl (fun a d => 10 * a + (d.toNat - '0'.toNat)) 0
    some (if neg then -(n : Int) else n)

/-- `connman_service_set_ip_rule (service, status)`: with a complete IPv4 configuration on
a non-VLAN interface whose name has a number after its first three characters, issue
the route and rule commands for table `number + 10` and record `iprule_added`. -/
def connmanServiceSetIpRule (env : Env) (w : World) (status : Bool) : World :=
  match w.svc.ipinfo.ipv4.address, w.svc.ipinfo.ipv4.netmask, w.svc.ipinfo.ipv4.gateway,
      w.svc.interfaceName with
  | some address, some _, some gateway, some ifname =>
      if env.isVlan ifname then w
      else
        match sscanfInt (ifname.data.drop 3) with
        | some tableId =>
            (w.emit (.ipRule status (tableId + 10) gateway address
              w.svc.ipinfo.ipv4.prefixLen)).setSvc { w.svc with ipruleAdded := status }
        | none => w
  | _, _, _, _ => w

/-- `connman_service_create_ip_rule`: only in state `ready`, only once. -/
def connmanServiceCreateIpRule (env : Env) (w : World) : World :=
  if !w.svc.ipruleAdded && w.svc.state == some "ready" then connmanServiceSetIpRule env w true
  else w

/-- `connman_service_delete_ip_rule`. -/
def connmanServiceDeleteIpRule (env : Env) (w : World) : World :=
  if w.svc.ipruleAdded then connmanServiceSetIpRule env w false else w

theorem setIpRule_mirror (env : Env) (w : World) (status : Bool) :
    (connmanServiceSetIpRule env w status).svc.mirror = w.svc.mirror := by
  unfold connmanServiceSetIpRule; split <;> (try split) <;> (try split) <;> rfl

theorem setIpRule_prependLog (env : Env) (w : World) (p : List Effect) (status : Bool) :
    connmanServiceSetIpRule env (w.prependLog p) status =
      (connmanServiceSetIpRule env w status).prependLog p := by
  unfold connmanServiceSetIpRule
  simp only [prependLog_svc]
  split <;> (try split) <;> (try split) <;> simp only [emit_prependLog, setSvc_prependLog]

theorem createIpRule_mirror (env : Env) (w : World) :
    (connmanServiceCreateIpRule env w).svc.mirror = w.svc.mirror := by
  unfold connmanServiceCreateIpRule; split
  · exact setIpRule_mirror env w true
  · rfl

theorem deleteIpRule_mirror (env : Env) (w : World) :
    (connmanServiceDeleteIpRule env w).svc.mirror = w.svc.mirror := by
  unfold connmanServiceDeleteIpRule; split
  · exact setIpRule_mirror env w false
  · rfl

theorem createIpRule_prependLog (env : Env) (w : World) (p : List Effect) :
    connmanServiceCreateIpRule env (w.prependLog p) = (connmanServiceCreateIpRule env w).prependLog p := by
  unfold connmanServiceCreateIpRule; simp only [prependLog_svc]; split
  · exact setIpRule_prependLog env w p true
  · rfl

theorem deleteIpRule_prependLog (env : Env) (w : World) (p : List Effect) :
    connmanServiceDeleteIpRule env (w.prependLog p) = (connmanServiceDeleteIpRule env w).prependLog p := by
  unfold connmanServiceDeleteIpRule; simp only [prependLog_svc]; split
  · exact setIpRule_prependLog env w p false
  · rfl

theorem getIpinfo_mirror (env : Env) (s : Service) :
    (connmanServiceGetIpinfo env s).1.mirror = s.mirror := by
  unfold connmanServiceGetIpinfo; split <;> rfl

/-! ### State -/

/-- The suppression test of `connman_service_advance_state`. -/
def advanceStateSuppresses (s : Service) (newState : Option String) : Bool :=
  s.disconnecting && newState != some "ready" && newState != some "online"

/-- The routing update of `connman_service_advance_state`: entering `ready` refetches the
IP configuration and creates the rules, any other change deletes them. -/
def advanceStateRouting (env : Env) (w : World) (newState : Option String) : World :=
  if newState == some "ready" && w.svc.type == .ethernet then
    connmanServiceCreateIpRule env (w.setSvc (connmanServiceGetIpinfo env w.svc).1)
  else if w.svc.type == .ethernet then connmanServiceDeleteIpRule env w
  else w

/-- The change branch of `connman_service_advance_state`. -/
def advanceStateChange (env : Env) (w : World) (v : Value) (newState : Option String) :
    World :=
  let w := w.setSvc (connmanServiceSetChanged { w.svc with state := newState }
    (categoryGetstatus ||| categoryFindnetworks))
  let w := if w.svc.handlePropertyChangeFn then w.emit (.propertyChange "State" v) else w
  if env.multipleRoutingTable then advanceStateRouting env w newState else w

/-- The diagnostics subscription at the end of `connman_service_advance_state`. -/
def advanceStateDiagnostics (env : Env) (w : World) : World :=
  if !w.diag && w.svc.type == .p2p && w.svc.state == some "ready" && env.isConnectedPeer then
    (w.emit .technologyUpdate).setDiag true
  else if w.diag && w.svc.type == .p2p && w.svc.state == some "disconnect" &&
      !env.isConnectedPeer then
    (w.emit .technologyUpdate).setDiag false
  else w

/-- `connman_service_advance_state (service, v)`. -/
def connmanServiceAdvanceState (env : Env) (w : World) (v : Value) : World :=
  let newState := v.getString
  if advanceStateSuppresses w.svc newState then
    w.setSvc { w.svc with disconnecting := false }
  else
    advanceStateDiagnostics env
      (if w.svc.state ≠ newState then advanceStateChange env w v newState else w)

/-- What `connman_service_advance_state` does to the mirrored fields. -/
def advanceStateSvc (s : Service) (v : Value) : Service :=
  if advanceStateSuppresses s v.getString then { s with disconnecting := false }
  else if s.state = v.getString then s
  else connmanServiceSetChanged { s with state := v.getString }
    (categoryGetstatus ||| categoryFindnetworks)

theorem advanceStateRouting_mirror (env : Env) (w : World) (ns : Option String) :
    (advanceStateRouting env w ns).svc.mirror = w.svc.mirror := by
  unfold advanceStateRouting; split
  · exact (createIpRule_mirror env _).trans (getIpinfo_mirror env w.svc)
  · split
    · exact deleteIpRule_mirror env w
    · rfl

@[simp] theorem advanceStateDiagnostics_svc (env : Env) (w : World) :
    (advanceStateDiagnostics env w).svc = w.svc := by
  unfold advanceStateDiagnostics; split_ifs <;> rfl

theorem advanceStateChange_mirror (env : Env) (w : World) (v : Value) (ns : Option String) :
    (advanceStateChange env w v ns).svc.mirror =
      (connmanServiceSetChanged { w.svc with state := ns }
        (categoryGetstatus ||| categoryFindnetworks)).mirror := by
  unfold advanceStateChange
  dsimp only
  split
  · refine (advanceStateRouting_mirror env _ ns).trans ?_
    split <;> rfl
  · split <;> rfl

theorem advanceState_of_suppresses {env : Env} {w : World} {v : Value}
    (h : advanceStateSuppresses w.svc v.getString = true) :
    connmanServiceAdvanceState env w v = w.setSvc { w.svc with disconnecting := false } := by
  simp [connmanServiceAdvanceState, h]

/-- `connman_service_advance_state` acts on the mirrored fields as `advanceStateSvc`. -/
theorem advanceState_mirror (env : Env) (w : World) (v : Value) :
    (connmanServiceAdvanceState env w v).svc.mirror = (advanceStateSvc w.svc v).mirror := by
  unfold connmanServiceAdvanceState advanceStateSvc
  dsimp only
  split
  · rfl
  · rw [advanceStateDiagnostics_svc]
    split
    · exact advanceStateChange_mirror env w v _
    · next hs => rw [if_pos (not_not.mp hs)]

theorem advanceStateRouting_prependLog (env : Env) (w : World) (p : List Effect)
    (ns : Option String) :
    advanceStateRouting env (w.prependLog p) ns = (advanceStateRouting env w ns).prependLog p := by
  unfold advanceStateRouting
  simp only [prependLog_svc]
  split_ifs
  · rw [setSvc_prependLog, createIpRule_prependLog]
  · exact deleteIpRule_prependLog env w p
  · rfl

theorem advanceStateChange_prependLog (env : Env) (w : World) (p : List Effect) (v : Value)
    (ns : Option String) :
    advanceStateChange env (w.prependLog p) v ns = (advanceStateChange env w v ns).prependLog p := by
  unfold advanceStateChange
  simp only [setSvc_prependLog, setSvc_svc, prependLog_svc]
  by_cases hh : (connmanServiceSetChanged { w.svc with state := ns }
    (categoryGetstatus ||| categoryFindnetworks)).handlePropertyChangeFn <;>
  by_cases hm : env.multipleRoutingTable <;>
  simp only [hh, hm, if_true, if_false, Bool.false_eq_true, emit_prependLog,
    advanceStateRouting_prependLog]

theorem advanceStateDiagnostics_prependLog (env : Env) (w : World) (p : List Effect) :
    advanceStateDiagnostics env (w.prependLog p) = (advanceStateDiagnostics env w).prependLog p := by
  unfold advanceStateDiagnostics
  simp only [prependLog_svc, prependLog_diag]
  split_ifs <;> simp only [emit_prependLog, setDiag_prependLog]

theorem advanceState_prependLog (env : Env) (w : World) (p : List Effect) (v : Value) :
    connmanServiceAdvanceState env (w.prependLog p) v =
      (connmanServiceAdvanceState env w v).prependLog p := by
  unfold connmanServiceAdvanceState
  simp only [prependLog_svc]
  split
  · rfl
  · split <;> simp only [advanceStateChange_prependLog, advanceStateDiagnostics_prependLog]

/-! ### Online -/

/-- `connman_service_advance_online_state (service, va)`: a change marks the status
category and calls the property-change callback, or, with none registered, broadcasts
for an Ethernet service. -/
def connmanServiceAdvanceOnlineState (w : World) (va : Value) : World :=
  let old := w.svc.online
  let w := w.setSvc { w.svc with online := va.getBoolean }
  if old ≠ w.svc.online then
    let w := w.setSvc (connmanServiceSetChanged w.svc categoryGetstatus)
    if w.svc.handlePropertyChangeFn then w.emit (.propertyChange "Online" va)
    else if w.svc.type = .ethernet then w.emit .sendStatus
    else w
  else w

/-- What `connman_service_advance_online_state` does to the service. -/
def advanceOnlineStateSvc (s : Service) (va : Value) : Service :=
  if s.online = va.getBoolean then { s with online := va.getBoolean }
  else connmanServiceSetChanged { s with online := va.getBoolean } categoryGetstatus

theorem advanceOnlineState_svc (w : World) (va : Value) :
    (connmanServiceAdvanceOnlineState w va).svc = advanceOnlineStateSvc w.svc va := by
  unfold connmanServiceAdvanceOnlineState advanceOnlineStateSvc
  dsimp only [setSvc_svc]
  by_cases h : w.svc.online = va.getBoolean
  · rw [if_neg (not_not.mpr h), if_pos h]; rfl
  · rw [if_pos h, if_neg h]; split <;> (try split) <;> rfl

theorem advanceOnlineState_prependLog (w : World) (p : List Effect) (va : Value) :
    connmanServiceAdvanceOnlineState (w.prependLog p) va =
      (connmanServiceAdvanceOnlineState w va).prependLog p := by
  unfold connmanServiceAdvanceOnlineState
  simp only [prependLog_svc, setSvc_prependLog, setSvc_svc]
  split_ifs <;> simp only [emit_prependLog, setSvc_prependLog]

end ConnmanService
