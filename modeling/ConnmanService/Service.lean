import ConnmanService.Variant

/-! # The service record

`Service` is `connman_service_t`: every field `connman_service.c` reads or writes, with
`Option` for a pointer that may be `NULL`.  A fresh record is the zeroed allocation of
`connman_service_new` (`g_new0`): `NULL` strings, `FALSE` flags, an empty change mask.

* **Change mask.**  `change_mask` is an `unsigned int`, here `BitVec 32`;
  `connmanServiceSetChanged`, `connmanServiceUnsetChanged` and
  `connmanServiceIsChanged` are the OR, AND-NOT and AND test of the source;
  `isChanged_iff` reads the test bit by bit.
* **Effects.**  What the code does outside the record (the registered callbacks, the
  subscriber broadcast, the technology refresh, the routing commands, the connect
  callback) is appended to a log of `Effect`s.
* **Environment.**  `Env` holds what the code reads from its collaborators: the locale
  and the SSID re-encoder, whether a peer is connected, the remote's property
  snapshot, the build flag `MULTIPLE_ROUTING_TABLE` and the target's `char`.
* **World.**  `World` is the record, the process-wide diagnostics flag, the effect log,
  and the bookkeeping of the asynchronous connect calls: the calls in flight, the
  cancellation tokens cancelled and the tokens the service released. -/

namespace ConnmanService

/-! ### Enumerations -/

/-- `connman_service_type`; a zeroed record holds `unknown`. -/
inductive ServiceType where
  | unknown
  | ethernet
  | wifi
  | p2p
deriving DecidableEq, Repr

/-- `CONNMAN_SERVICE_STATE_*`. -/
inductive ServiceState where
  | idle
  | association
  | configuration
  | ready
  | online
  | disconnect
  | failure
deriving DecidableEq, Repr

/-- `connman_service_get_state`: the wire string of a state; `NULL` and unknown strings
are `idle`. -/
def connmanServiceGetState : Option String → ServiceState
  | none => .idle
  | some state =>
      match state with
      | "idle" => .idle
      | "association" => .association
      | "configuration" => .configuration
      | "ready" => .ready
      | "online" => .online
      | "disconnect" => .disconnect
      | "failure" => .failure
      | _ => .idle

/-- `connman_service_get_webos_state`. -/
def connmanServiceGetWebosState : ServiceState → String
  | .disconnect | .idle => "notAssociated"
  | .association => "associating"
  | .configuration => "associated"
  | .ready | .online => "ipConfigured"
  | .failure => "ipFailed"

/-- `connman_service_update_type`: the type strings the daemon sends; any other string
leaves the type as it is. -/
def connmanServiceUpdateType (t : ServiceType) : Option String → ServiceType
  | some "wifi" => .wifi
  | some "ethernet" => .ethernet
  | some "Peer" | some "peer" => .p2p
  | _ => t

/-! ### The record -/

/-- `struct peer`: the P2P fields, with the WFD capability fields as numbers (the
`gboolean` ones hold the `0`/`1` of `g_variant_get_boolean` or a parsed bit field). -/
structure Peer where
  address : Option String := none
  priDevType : Option String := none
  groupOwner : Bool := false
  configMethod : UInt16 := 0
  wfdEnabled : Bool := false
  wfdDevtype : Nat := 0
  wfdSessionavail : Nat := 0
  wfdCpsupport : Nat := 0
  wfdRtspport : Nat := 0

/-- `bssinfo_t`: the C string in `bssid[18]` and the two `gint32`s. -/
structure BssInfo where
  bssid : List UInt8
  signal : BitVec 32
  frequency : BitVec 32

/-- `ipv4info_t`. -/
structure Ipv4Info where
  method : Option String := none
  address : Option String := none
  netmask : Option String := none
  gateway : Option String := none
  prefixLen : Int := 0

/-- `ipv6info_t`. -/
structure Ipv6Info where
  method : Option String := none
  address : Option String := none
  gateway : Option String := none
  prefixLength : Int := 0

/-- `ipinfo_t`. -/
structure IpInfo where
  iface : Option String := none
  ipv4 : Ipv4Info := {}
  ipv6 : Ipv6Info := {}
  dns : Option (List String) := none

/-- `proxyinfo_t`. -/
structure ProxyInfo where
  method : Option String := none
  url : Option String := none
  servers : Option (List String) := none
  excludes : Option (List String) := none

/-- `connman_service_t`.  `ssid` is the buffer `g_new (gchar, ssid_len + 1)` with
`none` for a byte never written; `cancellable` is the token of the newest connect;
the two `handle_*_fn` fields say whether a callback is registered. -/
structure Service where
  path : String
  name : Option String := none
  ssid : Option (List (Option UInt8)) := none
  ssidLen : Nat := 0
  displayName : Option (List UInt8) := none
  type : ServiceType := .unknown
  state : Option String := none
  hidden : Bool := false
  strength : UInt8 := 0
  security : Option (List String) := none
  autoConnect : Bool := false
  immutable : Bool := false
  favorite : Bool := false
  online : Bool := false
  onlineChecking : Bool := false
  error : Option String := none
  peer : Peer := {}
  address : Option String := none
  interfaceName : Option String := none
  macAddress : Option String := none
  bss : Option (List BssInfo) := none
  ipinfo : IpInfo := {}
  proxyinfo : ProxyInfo := {}
  ipruleAdded : Bool := false
  disconnecting : Bool := false
  changeMask : BitVec 32 := 0
  cancellable : Option Nat := none
  handlePropertyChangeFn : Bool := false
  handleP2pRequestFn : Bool := false

/-- The fields of a service that mirror the daemon's properties, with the
`disconnecting` flag: everything the decoders write except the on-demand `ipinfo` and
`proxyinfo`, the routing flag and `error`. -/
@[ext]
structure Mirror where
  name : Option String
  ssid : Option (List (Option UInt8))
  ssidLen : Nat
  displayName : Option (List UInt8)
  type : ServiceType
  state : Option String
  hidden : Bool
  strength : UInt8
  security : Option (List String)
  autoConnect : Bool
  immutable : Bool
  favorite : Bool
  online : Bool
  onlineChecking : Bool
  peer : Peer
  address : Option String
  interfaceName : Option String
  macAddress : Option String
  bss : Option (List BssInfo)
  changeMask : BitVec 32
  disconnecting : Bool

/-- The mirrored fields of a service. -/
@[simps]
def Service.mirror (s : Service) : Mirror :=
  ⟨s.name, s.ssid, s.ssidLen, s.displayName, s.type, s.state, s.hidden, s.strength, s.security,
    s.autoConnect, s.immutable, s.favorite, s.online, s.onlineChecking, s.peer, s.address,
    s.interfaceName, s.macAddress, s.bss, s.changeMask, s.disconnecting⟩

/-! ### Queries -/

/-- `connman_service_type_wifi` and its siblings: a non-`NULL` service of type `t`. -/
def connmanServiceTypeIs (t : ServiceType) : Option Service → Bool
  | some s => s.type == t
  | none => false

/-- `connman_service_type_wifi`. -/
def connmanServiceTypeWifi : Option Service → Bool := connmanServiceTypeIs .wifi

/-- `connman_service_type_ethernet`. -/
def connmanServiceTypeEthernet : Option Service → Bool := connmanServiceTypeIs .ethernet

/-- `connman_service_type_p2p`. -/
def connmanServiceTypeP2p : Option Service → Bool := connmanServiceTypeIs .p2p

/-- `connman_service_is_connected`. -/
def connmanServiceIsConnected (s : Service) : Bool :=
  connmanServiceGetState s.state == .online || connmanServiceGetState s.state == .ready

/-- `connman_service_is_online`. -/
def connmanServiceIsOnline (s : Service) : Bool :=
  connmanServiceGetState s.state == .online

/-! ### Change tracking -/

/-- Modelled from the spec: the header defining `CONNMAN_SERVICE_CHANGE_CATEGORY_*` is
not under src/; the spec's two categories, Status and FindNetworks, are one bit each. -/
def categoryGetstatus : BitVec 32 := 1

/-- Modelled from the spec: see `categoryGetstatus`. -/
def categoryFindnetworks : BitVec 32 := 2

/-- `connman_service_set_changed`. -/
def connmanServiceSetChanged (s : Service) (category : BitVec 32) : Service :=
  { s with changeMask := s.changeMask ||| category }

/-- `connman_service_unset_changed`. -/
def connmanServiceUnsetChanged (s : Service) (category : BitVec 32) : Service :=
  { s with changeMask := s.changeMask &&& ~~~category }

/-- `connman_service_is_changed`. -/
def connmanServiceIsChanged (s : Service) (category : BitVec 32) : Bool :=
  s.changeMask &&& category != 0

/-- A mask is changed for a category iff they share a bit. -/
theorem isChanged_iff {s : Service} {c : BitVec 32} :
    connmanServiceIsChanged s c = true ↔ ∃ i, s.changeMask.getLsbD i ∧ c.getLsbD i := by
  simp only [connmanServiceIsChanged, bne_iff_ne, ne_eq]
  constructor
  · intro h
    by_contra hne
    push_neg at hne
    exact h (BitVec.eq_of_getLsbD_eq fun i => by simpa using hne i)
  · rintro ⟨i, hm, hc⟩ h
    have := congrArg (BitVec.getLsbD · i) h
    simp [hm, hc] at this

theorem isChanged_setChanged_self {s : Service} {c c' : BitVec 32}
    (h : c &&& c' ≠ 0) : connmanServiceIsChanged (connmanServiceSetChanged s c') c = true := by
  obtain ⟨i, hi⟩ : ∃ i, c.getLsbD i ∧ c'.getLsbD i := by
    by_contra hne
    push_neg at hne
    exact h (BitVec.eq_of_getLsbD_eq fun i => by simpa using hne i)
  exact isChanged_iff.mpr ⟨i, by simp [connmanServiceSetChanged, hi.2], hi.1⟩

/-! ### Effects, environment and world -/

/-- The WPS type handed to the P2P request callback: the header's `WPS_PBC`,
`WPS_KEYPAD` and `WPS_DISPLAY`, or a number. -/
inductive WpsType where
  | pbc
  | keypad
  | display
  | value (n : Int)

/-- What the code does outside the service record. -/
inductive Effect where
  /-- `handle_property_change_fn (service, name, v)`. -/
  | propertyChange (name : String) (v : Value)
  /-- `handle_p2p_request_fn (service, wpstype, pin, goaddr, event)`. -/
  | p2pRequest (wpstype : WpsType) (pin goaddr : Option String) (event : String)
  /-- `connman_update_callbacks->service_property_changed (path, property, v)`. -/
  | servicePropertyChanged (path property : String) (v : Value)
  /-- `connectionmanager_send_status_to_subscribers ()`. -/
  | sendStatus
  /-- `connman_technology_update_properties` of the Wi-Fi technology. -/
  | technologyUpdate
  /-- The three `ip route`/`ip rule` commands for a routing table (`add` or `delete`). -/
  | ipRule (add : Bool) (table : Int) (gateway address : String) (prefixLen : Int)
  /-- The connect callback `cb (ret, data)` of the connect with this token. -/
  | connectCb (call : Nat) (ret : Bool)
  /-- A synchronous remote call without arguments (`Disconnect`, `Remove`, ...). -/
  | remoteCall (method : String)
  /-- The remote `SetProperty (name, variant)` call. -/
  | setProperty (name : String) (v : Value)

/-- The reply to a remote call: success, or a `GError` with its message. -/
inductive Outcome where
  | ok
  | error (message : String)

/-- The `gboolean` a synchronous command returns for a reply: `FALSE` on an error. -/
def Outcome.succeeded : Outcome → Bool
  | ok => true
  | error _ => false

/-- The collaborators of `connman_service.c`, as the values the code reads from them. -/
structure Env where
  /-- `get_current_system_locale ()`. -/
  locale : String
  /-- `g_utf8_validate (ssid, ssid_len, NULL)` on the first `ssid_len` buffer bytes. -/
  utf8Validate : List (Option UInt8) → Bool
  /-- `convert_ssid_to_utf8 (ssid, ssid_len, locale)`. -/
  convertSsidToUtf8 : List (Option UInt8) → Nat → String → Option (List UInt8)
  /-- How many non-`NUL` bytes follow a byte string that holds no `NUL` in memory:
  `strlen` of its data reads them. -/
  strlenPastEnd : List UInt8 → Nat
  /-- `is_connected_peer ()`. -/
  isConnectedPeer : Bool
  /-- `manager` has a connected P2P service. -/
  p2pConnected : Bool
  /-- `connman_update_callbacks->service_property_changed` is set. -/
  servicePropertyChangedFn : Bool
  /-- The build defines `MULTIPLE_ROUTING_TABLE`. -/
  multipleRoutingTable : Bool
  /-- The reply to the remote `GetProperties` call (`none`: an error). -/
  remoteProperties : Option Bag
  /-- `is_vlan (interface_name)`. -/
  isVlan : String → Bool
  /-- Plain `char` is signed on the target. -/
  charSigned : Bool

/-- An x86-64 build (signed `char`) in the C locale, with no routing tables, no peer
connected, no reply to `GetProperties`, and SSIDs that are valid UTF-8. -/
def x86Env : Env where
  locale := "C"
  utf8Validate := fun _ => true
  convertSsidToUtf8 := fun _ _ _ => none
  strlenPastEnd := fun _ => 0
  isConnectedPeer := false
  p2pConnected := false
  servicePropertyChangedFn := false
  multipleRoutingTable := false
  remoteProperties := none
  isVlan := fun _ => false
  charSigned := true

/-- An asynchronous connect in flight: the token (and `cb_data`) it allocated, whether it
was `connman_peer_connect`, and whether its caller passed a callback. -/
structure Call where
  id : Nat
  peer : Bool
  cb : Bool
deriving DecidableEq, Repr

/-- The service, the process-wide `subscibed_for_diagnostiecs`, the effect log, and the
asynchronous connect bookkeeping. -/
structure World where
  svc : Service
  diag : Bool := false
  log : List Effect := []
  pending : List Call := []
  nextToken : Nat := 0
  cancelled : List Nat := []
  unrefs : List Nat := []
  released : Bool := false

namespace World

/-- Append an effect to the log. -/
def emit (w : World) (e : Effect) : World := { w with log := w.log ++ [e] }

/-- Replace the service record. -/
def setSvc (w : World) (s : Service) : World := { w with svc := s }

/-- Set the process-wide diagnostics flag. -/
def setDiag (w : World) (b : Bool) : World := { w with diag := b }

/-- Put earlier effects in front of the log.  No operation reads the log, so every
operation commutes with this (the `_prependLog` lemmas). -/
def prependLog (w : World) (p : List Effect) : World := { w with log := p ++ w.log }

@[simp] theorem emit_svc (w : World) (e : Effect) : (w.emit e).svc = w.svc := rfl
@[simp] theorem emit_log (w : World) (e : Effect) : (w.emit e).log = w.log ++ [e] := rfl
@[simp] theorem emit_diag (w : World) (e : Effect) : (w.emit e).diag = w.diag := rfl
@[simp] theorem setSvc_svc (w : World) (s : Service) : (w.setSvc s).svc = s := rfl
@[simp] theorem setSvc_log (w : World) (s : Service) : (w.setSvc s).log = w.log := rfl
@[simp] theorem setSvc_diag (w : World) (s : Service) : (w.setSvc s).diag = w.diag := rfl
@[simp] theorem setDiag_svc (w : World) (b : Bool) : (w.setDiag b).svc = w.svc := rfl
@[simp] theorem prependLog_svc (w : World) (p : List Effect) : (w.prependLog p).svc = w.svc := rfl
@[simp] theorem prependLog_diag (w : World) (p : List Effect) :
    (w.prependLog p).diag = w.diag := rfl
@[simp] theorem prependLog_log (w : World) (p : List Effect) :
    (w.prependLog p).log = p ++ w.log := rfl

theorem eq_prependLog (w : World) : w = ({ w with log := [] } : World).prependLog w.log := by
  simp [prependLog]

theorem emit_eq_prependLog (w : World) (e : Effect) :
    w.emit e = ({ w with log := [] } : World).prependLog (w.log ++ [e]) := by
  simp [prependLog, emit]

theorem emit_prependLog (w : World) (p : List Effect) (e : Effect) :
    (w.prependLog p).emit e = (w.emit e).prependLog p := by
  simp [emit, prependLog]

theorem setSvc_prependLog (w : World) (p : List Effect) (s : Service) :
    (w.prependLog p).setSvc s = (w.setSvc s).prependLog p := rfl

theorem setDiag_prependLog (w : World) (p : List Effect) (b : Bool) :
    (w.prependLog p).setDiag b = (w.setDiag b).prependLog p := rfl

end World

end ConnmanService
