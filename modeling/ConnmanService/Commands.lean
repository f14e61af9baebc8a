import ConnmanService.PropertyChanged

/-! # The command façade

The calls the rest of the adapter makes on a service.

* **Connect.**  `connman_service_connect` and `connman_peer_connect` clear
  `disconnecting`, store a fresh cancellation token in `service->cancellable` (without
  releasing or cancelling the one already there) and start the asynchronous remote call
  (`connectWith`).  Its completion runs `connect_callback` or `peer_connect_callback`
  (`connectCallbackWith`): with no token, or a cancelled one, in
  `service->cancellable`, the callback gets `FALSE`; otherwise it gets the call's own
  result, an error containing `AlreadyConnected` (for a peer also `Operation aborted`)
  counting as success, and the token in `service->cancellable` is released.  Either
  way the completion reads the *shared* field, not the token of its own call.
* **Free.**  `connman_service_free` with a token in `service->cancellable` cancels it and
  returns, leaving the release to the completion; otherwise it releases the service.
* **Synchronous commands.**  `Disconnect`, `Remove` (which set `disconnecting` first),
  `RejectPeer`, `SetDefault` and the `SetProperty` writes; each returns whether the
  remote replied without an error. -/

namespace ConnmanService

open World

/-! ### Connect -/

/-- `connman_service_connect` (`peer = false`) and `connman_peer_connect` (`peer = true`). -/
def connectWith (peer cb : Bool) (w : World) : World :=
  { w with
    svc := { w.svc with disconnecting := false, cancellable := some w.nextToken }
    nextToken := w.nextToken + 1
    pending := w.pending ++ [⟨w.nextToken, peer, cb⟩] }

/-- `connman_service_connect (service, cb, user_data)`. -/
def connmanServiceConnect (cb : Bool) (w : World) : World := connectWith false cb w

/-- `connman_peer_connect (service, cb, user_data)`. -/
def connmanPeerConnect (cb : Bool) (w : World) : World := connectWith true cb w

/-- The errors `connect_callback` treats as success. -/
def serviceAlreadyConnected (message : String) : Bool := strrstr message "AlreadyConnected"

/-- The errors `peer_connect_callback` treats as success. -/
def peerAlreadyConnected (message : String) : Bool :=
  strrstr message "AlreadyConnected" || strrstr message "Operation aborted"

/-- The result a completion reports for its own call. -/
def connectResult (alreadyConnected : String → Bool) : Outcome → Bool
  | .ok => true
  | .error message => alreadyConnected message

/-- Release the token in `service->cancellable` (`g_object_unref`, then `NULL`). -/
def releaseCancellable (w : World) (t : Nat) : World :=
  { w with svc := { w.svc with cancellable := none }, unrefs := w.unrefs ++ [t] }

/-- `cb (ret, cbd->data)`, when the caller gave a callback. -/
def reportConnect (w : World) (c : Call) (ret : Bool) : World :=
  if c.cb then w.emit (.connectCb c.id ret) else w

/-- `connect_callback` and `peer_connect_callback` for the completion of call `c` with
outcome `o`. -/
def connectCallbackWith (alreadyConnected : String → Bool) (w : World) (c : Call)
    (o : Outcome) : World :=
  let w := { w with pending := w.pending.erase c }
  match w.svc.cancellable with
  | none => reportConnect w c false
  | some t =>
      if t ∈ w.cancelled then reportConnect (releaseCancellable w t) c false
      else releaseCancellable (reportConnect w c (connectResult alreadyConnected o)) t

/-- `connect_callback`. -/
def connectCallback (w : World) (c : Call) (o : Outcome) : World :=
  connectCallbackWith serviceAlreadyConnected w c o

/-- `peer_connect_callback`. -/
def peerConnectCallback (w : World) (c : Call) (o : Outcome) : World :=
  connectCallbackWith peerAlreadyConnected w c o

/-- The completion of a call runs the callback it was started with. -/
def completeConnect (w : World) (c : Call) (o : Outcome) : World :=
  if c.peer then peerConnectCallback w c o else connectCallback w c o

/-! ### Free -/

/-- `connman_service_free`. -/
def connmanServiceFree (env : Env) (w : World) : World :=
  match w.svc.cancellable with
  | some t => { w with cancelled := w.cancelled ++ [t] }
  | none =>
      { (if env.multipleRoutingTable then connmanServiceDeleteIpRule env w else w) with
        released := true }

/-! ### Synchronous commands -/

/-- A synchronous remote call and the `gboolean` the command returns. -/
def remoteCallSync (method : String) (w : World) (o : Outcome) : World × Bool :=
  (w.emit (.remoteCall method), o.succeeded)

/-- The commands that set `disconnecting` before their remote call, whatever its reply. -/
def disconnectingCall (method : String) (w : World) (o : Outcome) : World × Bool :=
  remoteCallSync method (w.setSvc { w.svc with disconnecting := true }) o

/-- `connman_service_disconnect`. -/
def connmanServiceDisconnect (w : World) (o : Outcome) : World × Bool :=
  disconnectingCall "Service.Disconnect" w o

/-- `connman_peer_disconnect`. -/
def connmanPeerDisconnect (w : World) (o : Outcome) : World × Bool :=
  disconnectingCall "Peer.Disconnect" w o

/-- `connman_service_remove`. -/
def connmanServiceRemove (w : World) (o : Outcome) : World × Bool :=
  disconnectingCall "Service.Remove" w o

/-- `connman_service_reject_peer`. -/
def connmanServiceRejectPeer (w : World) (o : Outcome) : World × Bool :=
  remoteCallSync "Peer.RejectPeer" w o

/-- `connman_service_set_default`. -/
def connmanServiceSetDefault (w : World) (o : Outcome) : World × Bool :=
  remoteCallSync "Service.SetDefault" w o

/-- A `SetProperty` write. -/
def setPropertySync (name : String) (v : Value) (w : World) (o : Outcome) : World × Bool :=
  (w.emit (.setProperty name v), o.succeeded)

/-- `connman_service_set_ipv4`; a `NULL` configuration returns `FALSE` without a call. -/
def connmanServiceSetIpv4 (w : World) (ipv4 : Option Ipv4Info) (o : Outcome) : World × Bool :=
  match ipv4 with
  | none => (w, false)
  | some i => setPropertySync "IPv4.Configuration" (ipv4Configuration i) w o

/-- `connman_service_set_ipv6`. -/
def connmanServiceSetIpv6 (w : World) (ipv6 : Option Ipv6Info) (o : Outcome) : World × Bool :=
  match ipv6 with
  | none => (w, false)
  | some i => setPropertySync "IPv6.Configuration" (ipv6Configuration i) w o

/-- `connman_service_set_proxy`. -/
def connmanServiceSetProxy (w : World) (p : Option ProxyInfo) (o : Outcome) : World × Bool :=
  match p with
  | none => (w, false)
  | some i => setPropertySync "Proxy.Configuration" (proxyConfiguration i) w o

/-- `connman_service_set_nameservers`. -/
def connmanServiceSetNameservers (w : World) (dns : Option (List String)) (o : Outcome) :
    World × Bool :=
  match dns with
  | none => (w, false)
  | some d => setPropertySync "Nameservers.Configuration" (.strv d) w o

/-- `connman_service_set_autoconnect`. -/
def connmanServiceSetAutoconnect (w : World) (value : Bool) (o : Outcome) : World × Bool :=
  setPropertySync "AutoConnect" (.boolean value) w o

/-- `connman_service_set_run_online_check`. -/
def connmanServiceSetRunOnlineCheck (w : World) (value : Bool) (o : Outcome) : World × Bool :=
  setPropertySync "RunOnlineCheck" (.boolean value) w o

/-- `connman_service_set_passphrase`. -/
def connmanServiceSetPassphrase (w : World) (passphrase : String) (o : Outcome) :
    World × Bool :=
  setPropertySync "Passphrase" (.str passphrase) w o

/-- `connman_service_register_property_changed_cb`: a `NULL` function is ignored. -/
def connmanServiceRegisterPropertyChangedCb (w : World) (func : Bool) : World :=
  if func then w.setSvc { w.svc with handlePropertyChangeFn := true } else w

/-- `connman_service_register_p2p_requests_cb`. -/
def connmanServiceRegisterP2pRequestsCb (w : World) (func : Bool) : World :=
  if func then w.setSvc { w.svc with handleP2pRequestFn := true } else w

/-! ### Creation -/

/-- The zeroed record of `connman_service_new`, before its first snapshot. -/
def freshWorld (path : String) : World := { svc := { path := path } }

/-- `connman_service_new`: the zeroed record, then the initial snapshot. -/
def connmanServiceNew (env : Env) (fuel : Nat) (path : String) (properties : Bag) :
    Option World :=
  connmanServiceUpdateProperties env fuel (freshWorld path) properties

end ConnmanService
