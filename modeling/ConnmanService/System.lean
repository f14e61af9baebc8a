import ConnmanService.Commands

/-! # The service as a state machine

All mutation of a service happens on one event-dispatch thread; the events are the
snapshots and pushes from the daemon, the consumer's `connman_service_unset_changed`,
the commands of the rest of the adapter, the completions of asynchronous connects and
`connman_service_free`.  `Step w e w'` says that event `e` takes the world `w` to `w'`,
with the collaborators in any state (the `Env` of the step); a snapshot steps only when
its loop ends.  A completion can only arrive for a call in flight.

`Run w es w'` is a run from `w` through the events `es`, oldest first; a service is
`Reachable` when a run leads to it from one `connman_service_new` created.  `run_append`
composes runs and `Run.single` makes one from a step.

Two choices bound what the run laws cover:

* **No event for the other public mutators.**  `connman_service_update_display_name`,
  `connman_service_set_changed` and `connman_service_update_type` are public, but in
  this file they are called only from the decoders (`connman_service_update_properties`,
  `property_changed_cb`, `connman_service_advance_state`), where the model calls them.
  Their header and any caller elsewhere in the adapter are not under src/, so a run in
  which another component calls them (a locale change refreshing the display name, say)
  is not a run of this model, and the run laws say nothing about it.
* **Release is a flag, not an end.**  `connman_service_free` sets `World.released`, and
  `Step` does not test it: a released service keeps stepping.  In C the record is freed
  there, so a completion still in flight then runs `connect_callback` on freed memory;
  the model runs it on the record as it was, which is how the runs of `Tokens.lean` show
  that such a completion exists. -/

namespace ConnmanService

/-- The synchronous commands. -/
inductive Command where
  | disconnect
  | peerDisconnect
  | remove
  | rejectPeer
  | setDefault
  | setIpv4 (ipv4 : Option Ipv4Info)
  | setIpv6 (ipv6 : Option Ipv6Info)
  | setProxy (proxy : Option ProxyInfo)
  | setNameservers (dns : Option (List String))
  | setAutoconnect (value : Bool)
  | setRunOnlineCheck (value : Bool)
  | setPassphrase (passphrase : String)

/-- The function a command calls. -/
def Command.run : Command → World → Outcome → World × Bool
  | .disconnect, w, o => connmanServiceDisconnect w o
  | .peerDisconnect, w, o => connmanPeerDisconnect w o
  | .remove, w, o => connmanServiceRemove w o
  | .rejectPeer, w, o => connmanServiceRejectPeer w o
  | .setDefault, w, o => connmanServiceSetDefault w o
  | .setIpv4 i, w, o => connmanServiceSetIpv4 w i o
  | .setIpv6 i, w, o => connmanServiceSetIpv6 w i o
  | .setProxy p, w, o => connmanServiceSetProxy w p o
  | .setNameservers d, w, o => connmanServiceSetNameservers w d o
  | .setAutoconnect b, w, o => connmanServiceSetAutoconnect w b o
  | .setRunOnlineCheck b, w, o => connmanServiceSetRunOnlineCheck w b o
  | .setPassphrase p, w, o => connmanServiceSetPassphrase w p o

/-- The commands that set `disconnecting`. -/
def Command.IsDisconnect : Command → Prop
  | .disconnect | .peerDisconnect | .remove => True
  | _ => False

/-- An event on a service. -/
inductive Event where
  | snapshot (bag : Bag)
  | push (property : String) (v : Value)
  | unsetChanged (category : BitVec 32)
  | connect (peer cb : Bool)
  | complete (call : Call) (o : Outcome)
  | command (c : Command) (o : Outcome)
  | getIpinfo
  | getProxyinfo
  | register (p2p func : Bool)
  | free

/-- One event, with the collaborators in any state.  No constructor tests
`World.released`: after `connman_service_free` has released the service, events still
step, where in C a completion in flight would run on freed memory. -/
inductive Step : World → Event → World → Prop where
  | snapshot {w w' : World} {bag : Bag} (env : Env) (fuel : Nat) :
      connmanServiceUpdateProperties env fuel w bag = some w' → Step w (.snapshot bag) w'
  | push (env : Env) (w : World) (property : String) (v : Value) :
      Step w (.push property v) (propertyChangedCb env w property v)
  | unsetChanged (w : World) (c : BitVec 32) :
      Step w (.unsetChanged c) (w.setSvc (connmanServiceUnsetChanged w.svc c))
  | connect (w : World) (peer cb : Bool) :
      Step w (.connect peer cb)
        (if peer then connmanPeerConnect cb w else connmanServiceConnect cb w)
  | complete {w : World} {c : Call} (o : Outcome) :
      c ∈ w.pending → Step w (.complete c o) (completeConnect w c o)
  | command (w : World) (c : Command) (o : Outcome) : Step w (.command c o) (c.run w o).1
  | getIpinfo (env : Env) (w : World) :
      Step w .getIpinfo (w.setSvc (connmanServiceGetIpinfo env w.svc).1)
  | getProxyinfo (env : Env) (w : World) :
      Step w .getProxyinfo (w.setSvc (connmanServiceGetProxyinfo env w.svc).1)
  | register (w : World) (p2p func : Bool) :
      Step w (.register p2p func) (if p2p then connmanServiceRegisterP2pRequestsCb w func
        else connmanServiceRegisterPropertyChangedCb w func)
  | free (env : Env) (w : World) : Step w .free (connmanServiceFree env w)

/-- A run through the events `es`, oldest first. -/
inductive Run : World → List Event → World → Prop where
  | nil (w : World) : Run w [] w
  | snoc {w w₁ w₂ : World} {es : List Event} {e : Event} :
      Run w es w₁ → Step w₁ e w₂ → Run w (es ++ [e]) w₂

/-- A service `connman_service_new` created. -/
def Created (w : World) : Prop :=
  ∃ env fuel path properties, connmanServiceNew env fuel path properties = some w

/-- A service some run leads to from its creation. -/
def Reachable (w : World) : Prop := ∃ w₀ es, Created w₀ ∧ Run w₀ es w

theorem Run.single {w w' : World} {e : Event} (h : Step w e w') : Run w [e] w' :=
  .snoc (.nil w) h

theorem run_append {w w₁ w₂ : World} {es es' : List Event} (h₁ : Run w es w₁)
    (h₂ : Run w₁ es' w₂) : Run w (es ++ es') w₂ := by
  induction h₂ with
  | nil => simpa using h₁
  | snoc _ hs ih => rw [← List.append_assoc]; exact .snoc ih hs

/-- A fresh service created from an empty snapshot. -/
theorem created_fresh (path : String) (env : Env) : Created (freshWorld path) :=
  ⟨env, 1, path, [], rfl⟩

end ConnmanService
