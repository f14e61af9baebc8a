import ConnmanService.ChangeTracking

/-! # Fields only a snapshot writes

`property_changed_cb` has branches for `State`, `Strength`, `BSS`, `Online`,
`RunOnlineCheck`, `AutoConnect`, `Favorite`, `Error`, the P2P request events and the IP
and proxy notifications; a push of any other key only reaches the global callback.  The
commands, connects, completions, `connman_service_get_ipinfo`,
`connman_service_get_proxyinfo`, the registrations and `connman_service_free` write none
of the mirrored fields but `disconnecting` and `change_mask`.  So the name, the SSID
buffer, its length and the display name, the type, the hidden flag, the security list,
the immutable flag, the peer, the address, the interface name and the MAC address
(`Mirror.snapshotOnly`) are written by `connman_service_update_properties` alone:

* `propertyChangedCb_snapshotOnly`: no push changes them, whatever its key and value;
* `snapshotOnly_between_snapshots`: along every run without a snapshot they keep their
  values, whatever else happens.

The SSID buffer is written only by the `WiFi.SSID` branch, so on every reachable service
it is absent or has the shape that branch gives it (`SsidShaped`): the bytes of the last
SSID up to its first `NUL`, a `NUL`, then cells never written, `ssid_len + 1` cells in
all.  Hence `ssid_cstring_in_bounds`: reading the buffer as a C string, as `g_strdup`
in the display-name refresh does, stops at a written `NUL` inside the allocation after
written cells only. -/

namespace ConnmanService

open World

/-! ### The fields -/

/-- The mirrored fields a push never writes. -/
def Mirror.snapshotOnly (m : Mirror) :
    Option String × Option (List (Option UInt8)) × Nat × Option (List UInt8) × ServiceType ×
      Bool × Option (List String) × Bool × Peer × Option String × Option String × Option String :=
  (m.name, m.ssid, m.ssidLen, m.displayName, m.type, m.hidden, m.security, m.immutable, m.peer,
    m.address, m.interfaceName, m.macAddress)

/-- A snapshot through `connman_service_update_properties`. -/
def Event.IsSnapshot : Event → Prop
  | .snapshot _ => True
  | _ => False

/-! ### Pushes -/

theorem propertyChangedBody_snapshotOnly (env : Env) (w : World) (property : String)
    (va : Value) :
    (propertyChangedBody env w property va).svc.mirror.snapshotOnly = w.svc.mirror.snapshotOnly := by
  unfold propertyChangedBody
  split
  case h_1 => rw [advanceState_mirror, advanceStateSvc_mirror]; rfl
  case h_4 =>
    rw [advanceOnlineState_svc]
    unfold advanceOnlineStateSvc
    split <;> rfl
  case h_2 =>
    dsimp only
    split_ifs <;> rfl
  case h_5 | h_15 | h_18 => split <;> rfl
  case h_9 | h_10 | h_11 | h_12 | h_13 | h_14 => rw [p2pRequest_svc]
  all_goals rfl

/-- No push changes the fields only a snapshot writes, whatever its key and value. -/
theorem propertyChangedCb_snapshotOnly (env : Env) (w : World) (property : String)
    (va : Value) :
    (propertyChangedCb env w property va).svc.mirror.snapshotOnly = w.svc.mirror.snapshotOnly := by
  rw [propertyChangedCb_svc]
  exact propertyChangedBody_snapshotOnly env w property va

/-! ### The other events -/

theorem Command.run_snapshotOnly (c : Command) (w : World) (o : Outcome) :
    (c.run w o).1.svc.mirror.snapshotOnly = w.svc.mirror.snapshotOnly := by
  cases c
  case setIpv4 i => cases i <;> rfl
  case setIpv6 i => cases i <;> rfl
  case setProxy p => cases p <;> rfl
  case setNameservers d => cases d <;> rfl
  all_goals rfl

theorem step_snapshotOnly {w w' : World} {e : Event} (hs : Step w e w') (he : ¬e.IsSnapshot) :
    w'.svc.mirror.snapshotOnly = w.svc.mirror.snapshotOnly := by
  cases hs with
  | snapshot => exact absurd trivial he
  | push env w property v => exact propertyChangedCb_snapshotOnly env w property v
  | unsetChanged => rfl
  | connect w peer cb => cases peer <;> rfl
  | complete o => rw [completeConnect_mirror]
  | command w c o => exact Command.run_snapshotOnly c w o
  | getIpinfo env w => rw [setSvc_svc, getIpinfo_mirror]
  | getProxyinfo env w => rw [setSvc_svc, getProxyinfo_mirror]
  | register w p2p func => cases p2p <;> cases func <;> rfl
  | free env w => rw [connmanServiceFree_mirror]

/-- Along every run without a snapshot, the name, the SSID buffer, its length and the
display name, the type, the hidden flag, the security list, the immutable flag, the
peer, the address, the interface name and the MAC address keep their values. -/
theorem snapshotOnly_between_snapshots {w w' : World} {es : List Event} (hrun : Run w es w')
    (hs : ∀ e ∈ es, ¬e.IsSnapshot) : w'.svc.mirror.snapshotOnly = w.svc.mirror.snapshotOnly := by
  induction hrun with
  | nil => rfl
  | snoc _ hstep ih =>
      rw [step_snapshotOnly hstep (hs _ (List.mem_append_right _ (List.mem_singleton_self _))),
        ih fun e he => hs e (List.mem_append_left _ he)]

/-- A push of `Name` and a connect leave the name, like every other such field, alone. -/
theorem snapshotOnly_push_name :
    let es := [Event.push "Name" (.str "x"), .connect false true]
    let w' := connmanServiceConnect true (propertyChangedCb x86Env (freshWorld "/s") "Name" (.str "x"))
    Run (freshWorld "/s") es w' ∧ (∀ e ∈ es, ¬e.IsSnapshot) ∧
      w'.svc.mirror.snapshotOnly = (freshWorld "/s").svc.mirror.snapshotOnly := by
  intro es w'
  have hrun : Run (freshWorld "/s") es w' :=
    .snoc (.single (.push x86Env _ "Name" (.str "x"))) (.connect _ false true)
  have hs : ∀ e ∈ es, ¬e.IsSnapshot := by simp [es, Event.IsSnapshot]
  exact ⟨hrun, hs, snapshotOnly_between_snapshots hrun hs⟩

/-! ### The SSID buffer -/

/-- No SSID buffer, or the one the `WiFi.SSID` branch leaves for some byte string `b`:
its bytes before the first `NUL`, a `NUL`, and cells never written, with `ssid_len` the
length of `b`. -/
def SsidShaped (m : Mirror) : Prop :=
  m.ssid = none ∧ m.ssidLen = 0 ∨
    ∃ b : List UInt8, m.ssidLen = b.length ∧
      m.ssid = some ((cString b).map some ++ [some 0] ++ List.replicate (b.length - cStrLen b) none)

theorem SsidShaped.of_snapshotOnly {m m' : Mirror} (h : SsidShaped m)
    (he : m'.snapshotOnly = m.snapshotOnly) : SsidShaped m' := by
  simp only [Mirror.snapshotOnly, Prod.mk.injEq] at he
  obtain ⟨-, hs, hl, -⟩ := he
  unfold SsidShaped
  rw [hs, hl]
  exact h

/-- Every snapshot entry keeps the shape: an SSID byte string writes it afresh, every
other entry leaves the buffer alone. -/
theorem keyMirror_ssidShaped (env : Env) (k : Key) (v : Value) {m : Mirror} (h : SsidShaped m) :
    SsidShaped (keyMirror env k v m) := by
  cases k
  case ssid =>
    cases v
    case bytes b =>
      refine .inr ⟨b, ?_, ?_⟩ <;> simp only [keyMirror, ssidWrite, Option.map_some',
        Option.getD_some] <;> rw [updateDisplayName_frame]
      · rfl
      · exact ssidBuffer_ssid env { path := "" } b
    all_goals exact h
  all_goals exact h

theorem updatePropertiesLoop_ssidShaped (env : Env) (bag : Bag) :
    ∀ (fuel i : Nat) (w w' : World), updatePropertiesLoop env bag fuel i w = some w' →
      SsidShaped w.svc.mirror → SsidShaped w'.svc.mirror
  | 0, _, _, _, hl, _ => nomatch hl
  | fuel + 1, i, w, w', hl, h => by
      unfold updatePropertiesLoop at hl
      split at hl
      · cases hl
        exact h
      · refine updatePropertiesLoop_ssidShaped env bag fuel _ _ _ hl ?_
        rw [updateProperty_mirror]
        exact keyMirror_ssidShaped env _ _ h

theorem step_ssidShaped {w w' : World} {e : Event} (hs : Step w e w')
    (h : SsidShaped w.svc.mirror) : SsidShaped w'.svc.mirror := by
  by_cases he : e.IsSnapshot
  · cases hs with
    | snapshot env fuel hl => exact updatePropertiesLoop_ssidShaped env _ fuel 0 w _ hl h
    | _ => exact absurd he id
  · exact h.of_snapshotOnly (step_snapshotOnly hs he)

theorem reachable_ssidShaped {w : World} (hw : Reachable w) : SsidShaped w.svc.mirror := by
  obtain ⟨w₀, es, ⟨env, fuel, path, props, hnew⟩, hrun⟩ := hw
  have h₀ := updatePropertiesLoop_ssidShaped env props fuel 0 _ w₀ hnew (.inl ⟨rfl, rfl⟩)
  induction hrun with
  | nil => exact h₀
  | snoc _ hs ih => exact step_ssidShaped hs ih

/-- On every reachable service the SSID buffer, when there is one, has `ssid_len + 1`
cells and holds a `NUL` at an index at most `ssid_len` after written non-`NUL` bytes
only: reading it as a C string never leaves the allocation nor reads a cell that was
never written. -/
theorem ssid_cstring_in_bounds {w : World} (hw : Reachable w) {buf : List (Option UInt8)}
    (hb : w.svc.ssid = some buf) :
    buf.length = w.svc.ssidLen + 1 ∧ ∃ k ≤ w.svc.ssidLen, buf[k]? = some (some 0) ∧
      ∀ i < k, ∃ x, x ≠ 0 ∧ buf[i]? = some (some x) := by
  obtain ⟨hn, -⟩ | ⟨b, hl, hs⟩ := reachable_ssidShaped hw
  · rw [Service.mirror_ssid, hb] at hn
    cases hn
  · rw [Service.mirror_ssidLen] at hl
    rw [Service.mirror_ssid, hb, Option.some.injEq] at hs
    subst hs
    have hle := cStrLen_le b
    have hk : (cString b).length = cStrLen b := rfl
    refine ⟨by simp [hl, hk]; omega, cStrLen b, hl ▸ hle, ?_, fun i hi => ?_⟩
    · rw [List.append_assoc, List.getElem?_append_right (by simp [hk]), List.length_map, hk,
        Nat.sub_self]
      simp
    · have hi' : i < (cString b).length := hk ▸ hi
      refine ⟨(cString b)[i], ?_, ?_⟩
      · simpa using List.mem_takeWhile_imp (List.getElem_mem hi')
      · rw [List.append_assoc, List.getElem?_append_left (by simpa using hi'),
          List.getElem?_map, List.getElem?_eq_getElem hi']
        rfl

/-- The embedded-`NUL` SSID `a NUL b` on a new service: the buffer `a`, `NUL`, two unwritten
cells holds its `NUL` at index 1. -/
theorem ssid_cstring_in_bounds_embedded_nul :
    let w := (freshWorld "/s").setSvc
      (connmanServiceUpdateDisplayName x86Env (ssidBuffer x86Env { path := "/s" } [0x61, 0x00, 0x62]))
    let buf : List (Option UInt8) := [some 0x61, some 0x00, none, none]
    Reachable w ∧ w.svc.ssid = some buf ∧ buf.length = w.svc.ssidLen + 1 ∧
      ∃ k ≤ w.svc.ssidLen, buf[k]? = some (some 0) ∧ ∀ i < k, ∃ x, x ≠ 0 ∧ buf[i]? = some (some x) := by
  intro w buf
  have hw : Reachable w :=
    ⟨_, [], ⟨x86Env, 2, "/s", _, updateProperties_ssid x86Env (freshWorld "/s") _⟩, .nil _⟩
  have hb : w.svc.ssid = some buf := rfl
  exact ⟨hw, hb, ssid_cstring_in_bounds hw hb⟩

end ConnmanService
