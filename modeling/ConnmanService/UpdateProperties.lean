import ConnmanService.Advance
import ConnmanService.Bss
import ConnmanService.Wfd

/-! # Snapshot decoding

`connman_service_update_properties` walks a property bag with an index `i` and applies
one `else if` branch per recognised key (`updateProperty`).  The `WiFi.SSID` branch
copies the bytes with `i = g_strlcpy (service->ssid, data, ssid_len + 1)`, reusing the
loop index for the copy's return value, `strlen (data)`: after an SSID the walk resumes
at `strlen (data) + 1`, not at the next entry (`updatePropertyIndex`).

* `updatePropertiesLoop` is the loop with its real index, run with fuel (`none`: not
  finished within the fuel).
* When every entry leaves the index where it was (`IndexStable`, which holds of every
  bag without an SSID byte string), the loop terminates and is the left fold of the
  per-entry update over the bag (`updateProperties_eq_foldl`).
* Otherwise it does not: an SSID whose `strlen` is below its position sends the walk
  back, forever (`updateProperties_ssid_loops`).
* `g_strlcpy` copies the SSID's bytes up to its first `NUL` into a buffer of
  `ssid_len + 1` cells from `g_new`, and `ssid_len` is the value's whole size
  (`ssidBuffer_ssid`): an SSID with a `NUL` inside is cut there, and the cells after
  the copy, among the first `ssid_len`, are never written and yet read by the
  display-name refresh (`updateProperties_ssid_embedded_nul`).
* The `Services` branch hands every `WiFiDisplayIEs` blob to the WFD parser
  (`services_peer`), which accepts a wrong length field (`services_accepts_wrong_length`). -/

namespace ConnmanService

open World

/-! ### Branches -/

/-- `strlen (data)` of a byte string's data: its bytes before the first `NUL`, or all of
them and the non-`NUL` bytes that follow them in memory. -/
def dataStrlen (env : Env) (b : List UInt8) : Nat :=
  if cStrLen b < b.length then cStrLen b else b.length + env.strlenPastEnd b

/-- The `WiFi.SSID` copy: `ssid_len` is the value's size, the buffer of `ssid_len + 1`
bytes receives `g_strlcpy`'s at most `ssid_len` bytes and `NUL`, the rest is never
written. -/
def ssidBuffer (env : Env) (s : Service) (b : List UInt8) : Service :=
  let k := min (dataStrlen env b) b.length
  { s with
    ssidLen := b.length
    ssid := some ((b.take k).map some ++ [some 0] ++ List.replicate (b.length - k) none) }

/-- One entry of the `P2P` dictionary. -/
def p2pProperty (peer : Peer) (e : String × Value) : Peer :=
  let v := e.2
  match e.1 with
  | "DeviceAddress" => { peer with address := v.getString }
  | "DeviceType" => { peer with priDevType := v.getString }
  | "GroupOwner" => { peer with groupOwner := v.getBoolean }
  | "ConfigMethod" => { peer with configMethod := v.getUint16 }
  | "WFDDevType" => { peer with wfdDevtype := v.getUint16.toNat, wfdEnabled := true }
  | "WFDSessionAvail" => { peer with wfdSessionavail := if v.getBoolean then 1 else 0 }
  | "WFDCPSupport" => { peer with wfdCpsupport := if v.getBoolean then 1 else 0 }
  | "WFDRtspPort" => { peer with wfdRtspport := v.getUint32.toNat }
  | _ => peer

/-- The `Services` branch: the dictionary in the first structure of the array, whose
`WiFiDisplayIEs` blobs go to `p2p_parse_wfd_dev_info`. -/
def servicesPeer (val : Value) (peer : Peer) : Peer :=
  let serviceArray := (val.childValue 0).bind (·.childValue 0)
  ((serviceArray.map Value.entries).getD []).foldl
    (fun p e => if e.1 = "WiFiDisplayIEs" then p2pParseWfdDevInfo e.2.data p else p) peer

/-- One entry of the `Ethernet` dictionary; a new interface name may create the
routing rules. -/
def ethernetProperty (env : Env) (w : World) : String × Value → World
  | ("Interface", v) =>
      let w := w.setSvc { w.svc with interfaceName := updateStringValFromFirstElement v }
      if env.multipleRoutingTable then connmanServiceCreateIpRule env w else w
  | ("Address", v) => w.setSvc { w.svc with macAddress := updateStringValFromFirstElement v }
  | _ => w

/-- The body of the loop of `connman_service_update_properties` for one entry. -/
def updateProperty (env : Env) (w : World) (key : String) (val : Value) : World :=
  match key with
  | "Name" =>
      let name := val.getString
      let s := if name ≠ w.svc.name then
          connmanServiceSetChanged w.svc (categoryGetstatus ||| categoryFindnetworks)
        else w.svc
      w.setSvc { s with name := name }
  | "WiFi.SSID" =>
      match val with
      | .bytes b => w.setSvc (connmanServiceUpdateDisplayName env (ssidBuffer env w.svc b))
      | _ => w
  | "Type" => w.setSvc { w.svc with type := connmanServiceUpdateType w.svc.type val.getString }
  | "State" =>
      let w := connmanServiceAdvanceState env w val
      if w.svc.state = some "association" then w.setSvc { w.svc with hidden := true } else w
  | "Strength" =>
      let strength := val.getByte
      if strength ≠ w.svc.strength then
        w.setSvc (connmanServiceSetChanged { w.svc with strength := strength } categoryFindnetworks)
      else w
  | "Security" => w.setSvc { w.svc with security := val.dupStrv }
  | "AutoConnect" => w.setSvc { w.svc with autoConnect := val.getBoolean }
  | "Immutable" => w.setSvc { w.svc with immutable := val.getBoolean }
  | "Favorite" => w.setSvc { w.svc with favorite := val.getBoolean }
  | "Online" => connmanServiceAdvanceOnlineState w val
  | "RunOnlineCheck" => w.setSvc { w.svc with onlineChecking := val.getBoolean }
  | "P2P" =>
      w.setSvc { w.svc with
        peer := val.entries.foldl p2pProperty { w.svc.peer with wfdEnabled := false } }
  | "Services" => w.setSvc { w.svc with peer := servicesPeer val w.svc.peer }
  | "Address" => w.setSvc { w.svc with address := val.getString }
  | "Ethernet" => val.entries.foldl (ethernetProperty env) w
  | "BSS" => w.setSvc { w.svc with bss := some (bssDecode val) }
  | _ => w

/-- The loop index after the body: `g_strlcpy`'s return value after an SSID copy. -/
def updatePropertyIndex (env : Env) (i : Nat) (key : String) (val : Value) : Nat :=
  match key, val with
  | "WiFi.SSID", .bytes b => dataStrlen env b
  | _, _ => i

/-! ### The loop -/

/-- `for (i = 0; i < g_variant_n_children (properties); i++)` over the bag, with fuel. -/
def updatePropertiesLoop (env : Env) (bag : Bag) : Nat → Nat → World → Option World
  | 0, _, _ => none
  | fuel + 1, i, w =>
      match bag[i]? with
      | none => some w
      | some (key, val) =>
          updatePropertiesLoop env bag fuel (updatePropertyIndex env i key val + 1)
            (updateProperty env w key val)

/-- `connman_service_update_properties (service, properties)`, run with fuel. -/
def connmanServiceUpdateProperties (env : Env) (fuel : Nat) (w : World) (bag : Bag) :
    Option World :=
  updatePropertiesLoop env bag fuel 0 w

/-- The contract: every entry applied once, in bag order. -/
def applyProperties (env : Env) (w : World) (bag : Bag) : World :=
  bag.foldl (fun w e => updateProperty env w e.1 e.2) w

/-- Every entry of the bag leaves the loop index where it was. -/
def IndexStable (env : Env) (bag : Bag) : Prop :=
  ∀ j e, bag[j]? = some e → updatePropertyIndex env j e.1 e.2 = j

theorem updatePropertyIndex_of_ne {env : Env} {i : Nat} {key : String} {val : Value}
    (h : ¬(key = "WiFi.SSID" ∧ val.isBytestring = true)) :
    updatePropertyIndex env i key val = i := by
  unfold updatePropertyIndex
  split
  · exact absurd ⟨rfl, rfl⟩ h
  · rfl

/-- A bag without an SSID byte string is index-stable. -/
theorem indexStable_of_no_ssid {env : Env} {bag : Bag}
    (h : ∀ e ∈ bag, ¬(e.1 = "WiFi.SSID" ∧ e.2.isBytestring = true)) : IndexStable env bag :=
  fun _ e he => updatePropertyIndex_of_ne (h e (List.mem_iff_getElem?.mpr ⟨_, he⟩))

theorem updatePropertiesLoop_of_stable {env : Env} {bag : Bag} (hs : IndexStable env bag) :
    ∀ (fuel i : Nat) (w : World), bag.length - i < fuel →
      updatePropertiesLoop env bag fuel i w = some ((bag.drop i).foldl
        (fun w e => updateProperty env w e.1 e.2) w)
  | 0, _, _, h => absurd h (Nat.not_lt_zero _)
  | fuel + 1, i, w, h => by
      unfold updatePropertiesLoop
      cases hi : bag[i]? with
      | none =>
          rw [List.drop_eq_nil_of_le (List.getElem?_eq_none_iff.mp hi)]
          rfl
      | some e =>
          obtain ⟨key, val⟩ := e
          have hlt : i < bag.length := (List.getElem?_eq_some_iff.mp hi).1
          have hidx : updatePropertyIndex env i key val = i := hs i _ hi
          dsimp only
          rw [hidx, updatePropertiesLoop_of_stable hs fuel (i + 1) _ (by omega),
            List.drop_eq_getElem_cons hlt, (List.getElem?_eq_some_iff.mp hi).2]
          rfl

/-- With an index-stable bag the loop terminates after one pass and applies every entry
once, in order. -/
theorem updateProperties_eq_foldl {env : Env} {bag : Bag} (hs : IndexStable env bag)
    (w : World) {fuel : Nat} (hf : bag.length < fuel) :
    connmanServiceUpdateProperties env fuel w bag = some (applyProperties env w bag) :=
  updatePropertiesLoop_of_stable hs fuel 0 w (by omega)

/-- A one-entry snapshot that ends ran the loop body once. -/
theorem updateProperties_single_of_some {env : Env} {fuel : Nat} {w w' : World} {key : String}
    {val : Value} (hk : key ≠ "WiFi.SSID")
    (h : connmanServiceUpdateProperties env fuel w [(key, val)] = some w') :
    w' = updateProperty env w key val := by
  rcases fuel with _ | _ | fuel
  · cases h
  · simp [connmanServiceUpdateProperties, updatePropertiesLoop] at h
  · rw [updateProperties_eq_foldl (indexStable_of_no_ssid (by simp [hk])) w (by simp)] at h
    exact (Option.some.inj h).symm

/-- A one-entry snapshot runs the loop body once. -/
theorem updateProperties_single (env : Env) (w : World) (key : String) (val : Value)
    (hk : key ≠ "WiFi.SSID") :
    connmanServiceUpdateProperties env 2 w [(key, val)] = some (updateProperty env w key val) :=
  updateProperties_eq_foldl (indexStable_of_no_ssid (by simp [hk])) w (by simp)

/-! ### The SSID index -/

/-- A bag whose SSID, with `strlen` 0, sits at position 1. -/
def loopingBag : Bag := [("Name", .str "x"), ("WiFi.SSID", .bytes [0])]

theorem loopingBag_from_one (env : Env) :
    ∀ (fuel : Nat) (w : World), updatePropertiesLoop env loopingBag fuel 1 w = none
  | 0, _ => rfl
  | fuel + 1, w => by
      unfold updatePropertiesLoop
      exact loopingBag_from_one env fuel _

/-- The walk over `loopingBag` never ends: whatever the fuel, the loop is still running. -/
theorem updateProperties_ssid_loops (env : Env) (w : World) (fuel : Nat) :
    connmanServiceUpdateProperties env fuel w loopingBag = none := by
  cases fuel with
  | zero => rfl
  | succ fuel =>
      unfold connmanServiceUpdateProperties updatePropertiesLoop
      exact loopingBag_from_one env fuel _

/-! ### The SSID copy -/

theorem min_dataStrlen (env : Env) (b : List UInt8) :
    min (dataStrlen env b) b.length = cStrLen b := by
  have hle := cStrLen_le b
  unfold dataStrlen
  split <;> omega

/-- `g_strlcpy` writes the bytes of `b` before its first `NUL` and a `NUL`; the other
`|b| - strlen` cells of the buffer are never written. -/
theorem ssidBuffer_ssid (env : Env) (s : Service) (b : List UInt8) :
    (ssidBuffer env s b).ssid =
      some ((cString b).map some ++ [some 0] ++ List.replicate (b.length - cStrLen b) none) := by
  simp only [ssidBuffer, min_dataStrlen, take_cStrLen]

/-- A one-entry bag of an SSID byte string runs the body once, whatever `strlen (data)`
is. -/
theorem updateProperties_ssid (env : Env) (w : World) (b : List UInt8) :
    connmanServiceUpdateProperties env 2 w [("WiFi.SSID", .bytes b)] =
      some (w.setSvc (connmanServiceUpdateDisplayName env (ssidBuffer env w.svc b))) := by
  show updatePropertiesLoop env [("WiFi.SSID", .bytes b)] 1 (dataStrlen env b + 1)
    (updateProperty env w "WiFi.SSID" (.bytes b)) = _
  unfold updatePropertiesLoop
  rw [List.getElem?_eq_none (by simp)]
  rfl

/-- An SSID with a `NUL` inside, `a NUL b`: `ssid_len` is 3, but the buffer holds `a`, a
`NUL` and two cells never written, and the display name is computed from that buffer. -/
theorem updateProperties_ssid_embedded_nul (env : Env) (w : World) :
    ∃ r, connmanServiceUpdateProperties env 2 w [("WiFi.SSID", .bytes [0x61, 0x00, 0x62])] =
        some r ∧
      r.svc.ssidLen = 3 ∧ r.svc.ssid = some [some 0x61, some 0x00, none, none] ∧
      r.svc.displayName = if env.utf8Validate [some 0x61, some 0x00, none] then some [0x61]
        else env.convertSsidToUtf8 [some 0x61, some 0x00, none, none] 3 env.locale := by
  have hbuf := ssidBuffer_ssid env w.svc [0x61, 0x00, 0x62]
  refine ⟨_, updateProperties_ssid env w _, ?_⟩
  rw [setSvc_svc, updateDisplayName_frame, updateDisplayName_displayName env hbuf]
  exact ⟨rfl, rfl, rfl⟩

/-! ### The `Services` branch -/

/-- A `Services` value holding one `WiFiDisplayIEs` blob. -/
def servicesValue (blob : List UInt8) : Value :=
  .array [.tuple [.dict [("WiFiDisplayIEs", .bytes blob)]]]

theorem services_peer (env : Env) (w : World) (blob : List UInt8) :
    (updateProperty env w "Services" (servicesValue blob)).svc.peer =
      if wfdAccepts blob then wfdFields blob w.svc.peer else w.svc.peer := by
  show servicesPeer (servicesValue blob) w.svc.peer = _
  simp [servicesPeer, servicesValue, Value.childValue, Value.entries, Value.data,
    p2pParseWfdDevInfo_eq]

/-- A blob whose length field reads `0x0007`, delivered in a snapshot, still sets all
five capability fields, from a header the spec rejects. -/
theorem services_accepts_wrong_length (env : Env) (w : World) :
    ¬wfdHeaderValid [0x00, 0x00, 0x07, 0x01, 0x11, 0x1C, 0x44, 0x00, 0x00] ∧
      ∃ r, connmanServiceUpdateProperties env 2 w
          [("Services", servicesValue [0x00, 0x00, 0x07, 0x01, 0x11, 0x1C, 0x44, 0x00, 0x00])] =
            some r ∧
        r.svc.peer =
          { w.svc.peer with
            wfdEnabled := true, wfdDevtype := 1, wfdSessionavail := 1, wfdCpsupport := 1,
            wfdRtspport := 7236 } :=
  ⟨by decide, _, updateProperties_single env w _ _ (by decide),
    by rw [services_peer, if_pos (by decide)]; rfl⟩

end ConnmanService
