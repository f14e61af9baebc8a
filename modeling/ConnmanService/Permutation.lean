import ConnmanService.Suppression

/-! # Bag order

A snapshot is a dictionary, so its order should not matter.  For the mirrored fields it
does not, except in two places.  The `P2P` entry resets `wfd_enabled` before reading its
own WFD keys while the `Services` entry sets it from the WFD blob, so with both in a
bag the capability fields depend on which comes first (`p2p_services_order`); and an
SSID byte string moves the loop index (see `UpdateProperties.lean`).

`keyMirror` is what one entry does to the mirrored fields, written so that every key
updates its own fields and at most ORs a category into `change_mask`.

* `updateProperty_mirror`: the loop body acts on the mirrored fields as `keyMirror`.
* `keyMirror_comm`: entries under distinct keys commute, `P2P` and `Services` apart;
  `eraseWfd_keyMirror_comm`: those two commute too on all but the WFD fields.
* `updateProperties_perm`: two bags that are permutations of each other, with distinct
  keys and no SSID byte string, give the same mirrored fields, the WFD fields apart
  when both `P2P` and `Services` are there. -/

namespace ConnmanService

open World

/-! ### Recognised keys -/

/-- The keys `connman_service_update_properties` has a branch for; `other` is every key
it skips. -/
inductive Key
  | name | ssid | type | state | strength | security | autoConnect | immutable | favorite
  | online | runOnlineCheck | p2p | services | address | ethernet | bss | other
deriving DecidableEq, Repr

/-- The branch a key selects. -/
def Key.ofString : String → Key
  | "Name" => .name
  | "WiFi.SSID" => .ssid
  | "Type" => .type
  | "State" => .state
  | "Strength" => .strength
  | "Security" => .security
  | "AutoConnect" => .autoConnect
  | "Immutable" => .immutable
  | "Favorite" => .favorite
  | "Online" => .online
  | "RunOnlineCheck" => .runOnlineCheck
  | "P2P" => .p2p
  | "Services" => .services
  | "Address" => .address
  | "Ethernet" => .ethernet
  | "BSS" => .bss
  | _ => .other

/-- The property name of a recognised key. -/
def Key.toString : Key → String
  | .name => "Name"
  | .ssid => "WiFi.SSID"
  | .type => "Type"
  | .state => "State"
  | .strength => "Strength"
  | .security => "Security"
  | .autoConnect => "AutoConnect"
  | .immutable => "Immutable"
  | .favorite => "Favorite"
  | .online => "Online"
  | .runOnlineCheck => "RunOnlineCheck"
  | .p2p => "P2P"
  | .services => "Services"
  | .address => "Address"
  | .ethernet => "Ethernet"
  | .bss => "BSS"
  | .other => ""

theorem Key.toString_ofString {k : String} (h : Key.ofString k ≠ .other) :
    (Key.ofString k).toString = k := by
  revert h
  unfold Key.ofString
  split <;> intro h <;> first | rfl | exact absurd rfl h

/-- Two property names select the same branch only if they are equal or both skipped. -/
theorem Key.ofString_inj {k k' : String} (h : Key.ofString k = Key.ofString k') :
    k = k' ∨ Key.ofString k = .other := by
  by_cases ho : Key.ofString k = .other
  · exact .inr ho
  · left
    calc k = (Key.ofString k).toString := (Key.toString_ofString ho).symm
      _ = (Key.ofString k').toString := by rw [h]
      _ = k' := Key.toString_ofString fun h' => ho (h.trans h')

/-! ### Entries on the mirrored fields -/

/-- `mask` when `c` holds, else no category. -/
def markIf (c : Prop) [Decidable c] (mask : BitVec 32) : BitVec 32 := if c then mask else 0

theorem or_markIf_neg {c : Prop} [Decidable c] (h : ¬c) (x mask : BitVec 32) :
    x ||| markIf c mask = x := by
  rw [markIf, if_neg h]
  exact BitVec.or_zero

theorem or_markIf_pos {c : Prop} [Decidable c] (h : c) (x mask : BitVec 32) :
    x ||| markIf c mask = x ||| mask := by
  rw [markIf, if_pos h]

theorem or_or_right_comm (x y z : BitVec 32) : x ||| y ||| z = x ||| z ||| y := by
  rw [BitVec.or_assoc, BitVec.or_comm y, ← BitVec.or_assoc]

/-- `connman_service_advance_state` on the mirrored fields. -/
def advanceStateMirror (m : Mirror) (v : Value) : Mirror :=
  let suppress := m.disconnecting && v.getString != some "ready" && v.getString != some "online"
  { m with
    state := if suppress then m.state else v.getString
    disconnecting := m.disconnecting && !suppress
    changeMask := m.changeMask |||
      markIf (suppress = false ∧ m.state ≠ v.getString) (categoryGetstatus ||| categoryFindnetworks) }

/-- What a `WiFi.SSID` entry writes: the copied buffer and its display name, for a byte
string. -/
def ssidWrite (env : Env) : Value → Option Service
  | .bytes b => some (connmanServiceUpdateDisplayName env (ssidBuffer env { path := "" } b))
  | _ => none

/-- The last `key` entry of an `Ethernet` dictionary, read by
`update_string_val_from_first_element`, or `old` when there is none. -/
def ethernetField (key : String) (es : List (String × Value)) (old : Option String) :
    Option String :=
  es.foldl (fun acc e => if e.1 = key then updateStringValFromFirstElement e.2 else acc) old

/-- What one entry of the loop does to the mirrored fields. -/
def keyMirror (env : Env) : Key → Value → Mirror → Mirror
  | .name, v, m =>
      { m with
        name := v.getString
        changeMask := m.changeMask |||
          markIf (v.getString ≠ m.name) (categoryGetstatus ||| categoryFindnetworks) }
  | .ssid, v, m =>
      { m with
        ssid := ((ssidWrite env v).map Service.ssid).getD m.ssid
        ssidLen := ((ssidWrite env v).map Service.ssidLen).getD m.ssidLen
        displayName := ((ssidWrite env v).map Service.displayName).getD m.displayName }
  | .type, v, m => { m with type := connmanServiceUpdateType m.type v.getString }
  | .state, v, m =>
      let m := advanceStateMirror m v
      { m with hidden := m.hidden || decide (m.state = some "association") }
  | .strength, v, m =>
      { m with
        strength := v.getByte
        changeMask := m.changeMask ||| markIf (v.getByte ≠ m.strength) categoryFindnetworks }
  | .security, v, m => { m with security := v.dupStrv }
  | .autoConnect, v, m => { m with autoConnect := v.getBoolean }
  | .immutable, v, m => { m with immutable := v.getBoolean }
  | .favorite, v, m => { m with favorite := v.getBoolean }
  | .online, v, m =>
      { m with
        online := v.getBoolean
        changeMask := m.changeMask ||| markIf (m.online ≠ v.getBoolean) categoryGetstatus }
  | .runOnlineCheck, v, m => { m with onlineChecking := v.getBoolean }
  | .p2p, v, m => { m with peer := v.entries.foldl p2pProperty { m.peer with wfdEnabled := false } }
  | .services, v, m => { m with peer := servicesPeer v m.peer }
  | .address, v, m => { m with address := v.getString }
  | .ethernet, v, m =>
      { m with
        interfaceName := ethernetField "Interface" v.entries m.interfaceName
        macAddress := ethernetField "Address" v.entries m.macAddress }
  | .bss, v, m => { m with bss := some (bssDecode v) }
  | .other, _, m => m

/-! ### The loop body refines `keyMirror` -/

theorem advanceStateSvc_mirror (s : Service) (v : Value) :
    (advanceStateSvc s v).mirror = advanceStateMirror s.mirror v := by
  unfold advanceStateSvc advanceStateMirror
  by_cases hs : advanceStateSuppresses s v.getString = true
  · rw [if_pos hs]
    simp only [advanceStateSuppresses] at hs
    simp only [Service.mirror_disconnecting, hs, if_true, Bool.not_true, Bool.and_false]
    rw [or_markIf_neg (by simp)]
    rfl
  · rw [if_neg hs]
    simp only [advanceStateSuppresses, Bool.not_eq_true] at hs
    simp only [Service.mirror_disconnecting, Service.mirror_state, hs, Bool.false_eq_true,
      if_false, Bool.not_false, Bool.and_true]
    split
    · next he => rw [or_markIf_neg (by simp [he])]; simp only [← he]; rfl
    · next he => rw [or_markIf_pos ⟨trivial, he⟩]; rfl

theorem mirror_hideAssociation (s : Service) :
    (if s.state = some "association" then { s with hidden := true } else s).mirror =
      { s.mirror with hidden := s.mirror.hidden || decide (s.mirror.state = some "association") } := by
  split
  · next h => simp only [Service.mirror_state, h, decide_True, Bool.or_true]; rfl
  · next h => simp only [Service.mirror_state, h, decide_False, Bool.or_false]; rfl

theorem ssidBuffer_mirror (env : Env) (s : Service) (b : List UInt8) :
    (connmanServiceUpdateDisplayName env (ssidBuffer env s b)).mirror =
      keyMirror env .ssid (.bytes b) s.mirror := by
  simp only [keyMirror, ssidWrite, Option.map_some', Option.getD_some]
  unfold connmanServiceUpdateDisplayName ssidBuffer
  dsimp only
  split_ifs <;> rfl

theorem ethernetProperty_mirror (env : Env) (w : World) (e : String × Value) :
    (ethernetProperty env w e).svc.mirror =
      { w.svc.mirror with
        interfaceName := ethernetField "Interface" [e] w.svc.interfaceName
        macAddress := ethernetField "Address" [e] w.svc.macAddress } := by
  unfold ethernetProperty
  split
  · dsimp only
    split
    · exact createIpRule_mirror env _
    · rfl
  · rfl
  · next hi ha =>
    simp only [ethernetField, List.foldl_cons, List.foldl_nil]
    rw [if_neg (fun h => hi _ (Prod.ext h rfl)), if_neg (fun h => ha _ (Prod.ext h rfl))]
    rfl

theorem ethernet_mirror (env : Env) (es : List (String × Value)) (w : World) :
    (es.foldl (ethernetProperty env) w).svc.mirror =
      { w.svc.mirror with
        interfaceName := ethernetField "Interface" es w.svc.interfaceName
        macAddress := ethernetField "Address" es w.svc.macAddress } := by
  induction es generalizing w with
  | nil => rfl
  | cons e es ih =>
    rw [List.foldl_cons, ih, ← Service.mirror_interfaceName, ← Service.mirror_macAddress,
      ethernetProperty_mirror]
    rfl

/-- The loop body acts on the mirrored fields as `keyMirror`. -/
theorem updateProperty_mirror (env : Env) (w : World) (key : String) (val : Value) :
    (updateProperty env w key val).svc.mirror = keyMirror env (Key.ofString key) val w.svc.mirror := by
  unfold updateProperty
  split
  case h_1 =>
    show _ = keyMirror env .name val _
    dsimp only
    split_ifs with h
    · rw [keyMirror, or_markIf_pos (show val.getString ≠ w.svc.mirror.name from h)]; rfl
    · rw [keyMirror, or_markIf_neg (show ¬val.getString ≠ w.svc.mirror.name from h)]; rfl
  case h_2 =>
    cases val
    case bytes b => exact ssidBuffer_mirror env w.svc b
    all_goals rfl
  case h_4 =>
    show _ = keyMirror env .state val _
    rw [keyMirror, ← advanceStateSvc_mirror, ← advanceState_mirror env w val]
    dsimp only
    rw [apply_ite World.svc, setSvc_svc]
    exact mirror_hideAssociation _
  case h_5 =>
    show _ = keyMirror env .strength val _
    dsimp only
    split_ifs with h
    · rw [keyMirror, or_markIf_pos (show val.getByte ≠ w.svc.mirror.strength from h)]; rfl
    · rw [keyMirror, or_markIf_neg (show ¬val.getByte ≠ w.svc.mirror.strength from h),
        not_not.mp h]
      rfl
  case h_10 =>
    show _ = keyMirror env .online val _
    rw [advanceOnlineState_svc, keyMirror]
    unfold advanceOnlineStateSvc
    split_ifs with h
    · rw [or_markIf_neg (show ¬w.svc.mirror.online ≠ val.getBoolean from not_not.mpr h)]; rfl
    · rw [or_markIf_pos (show w.svc.mirror.online ≠ val.getBoolean from h)]; rfl
  case h_15 => exact ethernet_mirror env _ w
  case h_17 =>
    rw [Key.ofString.eq_def]
    split <;> first | rfl | exact absurd rfl (by assumption)
  all_goals rfl

/-! ### Entries under distinct keys commute -/

/-- Entries under distinct keys commute on the mirrored fields, `P2P` with `Services`
apart: each key updates fields of its own and ORs a category into the mask. -/
theorem keyMirror_comm (env : Env) {a b : Key} (hab : a ≠ b)
    (hps : ¬(a = .p2p ∧ b = .services)) (hsp : ¬(a = .services ∧ b = .p2p))
    (v v' : Value) (m : Mirror) :
    keyMirror env a v (keyMirror env b v' m) = keyMirror env b v' (keyMirror env a v m) := by
  cases a <;> cases b <;> first
    | rfl
    | (apply Mirror.ext <;> first | rfl | exact or_or_right_comm _ _ _)
    | (exfalso; revert hab hps hsp; decide)

/-! ### The WFD capability fields -/

/-- The peer without its WFD capability fields. -/
def Peer.eraseWfd (p : Peer) : Peer :=
  { p with wfdEnabled := false, wfdDevtype := 0, wfdSessionavail := 0, wfdCpsupport := 0,
           wfdRtspport := 0 }

/-- The mirrored fields without the peer's WFD capability fields. -/
def Mirror.eraseWfd (m : Mirror) : Mirror := { m with peer := m.peer.eraseWfd }

theorem p2pParseWfdDevInfo_eraseWfd (b : List UInt8) (p : Peer) :
    (p2pParseWfdDevInfo b p).eraseWfd = p.eraseWfd := by
  rw [p2pParseWfdDevInfo_eq]
  split <;> rfl

/-- The `Services` branch writes the WFD fields only. -/
theorem servicesPeer_eraseWfd (v : Value) (p : Peer) :
    (servicesPeer v p).eraseWfd = p.eraseWfd := by
  unfold servicesPeer
  dsimp only
  generalize ((((v.childValue 0).bind (·.childValue 0)).map Value.entries).getD []) = es
  induction es generalizing p with
  | nil => rfl
  | cons e es ih =>
    rw [List.foldl_cons, ih]
    split
    · exact p2pParseWfdDevInfo_eraseWfd _ p
    · rfl

/-- Apart from the WFD fields, a `P2P` entry never reads them. -/
theorem foldl_p2pProperty_eraseWfd (es : List (String × Value)) (p : Peer) :
    (es.foldl p2pProperty p).eraseWfd = (es.foldl p2pProperty p.eraseWfd).eraseWfd := by
  induction es generalizing p with
  | nil => rfl
  | cons e es ih =>
    have he : (p2pProperty p e).eraseWfd = (p2pProperty p.eraseWfd e).eraseWfd := by
      unfold p2pProperty; split <;> rfl
    rw [List.foldl_cons, List.foldl_cons, ih, he, ← ih]

theorem keyMirror_services_eraseWfd (env : Env) (v : Value) (m : Mirror) :
    (keyMirror env .services v m).eraseWfd = m.eraseWfd :=
  congrArg (fun p => { m with peer := p }) (servicesPeer_eraseWfd v m.peer)

/-- No entry reads the WFD fields, except to overwrite them. -/
theorem keyMirror_eraseWfd (env : Env) (a : Key) (v : Value) (m : Mirror) :
    (keyMirror env a v m).eraseWfd = (keyMirror env a v m.eraseWfd).eraseWfd := by
  cases a
  case p2p =>
    exact congrArg (fun p => { m with peer := p })
      ((foldl_p2pProperty_eraseWfd v.entries { m.peer with wfdEnabled := false }).trans
        (foldl_p2pProperty_eraseWfd v.entries { m.peer.eraseWfd with wfdEnabled := false }).symm)
  case services =>
    exact (keyMirror_services_eraseWfd env v m).trans
      (keyMirror_services_eraseWfd env v m.eraseWfd).symm
  all_goals rfl

/-- `P2P` and `Services` commute on all but the WFD fields. -/
theorem p2p_services_eraseWfd (env : Env) (v v' : Value) (m : Mirror) :
    (keyMirror env .p2p v (keyMirror env .services v' m)).eraseWfd =
      (keyMirror env .services v' (keyMirror env .p2p v m)).eraseWfd :=
  calc (keyMirror env .p2p v (keyMirror env .services v' m)).eraseWfd
      = (keyMirror env .p2p v (keyMirror env .services v' m).eraseWfd).eraseWfd :=
        keyMirror_eraseWfd env _ v _
    _ = (keyMirror env .p2p v m.eraseWfd).eraseWfd := by rw [keyMirror_services_eraseWfd]
    _ = (keyMirror env .p2p v m).eraseWfd := (keyMirror_eraseWfd env _ v m).symm
    _ = (keyMirror env .services v' (keyMirror env .p2p v m)).eraseWfd :=
        (keyMirror_services_eraseWfd env v' _).symm

/-- Entries under distinct keys commute on all but the WFD fields. -/
theorem eraseWfd_keyMirror_comm (env : Env) {a b : Key} (hab : a ≠ b) (v v' : Value)
    (m : Mirror) :
    (keyMirror env a v (keyMirror env b v' m)).eraseWfd =
      (keyMirror env b v' (keyMirror env a v m)).eraseWfd := by
  by_cases hps : a = .p2p ∧ b = .services
  · obtain ⟨rfl, rfl⟩ := hps
    exact p2p_services_eraseWfd env v v' m
  by_cases hsp : a = .services ∧ b = .p2p
  · obtain ⟨rfl, rfl⟩ := hsp
    exact (p2p_services_eraseWfd env v' v m).symm
  rw [keyMirror_comm env hab hps hsp]

/-! ### Bags -/

/-- The snapshot loop on the mirrored fields, one entry after the other. -/
def bagMirror (env : Env) (bag : Bag) (m : Mirror) : Mirror :=
  bag.foldl (fun m e => keyMirror env (Key.ofString e.1) e.2 m) m

/-- `bagMirror` with the WFD fields erased after every entry. -/
def bagMirrorErased (env : Env) (bag : Bag) (m : Mirror) : Mirror :=
  bag.foldl (fun m e => (keyMirror env (Key.ofString e.1) e.2 m).eraseWfd) m.eraseWfd

theorem applyProperties_mirror (env : Env) (w : World) (bag : Bag) :
    (applyProperties env w bag).svc.mirror = bagMirror env bag w.svc.mirror := by
  induction bag generalizing w with
  | nil => rfl
  | cons e bag ih =>
    exact (ih _).trans (congrArg (bagMirror env bag) (updateProperty_mirror env w e.1 e.2))

theorem bagMirror_eraseWfd (env : Env) (bag : Bag) (m : Mirror) :
    (bagMirror env bag m).eraseWfd = bagMirrorErased env bag m := by
  induction bag generalizing m with
  | nil => rfl
  | cons e bag ih =>
    rw [bagMirrorErased, List.foldl_cons, ← keyMirror_eraseWfd]
    exact ih _

theorem Key.ofString_eq_toString {k : String} {a : Key} (h : Key.ofString k = a)
    (ha : a ≠ .other) : k = a.toString := by
  subst h
  exact (Key.toString_ofString ha).symm

/-- Two entries of a bag with distinct keys are the same entry, or select distinct
branches, or are both skipped. -/
theorem entry_keys {bag : Bag} (hk : (bag.map Prod.fst).Nodup) {x y : String × Value}
    (hx : x ∈ bag) (hy : y ∈ bag) :
    x = y ∨ Key.ofString x.1 ≠ Key.ofString y.1 ∨
      (Key.ofString x.1 = .other ∧ Key.ofString y.1 = .other) := by
  by_cases hxy : x = y
  · exact .inl hxy
  by_cases he : Key.ofString x.1 = Key.ofString y.1
  · rcases Key.ofString_inj he with h | h
    · exact absurd (List.inj_on_of_nodup_map hk hx hy h) hxy
    · exact .inr (.inr ⟨h, he ▸ h⟩)
  · exact .inr (.inl he)

theorem mem_keys_of_ofString {bag : Bag} {x : String × Value} (hx : x ∈ bag) {a : Key}
    (h : Key.ofString x.1 = a) (ha : a ≠ .other) : a.toString ∈ bag.map Prod.fst :=
  List.mem_map.mpr ⟨x, hx, Key.ofString_eq_toString h ha⟩

theorem bagMirror_perm (env : Env) {bag bag' : Bag} (hp : bag.Perm bag')
    (hk : (bag.map Prod.fst).Nodup)
    (hps : ¬("P2P" ∈ bag.map Prod.fst ∧ "Services" ∈ bag.map Prod.fst)) (m : Mirror) :
    bagMirror env bag m = bagMirror env bag' m := by
  refine hp.foldl_eq' (fun x hx y hy z => ?_) m
  rcases entry_keys hk hx hy with rfl | hne | ⟨hox, hoy⟩
  · rfl
  · exact keyMirror_comm env (Ne.symm hne)
      (fun h => hps ⟨mem_keys_of_ofString hy h.1 (by decide),
        mem_keys_of_ofString hx h.2 (by decide)⟩)
      (fun h => hps ⟨mem_keys_of_ofString hx h.2 (by decide),
        mem_keys_of_ofString hy h.1 (by decide)⟩) _ _ _
  · simp only [hox, hoy, keyMirror]

theorem bagMirrorErased_perm (env : Env) {bag bag' : Bag} (hp : bag.Perm bag')
    (hk : (bag.map Prod.fst).Nodup) (m : Mirror) :
    bagMirrorErased env bag m = bagMirrorErased env bag' m := by
  refine hp.foldl_eq' (fun x hx y hy z => ?_) m.eraseWfd
  rcases entry_keys hk hx hy with rfl | hne | ⟨hox, hoy⟩
  · rfl
  · rw [← keyMirror_eraseWfd, ← keyMirror_eraseWfd]
    exact eraseWfd_keyMirror_comm env (Ne.symm hne) _ _ _
  · simp only [hox, hoy, keyMirror]

/-! ### The snapshot loop -/

/-- Two permutations of a bag with distinct keys and no SSID byte string both finish in
one pass and leave the same mirrored fields, apart from the WFD fields; those agree too
unless the bag has both a `P2P` and a `Services` entry. -/
theorem updateProperties_perm (env : Env) (w : World) {bag bag' : Bag} (hp : bag.Perm bag')
    (hk : (bag.map Prod.fst).Nodup)
    (hs : ∀ e ∈ bag, ¬(e.1 = "WiFi.SSID" ∧ e.2.isBytestring = true))
    {fuel : Nat} (hf : bag.length < fuel) :
    ∃ r r', connmanServiceUpdateProperties env fuel w bag = some r ∧
      connmanServiceUpdateProperties env fuel w bag' = some r' ∧
      r.svc.mirror.eraseWfd = r'.svc.mirror.eraseWfd ∧
      (¬("P2P" ∈ bag.map Prod.fst ∧ "Services" ∈ bag.map Prod.fst) →
        r.svc.mirror = r'.svc.mirror) := by
  have hs' : ∀ e ∈ bag', ¬(e.1 = "WiFi.SSID" ∧ e.2.isBytestring = true) :=
    fun e he => hs e (hp.symm.subset he)
  refine ⟨_, _, updateProperties_eq_foldl (indexStable_of_no_ssid hs) w hf,
    updateProperties_eq_foldl (indexStable_of_no_ssid hs') w (hp.length_eq ▸ hf), ?_,
    fun hps => ?_⟩
  · rw [applyProperties_mirror, applyProperties_mirror, bagMirror_eraseWfd, bagMirror_eraseWfd]
    exact bagMirrorErased_perm env hp hk _
  · rw [applyProperties_mirror, applyProperties_mirror]
    exact bagMirror_perm env hp hk hps _

theorem updateProperties_perm_reverse :
    ∃ r r', connmanServiceUpdateProperties x86Env 4 (freshWorld "/s")
        [("State", .str "ready"), ("Strength", .byte 40), ("Name", .str "home")] = some r ∧
      connmanServiceUpdateProperties x86Env 4 (freshWorld "/s")
        [("Name", .str "home"), ("Strength", .byte 40), ("State", .str "ready")] = some r' ∧
      r.svc.mirror.eraseWfd = r'.svc.mirror.eraseWfd ∧
      (¬("P2P" ∈ ["State", "Strength", "Name"] ∧ "Services" ∈ ["State", "Strength", "Name"]) →
        r.svc.mirror = r'.svc.mirror) :=
  updateProperties_perm x86Env (freshWorld "/s") (List.reverse_perm _).symm (by decide)
    (by decide) (by decide)

/-- A `P2P` entry without WFD keys and a `Services` entry whose blob the parser accepts. -/
def p2pServicesBag : Bag :=
  [("P2P", .dict []), ("Services", servicesValue [0x00, 0x00, 0x06, 0, 0, 0, 0, 0, 0])]

/-- In the order `P2P`, `Services` the peer ends WFD-enabled; in the other order not. -/
theorem p2p_services_order :
    p2pServicesBag.Perm p2pServicesBag.reverse ∧ (p2pServicesBag.map Prod.fst).Nodup ∧
      (connmanServiceUpdateProperties x86Env 3 (freshWorld "/p") p2pServicesBag).map
        (·.svc.peer.wfdEnabled) = some true ∧
      (connmanServiceUpdateProperties x86Env 3 (freshWorld "/p") p2pServicesBag.reverse).map
        (·.svc.peer.wfdEnabled) = some false :=
  ⟨(List.reverse_perm _).symm, by decide, rfl, rfl⟩

end ConnmanService
