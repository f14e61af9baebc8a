import ConnmanService.Permutation

/-! # Change tracking

A consumer reads the fields of a category again only when `connman_service_is_changed`
says so, and clears the category with `connman_service_unset_changed`.  The status
category follows `name`, `state`, `online` and `online_checking`; the find-networks
category `name`, `state` and `strength` (`Category.view`).

`Tracks k m m'` says that from `m` to `m'` no change is lost for `k`: the category stays
set once set, and a change of what it follows sets it.  Every snapshot entry but
`RunOnlineCheck` keeps track (`keyMirror_tracks`), so does every push
(`propertyChangedBody_tracks`) and every other event but a clear of `k` (`step_tracks`).
Hence `change_sets_category`: along every run with no clear of `k` and, for the status
category, no `RunOnlineCheck` in a snapshot, a change of a field `k` follows leaves `k`
set.

The exception is real: both decoders write `online_checking`, but only the push marks
the status category.  After a consumer clears the status category, a snapshot that turns
the online check on leaves the category clear (`runOnlineCheck_change_lost`), and from a
new service the same pair, as a snapshot and as a push, leaves two different change
masks (`runOnlineCheck_paths_differ`). -/

namespace ConnmanService

open World

/-! ### Categories -/

/-- The two change categories of the consumer API. -/
inductive Category where
  | status
  | findNetworks
deriving DecidableEq, Repr

/-- The category's bit in `change_mask`. -/
def Category.bit : Category → Nat
  | .status => 0
  | .findNetworks => 1

/-- `CONNMAN_SERVICE_CHANGE_CATEGORY_*`. -/
def Category.mask : Category → BitVec 32
  | .status => categoryGetstatus
  | .findNetworks => categoryFindnetworks

/-- The fields the category's consumers read again when it is set; the places a category
does not follow hold a constant. -/
def Category.view : Category → Mirror → Option String × Option String × UInt8 × Bool × Bool
  | .status, m => (m.name, m.state, 0, m.online, m.onlineChecking)
  | .findNetworks, m => (m.name, m.state, m.strength, false, false)

theorem Category.getLsbD_mask (k : Category) (i : Nat) :
    k.mask.getLsbD i = decide (i = k.bit) := by
  cases k <;> rcases i with _ | _ | i <;>
    simp [Category.mask, Category.bit, categoryGetstatus, categoryFindnetworks,
      BitVec.getLsbD_ofNat, Nat.testBit_succ]

/-- The category's bit is set in a mask. -/
def Marked (k : Category) (mask : BitVec 32) : Prop := mask.getLsbD k.bit = true

instance (k : Category) (mask : BitVec 32) : Decidable (Marked k mask) :=
  inferInstanceAs (Decidable (_ = true))

theorem isChanged_iff_marked (s : Service) (k : Category) :
    connmanServiceIsChanged s k.mask = true ↔ Marked k s.changeMask := by
  rw [isChanged_iff]
  constructor
  · rintro ⟨i, hm, hc⟩
    rw [Category.getLsbD_mask, decide_eq_true_iff] at hc
    subst hc
    exact hm
  · exact fun h => ⟨k.bit, h, by simp [Category.getLsbD_mask]⟩

theorem marked_or_left {k : Category} {a : BitVec 32} (x : BitVec 32) (h : Marked k a) :
    Marked k (a ||| x) := by
  simp only [Marked, BitVec.getLsbD_or] at h ⊢
  simp [h]

theorem marked_or_right {k : Category} (a : BitVec 32) {x : BitVec 32} (h : Marked k x) :
    Marked k (a ||| x) := by
  simp only [Marked, BitVec.getLsbD_or] at h ⊢
  simp [h]

theorem marked_markIf {k : Category} {c : Prop} [Decidable c] {mask : BitVec 32} (hc : c)
    (h : Marked k mask) : Marked k (markIf c mask) := by
  rwa [markIf, if_pos hc]

/-- Clearing other bits keeps the category's. -/
theorem marked_and_not {k : Category} {c : BitVec 32} (hc : ¬Marked k c) (mask : BitVec 32) :
    Marked k (mask &&& ~~~c) ↔ Marked k mask := by
  have hb : k.bit < 32 := by cases k <;> decide
  simp only [Marked, Bool.not_eq_true] at hc ⊢
  simp [BitVec.getLsbD_and, BitVec.getLsbD_not, hb, hc]

theorem marked_status_findNetworks (k : Category) :
    Marked k (categoryGetstatus ||| categoryFindnetworks) := by
  cases k <;> decide

/-! ### No lost change -/

/-- From `m` to `m'` no change is lost for `k`: the category stays set once set, and a
change of what it follows sets it. -/
def Tracks (k : Category) (m m' : Mirror) : Prop :=
  (Marked k m.changeMask → Marked k m'.changeMask) ∧
    (k.view m' ≠ k.view m → Marked k m'.changeMask)

theorem Tracks.refl (k : Category) (m : Mirror) : Tracks k m m :=
  ⟨id, fun h => absurd rfl h⟩

theorem Tracks.trans {k : Category} {m₁ m₂ m₃ : Mirror} (h₁ : Tracks k m₁ m₂)
    (h₂ : Tracks k m₂ m₃) : Tracks k m₁ m₃ := by
  refine ⟨h₂.1 ∘ h₁.1, fun hv => ?_⟩
  by_cases h : k.view m₃ = k.view m₂
  · exact h₂.1 (h₁.2 (h ▸ hv))
  · exact h₂.2 h

/-- A step that keeps the view and the mask. -/
theorem Tracks.of_view {k : Category} {m m' : Mirror} (hv : k.view m' = k.view m)
    (hm : m'.changeMask = m.changeMask) : Tracks k m m' :=
  ⟨fun h => hm ▸ h, fun h => absurd hv h⟩

/-- A step that ORs `x` into the mask, with `k`'s bit in `x` whenever the view changes. -/
theorem tracks_of_or {k : Category} {m m' : Mirror} (x : BitVec 32)
    (hm : m'.changeMask = m.changeMask ||| x) (hv : k.view m' ≠ k.view m → Marked k x) :
    Tracks k m m' :=
  ⟨fun h => hm ▸ marked_or_left x h, fun h => hm ▸ marked_or_right _ (hv h)⟩

/-! ### Snapshots -/

theorem advanceStateMirror_tracks (k : Category) (m : Mirror) (v : Value) :
    Tracks k m (advanceStateMirror m v) := by
  unfold advanceStateMirror
  dsimp only
  refine tracks_of_or _ rfl fun hv => marked_markIf ?_ (marked_status_findNetworks k)
  generalize (m.disconnecting && v.getString != some "ready" &&
    v.getString != some "online") = suppress at hv ⊢
  cases suppress
  · refine ⟨rfl, fun he => hv ?_⟩
    cases k <;> simp only [Category.view, Bool.false_eq_true, if_false, he]
  · exact absurd (by cases k <;> rfl) hv

/-- Every snapshot entry keeps track of both categories, except a `RunOnlineCheck` entry
for the status category. -/
theorem keyMirror_tracks (env : Env) (k : Category) (a : Key) (v : Value) (m : Mirror)
    (h : k = .status → a ≠ .runOnlineCheck) : Tracks k m (keyMirror env a v m) := by
  cases a
  case name =>
    refine tracks_of_or _ rfl fun hv =>
      marked_markIf (fun he => hv ?_) (marked_status_findNetworks k)
    cases k <;> simp only [keyMirror, Category.view, he]
  case state =>
    exact (advanceStateMirror_tracks k m v).trans (Tracks.of_view (by cases k <;> rfl) rfl)
  case strength =>
    refine tracks_of_or _ rfl fun hv => ?_
    cases k
    · exact absurd rfl hv
    · exact marked_markIf (fun he => hv (by simp only [keyMirror, Category.view, he]))
        (by decide)
  case online =>
    refine tracks_of_or _ rfl fun hv => ?_
    cases k
    · exact marked_markIf (fun he => hv (by simp only [keyMirror, Category.view, he]))
        (by decide)
    · exact absurd rfl hv
  case runOnlineCheck =>
    cases k
    · exact absurd rfl (h rfl)
    · exact Tracks.of_view rfl rfl
  all_goals exact Tracks.of_view (by cases k <;> rfl) rfl

theorem updateProperty_tracks (env : Env) (w : World) (key : String) (val : Value)
    (k : Category) (h : k = .status → key ≠ "RunOnlineCheck") :
    Tracks k w.svc.mirror (updateProperty env w key val).svc.mirror := by
  rw [updateProperty_mirror]
  exact keyMirror_tracks env k _ val _ fun hk ha =>
    h hk (Key.ofString_eq_toString ha (by decide))

theorem updatePropertiesLoop_tracks (env : Env) (bag : Bag) (k : Category)
    (h : k = .status → ∀ e ∈ bag, e.1 ≠ "RunOnlineCheck") :
    ∀ (fuel i : Nat) (w w' : World), updatePropertiesLoop env bag fuel i w = some w' →
      Tracks k w.svc.mirror w'.svc.mirror
  | 0, _, _, _, hl => nomatch hl
  | fuel + 1, i, w, w', hl => by
      unfold updatePropertiesLoop at hl
      cases hi : bag[i]? with
      | none =>
          rw [hi] at hl
          cases hl
          exact Tracks.refl k _
      | some e =>
          obtain ⟨key, val⟩ := e
          rw [hi] at hl
          exact (updateProperty_tracks env w key val k fun hk => h hk _ (List.getElem?_mem hi)).trans
            (updatePropertiesLoop_tracks env bag k h fuel _ _ _ hl)

/-! ### Pushes -/

theorem propertyChangedCb_svc (env : Env) (w : World) (property : String) (va : Value) :
    (propertyChangedCb env w property va).svc = (propertyChangedBody env w property va).svc := by
  obtain ⟨p, hp, -⟩ := propertyChangedCb_eq env w property va
  rw [hp, propertyChangedBody_prependLog, prependLog_svc]
  conv_rhs => rw [eq_prependLog w, propertyChangedBody_prependLog, prependLog_svc]

theorem p2pRequest_svc (w : World) (wps : WpsType) (pin goaddr : Option String)
    (event : String) : (p2pRequest w wps pin goaddr event).svc = w.svc := by
  unfold p2pRequest
  split <;> rfl

/-- Every push keeps track of both categories; a new `RunOnlineCheck` value marks the
status category. -/
theorem propertyChangedBody_tracks (env : Env) (w : World) (property : String) (va : Value)
    (k : Category) : Tracks k w.svc.mirror (propertyChangedBody env w property va).svc.mirror := by
  have hstatus : ∀ m', m'.changeMask = w.svc.mirror.changeMask ||| categoryGetstatus →
      (k = .findNetworks → k.view m' = k.view w.svc.mirror) → Tracks k w.svc.mirror m' :=
    fun m' hm hf => tracks_of_or _ hm fun hv => by
      cases k
      · decide
      · exact absurd (hf rfl) hv
  unfold propertyChangedBody
  split
  case h_1 =>
    rw [advanceState_mirror, advanceStateSvc_mirror]
    exact advanceStateMirror_tracks k _ va
  case h_2 => exact updateProperty_tracks env w "Strength" va k fun _ => by decide
  case h_3 => exact updateProperty_tracks env w "BSS" va k fun _ => by decide
  case h_4 => exact updateProperty_tracks env w "Online" va k fun _ => by decide
  case h_5 =>
    split
    · exact hstatus _ rfl fun hk => by subst hk; rfl
    · exact Tracks.refl k _
  case h_6 => exact updateProperty_tracks env w "AutoConnect" va k fun _ => by decide
  case h_7 => exact updateProperty_tracks env w "Favorite" va k fun _ => by decide
  case h_8 => exact Tracks.of_view (by cases k <;> rfl) rfl
  case h_15 => split <;> exact Tracks.refl k _
  case h_16 | h_17 | h_19 => exact hstatus _ rfl fun hk => by subst hk; rfl
  case h_18 => split <;> exact Tracks.refl k _
  case h_20 => exact Tracks.refl k _
  all_goals rw [p2pRequest_svc]; exact Tracks.refl k _

/-! ### The other events -/

theorem connectCallbackWith_mirror (alreadyConnected : String → Bool) (w : World) (c : Call)
    (o : Outcome) : (connectCallbackWith alreadyConnected w c o).svc.mirror = w.svc.mirror := by
  unfold connectCallbackWith reportConnect releaseCancellable
  dsimp only
  split <;> split_ifs <;> rfl

theorem completeConnect_mirror (w : World) (c : Call) (o : Outcome) :
    (completeConnect w c o).svc.mirror = w.svc.mirror := by
  unfold completeConnect
  split
  · exact connectCallbackWith_mirror _ w c o
  · exact connectCallbackWith_mirror _ w c o

theorem connmanServiceFree_mirror (env : Env) (w : World) :
    (connmanServiceFree env w).svc.mirror = w.svc.mirror := by
  unfold connmanServiceFree
  split
  · rfl
  · dsimp only
    split
    · exact deleteIpRule_mirror env w
    · rfl

theorem getProxyinfo_mirror (env : Env) (s : Service) :
    (connmanServiceGetProxyinfo env s).1.mirror = s.mirror := by
  unfold connmanServiceGetProxyinfo
  split <;> rfl

/-- A command sets at most `disconnecting`. -/
theorem Command.run_tracks (c : Command) (w : World) (o : Outcome) (k : Category) :
    Tracks k w.svc.mirror (c.run w o).1.svc.mirror := by
  cases c
  case setIpv4 i => cases i <;> exact Tracks.of_view (by cases k <;> rfl) rfl
  case setIpv6 i => cases i <;> exact Tracks.of_view (by cases k <;> rfl) rfl
  case setProxy p => cases p <;> exact Tracks.of_view (by cases k <;> rfl) rfl
  case setNameservers d => cases d <;> exact Tracks.of_view (by cases k <;> rfl) rfl
  all_goals exact Tracks.of_view (by cases k <;> rfl) rfl

/-! ### Runs -/

/-- The event clears category `k`: `connman_service_unset_changed` with `k`'s bit. -/
def Event.Clears (k : Category) : Event → Prop
  | .unsetChanged c => Marked k c
  | _ => False

/-- A snapshot with a `RunOnlineCheck` entry. -/
def Event.CarriesRunOnlineCheck : Event → Prop
  | .snapshot bag => ∃ e ∈ bag, e.1 = "RunOnlineCheck"
  | _ => False

/-- Every event keeps track of `k`, except a clear of `k` and, for the status category, a
snapshot with `RunOnlineCheck`. -/
theorem step_tracks {w w' : World} {e : Event} (hs : Step w e w') (k : Category)
    (hc : ¬e.Clears k) (hr : k = .status → ¬e.CarriesRunOnlineCheck) :
    Tracks k w.svc.mirror w'.svc.mirror := by
  cases hs with
  | snapshot env fuel hl =>
      exact updatePropertiesLoop_tracks env _ k (fun hk e he h => hr hk ⟨e, he, h⟩) fuel 0 _ _ hl
  | push env w property v =>
      rw [propertyChangedCb_svc]
      exact propertyChangedBody_tracks env w property v k
  | unsetChanged w c => exact ⟨(marked_and_not hc _).mpr, fun hv => absurd (by cases k <;> rfl) hv⟩
  | connect w peer cb => cases peer <;> exact Tracks.of_view (by cases k <;> rfl) rfl
  | complete o _ =>
      rw [completeConnect_mirror]
      exact Tracks.refl k _
  | command w c o => exact Command.run_tracks c w o k
  | getIpinfo env w =>
      rw [setSvc_svc, getIpinfo_mirror]
      exact Tracks.refl k _
  | getProxyinfo env w =>
      rw [setSvc_svc, getProxyinfo_mirror]
      exact Tracks.refl k _
  | register w p2p func =>
      cases p2p <;> cases func <;> exact Tracks.of_view (by cases k <;> rfl) rfl
  | free env w =>
      rw [connmanServiceFree_mirror]
      exact Tracks.refl k _

theorem run_tracks {w₁ w₂ : World} {es : List Event} (hrun : Run w₁ es w₂) (k : Category)
    (hc : ∀ e ∈ es, ¬e.Clears k) (hr : k = .status → ∀ e ∈ es, ¬e.CarriesRunOnlineCheck) :
    Tracks k w₁.svc.mirror w₂.svc.mirror := by
  induction hrun with
  | nil => exact Tracks.refl k _
  | @snoc _ _ es e _ hs ih =>
      have hlast : e ∈ es ++ [e] := List.mem_append_right _ (List.mem_singleton_self e)
      exact (ih (fun e he => hc e (List.mem_append_left _ he))
        fun hk e he => hr hk e (List.mem_append_left _ he)).trans
        (step_tracks hs k (hc _ hlast) fun hk => hr hk _ hlast)

/-- The change law.  Along a run in which no event clears category `k` and, for the
status category, no snapshot carries `RunOnlineCheck`, the category stays set once set,
and a field it follows that differs from its value at the start of the run leaves it
set. -/
theorem change_sets_category {w₁ w₂ : World} {es : List Event} (hrun : Run w₁ es w₂)
    (k : Category) (hc : ∀ e ∈ es, ¬e.Clears k)
    (hr : k = .status → ∀ e ∈ es, ¬e.CarriesRunOnlineCheck) :
    (connmanServiceIsChanged w₁.svc k.mask = true →
        connmanServiceIsChanged w₂.svc k.mask = true) ∧
      (k.view w₂.svc.mirror ≠ k.view w₁.svc.mirror →
        connmanServiceIsChanged w₂.svc k.mask = true) := by
  simp only [isChanged_iff_marked]
  exact run_tracks hrun k hc hr

/-- A push that moves a new service to `ready`: the state, which the status category
follows, changes, so the run leaves the category set. -/
theorem change_sets_category_push_state :
    let es := [Event.push "State" (.str "ready")]
    let w := propertyChangedCb x86Env (freshWorld "/s") "State" (.str "ready")
    Run (freshWorld "/s") es w ∧ (∀ e ∈ es, ¬e.Clears .status) ∧
      (Category.status = .status → ∀ e ∈ es, ¬e.CarriesRunOnlineCheck) ∧
      Category.status.view w.svc.mirror ≠ Category.status.view (freshWorld "/s").svc.mirror ∧
      connmanServiceIsChanged w.svc Category.status.mask = true := by
  intro es w
  have hrun : Run (freshWorld "/s") es w := .single (.push x86Env _ "State" (.str "ready"))
  have hc : ∀ e ∈ es, ¬e.Clears .status := by simp [es, Event.Clears]
  have hr : Category.status = .status → ∀ e ∈ es, ¬e.CarriesRunOnlineCheck := fun _ => by
    simp [es, Event.CarriesRunOnlineCheck]
  have hv : Category.status.view w.svc.mirror ≠ Category.status.view (freshWorld "/s").svc.mirror := by
    decide
  exact ⟨hrun, hc, hr, hv, (change_sets_category hrun .status hc hr).2 hv⟩

/-! ### The snapshot's `RunOnlineCheck` -/

/-- A snapshot that turns the online check on after the status category was cleared:
the flag differs from its value at the clear, and the category reads unchanged. -/
theorem runOnlineCheck_change_lost (env : Env) (path : String) :
    Created (freshWorld path) ∧
      ∃ w₁ w, Step (freshWorld path) (.unsetChanged categoryGetstatus) w₁ ∧
        Step w₁ (.snapshot [("RunOnlineCheck", .boolean true)]) w ∧
        w.svc.onlineChecking ≠ w₁.svc.onlineChecking ∧
        connmanServiceIsChanged w.svc categoryGetstatus = false :=
  ⟨created_fresh path env, _, _, .unsetChanged _ _,
    .snapshot env 2 (updateProperties_single env _ _ _ (by decide)), Bool.noConfusion,
    show ((0 &&& ~~~categoryGetstatus) &&& categoryGetstatus != 0) = false by decide⟩

/-- On a new service the snapshot and the push of `RunOnlineCheck = true` leave
different change masks. -/
theorem runOnlineCheck_paths_differ (env : Env) (path : String) :
    Reachable (freshWorld path) ∧
      ∃ r, connmanServiceUpdateProperties env 2 (freshWorld path)
          [("RunOnlineCheck", .boolean true)] = some r ∧
        r.svc.changeMask ≠
          (propertyChangedCb env (freshWorld path) "RunOnlineCheck" (.boolean true)).svc.changeMask := by
  obtain ⟨r, hr, hs, hp⟩ :=
    runOnlineCheck_push_snapshot_differ env (freshWorld path) true Bool.false_ne_true
      (show ((0 : BitVec 32) &&& categoryGetstatus != 0) = false by decide)
  refine ⟨⟨_, [], created_fresh path env, .nil _⟩, r, hr, fun he => ?_⟩
  rw [connmanServiceIsChanged, he] at hs
  exact Bool.false_ne_true (hs.symm.trans hp)

end ConnmanService
