import ConnmanService.Bookkeeping

/-! # Routing rules over runs

Every event steps along `RulesFollow`: the quiet ones by their `_quiet` lemma, a connect
because it touches neither the log nor the flag, and a completion because the one
effect it logs is a connect report (`step_rulesFollow`).  From a created service, whose
log holds no routing command and whose flag is clear:

* `rules_replay`: on every reachable service, the log's routing commands replay on the
  `iprule_added` bit from `FALSE`, with no `add` while it is set and no `delete` while
  it is clear, and end in `iprule_added`;
* `ruleCommands_alternate`: said on the commands themselves, their directions alternate
  `add`, `delete`, `add`, ... from an `add`, and `iprule_added` is the last of them
  (`FALSE` before the first).

Both are about the direction of each command only.  `connman_service_set_ip_rule`
rebuilds the table, gateway and address of a `delete` from the `interface_name` and
`ipinfo` current at the call, not from the `add` it undoes: after a snapshot renames the
interface of a `ready` service the `delete` names another table, and the rules of the
first stay installed (`ruleCommands_alternate_rename`). -/

namespace ConnmanService

theorem completeConnect_rulesFollow (w : World) (c : Call) (o : Outcome) :
    RulesFollow w (completeConnect w c o) := by
  obtain ⟨ret, hl, hf, -, -⟩ := completeConnect_spec w c o
  exact ⟨_, hl, by rw [hf]; split <;> rfl⟩

theorem step_rulesFollow {w w' : World} {e : Event} (hs : Step w e w') : RulesFollow w w' := by
  cases e with
  | connect peer cb =>
      cases hs
      split <;> exact .of_frame rfl rfl
  | complete c o =>
      cases hs
      exact completeConnect_rulesFollow w c o
  | _ => exact (step_quiet hs (fun _ _ => Event.noConfusion) (fun _ _ => Event.noConfusion)).rules

theorem run_rulesFollow {w w' : World} {es : List Event} (hrun : Run w es w') :
    RulesFollow w w' := by
  induction hrun with
  | nil => exact .refl _
  | snoc _ hs ih => exact ih.trans (step_rulesFollow hs)

/-- On every reachable service, the routing commands of the log replay on the
`iprule_added` bit from `FALSE`, with no `add` while it is set and no `delete` while it
is clear, and end in `iprule_added`. -/
theorem rules_replay {w : World} (hw : Reachable w) :
    replayRules false w.log = some w.svc.ipruleAdded := by
  obtain ⟨w₀, es, h₀, hrun⟩ := hw
  obtain ⟨path, hq⟩ := created_quiet h₀
  obtain ⟨l, hl, hr⟩ := hq.rules.trans (run_rulesFollow hrun)
  rw [hl]
  exact hr

/-- On every reachable service the directions of the routing commands alternate from an
`add`, and `iprule_added` is the last of them, `FALSE` before the first.  The tables the
commands name are not compared. -/
theorem ruleCommands_alternate {w : World} (hw : Reachable w) :
    List.Chain (· ≠ ·) false (ruleCommands w.log) ∧
      (ruleCommands w.log).getLastD false = w.svc.ipruleAdded :=
  (replayRules_eq_some_iff _ _ _).mp (rules_replay hw)

/-- An Ethernet service on a build with routing tables, whose IPv4 address, netmask and
gateway the daemon reports: it enters `ready` on `eth0` and adds the rules of table 10; a
snapshot renames its interface to `eth1`; leaving `ready` deletes.  The two commands alternate, and the `delete` names
table 11, so the rules of table 10 stay installed. -/
theorem ruleCommands_alternate_rename :
    let env : Env := { x86Env with
      multipleRoutingTable := true
      remoteProperties := some [("IPv4", ipv4Configuration
        { address := some "192.168.0.2", netmask := some "255.255.255.0",
          gateway := some "192.168.0.1" })] }
    let iface (name : String) : Bag := [("Ethernet", .dict [("Interface", .str name)])]
    let w₀ := (connmanServiceNew env 3 "/s" (("Type", .str "ethernet") :: iface "eth0")).getD
      (freshWorld "/s")
    let w₁ := propertyChangedCb env w₀ "State" (.str "ready")
    let w₂ := (connmanServiceUpdateProperties env 2 w₁ (iface "eth1")).getD w₁
    let w := propertyChangedCb env w₂ "State" (.str "idle")
    Reachable w ∧
      w.log = [.ipRule true 10 "192.168.0.1" "192.168.0.2" 0,
        .ipRule false 11 "192.168.0.1" "192.168.0.2" 0] ∧
      List.Chain (· ≠ ·) false (ruleCommands w.log) ∧
      (ruleCommands w.log).getLastD false = w.svc.ipruleAdded := by
  intro env iface w₀ w₁ w₂ w
  -- each `rfl` runs on the worlds unfolded: through the let-bound names it is not cached
  have h₀ : connmanServiceNew env 3 "/s" (("Type", .str "ethernet") :: iface "eth0") = some w₀ := by
    unfold w₀ iface env; rfl
  have h₂ : connmanServiceUpdateProperties env 2 w₁ (iface "eth1") = some w₂ := by
    unfold w₂ w₁ w₀ iface env; rfl
  have hw : Reachable w := ⟨w₀, _, ⟨env, 3, "/s", _, h₀⟩,
    .snoc (.snoc (.single (.push env w₀ _ _)) (.snapshot env 2 h₂)) (.push env w₂ _ _)⟩
  exact ⟨hw, by unfold w w₂ w₁ w₀ iface env; rfl, ruleCommands_alternate hw⟩

end ConnmanService
