import NetworkManager.Support.Ledgers
import NetworkManager.Linux.IpEngine.Calls

/-!
# Linux — IpEngine — Removals

Which calls a teardown makes, and what it reports of their answers.

* `ActiveIpState.removalCalls`: the calls, as the state alone gives them.
* `reported`: the answers that are handed on, as an error of the engine.
* `teardown_ledger`: the teardown makes these calls in this order whatever comes of them, and
  returns the first reported error.
-/

namespace NetworkManager

open Effects

/-- A call of a teardown. -/
inductive RemovalCall where
  | removeDns (ownership : DnsOwnership)
  | removeRoute (route : Route)
  | release (lease : DhcpLease)
  | removeIpv4 (interfaceIndex : Int32) (config : Ipv4Config)
  | removeIpv6 (interfaceIndex : Int32) (config : Ipv6Config)

namespace RemovalCall

/-- The call on the backends that a removal is. -/
def toBackendCall : RemovalCall → BackendCall
  | removeDns ownership => .removeDns ownership
  | removeRoute route => .removeRoute route
  | release lease => .release lease
  | removeIpv4 interfaceIndex config => .removeIpv4 interfaceIndex config
  | removeIpv6 interfaceIndex config => .removeIpv6 interfaceIndex config

/-- The removals of DNS and of addresses are reported when they fail; those of routes and of a
lease never are. -/
def Reports : RemovalCall → Prop
  | removeDns _ | removeIpv4 .. | removeIpv6 .. => True
  | removeRoute _ | release _ => False

instance (call : RemovalCall) : Decidable call.Reports := by
  cases call <;> simp only [Reports] <;> infer_instance

end RemovalCall

/-! ### The calls of a state -/

/-- The removals of a recorded IPv4 state: its routes, its lease, then its address. -/
def ActiveIpv4.removalCalls (ipv4 : ActiveIpv4) : List RemovalCall :=
  ipv4.routes.map .removeRoute ++ (ipv4.lease.map .release).toList ++
    [.removeIpv4 ipv4.interfaceIndex {
      address := ipv4.address, prefixLength := ipv4.prefixLength
      gateway := LinuxIpEngine.teardownGateway ipv4.routes }]

/-- The removal of the address, of a manual configuration that has one. -/
def ActiveIpv6.removalOfAddress (ipv6 : ActiveIpv6) : Option RemovalCall :=
  if ipv6.source = .manual then
    ipv6.linkLocal.map fun address => .removeIpv6 ipv6.interfaceIndex {
      address, prefixLength := ipv6.prefixLength, gateway := none }
  else none

/-- The removals of a recorded IPv6 state: its routes, then a manual address. -/
def ActiveIpv6.removalCalls (ipv6 : ActiveIpv6) : List RemovalCall :=
  ipv6.routes.map .removeRoute ++ ipv6.removalOfAddress.toList

/-- What has to be removed, in order. -/
def ActiveIpState.removalCalls (state : ActiveIpState) : List RemovalCall :=
  (state.dnsOwner.map .removeDns).toList ++
    (state.ipv4.elim [] ActiveIpv4.removalCalls ++ state.ipv6.elim [] ActiveIpv6.removalCalls)

/-! ### Their answers -/

/-- The error that is handed on for a call. -/
def reported : RemovalCall × Except IpEngineError Unit → Option IpEngineError
  | (call, .error e) => if call.Reports then some e else none
  | (_, .ok _) => none

namespace LinuxIpEngine

variable {W : Type} (engine : LinuxIpEngine W)

/-- The backend is asked, and its error is one of the engine. -/
def ask : RemovalCall → EStateM IpEngineError W Unit
  | .removeDns ownership => EStateM.adaptExcept .dns (engine.dns.remove ownership)
  | .removeRoute route => EStateM.adaptExcept .ipConfig (engine.ip.removeRoute route)
  | .release lease => EStateM.adaptExcept .dhcp (engine.dhcp.release lease)
  | .removeIpv4 interfaceIndex config =>
    EStateM.adaptExcept .ipConfig (engine.ip.removeIpv4 interfaceIndex config)
  | .removeIpv6 interfaceIndex config =>
    EStateM.adaptExcept .ipConfig (engine.ip.removeIpv6 interfaceIndex config)

variable {engine}

theorem after_adaptExcept {ε ε' : Type} (wrap : ε → ε') (x : EStateM ε W Unit) (w : W) :
    after (EStateM.adaptExcept wrap x) w = after x w := by
  rw [← settle_snd, settle_adaptExcept, settle_snd]

/-- A removal whose error counts is asked once, and its error is kept. -/
theorem collects_removal {ε : Type} {wrap : ε → IpEngineError} {x : EStateM ε W Unit}
    {call : RemovalCall} (hask : engine.ask call = EStateM.adaptExcept wrap x)
    (hreports : call.Reports) : Collects engine.ask reported (removal wrap x) [call] := by
  refine Collects.attempt (fun w => ?_) fun w => ?_
  · rw [hask, after_adaptExcept]
  · rw [hask, settle_adaptExcept]
    cases (settle x w).1 with
    | ok u => rfl
    | error e => exact if_pos hreports

/-- A removal whose error does not count is asked once, and its error is dropped. -/
theorem ignores_attempt {ε : Type} {wrap : ε → IpEngineError} {x : EStateM ε W Unit}
    {call : RemovalCall} (hask : engine.ask call = EStateM.adaptExcept wrap x)
    (hreports : ¬ call.Reports) :
    Ignores engine.ask reported (do let _ ← attempt x) [call] := by
  refine Ignores.attempt (funext fun w => ?_) fun answer => ?_
  · rw [hask, after_adaptExcept]
  · cases answer with
    | ok u => rfl
    | error e => exact if_neg hreports

/-- The routes are removed one by one, and no error of theirs is reported. -/
theorem ignores_removeRoutes (routes : List Route) :
    Ignores engine.ask reported (engine.removeRoutes routes) (routes.map .removeRoute) :=
  Ignores.forM (fun _ => ignores_attempt rfl id) routes

theorem ignores_releaseLease (lease : Option DhcpLease) :
    Ignores engine.ask reported (engine.releaseLease lease) (lease.map .release).toList := by
  cases lease with
  | none => exact .pure
  | some lease => exact ignores_attempt rfl id

/-- The DNS part asks for one removal, of a recorded ownership. -/
theorem collects_teardownDns (ownership : Option DnsOwnership) :
    Collects engine.ask reported (teardownPart engine.teardownDns ownership)
      (ownership.map .removeDns).toList := by
  cases ownership with
  | none => exact .pure
  | some ownership => exact collects_removal rfl trivial

/-- The IPv4 part asks for its removals in order and keeps the error of the address. -/
theorem collects_teardownIpv4 (ipv4 : Option ActiveIpv4) :
    Collects engine.ask reported (teardownPart engine.teardownIpv4 ipv4)
      (ipv4.elim [] ActiveIpv4.removalCalls) := by
  cases ipv4 with
  | none => exact .pure
  | some ipv4 =>
      show Collects engine.ask reported (engine.teardownIpv4 ipv4) ipv4.removalCalls
      rw [ActiveIpv4.removalCalls, List.append_assoc]
      exact (ignores_removeRoutes _).collects
        ((ignores_releaseLease _).collects (collects_removal rfl trivial))

/-- The IPv6 part asks for its removals in order and keeps the error of the address. -/
theorem collects_teardownIpv6 (ipv6 : Option ActiveIpv6) :
    Collects engine.ask reported (teardownPart engine.teardownIpv6 ipv6)
      (ipv6.elim [] ActiveIpv6.removalCalls) := by
  cases ipv6 with
  | none => exact .pure
  | some ipv6 =>
      refine (ignores_removeRoutes ipv6.routes).collects ?_
      obtain ⟨interfaceIndex, linkLocal, prefixLength, routes, source⟩ := ipv6
      cases source with
      | automaticLinkLocal | disabled => exact .pure
      | manual =>
          cases linkLocal with
          | none => exact .pure
          | some address =>
              show Collects engine.ask reported (removal .ipConfig _) [.removeIpv6 interfaceIndex _]
              exact collects_removal rfl trivial

/-- What the answers come to: the first reported error. -/
def outcomeOf (answers : List (RemovalCall × Except IpEngineError Unit)) :
    Except IpEngineError Unit :=
  match answers.findSome? reported with
  | some e => .error e
  | none => .ok ()

/-- A teardown asks for every removal, whatever fails, and ends with the first error that counts. -/
theorem settle_teardown (state : ActiveIpState) (w : W) :
    settle (engine.teardown state) w =
      (outcomeOf (ledger engine.ask state.removalCalls w).1,
        (ledger engine.ask state.removalCalls w).2) := by
  have hdns : teardownPart engine.teardownDns state.dnsOwner w = _ :=
    collects_teardownDns state.dnsOwner w
  have hipv4 : ∀ w, teardownPart engine.teardownIpv4 state.ipv4 w = _ :=
    collects_teardownIpv4 state.ipv4
  have hipv6 : ∀ w, teardownPart engine.teardownIpv6 state.ipv6 w = _ :=
    collects_teardownIpv6 state.ipv6
  rw [ActiveIpState.removalCalls, ledger_append, ledger_append, outcomeOf, List.findSome?_append,
    List.findSome?_append]
  rw [settle, teardown, bind_of_ok hdns, bind_of_ok (hipv4 _), bind_of_ok (hipv6 _)]
  generalize List.findSome? reported _ = dnsError
  generalize List.findSome? reported _ = ipv4Error
  generalize List.findSome? reported _ = ipv6Error
  cases dnsError <;> cases ipv4Error <;> cases ipv6Error <;> rfl

/-- What is reported of an answer is its error, if errors of its call count. -/
theorem reported_eq_some {answer : RemovalCall × Except IpEngineError Unit} {e : IpEngineError} :
    reported answer = some e ↔ answer.1.Reports ∧ answer.2 = .error e := by
  obtain ⟨call, r⟩ := answer
  cases r with
  | ok u => exact ⟨nofun, fun h => nomatch h.2⟩
  | error e' => simp [reported]

/-- An error is returned exactly if it is the first that is reported. -/
theorem outcomeOf_eq_error {answers : List (RemovalCall × Except IpEngineError Unit)}
    {e : IpEngineError} :
    outcomeOf answers = .error e ↔ ∃ before call after, answers = before ++ (call, .error e) :: after ∧
      call.Reports ∧ ∀ answer ∈ before, answer.1.Reports → answer.2 = .ok () := by
  have hfound : outcomeOf answers = .error e ↔ answers.findSome? reported = some e := by
    rw [outcomeOf]
    cases answers.findSome? reported <;> simp
  rw [hfound, List.findSome?_eq_some_iff]
  constructor
  · rintro ⟨before, ⟨call, r⟩, after, hsplit, hreported, hbefore⟩
    obtain ⟨hreports, rfl⟩ := reported_eq_some.mp hreported
    refine ⟨before, call, after, hsplit, hreports, fun answer hanswer hreports => ?_⟩
    cases hr : answer.2 with
    | ok u => rfl
    | error e' =>
        have hsome := reported_eq_some.mpr ⟨hreports, hr⟩
        rw [hbefore answer hanswer] at hsome
        cases hsome
  · rintro ⟨before, call, after, hsplit, hreports, hbefore⟩
    refine ⟨before, (call, .error e), after, hsplit, reported_eq_some.mpr ⟨hreports, rfl⟩, ?_⟩
    intro answer hanswer
    rw [Option.eq_none_iff_forall_ne_some]
    intro e' hsome
    obtain ⟨hreports', herror⟩ := reported_eq_some.mp hsome
    rw [hbefore answer hanswer hreports'] at herror
    cases herror

/-- A removal is one call on the recording backends. -/
theorem calls_after_ask (call : RemovalCall) (t : TracedWorld W) :
    (after (engine.traced.ask call) t).calls = t.calls ++ [call.toBackendCall] := by
  cases call
  all_goals
    refine Eq.trans (congrArg Traced.calls (after_adaptExcept _ _ t)) ?_
    exact calls_after_record _ _ t

/-- A ledger of removals is these calls, in this order. -/
theorem calls_after_ledger (calls : List RemovalCall) (t : TracedWorld W) :
    (ledger engine.traced.ask calls t).2.calls = t.calls ++ calls.map RemovalCall.toBackendCall := by
  induction calls generalizing t with
  | nil => exact (List.append_nil _).symm
  | cons call calls ih =>
      rw [ledger, ih, settle_snd, calls_after_ask, List.append_assoc]
      rfl

/-- **Teardown.**  Whatever fails, it makes the calls of the state, each once and in order.  It
returns the first error among those of DNS and of addresses, and none of routes or leases. -/
theorem teardown_ledger (engine : LinuxIpEngine W) (state : ActiveIpState) (w : W) :
    ∃ answers : List (RemovalCall × Except IpEngineError Unit),
      answers.map Prod.fst = state.removalCalls ∧
      (answers, after (engine.teardown state) w) = ledger engine.ask state.removalCalls w ∧
      (∀ calls, (after (engine.traced.teardown state) ⟨w, calls⟩).calls =
        calls ++ state.removalCalls.map RemovalCall.toBackendCall) ∧
      ∀ e, (∃ w', engine.teardown state w = .error e w') ↔
        ∃ before call after, answers = before ++ (call, .error e) :: after ∧ call.Reports ∧
          ∀ answer ∈ before, answer.1.Reports → answer.2 = .ok () := by
  have hsettle : settle (engine.teardown state) w = _ := settle_teardown state w
  refine ⟨(ledger engine.ask state.removalCalls w).1, map_fst_ledger _ _ _, ?_, fun calls => ?_,
    fun e => ?_⟩
  · rw [← settle_snd, hsettle]
  · rw [← settle_snd, settle_teardown, calls_after_ledger]
  · rw [← outcomeOf_eq_error]
    constructor
    · rintro ⟨w', h⟩
      rw [settle_of_error h] at hsettle
      exact (Prod.ext_iff.mp hsettle).1.symm
    · intro h
      rw [h] at hsettle
      cases hrun : engine.teardown state w with
      | ok u w' =>
          rw [settle_of_ok hrun] at hsettle
          cases (Prod.ext_iff.mp hsettle).1
      | error e' w' =>
          rw [settle_of_error hrun] at hsettle
          exact ⟨w', congrArg (EStateM.Result.error · w')
            (Except.error.inj (Prod.ext_iff.mp hsettle).1)⟩

end LinuxIpEngine

end NetworkManager
