import AbstractumVpn.ExclusionCounts
import AbstractumVpn.WireguardRules

/-!
What an activation that fails leaves behind. Nothing undoes the steps before the
failing one, so the state is as it was only when the first request of the call
is refused.
-/

namespace AbstractumVpn.Daemon

open WireguardUtilsLinux Frames

variable (ok : Nat → Bool) (qt : Qt)

/-- The interface, the exclusion routes and their counts, the peers, the tunnel
routes and the resolvers are as they were. -/
structure Untouched (before after : State) : Prop where
  tunnel : after.system.tunnelRunning = before.system.tunnelRunning
  device : after.system.device = before.system.device
  exclusionRoutes : after.system.exclusionRoutes = before.system.exclusionRoutes
  counts : after.excludedAddrSet = before.excludedAddrSet
  peers : after.system.peers = before.system.peers
  tunnelRoutes : after.system.tunnelRoutes = before.system.tunnelRoutes
  resolvers : after.resolvers = before.resolvers

/-- The first request is refused: the start of the tunnel process, or both
addresses of an interface that exists. -/
def FailsAtOnce (s : State) : Prop :=
  ok s.system.requests = false ∧
    (s.system.tunnelRunning = true → ok (s.system.requests + 1) = false)

def afterRefusal (s : State) (refused : Nat) : State :=
  { s with
    system := { s.system with requests := s.system.requests + refused }
    signals := s.signals ++ [.activationFailure] }

section Idle

variable {config : InterfaceConfig} {s : State} (idle : s.connections config.hopType = none)

include idle

/-- A call that is refused at once changes nothing a later call could see. -/
lemma refused_at_once (refused : FailsAtOnce ok s) :
    (perform (activate ok qt config) s).1 = false ∧
      ∃ requests, (perform (activate ok qt config) s).2 = afterRefusal s requests := by
  obtain ⟨first, second⟩ := refused
  have guards : ∀ requests, perform (establish ok qt config) s =
      (false, { s with system := { s.system with requests := s.system.requests + requests } }) →
      perform (activate ok qt config) s = (false, afterRefusal s requests) := by
    intro requests failed
    rw [← activate_fresh ok qt idle] at failed
    simp [activate, guarded, failed, afterRefusal]
  cases running : s.system.tunnelRunning with
  | false =>
    rw [guards 1]
    · exact ⟨rfl, 1, rfl⟩
    · simp [establish, createInterface, interfaceExists, running, perform_onSystem, addInterface,
        request, first]
  | true =>
    rw [guards 2]
    · exact ⟨rfl, 2, rfl⟩
    · simp [establish, createInterface, interfaceExists, running, bringUp,
        perform_untilFalse_cons, addInterfaceIPs, perform_onSystem, request, first, second]

/-- Once the tunnel process has started, it runs on whatever fails later. -/
lemma started_stays (stopped : s.system.tunnelRunning = false)
    (starts : ok s.system.requests = true) :
    (perform (activate ok qt config) s).2.system.tunnelRunning = true := by
  have added : (perform (addInterface ok config) s.system).2.tunnelRunning = true := by
    by_cases accepts : ok (s.system.requests + 1) = true
    · cases on : config.killSwitchEnabled <;>
        simp [addInterface, stopped, request, starts, uapiCommand, accepts, on]
    · simp [addInterface, stopped, request, starts, uapiCommand, accepts]
  have made : (perform (createInterface ok config) s).2.system.tunnelRunning = true := by
    rw [create_missing ok config stopped]
    exact added
  have up : (perform (establish ok qt config) s).2.system.tunnelRunning = true := by
    cases goes : (perform (createInterface ok config) s).1 with
    | true =>
      let t := (perform (createInterface ok config) s).2
      have kept : (perform (bringUp ok qt config) t).2.system.tunnelRunning =
          t.system.tunnelRunning :=
        congrArg (fun view => view.2.1) (keeps_bring_up ok qt config t)
      rw [establish_created ok qt config goes]
      exact kept.trans made
    | false =>
      rw [establish_refused ok qt config goes]
      exact made
  have result := guarded_result (activateHop ok qt config) s
  rw [activate_fresh ok qt idle] at result
  exact (congrArg (fun view => view.2.1) result.2).trans up

/-- An activation that is refused at once leaves the state to later calls as it
was. When there was no interface, it is the only failure that does. -/
theorem failed_activation_untouched_iff :
    (FailsAtOnce ok s → (perform (activate ok qt config) s).1 = false ∧
      ∃ requests, (perform (activate ok qt config) s).2 = afterRefusal s requests) ∧
    ((perform (activate ok qt config) s).1 = false → s.system.tunnelRunning = false →
      (Untouched s (perform (activate ok qt config) s).2 ↔ FailsAtOnce ok s)) := by
  refine ⟨refused_at_once ok qt idle, fun _ stopped => ⟨fun untouched => ?_, fun refused => ?_⟩⟩
  · refine ⟨?_, fun running => ?_⟩
    · cases starts : ok s.system.requests with
      | false => rfl
      | true =>
        have up := started_stays ok qt idle stopped starts
        rw [untouched.tunnel, stopped] at up
        cases up
    · rw [stopped] at running
      cases running
  · obtain ⟨-, requests, result⟩ := refused_at_once ok qt idle refused
    rw [result]
    exact ⟨rfl, rfl, rfl, rfl, rfl, rfl, rfl⟩

end Idle

/-! The tunnel process that does not start, and the peer that it refuses. -/

theorem refused_start_untouched :
    (perform (activate (fun n => n != 0) networkQt (excludingServer ["203.0.113.5"]))
        (created noKillSwitch)).1 = false ∧
      Untouched (created noKillSwitch)
        (perform (activate (fun n => n != 0) networkQt (excludingServer ["203.0.113.5"]))
          (created noKillSwitch)).2 :=
  ⟨by decide, ((failed_activation_untouched_iff (fun n => n != 0) networkQt rfl).2 (by decide)
    rfl).mpr ⟨by decide, by decide⟩⟩

/-- The peer is refused: the interface stays up with the exclusion route of the
server and a count that no connection holds. -/
theorem refused_peer_leaves_interface :
    let after := perform (activate (fun n => n != 7) networkQt (excludingServer ["203.0.113.5"]))
      (created noKillSwitch)
    after.1 = false ∧ (∀ hop ∈ hops, (after.2.connections hop).isNone = true) ∧
      after.2.system.tunnelRunning = true ∧
      after.2.system.exclusionRoutes = [IPAddress.ofString networkQt "203.0.113.5"] ∧
      after.2.excludedAddrSet = [(IPAddress.ofString networkQt "203.0.113.5", 1)] := by
  decide

end AbstractumVpn.Daemon
