import AbstractumVpn.Runs
import AbstractumVpn.VpnConnection

/-!
The byte counters of `VpnProtocol`: the differences to the last report are
emitted. The tunnel process starts its counters again when it reconnects, but
the last report is forgotten with `Disconnected` only. `reported` and `emitted`
are no fields of the source: the last report since the counters were started,
and the sums emitted since.
-/

namespace AbstractumVpn.VpnProtocol

open Runs (Guarded)
open VpnConnection (ConnectionState)

structure State where
  connectionState : ConnectionState := .unknown
  receivedBytes : BitVec 64 := 0
  sentBytes : BitVec 64 := 0

def setBytesChanged (receivedBytes sentBytes : BitVec 64) (s : State) :
    (BitVec 64 × BitVec 64) × State :=
  ((receivedBytes - s.receivedBytes, sentBytes - s.sentBytes), { s with receivedBytes, sentBytes })

def setConnectionState (state : ConnectionState) (s : State) : State :=
  if s.connectionState = state then s
  else if s.connectionState = .disconnected ∧ state = .disconnecting then s
  else if state = .disconnected then ⟨state, 0, 0⟩
  else { s with connectionState := state }

structure Session where
  protocol : State := {}
  reported : Option (BitVec 64 × BitVec 64) := none
  emitted : Nat × Nat := (0, 0)

/-- The counters may be started with any new state, and they are with `Disconnected`. -/
inductive Event where
  | bytesChanged (receivedBytes sentBytes : BitVec 64)
  | connectionStateChanged (state : ConnectionState) (restarts : Bool)

def step (s : Session) : Event → Session
  | .bytesChanged receivedBytes sentBytes =>
    let (diff, protocol) := setBytesChanged receivedBytes sentBytes s.protocol
    ⟨protocol, some (receivedBytes, sentBytes),
      (s.emitted.1 + diff.1.toNat, s.emitted.2 + diff.2.toNat)⟩
  | .connectionStateChanged state restarts =>
    let protocol := setConnectionState state s.protocol
    if restarts = true ∨ state = .disconnected then { protocol } else { s with protocol }

/-- No counter gets smaller while it runs. -/
def Grows (s : Session) : Event → Prop
  | .bytesChanged receivedBytes sentBytes =>
    ∀ last ∈ s.reported, last.1 ≤ receivedBytes ∧ last.2 ≤ sentBytes
  | .connectionStateChanged _ _ => True

/-- The difference is at most the counter, and with it the sum is the counter. -/
def ExactCounter (counter diff : BitVec 64) (sum : Nat) : Prop :=
  diff.toNat ≤ counter.toNat ∧ sum = counter.toNat

def Exact (s : Session) : Event → Prop
  | .bytesChanged receivedBytes sentBytes =>
    let (rxDiff, txDiff) := (setBytesChanged receivedBytes sentBytes s.protocol).1
    let after := step s (.bytesChanged receivedBytes sentBytes)
    ExactCounter receivedBytes rxDiff after.emitted.1 ∧ ExactCounter sentBytes txDiff after.emitted.2
  | .connectionStateChanged _ _ => True

/-- At the first report of a process no counters of an earlier one are stored. -/
def Cleared (s : Session) : Event → Prop
  | .bytesChanged _ _ =>
    s.reported = none → s.protocol.receivedBytes = 0 ∧ s.protocol.sentBytes = 0
  | .connectionStateChanged _ _ => True

/-- The stored counters are those of the last report, and so are the sums. -/
def Inv (s : Session) : Prop :=
  s.reported.elim (s.emitted = (0, 0)) fun last =>
    s.protocol.receivedBytes = last.1 ∧ s.protocol.sentBytes = last.2 ∧
      s.emitted = (last.1.toNat, last.2.toNat)

lemma first_exact_iff (held counter : BitVec 64) :
    ExactCounter counter (counter - held) (0 + (counter - held).toNat) ↔ held = 0 := by
  rw [ExactCounter]
  bv_omega

lemma next_exact {held counter : BitVec 64} (grows : held ≤ counter) :
    ExactCounter counter (counter - held) (held.toNat + (counter - held).toNat) := by
  rw [ExactCounter]
  bv_omega

variable {s : Session} {event : Event}

lemma exact_iff_cleared (inv : Inv s) (grows : Grows s event) :
    Exact s event ↔ Cleared s event := by
  cases event with
  | connectionStateChanged state restarts => rfl
  | bytesChanged receivedBytes sentBytes =>
    simp only [Exact, step, setBytesChanged, Cleared]
    cases reported : s.reported with
    | none =>
      rw [Inv, reported, Option.elim_none] at inv
      simp only [inv, first_exact_iff, forall_const]
    | some last =>
      rw [Inv, reported, Option.elim_some] at inv
      obtain ⟨rx, tx⟩ := grows last reported
      rw [inv.1, inv.2.1, inv.2.2]
      exact iff_of_true ⟨next_exact rx, next_exact tx⟩ nofun

lemma step_inv (inv : Inv s) (exact : Exact s event) : Inv (step s event) := by
  cases event with
  | bytesChanged receivedBytes sentBytes => exact ⟨rfl, rfl, Prod.ext exact.1.2 exact.2.2⟩
  | connectionStateChanged state restarts =>
    rw [step]
    split
    · exact rfl
    · next going =>
      have kept : (setConnectionState state s.protocol).receivedBytes = s.protocol.receivedBytes ∧
          (setConnectionState state s.protocol).sentBytes = s.protocol.sentBytes := by
        rw [setConnectionState, if_neg fun down => going (Or.inr down)]
        repeat' split
        all_goals exact ⟨rfl, rfl⟩
      rwa [Inv, kept.1, kept.2]

/-- While the counters of a process grow, every difference is exact if and only if no counters of an
earlier process are stored when the first report of a process comes. -/
theorem differences_exact_iff (events : List Event) (grow : Guarded step Grows {} events) :
    Guarded step Exact {} events ↔ Guarded step Cleared {} events := by
  have start : Inv {} := rfl
  generalize ({} : Session) = s at start grow ⊢
  induction events generalizing s with
  | nil => rfl
  | cons event rest ih =>
    have first := exact_iff_cleared start grow.1
    constructor
    · rintro ⟨exact, later⟩
      exact ⟨first.mp exact, (ih _ (step_inv start exact) grow.2).mp later⟩
    · rintro ⟨cleared, later⟩
      exact ⟨first.mpr cleared, (ih _ (step_inv start (first.mpr cleared)) grow.2).mpr later⟩

/-- A connection with two reports, and after it another one. -/
def twoConnections : List Event :=
  [.connectionStateChanged .connected false, .bytesChanged 100 20, .bytesChanged 150 20,
    .connectionStateChanged .disconnected false, .connectionStateChanged .connected true,
    .bytesChanged 10 5]

theorem two_connections_exact :
    Guarded step Grows {} twoConnections ∧ Guarded step Exact {} twoConnections := by
  have grow : Guarded step Grows {} twoConnections := by
    simp [twoConnections, Guarded, Grows, step, setBytesChanged]
  refine ⟨grow, (differences_exact_iff twoConnections grow).mpr ?_⟩
  simp [twoConnections, Guarded, Cleared, step, setBytesChanged, setConnectionState]

/-- The process reconnects, and the difference of its first report is close to 2^64. -/
def reconnected : List Event :=
  [.connectionStateChanged .connected false, .bytesChanged 100 20,
    .connectionStateChanged .reconnecting true, .connectionStateChanged .connected false,
    .bytesChanged 10 5]

theorem reconnected_difference_wraps :
    Guarded step Grows {} reconnected ∧ ¬ Guarded step Exact {} reconnected := by
  constructor
  · simp [reconnected, Guarded, Grows, step, setBytesChanged]
  · rintro ⟨-, -, -, -, ⟨⟨small, -⟩, -⟩, -⟩
    exact absurd small (by decide)

end AbstractumVpn.VpnProtocol
