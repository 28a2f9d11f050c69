import AbstractumVpn.QtNumbers
import AbstractumVpn.ServersRepository
import Mathlib.Data.List.Nodup
import Mathlib.Data.List.Perm.Subperm
import Mathlib.Data.Nat.Find

/-!
The name that a new server gets: the first number for which no stored server
displays the word with it. The counter is an `int`, which no list of servers
exhausts.
-/

namespace AbstractumVpn.ServersRepository

/-- As `SelfHostedAdminServerConfig`, `SelfHostedUserServerConfig` and `NativeServerConfig` read it. -/
def displayName (json : Json.Object) : String :=
  let description := (json.value "description").toString
  if description = "" then (json.value "hostName").toString else description

def storedServerDisplayName (s : State) (serverId : String) : String :=
  match s.serverJsonById serverId with
  | none => ""
  | some stored =>
    match configTypeFromJson (withoutStorageServerId stored) with
    | .selfHostedAdmin | .selfHostedUser | .native => displayName (withoutStorageServerId stored)
    | .unsupportedSubscription =>
      let displayName := (stored.value "displayName").toString
      if displayName = "" then (stored.value "description").toString else displayName
    | .invalid => ""

def usedNames (s : State) : List String :=
  (s.orderedServerIds.map (storedServerDisplayName s)).filter (· ≠ "")

/-- `server` is the translation of the word. -/
def candidate (server : String) (i : Nat) : String := server ++ " " ++ toString i

/-- At most `rounds` rounds of the loop, after the number `i`. -/
def nextCandidate (server : String) (used : List String) : Nat → Nat → Option String
  | _, 0 => none
  | i, rounds + 1 =>
    if candidate server (i + 1) ∈ used then nextCandidate server used (i + 1) rounds
    else some (candidate server (i + 1))

def nextAvailableServerName (server : String) (s : State) (rounds : Nat) : Option String :=
  nextCandidate server (usedNames s) 0 rounds

section Names

variable (server : String)

lemma candidate_injective : Function.Injective (candidate server) := by
  intro i j same
  have digits : Nat.toDigits 10 i = Nat.toDigits 10 j := by
    have texts := congrArg String.toList same
    simpa [candidate] using texts
  exact Option.some.inj ((QtText.decimal_digits i).symm.trans
    ((congrArg QtText.decimal digits).trans (QtText.decimal_digits j)))

/-- Among one more numbers than there are names one is free. -/
lemma free_candidate (used : List String) :
    ∃ n, 0 < n ∧ n ≤ used.length + 1 ∧ candidate server n ∉ used := by
  by_contra none
  have taken : ((List.range' 1 (used.length + 1)).map (candidate server)) ⊆ used := by
    intro name member
    obtain ⟨n, inside, rfl⟩ := List.mem_map.mp member
    have range := List.mem_range'_1.mp inside
    by_contra free
    exact none ⟨n, by omega, by omega, free⟩
  have distinct : ((List.range' 1 (used.length + 1)).map (candidate server)).Nodup :=
    List.Nodup.map (candidate_injective server) (List.nodup_range' ..)
  have length := (List.subperm_of_subset distinct taken).length_le
  rw [List.length_map, List.length_range'] at length
  omega

variable {server} {used : List String} {i n : Nat}

lemma nextCandidate_eq (later : i < n) (free : candidate server n ∉ used)
    (taken : ∀ m, i < m → m < n → candidate server m ∈ used) (rounds : Nat) :
    nextCandidate server used i rounds =
      if n ≤ i + rounds then some (candidate server n) else none := by
  induction rounds generalizing i with
  | zero => rw [if_neg (by omega), nextCandidate]
  | succ rounds ih =>
    by_cases here : n = i + 1
    · subst here
      rw [nextCandidate, if_neg free, if_pos (by omega)]
    · have next := ih (i := i + 1) (by omega) fun m above => taken m (by omega)
      rw [nextCandidate, if_pos (taken (i + 1) (by omega) (by omega)), next, Nat.add_right_comm,
        Nat.add_assoc]

lemma mem_usedNames (s : State) (n : Nat) : candidate server n ∈ usedNames s ↔
    ∃ serverId ∈ s.orderedServerIds, storedServerDisplayName s serverId = candidate server n := by
  have given : candidate server n ≠ "" := by
    intro empty
    have texts := congrArg String.length empty
    simp [candidate] at texts
  simp [usedNames, given]

end Names

/-- The loop ends with the smallest number whose name no server has, and before it are at most as
many numbers as servers. -/
theorem next_name_smallest (server : String) (s : State) :
    ∃ n, 0 < n ∧ n ≤ s.orderedServerIds.length + 1 ∧
      (∀ rounds, nextAvailableServerName server s rounds =
        if n ≤ rounds then some (candidate server n) else none) ∧
      (∀ serverId ∈ s.orderedServerIds, storedServerDisplayName s serverId ≠ candidate server n) ∧
      ∀ m, 0 < m → m < n → ∃ serverId ∈ s.orderedServerIds,
        storedServerDisplayName s serverId = candidate server m := by
  obtain ⟨bound, positive, small, unused⟩ := free_candidate server (usedNames s)
  have some_free : ∃ n, 0 < n ∧ candidate server n ∉ usedNames s := ⟨bound, positive, unused⟩
  obtain ⟨first, free⟩ := Nat.find_spec some_free
  have taken : ∀ m, 0 < m → m < Nat.find some_free → candidate server m ∈ usedNames s := by
    intro m positive below
    by_contra absent
    exact Nat.find_min some_free below ⟨positive, absent⟩
  have few : (usedNames s).length ≤ s.orderedServerIds.length := by
    simpa [usedNames] using List.length_filter_le (· ≠ "")
      (s.orderedServerIds.map (storedServerDisplayName s))
  refine ⟨Nat.find some_free, first, ?_, fun rounds => ?_, ?_, ?_⟩
  · have least := Nat.find_min' some_free ⟨positive, unused⟩
    omega
  · rw [nextAvailableServerName, nextCandidate_eq first free taken, Nat.zero_add]
  · intro serverId member same
    exact free ((mem_usedNames s _).mpr ⟨serverId, member, same⟩)
  · intro m positive below
    exact (mem_usedNames s m).mp (taken m positive below)

end AbstractumVpn.ServersRepository
