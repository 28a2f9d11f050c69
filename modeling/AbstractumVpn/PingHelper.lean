import AbstractumVpn.RingLog
import AbstractumVpn.Runs

/-!
`PingHelper`: pings with 16-bit sequence numbers, whose replies are matched by
number with the last 32 pings. Replies come through a queued connection, so also
after the sender is gone.
-/

namespace AbstractumVpn.PingHelper

open RingLog

structure PingSendData where
  timestamp : Int
  latency : Int
  sequence : UInt16

def PingSendData.initial : PingSendData := ⟨-1, -1, 0⟩

structure Helper where
  m_sequence : UInt16
  m_pingData : Fin 32 → PingSendData
  timerActive : Bool

namespace Helper

def initial : Helper := ⟨0, fun _ => .initial, false⟩

def start (_ : Helper) : Helper := ⟨0, fun _ => .initial, true⟩

def stop (helper : Helper) : Helper := { helper with timerActive := false }

def nextPing (helper : Helper) (now : Int) : Helper :=
  { helper with
    m_pingData := RingLog.write helper.m_pingData helper.m_sequence.toNat
      ⟨now, -1, helper.m_sequence⟩
    m_sequence := helper.m_sequence + 1 }

def pingReceived (helper : Helper) (sequence : UInt16) (now : Int) : Helper × Option Int :=
  let data := helper.m_pingData (RingLog.cell 32 sequence.toNat)
  if data.sequence = sequence then
    let latency := now - data.timestamp
    ({ helper with
      m_pingData := RingLog.write helper.m_pingData sequence.toNat { data with latency } },
      some latency)
  else (helper, none)

end Helper

/-! ## Runs

The history beside the helper says what it should account for. A reply names the start
whose ping it answers, which the packet does not. -/

structure Ping where
  sequence : UInt16
  time : Int

structure State where
  helper : Helper
  emitted : List Int
  starts : Nat
  /-- The pings since the latest start. -/
  sent : List Ping
  /-- The positions in `sent` of those with a reply. -/
  answered : List Nat

inductive Event where
  | start
  | stop
  | tick (now : Int)
  | reply (origin : Nat) (sequence : UInt16) (now : Int)

namespace State

def initial : State := ⟨.initial, [], 0, [], []⟩

def Recent (state : State) (number : Nat) (ping : Ping) : Prop :=
  state.sent[number]? = some ping ∧ state.sent.length ≤ number + 32

def recentWith (state : State) (sequence : UInt16) : List Nat :=
  (List.range state.sent.length).filter fun number =>
    state.sent.length ≤ number + 32 && (state.sent[number]?).any (·.sequence == sequence)

end State

def step (state : State) : Event → State
  | .start =>
    { state with helper := state.helper.start, starts := state.starts + 1, sent := [], answered := [] }
  | .stop => { state with helper := state.helper.stop }
  | .tick now =>
    if state.helper.timerActive then
      { state with
        helper := state.helper.nextPing now
        sent := state.sent ++ [⟨state.helper.m_sequence, now⟩] }
    else state
  | .reply origin sequence now =>
    let received := state.helper.pingReceived sequence now
    { state with
      helper := received.1
      emitted := state.emitted ++ received.2.toList
      answered :=
        if origin = state.starts then state.answered ++ state.recentWith sequence
        else state.answered }

/-- The latency is the time from the ping to the event, which is a reply with its number. -/
def Measures (ping : Ping) (latency : Int) : Event → Prop
  | .reply _ sequence now => ping.sequence = sequence ∧ latency = now - ping.time
  | _ => False

/-- A reply before the first ping, to a ping of another start, or a second one. -/
def Unexpected (state : State) : Event → Prop
  | .reply origin sequence _ =>
    state.sent = [] ∨ origin ≠ state.starts ∨
      ∃ number ping, state.Recent number ping ∧ ping.sequence = sequence ∧ number ∈ state.answered
  | _ => False

/-- What a step stores or emits is the latency of a recent ping, and an unexpected reply does
nothing. -/
structure Accounted (state : State) (event : Event) : Prop where
  emits : ∀ latency, (step state event).emitted = state.emitted ++ [latency] →
    ∃ number ping, state.Recent number ping ∧ Measures ping latency event
  stores : ∀ index, ((step state event).helper.m_pingData index).latency =
      (state.helper.m_pingData index).latency ∨
    ((step state event).helper.m_pingData index).latency = -1 ∨
    ∃ number ping, state.Recent number ping ∧
      Measures ping ((step state event).helper.m_pingData index).latency event
  ignores : Unexpected state event → (step state event).emitted = state.emitted ∧
    (step state event).helper.m_pingData = state.helper.m_pingData

/-- No reply with the number 0 comes before the first ping, and a reply with the number of a
recent ping answers that one, of this start, for the first time. -/
def Expected (state : State) : Event → Prop
  | .reply origin sequence _ =>
    (state.sent = [] → sequence ≠ 0) ∧
      ∀ number ping, state.Recent number ping → ping.sequence = sequence →
        origin = state.starts ∧ number ∉ state.answered
  | _ => True

def PingSendData.ping (data : PingSendData) : Ping := ⟨data.sequence, data.timestamp⟩

def pings (helper : Helper) (index : Fin 32) : Ping := (helper.m_pingData index).ping

structure Tracks (state : State) : Prop where
  numbers : ∀ number ping, state.sent[number]? = some ping →
    ping.sequence.toNat = number % 65536
  next : state.helper.m_sequence.toNat = state.sent.length % 65536
  ring : RingLog.Holds ⟨0, -1⟩ (pings state.helper) state.sent

lemma pings_nextPing (helper : Helper) (now : Int) :
    pings (helper.nextPing now) =
      write (pings helper) helper.m_sequence.toNat ⟨helper.m_sequence, now⟩ :=
  map_write PingSendData.ping _ _ _

lemma pings_pingReceived (helper : Helper) (sequence : UInt16) (now : Int) :
    pings (helper.pingReceived sequence now).1 = pings helper := by
  rw [Helper.pingReceived]
  split
  · exact (map_write PingSendData.ping _ _ _).trans (write_same (pings helper) _)
  · rfl

lemma pingReceived_sequence (helper : Helper) (sequence : UInt16) (now : Int) :
    (helper.pingReceived sequence now).1.m_sequence = helper.m_sequence := by
  rw [Helper.pingReceived]
  split
  · rfl
  · rfl

/-- The size of the ring divides the number of sequence numbers. -/
lemma cell_sequence {sequence : UInt16} {number : Nat}
    (same : sequence.toNat = number % 65536) :
    cell 32 sequence.toNat = cell 32 number := by
  apply Fin.ext
  change sequence.toNat % 32 = number % 32
  omega

lemma tracks_initial : Tracks .initial where
  numbers number ping found := by cases found
  next := rfl
  ring := holds_nil _

lemma step_tracks (state : State) (event : Event) (tracks : Tracks state) :
    Tracks (step state event) := by
  cases event with
  | start =>
    constructor
    · intro number ping found
      cases found
    · rfl
    · exact holds_nil _
  | stop => exact ⟨tracks.numbers, tracks.next, tracks.ring⟩
  | tick now =>
    rw [step]
    split
    · constructor
      · intro number ping found
        rcases entry_cases found with ⟨-, older⟩ | ⟨rfl, rfl⟩
        · exact tracks.numbers number ping older
        · exact tracks.next
      · change (state.helper.m_sequence + 1).toNat = (state.sent ++ [_]).length % 65536
        rw [UInt16.toNat_add, tracks.next, List.length_append, List.length_singleton]
        change (_ + 1) % 65536 = _
        omega
      · change RingLog.Holds _ (pings (state.helper.nextPing now)) _
        rw [pings_nextPing, write_congr (cell_sequence tracks.next)]
        exact tracks.ring.push _
    · exact tracks
  | reply origin sequence now =>
    refine ⟨tracks.numbers, ?_, ?_⟩
    · rw [step, pingReceived_sequence]
      exact tracks.next
    · rw [step, pings_pingReceived]
      exact tracks.ring

lemma recent_cell {state : State} (tracks : Tracks state) {number : Nat} {ping : Ping}
    (recent : state.Recent number ping) :
    pings state.helper (cell 32 ping.sequence.toNat) = ping := by
  rw [cell_sequence (tracks.numbers number ping recent.1)]
  exact tracks.ring.recent number ping recent.1 recent.2

/-- A number is found in its cell if it is that of a recent ping, or is the 0 of a cell that no
ping was written to. -/
lemma found_iff {state : State} (tracks : Tracks state) (sequence : UInt16) :
    (state.helper.m_pingData (cell 32 sequence.toNat)).sequence = sequence ↔
      (∃ number ping, state.Recent number ping ∧ ping.sequence = sequence) ∨
        (state.sent = [] ∧ sequence = 0) := by
  constructor
  · intro found
    rcases tracks.ring.lookup (cell 32 sequence.toNat) with
      ⟨number, ping, held, recent, -, rfl⟩ | ⟨beyond, blank⟩
    · exact Or.inl ⟨number, _, ⟨held, recent⟩, found⟩
    · have zero : sequence = 0 := by
        rw [← found]
        exact congrArg Ping.sequence blank
      subst zero
      exact Or.inr ⟨List.eq_nil_of_length_eq_zero (Nat.le_zero.mp beyond), rfl⟩
  · rintro (⟨number, ping, recent, rfl⟩ | ⟨empty, rfl⟩)
    · exact congrArg Ping.sequence (recent_cell tracks recent)
    · apply congrArg Ping.sequence (tracks.ring.unwritten (cell 32 0) _)
      rw [empty]
      exact Nat.zero_le _

section Reply

variable {state : State} {origin : Nat} {sequence : UInt16} {now : Int}

lemma reply_emitted
    (found : (state.helper.m_pingData (cell 32 sequence.toNat)).sequence = sequence) :
    (step state (.reply origin sequence now)).emitted = state.emitted ++
      [now - (state.helper.m_pingData (cell 32 sequence.toNat)).timestamp] := by
  rw [step, Helper.pingReceived, if_pos found]
  rfl

lemma reply_stored
    (found : (state.helper.m_pingData (cell 32 sequence.toNat)).sequence = sequence)
    (index : Fin 32) :
    ((step state (.reply origin sequence now)).helper.m_pingData index).latency =
      if index = cell 32 sequence.toNat then
        now - (state.helper.m_pingData (cell 32 sequence.toNat)).timestamp
      else (state.helper.m_pingData index).latency := by
  rw [step, Helper.pingReceived, if_pos found]
  exact apply_ite PingSendData.latency _ _ _

lemma reply_ignored
    (other : (state.helper.m_pingData (cell 32 sequence.toNat)).sequence ≠ sequence) :
    (step state (.reply origin sequence now)).emitted = state.emitted ∧
      (step state (.reply origin sequence now)).helper = state.helper := by
  rw [step, Helper.pingReceived, if_neg other]
  exact ⟨List.append_nil _, rfl⟩

lemma expected_of_accounted (tracks : Tracks state)
    (accounted : Accounted state (.reply origin sequence now)) :
    Expected state (.reply origin sequence now) := by
  -- a number that is found is emitted, so the reply is not an unexpected one
  have loud : (state.helper.m_pingData (cell 32 sequence.toNat)).sequence = sequence →
      ¬ Unexpected state (.reply origin sequence now) := by
    intro found unexpected
    have silent := (accounted.ignores unexpected).1
    rw [reply_emitted found] at silent
    exact absurd silent (by simp)
  constructor
  · rintro empty rfl
    exact loud ((found_iff tracks 0).mpr (Or.inr ⟨empty, rfl⟩)) (Or.inl empty)
  · rintro number ping recent rfl
    have answers := loud ((found_iff tracks _).mpr (Or.inl ⟨number, ping, recent, rfl⟩))
    constructor
    · by_contra stale
      exact answers (Or.inr (Or.inl stale))
    · intro second
      exact answers (Or.inr (Or.inr ⟨number, ping, recent, rfl, second⟩))

lemma accounted_of_expected (tracks : Tracks state)
    (expected : Expected state (.reply origin sequence now)) :
    Accounted state (.reply origin sequence now) := by
  by_cases found :
      (state.helper.m_pingData (cell 32 sequence.toNat)).sequence = sequence
  · rcases (found_iff tracks sequence).mp found with
      ⟨number, ping, recent, rfl⟩ | ⟨empty, zero⟩
    · have sent : (state.helper.m_pingData (cell 32 ping.sequence.toNat)).timestamp =
          ping.time := congrArg Ping.time (recent_cell tracks recent)
      obtain ⟨current, first⟩ := expected.2 number ping recent rfl
      constructor
      · intro latency emitted
        rw [reply_emitted found, sent] at emitted
        have value := List.append_cancel_left emitted
        exact ⟨number, ping, recent, rfl, (List.cons.inj value).1.symm⟩
      · intro index
        rw [reply_stored found, sent]
        split
        · exact Or.inr (Or.inr ⟨number, ping, recent, rfl, rfl⟩)
        · exact Or.inl rfl
      · rintro (empty | stale | ⟨other, again, recent', same, second⟩)
        · rw [State.Recent, empty] at recent
          cases recent.1
        · exact absurd current stale
        · exact absurd second (expected.2 other again recent' same).2
    · exact absurd zero (expected.1 empty)
  · obtain ⟨emitted, helper⟩ : (step state (.reply origin sequence now)).emitted = state.emitted ∧
        (step state (.reply origin sequence now)).helper = state.helper := reply_ignored found
    constructor
    · intro latency more
      rw [emitted] at more
      exact absurd more (by simp)
    · intro index
      rw [helper]
      exact Or.inl rfl
    · intro _
      rw [helper]
      exact ⟨emitted, rfl⟩

end Reply

/-- The steps that are no replies neither emit nor store a latency. -/
lemma accounted_quiet (state : State) (event : Event)
    (quiet : ∀ origin sequence now, event ≠ .reply origin sequence now) :
    Accounted state event ∧ Expected state event := by
  cases event with
  | reply origin sequence now => exact absurd rfl (quiet origin sequence now)
  | start =>
    refine ⟨⟨?_, fun index => Or.inr (Or.inl rfl), False.elim⟩, trivial⟩
    intro latency more
    exact absurd more (by simp [step])
  | stop =>
    refine ⟨⟨?_, fun index => Or.inl rfl, False.elim⟩, trivial⟩
    intro latency more
    exact absurd more (by simp [step])
  | tick now =>
    have emitted : (step state (.tick now)).emitted = state.emitted := by
      rw [step]
      split
      · rfl
      · rfl
    refine ⟨⟨?_, ?_, False.elim⟩, trivial⟩
    · intro latency more
      rw [emitted] at more
      exact absurd more (by simp)
    · intro index
      rw [step]
      split
      · by_cases written : index = cell 32 state.helper.m_sequence.toNat
        · exact Or.inr (Or.inl (by simp [Helper.nextPing, write, written]))
        · exact Or.inl (by simp [Helper.nextPing, write, written])
      · exact Or.inl rfl

lemma accounted_iff (state : State) (event : Event) (tracks : Tracks state) :
    Accounted state event ↔ Expected state event := by
  by_cases reply : ∃ origin sequence now, event = .reply origin sequence now
  · obtain ⟨origin, sequence, now, rfl⟩ := reply
    exact ⟨expected_of_accounted tracks, accounted_of_expected tracks⟩
  · obtain ⟨accounted, expected⟩ := accounted_quiet state event fun origin sequence now same =>
      reply ⟨origin, sequence, now, same⟩
    exact ⟨fun _ => expected, fun _ => accounted⟩

/-- In a run, all latencies are accounted for if and only if all replies are expected. -/
theorem pings_accounted_iff (events : List Event) :
    Runs.Guarded step Accounted .initial events ↔ Runs.Guarded step Expected .initial events :=
  Runs.guarded_congr step step_tracks accounted_iff .initial events tracks_initial

/-- A reply before the first ping, a second reply, and a reply to a ping of an earlier start are
all emitted. -/
theorem unexpected_replies_emitted :
    (Runs.run step .initial [.start, .reply 0 0 5]).emitted = [6] ∧
      (Runs.run step .initial [.start, .tick 10, .reply 1 0 12, .reply 1 0 15]).emitted = [2, 5] ∧
      (Runs.run step .initial [.start, .tick 10, .stop, .start, .tick 20, .reply 1 0 25]).emitted =
        [5] ∧
      ¬ Runs.Guarded step Accounted .initial [.start, .reply 0 0 5] := by
  refine ⟨by decide, by decide, by decide, ?_⟩
  rintro ⟨-, accounted, -⟩
  have silent := (accounted.ignores (Or.inl rfl)).1
  exact absurd silent (by decide)

end AbstractumVpn.PingHelper
