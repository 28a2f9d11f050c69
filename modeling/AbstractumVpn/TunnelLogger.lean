import AbstractumVpn.RingLog
import AbstractumVpn.Runs

/-!
`WindowsTunnelLogger`: the log that the tunnel service keeps in a ring of 2048
slots, and the polls that report it. The counter of the writes is stored in 32
bits and taken modulo an unsigned number. `log` and `polled` are no fields of
the source: what has been written, the blank slots first, and the numbers of the
oldest entry at the first poll and of the next one at the last.
-/

namespace AbstractumVpn.WindowsTunnelLogger

open RingLog (cell write)

structure Entry where
  timestamp : Nat
  message : List UInt8

def blank : Entry := ⟨0, []⟩

structure State where
  logdata : Fin 2048 → Entry := fun _ => blank
  writeIndex : BitVec 32 := 0
  logindex : Option (Fin 2048) := none
  reported : List (List UInt8) := []
  log : List Entry := List.replicate 2048 blank
  polled : Option (Nat × Nat) := none

def writeMessage (entry : Entry) (s : State) : State :=
  { s with
    logdata := write s.logdata s.writeIndex.toNat entry
    writeIndex := s.writeIndex + 1
    log := s.log ++ [entry] }

def nextIndex (s : State) : Fin 2048 := cell 2048 s.writeIndex.toNat

variable (startTime : Nat)

/-- What the entry of a slot adds to the report. -/
def process (entry : Entry) : List (List UInt8) :=
  if entry.timestamp ≤ startTime then [] else [entry.message.takeWhile (· ≠ 0)]

def reportNew (s : State) (index : Fin 2048) : List (List UInt8) :=
  if index = nextIndex s then []
  else process startTime (s.logdata index) ++ reportNew s (index + 1)
termination_by (nextIndex s - index).val
decreasing_by
  have apart : index.val ≠ (nextIndex s).val := fun same => by simp_all [Fin.ext_iff]
  simp only [Fin.sub_def, Fin.add_def]
  omega

def timeout (s : State) : State :=
  let (first, index) := match s.logindex with
    | none => (process startTime (s.logdata (nextIndex s)), nextIndex s + 1)
    | some index => ([], index)
  { s with
    logindex := some (nextIndex s)
    reported := s.reported ++ first ++ reportNew startTime s index
    polled := some ((s.polled.map Prod.fst).getD (s.log.length - 2048), s.log.length) }

inductive Event where
  | written (entry : Entry)
  | timeout

def step (s : State) : Event → State
  | .written entry => writeMessage entry s
  | .timeout => WindowsTunnelLogger.timeout startTime s

/-- Fewer messages than slots are written between two polls. -/
def Spaced (s : State) : Event → Prop
  | .written _ => True
  | .timeout => ∀ polled ∈ s.polled, s.log.length < polled.2 + 2048

/-- The report of the messages that were in the ring at the first poll or were written between it and
the last one. -/
def due (s : State) : List (List UInt8) :=
  s.polled.elim [] fun polled => ((s.log.take polled.2).drop polled.1).flatMap (process startTime)

structure Inv (s : State) : Prop where
  full : 2048 ≤ s.log.length
  counted : cell 2048 s.writeIndex.toNat = cell 2048 s.log.length
  ring : RingLog.Holds blank s.logdata s.log
  index : s.logindex = s.polled.map fun polled => cell 2048 polled.2
  polled : ∀ polled ∈ s.polled, polled.1 ≤ polled.2 ∧ polled.2 ≤ s.log.length
  reported : s.reported = due startTime s

variable {startTime} {s : State}

lemma cell_succ (number : Nat) : cell 2048 number + 1 = cell 2048 (number + 1) := by
  apply Fin.ext
  simp [cell, Fin.add_def]

lemma reportNew_eq (inv : Inv startTime s) {number : Nat} (old : number ≤ s.log.length)
    (recent : s.log.length < number + 2048) :
    reportNew startTime s (cell 2048 number) = (s.log.drop number).flatMap (process startTime) := by
  induction gap : s.log.length - number generalizing number with
  | zero =>
    obtain rfl : number = s.log.length := by omega
    rw [reportNew, nextIndex, inv.counted, if_pos rfl, List.drop_length, List.flatMap_nil]
  | succ gap ih =>
    have inside : number < s.log.length := by omega
    have other : cell 2048 number ≠ nextIndex s := by
      rw [nextIndex, inv.counted]
      exact RingLog.cell_ne inside recent
    have held := inv.ring.recent number _ (List.getElem?_eq_getElem inside) (by omega)
    rw [reportNew, if_neg other, held, cell_succ, ih (by omega) (by omega) (by omega),
      List.drop_eq_getElem_cons inside, List.flatMap_cons]

lemma timeout_reported (inv : Inv startTime s) (spaced : Spaced s .timeout) :
    (timeout startTime s).reported = due startTime (timeout startTime s) := by
  rw [timeout, inv.reported, due, due, Option.elim_some, List.take_length]
  cases polled : s.polled with
  | none =>
    have full := inv.full
    have inside : s.log.length - 2048 < s.log.length := by omega
    have first : nextIndex s = cell 2048 (s.log.length - 2048) := by
      rw [nextIndex, inv.counted]
      apply Fin.ext
      simp only [cell]
      omega
    have held := inv.ring.recent _ _ (List.getElem?_eq_getElem inside) (by omega)
    have index := inv.index
    rw [polled, Option.map_none] at index
    simp only [index, Option.elim_none, List.nil_append, Option.map_none, Option.getD_none]
    rw [first, held, cell_succ, reportNew_eq inv (by omega) (by omega),
      List.drop_eq_getElem_cons inside, List.flatMap_cons]
  | some numbers =>
    obtain ⟨ordered, old⟩ := inv.polled numbers polled
    have index := inv.index
    rw [polled, Option.map_some] at index
    have parts : s.log.drop numbers.1 =
        (s.log.take numbers.2).drop numbers.1 ++ s.log.drop numbers.2 := by
      rw [← List.drop_append_of_le_length (by simpa using ⟨ordered, ordered.trans old⟩),
        List.take_append_drop]
    simp only [index, Option.elim_some, List.append_nil, Option.map_some, Option.getD_some]
    rw [reportNew_eq inv old (spaced numbers polled), parts, List.flatMap_append]

lemma step_inv (s : State) (event : Event) (inv : Inv startTime s) (spaced : Spaced s event) :
    Inv startTime (step startTime s event) := by
  cases event with
  | timeout =>
    refine ⟨inv.full, inv.counted, inv.ring, congrArg some inv.counted, ?_,
      timeout_reported inv spaced⟩
    rintro numbers ⟨⟩
    refine ⟨?_, Nat.le_refl _⟩
    cases polled : s.polled with
    | none => exact Nat.sub_le _ _
    | some earlier => exact (inv.polled earlier polled).1.trans (inv.polled earlier polled).2
  | written entry =>
    have counted := congrArg Fin.val inv.counted
    simp only [cell] at counted
    have longer : (s.log ++ [entry]).length = s.log.length + 1 := by simp
    refine ⟨?_, ?_, ?_, inv.index, ?_, ?_⟩
    · have full := inv.full
      rw [step, writeMessage, longer]
      omega
    · have one : (1 : BitVec 32).toNat = 1 := rfl
      apply Fin.ext
      simp only [step, writeMessage, cell, BitVec.toNat_add]
      omega
    · rw [step, writeMessage, RingLog.write_congr inv.counted]
      exact inv.ring.push entry
    · intro numbers polled
      have old := inv.polled numbers polled
      rw [step, writeMessage, longer]
      omega
    · refine inv.reported.trans ?_
      rw [due, due, step, writeMessage]
      cases polled : s.polled with
      | none => rfl
      | some numbers =>
        rw [Option.elim_some, Option.elim_some,
          List.take_append_of_le_length (inv.polled numbers polled).2]

end AbstractumVpn.WindowsTunnelLogger
