import Mathlib.Data.List.Basic

/-!
`SshSession::runScript`: the commands that are sent to the server for a script.
A line that ends in a backslash is joined with the next one before its first
character is looked at. What is still open at the end is not sent.
-/

namespace AbstractumVpn.SshSession

abbrev Line := List Char

def lines (script : List Char) : List Line :=
  ((script.filter (· ≠ '\r')).splitOn '\n').filter (· ≠ [])

def endsOpen (line : Line) : Bool := line.getLast? = some '\\'

def isComment (line : Line) : Bool := line.head? = some '#'

def execute : Line → List Line → List Line
  | _, [] => []
  | totalLine, currentLine :: rest =>
    let total := if totalLine = [] then currentLine else totalLine ++ '\n' :: currentLine
    if endsOpen currentLine then execute total rest
    else if isComment total then execute [] rest
    else total :: execute [] rest

def runScript (script : List Char) : List Line := execute [] (lines script)

/-- The commands of a script, with the lines of a command that is still open. A comment is a line of
its own. -/
def logicalLines : Option Line → List Line → List Line
  | none, [] => []
  | some command, [] => [command]
  | none, line :: rest =>
    if isComment line then logicalLines none rest
    else if endsOpen line then logicalLines (some line) rest
    else line :: logicalLines none rest
  | some command, line :: rest =>
    if endsOpen line then logicalLines (some (command ++ '\n' :: line)) rest
    else (command ++ '\n' :: line) :: logicalLines none rest

/-- Behind a comment that ends in a backslash stands another comment or nothing, and no command is
open at the end. The flag says whether one is open at the beginning. -/
def Closed : Bool → List Line → Prop
  | inside, [] => inside = false
  | true, line :: rest => Closed (endsOpen line) rest
  | false, line :: rest =>
    if isComment line then
      (endsOpen line = true → ∀ next ∈ rest.head?, isComment next = true) ∧ Closed false rest
    else Closed (endsOpen line) rest

variable {command : Line}

lemma isComment_ne_nil (comment : isComment command = true) : command ≠ [] := by
  rintro rfl
  cases comment

lemma endsOpen_ne_nil (unfinished : endsOpen command = true) : command ≠ [] := by
  rintro rfl
  cases unfinished

lemma isComment_append (given : command ≠ []) (line : Line) :
    isComment (command ++ '\n' :: line) = isComment command := by
  rw [isComment, List.head?_append_of_ne_nil _ given, isComment]

lemma execute_start (line : Line) (rest : List Line) : execute [] (line :: rest) =
    if endsOpen line then execute line rest
    else if isComment line then execute [] rest else line :: execute [] rest := by
  simp [execute]

lemma execute_inside (given : command ≠ []) (line : Line) (rest : List Line) :
    execute command (line :: rest) =
      if endsOpen line then execute (command ++ '\n' :: line) rest
      else if isComment command then execute [] rest
      else (command ++ '\n' :: line) :: execute [] rest := by
  simp [execute, given, isComment_append given]

/-- There are never more commands than the script has, and fewer when a comment takes the place of a
command. -/
lemma execute_length (lines : List Line) :
    (execute [] lines).length ≤ (logicalLines none lines).length ∧
    (∀ command other, command ≠ [] →
      (execute command lines).length ≤ (logicalLines (some other) lines).length) ∧
    ∀ comment, isComment comment = true →
      (execute comment lines).length ≤ (logicalLines none lines).length ∧
      ∀ other, (execute comment lines).length < (logicalLines (some other) lines).length := by
  induction lines with
  | nil => simp [execute, logicalLines]
  | cons line rest ih =>
    obtain ⟨start, inside, taken⟩ := ih
    refine ⟨?_, fun command other given => ?_, fun comment kind => ?_⟩
    · rw [execute_start, logicalLines]
      cases unfinished : endsOpen line with
      | true =>
        cases kind : isComment line with
        | true => simpa using (taken line kind).1
        | false => simpa using inside line line (endsOpen_ne_nil unfinished)
      | false => cases isComment line <;> simpa using start
    · rw [execute_inside given, logicalLines]
      cases endsOpen line with
      | true => simpa using inside _ _ (by simp)
      | false => cases isComment command <;> simp <;> omega
    · have longer : isComment (comment ++ '\n' :: line) = true := by
        rw [isComment_append (isComment_ne_nil kind), kind]
      rw [execute_inside (isComment_ne_nil kind), kind]
      constructor
      · rw [logicalLines]
        cases endsOpen line with
        | true =>
          cases isComment line with
          | true => simpa using (taken _ longer).1
          | false => simpa using Nat.le_of_lt ((taken _ longer).2 line)
        | false => cases isComment line <;> simp <;> omega
      · intro other
        rw [logicalLines]
        cases endsOpen line with
        | true => simpa using (taken _ longer).2 _
        | false => simpa using Nat.lt_succ_of_le start

lemma execute_iff (lines : List Line) :
    (execute [] lines = logicalLines none lines ↔ Closed false lines) ∧
    (∀ command, command ≠ [] → isComment command = false →
      (execute command lines = logicalLines (some command) lines ↔ Closed true lines)) ∧
    ∀ comment, isComment comment = true →
      (execute comment lines = logicalLines none lines ↔
        (∀ next ∈ lines.head?, isComment next = true) ∧ Closed false lines) := by
  induction lines with
  | nil => simp [execute, logicalLines, Closed]
  | cons line rest ih =>
    obtain ⟨start, inside, taken⟩ := ih
    refine ⟨?_, fun command given plain => ?_, fun comment kind => ?_⟩
    · rw [execute_start, logicalLines, Closed]
      cases unfinished : endsOpen line with
      | true =>
        cases kind : isComment line with
        | true => simpa using taken line kind
        | false => simpa using inside line (endsOpen_ne_nil unfinished) kind
      | false => cases isComment line <;> simpa using start
    · rw [execute_inside given, logicalLines, Closed, plain]
      cases endsOpen line with
      | true => simpa using inside _ (by simp) ((isComment_append given line).trans plain)
      | false => simpa using start
    · have longer : isComment (comment ++ '\n' :: line) = true := by
        rw [isComment_append (isComment_ne_nil kind), kind]
      rw [execute_inside (isComment_ne_nil kind), kind, logicalLines, Closed]
      cases own : isComment line with
      | true => cases endsOpen line <;> simp [start, taken _ longer, own]
      | false =>
        -- the command is taken for a part of the comment
        obtain ⟨fewer, -, lost⟩ := execute_length rest
        cases endsOpen line with
        | true =>
          have missing := (lost _ longer).2 line
          simpa [own] using fun same => absurd (same ▸ missing) (Nat.lt_irrefl _)
        | false =>
          have missing (same : execute [] rest = line :: logicalLines none rest) : False := by
            rw [same] at fewer
            exact Nat.not_succ_le_self _ fewer
          simpa [own] using missing

theorem script_commands_iff (script : List Char) :
    runScript script = logicalLines none (lines script) ↔ Closed false (lines script) :=
  (execute_iff (lines script)).1

/-- The command at the end is not sent, and neither is the one behind the comment. -/
theorem open_command_dropped :
    runScript "# a \\\nb\nc \\".toList ≠ logicalLines none (lines "# a \\\nb\nc \\".toList) := by
  decide

end AbstractumVpn.SshSession
