import AbstractumVpn.ArgumentGrammar
import AbstractumVpn.QtText
import AbstractumVpn.Runs

/-!
Processes the service starts as root for the client (`IpcServerProcess`), with
the whitelist of their arguments. Whether a file exists is the oracle `isFile`.
`QProcess` ignores `setProgram`, `setArguments` and `start` while its process is
running, but the note that `IpcServerProcess` has of the program is changed in
any case.
-/

namespace AbstractumVpn.PrivilegedProcess

open ArgumentGrammar Runs

inductive PermittedProcess where
  | invalid
  | openVpn
  | wireguard
  | tun2Socks
  | certUtil
  deriving DecidableEq

/-- The cast of a number. One outside the enumeration takes the default branch
of every `switch`, as `invalid` does. -/
def PermittedProcess.ofId : Int → PermittedProcess
  | 1 => .openVpn
  | 2 => .wireguard
  | 3 => .tun2Socks
  | 4 => .certUtil
  | _ => .invalid

structure Paths where
  openVpnExecPath : String
  wireguardExecPath : String
  certUtilPath : String
  tun2socksPath : String

def permittedProcessPath (paths : Paths) : PermittedProcess → String
  | .openVpn => paths.openVpnExecPath
  | .wireguard => paths.wireguardExecPath
  | .certUtil => paths.certUtilPath
  | .tun2Socks => paths.tun2socksPath
  | .invalid => ""

section Whitelist

variable (isFile : String → Bool)

def existingFile : List String → Bool
  | [file] => !(file == "") && isFile file
  | _ => false

def nonEmpty : List String → Bool
  | [text] => !(text == "")
  | _ => false

def loopbackAndPort : List String → Bool
  | [host, port] =>
    (host == "127.0.0.1" || host == "::1") &&
      (match QtText.toUInt port with
        | some number => decide (0 < number ∧ number ≤ 65535)
        | none => false)
  | _ => false

def startsWith (start : String) : List String → Bool
  | [text] => start.toList.isPrefixOf text.toList
  | _ => false

def grammar : PermittedProcess → Grammar
  | .openVpn =>
    { namedArgs := [("--config", ⟨1, some (existingFile isFile)⟩),
        ("--management", ⟨2, some loopbackAndPort⟩), ("--management-client", ⟨0, none⟩)]
      positionalArgs := [] }
  | .tun2Socks =>
    { namedArgs := [("-device", ⟨1, some (startsWith "tun://")⟩),
        ("-proxy", ⟨1, some (startsWith "socks5://")⟩)]
      positionalArgs := [] }
  | .certUtil =>
    { namedArgs := [("-f", ⟨0, none⟩), ("-importpfx", ⟨0, none⟩), ("-p", ⟨1, some nonEmpty⟩)]
      positionalArgs := [existingFile isFile, fun values => values == ["NoExport"]] }
  | .wireguard | .invalid => { namedArgs := [], positionalArgs := [] }

def sanitizeArguments (process : PermittedProcess) (args : List String) : List String :=
  (scan (grammar isFile process) 0 0 args).getD []

variable (process : PermittedProcess) (args : List String)

lemma sanitize_cases :
    sanitizeArguments isFile process args = [] ∨ sanitizeArguments isFile process args = args := by
  rcases scan_cases (grammar isFile process) args with refused | copied
  · exact Or.inl (by rw [sanitizeArguments, refused, Option.getD_none])
  · exact Or.inr (by rw [sanitizeArguments, copied, Option.getD_some])

lemma sanitize_iff :
    sanitizeArguments isFile process args = args ↔ Accepts (grammar isFile process) 0 args := by
  rw [← scan_iff]
  rcases scan_cases (grammar isFile process) args with refused | copied
  · rw [sanitizeArguments, refused, Option.getD_none]
    refine iff_of_false (fun empty => ?_) (by simp)
    -- the empty command line is never refused
    rw [← empty, scan] at refused
    cases refused
  · exact iff_of_true (by rw [sanitizeArguments, copied, Option.getD_some]) copied

lemma sanitize_accepted :
    Accepts (grammar isFile process) 0 (sanitizeArguments isFile process args) := by
  rcases sanitize_cases isFile process args with empty | whole
  · rw [empty]
    exact Accepts.done 0
  · rw [whole]
    exact (sanitize_iff isFile process args).mp whole

end Whitelist

structure Process where
  program : String
  arguments : List String
  running : Bool

def Process.setProgram (process : Process) (program : String) : Process :=
  if process.running then process else { process with program := program }

def Process.setArguments (process : Process) (arguments : List String) : Process :=
  if process.running then process else { process with arguments := arguments }

structure Launch where
  current : PermittedProcess
  program : String
  arguments : List String
  deriving DecidableEq

/-- `launches` is no field of the source. It logs the starts, newest first. -/
structure State where
  program : PermittedProcess
  process : Process
  launches : List Launch

/-- `start` carries whether the executable can be run, `ended` is the end of the
process for whatever reason: the client may ask for it, and `start` itself kills
all processes with the name of its program. -/
inductive Event where
  | setProgram (programId : Int)
  | setArguments (arguments : List String)
  | start (runs : Bool)
  | ended

def created : State := ⟨.invalid, ⟨"", [], false⟩, []⟩

section Calls

variable (isFile : String → Bool) (paths : Paths) (s : State)

def setProgram (programId : Int) : State :=
  let program := PermittedProcess.ofId programId
  { s with
    program := program
    process := (s.process.setProgram (permittedProcessPath paths program)).setArguments [] }

def setArguments (arguments : List String) : State :=
  { s with process := s.process.setArguments (sanitizeArguments isFile s.program arguments) }

def start (runs : Bool) : State :=
  if s.process.program = "" then s
  else if s.process.arguments = [] then s
  else if s.process.running then s
  else
    { s with
      process := { s.process with running := runs }
      launches := ⟨s.program, s.process.program, s.process.arguments⟩ :: s.launches }

def step : Event → State
  | .setProgram programId => setProgram paths s programId
  | .setArguments arguments => setArguments isFile s arguments
  | .start runs => start s runs
  | .ended => { s with process := { s.process with running := false } }

def Sound (launch : Launch) : Prop :=
  launch.program = permittedProcessPath paths launch.current ∧ launch.arguments ≠ [] ∧
    Accepts (grammar isFile launch.current) 0 launch.arguments

/-- No other program is set while a process is running. -/
def Waits : Event → Prop
  | .setProgram programId => s.process.running = true → PermittedProcess.ofId programId = s.program
  | _ => True

instance : ∀ event, Decidable (Waits s event)
  | .setProgram _ => inferInstanceAs (Decidable (_ → _))
  | .setArguments _ | .start _ | .ended => isTrue trivial

/-- `QProcess` holds the program that is set, with arguments of its grammar. -/
structure Aligned : Prop where
  program : s.process.program = permittedProcessPath paths s.program
  arguments : Accepts (grammar isFile s.program) 0 s.process.arguments
  launches : ∀ launch ∈ s.launches, Sound isFile paths launch

lemma set_program_aligned (programId : Int) (aligned : Aligned isFile paths s)
    (waits : Waits s (.setProgram programId)) :
    Aligned isFile paths (setProgram paths s programId) := by
  cases running : s.process.running with
  | true =>
    -- `QProcess` ignores both calls, and the note of the program does not change
    have same : PermittedProcess.ofId programId = s.program := waits running
    have kept : setProgram paths s programId = s := by
      simp [setProgram, Process.setProgram, Process.setArguments, running, same]
    rwa [kept]
  | false =>
    have held : (setProgram paths s programId).process =
        ⟨permittedProcessPath paths (.ofId programId), [], false⟩ := by
      simp [setProgram, Process.setProgram, Process.setArguments, running]
    exact ⟨by rw [held]; rfl, by rw [held]; exact Accepts.done 0, aligned.launches⟩

lemma set_arguments_aligned (arguments : List String) (aligned : Aligned isFile paths s) :
    Aligned isFile paths (setArguments isFile s arguments) := by
  cases running : s.process.running with
  | true =>
    have kept : setArguments isFile s arguments = s := by
      simp [setArguments, Process.setArguments, running]
    rwa [kept]
  | false =>
    have held : (setArguments isFile s arguments).process =
        ⟨s.process.program, sanitizeArguments isFile s.program arguments, false⟩ := by
      simp [setArguments, Process.setArguments, running]
    exact ⟨by rw [held]; exact aligned.program,
      by rw [held]; exact sanitize_accepted isFile s.program arguments, aligned.launches⟩

lemma start_aligned (runs : Bool) (aligned : Aligned isFile paths s) :
    Aligned isFile paths (start s runs) := by
  unfold start
  split_ifs with unset empty running
  · exact aligned
  · exact aligned
  · exact aligned
  · refine ⟨aligned.program, aligned.arguments, fun launch member => ?_⟩
    rcases List.mem_cons.mp member with new | old
    · rw [new]
      exact ⟨aligned.program, empty, aligned.arguments⟩
    · exact aligned.launches launch old

lemma step_aligned (event : Event) (aligned : Aligned isFile paths s) (waits : Waits s event) :
    Aligned isFile paths (step isFile paths s event) := by
  cases event with
  | setProgram programId => exact set_program_aligned isFile paths s programId aligned waits
  | setArguments arguments => exact set_arguments_aligned isFile paths s arguments aligned
  | start runs => exact start_aligned isFile paths s runs aligned
  | ended => exact ⟨aligned.program, aligned.arguments, aligned.launches⟩

end Calls

/-- The whitelist passes a command line on unchanged exactly when the grammar
allows it, and otherwise passes nothing on. As long as no other program is set
while a process is running, every start is one of the program set with
arguments that its grammar allows. -/
theorem privileged_launches_sound (isFile : String → Bool) (paths : Paths) :
    (∀ process args,
      (sanitizeArguments isFile process args = [] ∨ sanitizeArguments isFile process args = args) ∧
      (sanitizeArguments isFile process args = args ↔ Accepts (grammar isFile process) 0 args)) ∧
    ∀ events, Guarded (step isFile paths) Waits created events →
      ∀ s, Visits (step isFile paths) created events s →
        ∀ launch ∈ s.launches, Sound isFile paths launch := by
  refine ⟨fun process args => ⟨sanitize_cases isFile process args, sanitize_iff isFile process args⟩,
    fun events guarded s visited => ?_⟩
  exact (guarded_invariant (fun s event => step_aligned isFile paths s event) created events
    ⟨rfl, Accepts.done 0, fun _ member => nomatch member⟩ guarded s visited).launches

def installed : Paths :=
  ⟨"/opt/client/openvpn", "/usr/bin/wg-quick", "", "/opt/client/tun2socks"⟩

def tunArguments : List String := ["-device", "tun://tun2"]

def secondProgram : State :=
  run (step (fun _ => false) installed) created
    [.setProgram 3, .setArguments tunArguments, .start true, .ended,
      .setProgram 1, .setArguments ["--management-client"], .start true]

theorem second_program_sound :
    secondProgram.launches.length = 2 ∧
      ∀ launch ∈ secondProgram.launches, Sound (fun _ => false) installed launch :=
  ⟨by decide,
    (privileged_launches_sound (fun _ => false) installed).2 _ (by decide) _ (visits_last _ _ _)⟩

/-- The program is set anew while OpenVPN is running. OpenVPN is then started
with the arguments of the other program. -/
theorem program_set_while_running_mixes :
    ∃ s, Visits (step (fun _ => false) installed) created
        [.setProgram 1, .setArguments ["--management-client"], .start true, .setProgram 3, .ended,
          .setArguments tunArguments, .start true] s ∧
      ⟨.tun2Socks, permittedProcessPath installed .openVpn, tunArguments⟩ ∈ s.launches ∧
      ¬ Accepts (grammar (fun _ => false) .openVpn) 0 tunArguments := by
  refine ⟨_, visits_last _ _ _, by decide, ?_⟩
  rw [← scan_iff]
  decide

end AbstractumVpn.PrivilegedProcess
