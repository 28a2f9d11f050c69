import AbstractumVpn.LineBuffer
import AbstractumVpn.Runs

/-!
How the daemon and the client cut the bytes of their local socket into commands,
both in `readData`, which keeps `m_buffer` from one call to the next. The
commands are recorded in the order in which they are parsed.
-/

namespace AbstractumVpn.SocketFraming

open LineBuffer

abbrev Bytes := List UInt8

abbrev Input := { bytes : Bytes // bytes ≠ [] }

def newline : UInt8 := 10

def isSpace (byte : UInt8) : Bool := (9 ≤ byte && byte ≤ 13) || byte == 32

def trimmed (line : Bytes) : Bytes :=
  ((line.dropWhile isSpace).reverse.dropWhile isSpace).reverse

@[ext] structure Endpoint where
  parsed : List Bytes
  m_buffer : Bytes
  deriving DecidableEq

def Endpoint.initial : Endpoint := ⟨[], []⟩

def Endpoint.parseLine (endpoint : Endpoint) (line : Bytes) : Endpoint :=
  let command := trimmed line
  if command.isEmpty then endpoint else { endpoint with parsed := endpoint.parsed ++ [command] }

variable (endpoint : Endpoint)

@[simp] lemma parseLine_buffer (line : Bytes) :
    (endpoint.parseLine line).m_buffer = endpoint.m_buffer := by
  rw [Endpoint.parseLine]
  split <;> rfl

namespace Daemon

/-- `readData`. The socket is what its successive `readAll` give until it is empty;
the loop leaves what it has not read. -/
def readData (endpoint : Endpoint) (socket : List Input) : Endpoint × List Input :=
  match found : takeLine newline endpoint.m_buffer with
  | none =>
    match socket with
    | [] => (endpoint, [])
    | input :: later =>
      readData { endpoint with m_buffer := endpoint.m_buffer ++ input.val } later
  | some (line, left) =>
    have := takeLine_shorter found
    readData ({ endpoint with m_buffer := left }.parseLine line) socket
termination_by (socket.length, endpoint.m_buffer.length)

def receive (endpoint : Endpoint) (socket : List Input) : Endpoint :=
  (readData endpoint socket).1

end Daemon

namespace Client

def parseLines (endpoint : Endpoint) : Endpoint :=
  match found : takeLine newline endpoint.m_buffer with
  | none => endpoint
  | some (line, left) =>
    have := takeLine_shorter found
    parseLines ({ endpoint with m_buffer := left }.parseLine line)
termination_by endpoint.m_buffer.length

def readData (endpoint : Endpoint) (input : Bytes) : Endpoint :=
  parseLines { endpoint with m_buffer := endpoint.m_buffer ++ input }

end Client

def commands (text : Bytes) : List Bytes :=
  ((lines newline text).map trimmed).filter (! ·.isEmpty)

def framed (endpoint : Endpoint) (text : Bytes) : Endpoint :=
  ⟨endpoint.parsed ++ commands (endpoint.m_buffer ++ text),
    remainder newline (endpoint.m_buffer ++ text)⟩

lemma framed_initial (text : Bytes) :
    framed .initial text = ⟨commands text, remainder newline text⟩ := rfl

lemma framed_absent {endpoint : Endpoint} (absent : newline ∉ endpoint.m_buffer) :
    framed endpoint [] = endpoint := by
  rw [framed, List.append_nil, commands, (lines_absent absent).1, (lines_absent absent).2]
  simp

lemma framed_line {endpoint : Endpoint} {line left : Bytes}
    (found : takeLine newline endpoint.m_buffer = some (line, left)) (text : Bytes) :
    framed ({ endpoint with m_buffer := left }.parseLine line) text = framed endpoint text := by
  obtain ⟨absent, buffer⟩ := takeLine_some found
  have split : endpoint.m_buffer ++ text = line ++ newline :: (left ++ text) := by
    rw [buffer, List.append_assoc, List.cons_append]
  rw [framed, framed, split, commands, commands, (lines_front absent _).1, (lines_front absent _).2,
    parseLine_buffer, List.map_cons]
  by_cases blank : (trimmed line).isEmpty
  · simp [Endpoint.parseLine, blank]
  · simp [Endpoint.parseLine, blank]

lemma framed_framed (front back : Bytes) :
    framed (framed endpoint front) back = framed endpoint (front ++ back) := by
  obtain ⟨parts, left⟩ := lines_append newline (endpoint.m_buffer ++ front) back
  apply Endpoint.ext
  · change (_ ++ commands _) ++ commands _ = _ ++ commands _
    rw [← List.append_assoc endpoint.m_buffer, List.append_assoc, commands, commands, commands,
      parts, List.map_append, List.filter_append]
    rfl
  · change remainder _ _ = remainder _ _
    rw [← List.append_assoc endpoint.m_buffer, left]
    rfl

def received (socket : List Input) : Bytes := (socket.map Subtype.val).flatten

/-- The loop parses every line of what it has read, and has read everything. -/
lemma Daemon.readData_eq (socket : List Input) :
    readData endpoint socket = (framed endpoint (received socket), []) := by
  -- the cases of the loop: the socket is empty, it is read, a line is cut off
  fun_induction readData endpoint socket with
  | case1 endpoint found =>
    rw [received, List.map_nil, List.flatten_nil, framed_absent (takeLine_none found)]
  | case2 endpoint found input later ih =>
    rw [ih, framed, framed, List.append_assoc]
    rfl
  | case3 socket endpoint line left found shorter ih => rw [ih, framed_line found]

lemma Client.parseLines_eq : parseLines endpoint = framed endpoint [] := by
  fun_induction parseLines endpoint with
  | case1 endpoint found => rw [framed_absent (takeLine_none found)]
  | case2 endpoint line left found shorter ih => rw [ih, framed_line found]

lemma Client.readData_eq (input : Bytes) : readData endpoint input = framed endpoint input := by
  rw [readData, parseLines_eq, framed, framed, List.append_nil]

/-- An endpoint that frames each call frames the whole of them. -/
lemma run_framed {Call : Type} {step : Endpoint → Call → Endpoint} {bytes : Call → Bytes}
    (frames : ∀ endpoint call, step endpoint call = framed endpoint (bytes call))
    (calls : List Call) (text : Bytes) :
    Runs.run step (framed .initial text) calls =
      framed .initial (text ++ (calls.map bytes).flatten) := by
  induction calls generalizing text with
  | nil => rw [Runs.run_nil, List.map_nil, List.flatten_nil, List.append_nil]
  | cons call rest ih =>
    rw [Runs.run_cons, frames, framed_framed, ih, List.map_cons, List.flatten_cons,
      List.append_assoc]

lemma Daemon.run_eq (calls : List (List Input)) :
    Runs.run receive .initial calls = framed .initial ((calls.map received).flatten) := by
  have frames : ∀ endpoint socket, receive endpoint socket = framed endpoint (received socket) := by
    intro endpoint socket
    rw [receive, readData_eq]
  exact run_framed frames calls []

lemma Client.run_eq (inputs : List Bytes) :
    Runs.run readData .initial inputs = framed .initial inputs.flatten := by
  have whole := run_framed readData_eq inputs []
  rw [List.map_id'] at whole
  exact whole

/-- The commands are those of the bytes that were received, however they were split
into reads, on both sides; and the daemon's loop ends with an empty socket. -/
theorem framing_ignores_read_boundaries :
    (∀ calls : List (List Input), Runs.run Daemon.receive .initial calls =
      ⟨commands (calls.map received).flatten, remainder newline (calls.map received).flatten⟩) ∧
    (∀ inputs : List Bytes, Runs.run Client.readData .initial inputs =
      ⟨commands inputs.flatten, remainder newline inputs.flatten⟩) ∧
    (∀ calls others : List (List Input),
      (calls.map received).flatten = (others.map received).flatten →
      Runs.run Daemon.receive .initial calls = Runs.run Daemon.receive .initial others) ∧
    (∀ inputs others : List Bytes, inputs.flatten = others.flatten →
      Runs.run Client.readData .initial inputs = Runs.run Client.readData .initial others) ∧
    ∀ endpoint socket, (Daemon.readData endpoint socket).2 = [] := by
  refine ⟨?_, ?_, ?_, ?_, ?_⟩
  · intro calls
    rw [Daemon.run_eq, framed_initial]
  · intro inputs
    rw [Client.run_eq, framed_initial]
  · intro calls others same
    rw [Daemon.run_eq, Daemon.run_eq, same]
  · intro inputs others same
    rw [Client.run_eq, Client.run_eq, same]
  · intro endpoint socket
    rw [Daemon.readData_eq]

def Input.of (first : UInt8) (others : Bytes) : Input :=
  ⟨first :: others, List.cons_ne_nil first others⟩

def twoReads : List (List Input) := [[.of 97 []], [.of 13 [10, 32], .of 10 [98]]]

def oneRead : List (List Input) := [[.of 97 [13, 10, 32, 10, 98]]]

/-- The bytes of `a`, a blank line and `b`, split in the middle of a line. -/
theorem framing_of_two_reads :
    Runs.run Daemon.receive .initial twoReads = ⟨[[97]], [98]⟩ ∧
      Runs.run Daemon.receive .initial twoReads = Runs.run Daemon.receive .initial oneRead :=
  ⟨framing_ignores_read_boundaries.1 twoReads,
    framing_ignores_read_boundaries.2.2.1 twoReads oneRead rfl⟩

/-- The compact text of a JSON object, from its opening to its closing brace. -/
def compact (inner : Bytes) : Bytes := 123 :: inner ++ [125]

def write (inner : Bytes) : Bytes := compact inner ++ [newline]

lemma framed_write {inner : Bytes} (one_line : newline ∉ inner) (rest : Bytes) :
    framed .initial (write inner ++ rest) =
      ⟨compact inner :: (framed .initial rest).parsed, (framed .initial rest).m_buffer⟩ := by
  have absent : newline ∉ compact inner := by
    simpa [compact, newline] using one_line
  have kept : trimmed (compact inner) = compact inner := by
    simp [trimmed, compact, isSpace]
  have some_bytes : compact inner ≠ [] := List.cons_ne_nil _ _
  rw [write, List.append_assoc, List.singleton_append, framed_initial, commands,
    (lines_front absent rest).1, (lines_front absent rest).2]
  simp [kept, some_bytes, framed_initial, commands]

lemma framed_writes (objects : List Bytes) (one_line : ∀ inner ∈ objects, newline ∉ inner) :
    framed .initial (objects.flatMap write) = ⟨objects.map compact, []⟩ := by
  induction objects with
  | nil => rfl
  | cons inner rest ih =>
    rw [List.forall_mem_cons] at one_line
    rw [List.flatMap_cons, framed_write one_line.1, ih one_line.2]
    rfl

/-- Both sides parse the objects that were written, in their order, as far as their bytes have
arrived: at any time a front of them, and all of them in the end. -/
theorem written_objects_arrive (objects : List Bytes) (one_line : ∀ inner ∈ objects, newline ∉ inner)
    (calls : List (List Input)) (inputs : List Bytes) (rest : Bytes)
    (sent : (calls.map received).flatten ++ rest = objects.flatMap write)
    (same : inputs.flatten = (calls.map received).flatten) :
    (Runs.run Daemon.receive .initial calls).parsed <+: objects.map compact ∧
      (rest = [] → Runs.run Daemon.receive .initial calls = ⟨objects.map compact, []⟩) ∧
      Runs.run Client.readData .initial inputs = Runs.run Daemon.receive .initial calls := by
  have whole := framed_writes objects one_line
  rw [Client.run_eq, Daemon.run_eq, same]
  rw [← sent, ← framed_framed] at whole
  refine ⟨?_, ?_, rfl⟩
  · exact ⟨_, congrArg Endpoint.parsed whole⟩
  · rintro rfl
    rw [← whole, framed_framed, List.append_nil]

/-- Two objects: the first one is split inside its name, and the second one is begun by the
read that ends the first. -/
theorem two_objects_arrive :
    let calls := [[Input.of 123 [34, 97]], [.of 34 [58, 49], .of 125 [10, 123, 34]],
      [.of 98 [34, 58, 50, 125, 10]]]
    let inputs := [[123, 34, 97, 34, 58], [49, 125, 10, 123, 34, 98, 34, 58, 50], [125, 10]]
    Runs.run Daemon.receive .initial calls =
        ⟨[[123, 34, 97, 34, 58, 49, 125], [123, 34, 98, 34, 58, 50, 125]], []⟩ ∧
      Runs.run Client.readData .initial inputs = Runs.run Daemon.receive .initial calls ∧
      (Runs.run Daemon.receive .initial (calls.take 2)).parsed <+:
        [[123, 34, 97, 34, 58, 49, 125], [123, 34, 98, 34, 58, 50, 125]] := by
  intro calls inputs
  have arrive := written_objects_arrive [[34, 97, 34, 58, 49], [34, 98, 34, 58, 50]] (by decide)
  obtain ⟨-, all, same⟩ := arrive calls inputs [] rfl rfl
  exact ⟨all rfl, same, (arrive (calls.take 2) [[123, 34, 97, 34, 58, 49, 125, 10, 123, 34]]
    [98, 34, 58, 50, 125, 10] rfl rfl).1⟩

end AbstractumVpn.SocketFraming
