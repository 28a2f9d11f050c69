import AbstractumVpn.JsonFields
import Mathlib.Data.List.Sort

/-!
The texts that `QJsonDocument` prints, with the keys of an object in their order,
compact or indented, and a codec that reads the texts of given documents. All
texts are ASCII, and all numbers are whole.
-/

namespace AbstractumVpn.Json

open ImportController (Bytes Codec)

def escaped (c : Char) : List Char :=
  if c = '"' ∨ c = '\\' then ['\\', c] else if c = '\n' then ['\\', 'n'] else [c]

def quoted (text : String) : List Char := '"' :: text.toList.flatMap escaped ++ ['"']

/-- The beginning of a line at this depth of an indented text. -/
def lineBreak : Option Nat → List Char
  | none => []
  | some depth => '\n' :: List.replicate (4 * depth) ' '

def listed (indent : Option Nat) (texts : List (List Char)) : List Char :=
  [','].intercalate (texts.map (lineBreak (indent.map (· + 1)) ++ ·)) ++ lineBreak indent

mutual

def chars (indent : Option Nat) : Value → List Char
  | .undefined | .null => "null".toList
  | .bool value => (if value then "true" else "false").toList
  | .double value => (toString value.num).toList
  | .string value => quoted value
  | .array items => '[' :: listed indent (itemTexts (indent.map (· + 1)) items) ++ [']']
  | .object entries =>
    let texts := (entryTexts (indent.map (· + 1)) entries).insertionSort (·.1 ≤ ·.1)
    '\x7b' :: listed indent (texts.map Prod.snd) ++ ['\x7d']

def itemTexts (indent : Option Nat) : List Value → List (List Char)
  | [] => []
  | item :: rest => chars indent item :: itemTexts indent rest

def entryTexts (indent : Option Nat) : List (String × Value) → List (String × List Char)
  | [] => []
  | (key, value) :: rest =>
    (key, quoted key ++ (if indent = none then ":" else ": ").toList ++ chars indent value) ::
      entryTexts indent rest

end

def compactText (value : Value) : String := String.ofList (chars none value)

def indentedText (value : Value) : String := String.ofList (chars (some 0) value ++ ['\n'])

example : compactText (.object [("b", .array [.string "x", .double 1]), ("a", .bool true)]) =
    "\x7b\"a\":true,\"b\":[\"x\",1]\x7d" := by decide +kernel

example : indentedText (.object [("a", .object []), ("b", .null)]) =
    "\x7b\n    \"a\": \x7b\n    \x7d,\n    \"b\": null\n\x7d\n" := by decide +kernel

def latin1 (text : String) : Bytes := text.toList.map fun c => UInt8.ofNat c.toNat

def documentCodec (documents : List Object) : Codec where
  toUtf8 := latin1
  fromUtf8 bytes := String.ofList (bytes.map fun byte => Char.ofNat byte.toNat)
  toLocal8Bit := latin1
  fromBase64 bytes := bytes
  qUncompress _ := []
  fromJson bytes := (documents.find? fun document =>
    bytes = latin1 (compactText (.object document)) ∨
      bytes = latin1 (indentedText (.object document))).map .object
  toJson := indentedText
  compact := compactText

section Documents

variable (document : Object) (rest : List Object)

lemma read_compact : (documentCodec (document :: rest)).fromJson
    (latin1 (compactText (.object document))) = some (.object document) := by
  simp [documentCodec]

lemma read_indented : (documentCodec (document :: rest)).fromJson
    (latin1 (indentedText (.object document))) = some (.object document) := by
  simp [documentCodec]

lemma read_listed {documents : List Object} {bytes : Bytes} {value : Value}
    (read : (documentCodec documents).fromJson bytes = some value) :
    ∃ document ∈ documents, value = .object document := by
  obtain ⟨document, found, rfl⟩ := Option.map_eq_some_iff.mp read
  exact ⟨document, List.mem_of_find?_eq_some found, rfl⟩

lemma latin1_ofList (text : List Char) :
    latin1 (String.ofList text) = text.map fun c => UInt8.ofNat c.toNat := by
  rw [latin1, String.toList_ofList]

lemma latin1_compact : ∃ bytes, latin1 (compactText (.object document)) = 0x7b :: bytes :=
  ⟨_, by rw [compactText, latin1_ofList, chars]; rfl⟩

lemma latin1_indented : ∃ bytes, latin1 (indentedText (.object document)) = 0x7b :: bytes :=
  ⟨_, by rw [indentedText, latin1_ofList, chars]; rfl⟩

lemma compactText_ne : compactText (.object document) ≠ "" := by
  intro empty
  obtain ⟨bytes, first⟩ := latin1_compact document
  rw [empty] at first
  cases first

lemma reads_first : ReadsBack (documentCodec (document :: rest)) document :=
  ⟨compactText_ne document, read_compact document rest⟩

lemma read_blank (documents : List Object) : (documentCodec documents).fromJson [] = none := by
  rw [documentCodec, Option.map_eq_none_iff, List.find?_eq_none]
  intro document _
  obtain ⟨compact, first⟩ := latin1_compact document
  obtain ⟨indented, second⟩ := latin1_indented document
  simp [first, second]

lemma read_later {text : String} (other : latin1 text ≠ latin1 (compactText (.object document)) ∧
      latin1 text ≠ latin1 (indentedText (.object document))) :
    (documentCodec (document :: rest)).fromJson (latin1 text) =
      (documentCodec rest).fromJson (latin1 text) := by
  simp [documentCodec, List.find?_cons, other.1, other.2]

lemma reads_second (second : Object)
    (other : latin1 (compactText (.object second)) ≠ latin1 (compactText (.object document)) ∧
      latin1 (compactText (.object second)) ≠ latin1 (indentedText (.object document))) :
    ReadsBack (documentCodec (document :: second :: rest)) second :=
  ⟨compactText_ne second, (read_later document (second :: rest) other).trans
    (read_compact second rest)⟩

end Documents

end AbstractumVpn.Json
