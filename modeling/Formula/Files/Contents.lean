import Formula.Fault
import Formula.Files.Snapshot

/-! The contents of files as text. A text file holds UTF-8, and a carriage return, with or without a
line feed behind it, ends a line as a line feed does. -/
namespace Formula.Files

/-- The text of a file, in which every line ends with a line feed. -/
def decodeText (bytes : List UInt8) : Except Fault (List Char) :=
  match Text.decode bytes with
  | .ok text => .ok (Text.unifyLineEnds text)
  | .error cause => .error (.undecodable cause)

end Formula.Files
