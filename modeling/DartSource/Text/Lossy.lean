/-!
# Reading bytes as text

Bytes are read one at a time as an encoding in which a character takes one to four bytes. Bytes
that cannot be read become the replacement character: one for each longest run of bytes that could
have been the beginning of a character. So no text is refused, and text that is well formed is
read as it stands.
-/

namespace DartSource.Text

/-- The character that stands for bytes that cannot be read. -/
def replacement : Char := '\ufffd'

/-- A character of which some bytes are still to come. -/
structure PartialChar where
  /-- How many bytes are still to come. -/
  owed : Nat
  /-- The least that the next byte may be. -/
  low : Nat
  /-- The greatest that the next byte may be. -/
  high : Nat
  /-- What the bytes so far amount to. -/
  value : Nat
  deriving DecidableEq, Repr

/-- What the first byte of a character of more than one byte announces. -/
def announce? (byte : Nat) : Option PartialChar :=
  if 0xC2 ≤ byte ∧ byte ≤ 0xDF then some ⟨1, 0x80, 0xBF, byte - 0xC0⟩
  else if byte = 0xE0 then some ⟨2, 0xA0, 0xBF, 0⟩
  else if byte = 0xED then some ⟨2, 0x80, 0x9F, 0xD⟩
  else if 0xE1 ≤ byte ∧ byte ≤ 0xEF then some ⟨2, 0x80, 0xBF, byte - 0xE0⟩
  else if byte = 0xF0 then some ⟨3, 0x90, 0xBF, 0⟩
  else if 0xF1 ≤ byte ∧ byte ≤ 0xF3 then some ⟨3, 0x80, 0xBF, byte - 0xF0⟩
  else if byte = 0xF4 then some ⟨3, 0x80, 0x8F, 4⟩
  else none

/-- Reads a byte that starts a character: the characters that are complete, and one that is not. -/
def startChar (byte : Nat) : List Char × Option PartialChar :=
  if byte < 0x80 then ([Char.ofNat byte], none)
  else
    match announce? byte with
    | some begun => ([], some begun)
    | none => ([replacement], none)

/-- Reads a byte behind the beginning of a character. -/
def continueChar (begun : PartialChar) (byte : Nat) : List Char × Option PartialChar :=
  if begun.low ≤ byte ∧ byte ≤ begun.high then
    let value := 64 * begun.value + (byte - 0x80)
    if begun.owed ≤ 1 then ([Char.ofNat value], none)
    else ([], some ⟨begun.owed - 1, 0x80, 0xBF, value⟩)
  else
    let (chars, begun) := startChar byte
    (replacement :: chars, begun)

/-- The characters of bytes that follow the beginning of one, if there is any. -/
def lossyChars : Option PartialChar → List UInt8 → List Char
  | none, [] => []
  | some _, [] => [replacement]
  | none, byte :: rest =>
    let (chars, begun) := startChar byte.toNat
    chars ++ lossyChars begun rest
  | some begun, byte :: rest =>
    let (chars, begun) := continueChar begun byte.toNat
    chars ++ lossyChars begun rest

/-- The text of bytes. -/
def ofBytes (bytes : List UInt8) : String :=
  String.ofList (lossyChars none bytes)

/-- The bytes of a text. -/
def toBytes (text : String) : List UInt8 :=
  text.toUTF8.toList

end DartSource.Text
