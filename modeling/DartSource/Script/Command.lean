import DartSource.Text.Lossy

/-!
# Commands of scripts

Formatters that are programs take the behaviour of programs as a parameter
(`ExternalFormatter.formatter`). The modules under `Script` are one choice of it: the core of the
shell's language, and a few of the tools that scripts call. The rest of the library does not depend
on the choice.

This module holds what a script is made of. A word is a row of pieces, because most of what it says
is known only when the script runs. A piece remembers whether it stood in quotes, since what stands
there is neither split nor taken for a pattern.

Scripts work on bytes. Throughout these modules a character stands for the byte of its number, and
`ofBytes` and `toBytes` go back and forth.
-/

namespace DartSource.Script

/-- Bytes as characters. -/
def ofBytes (bytes : List UInt8) : List Char :=
  bytes.map fun byte => Char.ofNat byte.toNat

/-- The bytes that characters stand for. -/
def toBytes (chars : List Char) : List UInt8 :=
  chars.map fun c => UInt8.ofNat c.toNat

/-- The lines of a text with their ends, which the last one may lack. -/
def endedLines (text : List Char) : List (List Char) :=
  text.foldr (fun c lines =>
    if c = '\n' then ['\n'] :: lines
    else
      match lines with
      | [] => [[c]]
      | line :: more => (c :: line) :: more) []

/-- A line without its end. -/
def withoutEnd (line : List Char) : List Char := line.takeWhile (· != '\n')

/-- The number that digits denote, if there are any and nothing else. -/
def number? (base : Nat) (digits : List Char) : Option Nat :=
  if digits.isEmpty then none
  else digits.foldlM (fun n c =>
    if c.isDigit ∧ c.toNat - '0'.toNat < base then some (base * n + (c.toNat - '0'.toNat))
    else none) 0

/-- What is done with the value of a parameter. The flag says whether an empty value counts as
missing, or whether the longest match is meant. -/
inductive Form where
  /-- The value itself. -/
  | plain
  /-- The number of characters. -/
  | length
  /-- The operand if the value is missing, which may become the value. -/
  | fallback (orEmpty assigns : Bool)
  /-- The operand unless the value is missing. -/
  | replace (orEmpty : Bool)
  /-- The value without a match of the operand at its front. -/
  | dropFront (longest : Bool)
  /-- The value without a match of the operand at its back. -/
  | dropBack (longest : Bool)
  deriving DecidableEq, Repr, Inhabited

/-- How a file is opened. -/
inductive Access where
  | read
  | write
  | append
  deriving DecidableEq, Repr, Inhabited

mutual

/-- A part of a word. -/
inductive Piece where
  | text (chars : List Char) (quoted : Bool)
  | param (name : String) (form : Form) (operand : List Piece) (quoted : Bool)
  /-- The output of commands. -/
  | output (body : List Command) (quoted : Bool)
  /-- The result of a calculation. -/
  | number (expression : List Piece) (quoted : Bool)

/-- What the number of a stream stands for while a command runs. -/
inductive Redirect where
  | file (number : Nat) (access : Access) (path : List Piece)
  /-- Whatever another number stands for, or nothing if that is a dash. -/
  | same (number : Nat) (other : List Piece)
  /-- A document that stands in the script. -/
  | document (number : Nat) (text : List Piece)

/-- A command. -/
inductive Command where
  /-- Assignments, words and redirections, with so many line ends of the script behind them. -/
  | simple (linesLeft : Nat) (assignments : List (String × List Piece))
      (words : List (List Piece)) (redirects : List Redirect)
  /-- Commands in braces. -/
  | group (body : List Command)
  /-- Commands that leave no trace in the script's own state. -/
  | subshell (body : List Command)
  /-- Commands under a condition. -/
  | branch (condition body otherwise : List Command)
  /-- Commands that are repeated as long as a condition succeeds, or fails. -/
  | loop (whileFails : Bool) (condition body : List Command)
  /-- Commands for each of some words, or of the arguments. -/
  | each (name : String) (words : Option (List (List Piece))) (body : List Command)
  /-- Commands by the first pattern that a word matches. -/
  | choose (subject : List Piece) (arms : List (List (List Piece) × List Command))
  /-- A new command by its name. -/
  | define (name : String) (body : Command)
  | redirected (command : Command) (redirects : List Redirect)
  /-- Commands of which each reads what the one before it writes. -/
  | pipeline (stages : List Command)
  /-- Success for failure and failure for success. -/
  | negated (command : Command)
  /-- The second only if the first succeeds, or only if it fails. -/
  | chain (ifFirst : Bool) (first second : Command)

end

end DartSource.Script
