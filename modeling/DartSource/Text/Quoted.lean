/-!
# Single-quoted string literals

`quote` writes a text as a Dart string literal. Six characters are escaped: the backslash, the
quote, the dollar sign that would open an interpolation, and the three control characters that
would break the line. Every other character stands for itself.

`scan` reads such a literal back from the front of a text. It refuses a raw line break and an
unescaped dollar sign, which is what makes it a judge of `quote`: a literal that it accepts can
neither end early nor interpolate.
-/

namespace DartSource.Text

/-- The characters that stand for `c` inside a literal. -/
def escapeChar (c : Char) : List Char :=
  if c = '\\' then ['\\', '\\']
  else if c = '\x27' then ['\\', '\x27']
  else if c = '$' then ['\\', '$']
  else if c = '\n' then ['\\', 'n']
  else if c = '\r' then ['\\', 'r']
  else if c = '\t' then ['\\', 't']
  else [c]

/-- The literal for a list of characters, quotes included. -/
def quoteChars (cs : List Char) : List Char :=
  '\x27' :: (cs.flatMap escapeChar ++ ['\x27'])

/-- The literal for a text. -/
def quote (s : String) : String :=
  String.ofList (quoteChars s.toList)

/-- The character that an escape stands for, given the character after the backslash. -/
def unescape? (c : Char) : Option Char :=
  if c = '\\' then some '\\'
  else if c = '\x27' then some '\x27'
  else if c = '$' then some '$'
  else if c = 'n' then some '\n'
  else if c = 'r' then some '\r'
  else if c = 't' then some '\t'
  else none

/-- Reads the inside of a literal up to and including its closing quote. -/
def scanInside : List Char → Option (List Char × List Char)
  | [] => none
  | '\\' :: [] => none
  | '\\' :: c :: rest => do
    let d ← unescape? c
    let (text, after) ← scanInside rest
    return (d :: text, after)
  | c :: rest =>
    if c = '\x27' then some ([], rest)
    else if c = '\n' ∨ c = '\r' ∨ c = '$' then none
    else do
      let (text, after) ← scanInside rest
      return (c :: text, after)

/-- Reads a literal from the front of a text: its content, and what follows it. -/
def scan : List Char → Option (List Char × List Char)
  | '\x27' :: rest => scanInside rest
  | _ => none

end DartSource.Text
