import DartSource.Text.Blank

/-!
# Identifiers, reserved words and base types

Dart's identifiers are ASCII: a letter, `_` or `$`, then letters, digits, `_` or `$`. A reserved
word has the form of an identifier and still names nothing, so the two tests are kept apart: a
caller that needs a usable name asks both, in this order.

The **base type** of a type text is what stands before its type arguments and its nullability mark:
`List<int>?` has the base type `List`.
-/

namespace DartSource.Text

/-- A character that may open an identifier. -/
def isIdentifierStart (c : Char) : Bool :=
  c.isAlpha || c == '_' || c == '$'

/-- A character that may stand inside an identifier. -/
def isIdentifierPart (c : Char) : Bool :=
  c.isAlphanum || c == '_' || c == '$'

/-- The text has the form of an identifier. -/
def isIdentifier (s : String) : Bool :=
  match s.toList with
  | [] => false
  | c :: rest => isIdentifierStart c && rest.all isIdentifierPart

/-- The words that the language keeps for itself. -/
def reservedWords : List String :=
  ["assert", "break", "case", "catch", "class", "const", "continue", "default", "do", "else",
   "enum", "extends", "false", "final", "finally", "for", "if", "in", "is", "new", "null",
   "rethrow", "return", "super", "switch", "this", "throw", "true", "try", "var", "void", "while",
   "with"]

/-- The text is a reserved word. -/
def isReserved (s : String) : Bool :=
  reservedWords.contains s

/-- The name of a type without type arguments and nullability mark: the trimmed text up to the
first `<` or `?`, without the blanks that this cut leaves at its end. -/
def baseType (s : String) : String :=
  String.ofList <|
    dropEndWhile isBlank ((trimChars s.toList).takeWhile fun c => c != '<' && c != '?')

end DartSource.Text
