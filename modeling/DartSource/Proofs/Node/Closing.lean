import DartSource.Declaration.Basic
import DartSource.Proofs.Layout.Framed

/-!
# How declarations end

A declaration is **closed**: the last thing it writes is a line that ends with a semicolon or with a
closing brace (`Declaration.closed_fragments`). So whatever is put behind a declaration starts on a
line of its own, and an empty line behind it is one empty line, whatever texts the declaration was
given. A text that brings lines of its own, as an arrow expression may, ends in the line that its
semicolon stands on (`Fragment.exists_ofText_concat`).
-/

namespace DartSource

namespace Text

/-- The line ends with a semicolon or a closing brace. -/
def Closes (line : String) : Prop :=
  ∃ front, line = front ++ ";" ∨ line = front ++ "\x7d"

theorem closes_semicolon (front : String) : Closes (front ++ ";") :=
  ⟨front, .inl rfl⟩

theorem closes_brace (front : String) : Closes (front ++ "\x7d") :=
  ⟨front, .inr rfl⟩

theorem Closes.behind {line : String} (h : Closes line) (front : String) :
    Closes (front ++ line) := by
  obtain ⟨before, rfl | rfl⟩ := h
  · rw [← String.append_assoc]
    exact closes_semicolon _
  · rw [← String.append_assoc]
    exact closes_brace _

/-- The last line of the text closes it, and a line feed stands behind that line. -/
def Closed (text : String) : Prop :=
  ∃ line, Closes line ∧ text = line ++ "\n"

theorem Closed.ne_empty {text : String} (h : Closed text) : text ≠ "" := by
  obtain ⟨line, -, rfl⟩ := h
  intro hempty
  have hlength := congrArg String.length hempty
  rw [String.length_append] at hlength
  exact absurd hlength (by simp)

end Text

namespace Fragment

/-- The last piece of the fragments is a line that closes them. -/
def Closed (fragments : List Fragment) : Prop :=
  ∃ front depth line, piecesOf fragments = front ++ [⟨depth, .line line⟩] ∧ Text.Closes line

/-- Closed fragments are written as a closed text, in any indentation and at any level. -/
theorem Closed.text {fragments : List Fragment} (h : Closed fragments) (unit : String)
    (level : Nat) : Text.Closed (Piece.join unit level (piecesOf fragments)) := by
  obtain ⟨front, depth, line, hpieces, hcloses⟩ := h
  refine ⟨Piece.join unit level front ++ (Piece.margin unit (level + depth) ++ line), ?_, ?_⟩
  · exact (hcloses.behind _).behind _
  · -- the last piece is its margin, the line and the line feed
    have hlast : Piece.text unit level ⟨depth, .line line⟩ =
        Piece.margin unit (level + depth) ++ line ++ "\n" := rfl
    rw [hpieces, Piece.join_append, Piece.join_cons, Piece.join_nil, String.append_empty, hlast,
      ← String.append_assoc]

theorem Closed.written {fragments : List Fragment} (h : Closed fragments) (indent : Indent) :
    Text.Closed (written indent fragments) := by
  rw [written_eq_join]
  exact h.text indent.unit 0

/-- Only the end counts. -/
theorem Closed.behind {rest : List Fragment} (h : Closed rest) (front : List Fragment) :
    Closed (front ++ rest) := by
  obtain ⟨before, depth, line, hpieces, hcloses⟩ := h
  refine ⟨piecesOf front ++ before, depth, line, ?_, hcloses⟩
  rw [piecesOf_append, hpieces, List.append_assoc]

theorem closed_line {line : String} (h : Text.Closes line) : Closed [.line line] :=
  ⟨[], 0, line, rfl, h⟩

/-- A block is closed by its brace. -/
theorem closed_block (header : String) (body : List Fragment) :
    Closed [.block header body (some "\x7d")] := by
  refine ⟨⟨0, .line header⟩ :: (piecesOf body).map Piece.deepen, 0, "\x7d", ?_, ?_⟩
  · rw [piecesOf_cons, piecesOf_nil, List.append_nil, pieces, Option.toList_some,
      List.map_singleton]
  · exact ⟨"", .inr String.empty_append.symm⟩

theorem closed_braced (header : String) (body : List Fragment) : Closed [braced header body] := by
  unfold braced
  split
  · -- both braces stand on the line of the header
    have hbraces : header ++ " \x7b\x7d" = header ++ " \x7b" ++ "\x7d" := by
      have hsplit : " \x7b\x7d" = " \x7b" ++ "\x7d" := by decide
      rw [hsplit, String.append_assoc]
    rw [hbraces]
    exact closed_line (Text.closes_brace _)
  · exact closed_block _ body

/-- The semicolon behind a text stands on the last of its lines, which is therefore no empty one. -/
theorem exists_ofText_concat (text : String) :
    ∃ before last, ofText (text ++ ";") = before ++ [.line (last ++ ";")] := by
  obtain ⟨before, last, hlines⟩ :=
    Text.exists_lineChars_concat (by decide : ';' ≠ '\n') text.toList
  have hvisible : ¬Text.allBlank (String.ofList last ++ ";") = true := by
    have hmark : Text.allBlank ";" = false := by decide
    rw [Text.allBlank_append, hmark, Bool.and_false]
    exact Bool.false_ne_true
  refine ⟨before.map fun line => ofLine (String.ofList line), String.ofList last, ?_⟩
  calc ofText (text ++ ";")
    _ = (Text.lineChars (text.toList ++ [';'])).map fun line => ofLine (String.ofList line) := by
      unfold ofText Text.lines
      rw [String.toList_append, List.map_map]
      rfl
    _ = (before.map fun line => ofLine (String.ofList line)) ++
          [ofLine (String.ofList last ++ ";")] := by
      rw [hlines, List.map_append, List.map_singleton, String.ofList_append]
    _ = (before.map fun line => ofLine (String.ofList line)) ++
          [.line (String.ofList last ++ ";")] := by
      rw [ofLine, if_neg hvisible]

end Fragment

/-! ### Bodies and declarations -/

/-- Whatever the body, a semicolon or a brace comes last. -/
theorem Body.closed_attach (signature : String) (body : Option Body) :
    Fragment.Closed (attach signature body) := by
  cases body with
  | none => exact Fragment.closed_line (Text.closes_semicolon signature)
  | some body =>
    cases body with
    | arrow expression =>
      obtain ⟨before, last, htext⟩ :=
        Fragment.exists_ofText_concat (signature ++ " => " ++ Text.trim expression)
      rw [attach, htext]
      exact (Fragment.closed_line (Text.closes_semicolon last)).behind before
    | block text =>
      rw [attach]
      split
      · exact Fragment.closed_braced signature []
      · exact Fragment.closed_block _ _

/-- **Every declaration is closed.** -/
theorem Declaration.closed_fragments (declaration : Declaration) :
    Fragment.Closed declaration.fragments := by
  cases declaration with
  | classDecl decl => exact (Fragment.closed_braced _ _).behind _
  | enumDecl decl => exact (Fragment.closed_braced _ _).behind _
  | mixinDecl decl => exact (Fragment.closed_braced _ _).behind _
  | extensionDecl decl => exact (Fragment.closed_braced _ _).behind _
  | functionDecl decl => exact (Body.closed_attach _ _).behind _
  | «variable» decl => exact (Fragment.closed_line (Text.closes_semicolon _)).behind _

end DartSource
