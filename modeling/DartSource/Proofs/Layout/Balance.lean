import DartSource.Proofs.Brackets
import DartSource.Proofs.Layout.Pieces

/-!
# Balance of fragments

Indentation and line ends are no brackets, so the brackets of a rendered text are those of its
pieces, in the order of the pieces and at whatever depth these stand. Fragments are **balanced**
when the brackets of all their pieces together form a Dyck word. A single piece need not be
balanced: a block opens a brace on its first line and closes it on its last.
-/

namespace DartSource

open Brackets (Dyck)

namespace Piece

/-- The brackets of a piece. -/
def brackets (piece : Piece) : List Char :=
  match piece.stretch with
  | .line text => Brackets.of text
  | .blank => []
  | .raw text => Brackets.of text

@[simp] theorem brackets_deepen (piece : Piece) : piece.deepen.brackets = piece.brackets := rfl

theorem of_margin {unit : String} (hunit : Brackets.of unit = []) (level : Nat) :
    Brackets.of (margin unit level) = [] := by
  unfold margin
  induction level with
  | zero => rfl
  | succ level ih =>
    rw [List.replicate_succ, String.join_cons, Brackets.of_append, hunit, ih, List.append_nil]

/-- Indentation adds no brackets. -/
theorem of_text {unit : String} (hunit : Brackets.of unit = []) (level : Nat) (piece : Piece) :
    Brackets.of (piece.text unit level) = piece.brackets := by
  obtain ⟨depth, stretch⟩ := piece
  cases stretch with
  | line text =>
    have hline : Brackets.of (margin unit (level + depth) ++ text ++ "\n") = Brackets.of text := by
      rw [Brackets.of_append, Brackets.of_append, of_margin hunit, List.nil_append]
      exact List.append_nil _
    exact hline
  | blank =>
    have hblank : Brackets.of "\n" = [] := by decide
    exact hblank
  | raw text => rfl

/-- The brackets of a rendered text are those of its pieces. -/
theorem of_join {unit : String} (hunit : Brackets.of unit = []) (level : Nat)
    (pieces : List Piece) :
    Brackets.of (join unit level pieces) = pieces.flatMap brackets := by
  induction pieces with
  | nil => rfl
  | cons piece rest ih =>
    rw [join_cons, Brackets.of_append, of_text hunit, ih, List.flatMap_cons]

end Piece

theorem Indent.of_unit (indent : Indent) : Brackets.of indent.unit = [] := by
  cases indent with
  | spaces count =>
    unfold unit
    rw [Brackets.of_ofList, List.filter_replicate_of_neg (by decide)]
  | tab => decide

namespace Fragment

/-- The brackets of fragments. -/
def brackets (fragments : List Fragment) : List Char :=
  (piecesOf fragments).flatMap Piece.brackets

@[simp] theorem brackets_nil : brackets [] = [] := rfl

theorem brackets_append (front rest : List Fragment) :
    brackets (front ++ rest) = brackets front ++ brackets rest := by
  unfold brackets
  rw [piecesOf_append, List.flatMap_append]

theorem brackets_cons (fragment : Fragment) (rest : List Fragment) :
    brackets (fragment :: rest) = brackets [fragment] ++ brackets rest :=
  brackets_append [fragment] rest

@[simp] theorem brackets_line (text : String) : brackets [.line text] = Brackets.of text :=
  List.append_nil _

@[simp] theorem brackets_raw (text : String) : brackets [.raw text] = Brackets.of text :=
  List.append_nil _

@[simp] theorem brackets_blank : brackets [.blank] = [] := rfl

theorem of_docLine (text : String) : Brackets.of (docLine text) = Brackets.of text := by
  unfold docLine
  by_cases htext : text = ""
  · rw [if_pos htext, htext]
    rfl
  · rw [if_neg htext, Brackets.of_append]
    rfl

/-- The marks of a doc comment are no brackets. -/
@[simp] theorem brackets_doc (text : String) : brackets [.doc text] = Brackets.of text := by
  unfold brackets
  rw [piecesOf_cons, piecesOf_nil, List.append_nil, pieces, List.flatMap_map]
  refine Eq.trans ?_ (Brackets.flatMap_lines text)
  congr 1
  funext line
  exact of_docLine line

/-- A block has the brackets of its header, its body and its closing line. -/
theorem brackets_block (header : String) (body : List Fragment) (close : String) :
    brackets [.block header body (some close)] =
      Brackets.of header ++ brackets body ++ Brackets.of close := by
  unfold brackets
  rw [piecesOf_cons, piecesOf_nil, List.append_nil, pieces, List.flatMap_append, List.flatMap_cons,
    List.flatMap_map]
  simp only [Piece.brackets_deepen]
  rw [Option.toList_some, List.map_singleton, List.flatMap_singleton]
  rfl

theorem brackets_ofLine (text : String) : brackets [ofLine text] = Brackets.of text := by
  unfold ofLine
  by_cases hblank : Text.allBlank text = true
  · -- a line of blanks is written as an empty one and loses no bracket
    rw [if_pos hblank, brackets_blank, Brackets.of_eq_nil_of_allBlank hblank]
  · rw [if_neg hblank, brackets_line]

/-- Cutting a text into lines keeps its brackets. -/
@[simp] theorem brackets_ofText (text : String) : brackets (ofText text) = Brackets.of text := by
  rw [← Brackets.flatMap_lines text]
  unfold ofText
  induction Text.lines text with
  | nil => rfl
  | cons line rest ih =>
    rw [List.map_cons, brackets_cons, brackets_ofLine, ih, List.flatMap_cons]

/-! ### Balanced fragments -/

/-- The brackets of the fragments, taken together, form a Dyck word. -/
def Balanced (fragments : List Fragment) : Prop :=
  Dyck (brackets fragments)

variable {fragments front rest : List Fragment} {text : String}

theorem balanced_nil : Balanced [] := .nil

theorem balanced_blank : Balanced [.blank] := .nil

theorem balanced_line (h : DartSource.Balanced text) : Balanced [.line text] := by
  unfold Balanced
  rw [brackets_line]
  exact h

theorem balanced_raw (h : DartSource.Balanced text) : Balanced [.raw text] := by
  unfold Balanced
  rw [brackets_raw]
  exact h

theorem balanced_doc (h : DartSource.Balanced text) : Balanced [.doc text] := by
  unfold Balanced
  rw [brackets_doc]
  exact h

theorem balanced_ofText (h : DartSource.Balanced text) : Balanced (ofText text) := by
  unfold Balanced
  rw [brackets_ofText]
  exact h

theorem Balanced.append (hfront : Balanced front) (hrest : Balanced rest) :
    Balanced (front ++ rest) := by
  unfold Balanced
  rw [brackets_append]
  exact Dyck.append hfront hrest

theorem Balanced.cons {fragment : Fragment} (hfirst : Balanced [fragment])
    (hrest : Balanced rest) : Balanced (fragment :: rest) :=
  hfirst.append hrest

/-- A list of fragments for each of some items. -/
theorem balanced_flatMap {α : Type} {items : List α} {layout : α → List Fragment}
    (h : ∀ item ∈ items, Balanced (layout item)) : Balanced (items.flatMap layout) := by
  induction items with
  | nil => exact balanced_nil
  | cons first more ih =>
    obtain ⟨hfirst, hmore⟩ := List.forall_mem_cons.mp h
    rw [List.flatMap_cons]
    exact hfirst.append (ih hmore)

/-- A fragment for each of some items. -/
theorem balanced_map {α : Type} {items : List α} {layout : α → Fragment}
    (h : ∀ item ∈ items, Balanced [layout item]) : Balanced (items.map layout) := by
  rw [List.map_eq_flatMap]
  exact balanced_flatMap h

/-- **A body in braces** behind a balanced header: the header opens the brace and the closing line
closes it. -/
theorem balanced_block (hheader : DartSource.Balanced text) (hbody : Balanced fragments) :
    Balanced [.block (text ++ " \x7b") fragments (some "\x7d")] := by
  -- the brace of the header, the body and the closing line are one Dyck word
  have hbraces : Dyck ('\x7b' :: (brackets fragments ++ ['\x7d'])) := .wrap (by decide) hbody
  unfold Balanced
  rw [brackets_block, Brackets.of_append, List.append_assoc, List.append_assoc]
  exact Dyck.append hheader hbraces

/-- Empty braces behind a balanced text. -/
theorem balanced_emptyBraces (h : DartSource.Balanced text) :
    Balanced [.line (text ++ " \x7b\x7d")] :=
  balanced_line (h.append (by decide))

theorem balanced_braced (hheader : DartSource.Balanced text) (hbody : Balanced fragments) :
    Balanced [braced text fragments] := by
  unfold braced
  split
  · exact balanced_emptyBraces hheader
  · exact balanced_block hheader hbody

end Fragment

end DartSource
