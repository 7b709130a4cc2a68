import DartSource.Proofs.Layout.Tidy

/-!
# Framed fragments

A text is **framed** when it ends with a line feed and neither its first line nor its last is empty.
Two framed texts with a line feed between them have exactly one empty line between them, and with
nothing between them have none. Fragments are framed when the first and the last of their pieces are
lines; if they are tidy, they are written as a framed text (`Piece.framed_join`).
-/

namespace DartSource

open Text (OneLine FillsLine)

namespace Text

/-- The text ends with a line feed, and neither its first line nor its last is empty. -/
structure Framed (text : String) : Prop where
  first : ∃ c rest, text.toList = c :: rest ∧ c ≠ '\n'
  last : ∃ front c, text.toList = front ++ [c, '\n'] ∧ c ≠ '\n'

/-- A line has a first character. -/
theorem FillsLine.exists_cons {text : String} (h : FillsLine text) :
    ∃ c rest, text.toList = c :: rest ∧ c ≠ '\n' := by
  cases htext : text.toList with
  | nil => exact absurd (String.toList_eq_nil_iff.mp htext) h.ne_empty
  | cons c rest =>
    refine ⟨c, rest, rfl, ?_⟩
    rintro rfl
    exact h.oneLine (htext ▸ List.mem_cons_self)

/-- And a last one. -/
theorem FillsLine.exists_concat {text : String} (h : FillsLine text) :
    ∃ front c, text.toList = front ++ [c] ∧ c ≠ '\n' := by
  have hne : text.toList ≠ [] := fun hnil => h.ne_empty (String.toList_eq_nil_iff.mp hnil)
  refine ⟨text.toList.dropLast, text.toList.getLast hne, ?_, ?_⟩
  · exact (List.dropLast_append_getLast hne).symm
  · intro hlast
    exact h.oneLine (hlast ▸ List.getLast_mem hne)

end Text

/-! ### Pieces -/

namespace Piece

/-- The piece is a line, and not an empty one. -/
def isLine (piece : Piece) : Bool :=
  match piece.stretch with
  | .line _ => true
  | .blank => false
  | .raw _ => false

variable {unit : String}

theorem fillsLine_row (hunit : OneLine unit) (level : Nat) {piece : Piece}
    (htidy : piece.stretch.Tidy) (h : piece.isLine = true) : FillsLine (piece.row unit level) := by
  obtain ⟨depth, stretch⟩ := piece
  cases stretch with
  | line text => exact FillsLine.behind htidy (oneLine_margin hunit _)
  | blank => exact absurd h Bool.false_ne_true
  | raw text => exact absurd h Bool.false_ne_true

/-- The first and the last of the pieces are lines. -/
structure Framed (pieces : List Piece) : Prop where
  first : ∃ piece rest, pieces = piece :: rest ∧ piece.isLine = true
  last : ∃ front piece, pieces = front ++ [piece] ∧ piece.isLine = true

/-- Such pieces are written as a framed text. -/
theorem Framed.text {pieces : List Piece} (h : Framed pieces) (hunit : OneLine unit) (level : Nat)
    (htidy : ∀ piece ∈ pieces, piece.stretch.Tidy) : Text.Framed (join unit level pieces) := by
  constructor
  · obtain ⟨piece, rest, rfl, hline⟩ := h.first
    have hpiece := htidy piece List.mem_cons_self
    obtain ⟨c, more, hrow, hc⟩ := (fillsLine_row hunit level hpiece hline).exists_cons
    refine ⟨c, more ++ '\n' :: (join unit level rest).toList, ?_, hc⟩
    rw [join_cons, text_eq_row hpiece, String.toList_append, String.toList_append, hrow]
    simp
  · obtain ⟨front, piece, rfl, hline⟩ := h.last
    have hpiece := htidy piece (List.mem_append_right front (List.mem_singleton_self piece))
    obtain ⟨more, c, hrow, hc⟩ := (fillsLine_row hunit level hpiece hline).exists_concat
    refine ⟨(join unit level front).toList ++ more, c, ?_, hc⟩
    rw [join_append, join_cons, join_nil, String.append_empty, text_eq_row hpiece,
      String.toList_append, String.toList_append, hrow]
    simp

/-- What stands between framed pieces does not matter. -/
theorem Framed.append {front rest : List Piece} (hfront : Framed front) (hrest : Framed rest)
    (middle : List Piece) : Framed (front ++ middle ++ rest) := by
  obtain ⟨first, more, rfl, hfirst⟩ := hfront.first
  obtain ⟨before, last, rfl, hlast⟩ := hrest.last
  refine ⟨⟨first, more ++ middle ++ (before ++ [last]), rfl, hfirst⟩, ?_⟩
  exact ⟨first :: more ++ middle ++ before, last, (List.append_assoc _ _ _).symm, hlast⟩

/-- Lines may stand in front. -/
theorem Framed.behind {front rest : List Piece} (hrest : Framed rest)
    (hfront : ∀ piece ∈ front, piece.isLine = true) : Framed (front ++ rest) := by
  refine ⟨?_, ?_⟩
  · -- the first piece is one of those in front, if there are any
    cases front with
    | nil => exact hrest.first
    | cons piece more => exact ⟨piece, more ++ rest, rfl, hfront piece List.mem_cons_self⟩
  · obtain ⟨before, last, rfl, hlast⟩ := hrest.last
    exact ⟨front ++ before, last, (List.append_assoc _ _ _).symm, hlast⟩

end Piece

/-! ### Fragments -/

namespace Fragment

/-- The first and the last piece of the fragments are lines. -/
def Framed (fragments : List Fragment) : Prop :=
  Piece.Framed (piecesOf fragments)

theorem framed_line (text : String) : Framed [.line text] :=
  ⟨⟨_, [], rfl, rfl⟩, ⟨[], _, rfl, rfl⟩⟩

/-- A block begins with its header and ends with its closing line. -/
theorem framed_block (header close : String) (body : List Fragment) :
    Framed [.block header body (some close)] := by
  unfold Framed
  rw [piecesOf_cons, piecesOf_nil, List.append_nil, pieces, Option.toList_some, List.map_singleton]
  exact ⟨⟨_, _, rfl, rfl⟩, ⟨_, _, rfl, rfl⟩⟩

theorem Framed.append {front rest : List Fragment} (hfront : Framed front) (hrest : Framed rest)
    (middle : List Fragment) : Framed (front ++ middle ++ rest) := by
  unfold Framed
  rw [piecesOf_append, piecesOf_append]
  exact Piece.Framed.append hfront hrest _

theorem Framed.behind {front rest : List Fragment} (hrest : Framed rest)
    (hfront : ∀ piece ∈ piecesOf front, piece.isLine = true) : Framed (front ++ rest) := by
  unfold Framed
  rw [piecesOf_append]
  exact Piece.Framed.behind hrest hfront

/-- A line on which something can be seen stays a line. -/
theorem pieces_ofLine {line : String} (h : Text.allBlank line = false) :
    (ofLine line).pieces = [⟨0, .line line⟩] := by
  have hvisible : ¬Text.allBlank line = true := by
    rw [h]
    exact Bool.false_ne_true
  unfold ofLine
  rw [if_neg hvisible, pieces]

/-- A text is framed when its first and its last line can be seen. -/
theorem framed_map_ofLine {lines : List String} {first last : String} {more before : List String}
    (hfirst : lines = first :: more) (hlast : lines = before ++ [last])
    (hfirstVisible : Text.allBlank first = false) (hlastVisible : Text.allBlank last = false) :
    Framed (lines.map ofLine) := by
  unfold Framed
  rw [piecesOf_eq_flatMap, List.flatMap_map]
  refine ⟨⟨⟨0, .line first⟩, more.flatMap fun line => (ofLine line).pieces, ?_, rfl⟩,
    ⟨before.flatMap fun line => (ofLine line).pieces, ⟨0, .line last⟩, ?_, rfl⟩⟩
  · rw [hfirst, List.flatMap_cons, pieces_ofLine hfirstVisible]
    rfl
  · rw [hlast, List.flatMap_append, List.flatMap_singleton, pieces_ofLine hlastVisible]

/-- A text that begins with something to be seen and a space, and ends with a semicolon, is framed,
whatever stands between. -/
theorem framed_ofText {front : String} (h : FillsLine front) (inner : String) :
    Framed (ofText (front ++ " " ++ inner ++ ";")) := by
  -- the space keeps the front together even if a carriage return ends it
  obtain ⟨first, more, hfirst⟩ := Text.exists_lineChars_append h.oneLine
    (by decide : ' ' ≠ '\n') (by decide) (inner.toList ++ [';'])
  obtain ⟨before, last, hlast⟩ := Text.exists_lineChars_concat (by decide : ';' ≠ '\n')
    (front.toList ++ ' ' :: inner.toList)
  have hlines : Text.lines (front ++ " " ++ inner ++ ";") =
      String.ofList (front.toList ++ ' ' :: first) :: more.map String.ofList := by
    rw [← List.map_cons, ← hfirst]
    unfold Text.lines
    simp
  have hlines' : Text.lines (front ++ " " ++ inner ++ ";") =
      before.map String.ofList ++ [String.ofList (last ++ [';'])] := by
    rw [← List.map_singleton, ← List.map_append, ← hlast]
    unfold Text.lines
    simp
  refine framed_map_ofLine hlines hlines' ?_ ?_
  · have hvisible := h.visible
    unfold Text.allBlank at hvisible ⊢
    rw [String.toList_ofList, List.all_append, hvisible, Bool.false_and]
  · unfold Text.allBlank
    rw [String.toList_ofList, List.all_append]
    exact Bool.and_false _

end Fragment

end DartSource
