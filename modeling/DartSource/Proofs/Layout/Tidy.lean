import DartSource.Proofs.Layout.Pieces
import DartSource.Proofs.Text.Rows

/-!
# Tidy fragments

Fragments are **tidy** when each of their pieces is an empty line or a line with something to be
seen on it and without a line feed. Pieces and rows of the text are then the same thing
(`Piece.rows_join`), and two facts about layout follow at any level and for any unit. The text is
neat, as a unit of indentation never stands on a row by itself (`Piece.neat_join`); and putting the
fragments one level deeper is indenting their text (`Piece.indented_join`).

Texts of several lines are tidy whatever is written in them: cutting a text into lines leaves no
line feed, and a line of blanks becomes an empty one (`Fragment.tidy_ofText`).
-/

namespace DartSource

open Text (OneLine)

namespace Text

/-- The text can be a line: it has no line feed in it and is not all blank. -/
structure FillsLine (text : String) : Prop where
  oneLine : OneLine text
  visible : allBlank text = false

instance (text : String) : Decidable (FillsLine text) :=
  decidable_of_iff (OneLine text ∧ allBlank text = false)
    ⟨fun h => ⟨h.1, h.2⟩, fun h => ⟨h.oneLine, h.visible⟩⟩

theorem allBlank_append (first second : String) :
    allBlank (first ++ second) = (allBlank first && allBlank second) := by
  unfold allBlank
  rw [String.toList_append, List.all_append]

/-- No identifier starts with a blank. -/
theorem isBlank_of_isIdentifierStart {c : Char} (h : isIdentifierStart c = true) :
    isBlank c = false := by
  have hcases : ((decide (c.val ≥ 'A'.val ∧ c.val ≤ 'Z'.val) ||
      (decide (c.val ≥ 'a'.val) && decide (c.val ≤ 'z'.val))) || c == '_' || c == '$') = true := h
  simp only [Bool.or_eq_true, Bool.and_eq_true, decide_eq_true_eq, ge_iff_le,
    UInt32.le_iff_toNat_le, beq_iff_eq] at hcases
  change (((65 ≤ c.toNat ∧ c.toNat ≤ 90) ∨ (97 ≤ c.toNat ∧ c.toNat ≤ 122)) ∨ c = '_') ∨
    c = '$' at hcases
  rcases hcases with (hletter | rfl) | rfl
  · -- the letters lie between the space and the first blank beyond ASCII
    simp only [isBlank, blankRanges, List.any_cons, List.any_nil, Bool.or_eq_false_iff,
      Bool.and_eq_false_iff, decide_eq_false_iff_not, and_true]
    omega
  · decide
  · decide

namespace FillsLine

variable {front rest : String}

theorem append (h : FillsLine front) (hrest : OneLine rest) : FillsLine (front ++ rest) := by
  refine ⟨h.oneLine.append hrest, ?_⟩
  rw [allBlank_append, h.visible, Bool.false_and]

theorem behind (h : FillsLine rest) (hfront : OneLine front) : FillsLine (front ++ rest) := by
  refine ⟨hfront.append h.oneLine, ?_⟩
  rw [allBlank_append, h.visible, Bool.and_false]

theorem ne_empty (h : FillsLine front) : front ≠ "" := by
  rintro rfl
  exact absurd h.visible (by decide)

/-- An identifier has a first character, which is no blank. -/
theorem of_isIdentifier (h : isIdentifier front = true) : FillsLine front := by
  refine ⟨.of_isIdentifier h, ?_⟩
  obtain ⟨first, rest, hname, hfirst, -⟩ := exists_of_isIdentifier h
  unfold allBlank
  rw [hname, List.all_cons, isBlank_of_isIdentifierStart hfirst, Bool.false_and]

end FillsLine

end Text

open Text (FillsLine rows Neat indented)

/-! ### Pieces -/

/-- An empty line, or a line with something on it. -/
def Stretch.Tidy : Stretch → Prop
  | .line text => FillsLine text
  | .blank => True
  | .raw _ => False

namespace Piece

/-- The row that a piece makes up. -/
def row (unit : String) (level : Nat) (piece : Piece) : String :=
  match piece.stretch with
  | .line text => margin unit (level + piece.depth) ++ text
  | .blank => ""
  | .raw text => text

variable {unit : String} {level : Nat} {piece : Piece}

theorem text_eq_row (h : piece.stretch.Tidy) :
    piece.text unit level = piece.row unit level ++ "\n" := by
  obtain ⟨depth, stretch⟩ := piece
  cases stretch with
  | line text => rfl
  | blank => rfl
  | raw text => exact absurd h not_false

theorem margin_succ (unit : String) (level : Nat) :
    margin unit (level + 1) = unit ++ margin unit level := by
  unfold margin
  rw [List.replicate_succ, String.join_cons]

theorem oneLine_margin (hunit : OneLine unit) (level : Nat) : OneLine (margin unit level) := by
  induction level with
  | zero => exact List.not_mem_nil
  | succ level ih =>
    rw [margin_succ]
    exact hunit.append ih

theorem oneLine_row (hunit : OneLine unit) (h : piece.stretch.Tidy) :
    OneLine (piece.row unit level) := by
  obtain ⟨depth, stretch⟩ := piece
  cases stretch with
  | line text => exact (oneLine_margin hunit _).append h.oneLine
  | blank => exact List.not_mem_nil
  | raw text => exact absurd h not_false

/-- One unit more in front of a row that is not empty is one level more. -/
theorem row_succ (h : piece.stretch.Tidy) :
    piece.row unit (level + 1) =
      if piece.row unit level = "" then "" else unit ++ piece.row unit level := by
  obtain ⟨depth, stretch⟩ := piece
  cases stretch with
  | line text =>
    -- there is a text on the line, even where the unit is empty
    have hrow : margin unit (level + depth) ++ text ≠ "" := by
      intro hempty
      have htext := congrArg String.toList hempty
      rw [String.toList_append] at htext
      exact h.ne_empty (String.toList_eq_nil_iff.mp (List.append_eq_nil_iff.mp htext).2)
    show margin unit (level + 1 + depth) ++ text =
      if margin unit (level + depth) ++ text = "" then "" else unit ++ (margin unit _ ++ text)
    rw [if_neg hrow, Nat.add_right_comm, margin_succ, String.append_assoc]
  | blank => rfl
  | raw text => exact absurd h not_false

variable {pieces : List Piece}

/-- **Tidy pieces are the rows of their text.** -/
theorem rows_join (hunit : OneLine unit) (h : ∀ piece ∈ pieces, piece.stretch.Tidy) :
    rows (join unit level pieces) =
      pieces.map (fun piece => (piece.row unit level).toList) ++ [[]] := by
  induction pieces with
  | nil => exact Text.rows_empty
  | cons piece rest ih =>
    obtain ⟨hpiece, hrest⟩ := List.forall_mem_cons.mp h
    rw [join_cons, text_eq_row hpiece, Text.rows_append_feed (oneLine_row hunit hpiece), ih hrest]
    rfl

/-- **No indentation is left standing by itself.** -/
theorem neat_join (hunit : OneLine unit) (h : ∀ piece ∈ pieces, piece.stretch.Tidy) :
    Neat (join unit level pieces) := by
  unfold Neat
  rw [rows_join hunit h]
  refine List.forall_mem_append.mpr ⟨List.forall_mem_map.mpr fun piece hmem hblank => ?_, ?_⟩
  · have hpiece := h piece hmem
    obtain ⟨depth, stretch⟩ := piece
    cases stretch with
    | line text =>
      -- there is something to be seen behind the margin
      have hvisible : Text.allBlank (margin unit (level + depth) ++ text) = false := by
        rw [Text.allBlank_append, hpiece.visible, Bool.and_false]
      exact absurd (hblank.symm.trans hvisible) (by decide)
    | blank => rfl
    | raw text => exact absurd hpiece not_false
  · exact List.forall_mem_singleton.mpr fun _ => rfl

/-- **One level deeper is the same text, indented.** -/
theorem indented_join (hunit : OneLine unit) (h : ∀ piece ∈ pieces, piece.stretch.Tidy) :
    indented unit (join unit level pieces) = join unit (level + 1) pieces := by
  induction pieces with
  | nil => exact Text.indented_empty
  | cons piece rest ih =>
    obtain ⟨hpiece, hrest⟩ := List.forall_mem_cons.mp h
    rw [join_cons, join_cons, text_eq_row hpiece, text_eq_row hpiece,
      Text.indented_append_feed (oneLine_row hunit hpiece), ih hrest, row_succ hpiece]

end Piece

theorem Indent.oneLine_unit (indent : Indent) : OneLine indent.unit := by
  cases indent with
  | spaces count =>
    unfold OneLine unit
    rw [String.toList_ofList, List.mem_replicate]
    exact fun h => absurd h.2 (by decide)
  | tab => decide

/-! ### Fragments -/

namespace Fragment

/-- Every piece of the fragments is tidy. -/
def Tidy (fragments : List Fragment) : Prop :=
  ∀ piece ∈ piecesOf fragments, piece.stretch.Tidy

theorem Tidy.neat_written {fragments : List Fragment} (h : Tidy fragments) (indent : Indent) :
    Neat (written indent fragments) := by
  rw [written_eq_join]
  exact Piece.neat_join indent.oneLine_unit h

theorem Tidy.indented_written {fragments : List Fragment} (h : Tidy fragments) (indent : Indent) :
    indented indent.unit (written indent fragments) =
      Piece.join indent.unit 1 (piecesOf fragments) := by
  rw [written_eq_join]
  exact Piece.indented_join indent.oneLine_unit h

theorem tidy_nil : Tidy [] :=
  fun _ h => absurd h List.not_mem_nil

theorem Tidy.append {front rest : List Fragment} (hfront : Tidy front) (hrest : Tidy rest) :
    Tidy (front ++ rest) := by
  unfold Tidy
  rw [piecesOf_append]
  exact List.forall_mem_append.mpr ⟨hfront, hrest⟩

theorem Tidy.cons {fragment : Fragment} {rest : List Fragment} (hfirst : Tidy [fragment])
    (hrest : Tidy rest) : Tidy (fragment :: rest) :=
  Tidy.append hfirst hrest

theorem tidy_flatMap {α : Type} {items : List α} {fragments : α → List Fragment}
    (h : ∀ item ∈ items, Tidy (fragments item)) : Tidy (items.flatMap fragments) := by
  induction items with
  | nil => exact tidy_nil
  | cons first rest ih =>
    obtain ⟨hfirst, hrest⟩ := List.forall_mem_cons.mp h
    rw [List.flatMap_cons]
    exact hfirst.append (ih hrest)

theorem tidy_map {α : Type} {items : List α} {fragment : α → Fragment}
    (h : ∀ item ∈ items, Tidy [fragment item]) : Tidy (items.map fragment) := by
  rw [List.map_eq_flatMap]
  exact tidy_flatMap h

theorem tidy_line {text : String} (h : FillsLine text) : Tidy [.line text] :=
  List.forall_mem_singleton.mpr h

theorem tidy_blank : Tidy [.blank] :=
  List.forall_mem_singleton.mpr trivial

/-- A doc comment shows its mark on every line. -/
theorem tidy_doc (text : String) : Tidy [.doc text] := by
  unfold Tidy
  rw [piecesOf_cons, piecesOf_nil, List.append_nil, pieces]
  refine List.forall_mem_map.mpr fun line hline => ?_
  show FillsLine (docLine line)
  unfold docLine
  split
  · decide
  · have hmark : FillsLine "/// " := by decide
    exact hmark.append (Text.oneLine_of_mem_lines hline)

/-- Whatever is written in a text, its lines are tidy. -/
theorem tidy_ofText (text : String) : Tidy (ofText text) := by
  refine tidy_map fun line hline => ?_
  unfold ofLine
  split
  · exact tidy_blank
  · next hvisible => exact tidy_line ⟨Text.oneLine_of_mem_lines hline, by simpa using hvisible⟩

theorem tidy_block {header close : String} {body : List Fragment} (hheader : FillsLine header)
    (hbody : Tidy body) (hclose : FillsLine close) : Tidy [.block header body (some close)] := by
  unfold Tidy
  rw [piecesOf_cons, piecesOf_nil, List.append_nil, pieces, Option.toList_some, List.map_singleton]
  refine List.forall_mem_append.mpr ⟨List.forall_mem_cons.mpr ⟨hheader, ?_⟩, ?_⟩
  · -- the body is the same one block deeper
    exact List.forall_mem_map.mpr hbody
  · exact List.forall_mem_singleton.mpr hclose

theorem tidy_braced {header : String} {body : List Fragment} (hheader : OneLine header)
    (hbody : Tidy body) : Tidy [braced header body] := by
  unfold braced
  split
  · have hbraces : FillsLine " \x7b\x7d" := by decide
    exact tidy_line (hbraces.behind hheader)
  · have hbrace : FillsLine " \x7b" := by decide
    exact tidy_block (hbrace.behind hheader) hbody (by decide)

end Fragment

end DartSource
