import DartSource.Layout.Sink
import Mathlib.Data.List.Basic

/-!
# What a fragment puts into a sink

A fragment is flattened into **pieces**: lines, empty lines and raw texts, each with the number of
blocks around it. This flattening knows nothing of indentation. Putting a fragment into a sink
appends its pieces one after the other, a line with one unit of indentation for each level of the
sink and each block around the line, and leaves the sink otherwise as it was
(`Sink.fragment_eq_raw`). What a file says is therefore read off the pieces of its fragments alone.
-/

namespace DartSource

/-- A stretch of output, before its indentation is known. -/
inductive Stretch where
  /-- A line, indented and with a line end behind it. -/
  | line (text : String)
  /-- An empty line. -/
  | blank
  /-- Text that is put as it is. -/
  | raw (text : String)
  deriving DecidableEq, Repr

namespace Stretch

/-- The text of a stretch behind a margin. -/
def text (margin : String) : Stretch → String
  | .line text => margin ++ text ++ "\n"
  | .blank => "\n"
  | .raw text => text

end Stretch

/-- A stretch of output with the number of blocks around it. -/
structure Piece where
  depth : Nat
  stretch : Stretch
  deriving DecidableEq, Repr

namespace Piece

/-- The piece with one more block around it. -/
def deepen (piece : Piece) : Piece :=
  { piece with depth := piece.depth + 1 }

/-- So many units of indentation. -/
def margin (unit : String) (level : Nat) : String :=
  String.join (List.replicate level unit)

/-- The text of a piece in a sink at the given level. -/
def text (unit : String) (level : Nat) (piece : Piece) : String :=
  piece.stretch.text (margin unit (level + piece.depth))

/-- Another block around a piece counts as much as another level of the sink. -/
theorem text_deepen (unit : String) (level : Nat) (piece : Piece) :
    piece.deepen.text unit level = piece.text unit (level + 1) := by
  unfold text deepen
  rw [Nat.add_assoc, Nat.add_comm 1]

/-- At level zero nothing stands in front of a line. -/
theorem text_line_zero (unit text : String) : Piece.text unit 0 ⟨0, .line text⟩ = text ++ "\n" :=
  congrArg (· ++ "\n") String.empty_append

/-- Pieces one after the other. -/
def join (unit : String) (level : Nat) (pieces : List Piece) : String :=
  String.join (pieces.map (text unit level))

variable {unit : String} {level : Nat}

@[simp] theorem join_nil : join unit level [] = "" := String.join_nil

@[simp] theorem join_cons (piece : Piece) (rest : List Piece) :
    join unit level (piece :: rest) = piece.text unit level ++ join unit level rest :=
  String.join_cons

@[simp] theorem join_append (front rest : List Piece) :
    join unit level (front ++ rest) = join unit level front ++ join unit level rest := by
  unfold join
  rw [List.map_append, String.join_append]

theorem join_map_deepen (pieces : List Piece) :
    join unit level (pieces.map deepen) = join unit (level + 1) pieces := by
  unfold join
  rw [List.map_map]
  congr 2
  funext piece
  exact text_deepen unit level piece

end Piece

namespace Fragment

mutual

/-- The pieces of a fragment. -/
def pieces : Fragment → List Piece
  | .line text => [⟨0, .line text⟩]
  | .blank => [⟨0, .blank⟩]
  | .raw text => [⟨0, .raw text⟩]
  | .doc text => (Text.lines text).map fun line => ⟨0, .line (docLine line)⟩
  | .block header body close =>
    ⟨0, .line header⟩ :: (piecesOf body).map Piece.deepen ++
      close.toList.map fun text => ⟨0, .line text⟩

/-- The pieces of fragments one after the other. -/
def piecesOf : List Fragment → List Piece
  | [] => []
  | fragment :: rest => fragment.pieces ++ piecesOf rest

end

theorem piecesOf_eq_flatMap (fragments : List Fragment) :
    piecesOf fragments = fragments.flatMap pieces := by
  induction fragments with
  | nil => rfl
  | cons fragment rest ih => rw [piecesOf, ih, List.flatMap_cons]

@[simp] theorem piecesOf_nil : piecesOf [] = [] := rfl

@[simp] theorem piecesOf_cons (fragment : Fragment) (rest : List Fragment) :
    piecesOf (fragment :: rest) = fragment.pieces ++ piecesOf rest := rfl

@[simp] theorem piecesOf_append (front rest : List Fragment) :
    piecesOf (front ++ rest) = piecesOf front ++ piecesOf rest := by
  simp only [piecesOf_eq_flatMap, List.flatMap_append]

end Fragment

namespace Sink

/-! ### Single steps -/

@[simp] theorem raw_raw (sink : Sink) (first second : String) :
    (sink.raw first).raw second = sink.raw (first ++ second) := by
  unfold raw
  simp only [String.append_assoc]

@[simp] theorem raw_empty (sink : Sink) : sink.raw "" = sink := by
  unfold raw
  rw [String.append_empty]

theorem line_eq_raw (sink : Sink) (text : String) :
    sink.line text = sink.raw (Piece.text sink.unit sink.level ⟨0, .line text⟩) := rfl

theorem blank_eq_raw (sink : Sink) :
    sink.blank = sink.raw (Piece.text sink.unit sink.level ⟨0, .blank⟩) := rfl

/-- A doc comment is one line after the other. -/
theorem doc_eq_raw (sink : Sink) (text : String) :
    sink.doc text = sink.raw (Piece.join sink.unit sink.level (Fragment.doc text).pieces) := by
  unfold doc
  rw [Fragment.pieces]
  induction Text.lines text generalizing sink with
  | nil => exact (raw_empty sink).symm
  | cons line rest ih =>
    -- a line leaves unit and level as they were, so the rest is indented alike
    rw [List.foldl_cons, ih, List.map_cons, Piece.join_cons, line_eq_raw]
    exact raw_raw sink _ _

/-- Text that was put one level deeper stands there when the sink is back at its own level. -/
theorem dedent_raw_indent (sink : Sink) (text : String) :
    (sink.indent.raw text).dedent = sink.raw text := rfl

/-! ### Whole fragments -/

mutual

/-- **Putting a fragment appends its pieces and changes nothing else.** The level of the sink is the
same before and after, and so is everything that was written before. -/
theorem fragment_eq_raw (sink : Sink) (fragment : Fragment) :
    sink.fragment fragment = sink.raw (Piece.join sink.unit sink.level fragment.pieces) := by
  cases fragment with
  | line text =>
    rw [Sink.fragment, Fragment.pieces, Piece.join_cons, Piece.join_nil, String.append_empty]
    exact line_eq_raw sink text
  | blank =>
    rw [Sink.fragment, Fragment.pieces, Piece.join_cons, Piece.join_nil, String.append_empty]
    exact blank_eq_raw sink
  | raw text =>
    rw [Sink.fragment, Fragment.pieces, Piece.join_cons, Piece.join_nil, String.append_empty]
    rfl
  | doc text =>
    rw [Sink.fragment]
    exact doc_eq_raw sink text
  | block header body close =>
    -- the body is put one level deeper, which is where its pieces stand
    have hinner : (((sink.line header).indent).fragments body).dedent =
        sink.raw (Piece.text sink.unit sink.level ⟨0, .line header⟩ ++
          Piece.join sink.unit sink.level ((Fragment.piecesOf body).map Piece.deepen)) := by
      rw [fragments_eq_raw, dedent_raw_indent, line_eq_raw, raw_raw, Piece.join_map_deepen]
      rfl
    cases close with
    | none =>
      -- without a closing line the block ends with its body
      rw [Sink.fragment, hinner, Fragment.pieces, Option.toList_none, List.map_nil,
        List.append_nil, Piece.join_cons]
    | some text =>
      -- the closing line stands at the level of the header
      rw [Sink.fragment, hinner, Fragment.pieces, Option.toList_some, List.map_singleton,
        Piece.join_append, Piece.join_cons, Piece.join_cons, Piece.join_nil, String.append_empty]
      exact (line_eq_raw _ text).trans (raw_raw sink _ _)

/-- Fragments one after the other append their pieces one after the other. -/
theorem fragments_eq_raw (sink : Sink) (fragments : List Fragment) :
    sink.fragments fragments =
      sink.raw (Piece.join sink.unit sink.level (Fragment.piecesOf fragments)) := by
  cases fragments with
  | nil => exact (raw_empty sink).symm
  | cons fragment rest =>
    rw [Sink.fragments, fragments_eq_raw, fragment_eq_raw, raw_raw, Fragment.piecesOf_cons,
      Piece.join_append]
    rfl

end

/-- The text of fragments in an empty sink. -/
theorem text_fragments_empty (indent : Indent) (fragments : List Fragment) :
    ((empty indent).fragments fragments).text =
      Piece.join indent.unit 0 (Fragment.piecesOf fragments) := by
  rw [fragments_eq_raw]
  exact String.empty_append

end Sink

/-! ### Fragments that stand alone -/

namespace Fragment

/-- The text of fragments that stand alone, in any indentation. -/
def written (indent : Indent) (fragments : List Fragment) : String :=
  ((Sink.empty indent).fragments fragments).text

theorem written_standard : written .standard = render := rfl

theorem written_eq_join (indent : Indent) (fragments : List Fragment) :
    written indent fragments = Piece.join indent.unit 0 (piecesOf fragments) :=
  Sink.text_fragments_empty indent fragments

@[simp] theorem written_append (indent : Indent) (front rest : List Fragment) :
    written indent (front ++ rest) = written indent front ++ written indent rest := by
  simp only [written_eq_join, piecesOf_append, Piece.join_append]

section Single

variable (indent : Indent)

theorem written_nil : written indent [] = "" := rfl

theorem written_cons (fragment : Fragment) (rest : List Fragment) :
    written indent (fragment :: rest) = written indent [fragment] ++ written indent rest :=
  written_append indent [fragment] rest

/-- At level zero a line has nothing in front of it. -/
theorem written_line (text : String) : written indent [.line text] = text ++ "\n" := by
  rw [written_eq_join]
  show Piece.join indent.unit 0 [⟨0, .line text⟩] = text ++ "\n"
  rw [Piece.join_cons, Piece.join_nil, String.append_empty, Piece.text_line_zero]

theorem written_blank : written indent [.blank] = "\n" := rfl

theorem written_raw (text : String) : written indent [.raw text] = text := by
  rw [written_eq_join]
  show Piece.join indent.unit 0 [⟨0, .raw text⟩] = text
  rw [Piece.join_cons, Piece.join_nil, String.append_empty]
  rfl

end Single

end Fragment

end DartSource
