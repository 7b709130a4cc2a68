import DartSource.Proofs.Layout.Pieces
import DartSource.SourceFile

/-!
# Files in any indentation

The pieces of a fragment (`Fragment.pieces`) are found without knowing how deep the sink stands or
what a level of indentation looks like. A file has pieces too, and the indentation it asks for plays
no part in them (`SourceFile.pieces_indented`): it is used only when the pieces are put into the
sink, in front of each line (`SourceFile.render_eq_join`). So a file that is laid out in two ways
says the same thing twice.
-/

namespace DartSource

namespace Sink

variable (sink : Sink) (fragment : Fragment)

/-- A fragment leaves the sink at the level where it found it. -/
theorem level_fragment : (sink.fragment fragment).level = sink.level := by
  rw [fragment_eq_raw]
  rfl

theorem unit_fragment : (sink.fragment fragment).unit = sink.unit := by
  rw [fragment_eq_raw]
  rfl

/-- A fragment adds its pieces behind what was written before. -/
theorem text_fragment :
    (sink.fragment fragment).text =
      sink.text ++ Piece.join sink.unit sink.level fragment.pieces := by
  rw [fragment_eq_raw]
  rfl

end Sink

namespace SourceFile

/-- The same file in another indentation. -/
def indented (file : SourceFile) (indent : Indent) : SourceFile :=
  { file with options := { file.options with indent := indent } }

/-- The pieces of a file. -/
def pieces (file : SourceFile) : List Piece :=
  Fragment.piecesOf file.fragments

/-- The pieces of a file do not depend on its indentation. -/
theorem pieces_indented (file : SourceFile) (indent : Indent) :
    (file.indented indent).pieces = file.pieces := by
  -- banner, owner, directives and declarations are all found without a look at the indentation
  have hfragments : (file.indented indent).fragments = file.fragments := rfl
  unfold pieces
  rw [hfragments]

/-- A file is written as its pieces, from level zero on. -/
theorem render_eq_join (file : SourceFile) :
    file.render = Piece.join file.options.indent.unit 0 file.pieces :=
  Sink.text_fragments_empty file.options.indent file.fragments

theorem render_indented (file : SourceFile) (indent : Indent) :
    (file.indented indent).render = Piece.join indent.unit 0 file.pieces := by
  rw [render_eq_join, pieces_indented]
  rfl

/-- **Indentation is a matter of depth alone.** Whatever a sink holds and however deep it stands, a
fragment leaves its level and its unit as they were, and adds to its text the pieces of the
fragment, each line behind one unit for every level of the sink and every block around the line. A
file has the same pieces, at the same depths, in any two indentations, and its two texts are these
pieces with the one unit and with the other. -/
theorem indentation_by_depth (sink : Sink) (fragment : Fragment) (file : SourceFile)
    (indent other : Indent) :
    ((sink.fragment fragment).level = sink.level ∧
      (sink.fragment fragment).unit = sink.unit ∧
      (sink.fragment fragment).text =
        sink.text ++ Piece.join sink.unit sink.level fragment.pieces) ∧
    (file.indented indent).pieces = (file.indented other).pieces ∧
      (file.indented indent).render =
        Piece.join indent.unit 0 (file.indented indent).pieces ∧
      (file.indented other).render =
        Piece.join other.unit 0 (file.indented indent).pieces := by
  refine ⟨⟨?_, ?_, ?_⟩, ?_, ?_, ?_⟩
  · exact sink.level_fragment fragment
  · exact sink.unit_fragment fragment
  · exact sink.text_fragment fragment
  · rw [pieces_indented, pieces_indented]
  · exact render_eq_join (file.indented indent)
  · rw [pieces_indented]
    exact render_indented file other

-- the body of a block without a closing line, in a block, in a sink that stands one level deep
example :
    ((Sink.mk "\t" 1 "x").fragment
      (.block "a" [.doc "b\n", .block "c" [.blank, .line "d"] none, .raw "e"] (some "f"))).text =
      "x\ta\n\t\t/// b\n\t\tc\n\n\t\t\td\ne\tf\n" := by
  decide +kernel

end SourceFile

end DartSource
