import DartSource.Proofs.Node.Sequence
import DartSource.Proofs.Node.Tidy
import DartSource.Proofs.Text.Lines

/-!
# Statements stand as they were given

The statements of a body are a text that the library does not look into. It is cut into lines when
it becomes fragments, and put together again, line by line and further to the right, when these are
put into a sink. What could get lost on the way is at the ends of the text and where nothing can be
seen: the line feeds at both ends are left out, and a line of blanks becomes an empty one. All else
stays, in its place (`Routine.statements_verbatim`).

The argument goes by rows. Fragments of lines are tidy, so their pieces are the rows of what they
write (`Piece.rows_join`), one for each line of the text; and the lines of a text without carriage
returns, cut off at its last visible row, are its rows (`Text.Strips.lineChars_eq`).
-/

namespace DartSource

open Text (OneLine rows Strips)

/-! ### Rows behind a margin -/

namespace Text

/-- A row with nothing on it, where only blanks stood. -/
def emptied (row : List Char) : List Char :=
  if row.all isBlank then [] else row

/-- A row of statements behind a margin. Where only blanks stood, there is no margin either. -/
def inset (margin : String) (row : List Char) : List Char :=
  if row.all isBlank then [] else margin.toList ++ row

/-- A row without its margin, the empty row being left as it is. There is none if something else
than the margin stands in front. -/
def outset? (margin : String) (row : List Char) : Option (List Char) :=
  if row = [] then some [] else row.dropPrefix? margin.toList

/-- Taking the margin away leaves the row, emptied where only blanks stood. -/
theorem outset?_inset (margin : String) (row : List Char) :
    outset? margin (inset margin row) = some (emptied row) := by
  unfold inset emptied
  by_cases hblank : row.all isBlank = true
  · rw [if_pos hblank, if_pos hblank]
    rfl
  · rw [if_neg hblank, if_neg hblank]
    -- there is a character in the row, even where the margin is empty
    have hrow : margin.toList ++ row ≠ [] := by
      intro hempty
      rw [(List.append_eq_nil_iff.mp hempty).2] at hblank
      exact hblank rfl
    unfold outset?
    rw [if_neg hrow, List.dropPrefix?_eq_some_iff]
    exact ⟨margin.toList, rfl, beq_self_eq_true _⟩

end Text

/-! ### Texts that become fragments -/

namespace Fragment

/-- The one stretch that a line of a text makes up. -/
def lineStretch (line : String) : Stretch :=
  if Text.allBlank line then .blank else .line line

theorem piecesOf_ofText (text : String) :
    piecesOf (ofText text) = (Text.lines text).map fun line => ⟨0, lineStretch line⟩ := by
  have hline : ∀ line, (ofLine line).pieces = [⟨0, lineStretch line⟩] := by
    intro line
    unfold ofLine lineStretch
    split <;> rfl
  unfold ofText
  rw [piecesOf_eq_flatMap, List.flatMap_map, List.map_eq_flatMap]
  exact congrArg (List.flatMap · (Text.lines text)) (funext hline)

/-- One block deeper, every line of a text is a row behind the margin of the next level. -/
theorem rows_deepen_ofText (unit : String) (level : Nat) (text : String) :
    ((piecesOf (ofText text)).map Piece.deepen).map (fun piece => (piece.row unit level).toList) =
      (Text.lineChars text.toList).map (Text.inset (Piece.margin unit (level + 1))) := by
  rw [piecesOf_ofText, Text.lines, List.map_map, List.map_map, List.map_map]
  refine List.map_congr_left fun chars _ => ?_
  show (Piece.row unit level ⟨1, lineStretch (String.ofList chars)⟩).toList = _
  unfold lineStretch Text.allBlank Text.inset
  rw [String.toList_ofList]
  split
  · rfl
  · exact (String.toList_append ..).trans (congrArg _ String.toList_ofList)

/-- The line that a line of a text leaves. -/
def writtenLine (line : String) : String :=
  if Text.allBlank line then "" else line

theorem ofLine_writtenLine (line : String) : ofLine (writtenLine line) = ofLine line := by
  unfold writtenLine
  by_cases hblank : Text.allBlank line = true
  · rw [if_pos hblank, ofLine, ofLine, if_pos hblank]
    rfl
  · rw [if_neg hblank]

/-- Lines that are written one below the other are read one after the other. -/
theorem lines_written_map_ofLine (indent : Indent) {lines : List String}
    (h : ∀ line ∈ lines, OneLine line ∧ '\r' ∉ line.toList) :
    Text.lines (written indent (lines.map ofLine)) = lines.map writtenLine := by
  induction lines with
  | nil => rfl
  | cons line rest ih =>
    obtain ⟨⟨hline, hreturn⟩, hrest⟩ := List.forall_mem_cons.mp h
    have hfirst : written indent [ofLine line] = writtenLine line ++ "\n" := by
      unfold ofLine writtenLine
      split
      · exact written_blank indent
      · exact written_line indent line
    have hkept : OneLine (writtenLine line) ∧ '\r' ∉ (writtenLine line).toList := by
      unfold writtenLine
      split
      · exact ⟨List.not_mem_nil, List.not_mem_nil⟩
      · exact ⟨hline, hreturn⟩
    calc Text.lines (written indent ((line :: rest).map ofLine))
      _ = Text.lines (writtenLine line ++ "\n" ++ written indent (rest.map ofLine)) := by
        rw [List.map_cons, written_cons, hfirst]
      _ = writtenLine line :: Text.lines (written indent (rest.map ofLine)) :=
        Text.lines_append_feed hkept.1 hkept.2 _
      _ = (line :: rest).map writtenLine := by
        rw [ih hrest, List.map_cons]

/-- **Cutting a text into lines is stable.** -/
theorem ofText_written (indent : Indent) {text : String} (hreturn : '\r' ∉ text.toList) :
    ofText (written indent (ofText text)) = ofText text := by
  have hlines : ∀ line ∈ Text.lines text, OneLine line ∧ '\r' ∉ line.toList := by
    intro line hmem
    exact ⟨Text.oneLine_of_mem_lines hmem, Text.notMem_of_mem_lines hreturn hmem⟩
  unfold ofText
  rw [lines_written_map_ofLine indent hlines, List.map_map]
  exact List.map_congr_left fun line _ => ofLine_writtenLine line

end Fragment

/-- The rows of a signature with a block of statements. -/
theorem Body.rows_attach_block {signature text : String} (hsignature : OneLine signature)
    (hreturn : '\r' ∉ text.toList) (hvisible : Text.allBlank text = false) (indent : Indent)
    (level : Nat) :
    rows (Piece.join indent.unit level
        (Fragment.piecesOf (attach signature (some (.block text))))) =
      (Piece.margin indent.unit level ++ (signature ++ " \x7b")).toList ::
        ((Text.trimNewlines text).toList.splitOn '\n').map
          (Text.inset (Piece.margin indent.unit (level + 1))) ++
        [(Piece.margin indent.unit level ++ "\x7d").toList, []] := by
  have hlines := (Text.strips_trimNewlines text).lineChars_eq hvisible hreturn
  have hattach : attach signature (some (.block text)) =
      [.block (signature ++ " \x7b") (Fragment.ofText (Text.trimNewlines text))
        (some "\x7d")] := by
    rw [attach, hvisible]
    rfl
  rw [Piece.rows_join indent.oneLine_unit (tidy_attach hsignature _), hattach,
    Fragment.piecesOf_cons, Fragment.piecesOf_nil, List.append_nil, Fragment.pieces,
    List.map_append, List.map_cons, Fragment.rows_deepen_ofText, hlines, List.append_assoc]
  rfl

/-! ### Routines -/

/-- A node that may have a body. -/
inductive Routine where
  | getter (node : Getter)
  | setter (node : Setter)
  | constructor (node : Constructor)
  | method (node : Method)
  | function (node : FunctionDecl)
  deriving DecidableEq, Repr

namespace Routine

def node : Routine → Node
  | .getter node => .member (.getter node)
  | .setter node => .member (.setter node)
  | .constructor node => .member (.constructor node)
  | .method node => .member (.method node)
  | .function node => .declaration (.functionDecl node)

def signature : Routine → String
  | .getter node => node.signature
  | .setter node => node.signature
  | .constructor node => node.signature
  | .method node => node.signature
  | .function node => node.callable.signature []

def body : Routine → Option Body
  | .getter node => node.body
  | .setter node => node.body
  | .constructor node => node.body
  | .method node => node.callable.body
  | .function node => node.callable.body

/-- What stands above the signature: the doc comment and the annotations. -/
def above : Routine → List Fragment
  | .getter node => node.info.fragments
  | .setter node => node.info.fragments
  | .constructor node => node.info.fragments
  | .method node =>
    node.callable.info.fragments ++ if node.isOverride then [.line "@override"] else []
  | .function node => node.callable.info.fragments

theorem node_fragments (routine : Routine) :
    routine.node.fragments = routine.above ++ Body.attach routine.signature routine.body := by
  cases routine <;> rfl

/-- The sink is given what stands above the routine, then `shown`: the signature with an opening
brace, each row of `core` one level further in, and a closing brace at the level of the signature.
Without the margin of that level, the rows in between are those of `core`. -/
structure Shows (routine : Routine) (indent : Indent) (level : Nat) (before : String)
    (core : List Char) (shown : String) : Prop where
  text_put : (Node.put ⟨indent.unit, level, before⟩ routine.node).text =
    (Sink.fragments ⟨indent.unit, level, before⟩ routine.above).text ++ shown
  rows_shown : rows shown =
    (Piece.margin indent.unit level ++ (routine.signature ++ " \x7b")).toList ::
      (core.splitOn '\n').map (Text.inset (Piece.margin indent.unit (level + 1))) ++
      [(Piece.margin indent.unit level ++ "\x7d").toList, []]
  rows_core : ((core.splitOn '\n').map (Text.inset (Piece.margin indent.unit (level + 1)))).map
      (Text.outset? (Piece.margin indent.unit (level + 1))) =
    (core.splitOn '\n').map fun row => some (Text.emptied row)

/-- **Statements are carried over as they stand.** A routine has a block of statements, in a text
without carriage returns where something can be seen, and a signature on one line. At any level and
in any indentation it is written as its signature, one row for each row of the statements, the line
feeds at their two ends apart, and a closing brace; and without the margin these rows are those of
the statements, emptied where only blanks stood. The cut into lines that this rests on is stable: a
text without carriage returns that is cut, written at level zero and cut again is cut the same. -/
theorem statements_verbatim (routine : Routine) (text other : String) (indent : Indent)
    (level : Nat) (before : String) :
    (routine.body = some (.block text) → '\r' ∉ text.toList → Text.allBlank text = false →
      OneLine routine.signature →
        ∃ core shown, Strips text core ∧ routine.Shows indent level before core shown) ∧
    ('\r' ∉ other.toList →
      Fragment.ofText (Fragment.written indent (Fragment.ofText other)) =
        Fragment.ofText other) := by
  refine ⟨fun hbody hreturn hvisible hsignature => ?_, Fragment.ofText_written indent⟩
  refine ⟨(Text.trimNewlines text).toList,
    Piece.join indent.unit level
      (Fragment.piecesOf (Body.attach routine.signature (some (.block text)))),
    Text.strips_trimNewlines text, { text_put := ?_, rows_shown := ?_, rows_core := ?_ }⟩
  · rw [Node.put, node_fragments, hbody]
    simp only [Sink.fragments_eq_raw, Fragment.piecesOf_append, Piece.join_append]
    exact (String.append_assoc ..).symm
  · exact Body.rows_attach_block hsignature hreturn hvisible indent level
  · rw [List.map_map]
    exact List.map_congr_left fun row _ => Text.outset?_inset _ row

/-- The statements start and end with line feeds, and have a line of blanks and an empty line in
between. -/
def looseStatements : String :=
  "\n\n  a();\n \t\n\n    b();\n\n"

/-- A method with a doc comment and an annotation above its loose statements. -/
def looseMethod : Routine :=
  .method
    { callable :=
        { name := "m", info := { doc := some "Runs." }, body := some (.block looseStatements) }
      isOverride := true }

theorem statements_verbatim_looseMethod :
    (∃ core shown, Strips looseStatements core ∧ looseMethod.Shows .tab 1 "" core shown) ∧
    Fragment.ofText (Fragment.written .tab (Fragment.ofText looseStatements)) =
      Fragment.ofText looseStatements ∧
    (Node.put ⟨"\t", 1, ""⟩ looseMethod.node).text =
      "\t/// Runs.\n\t@override\n\tm() \x7b\n\t\t  a();\n\n\n\t\t    b();\n\t\x7d\n" := by
  have hreturn : '\r' ∉ looseStatements.toList := by decide
  obtain ⟨hshows, hstable⟩ :=
    statements_verbatim looseMethod looseStatements looseStatements .tab 1 ""
  exact ⟨hshows rfl hreturn (by decide) (by decide), hstable hreturn, by decide +kernel⟩

end Routine

end DartSource
