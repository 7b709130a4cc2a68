import DartSource.Directive.Basic
import DartSource.Proofs.Layout.Indentation
import DartSource.Proofs.Node.Closing

/-!
# Nodes one after the other

A member, a declaration or a directive writes its own end: a semicolon or a closing brace, with a
line feed behind it (`Node.closed_fragments`). Nothing has to be put between two of them, and
nothing is. What a list of nodes writes is what its nodes write, one after the other.

The second part rests on the sink alone. Fragments leave the level of the sink as they found it
(`Sink.fragments_eq_raw`), so each node of a list meets the level at which the list began, and
writes there what it would write alone (`Node.putAll_eq_raw`). A list may therefore be cut anywhere,
down to single nodes (`Node.putAll_append`, `Node.putAll_eq_foldl`).
-/

namespace DartSource

/-! ### Nodes -/

/-- What a sink takes as a whole. -/
inductive Node where
  | member (node : Member)
  | declaration (node : Declaration)
  | directive (node : Directive)
  deriving DecidableEq, Repr

namespace Node

/-- The node with what stands above it. -/
def fragments : Node → List Fragment
  | .member node => node.fragments
  | .declaration node => node.fragments
  | .directive node => node.fragments

/-- The text of a node that stands alone, with the customary indentation. -/
def render (node : Node) : String :=
  Fragment.render node.fragments

/-- Puts a node into a sink. -/
def put (sink : Sink) (node : Node) : Sink :=
  sink.fragments node.fragments

/-- Puts a list of nodes into a sink, as one list of fragments. -/
def putAll (sink : Sink) (nodes : List Node) : Sink :=
  sink.fragments (nodes.flatMap fragments)

/-- What a node alone writes at a level, into a sink that holds nothing yet. -/
def textAt (unit : String) (level : Nat) (node : Node) : String :=
  (put { unit, level, text := "" } node).text

end Node

/-! ### How nodes end -/

/-- Every member is closed: a field by its semicolon, all others as their bodies are. -/
theorem Member.closed_fragments (member : Member) : Fragment.Closed member.fragments := by
  cases member with
  | property member => exact (Fragment.closed_line (Text.closes_semicolon _)).behind _
  | getter member => exact (Body.closed_attach _ _).behind _
  | setter member => exact (Body.closed_attach _ _).behind _
  | constructor member => exact (Body.closed_attach _ _).behind _
  | method member => exact (Body.closed_attach _ _).behind _

/-- Every directive is a line that ends with a semicolon. -/
theorem Directive.closes_text (directive : Directive) : Text.Closes directive.text := by
  cases directive with
  | importLib directive => exact Text.closes_semicolon _
  | exportLib directive => exact Text.closes_semicolon _
  | part uri => exact Text.closes_semicolon _
  | partOf owner =>
    cases owner with
    | library name => exact Text.closes_semicolon _
    | reference uri => exact Text.closes_semicolon _

namespace Node

/-- **Every node is closed**, built or not and whatever texts it holds. -/
theorem closed_fragments (node : Node) : Fragment.Closed node.fragments := by
  cases node with
  | member node => exact node.closed_fragments
  | declaration node => exact node.closed_fragments
  | directive node => exact Fragment.closed_line node.closes_text

/-! ### What nodes write -/

theorem put_eq_raw (sink : Sink) (node : Node) :
    put sink node = sink.raw (node.textAt sink.unit sink.level) := by
  have halone : node.textAt sink.unit sink.level =
      Piece.join sink.unit sink.level (Fragment.piecesOf node.fragments) := by
    rw [textAt, put, Sink.fragments_eq_raw]
    exact String.empty_append
  rw [put, Sink.fragments_eq_raw, halone]

/-- Where a node is rendered alone, it is written at level zero. -/
theorem render_eq_textAt (node : Node) : node.render = node.textAt Indent.standard.unit 0 :=
  rfl

/-- A node ends its last line, at every level and in every indentation. -/
theorem closed_textAt (unit : String) (level : Nat) (node : Node) :
    Text.Closed (node.textAt unit level) := by
  rw [textAt, put, Sink.fragments_eq_raw]
  change Text.Closed ("" ++ Piece.join unit level (Fragment.piecesOf node.fragments))
  rw [String.empty_append]
  exact node.closed_fragments.text unit level

/-- The nodes in front are written first, and those behind into the sink that this leaves. -/
theorem putAll_append (sink : Sink) (front rest : List Node) :
    putAll sink (front ++ rest) = putAll (putAll sink front) rest := by
  simp only [putAll, List.flatMap_append, Sink.fragments_eq_raw, Fragment.piecesOf_append,
    Piece.join_append, Sink.raw_raw]
  rfl

theorem putAll_cons (sink : Sink) (node : Node) (rest : List Node) :
    putAll sink (node :: rest) = putAll (put sink node) rest := by
  have hsingle : putAll sink [node] = put sink node := by
    rw [putAll, List.flatMap_singleton, put]
  rw [← List.singleton_append, putAll_append, hsingle]

/-- A list of nodes is put as its nodes are, one by one. -/
theorem putAll_eq_foldl (sink : Sink) (nodes : List Node) :
    putAll sink nodes = nodes.foldl put sink := by
  induction nodes generalizing sink with
  | nil => rfl
  | cons node rest ih => rw [putAll_cons, ih, List.foldl_cons]

/-- **A list appends what each of its nodes appends alone**, at the level of the sink, and changes
nothing else. -/
theorem putAll_eq_raw (sink : Sink) (nodes : List Node) :
    putAll sink nodes = sink.raw (String.join (nodes.map (textAt sink.unit sink.level))) := by
  induction nodes generalizing sink with
  | nil => exact (Sink.raw_empty sink).symm
  | cons node rest ih =>
    -- the first node leaves unit and level as they were, so the others stand where they stood
    rw [putAll_cons, ih, put_eq_raw, Sink.raw_raw, List.map_cons, String.join_cons]
    rfl

/-- **Nodes end their own lines, and a list of them is written node by node.** A node that is
rendered alone is not empty and ends with a semicolon or a closing brace and a line feed. A list
appends to any sink what its nodes, each of them alone, append at the level of the sink, and leaves
level and unit as they were. So it makes no difference where a list is cut and its parts put one
after the other, or whether its nodes are put one by one. -/
theorem putAll_concatenates (node : Node) (sink : Sink) (nodes : List Node) (cut : Nat) :
    (node.render ≠ "" ∧ Text.Closed node.render) ∧
    ((putAll sink nodes).text =
        sink.text ++ String.join (nodes.map (textAt sink.unit sink.level)) ∧
      (putAll sink nodes).level = sink.level ∧
      (putAll sink nodes).unit = sink.unit) ∧
    putAll (putAll sink (nodes.take cut)) (nodes.drop cut) = putAll sink nodes ∧
    nodes.foldl put sink = putAll sink nodes := by
  have hclosed : Text.Closed node.render := by
    rw [render_eq_textAt]
    exact closed_textAt _ _ node
  refine ⟨⟨hclosed.ne_empty, hclosed⟩, ?_, ?_, ?_⟩
  · rw [putAll_eq_raw]
    exact ⟨rfl, rfl, rfl⟩
  · rw [← putAll_append, List.take_append_drop]
  · exact (putAll_eq_foldl sink nodes).symm

-- an arrow over two lines, a type with a body and a directive, in a sink that stands one level deep
example :
    (putAll { unit := "  ", level := 1, text := "x\n" }
      [.member (.getter { name := "g", body := some (.arrow "a +\n    b") }),
        .declaration (.classDecl { name := "C", members := [.property { name := "p" }] }),
        .directive (.part (.relative "d"))]).text =
      "x\n  get g => a +\n      b;\n  class C \x7b\n    var p;\n  \x7d\n  part 'd';\n" := by
  decide +kernel

end Node

end DartSource
