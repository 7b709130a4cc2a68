import DartSource.Proofs.File.Assembly
import DartSource.Proofs.Signature.Callables

/-!
# Where parameters stand

A parameter list is written group by group, and the writer handles one of the two groups that may
be left out: a list with both would lose the named one. The rules of a list keep that from
happening. For a list that obeys them the text is what one would write down at once
(`ParamList.layout`): all parameters in order, a bracket in front of the first that may be left out,
and the other bracket behind the last.

A signature holds this text in one place, and what stands around it does not depend on the
parameters (`Callable.signature_withParams_eq`, `Constructor.signature_withParams_eq`). The node
that is built holds its signature in one place likewise (`Body.exists_written_attach`). So nothing
that is given as a parameter gets lost, and nothing is written twice.
-/

namespace DartSource

/-! ### Texts with commas -/

namespace Text

/-- A gap stands between two lists of texts unless there is nothing in front. -/
theorem commaSep_append_cons (front : List String) (first : String) (rest : List String) :
    commaSep (front ++ first :: rest) =
      commaSep front ++ (if front.isEmpty then "" else ", ") ++ commaSep (first :: rest) := by
  unfold commaSep
  cases front with
  | nil =>
    rw [List.nil_append, List.isEmpty_nil, if_pos rfl, String.intercalate_nil,
      String.append_empty, String.empty_append]
  | cons text front =>
    rw [String.intercalate_append_of_ne_nil (List.cons_ne_nil _ _) (List.cons_ne_nil _ _),
      List.isEmpty_cons, if_neg Bool.false_ne_true]

/-- A mark in front of the first text behind some others. -/
theorem commaSep_modify (front : List String) (mark first : String) (rest : List String) :
    commaSep ((front ++ first :: rest).modify front.length (mark ++ ·)) =
      commaSep front ++ (if front.isEmpty then "" else ", ") ++
        (mark ++ commaSep (first :: rest)) := by
  rw [List.modify_eq_take_drop, List.take_left, List.drop_left, List.modifyHead_cons,
    commaSep_append_cons]
  unfold commaSep
  rw [String.intercalate_cons_append]

/-- A mark for a text that is not there. -/
theorem modify_length (texts : List String) (mark : String) :
    texts.modify texts.length (mark ++ ·) = texts := by
  rw [List.modify_eq_take_drop, List.take_length, List.drop_length, List.modifyHead_nil,
    List.append_nil]

end Text

/-! ### Lists -/

namespace ParamList

/-- The brackets around the group of parameters that may be left out, if there is such a group. -/
def brackets (list : ParamList) : String × String :=
  if list.optional ≠ [] then ("[", "]")
  else if list.named ≠ [] then ("\x7b", "\x7d")
  else ("", "")

/-- All parameters, group by group, separated by commas. The opening bracket stands in front of the
first parameter behind the required ones, the closing one in front of the parenthesis. With
`multiline` a comma follows the last parameter, if there is one. -/
def layout (list : ParamList) (multiline : Bool) : String :=
  "(" ++
    Text.commaSep
      ((list.toList.map Param.text).modify list.required.length (list.brackets.1 ++ ·)) ++
    (if multiline = true ∧ list.toList ≠ [] then "," else "") ++ list.brackets.2 ++ ")"

/-- The layout of a list that has one of the two groups. -/
theorem layout_of_group {list : ParamList} {first : Param} {rest : List Param}
    {opening closing : String} (hlist : list.toList = list.required ++ first :: rest)
    (hbrackets : list.brackets = (opening, closing)) (multiline : Bool) :
    list.layout multiline =
      "(" ++ groupText list.required ++
        ((if list.required.isEmpty then "" else ", ") ++ opening ++ groupText (first :: rest) ++
          (if multiline then "," else "") ++ closing) ++ ")" := by
  have hcomma : (if multiline = true ∧ list.toList ≠ [] then "," else "") =
      if multiline then "," else "" := by
    have hne : list.toList ≠ [] := by
      rw [hlist]
      exact List.append_ne_nil_of_right_ne_nil _ (List.cons_ne_nil first rest)
    simp only [hne, ne_eq, not_false_eq_true, and_true]
  have hitems := Text.commaSep_modify (list.required.map Param.text) opening first.text
    (rest.map Param.text)
  rw [List.length_map, List.isEmpty_map, ← List.map_cons, ← List.map_append, ← hlist] at hitems
  unfold layout
  rw [hcomma, hbrackets, hitems]
  simp only [groupText, String.append_assoc]

/-- The layout of a list that has neither: there is no bracket, and nothing to put it before. -/
theorem layout_of_required (required : List Param) (multiline : Bool) :
    layout { required } multiline =
      "(" ++ groupText required ++
        (if required.isEmpty then "" else if multiline then "," else "") ++ ")" := by
  have hlist : toList { required } = required := by
    unfold toList
    rw [List.append_nil, List.append_nil]
  have hbrackets : brackets { required } = ("", "") := rfl
  have hcomma : (if multiline = true ∧ required ≠ [] then "," else "") =
      if required.isEmpty then "" else if multiline then "," else "" := by
    cases required <;> simp
  have hitems := Text.modify_length (required.map Param.text) ""
  rw [List.length_map] at hitems
  unfold layout groupText
  rw [hlist, hbrackets, hitems, hcomma, String.append_empty]

/-- **A list with at most one of the two groups is written as it is laid out.** -/
theorem source_eq_layout {list : ParamList} (h : list.optional = [] ∨ list.named = [])
    (multiline : Bool) : list.source multiline = list.layout multiline := by
  obtain ⟨required, optional, named⟩ := list
  cases optional with
  | cons first rest =>
    obtain rfl : named = [] := h.resolve_left (List.cons_ne_nil first rest)
    rw [layout_of_group (List.append_nil _) rfl]
    rfl
  | nil =>
    cases named with
    | cons first rest =>
      have hlist : toList ⟨required, [], first :: rest⟩ = required ++ first :: rest :=
        congrArg (· ++ first :: rest) (List.append_nil required)
      rw [layout_of_group hlist rfl]
      rfl
    | nil =>
      rw [layout_of_required]
      rfl

end ParamList

/-! ### Signatures -/

/-- What stands around the parameters of a callable does not depend on them. -/
theorem Callable.exists_signature_eq (callable : Callable) (flags : List (String × Bool)) :
    ∃ front back, ∀ params, (callable.withParams params).signature flags =
      front ++ (ParamList.ofParams params).source callable.multiline ++ back := by
  refine ⟨keywords (("external", callable.isExternal) :: flags) ++
    callable.returns.elim "" (· ++ " ") ++ callable.name ++ TypeParam.listText callable.typeParams,
    Body.marker callable.isAsync callable.isGenerator, fun params => ?_⟩
  unfold signature withParams
  cases callable.returns with
  | none => rfl
  | some type => rfl

theorem Method.exists_signature_eq (method : Method) :
    ∃ front back, ∀ params, (method.withParams params).signature =
      front ++ (ParamList.ofParams params).source method.callable.multiline ++ back :=
  method.callable.exists_signature_eq [("static", method.isStatic)]

/-- Nor does what stands around the parameters of a constructor. -/
theorem Constructor.exists_signature_eq (constructor : Constructor) :
    ∃ front back, ∀ params, (constructor.withParams params).signature =
      front ++ (ParamList.ofParams params).source constructor.multiline ++ back := by
  refine ⟨keywords
      [("external", constructor.isExternal), ("const", constructor.isConst),
       ("factory", constructor.isFactory)] ++ constructor.displayName,
    if constructor.initializers.isEmpty then ""
    else " : " ++ Text.commaSep (constructor.initializers.map Initializer.text), fun params => ?_⟩
  rfl

/-! ### Nodes -/

namespace Fragment

/-- A block begins with its header. -/
theorem exists_written_block (indent : Indent) (body : List Fragment) (close : Option String) :
    ∃ behind, ∀ header, written indent [.block header body close] = header ++ behind := by
  refine ⟨"\n" ++ Piece.join indent.unit 0
    ((piecesOf body).map Piece.deepen ++ close.toList.map fun text => ⟨0, .line text⟩),
    fun header => ?_⟩
  rw [written_eq_join, piecesOf_cons, piecesOf_nil, List.append_nil, pieces, List.cons_append,
    Piece.join_cons, Piece.text_line_zero, String.append_assoc]

/-- A text begins with what stands in front of a visible character on its first line. -/
theorem exists_written_ofText (indent : Indent) {c : Char} (hc : Text.isBlank c = false)
    (rest : String) :
    ∃ behind, ∀ front, Text.OneLine front →
      written indent (ofText (front ++ String.singleton c ++ rest)) = front ++ behind := by
  have hfeed : c ≠ '\n' := by
    rintro rfl
    exact absurd hc (by decide)
  have hreturn : c ≠ '\r' := by
    rintro rfl
    exact absurd hc (by decide)
  let first := c :: (Text.lineChars rest.toList).headD []
  let more := (Text.lineChars rest.toList).tail.map fun line => ofLine (String.ofList line)
  refine ⟨String.ofList first ++ "\n" ++ written indent more, fun front hfront => ?_⟩
  have hlines : Text.lineChars (front ++ String.singleton c ++ rest).toList =
      (front.toList ++ first) :: (Text.lineChars rest.toList).tail := by
    rw [String.toList_append, String.toList_append, String.toList_singleton, List.append_assoc]
    exact Text.lineChars_append hfront hfeed hreturn rest.toList
  -- the first line is not blank, whatever the front is
  have hvisible : ¬Text.allBlank (front ++ String.ofList first) = true := by
    rw [Text.allBlank_append, Bool.and_eq_true, not_and]
    intro _ hblank
    unfold Text.allBlank at hblank
    rw [String.toList_ofList, List.all_cons, hc] at hblank
    exact absurd hblank Bool.false_ne_true
  have htext : ofText (front ++ String.singleton c ++ rest) =
      ofLine (front ++ String.ofList first) :: more := by
    unfold ofText Text.lines
    rw [hlines, List.map_cons, List.map_cons, String.ofList_append, String.ofList_toList,
      List.map_map]
    rfl
  rw [htext, written_cons, ofLine, if_neg hvisible, written_line]
  simp only [String.append_assoc]

end Fragment

/-- **A signature stands in front of its body as it is.** An arrow body is cut into lines together
with the signature, which must then be on one line. -/
theorem Body.exists_written_attach (indent : Indent) (body : Option Body) :
    ∃ behind, ∀ signature, (body.any isArrow = true → Text.OneLine signature) →
      Fragment.written indent (attach signature body) = signature ++ behind := by
  cases body with
  | none =>
    refine ⟨";\n", fun signature _ => ?_⟩
    rw [attach, Fragment.written_line, String.append_assoc]
    rfl
  | some body =>
    cases body with
    | block text =>
      by_cases hblank : Text.allBlank text = true
      · refine ⟨" \x7b\x7d\n", fun signature _ => ?_⟩
        rw [attach, if_pos hblank, Fragment.written_line, String.append_assoc]
        rfl
      · obtain ⟨behind, hwritten⟩ := Fragment.exists_written_block indent
          (Fragment.ofText (Text.trimNewlines text)) (some "\x7d")
        refine ⟨" \x7b" ++ behind, fun signature _ => ?_⟩
        rw [attach, if_neg hblank, hwritten, String.append_assoc]
    | arrow expression =>
      obtain ⟨behind, hwritten⟩ := Fragment.exists_written_ofText indent
        (by decide : Text.isBlank '=' = false) ("> " ++ Text.trim expression ++ ";")
      refine ⟨" " ++ behind, fun signature hline => ?_⟩
      have hspace : Text.OneLine (signature ++ " ") := (hline rfl).append (by decide)
      have htext : signature ++ " => " ++ Text.trim expression ++ ";" =
          signature ++ " " ++ String.singleton '=' ++ ("> " ++ Text.trim expression ++ ";") := by
        have harrow : " => " = " " ++ String.singleton '=' ++ "> " := by decide
        rw [harrow]
        simp only [String.append_assoc]
      rw [attach, htext, hwritten _ hspace, String.append_assoc]

/-! ### The main statement -/

/-- Drafts that differ in their parameters alone show them in one place. The signature of what is
built is the laid out list between two texts, and the text of the node is the signature between two
others, which are all the same whatever the parameters are. The list holds every parameter once. -/
def ParamList.ShownOnce {α : Type} (build : List Param → Except Fault α) (multiline : Bool)
    (body : Option Body) (signature : α → String) (fragments : α → List Fragment) : Prop :=
  ∃ front back above behind, ∀ params node, build params = .ok node →
    (ofParams params).Partitions params ∧
      signature node = front ++ (ofParams params).layout multiline ++ back ∧
      ((body.any Body.isArrow = true → Text.OneLine (signature node)) →
        Fragment.render (fragments node) = above ++ signature node ++ behind)

/-- A node that is written as some fragments and a signature with its body shows its parameters
once if its signature does. -/
theorem ParamList.shownOnce_of_signature {α : Type} {build : List Param → Except Fault α}
    {multiline : Bool} {body : Option Body} {signature : α → String}
    {fragments : α → List Fragment} (make : List Param → α) (top : List Fragment)
    (hmake : ∀ params node, build params = .ok node →
      (ofParams params).Hygienic ∧ make params = node)
    (hsignature : ∃ front back, ∀ params,
      signature (make params) = front ++ (ofParams params).source multiline ++ back)
    (hfragments : ∀ params,
      fragments (make params) = top ++ Body.attach (signature (make params)) body) :
    ShownOnce build multiline body signature fragments := by
  obtain ⟨front, back, hsignature⟩ := hsignature
  obtain ⟨behind, hwritten⟩ := Body.exists_written_attach .standard body
  refine ⟨front, back, Fragment.render top, behind, fun params node hbuild => ?_⟩
  obtain ⟨hhygienic, rfl⟩ := hmake params node hbuild
  refine ⟨partitions_ofParams params, ?_, fun hline => ?_⟩
  · rw [hsignature, source_eq_layout hhygienic.groups]
  · rw [hfragments, ← Fragment.written_standard, Fragment.written_append, hwritten _ hline,
      String.append_assoc]

/-- **Every parameter is written once, and the brackets stand in their places.** A list that obeys
its rules is written as it is laid out, and whatever method, function or constructor is built shows
its parameters in one place. -/
theorem ParamList.written_once :
    (∀ (owner : Subject) (list : ParamList), Rule.Obeyed (list.rules owner) →
      ∀ multiline, list.source multiline = list.layout multiline) ∧
    (∀ method : Method, ShownOnce (fun params => (method.withParams params).build)
      method.callable.multiline method.callable.body Method.signature Method.fragments) ∧
    (∀ decl : FunctionDecl, ShownOnce (fun params => (decl.withParams params).build)
      decl.callable.multiline decl.callable.body (fun node => node.callable.signature [])
      FunctionDecl.fragments) ∧
    ∀ constructor : Constructor, ShownOnce (fun params => (constructor.withParams params).build)
      constructor.multiline constructor.body Constructor.signature Constructor.fragments := by
  refine ⟨fun owner list h => source_eq_layout (hygienic_of_rules h).groups, ?_, ?_, ?_⟩
  · intro method
    refine shownOnce_of_signature method.withParams (method.callable.info.fragments ++
      if method.isOverride then [.line "@override"] else []) (fun params node hbuild => ?_)
      method.exists_signature_eq fun params => rfl
    obtain ⟨hobeyed, hnode⟩ := Rule.enforce_eq_ok_iff.mp hbuild
    rw [Method.rules, Rule.obeyed_append] at hobeyed
    exact ⟨(Callable.hygienic_of_rules hobeyed.1).1, hnode⟩
  · intro decl
    refine shownOnce_of_signature decl.withParams decl.callable.info.fragments
      (fun params node hbuild => ?_) (decl.callable.exists_signature_eq []) fun params => rfl
    obtain ⟨hobeyed, hnode⟩ := Rule.enforce_eq_ok_iff.mp hbuild
    exact ⟨(Callable.hygienic_of_rules hobeyed).1, hnode⟩
  · intro constructor
    -- building arranges the initializers and leaves the parameters as they are
    let arranged : Constructor :=
      { constructor with initializers := Initializer.arrange constructor.initializers }
    refine shownOnce_of_signature arranged.withParams constructor.info.fragments
      (fun params node hbuild => ?_) arranged.exists_signature_eq fun params => rfl
    obtain ⟨hobeyed, hnode⟩ := Constructor.build_eq_ok_iff.mp hbuild
    exact ⟨Constructor.hygienic_of_rules hobeyed, hnode⟩

/-- A required parameter and two named ones, given the other way round. -/
def Param.namedFirst : List Param :=
  [{ name := "b", isNamed := true, isRequired := true, type := some "int" },
   { name := "c", isNamed := true, defaultValue := some "0" }, { name := "a" }]

/-- The list of a multiline method, by itself and in the text of the method. -/
theorem ParamList.written_once_namedFirst :
    let list := ofParams Param.namedFirst
    let method : Method :=
      { callable := { name := "m", multiline := true, body := some (.arrow "a + b") } }
    let node := method.withParams Param.namedFirst
    Rule.Obeyed (list.rules ⟨.method, "m"⟩) ∧
      list.source true = list.layout true ∧
      list.layout true = "(a, \x7brequired int b, c = 0,\x7d)" ∧
      node.build = .ok node ∧
      ∃ above behind, Fragment.render node.fragments = above ++ node.signature ++ behind := by
  intro list method node
  have hobeyed : Rule.Obeyed (list.rules ⟨.method, "m"⟩) := by
    rw [← Rule.firstFault?_eq_none_iff]
    decide +kernel
  have hbuild : node.build = .ok node := by decide +kernel
  obtain ⟨_, _, above, behind, hshown⟩ := ParamList.written_once.2.1 method
  refine ⟨hobeyed, ParamList.written_once.1 _ list hobeyed true, by decide +kernel, hbuild,
    above, behind, ?_⟩
  exact (hshown Param.namedFirst node hbuild).2.2 fun _ => by decide +kernel

end DartSource
