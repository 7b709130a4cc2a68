import DartSource.Proofs.Declaration.Body
import DartSource.Proofs.Declaration.Legality

/-!
# Enums and their constants

An enum is legal when its names are usable, its constants are there and distinct, and its members
fit what its constants are: arguments need a constructor to take them, and as the values are
constants, fields of instances are final and constructors constant (`EnumDecl.Legal`). Constants and
members are checked by different rules that run over the two lists in turn; the rules together
accept exactly the legal enums (`EnumDecl.obeyed_rules_iff`).

In the body of an enum the constants come first, each behind its own doc comment and annotations. A
comma follows each but the last, and a semicolon the last if there are members. The constants are
written by a recursion on their list, which knows neither how many there are nor where it stands;
`join_constantFragments` says what it writes in terms of the index of each constant. So the body is
told for every enum at once, whatever texts it was given (`EnumDecl.Listed`).
-/

namespace DartSource

/-! ### Legal enums -/

namespace EnumDecl

/-- The clauses in which an enum names other types, with their keywords. -/
def clauses (decl : EnumDecl) : List (String × List String) :=
  [("with", decl.mixins), ("implements", decl.interfaces)]

/-- What an enum has to be. -/
structure Legal (decl : EnumDecl) : Prop where
  name : UsableName decl.name
  typeParams : ∀ param ∈ decl.typeParams, UsableName param.name
  distinctTypeParams : (decl.typeParams.map TypeParam.name).Nodup
  constants : decl.constants ≠ []
  distinctConstants : (decl.constants.map EnumConstant.name).Nodup
  /-- Where a constant passes arguments, some constructor takes them. -/
  arguments : (∃ constant ∈ decl.constants, constant.arguments ≠ none) →
    ∃ constructor, .constructor constructor ∈ decl.members
  fields : ∀ field, .property field ∈ decl.members → field.isStatic = false → field.isFinal = true
  constructors : ∀ constructor, .constructor constructor ∈ decl.members →
    (constructor.isConst = true ∨ constructor.isFactory = true) ∧
      constructor.className = decl.name
  /-- No clause names the enum itself. -/
  notSelf : ∀ clause ∈ decl.clauses, ∀ type ∈ clause.2, Supertype.referent type ≠ decl.name
  /-- Nothing is both mixed in and implemented. -/
  disjoint : ∀ mixin ∈ decl.mixins, ∀ interface ∈ decl.interfaces,
    Supertype.referent mixin ≠ Supertype.referent interface

variable {decl : EnumDecl} {s : Subject}

/-- The rule about arguments, which is asked of both lists at once. -/
theorem arguments_rule_iff :
    (decl.members.any Member.isConstructor ||
      !decl.constants.any EnumConstant.hasArguments) = true ↔
      ((∃ constant ∈ decl.constants, constant.arguments ≠ none) →
        ∃ constructor, .constructor constructor ∈ decl.members) := by
  have harguments : decl.constants.any EnumConstant.hasArguments = true ↔
      ∃ constant ∈ decl.constants, constant.arguments ≠ none := by
    rw [List.any_eq_true]
    refine exists_congr fun constant => and_congr_right fun _ => ?_
    exact Option.isSome_iff_ne_none
  rw [← harguments, ← Member.any_isConstructor_iff]
  cases decl.members.any Member.isConstructor <;>
    cases decl.constants.any EnumConstant.hasArguments <;> simp

/-- What an enum demands of its members, kind by kind. -/
theorem obeyed_memberRules_iff {members : List Member} :
    Rule.Obeyed (members.flatMap (memberRules s)) ↔
      (∀ field, .property field ∈ members → field.isStatic = false → field.isFinal = true) ∧
        ∀ constructor, .constructor constructor ∈ members →
          constructor.isConst = true ∨ constructor.isFactory = true := by
  have hfield : ∀ field, Rule.Obeyed (memberRules s (.property field)) ↔
      (field.isStatic = false → field.isFinal = true) := by
    intro field
    rw [memberRules, Rule.obeyed_cons, Subject.must_holds]
    cases field.isStatic <;> simp
  have hconstructor : ∀ constructor, Rule.Obeyed (memberRules s (.constructor constructor)) ↔
      constructor.isConst = true ∨ constructor.isFactory = true := by
    intro constructor
    rw [memberRules, Rule.obeyed_cons, Subject.must_holds, Bool.or_eq_true]
    exact and_iff_left Rule.obeyed_nil
  rw [Rule.obeyed_flatMap]
  refine ⟨fun h => ⟨fun field hmem => ?_, fun constructor hmem => ?_⟩, ?_⟩
  · exact (hfield field).mp (h _ hmem)
  · exact (hconstructor constructor).mp (h _ hmem)
  · rintro ⟨hfields, hconstructors⟩ member hmem
    cases member with
    | property field => exact (hfield field).mpr (hfields field hmem)
    | constructor member => exact (hconstructor member).mpr (hconstructors member hmem)
    | _ => exact Rule.obeyed_nil

/-- **The rules accept exactly the legal enums.** -/
theorem obeyed_rules_iff : Rule.Obeyed decl.rules ↔ decl.Legal := by
  have hself : (∀ clause ∈ decl.clauses, ∀ type ∈ clause.2,
      Supertype.referent type ≠ decl.name) ↔ _ := List.forall_mem_cons
  rw [List.forall_mem_singleton] at hself
  have hconstants : (!decl.constants.isEmpty) = true ↔ decl.constants ≠ [] := by
    rw [Bool.not_eq_true', List.isEmpty_eq_false_iff]
  have hdistinct : ∀ names : List String,
      Rule.Obeyed (Subject.distinct ⟨.enumDecl, decl.name⟩ "constant" [] names) ↔ names.Nodup :=
    fun names => Subject.obeyed_distinct_iff List.nodup_nil
  simp only [rules, List.append_assoc, Rule.obeyed_append, Rule.obeyed_cons, Rule.obeyed_nil,
    and_true, Subject.must_holds, Subject.obeyed_usableName, TypeParam.obeyed_rules_iff, hdistinct,
    arguments_rule_iff, obeyed_memberRules_iff, Supertype.obeyed_notSelf_iff,
    Supertype.obeyed_disjoint_iff, Supertype.obeyed_ownConstructors_iff, hconstants]
  refine ⟨?_, fun h => ?_⟩
  · rintro ⟨hname, ⟨husable, htypes⟩, hne, hnames, harguments, ⟨hfields, hconst⟩, hwith,
      himplements, hdisjoint, howner⟩
    exact ⟨hname, husable, htypes, hne, hnames, harguments, hfields,
      fun constructor hmem => ⟨hconst constructor hmem, howner constructor hmem⟩,
      hself.mpr ⟨hwith, himplements⟩, hdisjoint⟩
  · obtain ⟨hwith, himplements⟩ := hself.mp h.notSelf
    exact ⟨h.name, ⟨h.typeParams, h.distinctTypeParams⟩, h.constants, h.distinctConstants,
      h.arguments, ⟨h.fields, fun constructor hmem => (h.constructors constructor hmem).1⟩, hwith,
      himplements, h.disjoint, fun constructor hmem => (h.constructors constructor hmem).2⟩

end EnumDecl

/-! ### What stands above a node -/

namespace Meta

/-- The lines above a node: its doc comment line by line, then its annotations. -/
def lines (info : Meta) : List String :=
  (info.doc.toList.flatMap Text.lines).map Fragment.docLine ++ info.annotations.map annotationLine

/-- The text above a node behind a margin. -/
def above (margin : String) (info : Meta) : String :=
  String.join (info.lines.map fun line => margin ++ line ++ "\n")

theorem piecesOf_fragments (info : Meta) :
    Fragment.piecesOf info.fragments = info.lines.map fun line => ⟨0, .line line⟩ := by
  have hdoc : Fragment.piecesOf (info.doc.toList.map Fragment.doc) =
      ((info.doc.toList.flatMap Text.lines).map Fragment.docLine).map fun line =>
        ⟨0, .line line⟩ := by
    rw [Fragment.piecesOf_eq_flatMap, List.flatMap_map, List.map_map, List.map_flatMap]
    exact List.flatMap_congr fun text _ => rfl
  have hannotations : Fragment.piecesOf
      (info.annotations.map fun mark => .line (annotationLine mark)) =
      (info.annotations.map annotationLine).map fun line => ⟨0, .line line⟩ := by
    rw [Fragment.piecesOf_eq_flatMap, List.flatMap_map, List.map_map]
    exact List.map_eq_flatMap.symm
  rw [fragments, lines, Fragment.piecesOf_append, hdoc, hannotations, List.map_append]

theorem join_fragments (unit : String) (level : Nat) (info : Meta) :
    Piece.join unit level (Fragment.piecesOf info.fragments) =
      info.above (Piece.margin unit level) := by
  rw [piecesOf_fragments, Piece.join, List.map_map]
  rfl

end Meta

/-! ### Constants in the body of an enum -/

namespace EnumConstant

/-- The text of a built constant ends with its name or with the arguments in parentheses. -/
theorem Built.getLast?_text {constant : EnumConstant} (h : constant.Built) {c : Char}
    (hc : constant.text.toList.getLast? = some c) : Text.isIdentifierPart c = true ∨ c = ')' := by
  unfold text at hc
  split at hc
  · unfold Initializer.callText at hc
    rw [String.toList_append, List.getLast?_append] at hc
    exact .inr (Option.some.inj hc).symm
  · have hname : UsableName constant.name := h.usable _ List.mem_cons_self
    exact .inl (Text.isIdentifierPart_of_mem hname.1 c (List.mem_of_getLast? hc))

/-- Whether a mark ends the line of a constant is up to what was put behind the constant. -/
theorem Built.getLast?_text_append {constant : EnumConstant} (h : constant.Built) {mark : Char}
    (hpart : Text.isIdentifierPart mark = false) (hparen : mark ≠ ')') (behind : String) :
    (constant.text ++ behind).toList.getLast? = some mark ↔
      behind.toList.getLast? = some mark := by
  rw [String.toList_append, List.getLast?_append]
  cases behind.toList.getLast? with
  | none =>
    -- nothing was put there, and the text itself does not end with the mark
    refine iff_of_false (fun hlast => ?_) (Option.some_ne_none mark).symm
    obtain hname | hcall := h.getLast?_text hlast
    · exact Bool.false_ne_true (hpart.symm.trans hname)
    · exact hparen hcall
  | some last => rfl

end EnumConstant

namespace EnumDecl

/-- The lines of a constant with what stands above it and what follows it. -/
def constantText (margin : String) (constant : EnumConstant) (behind : String) : String :=
  constant.info.above margin ++ margin ++ constant.text ++ behind ++ "\n"

/-- One constant and its line, whatever is put behind it. -/
theorem join_constant (unit : String) (level : Nat) (constant : EnumConstant) (behind : String) :
    Piece.join unit level (Fragment.piecesOf
      (constant.info.fragments ++ [.line (constant.text ++ behind)])) =
      constantText (Piece.margin unit level) constant behind := by
  have hline : Piece.join unit level (Fragment.piecesOf [.line (constant.text ++ behind)]) =
      Piece.margin unit level ++ (constant.text ++ behind) ++ "\n" := by
    rw [Fragment.piecesOf_cons, Fragment.piecesOf_nil, List.append_nil, Fragment.pieces,
      Piece.join_cons, Piece.join_nil, String.append_empty]
    rfl
  rw [Fragment.piecesOf_append, Piece.join_append, Meta.join_fragments, hline, constantText]
  simp only [String.append_assoc]

/-- The recursion that writes the constants finds the place of each: a comma is put behind all but
the one at the last index. -/
theorem join_constantFragments (unit : String) (level : Nat) (close : String)
    (constants : List EnumConstant) :
    Piece.join unit level (Fragment.piecesOf (constantFragments close constants)) =
      String.join (constants.mapIdx fun index constant =>
        constantText (Piece.margin unit level) constant
          (if index + 1 < constants.length then "," else close)) := by
  induction constants with
  | nil => rfl
  | cons first rest ih =>
    rw [List.mapIdx_cons, String.join_cons]
    cases rest with
    | nil =>
      rw [constantFragments, join_constant]
      exact String.append_empty.symm
    | cons second more =>
      -- behind the first constant all indices are one less, and so is the number of constants
      have hshift : ∀ index : Nat, index + 1 + 1 < (first :: second :: more).length ↔
          index + 1 < (second :: more).length := fun index => Nat.add_lt_add_iff_right
      have hcomma : 0 + 1 < (first :: second :: more).length :=
        Nat.succ_lt_succ (Nat.succ_pos more.length)
      simp only [hshift, if_pos hcomma]
      rw [← ih, ← join_constant, ← Piece.join_append, ← Fragment.piecesOf_append, constantFragments,
        List.append_assoc]
      rfl

/-- What follows the constant at an index: a comma, or a semicolon behind the last constant if
members follow. -/
def terminator (decl : EnumDecl) (index : Nat) : String :=
  if index + 1 < decl.constants.length then ","
  else if decl.members = [] then "" else ";"

/-- How an enum lists its constants. -/
structure Listed (indent : Indent) (decl : EnumDecl) : Prop where
  /-- Each constant is there once, in the given order, below its own doc comment and annotations. -/
  text : Fragment.written indent decl.fragments =
    decl.info.above "" ++ decl.header ++ " \x7b\n" ++
      String.join (decl.constants.mapIdx fun index constant =>
        constantText indent.unit constant (decl.terminator index)) ++
      (if decl.members = [] then ""
        else "\n" ++ Piece.join indent.unit 1
          (Fragment.piecesOf (Member.bodyFragments decl.members))) ++ "\x7d\n"
  comma : ∀ index constant, decl.constants[index]? = some constant →
    ((constant.text ++ decl.terminator index).toList.getLast? = some ',' ↔
      index + 1 < decl.constants.length)
  semicolon : ∀ index constant, decl.constants[index]? = some constant →
    ((constant.text ++ decl.terminator index).toList.getLast? = some ';' ↔
      index + 1 = decl.constants.length ∧ decl.members ≠ [])
  /-- Nothing is added to the last constant if there are no members. -/
  bare : ∀ index constant, decl.constants[index]? = some constant →
    (constant.text ++ decl.terminator index = constant.text ↔
      index + 1 = decl.constants.length ∧ decl.members = [])

variable {decl : EnumDecl}

/-- The three ways in which the line of a constant ends. -/
theorem terminator_cases {index : Nat} (h : index < decl.constants.length) :
    (index + 1 < decl.constants.length ∧ decl.terminator index = ",") ∨
      (index + 1 = decl.constants.length ∧ decl.members ≠ [] ∧ decl.terminator index = ";") ∨
      (index + 1 = decl.constants.length ∧ decl.members = [] ∧ decl.terminator index = "") := by
  unfold terminator
  obtain hlast | hmore := (Nat.succ_le_of_lt h).eq_or_lt
  · rw [if_neg hlast.not_lt]
    by_cases hmembers : decl.members = []
    · exact .inr (.inr ⟨hlast, hmembers, if_pos hmembers⟩)
    · exact .inr (.inl ⟨hlast, hmembers, if_neg hmembers⟩)
  · exact .inl ⟨hmore, if_pos hmore⟩

/-- Between the braces stand the constants, then the members behind an empty line. -/
theorem join_bodyFragments (indent : Indent) (decl : EnumDecl) :
    Piece.join indent.unit 1 (Fragment.piecesOf decl.bodyFragments) =
      String.join (decl.constants.mapIdx fun index constant =>
        constantText indent.unit constant (decl.terminator index)) ++
      (if decl.members = [] then ""
        else "\n" ++ Piece.join indent.unit 1
          (Fragment.piecesOf (Member.bodyFragments decl.members))) := by
  have hmargin : Piece.margin indent.unit 1 = indent.unit :=
    (Piece.margin_succ indent.unit 0).trans String.append_empty
  unfold bodyFragments terminator
  by_cases hmembers : decl.members = []
  · rw [if_pos (List.isEmpty_iff.mpr hmembers), join_constantFragments, hmargin]
    simp only [if_pos hmembers, String.append_empty]
  · rw [if_neg (mt List.isEmpty_iff.mp hmembers), Fragment.piecesOf_append, Piece.join_append,
      join_constantFragments, hmargin, Fragment.piecesOf_cons, Piece.join_append]
    simp only [if_neg hmembers]
    rfl

/-- There is something between the braces of an enum with constants. -/
theorem bodyFragments_ne_nil (h : decl.constants ≠ []) : decl.bodyFragments ≠ [] := by
  unfold bodyFragments
  split
  · exact (Declaration.framed_constantFragments "" h).ne_nil
  · exact List.append_ne_nil_of_left_ne_nil (Declaration.framed_constantFragments ";" h).ne_nil _

/-- An enum with constants is its header with the constants and members in braces. -/
theorem written_fragments (indent : Indent) (h : decl.constants ≠ []) :
    Fragment.written indent decl.fragments =
      decl.info.above "" ++ decl.header ++ " \x7b\n" ++
        Piece.join indent.unit 1 (Fragment.piecesOf decl.bodyFragments) ++ "\x7d\n" := by
  have hopen : " \x7b\n" = " \x7b" ++ "\n" := by decide
  have habove : Fragment.written indent decl.info.fragments = decl.info.above "" := by
    rw [Fragment.written_eq_join]
    exact Meta.join_fragments indent.unit 0 decl.info
  rw [fragments, Fragment.written_append, Fragment.written_braced,
    if_neg (bodyFragments_ne_nil h), habove, hopen]
  simp only [String.append_assoc]

/-- How the line of a constant ends says whether the constant is the last one and members follow. -/
theorem line_ends (h : (Declaration.enumDecl decl).Built) {index : Nat} {constant : EnumConstant}
    (hat : decl.constants[index]? = some constant) :
    ((constant.text ++ decl.terminator index).toList.getLast? = some ',' ↔
        index + 1 < decl.constants.length) ∧
      ((constant.text ++ decl.terminator index).toList.getLast? = some ';' ↔
        index + 1 = decl.constants.length ∧ decl.members ≠ []) ∧
      (constant.text ++ decl.terminator index = constant.text ↔
        index + 1 = decl.constants.length ∧ decl.members = []) := by
  have hbuilt : constant.Built := h.constants constant (List.mem_of_getElem? hat)
  have hlt : index < decl.constants.length := (List.getElem?_eq_some_iff.mp hat).1
  rw [hbuilt.getLast?_text_append rfl (by decide), hbuilt.getLast?_text_append rfl (by decide),
    String.append_eq_left_iff]
  obtain ⟨hmore, hend⟩ | ⟨hlast, hmembers, hend⟩ | ⟨hlast, hmembers, hend⟩ :=
    terminator_cases hlt <;> rw [hend]
  · exact ⟨iff_of_true rfl hmore, iff_of_false (by decide) fun h => hmore.ne h.1,
      iff_of_false (by decide) fun h => hmore.ne h.1⟩
  · exact ⟨iff_of_false (by decide) hlast.not_lt, iff_of_true rfl ⟨hlast, hmembers⟩,
      iff_of_false (by decide) fun h => hmembers h.2⟩
  · exact ⟨iff_of_false (by decide) hlast.not_lt, iff_of_false (by decide) fun h => h.2 hmembers,
      iff_of_true rfl ⟨hlast, hmembers⟩⟩

/-- **A built enum lists its constants.** -/
theorem listed_of_built (h : (Declaration.enumDecl decl).Built) (indent : Indent) :
    decl.Listed indent := by
  refine ⟨?_, fun index constant hat => (line_ends h hat).1,
    fun index constant hat => (line_ends h hat).2.1,
    fun index constant hat => (line_ends h hat).2.2⟩
  rw [written_fragments indent h.hygienic_constants.1, join_bodyFragments]
  simp only [String.append_assoc]

/-- **An enum can be built exactly when it is legal, and then lists its constants.** -/
theorem legality_and_listing (decl : EnumDecl) :
    ((∃ node, decl.build = .ok node) ↔ decl.Legal) ∧
      ((Declaration.enumDecl decl).Built → ∀ indent, decl.Listed indent) := by
  refine ⟨?_, listed_of_built⟩
  unfold build
  rw [Rule.exists_enforce_eq_ok_iff, obeyed_rules_iff]

/-- An enum with a doc comment of several lines, an annotation, and a member. -/
def annotatedEnum : EnumDecl :=
  { name := "Level"
    constants :=
      [{ name := "low", info := { doc := some "Lowest.\n\nThe default.", annotations := ["old"] } },
       { name := "high", arguments := some { positional := ["2"] } }]
    members :=
      [.constructor
        { className := "Level", params := [{ name := "rank" }], isConst := true }] }

theorem legality_and_listing_annotatedEnum :
    annotatedEnum.Legal ∧ (Declaration.enumDecl annotatedEnum).Built ∧
      annotatedEnum.Listed .standard := by
  have hbuilt : (Declaration.enumDecl annotatedEnum).Built := by
    refine ⟨.again rfl, ?_, ?_⟩
    · exact List.forall_mem_cons.mpr
        ⟨BuiltBy.again rfl, List.forall_mem_singleton.mpr (BuiltBy.again rfl)⟩
    · refine List.forall_mem_singleton.mpr ⟨.again rfl, ?_⟩
      exact List.forall_mem_singleton.mpr (BuiltBy.again rfl)
  obtain ⟨hlegal, hlisted⟩ := legality_and_listing annotatedEnum
  exact ⟨hlegal.mp ⟨annotatedEnum, rfl⟩, hbuilt, hlisted hbuilt .standard⟩

example : Fragment.render annotatedEnum.fragments =
    "enum Level \x7b\n  /// Lowest.\n  ///\n  /// The default.\n  @old\n  low,\n" ++
      "  high(2);\n\n  const Level(rank);\n\x7d\n" := by
  decide +kernel

end EnumDecl

end DartSource
