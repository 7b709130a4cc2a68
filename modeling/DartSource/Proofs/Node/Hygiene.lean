import DartSource.Proofs.Node.Reached

/-!
# Names in a file do not get in each other's way

A file is **hygienic** when every name in it is usable, the parameters of each callable have
distinct names and are not both optional and named, the type parameters of each declaration and
each method have distinct names, and each enum has constants, with distinct names. Every file that
a caller can come by is hygienic (`SourceFile.hygienic_of_reached`).

Whatever is reached was built, and so was everything in it. Building checks a whole draft, however
often the node was taken up again and by whichever calls it was changed; so it is enough to read
off the rules of each kind what they say about names.
-/

namespace DartSource

/-! ### What the rules say -/

/-- A name that is not among those seen makes them one more. -/
theorem nodup_append_of_not_contains {seen : List String} {name : String} (hseen : seen.Nodup)
    (hnew : (!seen.contains name) = true) : (seen ++ [name]).Nodup := by
  rw [Bool.not_eq_true', List.contains_eq_mem, decide_eq_false_iff_not] at hnew
  exact hseen.append (List.nodup_singleton name) (List.disjoint_singleton.mpr hnew)

/-- Names that obey the rule to be distinct are distinct, also from those seen before. -/
theorem Subject.nodup_append_of_distinct {s : Subject} {what : String} {seen names : List String}
    (hseen : seen.Nodup) (h : Rule.Obeyed (s.distinct what seen names)) :
    (seen ++ names).Nodup := by
  induction names generalizing seen with
  | nil => rwa [List.append_nil]
  | cons name rest ih =>
    rw [distinct, Rule.obeyed_cons] at h
    -- the first name is new, and the others are compared with it too
    have hall := ih (nodup_append_of_not_contains hseen h.1) h.2
    rwa [List.append_assoc] at hall

namespace TypeParam

theorem nodup_append_of_rulesAfter {seen : List String} {params : List TypeParam}
    (hseen : seen.Nodup) (h : Rule.Obeyed (rulesAfter seen params)) :
    (seen ++ params.map TypeParam.name).Nodup := by
  induction params generalizing seen with
  | nil => rwa [List.map_nil, List.append_nil]
  | cons param rest ih =>
    rw [rulesAfter, Rule.obeyed_append, Rule.obeyed_cons] at h
    obtain ⟨-, hnew, hrest⟩ := h
    have hall := ih (nodup_append_of_not_contains hseen hnew) hrest
    rwa [List.append_assoc] at hall

/-- The rules of type parameters make their names distinct. -/
theorem nodup_of_rules {params : List TypeParam} (h : Rule.Obeyed (rules params)) :
    (params.map TypeParam.name).Nodup :=
  nodup_append_of_rulesAfter List.nodup_nil h

end TypeParam

namespace ParamList

/-- Names are distinct across the three groups, and at most one of the two groups that may be left
out is there. -/
structure Hygienic (list : ParamList) : Prop where
  names : list.names.Nodup
  groups : list.optional = [] ∨ list.named = []

theorem hygienic_of_rules {owner : Subject} {list : ParamList}
    (h : Rule.Obeyed (list.rules owner)) : list.Hygienic := by
  rw [rules, Rule.obeyed_cons, Subject.must_holds, Bool.or_eq_true, List.isEmpty_iff,
    List.isEmpty_iff] at h
  exact ⟨Subject.nodup_append_of_distinct List.nodup_nil h.2, h.1⟩

/-- One parameter has no other to get in the way of. -/
theorem hygienic_singleton (param : Param) : (ofParams [param]).Hygienic := by
  cases hgroup : param.group with
  | required => exact ⟨by simp [names, toList, ofParams, hgroup], .inl (by simp [ofParams, hgroup])⟩
  | optional => exact ⟨by simp [names, toList, ofParams, hgroup], .inr (by simp [ofParams, hgroup])⟩
  | named => exact ⟨by simp [names, toList, ofParams, hgroup], .inl (by simp [ofParams, hgroup])⟩

end ParamList

theorem Callable.hygienic_of_rules {kind : NodeKind} {callable : Callable}
    (h : Rule.Obeyed (callable.rules kind)) :
    callable.paramList.Hygienic ∧ (callable.typeParams.map TypeParam.name).Nodup := by
  simp only [rules, Rule.obeyed_append] at h
  obtain ⟨⟨⟨⟨-, htypeParams⟩, hparams⟩, -⟩, -⟩ := h
  exact ⟨ParamList.hygienic_of_rules hparams, TypeParam.nodup_of_rules htypeParams⟩

theorem Constructor.hygienic_of_rules {constructor : Constructor}
    (h : Rule.Obeyed constructor.rules) : constructor.paramList.Hygienic := by
  simp only [rules, nameRules, Rule.obeyed_append] at h
  obtain ⟨⟨⟨⟨⟨⟨-, hparams⟩, -⟩, -⟩, -⟩, -⟩, -⟩ := h
  exact ParamList.hygienic_of_rules hparams

/-! ### Members -/

namespace Member

/-- The parameter list of a member that has one. -/
def paramLists : Member → List ParamList
  | .property _ => []
  | .getter _ => []
  | .setter member => [ParamList.ofParams [member.param]]
  | .constructor member => [member.paramList]
  | .method member => [member.callable.paramList]

/-- The type parameters of a member that can have some. -/
def typeParamLists : Member → List (List TypeParam)
  | .method member => [member.callable.typeParams]
  | _ => []

variable {member : Member}

theorem Built.hygienic_params (h : member.Built) : ∀ list ∈ member.paramLists, list.Hygienic := by
  cases member with
  | property member => exact fun list hmem => absurd hmem List.not_mem_nil
  | getter member => exact fun list hmem => absurd hmem List.not_mem_nil
  | setter member => exact List.forall_mem_singleton.mpr (ParamList.hygienic_singleton member.param)
  | constructor member =>
    obtain ⟨draft, hbuild⟩ := Constructor.Built.built h
    have hrules := Constructor.obeyed_rules_of_build hbuild
    exact List.forall_mem_singleton.mpr (Constructor.hygienic_of_rules hrules)
  | method member =>
    have hrules := BuiltBy.obeyed Method.rules (Method.Built.built h)
    rw [Method.rules, Rule.obeyed_append] at hrules
    exact List.forall_mem_singleton.mpr (Callable.hygienic_of_rules hrules.1).1

theorem Built.nodup_typeParams (h : member.Built) :
    ∀ list ∈ member.typeParamLists, (list.map TypeParam.name).Nodup := by
  cases member with
  | method member =>
    have hrules := BuiltBy.obeyed Method.rules (Method.Built.built h)
    rw [Method.rules, Rule.obeyed_append] at hrules
    exact List.forall_mem_singleton.mpr (Callable.hygienic_of_rules hrules.1).2
  | _ => exact fun list hmem => absurd hmem List.not_mem_nil

end Member

/-! ### Declarations -/

namespace Declaration

/-- The parameter lists of a declaration and of everything in it. -/
def paramLists : Declaration → List ParamList
  | .functionDecl decl => [decl.callable.paramList]
  | declaration => declaration.members.flatMap Member.paramLists

/-- The type parameters of the declaration itself. -/
def typeParams : Declaration → List TypeParam
  | .classDecl decl => decl.typeParams
  | .enumDecl decl => decl.typeParams
  | .mixinDecl decl => decl.typeParams
  | .extensionDecl decl => decl.typeParams
  | .functionDecl decl => decl.callable.typeParams
  | .variable _ => []

/-- The lists of type parameters of a declaration and of everything in it. -/
def typeParamLists (declaration : Declaration) : List (List TypeParam) :=
  declaration.typeParams :: declaration.members.flatMap Member.typeParamLists

variable {declaration : Declaration}

theorem Built.hygienic_params (h : declaration.Built) :
    ∀ list ∈ declaration.paramLists, list.Hygienic := by
  -- for all but functions the lists are those of the members
  have hmembers : ∀ list ∈ declaration.members.flatMap Member.paramLists, list.Hygienic :=
    List.forall_mem_flatMap.mpr fun member hmem => (h.members member hmem).hygienic_params
  cases declaration with
  | functionDecl decl =>
    have hrules := BuiltBy.obeyed FunctionDecl.rules h.1
    exact List.forall_mem_singleton.mpr (Callable.hygienic_of_rules hrules).1
  | _ => exact hmembers

/-- The type parameters that a declaration has itself. -/
theorem Built.nodup_own_typeParams (h : declaration.Built) :
    (declaration.typeParams.map TypeParam.name).Nodup := by
  cases declaration with
  | classDecl decl =>
    have hrules := BuiltBy.obeyed ClassDecl.rules h.1
    simp only [ClassDecl.rules, List.append_assoc, Rule.obeyed_append] at hrules
    exact TypeParam.nodup_of_rules hrules.2.1
  | enumDecl decl =>
    have hrules := BuiltBy.obeyed EnumDecl.rules h.1
    simp only [EnumDecl.rules, List.append_assoc, Rule.obeyed_append] at hrules
    exact TypeParam.nodup_of_rules hrules.2.1
  | mixinDecl decl =>
    have hrules := BuiltBy.obeyed MixinDecl.rules h.1
    simp only [MixinDecl.rules, List.append_assoc, Rule.obeyed_append] at hrules
    exact TypeParam.nodup_of_rules hrules.2.1
  | extensionDecl decl =>
    have hrules := BuiltBy.obeyed ExtensionDecl.rules h.1
    simp only [ExtensionDecl.rules, List.append_assoc, Rule.obeyed_append] at hrules
    exact TypeParam.nodup_of_rules hrules.2.2.1
  | functionDecl decl =>
    exact (Callable.hygienic_of_rules (BuiltBy.obeyed FunctionDecl.rules h.1)).2
  | «variable» decl => exact List.nodup_nil

theorem Built.nodup_typeParams (h : declaration.Built) :
    ∀ list ∈ declaration.typeParamLists, (list.map TypeParam.name).Nodup := by
  refine List.forall_mem_cons.mpr ⟨h.nodup_own_typeParams, ?_⟩
  exact List.forall_mem_flatMap.mpr fun member hmem => (h.members member hmem).nodup_typeParams

/-- An enum has constants, and no two of one name. -/
theorem Built.hygienic_constants {decl : EnumDecl} (h : (Declaration.enumDecl decl).Built) :
    decl.constants ≠ [] ∧ (decl.constants.map EnumConstant.name).Nodup := by
  have hrules := BuiltBy.obeyed EnumDecl.rules h.1
  simp only [EnumDecl.rules, List.append_assoc, Rule.obeyed_append, Rule.obeyed_cons,
    Subject.must_holds, Bool.not_eq_true', List.isEmpty_eq_false_iff] at hrules
  obtain ⟨-, -, ⟨hconstants, -⟩, hdistinct, -⟩ := hrules
  exact ⟨hconstants, Subject.nodup_append_of_distinct List.nodup_nil hdistinct⟩

end Declaration

/-! ### Files -/

namespace SourceFile

/-- No name in the file is unusable or gets in the way of another. -/
structure Hygienic (file : SourceFile) : Prop where
  names : ∀ name ∈ file.names, UsableName name
  params : ∀ declaration ∈ file.declarations, ∀ list ∈ declaration.paramLists, list.Hygienic
  typeParams : ∀ declaration ∈ file.declarations, ∀ list ∈ declaration.typeParamLists,
    (list.map TypeParam.name).Nodup
  constants : ∀ decl, Declaration.enumDecl decl ∈ file.declarations →
    decl.constants ≠ [] ∧ (decl.constants.map EnumConstant.name).Nodup

/-- **Every file that a caller can come by is hygienic**, however its nodes were drafted, built,
taken up again or lowered. -/
theorem hygienic_of_reached {file : SourceFile} (h : file.Reached) : file.Hygienic where
  names := h.built.usable
  params declaration hmem := (h.built.declarations declaration hmem).hygienic_params
  typeParams declaration hmem := (h.built.declarations declaration hmem).nodup_typeParams
  constants decl hmem := (h.built.declarations (.enumDecl decl) hmem).hygienic_constants

/-- A named parameter, and a constructor that initializes a field with it. -/
def namedParam : Param :=
  { name := "p", isNamed := true, isRequired := true }

def fieldSetter : Constructor :=
  { className := "E", params := [namedParam], isConst := true, initializers := [.field "q" "p"] }

/-- An enum that was built from the names of its constants and then taken up again for its type
parameter and its constructor. -/
def rebuiltEnum : EnumDecl :=
  { name := "E"
    typeParams := [{ name := "T" }]
    constants := [{ name := "one" }, { name := "two" }]
    members := [.constructor fieldSetter] }

/-- The enum in a file with an import. -/
def rebuilt : SourceFile :=
  { directives := [.importLib { uri := .package "a" "b.dart", names := { shown := ["S"] } }]
    declarations := [.enumDecl rebuiltEnum] }

theorem hygienic_of_reached_rebuilt : rebuilt.Reached ∧ rebuilt.Hygienic := by
  have hparam : namedParam.Reached := by
    have hmake : (DraftKind.builder .param).make ({ name := "p" } : Param)
        [Param.Edit.named, .required] = .ok namedParam := rfl
    exact (Builder.Drafted.fresh ⟨"p", rfl⟩).make (fun _ _ => trivial) hmake
  have hconstructor : fieldSetter.Reached := by
    have hmake : (DraftKind.builder .constructor).make ({ className := "E" } : Constructor)
        [Constructor.Edit.const, .initializer (.field "q" "p"), .param namedParam] =
          .ok fieldSetter := rfl
    have hadded :
        ∀ change ∈ [Constructor.Edit.const, .initializer (.field "q" "p"), .param namedParam],
          ∀ node ∈ change.added, node.Reached := by
      simpa [Constructor.Edit.added] using hparam
    exact (Builder.Drafted.fresh ⟨"E", none, rfl⟩).make hadded hmake
  have hnamed : EnumDecl.Reached { name := "E", constants := rebuiltEnum.constants } := by
    have hmake : (DraftKind.builder .enumDecl).make ({ name := "E" } : EnumDecl)
        [EnumDecl.Edit.values ["one", "two"]] =
          .ok { name := "E", constants := rebuiltEnum.constants } := rfl
    have hchange : (EnumDecl.Edit.values ["one", "two"]).Reached := trivial
    exact (Builder.Drafted.fresh ⟨"E", rfl⟩).make (List.forall_mem_singleton.mpr hchange) hmake
  have hagain : rebuiltEnum.Reached := by
    have hmake : (DraftKind.builder .enumDecl).make
        ({ name := "E", constants := rebuiltEnum.constants } : EnumDecl)
        [EnumDecl.Edit.member (.constructor fieldSetter), .typeParam { name := "T" }] =
          .ok rebuiltEnum := rfl
    have hmember : (EnumDecl.Edit.member (.constructor fieldSetter)).Reached := hconstructor
    have htypeParam : (EnumDecl.Edit.typeParam { name := "T" }).Reached := trivial
    exact (Builder.Makes.drafted hnamed).make
      (List.forall_mem_cons.mpr ⟨hmember, List.forall_mem_singleton.mpr htypeParam⟩) hmake
  have himport : Import.Reached { uri := .package "a" "b.dart", names := { shown := ["S"] } } := by
    have hmake : (Builder.mk (fun draft change => .ok (Import.edit draft change)) Import.build).make
        { uri := .package "a" "b.dart" } [.shown "S"] =
          .ok { uri := .package "a" "b.dart", names := { shown := ["S"] } } := rfl
    exact (Builder.Drafted.fresh ⟨_, rfl⟩).make (fun _ _ => trivial) hmake
  have hfile : rebuilt.Reached := by
    have hdirective : (Edit.directive (.importLib _)).Reached := himport
    have hdeclaration : (Edit.declaration (.enumDecl rebuiltEnum)).Reached := hagain
    exact ((Reached.new {}).edit hdirective).edit hdeclaration
  exact ⟨hfile, hygienic_of_reached hfile⟩

end SourceFile

end DartSource
