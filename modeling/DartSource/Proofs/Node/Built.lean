import DartSource.Proofs.Member.Constructor
import DartSource.Proofs.Node.Content

/-!
# Built nodes

A node is **built** when some draft was built into it, and so was every node inside it. This is all
that callers can put into a file: the parts of a draft are nodes that were built before. Building
checks what it builds, so a built node obeys the rules of its kind (`BuiltBy.obeyed`), and as its
parts obey theirs, every name in it, however deep inside, is usable (`SourceFile.Built.usable`).

A file is put together by edits, each of which adds built nodes; `SourceFile.Built.edits` says that
any run of edits leaves a built file.
-/

namespace DartSource

/-- Some draft was built into the node. -/
def BuiltBy {α : Type} (build : α → Except Fault α) (node : α) : Prop :=
  ∃ draft, build draft = .ok node

/-- A node that can be built again was built. -/
theorem BuiltBy.again {α : Type} {build : α → Except Fault α} {node : α}
    (h : build node = .ok node) : BuiltBy build node :=
  ⟨node, h⟩

/-- A node whose draft was only checked obeys the rules of its kind. -/
theorem BuiltBy.obeyed {α : Type} (rules : α → List Rule) {node : α}
    (h : BuiltBy (fun draft => Rule.enforce (rules draft) draft) node) :
    Rule.Obeyed (rules node) := by
  obtain ⟨draft, h⟩ := h
  obtain ⟨hobeyed, rfl⟩ := Rule.enforce_eq_ok_iff.mp h
  exact hobeyed

/-- A name that a node may have. -/
def UsableName (name : String) : Prop :=
  Text.isIdentifier name = true ∧ Text.isReserved name = false

/-- A name that need not be given is usable if it is. -/
theorem usable_of_usableName? {s : Subject} {name : Option String}
    (h : Rule.Obeyed (s.usableName? name)) : ∀ text ∈ name.toList, UsableName text := by
  intro text hmem
  rw [Option.mem_toList] at hmem
  exact Subject.obeyed_usableName.mp (Subject.obeyed_usableName?.mp h text hmem)

/-! ### Signatures -/

namespace Param

/-- A parameter that was built. -/
def Built (param : Param) : Prop :=
  BuiltBy build param

theorem Built.usable {param : Param} (h : param.Built) : UsableName param.name := by
  have hrules := BuiltBy.obeyed rules h
  unfold rules at hrules
  exact Subject.obeyed_usableName.mp (Rule.obeyed_append.mp hrules).1

end Param

namespace TypeParam

theorem usable_of_rulesAfter {seen : List String} {params : List TypeParam}
    (h : Rule.Obeyed (rulesAfter seen params)) : ∀ param ∈ params, UsableName param.name := by
  induction params generalizing seen with
  | nil => exact fun param hparam => absurd hparam List.not_mem_nil
  | cons first rest ih =>
    -- behind the rules of a name stands the rule that it is new, which is not needed here
    rw [rulesAfter, Rule.obeyed_append, Rule.obeyed_cons] at h
    obtain ⟨hfirst, -, hrest⟩ := h
    intro param hparam
    rcases List.mem_cons.mp hparam with rfl | hparam
    · exact Subject.obeyed_usableName.mp hfirst
    · exact ih hrest param hparam

/-- The rules of type parameters make their names usable. -/
theorem usable_of_rules {params : List TypeParam} (h : Rule.Obeyed (rules params)) :
    ∀ name ∈ params.map TypeParam.name, UsableName name :=
  List.forall_mem_map.mpr (usable_of_rulesAfter h)

/-- Where the rules of a name and of type parameters come first, these names are usable. -/
theorem usable_of_first_rules {s : Subject} {name : String} {params : List TypeParam}
    {more : List Rule} (h : Rule.Obeyed (s.usableName name ++ (rules params ++ more))) :
    ∀ text ∈ name :: params.map TypeParam.name, UsableName text := by
  rw [Rule.obeyed_append, Rule.obeyed_append] at h
  exact List.forall_mem_cons.mpr ⟨Subject.obeyed_usableName.mp h.1, usable_of_rules h.2.1⟩

end TypeParam

namespace Callable

/-- The rules of a callable are about its own names; those of its parameters come with them. -/
theorem usable_of_rules {kind : NodeKind} {callable : Callable}
    (h : Rule.Obeyed (callable.rules kind)) (hparams : ∀ param ∈ callable.params, param.Built) :
    ∀ name ∈ callable.names, UsableName name := by
  simp only [rules, List.append_assoc] at h
  refine List.forall_mem_append.mpr ⟨TypeParam.usable_of_first_rules h, ?_⟩
  exact List.forall_mem_map.mpr fun param hparam => (hparams param hparam).usable

end Callable

/-! ### Members -/

namespace Setter

/-- A setter that was built with a built parameter. -/
structure Built (setter : Setter) : Prop where
  built : BuiltBy build setter
  param : setter.param.Built

theorem Built.usable {setter : Setter} (h : setter.Built) :
    ∀ name ∈ setter.names, UsableName name := by
  have hrules := BuiltBy.obeyed rules h.built
  unfold rules at hrules
  have hname := Subject.obeyed_usableName.mp (Rule.obeyed_append.mp hrules).1
  exact List.forall_mem_cons.mpr ⟨hname, List.forall_mem_singleton.mpr h.param.usable⟩

end Setter

namespace Constructor

/-- A constructor that was built with built parameters. -/
structure Built (constructor : Constructor) : Prop where
  built : BuiltBy build constructor
  params : ∀ param ∈ constructor.params, param.Built

theorem Built.usable {constructor : Constructor} (h : constructor.Built) :
    ∀ name ∈ constructor.names, UsableName name := by
  obtain ⟨draft, hbuild⟩ := h.built
  -- the draft had its initializers in another order; the node is legal all the same
  have hrules := obeyed_rules_of_build hbuild
  rw [rules_eq, Rule.obeyed_append, Rule.obeyed_append] at hrules
  obtain ⟨⟨hfront, htargets⟩, -⟩ := hrules
  simp only [frontRules, Rule.obeyed_append] at hfront
  obtain ⟨⟨hclass, hname⟩, -⟩ := hfront
  rw [Rule.obeyed_flatMap] at htargets
  unfold names
  rw [List.forall_mem_append, List.forall_mem_append, List.forall_mem_cons]
  refine ⟨⟨⟨Subject.obeyed_usableName.mp hclass, usable_of_usableName? hname⟩, ?_⟩, ?_⟩
  · exact List.forall_mem_map.mpr fun param hparam => (h.params param hparam).usable
  · intro name hmem
    obtain ⟨entry, hentry, htarget⟩ := List.mem_filterMap.mp hmem
    exact usable_of_usableName? (htargets entry hentry) name (Option.mem_toList.mpr htarget)

end Constructor

namespace Method

/-- A method that was built with built parameters. -/
structure Built (method : Method) : Prop where
  built : BuiltBy build method
  params : ∀ param ∈ method.callable.params, param.Built

theorem Built.usable {method : Method} (h : method.Built) :
    ∀ name ∈ method.callable.names, UsableName name := by
  have hrules := BuiltBy.obeyed rules h.built
  unfold rules at hrules
  exact Callable.usable_of_rules (Rule.obeyed_append.mp hrules).1 h.params

end Method

namespace Member

/-- A member that was built. -/
def Built : Member → Prop
  | .property member => BuiltBy Property.build member
  | .getter member => BuiltBy Getter.build member
  | .setter member => member.Built
  | .constructor member => member.Built
  | .method member => member.Built

theorem Built.usable {member : Member} (h : member.Built) :
    ∀ name ∈ member.names, UsableName name := by
  cases member with
  | property member =>
    have hrules := BuiltBy.obeyed Property.rules h
    unfold Property.rules at hrules
    exact List.forall_mem_singleton.mpr
      (Subject.obeyed_usableName.mp (Rule.obeyed_append.mp hrules).1)
  | getter member =>
    have hrules := BuiltBy.obeyed Getter.rules h
    unfold Getter.rules at hrules
    exact List.forall_mem_singleton.mpr
      (Subject.obeyed_usableName.mp (Rule.obeyed_append.mp hrules).1)
  | setter member => exact Setter.Built.usable h
  | constructor member => exact Constructor.Built.usable h
  | method member => exact Method.Built.usable h

/-- The parameters of a member. -/
def params : Member → List Param
  | .property _ => []
  | .getter _ => []
  | .setter member => [member.param]
  | .constructor member => member.params
  | .method member => member.callable.params

/-- The parameters of a built member were built. -/
theorem Built.params {member : Member} (h : member.Built) :
    ∀ param ∈ member.params, param.Built := by
  cases member with
  | property member => exact fun param hmem => absurd hmem List.not_mem_nil
  | getter member => exact fun param hmem => absurd hmem List.not_mem_nil
  | setter member => exact List.forall_mem_singleton.mpr (Setter.Built.param h)
  | constructor member => exact Constructor.Built.params h
  | method member => exact Method.Built.params h

/-- The names in the body of a type. -/
theorem usable_of_built {members : List Member} (h : ∀ member ∈ members, member.Built) :
    ∀ name ∈ members.flatMap names, UsableName name :=
  List.forall_mem_flatMap.mpr fun member hmember => (h member hmember).usable

end Member

/-! ### Declarations -/

namespace EnumConstant

/-- A constant that was built. -/
def Built (constant : EnumConstant) : Prop :=
  BuiltBy build constant

theorem Built.usable {constant : EnumConstant} (h : constant.Built) :
    ∀ name ∈ constant.names, UsableName name := by
  have hrules := BuiltBy.obeyed rules h
  unfold rules at hrules
  obtain ⟨hname, hconstructor⟩ := Rule.obeyed_append.mp hrules
  exact List.forall_mem_cons.mpr
    ⟨Subject.obeyed_usableName.mp hname, usable_of_usableName? hconstructor⟩

end EnumConstant

namespace Declaration

/-- A declaration that was built from built parts. -/
def Built : Declaration → Prop
  | .classDecl decl => BuiltBy ClassDecl.build decl ∧ ∀ member ∈ decl.members, member.Built
  | .enumDecl decl =>
    BuiltBy EnumDecl.build decl ∧ (∀ constant ∈ decl.constants, constant.Built) ∧
      ∀ member ∈ decl.members, member.Built
  | .mixinDecl decl => BuiltBy MixinDecl.build decl ∧ ∀ member ∈ decl.members, member.Built
  | .extensionDecl decl => BuiltBy ExtensionDecl.build decl ∧ ∀ member ∈ decl.members, member.Built
  | .functionDecl decl =>
    BuiltBy FunctionDecl.build decl ∧ ∀ param ∈ decl.callable.params, param.Built
  | .variable decl => BuiltBy VariableDecl.build decl

/-- The members of a type; other declarations have none. -/
def members : Declaration → List Member
  | .classDecl decl => decl.members
  | .enumDecl decl => decl.members
  | .mixinDecl decl => decl.members
  | .extensionDecl decl => decl.members
  | .functionDecl _ => []
  | .variable _ => []

/-- The members of a built declaration were built. -/
theorem Built.members {declaration : Declaration} (h : declaration.Built) :
    ∀ member ∈ declaration.members, member.Built := by
  cases declaration with
  | classDecl decl => exact h.2
  | enumDecl decl => exact h.2.2
  | mixinDecl decl => exact h.2
  | extensionDecl decl => exact h.2
  | functionDecl decl => exact fun member hmem => absurd hmem List.not_mem_nil
  | «variable» decl => exact fun member hmem => absurd hmem List.not_mem_nil

/-- Every name in a built declaration is usable. -/
theorem Built.usable {declaration : Declaration} (h : declaration.Built) :
    ∀ name ∈ declaration.names, UsableName name := by
  cases declaration with
  | classDecl decl =>
    obtain ⟨hbuilt, hmembers⟩ := h
    have hrules := BuiltBy.obeyed ClassDecl.rules hbuilt
    simp only [ClassDecl.rules, List.append_assoc] at hrules
    exact List.forall_mem_append.mpr
      ⟨TypeParam.usable_of_first_rules hrules, Member.usable_of_built hmembers⟩
  | enumDecl decl =>
    obtain ⟨hbuilt, hconstants, hmembers⟩ := h
    have hrules := BuiltBy.obeyed EnumDecl.rules hbuilt
    simp only [EnumDecl.rules, List.append_assoc] at hrules
    refine List.forall_mem_append.mpr ⟨List.forall_mem_append.mpr ⟨?_, ?_⟩, ?_⟩
    · exact TypeParam.usable_of_first_rules hrules
    · exact List.forall_mem_flatMap.mpr fun constant hmem => (hconstants constant hmem).usable
    · exact Member.usable_of_built hmembers
  | mixinDecl decl =>
    obtain ⟨hbuilt, hmembers⟩ := h
    have hrules := BuiltBy.obeyed MixinDecl.rules hbuilt
    simp only [MixinDecl.rules, List.append_assoc] at hrules
    exact List.forall_mem_append.mpr
      ⟨TypeParam.usable_of_first_rules hrules, Member.usable_of_built hmembers⟩
  | extensionDecl decl =>
    obtain ⟨hbuilt, hmembers⟩ := h
    have hrules := BuiltBy.obeyed ExtensionDecl.rules hbuilt
    simp only [ExtensionDecl.rules, Rule.obeyed_append] at hrules
    -- the name of an extension may be missing, and its target comes before its type parameters
    obtain ⟨⟨⟨hname, -⟩, htypeParams⟩, -⟩ := hrules
    refine List.forall_mem_append.mpr ⟨List.forall_mem_append.mpr ⟨?_, ?_⟩, ?_⟩
    · exact usable_of_usableName? hname
    · exact TypeParam.usable_of_rules htypeParams
    · exact Member.usable_of_built hmembers
  | functionDecl decl =>
    obtain ⟨hbuilt, hparams⟩ := h
    exact Callable.usable_of_rules (BuiltBy.obeyed FunctionDecl.rules hbuilt) hparams
  | «variable» decl =>
    have hrules := BuiltBy.obeyed VariableDecl.rules h
    unfold VariableDecl.rules at hrules
    exact List.forall_mem_singleton.mpr
      (Subject.obeyed_usableName.mp (Rule.obeyed_append.mp hrules).1)

end Declaration

/-! ### Directives -/

namespace Combinators

theorem usable_of_rules {s : Subject} {names : Combinators} (h : Rule.Obeyed (names.rules s)) :
    ∀ name ∈ names.shown ++ names.hidden, UsableName name := by
  unfold rules at h
  rw [Rule.obeyed_cons, Rule.obeyed_flatMap] at h
  exact fun name hmem => Subject.obeyed_usableName.mp (h.2 name hmem)

end Combinators

namespace Directive

/-- A directive that was built; one that names a part or an owner needs no building. -/
def Built : Directive → Prop
  | .importLib directive => BuiltBy Import.build directive
  | .exportLib directive => BuiltBy Export.build directive
  | .part _ => True
  | .partOf _ => True

theorem Built.usable {directive : Directive} (h : directive.Built) :
    ∀ name ∈ directive.names, UsableName name := by
  cases directive with
  | importLib directive =>
    have hrules := BuiltBy.obeyed Import.rules h
    unfold Import.rules at hrules
    rw [Rule.obeyed_cons, Rule.obeyed_append] at hrules
    obtain ⟨-, hqualifier, hnames⟩ := hrules
    rw [names, List.append_assoc, List.forall_mem_append]
    exact ⟨usable_of_usableName? hqualifier, Combinators.usable_of_rules hnames⟩
  | exportLib directive =>
    exact Combinators.usable_of_rules (BuiltBy.obeyed Export.rules h)
  | part uri => exact fun name hmem => absurd hmem List.not_mem_nil
  | partOf owner => exact fun name hmem => absurd hmem List.not_mem_nil

end Directive

/-! ### Files -/

namespace SourceFile

/-- A file of built directives and built declarations. -/
structure Built (file : SourceFile) : Prop where
  directives : ∀ directive ∈ file.directives, directive.Built
  declarations : ∀ declaration ∈ file.declarations, declaration.Built

/-- A change that adds built nodes. -/
def Edit.Built : Edit → Prop
  | .directive added => added.Built
  | .directives added => ∀ directive ∈ added, Directive.Built directive
  | .declaration added => added.Built
  | .declarations added => ∀ declaration ∈ added, Declaration.Built declaration

variable {file : SourceFile}

/-- A file without content is built. -/
theorem built_of_options (options : RenderOptions) : ({ options } : SourceFile).Built :=
  ⟨fun _ h => absurd h List.not_mem_nil, fun _ h => absurd h List.not_mem_nil⟩

theorem Built.addDirective (h : file.Built) {directive : Directive} (hnew : directive.Built) :
    (file.addDirective directive).Built := by
  unfold SourceFile.addDirective
  split
  · -- a directive that is there already is not added again
    exact h
  · refine ⟨?_, h.declarations⟩
    exact List.forall_mem_append.mpr ⟨h.directives, List.forall_mem_singleton.mpr hnew⟩

theorem Built.addDeclaration (h : file.Built) {declaration : Declaration}
    (hnew : declaration.Built) : (file.addDeclaration declaration).Built :=
  ⟨h.directives,
    List.forall_mem_append.mpr ⟨h.declarations, List.forall_mem_singleton.mpr hnew⟩⟩

/-- One step: a change that adds built nodes keeps the file built. -/
theorem Built.edit (h : file.Built) {change : Edit} (hnew : change.Built) :
    (file.edit change).Built := by
  cases change with
  | directive directive => exact h.addDirective hnew
  | directives directives =>
    -- adding several is adding them one after the other
    refine List.foldlRecOn directives SourceFile.addDirective h ?_
    exact fun file hfile directive hmem => hfile.addDirective (hnew directive hmem)
  | declaration declaration => exact h.addDeclaration hnew
  | declarations declarations =>
    refine List.foldlRecOn declarations SourceFile.addDeclaration h ?_
    exact fun file hfile declaration hmem => hfile.addDeclaration (hnew declaration hmem)

/-- A whole run: any sequence of such changes does. -/
theorem Built.edits (h : file.Built) {changes : List Edit}
    (hnew : ∀ change ∈ changes, change.Built) : (changes.foldl SourceFile.edit file).Built := by
  refine List.foldlRecOn changes SourceFile.edit h ?_
  exact fun file hfile change hmem => hfile.edit (hnew change hmem)

/-- **Every name in a built file is usable.** -/
theorem Built.usable (h : file.Built) : ∀ name ∈ file.names, UsableName name := by
  unfold SourceFile.names
  rw [List.forall_mem_append]
  refine ⟨List.forall_mem_flatMap.mpr ?_, List.forall_mem_flatMap.mpr ?_⟩
  · exact fun directive hmem => (h.directives directive hmem).usable
  · exact fun declaration hmem => (h.declarations declaration hmem).usable

end SourceFile

end DartSource
