import DartSource.Proofs.Lowering.Legality
import DartSource.Proofs.Node.Staged

/-!
# Nodes and files that callers can come by

A caller starts a draft, changes it by one call after the other, and builds it; a node that was
built is a draft again and can be changed and built any number of times. The nodes that a call puts
into a draft are nodes that the caller came by before. Besides, a caller can lower a library and
take nodes out of the file that comes of it. A file starts empty or is lowered, and is then edited
with such nodes. Nothing else is **reached**.

Whatever is reached was built, and so was everything in it (`SourceFile.Reached.built`). For each
kind of node this is an invariant of its drafts: whichever calls are made, the parts of a draft are
built nodes. A draft itself need not be legal, as its rules are looked at only when it is built.
-/

namespace DartSource

/-! ### Drafts -/

namespace Builder

variable {α β : Type} (builder : Builder α β) (fresh lowered : α → Prop) (allowed : β → Prop)

/-- The drafts that a caller can hold, by the calls that lead to them. -/
inductive Drafted : α → Prop where
  | fresh {draft : α} (h : fresh draft) : Drafted draft
  | lowered {node : α} (h : lowered node) : Drafted node
  /-- One more call; it may be refused. -/
  | edit {draft changed : α} {change : β} (h : Drafted draft) (hallowed : allowed change)
      (hedit : builder.edit draft change = .ok changed) : Drafted changed
  /-- A node that was built is taken up again. -/
  | again {draft node : α} (h : Drafted draft) (hbuild : builder.build draft = .ok node) :
      Drafted node

/-- The node was lowered, or built from a draft that a caller can hold. -/
def Makes (node : α) : Prop :=
  lowered node ∨
    ∃ draft, builder.Drafted fresh lowered allowed draft ∧ builder.build draft = .ok node

variable {builder fresh lowered allowed} {node : α}

/-- One call after the other. -/
theorem Drafted.run {draft changed : α} {changes : List β}
    (h : builder.Drafted fresh lowered allowed draft)
    (hallowed : ∀ change ∈ changes, allowed change)
    (hrun : builder.run draft changes = .ok changed) :
    builder.Drafted fresh lowered allowed changed := by
  induction changes generalizing draft with
  | nil =>
    obtain rfl := Except.ok.inj hrun
    exact h
  | cons change changes ih =>
    obtain ⟨hfirst, hrest⟩ := List.forall_mem_cons.mp hallowed
    rw [run_cons] at hrun
    obtain ⟨next, hedit, hrun⟩ := bind_eq_ok_iff.mp hrun
    exact ih (h.edit hfirst hedit) hrest hrun

/-- Changing a draft and building it is one way to come by a node. -/
theorem Drafted.make {draft : α} {changes : List β}
    (h : builder.Drafted fresh lowered allowed draft)
    (hallowed : ∀ change ∈ changes, allowed change)
    (hmake : builder.make draft changes = .ok node) :
    builder.Makes fresh lowered allowed node := by
  obtain ⟨changed, hrun, hbuild⟩ := bind_eq_ok_iff.mp hmake
  exact .inr ⟨changed, h.run hallowed hrun, hbuild⟩

/-- A node is a draft again. -/
theorem Makes.drafted (h : builder.Makes fresh lowered allowed node) :
    builder.Drafted fresh lowered allowed node := by
  obtain hnode | ⟨draft, hdraft, hbuild⟩ := h
  · exact .lowered hnode
  · exact .again hdraft hbuild

theorem Makes.builtBy (h : builder.Makes fresh lowered allowed node)
    (hlowered : ∀ node, lowered node → BuiltBy builder.build node) :
    BuiltBy builder.build node := by
  obtain hnode | ⟨draft, -, hbuild⟩ := h
  · exact hlowered node hnode
  · exact ⟨draft, hbuild⟩

/-- **What every step keeps, every node has.** The steps are starting a draft, changing it and
building it. -/
theorem Makes.keeps (h : builder.Makes fresh lowered allowed node) (kept : α → Prop)
    (hfresh : ∀ draft, fresh draft → kept draft) (hlowered : ∀ node, lowered node → kept node)
    (hedit : ∀ draft change changed, kept draft → allowed change →
      builder.edit draft change = .ok changed → kept changed)
    (hbuild : ∀ draft node, kept draft → builder.build draft = .ok node → kept node) :
    kept node := by
  obtain hnode | ⟨draft, hdraft, hnode⟩ := h
  · exact hlowered node hnode
  · have hkept : kept draft := by
      -- along the calls that lead to the draft; that it is built comes after them
      clear hnode
      induction hdraft with
      | fresh h => exact hfresh _ h
      | lowered h => exact hlowered _ h
      | edit _ hallowed hstep ih => exact hedit _ _ _ ih hallowed hstep
      | again _ hstep ih => exact hbuild _ _ ih hstep
    exact hbuild draft node hkept hnode

/-- A call puts its nodes behind those that are in the draft already, and building leaves them
there; so the parts of a node are right if those of every call are. -/
theorem Makes.forall_parts {ι : Type} {right : ι → Prop}
    (h : builder.Makes fresh lowered allowed node) (parts : α → List ι) (added : β → List ι)
    (hfresh : ∀ draft, fresh draft → ∀ part ∈ parts draft, right part)
    (hlowered : ∀ node, lowered node → ∀ part ∈ parts node, right part)
    (hadded : ∀ change, allowed change → ∀ part ∈ added change, right part)
    (hedit : ∀ draft change changed, builder.edit draft change = .ok changed →
      parts changed = parts draft ++ added change)
    (hbuild : ∀ draft node, builder.build draft = .ok node → parts node = parts draft) :
    ∀ part ∈ parts node, right part := by
  refine h.keeps (fun node => ∀ part ∈ parts node, right part) hfresh hlowered ?_ ?_
  · intro draft change changed hkept hallowed hstep
    rw [hedit draft change changed hstep]
    exact List.forall_mem_append.mpr ⟨hkept, hadded change hallowed⟩
  · intro draft node hkept hstep
    rw [hbuild draft node hstep]
    exact hkept

/-- Where no call is refused and building only checks, what the calls add is all there is. -/
theorem Makes.forall_added {ι : Type} {right : ι → Prop} {edit : α → β → α}
    {rules : α → List Rule}
    (h : Makes ⟨fun draft change => .ok (edit draft change),
      fun draft => Rule.enforce (rules draft) draft⟩ fresh lowered allowed node)
    (parts : α → List ι) (added : β → List ι)
    (hfresh : ∀ draft, fresh draft → ∀ part ∈ parts draft, right part)
    (hlowered : ∀ node, lowered node → ∀ part ∈ parts node, right part)
    (hadded : ∀ change, allowed change → ∀ part ∈ added change, right part)
    (hedit : ∀ draft change, parts (edit draft change) = parts draft ++ added change) :
    ∀ part ∈ parts node, right part := by
  refine Makes.forall_parts h parts added hfresh hlowered hadded ?_ ?_
  · intro draft change changed hstep
    obtain rfl := Except.ok.inj hstep
    exact hedit draft change
  · intro draft node hstep
    obtain ⟨-, rfl⟩ := Rule.enforce_eq_ok_iff.mp hstep
    rfl

/-- A node that starts without parts was built, and so were the parts it got. -/
theorem Makes.builtBy_and_forall {ι : Type} {right : ι → Prop} {edit : α → β → α}
    {rules : α → List Rule}
    (h : Makes ⟨fun draft change => .ok (edit draft change),
      fun draft => Rule.enforce (rules draft) draft⟩ fresh lowered allowed node)
    (parts : α → List ι) (added : β → List ι) (hfresh : ∀ draft, fresh draft → parts draft = [])
    (hlowered : ∀ node, lowered node →
      BuiltBy (fun draft => Rule.enforce (rules draft) draft) node ∧
        ∀ part ∈ parts node, right part)
    (hadded : ∀ change, allowed change → ∀ part ∈ added change, right part)
    (hedit : ∀ draft change, parts (edit draft change) = parts draft ++ added change) :
    BuiltBy (fun draft => Rule.enforce (rules draft) draft) node ∧
      ∀ part ∈ parts node, right part := by
  have hstart : ∀ draft, fresh draft → ∀ part ∈ parts draft, right part := by
    intro draft hdraft
    rw [hfresh draft hdraft]
    exact fun part hmem => absurd hmem List.not_mem_nil
  refine ⟨Makes.builtBy h fun node hnode => (hlowered node hnode).1, ?_⟩
  exact Makes.forall_added h parts added hstart (fun node hnode => (hlowered node hnode).2) hadded
    hedit

end Builder

/-! ### Nodes of lowered files -/

/-- A declaration of a file that was lowered. -/
def Declaration.Lowered (declaration : Declaration) : Prop :=
  ∃ (library : Record.Library) (surroundings : Surroundings) (file : SourceFile),
    library.lower surroundings = .ok file ∧ declaration ∈ file.declarations

/-- A constant of such a declaration. -/
def EnumConstant.Lowered (constant : EnumConstant) : Prop :=
  ∃ decl, (Declaration.enumDecl decl).Lowered ∧ constant ∈ decl.constants

/-- A member of such a declaration. -/
def Member.Lowered (member : Member) : Prop :=
  ∃ declaration : Declaration, declaration.Lowered ∧ member ∈ declaration.members

/-- A parameter of such a member, or of a function. -/
def Param.Lowered (param : Param) : Prop :=
  (∃ member : Member, member.Lowered ∧ param ∈ member.params) ∨
    ∃ decl, (Declaration.functionDecl decl).Lowered ∧ param ∈ decl.callable.params

/-- A directive of a file that was lowered. -/
def Directive.Lowered (directive : Directive) : Prop :=
  ∃ (library : Record.Library) (surroundings : Surroundings) (file : SourceFile),
    library.lower surroundings = .ok file ∧ directive ∈ file.directives

theorem Declaration.Lowered.built {declaration : Declaration} (h : declaration.Lowered) :
    declaration.Built := by
  obtain ⟨library, surroundings, file, hlower, hmem⟩ := h
  exact (Record.Library.built_of_lower hlower).declarations declaration hmem

theorem Directive.Lowered.built {directive : Directive} (h : directive.Lowered) :
    directive.Built := by
  obtain ⟨library, surroundings, file, hlower, hmem⟩ := h
  exact (Record.Library.built_of_lower hlower).directives directive hmem

theorem EnumConstant.Lowered.built {constant : EnumConstant} (h : constant.Lowered) :
    constant.Built := by
  obtain ⟨decl, hdecl, hmem⟩ := h
  obtain ⟨-, hconstants, -⟩ := hdecl.built
  exact hconstants constant hmem

theorem Member.Lowered.built {member : Member} (h : member.Lowered) : member.Built := by
  obtain ⟨declaration, hdeclaration, hmem⟩ := h
  exact hdeclaration.built.members member hmem

theorem Param.Lowered.built {param : Param} (h : param.Lowered) : param.Built := by
  obtain ⟨member, hmember, hmem⟩ | ⟨decl, hdecl, hmem⟩ := h
  · exact hmember.built.params param hmem
  · exact hdecl.built.2 param hmem

/-! ### Signatures -/

namespace Param

/-- A parameter that a caller can come by. -/
def Reached (param : Param) : Prop :=
  (DraftKind.builder .param).Makes (fun draft : Param => ∃ name, draft = { name }) Lowered
    (fun _ => True) param

theorem Reached.built {param : Param} (h : param.Reached) : param.Built :=
  Builder.Makes.builtBy h fun _ hlowered => hlowered.built

end Param

namespace Callable

/-- The parameters that a call puts into a callable. -/
def Edit.added : Edit → List Param
  | .param node => [node]
  | .params nodes => nodes
  | _ => []

theorem params_edit (callable : Callable) (change : Edit) :
    (callable.edit change).params = callable.params ++ change.added := by
  cases change with
  | param node => rfl
  | params nodes => rfl
  | _ => exact (List.append_nil _).symm

end Callable

/-! ### Members -/

namespace Property

/-- A field that a caller can come by. -/
def Reached (property : Property) : Prop :=
  (DraftKind.builder .property).Makes (fun draft : Property => ∃ name, draft = { name })
    (fun node : Property => (Member.property node).Lowered) (fun _ => True) property

theorem Reached.built {property : Property} (h : property.Reached) :
    (Member.property property).Built :=
  Builder.Makes.builtBy h fun _ hlowered => Member.Lowered.built hlowered

end Property

namespace Getter

/-- A getter that a caller can come by. -/
def Reached (getter : Getter) : Prop :=
  (DraftKind.builder .getter).Makes (fun draft : Getter => ∃ name, draft = { name })
    (fun node : Getter => (Member.getter node).Lowered) (fun _ => True) getter

theorem Reached.built {getter : Getter} (h : getter.Reached) : (Member.getter getter).Built :=
  Builder.Makes.builtBy h fun _ hlowered => Member.Lowered.built hlowered

end Getter

namespace Setter

/-- A setter that a caller can come by; its parameter is there from the start. -/
def Reached (setter : Setter) : Prop :=
  (DraftKind.builder .setter).Makes
    (fun draft : Setter => ∃ name param, Param.Reached param ∧ draft = { name, param })
    (fun node : Setter => (Member.setter node).Lowered) (fun _ => True) setter

theorem Reached.built {setter : Setter} (h : setter.Reached) : setter.Built := by
  have hlowered : ∀ node : Setter, (Member.setter node).Lowered → node.Built :=
    fun node hnode => hnode.built
  refine ⟨Builder.Makes.builtBy h fun node hnode => (hlowered node hnode).built, ?_⟩
  refine List.forall_mem_singleton.mp (Builder.Makes.forall_added h (fun draft => [draft.param])
    (fun _ => []) ?_ ?_ ?_ ?_)
  · rintro draft ⟨name, param, hparam, rfl⟩
    exact List.forall_mem_singleton.mpr hparam.built
  · exact fun node hnode => List.forall_mem_singleton.mpr (hlowered node hnode).param
  · exact fun change _ param hmem => absurd hmem List.not_mem_nil
  · -- no call gives a setter another parameter
    intro draft change
    cases change <;> rfl

end Setter

namespace Constructor

/-- The parameters that a call puts into a constructor. -/
def Edit.added : Edit → List Param
  | .param node => [node]
  | .params nodes => nodes
  | _ => []

theorem params_edit (constructor : Constructor) (change : Edit) :
    (constructor.edit change).params = constructor.params ++ change.added := by
  cases change with
  | param node => rfl
  | params nodes => rfl
  | _ => exact (List.append_nil _).symm

/-- A constructor that a caller can come by. -/
def Reached (constructor : Constructor) : Prop :=
  (DraftKind.builder .constructor).Makes
    (fun draft : Constructor => ∃ className name, draft = { className, name })
    (fun node : Constructor => (Member.constructor node).Lowered)
    (fun change : Edit => ∀ node ∈ change.added, node.Reached) constructor

theorem Reached.built {constructor : Constructor} (h : constructor.Reached) :
    constructor.Built := by
  have hlowered : ∀ node : Constructor, (Member.constructor node).Lowered → node.Built :=
    fun node hnode => hnode.built
  refine ⟨Builder.Makes.builtBy h fun node hnode => (hlowered node hnode).built, ?_⟩
  refine Builder.Makes.forall_parts h params Edit.added ?_ ?_ ?_ ?_ ?_
  · rintro draft ⟨className, name, rfl⟩
    exact fun param hmem => absurd hmem List.not_mem_nil
  · exact fun node hnode => (hlowered node hnode).params
  · exact fun change hchange param hmem => (hchange param hmem).built
  · intro draft change changed hedit
    obtain rfl := Except.ok.inj hedit
    exact params_edit draft change
  · -- building moves the initializers and leaves the parameters alone
    intro draft node hbuild
    obtain ⟨-, rfl⟩ := build_eq_ok_iff.mp hbuild
    rfl

end Constructor

namespace Method

/-- The parameters that a call puts into a method. -/
def Edit.added : Edit → List Param
  | .callable change => change.added
  | _ => []

theorem params_edit (method : Method) (change : Edit) :
    (method.edit change).callable.params = method.callable.params ++ change.added := by
  cases change with
  | callable change => exact Callable.params_edit method.callable change
  | _ => exact (List.append_nil _).symm

/-- A method that a caller can come by. -/
def Reached (method : Method) : Prop :=
  (DraftKind.builder .method).Makes
    (fun draft : Method => ∃ name, draft = { callable := { name } })
    (fun node : Method => (Member.method node).Lowered)
    (fun change : Edit => ∀ node ∈ change.added, node.Reached) method

theorem Reached.built {method : Method} (h : method.Reached) : method.Built := by
  obtain ⟨hbuilt, hparams⟩ :
      BuiltBy build method ∧ ∀ param ∈ method.callable.params, param.Built := by
    refine Builder.Makes.builtBy_and_forall h (fun draft => draft.callable.params) Edit.added
      ?_ ?_ ?_ params_edit
    · rintro draft ⟨name, rfl⟩
      rfl
    · intro node hnode
      have hnode : node.Built := Member.Lowered.built hnode
      exact ⟨hnode.built, hnode.params⟩
    · exact fun change hchange param hmem => (hchange param hmem).built
  exact ⟨hbuilt, hparams⟩

end Method

namespace Member

/-- A member that a caller can come by. -/
def Reached : Member → Prop
  | .property member => member.Reached
  | .getter member => member.Reached
  | .setter member => member.Reached
  | .constructor member => member.Reached
  | .method member => member.Reached

theorem Reached.built {member : Member} (h : member.Reached) : member.Built := by
  cases member with
  | property member => exact Property.Reached.built h
  | getter member => exact Getter.Reached.built h
  | setter member => exact Setter.Reached.built h
  | constructor member => exact Constructor.Reached.built h
  | method member => exact Method.Reached.built h

end Member

/-! ### Declarations -/

namespace ClassDecl

/-- The members that a call puts into a class. -/
def Edit.added : Edit → List Member
  | .member node => [node]
  | .members nodes => nodes
  | _ => []

theorem members_edit (decl : ClassDecl) (change : Edit) :
    (decl.edit change).members = decl.members ++ change.added := by
  cases change with
  | member node => rfl
  | members nodes => rfl
  | _ => exact (List.append_nil _).symm

/-- A class that a caller can come by. -/
def Reached (decl : ClassDecl) : Prop :=
  (DraftKind.builder .classDecl).Makes (fun draft : ClassDecl => ∃ name, draft = { name })
    (fun node : ClassDecl => (Declaration.classDecl node).Lowered)
    (fun change : Edit => ∀ node ∈ change.added, node.Reached) decl

theorem Reached.built {decl : ClassDecl} (h : decl.Reached) :
    (Declaration.classDecl decl).Built := by
  refine Builder.Makes.builtBy_and_forall h members Edit.added ?_ ?_ ?_ members_edit
  · rintro draft ⟨name, rfl⟩
    rfl
  · exact fun node hnode => Declaration.Lowered.built hnode
  · exact fun change hchange member hmem => (hchange member hmem).built

end ClassDecl

namespace MixinDecl

/-- The members that a call puts into a mixin. -/
def Edit.added : Edit → List Member
  | .member node => [node]
  | _ => []

theorem members_edit (decl : MixinDecl) (change : Edit) :
    (decl.edit change).members = decl.members ++ change.added := by
  cases change with
  | member node => rfl
  | _ => exact (List.append_nil _).symm

/-- A mixin that a caller can come by. -/
def Reached (decl : MixinDecl) : Prop :=
  (DraftKind.builder .mixinDecl).Makes (fun draft : MixinDecl => ∃ name, draft = { name })
    (fun node : MixinDecl => (Declaration.mixinDecl node).Lowered)
    (fun change : Edit => ∀ node ∈ change.added, node.Reached) decl

theorem Reached.built {decl : MixinDecl} (h : decl.Reached) :
    (Declaration.mixinDecl decl).Built := by
  refine Builder.Makes.builtBy_and_forall h members Edit.added ?_ ?_ ?_ members_edit
  · rintro draft ⟨name, rfl⟩
    rfl
  · exact fun node hnode => Declaration.Lowered.built hnode
  · exact fun change hchange member hmem => (hchange member hmem).built

end MixinDecl

namespace ExtensionDecl

/-- The members that a call puts into an extension. -/
def Edit.added : Edit → List Member
  | .member node => [node]
  | _ => []

theorem members_edit (decl : ExtensionDecl) (change : Edit) :
    (decl.edit change).members = decl.members ++ change.added := by
  cases change with
  | member node => rfl
  | _ => exact (List.append_nil _).symm

/-- An extension that a caller can come by; it starts without a name. -/
def Reached (decl : ExtensionDecl) : Prop :=
  (DraftKind.builder .extensionDecl).Makes
    (fun draft : ExtensionDecl => ∃ target, draft = { target })
    (fun node : ExtensionDecl => (Declaration.extensionDecl node).Lowered)
    (fun change : Edit => ∀ node ∈ change.added, node.Reached) decl

theorem Reached.built {decl : ExtensionDecl} (h : decl.Reached) :
    (Declaration.extensionDecl decl).Built := by
  refine Builder.Makes.builtBy_and_forall h members Edit.added ?_ ?_ ?_ members_edit
  · rintro draft ⟨target, rfl⟩
    rfl
  · exact fun node hnode => Declaration.Lowered.built hnode
  · exact fun change hchange member hmem => (hchange member hmem).built

end ExtensionDecl

namespace EnumConstant

/-- A constant that a caller can come by. -/
def Reached (constant : EnumConstant) : Prop :=
  Builder.Makes ⟨fun draft change => .ok (EnumConstant.edit draft change), EnumConstant.build⟩
    (fun draft : EnumConstant => ∃ name, draft = { name }) Lowered (fun _ => True) constant

theorem Reached.built {constant : EnumConstant} (h : constant.Reached) : constant.Built :=
  Builder.Makes.builtBy h fun _ hlowered => hlowered.built

end EnumConstant

/-- Where each of several items gave a result, each result came from one of them. -/
theorem exists_of_mem_mapM {ε α β : Type} {step : α → Except ε β} {items : List α}
    {results : List β} (h : items.mapM step = .ok results) :
    ∀ result ∈ results, ∃ item ∈ items, step item = .ok result := by
  induction items generalizing results with
  | nil =>
    obtain rfl := Except.ok.inj h
    exact fun result hmem => absurd hmem List.not_mem_nil
  | cons item items ih =>
    rw [List.mapM_cons] at h
    obtain ⟨first, hfirst, h⟩ := bind_eq_ok_iff.mp h
    obtain ⟨rest, hrest, h⟩ := bind_eq_ok_iff.mp h
    obtain rfl := Except.ok.inj h
    refine List.forall_mem_cons.mpr ⟨⟨item, List.mem_cons_self, hfirst⟩, fun result hmem => ?_⟩
    obtain ⟨source, hsource, hresult⟩ := ih hrest result hmem
    exact ⟨source, List.mem_cons_of_mem item hsource, hresult⟩

namespace EnumDecl

/-- A call that puts reached constants and members into an enum, or none. Of constants that are
given by name the call makes nodes itself. -/
def Edit.Reached : Edit → Prop
  | .constant node => node.Reached
  | .member node => node.Reached
  | _ => True

/-- An enum that a caller can come by. -/
def Reached (decl : EnumDecl) : Prop :=
  (DraftKind.builder .enumDecl).Makes (fun draft : EnumDecl => ∃ name, draft = { name })
    (fun node : EnumDecl => (Declaration.enumDecl node).Lowered) Edit.Reached decl

/-- The constants and the members of an enum were built. -/
def BuiltParts (decl : EnumDecl) : Prop :=
  (∀ constant ∈ decl.constants, constant.Built) ∧ ∀ member ∈ decl.members, member.Built

/-- One step: a call keeps constants and members built nodes. -/
theorem BuiltParts.edit {decl changed : EnumDecl} {change : Edit} (h : decl.BuiltParts)
    (hchange : change.Reached) (hedit : decl.edit change = .ok changed) : changed.BuiltParts := by
  cases change with
  | constant node =>
    obtain rfl := Except.ok.inj hedit
    have hnew : node.Built := EnumConstant.Reached.built hchange
    exact ⟨List.forall_mem_append.mpr ⟨h.1, List.forall_mem_singleton.mpr hnew⟩, h.2⟩
  | values names =>
    obtain ⟨constants, hconstants, hedit⟩ := bind_eq_ok_iff.mp hedit
    obtain rfl := Except.ok.inj hedit
    refine ⟨List.forall_mem_append.mpr ⟨h.1, fun constant hmem => ?_⟩, h.2⟩
    -- no caller gave this constant: it was built from its name alone
    obtain ⟨name, -, hbuild⟩ := exists_of_mem_mapM hconstants constant hmem
    exact ⟨{ name }, hbuild⟩
  | member node =>
    obtain rfl := Except.ok.inj hedit
    have hnew : node.Built := Member.Reached.built hchange
    exact ⟨h.1, List.forall_mem_append.mpr ⟨h.2, List.forall_mem_singleton.mpr hnew⟩⟩
  | _ =>
    -- the other calls touch neither
    obtain rfl := Except.ok.inj hedit
    exact h

theorem Reached.built {decl : EnumDecl} (h : decl.Reached) :
    (Declaration.enumDecl decl).Built := by
  have hlowered : ∀ node : EnumDecl, (Declaration.enumDecl node).Lowered →
      (Declaration.enumDecl node).Built := fun node hnode => hnode.built
  refine ⟨Builder.Makes.builtBy h fun node hnode => (hlowered node hnode).1, ?_⟩
  refine Builder.Makes.keeps h BuiltParts ?_ ?_ ?_ ?_
  · rintro draft ⟨name, rfl⟩
    refine ⟨fun constant hmem => absurd hmem List.not_mem_nil, ?_⟩
    exact fun member hmem => absurd hmem List.not_mem_nil
  · exact fun node hnode => (hlowered node hnode).2
  · exact fun draft change changed hkept hchange hedit => hkept.edit hchange hedit
  · intro draft node hkept hbuild
    obtain ⟨-, rfl⟩ := Rule.enforce_eq_ok_iff.mp hbuild
    exact hkept

end EnumDecl

namespace FunctionDecl

/-- A function that a caller can come by. -/
def Reached (decl : FunctionDecl) : Prop :=
  (DraftKind.builder .functionDecl).Makes
    (fun draft : FunctionDecl => ∃ name, draft = { callable := { name } })
    (fun node : FunctionDecl => (Declaration.functionDecl node).Lowered)
    (fun change : Callable.Edit => ∀ node ∈ change.added, node.Reached) decl

theorem Reached.built {decl : FunctionDecl} (h : decl.Reached) :
    (Declaration.functionDecl decl).Built := by
  refine Builder.Makes.builtBy_and_forall h (fun draft => draft.callable.params)
    Callable.Edit.added ?_ ?_ ?_ fun draft change => Callable.params_edit draft.callable change
  · rintro draft ⟨name, rfl⟩
    rfl
  · exact fun node hnode => Declaration.Lowered.built hnode
  · exact fun change hchange param hmem => (hchange param hmem).built

end FunctionDecl

namespace VariableDecl

/-- A variable that a caller can come by. -/
def Reached (decl : VariableDecl) : Prop :=
  (DraftKind.builder .variable).Makes (fun draft : VariableDecl => ∃ name, draft = { name })
    (fun node : VariableDecl => (Declaration.variable node).Lowered) (fun _ => True) decl

theorem Reached.built {decl : VariableDecl} (h : decl.Reached) :
    (Declaration.variable decl).Built :=
  Builder.Makes.builtBy h fun _ hlowered => Declaration.Lowered.built hlowered

end VariableDecl

namespace Declaration

/-- A declaration that a caller can come by. -/
def Reached : Declaration → Prop
  | .classDecl decl => decl.Reached
  | .enumDecl decl => decl.Reached
  | .mixinDecl decl => decl.Reached
  | .extensionDecl decl => decl.Reached
  | .functionDecl decl => decl.Reached
  | .variable decl => decl.Reached

/-- A declaration that is reached was built from built parts. -/
theorem Reached.built {declaration : Declaration} (h : declaration.Reached) :
    declaration.Built := by
  cases declaration with
  | classDecl decl => exact ClassDecl.Reached.built h
  | enumDecl decl => exact EnumDecl.Reached.built h
  | mixinDecl decl => exact MixinDecl.Reached.built h
  | extensionDecl decl => exact ExtensionDecl.Reached.built h
  | functionDecl decl => exact FunctionDecl.Reached.built h
  | «variable» decl => exact VariableDecl.Reached.built h

end Declaration

/-! ### Directives and files -/

namespace Import

/-- An import that a caller can come by. -/
def Reached (directive : Import) : Prop :=
  Builder.Makes ⟨fun draft change => .ok (Import.edit draft change), Import.build⟩
    (fun draft : Import => ∃ uri, draft = { uri })
    (fun node => (Directive.importLib node).Lowered) (fun _ => True) directive

theorem Reached.built {directive : Import} (h : directive.Reached) :
    (Directive.importLib directive).Built :=
  Builder.Makes.builtBy h fun _ hlowered => Directive.Lowered.built hlowered

end Import

namespace Export

/-- An export that a caller can come by. -/
def Reached (directive : Export) : Prop :=
  Builder.Makes ⟨fun draft change => .ok (Export.edit draft change), Export.build⟩
    (fun draft : Export => ∃ uri, draft = { uri })
    (fun node => (Directive.exportLib node).Lowered) (fun _ => True) directive

theorem Reached.built {directive : Export} (h : directive.Reached) :
    (Directive.exportLib directive).Built :=
  Builder.Makes.builtBy h fun _ hlowered => Directive.Lowered.built hlowered

end Export

namespace Directive

/-- A directive that a caller can come by; a part and an owner are as they are given. -/
def Reached : Directive → Prop
  | .importLib directive => directive.Reached
  | .exportLib directive => directive.Reached
  | .part _ => True
  | .partOf _ => True

theorem Reached.built {directive : Directive} (h : directive.Reached) : directive.Built := by
  cases directive with
  | importLib directive => exact Import.Reached.built h
  | exportLib directive => exact Export.Reached.built h
  | part uri => trivial
  | partOf owner => trivial

end Directive

namespace SourceFile

/-- A change that adds reached nodes. -/
def Edit.Reached : Edit → Prop
  | .directive added => added.Reached
  | .directives added => ∀ node ∈ added, Directive.Reached node
  | .declaration added => added.Reached
  | .declarations added => ∀ node ∈ added, Declaration.Reached node

theorem Edit.Reached.built {change : Edit} (h : change.Reached) : change.Built := by
  cases change with
  | directive added => exact Directive.Reached.built h
  | directives added => exact fun node hmem => (h node hmem).built
  | declaration added => exact Declaration.Reached.built h
  | declarations added => exact fun node hmem => (h node hmem).built

/-- The files that a caller can come by. -/
inductive Reached : SourceFile → Prop where
  | new (options : RenderOptions) : Reached { options }
  | lowered {library : Record.Library} {surroundings : Surroundings} {file : SourceFile}
      (h : library.lower surroundings = .ok file) : Reached file
  | edit {file : SourceFile} {change : Edit} (h : Reached file) (hchange : change.Reached) :
      Reached (file.edit change)

/-- **A file that is reached is a file of built nodes.** -/
theorem Reached.built {file : SourceFile} (h : file.Reached) : file.Built := by
  induction h with
  | new options => exact built_of_options options
  | lowered h => exact Record.Library.built_of_lower h
  | edit _ hchange ih => exact ih.edit hchange.built

end SourceFile

end DartSource
