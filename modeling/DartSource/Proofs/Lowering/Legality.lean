import DartSource.Proofs.Directive.Encoding
import DartSource.Proofs.Lowering.Composition
import DartSource.Proofs.Lowering.Description

/-!
# What lowering gives was built

A description is no way around the rules. Whatever node a record describes obeys the rules of its
kind, as do the nodes inside it, so it is a node that was **built**: one that a caller could have
put together from drafts. A library that is lowered therefore gives a file of built directives and
built declarations (`Record.Library.built_of_lower`), and everything that is true of built files is
true of it.
-/

namespace DartSource

/-- A node that obeys its rules was built, where building does nothing but check. -/
theorem BuiltBy.of_obeyed {α : Type} {rules : α → List Rule} {node : α}
    (h : Rule.Obeyed (rules node)) :
    BuiltBy (fun draft => Rule.enforce (rules draft) draft) node :=
  .again (Rule.enforce_eq_ok_iff.mpr ⟨h, rfl⟩)

/-- What holds of everything that is related to something holds of a list of such things. -/
theorem forall_mem_of_forall₂ {α β : Type} {related : α → β → Prop} {p : β → Prop}
    {records : List α} {nodes : List β} (h : List.Forall₂ related records nodes)
    (hp : ∀ record node, related record node → p node) : ∀ node ∈ nodes, p node := by
  induction h with
  | nil => exact fun node hnode => absurd hnode List.not_mem_nil
  | cons hfirst _ ih => exact List.forall_mem_cons.mpr ⟨hp _ _ hfirst, ih⟩

namespace Record

/-! ### Members -/

theorem Param.Describes.built {record : Param} {node : DartSource.Param}
    (h : record.Describes node) : node.Built :=
  .of_obeyed h.legal

theorem Param.built_of_forall₂ {records : List Param} {nodes : List DartSource.Param}
    (h : List.Forall₂ Param.Describes records nodes) : ∀ node ∈ nodes, node.Built :=
  forall_mem_of_forall₂ h fun _ _ hparam => hparam.built

theorem Constructor.Describes.built {owner : String} {record : Constructor}
    {node : DartSource.Constructor} (h : record.Describes owner node) : node.Built := by
  -- the initializers stand in written order already, so building leaves them where they are
  have harranged : Initializer.arrange node.initializers = node.initializers := by
    have htwice := Initializer.arrange_arrange_append
      (record.initializers.map Lowering.initializer) []
    rw [List.append_nil, List.append_nil, ← h.initializers] at htwice
    exact htwice
  refine ⟨.again (Constructor.build_eq_ok_iff.mpr ⟨h.legal, ?_⟩), Param.built_of_forall₂ h.params⟩
  rw [harranged]

theorem Member.Describes.built {converters : Converters} {owner : String} {record : Member}
    {node : DartSource.Member} (h : record.Describes converters owner node) : node.Built := by
  cases h with
  | property h => exact BuiltBy.of_obeyed h.legal
  | getter h => exact BuiltBy.of_obeyed h.legal
  | setter h => exact ⟨.of_obeyed h.legal, h.param.built⟩
  | constructor h => exact h.built
  | method h => exact ⟨.of_obeyed h.legal, Param.built_of_forall₂ h.callable.params⟩

theorem Member.built_of_forall₂ {converters : Converters} {owner : String}
    {records : List Member} {nodes : List DartSource.Member}
    (h : List.Forall₂ (Member.Describes converters owner) records nodes) :
    ∀ node ∈ nodes, node.Built :=
  forall_mem_of_forall₂ h fun _ _ hmember => hmember.built

/-! ### Declarations -/

theorem Declaration.Describes.built {converters : Converters} {record : Declaration}
    {node : DartSource.Declaration} (h : record.Describes converters node) : node.Built := by
  cases h with
  | classDecl h => exact ⟨.of_obeyed h.legal, Member.built_of_forall₂ h.members⟩
  | enumDecl h =>
    refine ⟨.of_obeyed h.legal, ?_, Member.built_of_forall₂ h.members⟩
    exact forall_mem_of_forall₂ h.constants fun _ _ hconstant => BuiltBy.of_obeyed hconstant.legal
  | mixinDecl h => exact ⟨.of_obeyed h.legal, Member.built_of_forall₂ h.members⟩
  | extensionDecl h => exact ⟨.of_obeyed h.legal, Member.built_of_forall₂ h.members⟩
  | functionDecl h => exact ⟨.of_obeyed h.legal, Param.built_of_forall₂ h.callable.params⟩
  | «variable» h => exact BuiltBy.of_obeyed h.legal

end Record

/-! ### Directives -/

/-- What the directive of a record points at. -/
def Record.Directive.target : Record.Directive → Record.Target
  | .importLib record => record.target
  | .exportLib target _ _ => target
  | .part target => target

/-- The reference that a directive holds; an owner that is given by name holds none. -/
def Directive.reference? : Directive → Option Uri
  | .importLib directive => some directive.uri
  | .exportLib directive => some directive.uri
  | .part uri => some uri
  | .partOf (.library _) => none
  | .partOf (.reference uri) => some uri

namespace Lowering

variable {resolution : Resolution} {path : RecordPath} {record : Record.Directive}
  {node : Directive}

/-- **A directive is made from the reference that its target stands for.** -/
theorem exists_target_of_directive (h : directive resolution path record = .ok node) :
    node.Made ∧
      ∃ uri, target resolution record.target = .ok uri ∧ node.reference? = some uri := by
  obtain ⟨-, -, h⟩ := bind_eq_ok_iff.mp h
  have h := atPath_eq_ok_iff.mp h
  cases record with
  | importLib record =>
    obtain ⟨uri, huri, h⟩ := bind_eq_ok_iff.mp h
    obtain ⟨built, hbuild, h⟩ := bind_eq_ok_iff.mp h
    obtain rfl := Except.ok.inj h
    refine ⟨.builtImport hbuild, uri, huri, ?_⟩
    -- building an import leaves its reference as it is
    obtain ⟨-, rfl⟩ := Rule.enforce_eq_ok_iff.mp hbuild
    rfl
  | exportLib record shown hidden =>
    obtain ⟨uri, huri, h⟩ := bind_eq_ok_iff.mp h
    obtain ⟨built, hbuild, h⟩ := bind_eq_ok_iff.mp h
    obtain rfl := Except.ok.inj h
    refine ⟨.builtExport hbuild, uri, huri, ?_⟩
    obtain ⟨-, rfl⟩ := Rule.enforce_eq_ok_iff.mp hbuild
    rfl
  | part record =>
    obtain ⟨uri, huri, h⟩ := bind_eq_ok_iff.mp h
    obtain rfl := Except.ok.inj h
    exact ⟨.part uri, uri, huri, rfl⟩

end Lowering

/-! ### Libraries -/

namespace Record.Library

variable {library : Library} {surroundings : Surroundings} {file : SourceFile}

/-- The layout, the directives and the declarations behind a file that was lowered. -/
theorem exists_nodes_of_lower (h : library.lower surroundings = .ok file) :
    ∃ options directives declarations,
      library.layout surroundings = .ok options ∧
      library.directiveNodes surroundings = .ok directives ∧
      library.declarationNodes surroundings = .ok declarations ∧
      file = { options, directives := directives.eraseDups, declarations } := by
  cases hlayout : library.layout surroundings with
  | error failure =>
    rw [lower_of_layout_error hlayout] at h
    exact absurd h (by simp)
  | ok options =>
    obtain ⟨directives, declarations, hdirectives, hdeclarations, hfile⟩ :=
      (lower_eq_ok_iff hlayout).mp h
    exact ⟨options, directives, declarations, rfl, hdirectives, hdeclarations, hfile⟩

/-- The directives of a library are lowered one by one. -/
theorem directiveNodes_eq_ok_iff {nodes : List DartSource.Directive} :
    library.directiveNodes surroundings = .ok nodes ↔
      List.Forall₂
        (fun record node => Lowering.directive
          (surroundings.resolution (library.output.asset.map Lowering.asset)) {} record = .ok node)
        library.directives nodes :=
  Lowering.each_eq_ok_iff fun path record _ =>
    (Lowering.movable_directive _ record).eq_ok_iff path

/-- So are its declarations. -/
theorem declarationNodes_eq_ok_iff {nodes : List DartSource.Declaration} :
    library.declarationNodes surroundings = .ok nodes ↔
      List.Forall₂ (Declaration.Describes surroundings.converters) library.declarations nodes := by
  rw [declarationNodes]
  refine Lowering.each_eq_ok_iff ?_
  exact fun _ _ _ => Lowering.declaration_eq_ok_iff

/-- **A file that was lowered is a file that was built.** -/
theorem built_of_lower (h : library.lower surroundings = .ok file) : file.Built := by
  obtain ⟨options, directives, declarations, -, hdirectives, hdeclarations, rfl⟩ :=
    exists_nodes_of_lower h
  have hmade : ∀ node ∈ directives, node.Built :=
    forall_mem_of_forall₂ (directiveNodes_eq_ok_iff.mp hdirectives) fun _ _ hnode =>
      (Lowering.exists_target_of_directive hnode).1.built
  have hdescribed : ∀ node ∈ declarations, node.Built :=
    forall_mem_of_forall₂ (declarationNodes_eq_ok_iff.mp hdeclarations) fun _ _ hnode =>
      hnode.built
  refine ⟨fun node hnode => ?_, hdescribed⟩
  -- the directives of the file are some of those that were lowered
  exact hmade node (List.mem_eraseDups.mp hnode)

end Record.Library

end DartSource
