import DartSource.Declaration.Basic
import DartSource.Proofs.Member.Constructor

/-!
# Building in stages

A node that was built is a draft again: it can be changed further and built once more. For every
kind of node this gives what one gets by making all changes first and building once, the same node
or the same fault (`DraftKind.build_in_stages`).

Building most kinds of nodes only checks the draft, so the node **is** the draft and there is
nothing to show. A constructor comes out of its building with its initializers in written order. A
run of changes from the built constructor goes **alongside** the run from the draft: the two drafts
differ in the order of some initializers whose names were found usable before, and in nothing else.
Such drafts break the same rule first, and their initializers are arranged alike.
-/

namespace DartSource

/-! ### Builders -/

/-- How drafts of some kind are changed and built. -/
structure Builder (α β : Type) where
  edit : α → β → Except Fault α
  build : α → Except Fault α

namespace Builder

variable {α β : Type} (builder : Builder α β)

/-- Changes a draft, one change after the other. -/
def run (draft : α) (changes : List β) : Except Fault α :=
  changes.foldlM builder.edit draft

/-- Changes a draft and builds it. -/
def make (draft : α) (changes : List β) : Except Fault α := do
  let changed ← builder.run draft changes
  builder.build changed

theorem run_cons (draft : α) (change : β) (changes : List β) :
    builder.run draft (change :: changes) =
      builder.edit draft change >>= fun changed => builder.run changed changes :=
  List.foldlM_cons

/-- Changes after others start where these end. -/
theorem make_append {draft changed : α} {first : List β} (h : builder.run draft first = .ok changed)
    (second : List β) : builder.make draft (first ++ second) = builder.make changed second := by
  unfold make run at *
  rw [List.foldlM_append, h]
  rfl

/-- Two steps end alongside each other: with related drafts, or with the same fault. -/
inductive Alongside (related : α → α → Prop) : Except Fault α → Except Fault α → Prop where
  | ok {first second : α} (h : related first second) : Alongside related (.ok first) (.ok second)
  | error (fault : Fault) : Alongside related (.error fault) (.error fault)

/-- A relation between drafts that no change and no building can tell apart, and that holds between
a node and the draft it was built from. -/
structure Simulation (related : α → α → Prop) : Prop where
  built {draft node : α} : builder.build draft = .ok node → related node draft
  edit {first second : α} (change : β) : related first second →
    Alongside related (builder.edit first change) (builder.edit second change)
  build {first second : α} : related first second → builder.build first = builder.build second

variable {builder} {related : α → α → Prop}

namespace Simulation

/-- Related drafts stay related along a run of changes, and are built alike at its end. -/
theorem make_eq (hsim : builder.Simulation related) {first second : α} (h : related first second)
    (changes : List β) : builder.make first changes = builder.make second changes := by
  induction changes generalizing first second with
  | nil => exact hsim.build h
  | cons change changes ih =>
    unfold make at ih ⊢
    rw [run_cons, run_cons]
    have hstep := hsim.edit change h
    revert hstep
    generalize builder.edit first change = one
    generalize builder.edit second change = other
    intro hstep
    cases hstep with
    | ok h => exact ih h
    | error fault =>
      -- both runs end here, with the same fault
      rfl

/-- Building on the way changes nothing. -/
theorem make_append (hsim : builder.Simulation related) {draft node : α} {first : List β}
    (h : builder.make draft first = .ok node) (second : List β) :
    builder.make node second = builder.make draft (first ++ second) := by
  obtain ⟨changed, hrun, hbuild⟩ := bind_eq_ok_iff.mp h
  -- from here on one run starts at the node and the other at the draft it was built from
  rw [Builder.make_append builder hrun]
  exact hsim.make_eq (hsim.built hbuild) second

end Simulation

/-- A builder that only checks its drafts leaves them as they are. -/
theorem simulation_eq (rules : α → List Rule)
    (hbuild : ∀ draft, builder.build draft = Rule.enforce (rules draft) draft) :
    builder.Simulation Eq where
  built h := by
    rw [hbuild, Rule.enforce_eq_ok_iff] at h
    exact h.2.symm
  edit change h := by
    subst h
    generalize builder.edit _ change = result
    cases result with
    | ok changed => exact .ok rfl
    | error fault => exact .error fault
  build h := congrArg _ h

end Builder

/-! ### Constructors -/

namespace Constructor

/-- The builder of constructors; no change of a constructor can fail. -/
def builder : Builder Constructor Edit where
  edit constructor change := .ok (constructor.edit change)
  build := build

/-- Two drafts are alike but for the order of some initializers, which are arranged in the first and
whose names are usable. -/
def Rearranged (first second : Constructor) : Prop :=
  ∃ entries more : List Initializer,
    (∀ s : Subject, Rule.Obeyed (entries.flatMap fun entry => s.usableName? entry.target?)) ∧
    second.initializers = entries ++ more ∧
    first = { second with initializers := Initializer.arrange entries ++ more }

/-- One step: a change keeps such drafts alike. A new initializer goes behind those that were
there. -/
theorem Rearranged.edit {first second : Constructor} (h : Rearranged first second)
    (change : Edit) : Rearranged (first.edit change) (second.edit change) := by
  obtain ⟨entries, more, hnames, hsecond, rfl⟩ := h
  cases change with
  | initializer entry =>
    refine ⟨entries, more ++ [entry], hnames, ?_, ?_⟩
    · rw [← List.append_assoc, ← hsecond]
      rfl
    · rw [← List.append_assoc]
      rfl
  | doc text => exact ⟨entries, more, hnames, hsecond, rfl⟩
  | annotate text => exact ⟨entries, more, hnames, hsecond, rfl⟩
  | param param => exact ⟨entries, more, hnames, hsecond, rfl⟩
  | params params => exact ⟨entries, more, hnames, hsecond, rfl⟩
  | multiline => exact ⟨entries, more, hnames, hsecond, rfl⟩
  | const => exact ⟨entries, more, hnames, hsecond, rfl⟩
  | factory => exact ⟨entries, more, hnames, hsecond, rfl⟩
  | external => exact ⟨entries, more, hnames, hsecond, rfl⟩
  | body body => exact ⟨entries, more, hnames, hsecond, rfl⟩

/-- **Such drafts break the same rule first.** The rules about names in front of the rearranged
initializers are the same; those about the names in these are obeyed in either order; and the later
rules do not see the order. -/
theorem Rearranged.firstFault?_rules {first second : Constructor} (h : Rearranged first second) :
    Rule.firstFault? first.rules = Rule.firstFault? second.rules := by
  obtain ⟨entries, more, hnames, hsecond, rfl⟩ := h
  have hperm : second.initializers.Perm (Initializer.arrange entries ++ more) := by
    rw [hsecond]
    exact (Initializer.arrange_perm entries).symm.append_right more
  generalize hs : (⟨.constructor, second.displayName⟩ : Subject) = s
  have harranged : Rule.Obeyed
      ((Initializer.arrange entries).flatMap fun entry => s.usableName? entry.target?) := by
    have hnames := hnames s
    rw [Rule.obeyed_flatMap] at hnames ⊢
    exact fun entry hentry => hnames entry ((Initializer.arrange_perm entries).mem_iff.mp hentry)
  calc Rule.firstFault? { second with initializers := Initializer.arrange entries ++ more }.rules
    _ = Rule.firstFault? (second.frontRules s ++
          ((Initializer.arrange entries ++ more).flatMap fun entry =>
            s.usableName? entry.target?) ++ second.laterRules s) := by
      rw [rules_eq, ← hs, laterRules_of_perm _ hperm]
      rfl
    _ = Rule.firstFault? (second.frontRules s ++
          ((entries ++ more).flatMap fun entry => s.usableName? entry.target?) ++
          second.laterRules s) := by
      rw [List.append_assoc, List.append_assoc, Rule.firstFault?_append,
        Rule.firstFault?_append (second.frontRules s), List.flatMap_append, List.flatMap_append,
        List.append_assoc, List.append_assoc, Rule.firstFault?_append_of_obeyed harranged,
        Rule.firstFault?_append_of_obeyed (hnames s)]
    _ = Rule.firstFault? second.rules := by
      rw [rules_eq second, hs, hsecond]

/-- So they are built alike. -/
theorem Rearranged.build_eq {first second : Constructor} (h : Rearranged first second) :
    first.build = second.build := by
  have hfault := h.firstFault?_rules
  obtain ⟨entries, more, -, hsecond, rfl⟩ := h
  unfold build
  rw [Rule.enforce_congr hfault, Initializer.arrange_arrange_append, ← hsecond]

theorem rearranged_of_build {draft node : Constructor} (h : draft.build = .ok node) :
    Rearranged node draft := by
  obtain ⟨hobeyed, rfl⟩ := build_eq_ok_iff.mp h
  refine ⟨draft.initializers, [], fun s => ?_, (List.append_nil _).symm, ?_⟩
  · -- whether a name is usable does not depend on the node that is blamed for it
    rw [rules_eq, Rule.obeyed_append, Rule.obeyed_append, Rule.obeyed_flatMap] at hobeyed
    rw [Rule.obeyed_flatMap]
    intro entry hentry
    have hentry := hobeyed.1.2 entry hentry
    rw [Subject.obeyed_usableName?] at hentry ⊢
    intro name hname
    exact Subject.obeyed_usableName.mpr (Subject.obeyed_usableName.mp (hentry name hname))
  · rw [List.append_nil]

theorem simulation_rearranged : builder.Simulation Rearranged where
  built h := rearranged_of_build h
  edit change h := .ok (h.edit change)
  build h := h.build_eq

end Constructor

/-! ### All kinds of nodes -/

/-- The kinds of nodes that can be changed after they were built. -/
inductive DraftKind where
  | param
  | property
  | getter
  | setter
  | method
  | functionDecl
  | constructor
  | classDecl
  | enumDecl
  | mixinDecl
  | extensionDecl
  | «variable»
  deriving DecidableEq, Repr

namespace DraftKind

/-- The drafts of a kind, among them its nodes. -/
def Draft : DraftKind → Type
  | .param => Param
  | .property => Property
  | .getter => Getter
  | .setter => Setter
  | .method => Method
  | .functionDecl => FunctionDecl
  | .constructor => Constructor
  | .classDecl => ClassDecl
  | .enumDecl => EnumDecl
  | .mixinDecl => MixinDecl
  | .extensionDecl => ExtensionDecl
  | .variable => VariableDecl

/-- The changes to drafts of a kind. -/
def Change : DraftKind → Type
  | .param => Param.Edit
  | .property => Property.Edit
  | .getter => Getter.Edit
  | .setter => Setter.Edit
  | .method => Method.Edit
  | .functionDecl => Callable.Edit
  | .constructor => Constructor.Edit
  | .classDecl => ClassDecl.Edit
  | .enumDecl => EnumDecl.Edit
  | .mixinDecl => MixinDecl.Edit
  | .extensionDecl => ExtensionDecl.Edit
  | .variable => VariableDecl.Edit

/-- How drafts of a kind are changed and built. Only a change to an enum can fail. -/
def builder : (kind : DraftKind) → Builder kind.Draft kind.Change
  | .param => ⟨fun draft change => .ok (Param.edit draft change), Param.build⟩
  | .property => ⟨fun draft change => .ok (Property.edit draft change), Property.build⟩
  | .getter => ⟨fun draft change => .ok (Getter.edit draft change), Getter.build⟩
  | .setter => ⟨fun draft change => .ok (Setter.edit draft change), Setter.build⟩
  | .method => ⟨fun draft change => .ok (Method.edit draft change), Method.build⟩
  | .functionDecl => ⟨fun draft change => .ok (FunctionDecl.edit draft change), FunctionDecl.build⟩
  | .constructor => Constructor.builder
  | .classDecl => ⟨fun draft change => .ok (ClassDecl.edit draft change), ClassDecl.build⟩
  | .enumDecl => ⟨EnumDecl.edit, EnumDecl.build⟩
  | .mixinDecl => ⟨fun draft change => .ok (MixinDecl.edit draft change), MixinDecl.build⟩
  | .extensionDecl =>
    ⟨fun draft change => .ok (ExtensionDecl.edit draft change), ExtensionDecl.build⟩
  | .variable => ⟨fun draft change => .ok (VariableDecl.edit draft change), VariableDecl.build⟩

/-- Every kind has a relation that no change and no building can tell apart. -/
theorem exists_simulation (kind : DraftKind) : ∃ related, kind.builder.Simulation related := by
  cases kind with
  | param => exact ⟨Eq, Builder.simulation_eq Param.rules fun _ => rfl⟩
  | property => exact ⟨Eq, Builder.simulation_eq Property.rules fun _ => rfl⟩
  | getter => exact ⟨Eq, Builder.simulation_eq Getter.rules fun _ => rfl⟩
  | setter => exact ⟨Eq, Builder.simulation_eq Setter.rules fun _ => rfl⟩
  | method => exact ⟨Eq, Builder.simulation_eq Method.rules fun _ => rfl⟩
  | functionDecl => exact ⟨Eq, Builder.simulation_eq FunctionDecl.rules fun _ => rfl⟩
  | constructor => exact ⟨Constructor.Rearranged, Constructor.simulation_rearranged⟩
  | classDecl => exact ⟨Eq, Builder.simulation_eq ClassDecl.rules fun _ => rfl⟩
  | enumDecl => exact ⟨Eq, Builder.simulation_eq EnumDecl.rules fun _ => rfl⟩
  | mixinDecl => exact ⟨Eq, Builder.simulation_eq MixinDecl.rules fun _ => rfl⟩
  | extensionDecl => exact ⟨Eq, Builder.simulation_eq ExtensionDecl.rules fun _ => rfl⟩
  | «variable» => exact ⟨Eq, Builder.simulation_eq VariableDecl.rules fun _ => rfl⟩

/-- **Building in stages is building at once.** Whatever the kind of node, the draft to start from
and the changes: if the draft with the first changes can be built, then changing and building the
node further gives the same result, node or fault, as making all changes to the draft and building
once. In particular a node that was built is built again as it is. -/
theorem build_in_stages (kind : DraftKind) (draft node : kind.Draft)
    (first second : List kind.Change) (h : kind.builder.make draft first = .ok node) :
    kind.builder.make node second = kind.builder.make draft (first ++ second) ∧
      kind.builder.build node = .ok node := by
  obtain ⟨related, hsim⟩ := kind.exists_simulation
  refine ⟨hsim.make_append h second, ?_⟩
  -- a second stage without changes
  have hagain := hsim.make_append h []
  rw [List.append_nil, h] at hagain
  exact hagain

/-- A constructor whose building puts an assertion in front of a field, and which then gets another
assertion and becomes constant. -/
theorem build_in_stages_of_constructor :
    let first : List Constructor.Edit :=
      [.initializer (.field "a" "1"), .initializer (.assert "b" none)]
    let second : List Constructor.Edit := [.initializer (.assert "c" none), .const]
    let node : Constructor :=
      { className := "C", initializers := [.assert "b" none, .field "a" "1"] }
    (builder .constructor).make { className := "C" : Constructor } first = .ok node ∧
      (builder .constructor).make node second =
        (builder .constructor).make { className := "C" : Constructor } (first ++ second) ∧
      (builder .constructor).build node = .ok node :=
  ⟨rfl, build_in_stages .constructor _ _ _ _ rfl⟩

end DraftKind

end DartSource
