import DartSource.Layout.Sink
import DartSource.Proofs.Node.Staged
import Mathlib.Data.List.Basic

/-!
# Parameters of different groups

Parameters are given in one list and written in three groups. Sorting them is a stable partition:
each group is what the list holds of it, in the order given, and nothing is lost or repeated. These
conditions leave no choice (`ParamList.partitions_iff`).

Nothing that is done with a callable looks at the list as it was given. The rules and the signature
read the groups alone, so two drafts whose lists agree group by group are refused for the same
reason, or built into nodes with the same text, however the groups were mixed
(`Param.order_across_groups`). The nodes themselves may differ, as each keeps the list that it was
given.
-/

namespace DartSource

/-- The place of a group in the parameter list. -/
def ParamGroup.rank : ParamGroup → Nat
  | .required => 0
  | .optional => 1
  | .named => 2

theorem ParamGroup.rank_lt (group : ParamGroup) : group.rank < 3 := by
  cases group <;> decide

/-! ### The partition -/

namespace ParamList

/-- The parameters of one group. -/
def ofGroup (list : ParamList) : ParamGroup → List Param
  | .required => list.required
  | .optional => list.optional
  | .named => list.named

/-- The list sorts the parameters into their groups: each group takes some of them, in their order,
and only such as belong to it, and all groups together take every parameter once. -/
structure Partitions (list : ParamList) (params : List Param) : Prop where
  ordered : ∀ group, (list.ofGroup group).Sublist params
  grouped : ∀ group, ∀ param ∈ list.ofGroup group, param.group = group
  complete : list.toList.Perm params

/-- A list is what its groups are. -/
theorem eq_of_ofGroup_eq {list other : ParamList}
    (h : ∀ group, list.ofGroup group = other.ofGroup group) : list = other := by
  obtain ⟨required, optional, named⟩ := list
  obtain ⟨required', optional', named'⟩ := other
  obtain rfl : required = required' := h .required
  obtain rfl : optional = optional' := h .optional
  obtain rfl : named = named' := h .named
  rfl

theorem ofGroup_ofParams (params : List Param) (group : ParamGroup) :
    (ofParams params).ofGroup group = params.filter fun param => param.group == group := by
  cases group with
  | required => rfl
  | optional => rfl
  | named => rfl

/-- Group by group is rank by rank. -/
theorem toList_ofParams (params : List Param) :
    (ofParams params).toList = byRank (fun param => param.group.rank) 3 params := by
  have hrank : ∀ group : ParamGroup, (fun param : Param => param.group.rank == group.rank) =
      fun param => param.group == group := by
    intro group
    funext param
    cases group <;> cases param.group <;> rfl
  rw [byRank_succ, byRank_succ, byRank_succ, byRank_zero, List.nil_append]
  -- the ranks are those of the groups
  show (ofParams params).toList =
    params.filter (fun param => param.group.rank == ParamGroup.rank .required) ++
      params.filter (fun param => param.group.rank == ParamGroup.rank .optional) ++
      params.filter fun param => param.group.rank == ParamGroup.rank .named
  rw [hrank, hrank, hrank]
  rfl

theorem partitions_ofParams (params : List Param) : (ofParams params).Partitions params where
  ordered group := by
    rw [ofGroup_ofParams]
    exact List.filter_sublist
  grouped group param hmem := by
    rw [ofGroup_ofParams, List.mem_filter] at hmem
    exact eq_of_beq hmem.2
  complete := by
    rw [toList_ofParams]
    exact byRank_perm fun param _ => param.group.rank_lt

/-- The parameters of a group stand in that group and in no other. -/
theorem Partitions.filter_toList {list : ParamList} {params : List Param}
    (h : list.Partitions params) (group : ParamGroup) :
    list.toList.filter (fun param => param.group == group) = list.ofGroup group := by
  have hown : ∀ other, (list.ofGroup other).filter (fun param => param.group == group) =
      if other = group then list.ofGroup other else [] := by
    intro other
    split
    · next heq =>
      rw [List.filter_eq_self]
      intro param hmem
      rw [h.grouped other param hmem, heq, beq_self_eq_true]
    · next hne =>
      rw [List.filter_eq_nil_iff]
      intro param hmem
      rw [h.grouped other param hmem, beq_iff_eq]
      exact hne
  calc list.toList.filter (fun param => param.group == group)
    _ = (list.ofGroup .required).filter (fun param => param.group == group) ++
          (list.ofGroup .optional).filter (fun param => param.group == group) ++
          (list.ofGroup .named).filter (fun param => param.group == group) := by
      unfold toList
      rw [List.filter_append, List.filter_append]
      rfl
    _ = list.ofGroup group := by
      rw [hown, hown, hown]
      cases group with
      | required => exact (List.append_nil _).trans (List.append_nil _)
      | optional => exact List.append_nil _
      | named => rfl

/-- **Sorting into groups is the only stable partition.** -/
theorem partitions_iff {list : ParamList} {params : List Param} :
    list.Partitions params ↔ list = ofParams params := by
  refine ⟨fun h => eq_of_ofGroup_eq fun group => ?_, fun h => h ▸ partitions_ofParams params⟩
  rw [ofGroup_ofParams]
  -- a group is part of what the parameters hold of it, and just as long
  have hsublist : (list.ofGroup group).Sublist
      (params.filter fun param => param.group == group) := by
    have hfilter := (h.ordered group).filter fun param => param.group == group
    rwa [List.filter_eq_self.mpr fun param hmem =>
      beq_iff_eq.mpr (h.grouped group param hmem)] at hfilter
  have hlength : (list.ofGroup group).length =
      (params.filter fun param => param.group == group).length := by
    rw [← h.filter_toList group]
    exact (h.complete.filter _).length_eq
  exact hsublist.eq_of_length hlength

end ParamList

/-! ### Lists that agree group by group -/

/-- The two lists hold the same parameters of each group, in the same order. -/
def Param.SameGroups (params others : List Param) : Prop :=
  ∀ group : ParamGroup,
    params.filter (fun param => param.group == group) =
      others.filter fun param => param.group == group

/-- Such lists are sorted into the same groups. -/
theorem Param.SameGroups.ofParams_eq {params others : List Param}
    (h : Param.SameGroups params others) :
    ParamList.ofParams params = ParamList.ofParams others := by
  apply ParamList.eq_of_ofGroup_eq
  intro group
  rw [ParamList.ofGroup_ofParams, ParamList.ofGroup_ofParams]
  exact h group

/-- The two nodes have the same text. -/
def RenderAlike {α : Type} (fragments : α → List Fragment) (node other : α) : Prop :=
  Fragment.render (fragments node) = Fragment.render (fragments other)

/-- Drafts that are held to the same rules end alongside each other. -/
theorem Rule.alongside_enforce {α : Type} {related : α → α → Prop} {rules others : List Rule}
    {draft other : α} (hrules : rules = others) (h : related draft other) :
    Builder.Alongside related (enforce rules draft) (enforce others other) := by
  subst hrules
  unfold enforce
  cases firstFault? rules with
  | none => exact .ok h
  | some fault => exact .error fault

variable {params others : List Param}

namespace Callable

/-- The callable with other parameters. -/
def withParams (callable : Callable) (params : List Param) : Callable :=
  { callable with params }

variable (callable : Callable)

/-- The rules read the groups, not the list. -/
theorem rules_withParams (h : Param.SameGroups params others) (kind : NodeKind) :
    (callable.withParams params).rules kind = (callable.withParams others).rules kind := by
  have hlist : (callable.withParams params).paramList = (callable.withParams others).paramList :=
    h.ofParams_eq
  unfold rules
  rw [hlist]
  rfl

/-- So does the signature. -/
theorem signature_withParams (h : Param.SameGroups params others)
    (flags : List (String × Bool)) :
    (callable.withParams params).signature flags =
      (callable.withParams others).signature flags := by
  have hlist : (callable.withParams params).paramList = (callable.withParams others).paramList :=
    h.ofParams_eq
  unfold signature
  rw [hlist]
  rfl

end Callable

namespace Method

/-- The method with other parameters. -/
def withParams (method : Method) (params : List Param) : Method :=
  { method with callable := method.callable.withParams params }

theorem rules_withParams (h : Param.SameGroups params others) (method : Method) :
    (method.withParams params).rules = (method.withParams others).rules := by
  unfold rules
  show (method.callable.withParams params).rules .method ++ _ =
    (method.callable.withParams others).rules .method ++ _
  rw [method.callable.rules_withParams h]
  rfl

theorem fragments_withParams (h : Param.SameGroups params others) (method : Method) :
    (method.withParams params).fragments = (method.withParams others).fragments := by
  have hsignature : (method.withParams params).signature = (method.withParams others).signature :=
    method.callable.signature_withParams h _
  unfold fragments
  rw [hsignature]
  rfl

end Method

namespace FunctionDecl

/-- The function with other parameters. -/
def withParams (decl : FunctionDecl) (params : List Param) : FunctionDecl :=
  { decl with callable := decl.callable.withParams params }

theorem fragments_withParams (h : Param.SameGroups params others) (decl : FunctionDecl) :
    (decl.withParams params).fragments = (decl.withParams others).fragments := by
  have hsignature : (decl.withParams params).callable.signature [] =
      (decl.withParams others).callable.signature [] :=
    decl.callable.signature_withParams h _
  unfold fragments
  rw [hsignature]
  rfl

end FunctionDecl

namespace Constructor

/-- The constructor with other parameters. -/
def withParams (constructor : Constructor) (params : List Param) : Constructor :=
  { constructor with params }

theorem rules_withParams (h : Param.SameGroups params others) (constructor : Constructor) :
    (constructor.withParams params).rules = (constructor.withParams others).rules := by
  have hlist : (constructor.withParams params).paramList =
      (constructor.withParams others).paramList :=
    h.ofParams_eq
  -- the names, the rules of a factory and those of a redirection each look at the parameters
  unfold rules nameRules factoryRules redirectRules
  rw [hlist]
  rfl

theorem fragments_withParams (h : Param.SameGroups params others) (constructor : Constructor) :
    (constructor.withParams params).fragments = (constructor.withParams others).fragments := by
  have hlist : (constructor.withParams params).paramList =
      (constructor.withParams others).paramList :=
    h.ofParams_eq
  have hsignature : (constructor.withParams params).signature =
      (constructor.withParams others).signature := by
    unfold signature
    rw [hlist]
    rfl
  unfold fragments
  rw [hsignature]
  rfl

end Constructor

/-! ### The main statement -/

/-- **The order of parameters counts within their groups alone.** Sorting parameters into groups is
the one stable partition of the list. Where two lists agree group by group, a method, function or
constructor with the one and with the other is refused with the same fault, or built both times,
and then both nodes are written alike. -/
theorem Param.order_across_groups (params : List Param) :
    (∀ list : ParamList, list.Partitions params ↔ list = ParamList.ofParams params) ∧
      ∀ others, Param.SameGroups params others →
        (∀ method : Method, Builder.Alongside (RenderAlike Method.fragments)
          (method.withParams params).build (method.withParams others).build) ∧
        (∀ decl : FunctionDecl, Builder.Alongside (RenderAlike FunctionDecl.fragments)
          (decl.withParams params).build (decl.withParams others).build) ∧
        ∀ constructor : Constructor, Builder.Alongside (RenderAlike Constructor.fragments)
          (constructor.withParams params).build (constructor.withParams others).build := by
  refine ⟨fun list => ParamList.partitions_iff, fun others h => ⟨?_, ?_, ?_⟩⟩
  · intro method
    apply Rule.alongside_enforce (method.rules_withParams h)
    unfold RenderAlike
    rw [method.fragments_withParams h]
  · intro decl
    apply Rule.alongside_enforce (decl.callable.rules_withParams h .functionDecl)
    unfold RenderAlike
    rw [decl.fragments_withParams h]
  · intro constructor
    apply Rule.alongside_enforce (constructor.rules_withParams h)
    unfold RenderAlike
    -- building arranges the initializers and leaves the parameters as they are
    exact congrArg Fragment.render (Constructor.fragments_withParams h
      { constructor with initializers := Initializer.arrange constructor.initializers })

/-- Two parameters for fields, the optional one first. -/
def Param.optionalFirst : List Param :=
  [{ name := "a", isOptional := true, isField := true }, { name := "b", isField := true }]

/-- The other way round, a constructor is written alike; a method is refused for the parameter that
would be written first. -/
theorem Param.order_across_groups_optionalFirst :
    let constructor : Constructor := { className := "C" }
    let method : Method := { callable := { name := "m", body := some (.arrow "a") } }
    Param.SameGroups optionalFirst optionalFirst.reverse ∧
      Builder.Alongside (RenderAlike Constructor.fragments)
        (constructor.withParams optionalFirst).build
        (constructor.withParams optionalFirst.reverse).build ∧
      (constructor.withParams optionalFirst).build = .ok (constructor.withParams optionalFirst) ∧
      Builder.Alongside (RenderAlike Method.fragments)
        (method.withParams optionalFirst).build (method.withParams optionalFirst.reverse).build ∧
      (method.withParams optionalFirst).build =
        .error (.structural .method "m" (.formalOutsideConstructor "this.b")) := by
  intro constructor method
  have hgroups : Param.SameGroups optionalFirst optionalFirst.reverse := by
    intro group
    cases group with
    | required => rfl
    | optional => rfl
    | named => rfl
  obtain ⟨hmethod, -, hconstructor⟩ := (Param.order_across_groups optionalFirst).2 _ hgroups
  refine ⟨hgroups, hconstructor constructor, ?_, hmethod method, ?_⟩
  · decide +kernel
  · decide +kernel

end DartSource
