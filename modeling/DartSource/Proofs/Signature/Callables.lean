import DartSource.Proofs.Node.Hygiene
import DartSource.Proofs.Signature.Interleaving

/-!
# One set of rules for all callables

Methods, functions, getters and setters are built by four builders, and each of them lists its own
rules. What the rules come to is the same for all of them, and it is said here without any order of
checking: a callable is **legal** when its names are usable and distinct, its parameters are plain
and not both optional and named, and its body fits its keywords (`Callable.Legal`). A callable obeys
its rules, under whichever kind they are reported, exactly when it is legal
(`Callable.obeyed_rules_iff`).

The other kinds are measured against functions. A method is held to the rules of a function, with
another kind of node to blame (`Callable.map_asFunction_rules`), so the two builders agree in their
faults and in their texts as well. A getter is a function without parameters, and a setter is one
with a single parameter, which has to be a required one.
-/

namespace DartSource

/-! ### What single rules ask -/

/-- Among distinct names none was seen before. -/
theorem not_contains_of_nodup {seen rest : List String} {name : String}
    (h : (seen ++ name :: rest).Nodup) : (!seen.contains name) = true := by
  rw [Bool.not_eq_true', List.contains_eq_mem, decide_eq_false_iff_not]
  exact fun hmem => List.disjoint_of_nodup_append h hmem List.mem_cons_self

/-- Names obey the rule to be distinct exactly when they are. -/
theorem Subject.obeyed_distinct_iff {s : Subject} {what : String} {seen names : List String}
    (hseen : seen.Nodup) : Rule.Obeyed (s.distinct what seen names) ↔ (seen ++ names).Nodup := by
  refine ⟨nodup_append_of_distinct hseen, fun h => ?_⟩
  induction names generalizing seen with
  | nil => exact Rule.obeyed_nil
  | cons name rest ih =>
    have hnew := not_contains_of_nodup h
    rw [distinct, Rule.obeyed_cons]
    refine ⟨hnew, ih (nodup_append_of_not_contains hseen hnew) ?_⟩
    rwa [List.append_assoc]

namespace TypeParam

theorem obeyed_rulesAfter {seen : List String} {params : List TypeParam}
    (husable : ∀ param ∈ params, UsableName param.name)
    (h : (seen ++ params.map TypeParam.name).Nodup) : Rule.Obeyed (rulesAfter seen params) := by
  induction params generalizing seen with
  | nil => exact Rule.obeyed_nil
  | cons param rest ih =>
    obtain ⟨hparam, hrest⟩ := List.forall_mem_cons.mp husable
    rw [rulesAfter, Rule.obeyed_append, Rule.obeyed_cons]
    refine ⟨Subject.obeyed_usableName.mpr hparam, not_contains_of_nodup h, ih hrest ?_⟩
    rwa [List.append_assoc]

/-- Type parameters obey their rules exactly when their names are usable and distinct. -/
theorem obeyed_rules_iff {params : List TypeParam} :
    Rule.Obeyed (rules params) ↔
      (∀ param ∈ params, UsableName param.name) ∧ (params.map TypeParam.name).Nodup := by
  refine ⟨fun h => ⟨usable_of_rulesAfter h, nodup_of_rules h⟩, ?_⟩
  rintro ⟨husable, hnodup⟩
  exact obeyed_rulesAfter husable hnodup

end TypeParam

theorem Param.formal?_eq_none_iff {param : Param} :
    param.formal? = none ↔ param.isField = false ∧ param.isSuper = false := by
  unfold formal?
  cases param.isField <;> cases param.isSuper <;> simp

namespace ParamList

/-- A parameter list obeys its rules exactly when it is hygienic. -/
theorem obeyed_rules_iff {owner : Subject} {list : ParamList} :
    Rule.Obeyed (list.rules owner) ↔ list.Hygienic := by
  refine ⟨hygienic_of_rules, fun h => ?_⟩
  rw [rules, Rule.obeyed_cons, Subject.must_holds, Bool.or_eq_true, List.isEmpty_iff,
    List.isEmpty_iff]
  exact ⟨h.groups, (Subject.obeyed_distinct_iff List.nodup_nil).mpr h.names⟩

/-- The rule against formals asks that there be none. -/
theorem obeyed_noFormals_iff {owner : Subject} {list : ParamList}
    {violation : String → Violation} :
    Rule.Obeyed (list.noFormals owner violation) ↔
      ∀ param ∈ list.toList, param.isField = false ∧ param.isSuper = false := by
  have hnone : list.formal? = none ↔
      ∀ param ∈ list.toList, param.isField = false ∧ param.isSuper = false := by
    unfold formal?
    rw [List.findSome?_eq_none_iff]
    exact forall₂_congr fun param _ => Param.formal?_eq_none_iff
  rw [← hnone]
  unfold noFormals
  cases list.formal? with
  | none => exact ⟨fun _ => rfl, fun _ => Rule.obeyed_nil⟩
  | some formal =>
    -- the only rule is one that cannot hold
    refine ⟨fun h => absurd (h _ (List.mem_singleton_self _)) Bool.false_ne_true, fun h => ?_⟩
    exact absurd h (Option.some_ne_none formal)

variable (params : List Param)

theorem mem_toList_ofParams {param : Param} :
    param ∈ (ofParams params).toList ↔ param ∈ params :=
  (partitions_ofParams params).complete.mem_iff

/-- Whether a list is hygienic can be told from the parameters as they were given. -/
theorem hygienic_ofParams_iff :
    (ofParams params).Hygienic ↔
      (params.map Param.name).Nodup ∧
        ((∀ param ∈ params, param.group ≠ .optional) ∨
          ∀ param ∈ params, param.group ≠ .named) := by
  have hnames : (ofParams params).names.Nodup ↔ (params.map Param.name).Nodup :=
    ((partitions_ofParams params).complete.map Param.name).nodup_iff
  have hempty : ∀ group, (ofParams params).ofGroup group = [] ↔
      ∀ param ∈ params, param.group ≠ group := by
    intro group
    rw [ofGroup_ofParams, List.filter_eq_nil_iff]
    exact forall₂_congr fun param _ => not_congr beq_iff_eq
  rw [← hnames, ← hempty .optional, ← hempty .named]
  exact ⟨fun h => ⟨h.names, h.groups⟩, fun h => ⟨h.1, h.2⟩⟩

end ParamList

/-! ### Bodies -/

/-- A body that fits the keywords of its callable: something external has none and is neither
asynchronous nor a generator, anything else has one, and the body of a generator is a block. -/
structure Body.Legal (isExternal isAsync isGenerator : Bool) (body : Option Body) : Prop where
  external : isExternal = true → body = none ∧ isAsync = false ∧ isGenerator = false
  given : isExternal = false → body ≠ none
  block : ∀ expression, body = some (.arrow expression) → isGenerator = false

theorem Body.obeyed_rules_iff {s : Subject} {isExternal isAsync isGenerator : Bool}
    {body : Option Body} :
    Rule.Obeyed (rules s isExternal isAsync isGenerator body) ↔
      Legal isExternal isAsync isGenerator body := by
  unfold rules
  simp only [Rule.obeyed_cons, Rule.obeyed_nil, and_true, Subject.must_holds,
    Subject.exclusive_holds]
  constructor
  · rintro ⟨hbody, hasync, hgenerator, hgiven, harrow⟩
    refine ⟨?_, ?_, ?_⟩
    · rintro rfl
      refine ⟨?_, by simpa using hasync, by simpa using hgenerator⟩
      simpa using hbody
    · rintro rfl rfl
      exact absurd hgiven Bool.false_ne_true
    · rintro expression rfl
      simpa [isArrow] using harrow
  · intro h
    cases isExternal with
    | true =>
      obtain ⟨rfl, rfl, rfl⟩ := h.external rfl
      exact ⟨rfl, rfl, rfl, rfl, rfl⟩
    | false =>
      have hgiven := h.given rfl
      cases body with
      | none => exact absurd rfl hgiven
      | some body =>
        cases body with
        | block text => exact ⟨rfl, rfl, rfl, rfl, rfl⟩
        | arrow expression =>
          obtain rfl := h.block expression rfl
          exact ⟨rfl, rfl, rfl, rfl, rfl⟩

/-! ### Legal callables -/

namespace Callable

/-- What a callable has to be, read off the callable as it was drafted. -/
structure Legal (callable : Callable) : Prop where
  name : UsableName callable.name
  typeParams : ∀ param ∈ callable.typeParams, UsableName param.name
  distinctTypeParams : (callable.typeParams.map TypeParam.name).Nodup
  distinctParams : (callable.params.map Param.name).Nodup
  /-- Optional and named parameters are not mixed. -/
  unmixed : (∀ param ∈ callable.params, param.group ≠ .optional) ∨
    ∀ param ∈ callable.params, param.group ≠ .named
  /-- No parameter is written `this.` or `super.`. -/
  plain : ∀ param ∈ callable.params, param.isField = false ∧ param.isSuper = false
  body : Body.Legal callable.isExternal callable.isAsync callable.isGenerator callable.body

/-- **The rules accept exactly the legal callables**, whatever kind of node they blame. -/
theorem obeyed_rules_iff {kind : NodeKind} {callable : Callable} :
    Rule.Obeyed (callable.rules kind) ↔ callable.Legal := by
  have hplain : (∀ param ∈ callable.paramList.toList,
      param.isField = false ∧ param.isSuper = false) ↔
        ∀ param ∈ callable.params, param.isField = false ∧ param.isSuper = false :=
    forall_congr' fun param => imp_congr_left (ParamList.mem_toList_ofParams callable.params)
  have hlist : callable.paramList.Hygienic ↔ _ :=
    ParamList.hygienic_ofParams_iff callable.params
  simp only [rules, Rule.obeyed_append, TypeParam.obeyed_rules_iff, ParamList.obeyed_rules_iff,
    ParamList.obeyed_noFormals_iff, Body.obeyed_rules_iff, hplain, hlist]
  constructor
  · rintro ⟨⟨⟨⟨hname, husable, htypes⟩, hnames, hgroups⟩, hformals⟩, hbody⟩
    exact ⟨Subject.obeyed_usableName.mp hname, husable, htypes, hnames, hgroups, hformals, hbody⟩
  · intro h
    exact ⟨⟨⟨⟨Subject.obeyed_usableName.mpr h.name, h.typeParams, h.distinctTypeParams⟩,
      h.distinctParams, h.unmixed⟩, h.plain⟩, h.body⟩

end Callable

/-- Something that is only checked is built exactly when it obeys its rules. -/
theorem Rule.exists_enforce_eq_ok_iff {α : Type} {rules : List Rule} {draft : α} :
    (∃ node, enforce rules draft = .ok node) ↔ Obeyed rules := by
  refine ⟨fun h => ?_, fun h => ⟨draft, enforce_eq_ok_iff.mpr ⟨h, rfl⟩⟩⟩
  obtain ⟨node, hnode⟩ := h
  exact (enforce_eq_ok_iff.mp hnode).1

/-- **A function is built exactly when its callable is legal.** -/
theorem FunctionDecl.exists_build_eq_ok_iff {decl : FunctionDecl} :
    (∃ node, decl.build = .ok node) ↔ decl.callable.Legal :=
  Rule.exists_enforce_eq_ok_iff.trans Callable.obeyed_rules_iff

/-! ### Getters and setters -/

namespace Getter

/-- A function like the getter: it has the name, the keywords and the body of the getter and no
parameters of either kind. What it returns and what stands above it is left open. -/
def asFunction (getter : Getter) (rest : Callable) : FunctionDecl where
  callable :=
    { rest with
      name := getter.name
      typeParams := []
      params := []
      isExternal := getter.isExternal
      isAsync := getter.isAsync
      isGenerator := getter.isGenerator
      body := getter.body }

theorem obeyed_rules_iff {getter : Getter} (rest : Callable) :
    Rule.Obeyed getter.rules ↔ (getter.asFunction rest).callable.Legal := by
  unfold rules
  rw [Rule.obeyed_append, Subject.obeyed_usableName, Body.obeyed_rules_iff]
  constructor
  · rintro ⟨hname, hbody⟩
    -- without parameters there is nothing else to ask
    exact ⟨hname, List.forall_mem_nil _, List.nodup_nil, List.nodup_nil,
      .inl (List.forall_mem_nil _), List.forall_mem_nil _, hbody⟩
  · intro h
    exact ⟨h.name, h.body⟩

end Getter

namespace Setter

/-- A function like the setter, with the parameter of the setter as its only one. -/
def asFunction (setter : Setter) (rest : Callable) : FunctionDecl where
  callable :=
    { rest with
      name := setter.name
      typeParams := []
      params := [setter.param]
      isExternal := setter.isExternal
      isAsync := false
      isGenerator := false
      body := setter.body }

theorem obeyed_rules_iff {setter : Setter} (rest : Callable) :
    Rule.Obeyed setter.rules ↔
      setter.param.group = .required ∧ (setter.asFunction rest).callable.Legal := by
  unfold rules
  rw [Rule.obeyed_append, Rule.obeyed_cons, Subject.obeyed_usableName, Body.obeyed_rules_iff,
    Subject.must_holds, Bool.and_eq_true, beq_iff_eq, Option.isNone_iff_eq_none,
    Param.formal?_eq_none_iff]
  constructor
  · rintro ⟨hname, ⟨hgroup, hplain⟩, hbody⟩
    have hunmixed : setter.param.group ≠ .optional := by
      rw [hgroup]
      decide
    exact ⟨hgroup, hname, List.forall_mem_nil _, List.nodup_nil, List.nodup_singleton _,
      .inl (List.forall_mem_singleton.mpr hunmixed), List.forall_mem_singleton.mpr hplain, hbody⟩
  · rintro ⟨hgroup, h⟩
    exact ⟨h.name, ⟨hgroup, h.plain setter.param (List.mem_singleton_self _)⟩, h.body⟩

end Setter

/-! ### Methods -/

namespace Rule

/-- The rule with what it reports changed. -/
def mapFault (change : Fault → Fault) (rule : Rule) : Rule :=
  { rule with fault := change rule.fault }

theorem firstFault?_map_mapFault (change : Fault → Fault) (rules : List Rule) :
    firstFault? (rules.map (mapFault change)) = (firstFault? rules).map change := by
  unfold firstFault?
  rw [List.find?_map, Option.map_map, Option.map_map]
  rfl

/-- What is built does not depend on what the rules would report. -/
theorem enforce_map_mapFault {α : Type} (change : Fault → Fault) (rules : List Rule) (draft : α) :
    enforce (rules.map (mapFault change)) draft = (enforce rules draft).mapError change := by
  unfold enforce
  rw [firstFault?_map_mapFault]
  cases firstFault? rules with
  | none => rfl
  | some fault => rfl

end Rule

/-- What is said of a method, said of a function. -/
def Fault.asFunction : Fault → Fault
  | .structural .method name violation => .structural .functionDecl name violation
  | fault => fault

/-- Type parameters are to blame themselves. -/
theorem TypeParam.map_asFunction_rulesAfter (seen : List String) (params : List TypeParam) :
    (rulesAfter seen params).map (Rule.mapFault Fault.asFunction) = rulesAfter seen params := by
  induction params generalizing seen with
  | nil => rfl
  | cons param rest ih =>
    rw [rulesAfter, List.map_append, List.map_cons, ih]
    rfl

section Blamed

variable (name : String)

theorem Subject.map_asFunction_distinct (what : String) (seen names : List String) :
    (Subject.distinct ⟨.method, name⟩ what seen names).map (Rule.mapFault Fault.asFunction) =
      Subject.distinct ⟨.functionDecl, name⟩ what seen names := by
  induction names generalizing seen with
  | nil => rfl
  | cons first rest ih =>
    rw [distinct, List.map_cons, ih]
    rfl

theorem ParamList.map_asFunction_rules (list : ParamList) :
    (list.rules ⟨.method, name⟩).map (Rule.mapFault Fault.asFunction) =
      list.rules ⟨.functionDecl, name⟩ := by
  unfold rules
  rw [List.map_cons, Subject.map_asFunction_distinct]
  rfl

theorem ParamList.map_asFunction_noFormals (list : ParamList) (violation : String → Violation) :
    (list.noFormals ⟨.method, name⟩ violation).map (Rule.mapFault Fault.asFunction) =
      list.noFormals ⟨.functionDecl, name⟩ violation := by
  unfold noFormals
  cases list.formal? with
  | none => rfl
  | some formal => rfl

end Blamed

/-- **A callable is held to the same rules as a method and as a function.** -/
theorem Callable.map_asFunction_rules (callable : Callable) :
    (callable.rules .method).map (Rule.mapFault Fault.asFunction) =
      callable.rules .functionDecl := by
  unfold rules
  simp only [List.map_append, ParamList.map_asFunction_rules, ParamList.map_asFunction_noFormals,
    TypeParam.rules, TypeParam.map_asFunction_rulesAfter]
  rfl

namespace Method

/-- The method that changes make which a function could take as well. -/
def drafted (name : String) (changes : List Callable.Edit) : Method :=
  (changes.map Edit.callable).foldl edit { callable := { name } }

/-- Such changes reach the callable alone. -/
theorem foldl_edit_callable (method : Method) (changes : List Callable.Edit) :
    (changes.map Edit.callable).foldl edit method =
      { method with callable := changes.foldl Callable.edit method.callable } := by
  induction changes generalizing method with
  | nil => rfl
  | cons change rest ih =>
    rw [List.map_cons, List.foldl_cons, ih]
    rfl

theorem drafted_eq (name : String) (changes : List Callable.Edit) :
    drafted name changes = { callable := changes.foldl Callable.edit { name } } :=
  foldl_edit_callable _ changes

/-- A method that is neither static nor overrides another has no rules of its own. -/
theorem build_of_callable (callable : Callable) :
    Method.build { callable } = Rule.enforce (callable.rules .method) { callable } := by
  apply Rule.enforce_congr
  unfold rules
  rw [Rule.firstFault?_append]
  cases Rule.firstFault? (callable.rules .method) with
  | none => rfl
  | some fault => rfl

/-- Nor has it any words of its own. -/
theorem fragments_of_callable (callable : Callable) :
    Method.fragments { callable } = FunctionDecl.fragments { callable } := by
  have hsignature : callable.signature [("static", false)] = callable.signature [] := by
    unfold Callable.signature keywords
    cases callable.isExternal <;> rfl
  show callable.info.fragments ++ [] ++ Body.attach (callable.signature [("static", false)]) _ = _
  rw [hsignature, List.append_nil]
  rfl

end Method

namespace FunctionDecl

/-- The function that changes make. -/
def drafted (name : String) (changes : List Callable.Edit) : FunctionDecl :=
  changes.foldl edit { callable := { name } }

theorem foldl_edit_callable (decl : FunctionDecl) (changes : List Callable.Edit) :
    changes.foldl edit decl = { callable := changes.foldl Callable.edit decl.callable } := by
  induction changes generalizing decl with
  | nil => rfl
  | cons change rest ih =>
    rw [List.foldl_cons, ih]
    rfl

theorem drafted_eq (name : String) (changes : List Callable.Edit) :
    drafted name changes = { callable := changes.foldl Callable.edit { name } } :=
  foldl_edit_callable _ changes

end FunctionDecl

/-- A function is built as the method is, with the same text or the fault of the method. -/
theorem Callable.build_asFunction (callable : Callable) :
    (FunctionDecl.build { callable }).map (fun node => Fragment.render node.fragments) =
      ((Method.build { callable }).map fun node =>
        Fragment.render node.fragments).mapError Fault.asFunction := by
  rw [Method.build_of_callable]
  unfold FunctionDecl.build FunctionDecl.rules
  rw [← Callable.map_asFunction_rules, Rule.enforce_map_mapFault]
  unfold Rule.enforce
  cases Rule.firstFault? (callable.rules .method) with
  | some fault => rfl
  | none =>
    show Except.ok (Fragment.render (FunctionDecl.fragments { callable })) =
      Except.ok (Fragment.render (Method.fragments { callable }))
    rw [Method.fragments_of_callable]

/-! ### The main statement -/

/-- **All callables obey one set of rules.** Whatever changes a method and a function can both take,
they are built both or refused both, into the same text or with the same fault but for the kind of
node. A getter is built exactly when the function without parameters is that has its name, keywords
and body; a setter exactly when its parameter is a required one and the function is built that has
its name, parameter, keyword and body. And a function is built exactly when it is legal. -/
theorem Callable.one_set_of_rules :
    (∀ (name : String) (changes : List Callable.Edit),
      (FunctionDecl.drafted name changes).build.map (fun node => Fragment.render node.fragments) =
        ((Method.drafted name changes).build.map fun node =>
          Fragment.render node.fragments).mapError Fault.asFunction) ∧
    (∀ (getter : Getter) (rest : Callable),
      (∃ node, getter.build = .ok node) ↔ ∃ node, (getter.asFunction rest).build = .ok node) ∧
    (∀ (setter : Setter) (rest : Callable),
      (∃ node, setter.build = .ok node) ↔
        setter.param.group = .required ∧ ∃ node, (setter.asFunction rest).build = .ok node) ∧
    ∀ decl : FunctionDecl, (∃ node, decl.build = .ok node) ↔ decl.callable.Legal := by
  refine ⟨?_, ?_, ?_, fun decl => FunctionDecl.exists_build_eq_ok_iff⟩
  · intro name changes
    rw [FunctionDecl.drafted_eq, Method.drafted_eq]
    exact Callable.build_asFunction _
  · intro getter rest
    rw [FunctionDecl.exists_build_eq_ok_iff, ← Getter.obeyed_rules_iff rest]
    exact Rule.exists_enforce_eq_ok_iff
  · intro setter rest
    rw [FunctionDecl.exists_build_eq_ok_iff, ← Setter.obeyed_rules_iff rest]
    exact Rule.exists_enforce_eq_ok_iff

end DartSource
