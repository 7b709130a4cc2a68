import DartSource.Proofs.Signature.Callables
import Mathlib.Data.List.DropRight

/-!
# Legal classes, mixins and extensions

Three builders check overlapping sets of rules about names, type parameters, supertypes and
members. What they accept is said here without any order of checking, as `ClassDecl.Legal`,
`MixinDecl.Legal` and `ExtensionDecl.Legal`, and what they report as the violations that a
declaration commits. A rule that several builders share is read once, in both directions: what it
asks of a draft that obeys it, and what a draft that breaks it has done.

Supertypes are compared by the names that they refer to. A type refers to what stands in front of
its first `<` or `?`, without the blanks around it (`Supertype.referent`). The rules cut a type that
was trimmed before and trim it once more at its end, which comes to the same
(`Supertype.baseType_eq_referent`).

Faults of a declaration are its own or those of its type parameters, which are blamed under their
own names (`Declaration.Blamed`). The main statement is `Declaration.legality_of_types`: building
decides legality, leaves a legal draft as it is, and blames an illegal one for something that it has
committed.
-/

namespace DartSource

/-! ### The name that a type refers to -/

namespace Text

/-- Characters of a class are dropped from the front alike before and after a cut that lies behind
them. -/
theorem dropWhile_takeWhile {p q : Char → Bool} (hpq : ∀ c, p c = true → q c = true)
    (cs : List Char) : (cs.takeWhile q).dropWhile p = (cs.dropWhile p).takeWhile q := by
  induction cs with
  | nil => rfl
  | cons c rest ih =>
    by_cases hp : p c = true
    · rw [List.takeWhile_cons_of_pos (hpq c hp), List.dropWhile_cons_of_pos hp,
        List.dropWhile_cons_of_pos hp, ih]
    · rw [List.dropWhile_cons_of_neg hp]
      by_cases hq : q c = true
      · rw [List.takeWhile_cons_of_pos hq, List.dropWhile_cons_of_neg hp]
      · rw [List.takeWhile_cons_of_neg hq, List.dropWhile_nil]

/-- What is dropped from the end before a cut is dropped after it anyway. The induction is on the
text from its end: what is dropped there either lies behind the cut or is dropped afterwards. -/
theorem dropEndWhile_takeWhile {p q : Char → Bool} (hpq : ∀ c, p c = true → q c = true)
    (cs : List Char) :
    dropEndWhile p ((dropEndWhile p cs).takeWhile q) = dropEndWhile p (cs.takeWhile q) := by
  induction cs using List.reverseRecOn with
  | nil => rfl
  | append_singleton cs c ih =>
    by_cases hp : p c = true
    · have hdrop : dropEndWhile p (cs ++ [c]) = dropEndWhile p cs :=
        List.rdropWhile_concat_pos p cs c hp
      rw [hdrop, ih, List.takeWhile_append]
      split
      · next hall =>
        -- the cut lies behind the whole text
        have hcut : cs.takeWhile q = cs :=
          (List.takeWhile_prefix q).eq_of_length hall
        rw [hcut, List.takeWhile_cons_of_pos (hpq c hp), List.takeWhile_nil, hdrop]
      · rfl
    · have hdrop : dropEndWhile p (cs ++ [c]) = cs ++ [c] :=
        List.rdropWhile_concat_neg p cs c hp
      rw [hdrop]

end Text

namespace Supertype

/-- The name that a type refers to: its text, trimmed and cut at the first `<` or `?`. -/
def referent (type : String) : String :=
  Text.trim (String.ofList (type.toList.takeWhile fun c => c != '<' && c != '?'))

/-- **The base type that the rules compare is the name that a type refers to.** -/
theorem baseType_eq_referent (type : String) : Text.baseType type = referent type := by
  -- neither of the two characters is blank
  have hblank : ∀ c : Char, Text.isBlank c = true → (c != '<' && c != '?') = true := by
    intro c hc
    have hangle : c ≠ '<' := by
      rintro rfl
      exact absurd hc (by decide)
    have hmark : c ≠ '?' := by
      rintro rfl
      exact absurd hc (by decide)
    rw [Bool.and_eq_true, bne_iff_ne, bne_iff_ne]
    exact ⟨hangle, hmark⟩
  unfold Text.baseType referent Text.trim Text.trimChars
  rw [String.toList_ofList, Text.dropEndWhile_takeWhile hblank, Text.dropWhile_takeWhile hblank]

end Supertype

/-! ### Rules that several declarations share -/

namespace Member

theorem mem_constructors_iff {members : List Member} {constructor : Constructor} :
    constructor ∈ members.filterMap constructor? ↔ .constructor constructor ∈ members := by
  rw [List.mem_filterMap]
  refine ⟨?_, fun h => ⟨_, h, rfl⟩⟩
  rintro ⟨member, hmember, hsome⟩
  cases member with
  | constructor member =>
    obtain rfl : member = constructor := Option.some.inj hsome
    exact hmember
  | _ => exact absurd hsome (Option.some_ne_none _).symm

theorem any_isConstructor_iff {members : List Member} :
    members.any isConstructor = true ↔ ∃ constructor, .constructor constructor ∈ members := by
  rw [List.any_eq_true]
  refine ⟨?_, ?_⟩
  · rintro ⟨member, hmember, hsome⟩
    cases member with
    | constructor member => exact ⟨member, hmember⟩
    | _ => exact absurd hsome Bool.false_ne_true
  · rintro ⟨member, hmember⟩
    exact ⟨_, hmember, rfl⟩

/-- The rule against constructors asks that there be none. -/
theorem not_any_isConstructor_iff {members : List Member} :
    (!members.any isConstructor) = true ↔ ∀ constructor, .constructor constructor ∉ members := by
  rw [Bool.not_eq_true', ← Bool.not_eq_true, any_isConstructor_iff, not_exists]

theorem any_isInstanceField_iff {members : List Member} :
    members.any isInstanceField = true ↔
      ∃ field, .property field ∈ members ∧ field.isStatic = false := by
  rw [List.any_eq_true]
  refine ⟨?_, ?_⟩
  · rintro ⟨member, hmember, hfield⟩
    cases member with
    | property field =>
      have hstatic : (!field.isStatic) = true := hfield
      rw [Bool.not_eq_true'] at hstatic
      exact ⟨field, hmember, hstatic⟩
    | _ => exact absurd hfield Bool.false_ne_true
  · rintro ⟨field, hfield, hstatic⟩
    refine ⟨_, hfield, ?_⟩
    show (!field.isStatic) = true
    rw [hstatic, Bool.not_false]

end Member

namespace Supertype

variable {s : Subject} {Committed : Violation → Prop} {owner keyword : String}
  {types mixins interfaces : List String} {members : List Member}

theorem obeyed_notSelf_iff :
    Rule.Obeyed (notSelf s owner keyword types) ↔ ∀ type ∈ types, referent type ≠ owner := by
  unfold notSelf
  simp only [Rule.obeyed_map, Subject.must_holds, bne_iff_ne, baseType_eq_referent]

theorem justified_notSelf
    (h : ∀ type ∈ types, referent type = owner → Committed (.selfReference owner keyword)) :
    Rule.Justified s Committed (notSelf s owner keyword types) := by
  refine Rule.justified_map fun type htype hbroken => h type htype ?_
  rwa [bne_eq_false_iff_eq, baseType_eq_referent] at hbroken

theorem contains_baseType_iff {name : String} :
    (interfaces.map Text.baseType).contains name = true ↔
      ∃ interface ∈ interfaces, referent interface = name := by
  rw [List.contains_iff_mem, List.mem_map]
  simp only [baseType_eq_referent]

theorem obeyed_disjoint_iff :
    Rule.Obeyed (disjoint s mixins interfaces) ↔
      ∀ mixin ∈ mixins, ∀ interface ∈ interfaces, referent mixin ≠ referent interface := by
  unfold disjoint
  rw [Rule.obeyed_map]
  refine forall₂_congr fun mixin _ => ?_
  rw [Subject.must_holds, Bool.not_eq_true', ← Bool.not_eq_true, contains_baseType_iff,
    baseType_eq_referent]
  refine ⟨fun hnone interface hinterface hsame => hnone ⟨interface, hinterface, hsame.symm⟩, ?_⟩
  rintro hall ⟨interface, hinterface, hsame⟩
  exact hall interface hinterface hsame.symm

theorem justified_disjoint
    (h : ∀ mixin ∈ mixins, ∀ interface ∈ interfaces, referent mixin = referent interface →
      Committed (.mixinAndInterface (referent mixin))) :
    Rule.Justified s Committed (disjoint s mixins interfaces) := by
  refine Rule.justified_map fun mixin hmixin hbroken => ?_
  rw [Bool.not_eq_false', contains_baseType_iff] at hbroken
  obtain ⟨interface, hinterface, hsame⟩ := hbroken
  rw [baseType_eq_referent] at hsame ⊢
  exact h mixin hmixin interface hinterface hsame.symm

theorem obeyed_ownConstructors_iff :
    Rule.Obeyed (ownConstructors s owner members) ↔
      ∀ constructor, .constructor constructor ∈ members → constructor.className = owner := by
  unfold ownConstructors
  simp only [Rule.obeyed_map, Subject.must_holds, beq_iff_eq, Member.mem_constructors_iff]

theorem justified_ownConstructors
    (h : ∀ constructor, .constructor constructor ∈ members → constructor.className ≠ owner →
      Committed (.foreignConstructor owner constructor.className)) :
    Rule.Justified s Committed (ownConstructors s owner members) := by
  refine Rule.justified_map fun constructor hconstructor hbroken => ?_
  rw [beq_eq_false_iff_ne] at hbroken
  exact h constructor (Member.mem_constructors_iff.mp hconstructor) hbroken

end Supertype

/-! ### Type parameters, and who is to blame -/

namespace TypeParam

/-- What one of the type parameters does wrong. -/
inductive Commits (params : List TypeParam) (param : TypeParam) : Violation → Prop where
  | invalidName (h : Text.isIdentifier param.name = false) :
      Commits params param (.invalidIdentifier param.name)
  | reservedName (h : Text.isReserved param.name = true) :
      Commits params param (.reservedWord param.name)
  | repeatedName (h : 2 ≤ (params.map TypeParam.name).count param.name) :
      Commits params param (.duplicate "type parameter" param.name)

/-- Each rule blames the type parameter that it is about. The induction is on the parameters that
are still to be read; those in front of them were seen before. -/
theorem accounted_rulesAfter {Committed : Fault → Prop} {front params : List TypeParam}
    (h : ∀ param ∈ params, ∀ violation, param.Commits (front ++ params) violation →
      Committed (param.subject.fault violation)) :
    Rule.Accounted Committed (rulesAfter (front.map TypeParam.name) params) := by
  induction params generalizing front with
  | nil => exact Rule.accounted_nil
  | cons param rest ih =>
    have hparam := h param List.mem_cons_self
    have hname : Rule.Justified param.subject (param.Commits (front ++ param :: rest))
        (param.subject.usableName param.name) :=
      Rule.justified_usableName .invalidName .reservedName
    have hnew : Rule.Justified param.subject (param.Commits (front ++ param :: rest))
        [param.subject.must (!(front.map TypeParam.name).contains param.name)
          (.duplicate "type parameter" param.name)] := by
      refine Rule.justified_must (fun hbroken => .repeatedName ?_) Rule.justified_nil
      -- it stands among those seen before, and where it is read
      rw [Bool.not_eq_false', List.contains_iff_mem] at hbroken
      have hseen := List.count_pos_iff.mpr hbroken
      rw [List.map_append, List.map_cons, List.count_append, List.count_cons_self]
      omega
    have hrest : Rule.Accounted Committed
        (rulesAfter (front.map TypeParam.name ++ [param.name]) rest) := by
      rw [← List.map_singleton, ← List.map_append]
      refine ih fun later hlater violation hcommits => ?_
      rw [List.append_assoc] at hcommits
      exact h later (List.mem_cons_of_mem param hlater) violation hcommits
    rw [rulesAfter, Rule.accounted_append, ← List.singleton_append, Rule.accounted_append]
    exact ⟨hname.accounted hparam, hnew.accounted hparam, hrest⟩

/-- Type parameters with usable and distinct names do nothing wrong. -/
theorem not_commits {params : List TypeParam} (husable : ∀ param ∈ params, UsableName param.name)
    (hdistinct : (params.map TypeParam.name).Nodup) {param : TypeParam} (hparam : param ∈ params)
    (violation : Violation) : ¬param.Commits params violation := by
  intro hcommits
  cases hcommits with
  | invalidName h => exact absurd (husable param hparam).1 (Bool.eq_false_iff.mp h)
  | reservedName h => exact absurd h (Bool.eq_false_iff.mp (husable param hparam).2)
  | repeatedName h =>
    exact absurd (List.nodup_iff_count_le_one.mp hdistinct param.name) (Nat.not_le.mpr h)

end TypeParam

namespace Declaration

/-- The faults of a declaration that has type parameters. -/
inductive Blamed (kind : NodeKind) (name : String) (params : List TypeParam)
    (Commits : Violation → Prop) : Fault → Prop where
  /-- The declaration itself is to blame … -/
  | own {violation : Violation} (h : Commits violation) :
      Blamed kind name params Commits (.structural kind name violation)
  /-- … or one of its type parameters. -/
  | typeParam {param : TypeParam} {violation : Violation} (hparam : param ∈ params)
      (h : param.Commits params violation) :
      Blamed kind name params Commits (.structural .typeParameter param.name violation)

variable {kind : NodeKind} {name : String} {params : List TypeParam} {Commits : Violation → Prop}

theorem accounted_own {rules : List Rule} (h : Rule.Justified ⟨kind, name⟩ Commits rules) :
    Rule.Accounted (Blamed kind name params Commits) rules :=
  h.accounted fun _ hcommits => .own hcommits

theorem accounted_typeParams :
    Rule.Accounted (Blamed kind name params Commits) (TypeParam.rules params) := by
  have hrules : Rule.Accounted (Blamed kind name params Commits)
      (TypeParam.rulesAfter (List.map TypeParam.name []) params) :=
    TypeParam.accounted_rulesAfter fun param hparam violation hcommits => .typeParam hparam hcommits
  exact hrules

/-- Where neither the declaration nor a type parameter does anything wrong, nobody is blamed. -/
theorem not_blamed (hown : ∀ violation, ¬Commits violation)
    (husable : ∀ param ∈ params, UsableName param.name)
    (hdistinct : (params.map TypeParam.name).Nodup) (fault : Fault) :
    ¬Blamed kind name params Commits fault := by
  intro hblamed
  cases hblamed with
  | own h => exact hown _ h
  | typeParam hparam h => exact TypeParam.not_commits husable hdistinct hparam _ h

end Declaration

namespace Rule

/-- What building makes of a draft, given what it takes to be legal and what can be wrong. -/
structure Decides {α : Type} (draft : α) (result : Except Fault α) (Legal : Prop)
    (Committed : Fault → Prop) : Prop where
  /-- Exactly the legal drafts are built, … -/
  built : (∃ node, result = .ok node) ↔ Legal
  /-- … and as they stand. -/
  given : ∀ node, result = .ok node → node = draft
  /-- What is reported of another was really committed, … -/
  refused : ∀ fault, result = .error fault → Committed fault
  /-- … and of a legal draft there is nothing to report. -/
  innocent : Legal ↔ ∀ fault, ¬Committed fault

theorem decides_enforce {α : Type} {rules : List Rule} {Legal : Prop} {Committed : Fault → Prop}
    (hlegal : Obeyed rules ↔ Legal) (hrules : Accounted Committed rules)
    (hnone : Legal → ∀ fault, ¬Committed fault) (draft : α) :
    Decides draft (enforce rules draft) Legal Committed := by
  have hbuilt : (∃ node, enforce rules draft = .ok node) ↔ Legal :=
    exists_enforce_eq_ok_iff.trans hlegal
  refine ⟨hbuilt, fun node h => (enforce_eq_ok_iff.mp h).2.symm, fun fault h => hrules.of_enforce h,
    hnone, fun hinnocent => ?_⟩
  -- a draft that was refused would have committed what is reported
  cases hresult : enforce rules draft with
  | ok node => exact hbuilt.mp ⟨node, hresult⟩
  | error fault => exact absurd (hrules.of_enforce hresult) (hinnocent fault)

end Rule

/-! ### Classes -/

namespace ClassDecl

/-- The clauses in which a class names other types, with their keywords. -/
def clauses (decl : ClassDecl) : List (String × List String) :=
  [("extends", decl.superclass.toList), ("with", decl.mixins), ("implements", decl.interfaces)]

/-- What a class has to be. -/
structure Legal (decl : ClassDecl) : Prop where
  name : UsableName decl.name
  typeParams : ∀ param ∈ decl.typeParams, UsableName param.name
  distinctTypeParams : (decl.typeParams.map TypeParam.name).Nodup
  sealed : decl.modifier = some .sealed → decl.isAbstract = false
  mixinClass : decl.isMixin = true →
    (decl.modifier = none ∨ decl.modifier = some .base) ∧ decl.superclass = none
  superclass : ∀ type, decl.superclass = some type → Text.allBlank type = false
  /-- No clause names the class itself. -/
  notSelf : ∀ clause ∈ decl.clauses, ∀ type ∈ clause.2, Supertype.referent type ≠ decl.name
  /-- Nothing is both mixed in and implemented. -/
  disjoint : ∀ mixin ∈ decl.mixins, ∀ interface ∈ decl.interfaces,
    Supertype.referent mixin ≠ Supertype.referent interface
  constructors : ∀ constructor, .constructor constructor ∈ decl.members →
    constructor.className = decl.name

/-- What a class does wrong, in the words in which it is reported. -/
inductive Commits (decl : ClassDecl) : Violation → Prop where
  | invalidName (h : Text.isIdentifier decl.name = false) :
      Commits decl (.invalidIdentifier decl.name)
  | reservedName (h : Text.isReserved decl.name = true) : Commits decl (.reservedWord decl.name)
  | sealedAbstract (hsealed : decl.modifier = some .sealed) (h : decl.isAbstract = true) :
      Commits decl (.conflict "sealed" "abstract")
  | mixinModifier {modifier : ClassModifier} (hmixin : decl.isMixin = true)
      (hmodifier : decl.modifier = some modifier) (h : modifier ≠ .base) :
      Commits decl (.conflict "mixin" modifier.text)
  | mixinExtends (hmixin : decl.isMixin = true) (h : decl.superclass ≠ none) :
      Commits decl (.conflict "mixin" "extends")
  | blankSuperclass {type : String} (htype : decl.superclass = some type)
      (h : Text.allBlank type = true) : Commits decl (.missingType "extends")
  | selfReference {clause : String × List String} {type : String} (hclause : clause ∈ decl.clauses)
      (htype : type ∈ clause.2) (h : Supertype.referent type = decl.name) :
      Commits decl (.selfReference decl.name clause.1)
  | mixinAndInterface {mixin interface : String} (hmixin : mixin ∈ decl.mixins)
      (hinterface : interface ∈ decl.interfaces)
      (h : Supertype.referent mixin = Supertype.referent interface) :
      Commits decl (.mixinAndInterface (Supertype.referent mixin))
  | foreignConstructor {constructor : Constructor}
      (hmember : .constructor constructor ∈ decl.members)
      (h : constructor.className ≠ decl.name) :
      Commits decl (.foreignConstructor decl.name constructor.className)

variable {decl : ClassDecl} {s : Subject}

theorem obeyed_mixinRules_iff :
    Rule.Obeyed (decl.mixinRules s) ↔
      (decl.isMixin = true →
        (decl.modifier = none ∨ decl.modifier = some .base) ∧ decl.superclass = none) := by
  unfold mixinRules
  cases decl.isMixin with
  | false => simp
  | true =>
    rw [if_pos rfl, Rule.obeyed_append, Rule.obeyed_cons, Subject.exclusive_holds]
    cases decl.modifier with
    | none => simp
    | some modifier => simp

theorem justified_mixinRules : Rule.Justified s decl.Commits (decl.mixinRules s) := by
  unfold mixinRules
  by_cases hmixin : decl.isMixin = true
  · rw [if_pos hmixin, Rule.justified_append]
    refine ⟨?_, Rule.justified_must (fun h => ?_) Rule.justified_nil⟩
    · cases hmodifier : decl.modifier with
      | none => exact Rule.justified_nil
      | some modifier =>
        refine Rule.justified_must (fun h => ?_) Rule.justified_nil
        exact .mixinModifier hmixin hmodifier (beq_eq_false_iff_ne.mp h)
    · rw [Bool.not_eq_false', Bool.true_and, Option.isSome_iff_ne_none] at h
      exact .mixinExtends hmixin h
  · rw [if_neg hmixin]
    exact Rule.justified_nil

/-- **The rules accept exactly the legal classes.** -/
theorem obeyed_rules_iff : Rule.Obeyed decl.rules ↔ decl.Legal := by
  have hsealed : (!(decl.modifier == some .sealed && decl.isAbstract)) = true ↔
      (decl.modifier = some .sealed → decl.isAbstract = false) := by
    rw [Bool.not_eq_true', Bool.and_eq_false_imp, beq_iff_eq]
  have hblank : (∀ type ∈ decl.superclass.toList, (!Text.allBlank type) = true) ↔
      ∀ type, decl.superclass = some type → Text.allBlank type = false := by
    simp only [Option.mem_toList, Bool.not_eq_true']
  have hself : (∀ clause ∈ decl.clauses, ∀ type ∈ clause.2,
      Supertype.referent type ≠ decl.name) ↔ _ := List.forall_mem_cons
  rw [List.forall_mem_cons, List.forall_mem_singleton] at hself
  simp only [rules, List.append_assoc, Rule.obeyed_append, Rule.obeyed_cons, Rule.obeyed_nil,
    and_true, Rule.obeyed_map, Subject.exclusive_holds, Subject.must_holds,
    Subject.obeyed_usableName, TypeParam.obeyed_rules_iff, obeyed_mixinRules_iff,
    Supertype.obeyed_notSelf_iff, Supertype.obeyed_disjoint_iff,
    Supertype.obeyed_ownConstructors_iff, hsealed, hblank]
  refine ⟨?_, fun h => ?_⟩
  · rintro ⟨hname, ⟨husable, hdistinct⟩, hexclusive, hmixin, hsuperclass, hextends, hwith,
      himplements, hdisjoint, hconstructors⟩
    exact ⟨hname, husable, hdistinct, hexclusive, hmixin, hsuperclass,
      hself.mpr ⟨hextends, hwith, himplements⟩, hdisjoint, hconstructors⟩
  · obtain ⟨hextends, hwith, himplements⟩ := hself.mp h.notSelf
    exact ⟨h.name, ⟨h.typeParams, h.distinctTypeParams⟩, h.sealed, h.mixinClass, h.superclass,
      hextends, hwith, himplements, h.disjoint, h.constructors⟩

/-- **Whatever is reported of a class was committed**, by it or by a type parameter of it. -/
theorem accounted_rules :
    Rule.Accounted (Declaration.Blamed .classDecl decl.name decl.typeParams decl.Commits)
      decl.rules := by
  have hself : ∀ clause ∈ decl.clauses, Rule.Justified ⟨.classDecl, decl.name⟩ decl.Commits
      (Supertype.notSelf ⟨.classDecl, decl.name⟩ decl.name clause.1 clause.2) :=
    fun clause hclause => Supertype.justified_notSelf fun type htype h =>
      .selfReference hclause htype h
  obtain ⟨hextends, hwith, himplements⟩ :
      Rule.Justified _ _ _ ∧ Rule.Justified _ _ _ ∧ Rule.Justified _ _ _ := by
    rw [clauses, List.forall_mem_cons, List.forall_mem_cons, List.forall_mem_singleton] at hself
    exact hself
  simp only [rules, List.append_assoc, Rule.accounted_append]
  refine ⟨?_, Declaration.accounted_typeParams, ?_,
    Declaration.accounted_own justified_mixinRules, ?_, Declaration.accounted_own hextends,
    Declaration.accounted_own hwith, Declaration.accounted_own himplements, ?_, ?_⟩
  · exact Declaration.accounted_own (Rule.justified_usableName .invalidName .reservedName)
  · refine Declaration.accounted_own (Rule.justified_must (fun h => ?_) Rule.justified_nil)
    rw [Bool.not_eq_false', Bool.and_eq_true, beq_iff_eq] at h
    exact .sealedAbstract h.1 h.2
  · refine Declaration.accounted_own (Rule.justified_map fun type htype h => ?_)
    rw [Bool.not_eq_false'] at h
    exact .blankSuperclass (Option.mem_toList.mp htype) h
  · exact Declaration.accounted_own (Supertype.justified_disjoint
      fun mixin hmixin interface hinterface h => .mixinAndInterface hmixin hinterface h)
  · exact Declaration.accounted_own (Supertype.justified_ownConstructors
      fun constructor hmember h => .foreignConstructor hmember h)

/-- A legal class commits nothing. -/
theorem Legal.not_commits (h : decl.Legal) (violation : Violation) : ¬decl.Commits violation := by
  intro hcommits
  cases hcommits with
  | invalidName hname => exact absurd h.name.1 (Bool.eq_false_iff.mp hname)
  | reservedName hname => exact absurd hname (Bool.eq_false_iff.mp h.name.2)
  | sealedAbstract hsealed habstract =>
    exact absurd habstract (Bool.eq_false_iff.mp (h.sealed hsealed))
  | mixinModifier hmixin hmodifier hbase =>
    rcases (h.mixinClass hmixin).1 with hnone | hsome
    · exact absurd (hmodifier.symm.trans hnone) (Option.some_ne_none _)
    · exact hbase (Option.some.inj (hmodifier.symm.trans hsome))
  | mixinExtends hmixin hextends => exact hextends (h.mixinClass hmixin).2
  | blankSuperclass htype hblank =>
    exact absurd hblank (Bool.eq_false_iff.mp (h.superclass _ htype))
  | selfReference hclause htype hsame => exact h.notSelf _ hclause _ htype hsame
  | mixinAndInterface hmixin hinterface hsame => exact h.disjoint _ hmixin _ hinterface hsame
  | foreignConstructor hmember hforeign => exact hforeign (h.constructors _ hmember)

end ClassDecl

/-! ### Mixins -/

namespace MixinDecl

/-- The clauses in which a mixin names other types, with their keywords. -/
def clauses (decl : MixinDecl) : List (String × List String) :=
  [("on", decl.constraints), ("implements", decl.interfaces)]

/-- What a mixin has to be. -/
structure Legal (decl : MixinDecl) : Prop where
  name : UsableName decl.name
  typeParams : ∀ param ∈ decl.typeParams, UsableName param.name
  distinctTypeParams : (decl.typeParams.map TypeParam.name).Nodup
  modifier : decl.modifier = none ∨ decl.modifier = some .base
  constructors : ∀ constructor, .constructor constructor ∉ decl.members
  /-- No clause names the mixin itself. -/
  notSelf : ∀ clause ∈ decl.clauses, ∀ type ∈ clause.2, Supertype.referent type ≠ decl.name

/-- What a mixin does wrong, in the words in which it is reported. -/
inductive Commits (decl : MixinDecl) : Violation → Prop where
  | invalidName (h : Text.isIdentifier decl.name = false) :
      Commits decl (.invalidIdentifier decl.name)
  | reservedName (h : Text.isReserved decl.name = true) : Commits decl (.reservedWord decl.name)
  | modifier {modifier : ClassModifier} (hmodifier : decl.modifier = some modifier)
      (h : modifier ≠ .base) : Commits decl (.illegalModifier modifier.text "a mixin")
  | constructor {constructor : Constructor} (h : .constructor constructor ∈ decl.members) :
      Commits decl (.illegalMember "a mixin" "constructors")
  | selfReference {clause : String × List String} {type : String} (hclause : clause ∈ decl.clauses)
      (htype : type ∈ clause.2) (h : Supertype.referent type = decl.name) :
      Commits decl (.selfReference decl.name clause.1)

variable {decl : MixinDecl} {s : Subject}

theorem obeyed_modifierRules_iff :
    Rule.Obeyed (decl.modifierRules s) ↔ decl.modifier = none ∨ decl.modifier = some .base := by
  unfold modifierRules
  cases decl.modifier with
  | none => simp
  | some modifier => simp

/-- **The rules accept exactly the legal mixins.** -/
theorem obeyed_rules_iff : Rule.Obeyed decl.rules ↔ decl.Legal := by
  have hself : (∀ clause ∈ decl.clauses, ∀ type ∈ clause.2,
      Supertype.referent type ≠ decl.name) ↔ _ := List.forall_mem_cons
  rw [List.forall_mem_singleton] at hself
  simp only [rules, List.append_assoc, Rule.obeyed_append, Rule.obeyed_cons, Rule.obeyed_nil,
    and_true, Subject.must_holds, Subject.obeyed_usableName, TypeParam.obeyed_rules_iff,
    obeyed_modifierRules_iff, Supertype.obeyed_notSelf_iff, Member.not_any_isConstructor_iff]
  refine ⟨?_, fun h => ?_⟩
  · rintro ⟨hname, ⟨husable, hdistinct⟩, hmodifier, hconstructors, hon, himplements⟩
    exact ⟨hname, husable, hdistinct, hmodifier, hconstructors, hself.mpr ⟨hon, himplements⟩⟩
  · obtain ⟨hon, himplements⟩ := hself.mp h.notSelf
    exact ⟨h.name, ⟨h.typeParams, h.distinctTypeParams⟩, h.modifier, h.constructors, hon,
      himplements⟩

/-- **Whatever is reported of a mixin was committed**, by it or by a type parameter of it. -/
theorem accounted_rules :
    Rule.Accounted (Declaration.Blamed .mixinDecl decl.name decl.typeParams decl.Commits)
      decl.rules := by
  have hself : ∀ clause ∈ decl.clauses, Rule.Justified ⟨.mixinDecl, decl.name⟩ decl.Commits
      (Supertype.notSelf ⟨.mixinDecl, decl.name⟩ decl.name clause.1 clause.2) :=
    fun clause hclause => Supertype.justified_notSelf fun type htype h =>
      .selfReference hclause htype h
  obtain ⟨hon, himplements⟩ : Rule.Justified _ _ _ ∧ Rule.Justified _ _ _ := by
    rw [clauses, List.forall_mem_cons, List.forall_mem_singleton] at hself
    exact hself
  simp only [rules, List.append_assoc, Rule.accounted_append]
  refine ⟨?_, Declaration.accounted_typeParams, ?_, ?_, Declaration.accounted_own hon,
    Declaration.accounted_own himplements⟩
  · exact Declaration.accounted_own (Rule.justified_usableName .invalidName .reservedName)
  · refine Declaration.accounted_own ?_
    unfold modifierRules
    cases hmodifier : decl.modifier with
    | none => exact Rule.justified_nil
    | some modifier =>
      refine Rule.justified_must (fun h => ?_) Rule.justified_nil
      exact .modifier hmodifier (beq_eq_false_iff_ne.mp h)
  · refine Declaration.accounted_own (Rule.justified_must (fun h => ?_) Rule.justified_nil)
    rw [Bool.not_eq_false', Member.any_isConstructor_iff] at h
    obtain ⟨constructor, hmember⟩ := h
    exact .constructor hmember

/-- A legal mixin commits nothing. -/
theorem Legal.not_commits (h : decl.Legal) (violation : Violation) : ¬decl.Commits violation := by
  intro hcommits
  cases hcommits with
  | invalidName hname => exact absurd h.name.1 (Bool.eq_false_iff.mp hname)
  | reservedName hname => exact absurd hname (Bool.eq_false_iff.mp h.name.2)
  | modifier hmodifier hbase =>
    rcases h.modifier with hnone | hsome
    · exact absurd (hmodifier.symm.trans hnone) (Option.some_ne_none _)
    · exact hbase (Option.some.inj (hmodifier.symm.trans hsome))
  | constructor hmember => exact h.constructors _ hmember
  | selfReference hclause htype hsame => exact h.notSelf _ hclause _ htype hsame

end MixinDecl

/-! ### Extensions -/

namespace ExtensionDecl

/-- What an extension has to be. -/
structure Legal (decl : ExtensionDecl) : Prop where
  name : ∀ name, decl.name = some name → UsableName name
  target : Text.allBlank decl.target = false
  typeParams : ∀ param ∈ decl.typeParams, UsableName param.name
  distinctTypeParams : (decl.typeParams.map TypeParam.name).Nodup
  constructors : ∀ constructor, .constructor constructor ∉ decl.members
  fields : ∀ field, .property field ∈ decl.members → field.isStatic = true

/-- What an extension does wrong, in the words in which it is reported. -/
inductive Commits (decl : ExtensionDecl) : Violation → Prop where
  | invalidName {name : String} (hname : decl.name = some name)
      (h : Text.isIdentifier name = false) : Commits decl (.invalidIdentifier name)
  | reservedName {name : String} (hname : decl.name = some name)
      (h : Text.isReserved name = true) : Commits decl (.reservedWord name)
  | blankTarget (h : Text.allBlank decl.target = true) : Commits decl (.missingType "on")
  | constructor {constructor : Constructor} (h : .constructor constructor ∈ decl.members) :
      Commits decl (.illegalMember "an extension" "constructors")
  | instanceField {field : Property} (hfield : .property field ∈ decl.members)
      (h : field.isStatic = false) :
      Commits decl (.illegalMember "an extension" "instance fields")

variable {decl : ExtensionDecl}

/-- **The rules accept exactly the legal extensions.** -/
theorem obeyed_rules_iff : Rule.Obeyed decl.rules ↔ decl.Legal := by
  have hname : (∀ name ∈ decl.name, Text.isIdentifier name = true ∧ Text.isReserved name = false) ↔
      ∀ name, decl.name = some name → UsableName name := Iff.rfl
  have htarget : (!Text.allBlank decl.target) = true ↔ Text.allBlank decl.target = false := by
    rw [Bool.not_eq_true']
  have hstatic : (!decl.members.any Member.isInstanceField) = true ↔
      ∀ field, .property field ∈ decl.members → field.isStatic = true := by
    rw [Bool.not_eq_true', ← Bool.not_eq_true, Member.any_isInstanceField_iff]
    simp only [not_exists, not_and, Bool.not_eq_false]
  simp only [rules, List.append_assoc, Rule.obeyed_append, Rule.obeyed_cons, Rule.obeyed_nil,
    and_true, Subject.must_holds, Subject.obeyed_usableName?, Subject.obeyed_usableName,
    TypeParam.obeyed_rules_iff, Member.not_any_isConstructor_iff, hname, htarget, hstatic]
  refine ⟨?_, fun h => ?_⟩
  · rintro ⟨hname, htarget, ⟨husable, hdistinct⟩, hconstructors, hfields⟩
    exact ⟨hname, htarget, husable, hdistinct, hconstructors, hfields⟩
  · exact ⟨h.name, h.target, ⟨h.typeParams, h.distinctTypeParams⟩, h.constructors, h.fields⟩

/-- **Whatever is reported of an extension was committed**, by it or by a type parameter of it. -/
theorem accounted_rules :
    Rule.Accounted (Declaration.Blamed .extensionDecl decl.label decl.typeParams decl.Commits)
      decl.rules := by
  simp only [rules, List.append_assoc, Rule.accounted_append]
  refine ⟨Declaration.accounted_own ?_, Declaration.accounted_own ?_,
    Declaration.accounted_typeParams, Declaration.accounted_own ?_⟩
  · cases hname : decl.name with
    | none => exact Rule.justified_nil
    | some name => exact Rule.justified_usableName (.invalidName hname) (.reservedName hname)
  · refine Rule.justified_must (fun h => ?_) Rule.justified_nil
    rw [Bool.not_eq_false'] at h
    exact .blankTarget h
  · refine Rule.justified_must (fun h => ?_) (Rule.justified_must (fun h => ?_) Rule.justified_nil)
    · rw [Bool.not_eq_false', Member.any_isConstructor_iff] at h
      obtain ⟨constructor, hmember⟩ := h
      exact .constructor hmember
    · rw [Bool.not_eq_false', Member.any_isInstanceField_iff] at h
      obtain ⟨field, hfield, hstatic⟩ := h
      exact .instanceField hfield hstatic

/-- A legal extension commits nothing. -/
theorem Legal.not_commits (h : decl.Legal) (violation : Violation) : ¬decl.Commits violation := by
  intro hcommits
  cases hcommits with
  | invalidName hname hinvalid => exact absurd (h.name _ hname).1 (Bool.eq_false_iff.mp hinvalid)
  | reservedName hname hreserved =>
    exact absurd hreserved (Bool.eq_false_iff.mp (h.name _ hname).2)
  | blankTarget hblank => exact absurd hblank (Bool.eq_false_iff.mp h.target)
  | constructor hmember => exact h.constructors _ hmember
  | instanceField hfield hstatic => exact absurd (h.fields _ hfield) (Bool.eq_false_iff.mp hstatic)

end ExtensionDecl

/-! ### The main statement -/

/-- **Building decides the legality of classes, mixins and extensions.** The legal ones are built as
they were drafted. What is reported of the others was committed, by the declaration itself or by one
of its type parameters; an extension without a name is reported under its target. -/
theorem Declaration.legality_of_types :
    (∀ decl : ClassDecl, Rule.Decides decl decl.build decl.Legal
      (Blamed .classDecl decl.name decl.typeParams decl.Commits)) ∧
    (∀ decl : MixinDecl, Rule.Decides decl decl.build decl.Legal
      (Blamed .mixinDecl decl.name decl.typeParams decl.Commits)) ∧
    ∀ decl : ExtensionDecl, Rule.Decides decl decl.build decl.Legal
      (Blamed .extensionDecl decl.label decl.typeParams decl.Commits) := by
  refine ⟨fun decl => ?_, fun decl => ?_, fun decl => ?_⟩
  · refine Rule.decides_enforce ClassDecl.obeyed_rules_iff ClassDecl.accounted_rules ?_ decl
    exact fun h => not_blamed h.not_commits h.typeParams h.distinctTypeParams
  · refine Rule.decides_enforce MixinDecl.obeyed_rules_iff MixinDecl.accounted_rules ?_ decl
    exact fun h => not_blamed h.not_commits h.typeParams h.distinctTypeParams
  · refine Rule.decides_enforce ExtensionDecl.obeyed_rules_iff ExtensionDecl.accounted_rules ?_ decl
    exact fun h => not_blamed h.not_commits h.typeParams h.distinctTypeParams

/-- A class that implements itself, with a blank in front of the type arguments. -/
def ClassDecl.ownInterface : ClassDecl where
  name := "A"
  interfaces := ["B<A>", " A <int>?"]

/-- A mixin with a type parameter given twice, and a modifier that a mixin cannot have. -/
def MixinDecl.sealedPair : MixinDecl where
  name := "M"
  modifier := some .sealed
  typeParams := [{ name := "T" }, { name := "K", bound := some "T" }, { name := "T" }]

/-- An extension without a name, with a field that belongs to no instance. -/
def ExtensionDecl.nameless : ExtensionDecl where
  target := "int"
  members := [.property { name := "zero", isStatic := true, isFinal := true }]

/-- The class is to blame itself; of the mixin a type parameter is, which comes before the modifier;
the extension is legal. -/
theorem Declaration.legality_of_types_ownInterface :
    ClassDecl.ownInterface.build =
        .error (.structural .classDecl "A" (.selfReference "A" "implements")) ∧
      ¬ClassDecl.ownInterface.Legal ∧
      MixinDecl.sealedPair.build =
        .error (.structural .typeParameter "T" (.duplicate "type parameter" "T")) ∧
      ¬MixinDecl.sealedPair.Legal ∧ ExtensionDecl.nameless.Legal := by
  have hclass : ClassDecl.ownInterface.build =
      .error (.structural .classDecl "A" (.selfReference "A" "implements")) := by decide +kernel
  have hmixin : MixinDecl.sealedPair.build =
      .error (.structural .typeParameter "T" (.duplicate "type parameter" "T")) := by
    decide +kernel
  have hextension : ExtensionDecl.nameless.build = .ok ExtensionDecl.nameless := by decide +kernel
  obtain ⟨hclasses, hmixins, hextensions⟩ := Declaration.legality_of_types
  refine ⟨hclass, fun hlegal => ?_, hmixin, fun hlegal => ?_,
    (hextensions _).built.mp ⟨_, hextension⟩⟩
  · exact (hclasses _).innocent.mp hlegal _ ((hclasses _).refused _ hclass)
  · exact (hmixins _).innocent.mp hlegal _ ((hmixins _).refused _ hmixin)

end DartSource
