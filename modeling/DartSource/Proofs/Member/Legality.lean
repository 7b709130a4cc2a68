import DartSource.Proofs.Signature.Callables

/-!
# Legal constructors

A constructor is refused for a dozen reasons, which are checked one after the other, so that one
reason can hide another. What the checks come to is said here without any order: a constructor is
**legal** when its names are usable, its parameters distinct and not mixed, and its keywords,
initializers and body fit each other (`Constructor.Legal`). The rules accept exactly the legal
constructors (`Constructor.obeyed_rules_iff`), group of rules by group of rules.

The other side are the **violations** that a constructor commits (`Constructor.Commits`), again
without an order. Every rule that is broken reports one of them (`Constructor.justified_rules`), and
a legal constructor commits none (`Constructor.Legal.not_commits`). So building refuses a
constructor exactly when it commits some violation, and reports one that it commits.
-/

namespace DartSource

namespace Initializer

/-- An assertion. -/
def isAssert : Initializer → Bool
  | .assert _ _ => true
  | _ => false

/-- An assignment to a field. -/
def isField : Initializer → Bool
  | .field _ _ => true
  | _ => false

/-- A call of another constructor, of the superclass or of the same class. -/
def isCall (entry : Initializer) : Bool :=
  entry.isSuper || entry.isRedirect

/-- The initializers in written order, kind by kind. -/
theorem arrange_eq_filter (entries : List Initializer) :
    arrange entries =
      entries.filter isAssert ++ entries.filter isField ++ entries.filter isSuper ++
        entries.filter isRedirect := by
  have hrank : ∀ entry : Initializer, (entry.rank == 0) = entry.isAssert ∧
      (entry.rank == 1) = entry.isField ∧ (entry.rank == 2) = entry.isSuper ∧
      (entry.rank == 3) = entry.isRedirect := by
    intro entry
    cases entry <;> exact ⟨rfl, rfl, rfl, rfl⟩
  unfold arrange
  rw [byRank_succ, byRank_succ, byRank_succ, byRank_succ, byRank_zero, List.nil_append]
  simp only [hrank]

end Initializer

namespace Constructor

/-! ### Two readings of the rules -/

/-- The names that a constructor uses besides those of its parameters. -/
inductive Uses (constructor : Constructor) : String → Prop where
  | className : Uses constructor constructor.className
  | name {name : String} (h : constructor.name = some name) : Uses constructor name
  | field {name value : String} (h : .field name value ∈ constructor.initializers) :
      Uses constructor name
  | superCall {name : String} {arguments : Arguments}
      (h : .superCall (some name) arguments ∈ constructor.initializers) : Uses constructor name
  | redirect {name : String} {arguments : Arguments}
      (h : .redirect (some name) arguments ∈ constructor.initializers) : Uses constructor name

/-- No parameter is written `this.` or `super.`. -/
def Plain (constructor : Constructor) : Prop :=
  ∀ param ∈ constructor.params, param.isField = false ∧ param.isSuper = false

/-- What a constructor has to be. -/
structure Legal (constructor : Constructor) : Prop where
  names : ∀ name, constructor.Uses name → UsableName name
  distinctParams : (constructor.params.map Param.name).Nodup
  /-- Optional and named parameters are not mixed. -/
  unmixed : (∀ param ∈ constructor.params, param.group ≠ .optional) ∨
    ∀ param ∈ constructor.params, param.group ≠ .named
  const : constructor.isConst = true →
    constructor.isFactory = false ∧ constructor.isExternal = false ∧ constructor.body = none
  external : constructor.isExternal = true →
    constructor.body = none ∧ constructor.initializers = []
  factory : constructor.isFactory = true →
    constructor.Plain ∧ constructor.initializers = [] ∧
      (constructor.isExternal = false → constructor.body ≠ none)
  /-- Only a factory has an expression as its body. -/
  block : constructor.isFactory = false → ∀ expression, constructor.body ≠ some (.arrow expression)
  /-- A redirection stands alone. -/
  redirect : ∀ target arguments, .redirect target arguments ∈ constructor.initializers →
    constructor.initializers = [.redirect target arguments] ∧ constructor.body = none ∧
      constructor.Plain
  superCalls : (constructor.initializers.filter Initializer.isSuper).length ≤ 1

/-- What a constructor does wrong, in the words in which it is reported. -/
inductive Commits (constructor : Constructor) : Violation → Prop where
  | invalidName {name : String} (huses : constructor.Uses name)
      (h : Text.isIdentifier name = false) : Commits constructor (.invalidIdentifier name)
  | reservedName {name : String} (huses : constructor.Uses name)
      (h : Text.isReserved name = true) : Commits constructor (.reservedWord name)
  | mixedParams {param other : Param} (hparam : param ∈ constructor.params)
      (hother : other ∈ constructor.params) (hoptional : param.group = .optional)
      (hnamed : other.group = .named) : Commits constructor .mixedOptionalAndNamed
  | repeatedParam {name : String} (h : 2 ≤ (constructor.params.map Param.name).count name) :
      Commits constructor (.duplicate "parameter" name)
  | constFactory (hconst : constructor.isConst = true) (h : constructor.isFactory = true) :
      Commits constructor (.conflict "const" "factory")
  | constExternal (hconst : constructor.isConst = true) (h : constructor.isExternal = true) :
      Commits constructor (.conflict "const" "external")
  | externalBody (hexternal : constructor.isExternal = true) (h : constructor.body ≠ none) :
      Commits constructor .unexpectedBody
  | constBody (hconst : constructor.isConst = true) (h : constructor.body ≠ none) :
      Commits constructor .unexpectedBody
  | externalInitializers (hexternal : constructor.isExternal = true)
      (h : constructor.initializers ≠ []) :
      Commits constructor (.unexpectedInitializers "external")
  | factoryInitializers (hfactory : constructor.isFactory = true)
      (h : constructor.initializers ≠ []) :
      Commits constructor (.unexpectedInitializers "factory")
  | factoryFormal {param : Param} {formal : String} (hfactory : constructor.isFactory = true)
      (hparam : param ∈ constructor.params) (h : param.formal? = some formal) :
      Commits constructor (.misplacedFormal formal "factory")
  | factoryWithoutBody (hfactory : constructor.isFactory = true)
      (hexternal : constructor.isExternal = false) (h : constructor.body = none) :
      Commits constructor .missingBody
  | arrowBody {expression : String} (hfactory : constructor.isFactory = false)
      (h : constructor.body = some (.arrow expression)) :
      Commits constructor (.requires "=>" "factory")
  | redirectBeside {target : Option String} {arguments : Arguments}
      (hredirect : .redirect target arguments ∈ constructor.initializers)
      (h : constructor.initializers ≠ [.redirect target arguments] ∨ constructor.body ≠ none) :
      Commits constructor .redirectNotAlone
  | redirectFormal {target : Option String} {arguments : Arguments} {param : Param}
      {formal : String} (hredirect : .redirect target arguments ∈ constructor.initializers)
      (hparam : param ∈ constructor.params) (h : param.formal? = some formal) :
      Commits constructor (.misplacedFormal formal "redirecting")
  | superCalls (h : 2 ≤ (constructor.initializers.filter Initializer.isSuper).length) :
      Commits constructor .multipleSuperCalls

variable {constructor : Constructor}

/-- The names of initializers are those that the rules ask for. -/
theorem uses_of_target {entry : Initializer} (hentry : entry ∈ constructor.initializers)
    {name : String} (h : entry.target? = some name) : constructor.Uses name := by
  cases entry with
  | assert condition message => exact absurd h (by simp [Initializer.target?])
  | field target value =>
    obtain rfl : target = name := Option.some.inj h
    exact .field hentry
  | superCall target arguments =>
    obtain rfl : target = some name := h
    exact .superCall hentry
  | redirect target arguments =>
    obtain rfl : target = some name := h
    exact .redirect hentry

theorem uses_iff {name : String} :
    constructor.Uses name ↔
      constructor.className = name ∨ constructor.name = some name ∨
        ∃ entry ∈ constructor.initializers, entry.target? = some name := by
  constructor
  · intro h
    cases h with
    | className => exact .inl rfl
    | name h => exact .inr (.inl h)
    | field h => exact .inr (.inr ⟨_, h, rfl⟩)
    | superCall h => exact .inr (.inr ⟨_, h, rfl⟩)
    | redirect h => exact .inr (.inr ⟨_, h, rfl⟩)
  · rintro (rfl | h | ⟨entry, hentry, h⟩)
    · exact .className
    · exact .name h
    · exact uses_of_target hentry h

theorem plain_iff :
    (∀ param ∈ constructor.paramList.toList, param.isField = false ∧ param.isSuper = false) ↔
      constructor.Plain :=
  forall_congr' fun _ => imp_congr_left (ParamList.mem_toList_ofParams constructor.params)

theorem redirects_iff :
    constructor.redirects = true ↔
      ∃ target arguments, .redirect target arguments ∈ constructor.initializers := by
  unfold redirects
  rw [List.any_eq_true]
  constructor
  · rintro ⟨entry, hentry, hredirect⟩
    cases entry with
    | redirect target arguments => exact ⟨target, arguments, hentry⟩
    | _ => exact absurd hredirect Bool.false_ne_true
  · rintro ⟨target, arguments, hentry⟩
    exact ⟨_, hentry, rfl⟩

/-- An entry among others stands alone exactly when there is one entry. -/
theorem eq_singleton_iff {entries : List Initializer} {entry : Initializer} (h : entry ∈ entries) :
    entries = [entry] ↔ entries.length = 1 := by
  refine ⟨fun heq => heq ▸ rfl, fun hlength => ?_⟩
  obtain ⟨only, rfl⟩ := List.length_eq_one_iff.mp hlength
  rw [List.mem_singleton.mp h]

theorem any_isArrow_eq_false_iff {body : Option Body} :
    body.any Body.isArrow = false ↔ ∀ expression, body ≠ some (.arrow expression) := by
  cases body with
  | none => simp
  | some body => cases body <;> simp [Body.isArrow]

/-! ### What the rules accept -/

variable {s : Subject}

theorem obeyed_nameRules_iff :
    Rule.Obeyed (constructor.nameRules s) ↔
      (∀ name, constructor.Uses name → UsableName name) ∧ constructor.paramList.Hygienic := by
  unfold nameRules
  rw [Rule.obeyed_append, Rule.obeyed_append, Rule.obeyed_append, Rule.obeyed_flatMap,
    Subject.obeyed_usableName, Subject.obeyed_usableName?, ParamList.obeyed_rules_iff]
  constructor
  · rintro ⟨⟨⟨hclass, hname⟩, hparams⟩, hentries⟩
    refine ⟨fun name huses => ?_, hparams⟩
    rcases uses_iff.mp huses with rfl | h | ⟨entry, hentry, h⟩
    · exact hclass
    · exact Subject.obeyed_usableName.mp (hname name h)
    · have hentry := Subject.obeyed_usableName?.mp (hentries entry hentry) name h
      exact Subject.obeyed_usableName.mp hentry
  · rintro ⟨hnames, hparams⟩
    refine ⟨⟨⟨hnames _ .className, fun name h => ?_⟩, hparams⟩, fun entry hentry => ?_⟩
    · exact Subject.obeyed_usableName.mpr (hnames name (.name h))
    · refine Subject.obeyed_usableName?.mpr fun name h => ?_
      exact Subject.obeyed_usableName.mpr (hnames name (uses_of_target hentry h))

theorem obeyed_keywordRules_iff :
    Rule.Obeyed (constructor.keywordRules s) ↔
      (constructor.isConst = true →
        constructor.isFactory = false ∧ constructor.isExternal = false ∧
          constructor.body = none) ∧
      (constructor.isExternal = true →
        constructor.body = none ∧ constructor.initializers = []) := by
  unfold keywordRules
  simp only [Rule.obeyed_cons, Rule.obeyed_nil, and_true, Subject.must_holds,
    Subject.exclusive_holds]
  cases constructor.isConst <;> cases constructor.isFactory <;> cases constructor.isExternal <;>
    simp

theorem obeyed_factoryRules_iff :
    Rule.Obeyed (constructor.factoryRules s) ↔
      (constructor.isFactory = true →
        constructor.Plain ∧ constructor.initializers = [] ∧
          (constructor.isExternal = false → constructor.body ≠ none)) ∧
      (constructor.isFactory = false →
        ∀ expression, constructor.body ≠ some (.arrow expression)) := by
  unfold factoryRules
  cases constructor.isFactory with
  | true =>
    rw [if_pos rfl, Rule.obeyed_append, ParamList.obeyed_noFormals_iff, plain_iff]
    simp only [Rule.obeyed_cons, Rule.obeyed_nil, and_true, Subject.must_holds, List.isEmpty_iff]
    cases constructor.isExternal <;> simp [Option.isSome_iff_ne_none]
  | false =>
    rw [if_neg Bool.false_ne_true, Rule.obeyed_cons, Subject.implies_holds, Bool.or_false,
      Bool.not_eq_true', any_isArrow_eq_false_iff]
    simp

theorem obeyed_redirectRules_iff :
    Rule.Obeyed (constructor.redirectRules s) ↔
      ∀ target arguments, .redirect target arguments ∈ constructor.initializers →
        constructor.initializers = [.redirect target arguments] ∧ constructor.body = none ∧
          constructor.Plain := by
  unfold redirectRules
  by_cases hredirects : constructor.redirects = true
  · rw [if_pos hredirects, Rule.obeyed_cons, ParamList.obeyed_noFormals_iff, plain_iff,
      Subject.must_holds, Bool.and_eq_true, beq_iff_eq, Option.isNone_iff_eq_none]
    constructor
    · rintro ⟨⟨hlength, hbody⟩, hplain⟩ target arguments hentry
      exact ⟨(eq_singleton_iff hentry).mpr hlength, hbody, hplain⟩
    · intro h
      obtain ⟨target, arguments, hentry⟩ := redirects_iff.mp hredirects
      obtain ⟨hentries, hbody, hplain⟩ := h target arguments hentry
      exact ⟨⟨(eq_singleton_iff hentry).mp hentries, hbody⟩, hplain⟩
  · rw [if_neg hredirects]
    refine ⟨fun _ target arguments hentry => ?_, fun _ => Rule.obeyed_nil⟩
    exact absurd (redirects_iff.mpr ⟨target, arguments, hentry⟩) hredirects

/-- **The rules accept exactly the legal constructors.** -/
theorem obeyed_rules_iff : Rule.Obeyed constructor.rules ↔ constructor.Legal := by
  have hparams : constructor.paramList.Hygienic ↔ _ :=
    ParamList.hygienic_ofParams_iff constructor.params
  unfold rules
  rw [Rule.obeyed_append, Rule.obeyed_append, Rule.obeyed_append, Rule.obeyed_append,
    obeyed_nameRules_iff, obeyed_keywordRules_iff, obeyed_factoryRules_iff,
    obeyed_redirectRules_iff, Rule.obeyed_cons, Subject.must_holds, decide_eq_true_iff, hparams]
  constructor
  · rintro ⟨⟨⟨⟨⟨hnames, hdistinct, hunmixed⟩, hconst, hexternal⟩, hfactory, hblock⟩, hredirect⟩,
      hsuper, -⟩
    exact ⟨hnames, hdistinct, hunmixed, hconst, hexternal, hfactory, hblock, hredirect, hsuper⟩
  · intro h
    exact ⟨⟨⟨⟨⟨h.names, h.distinctParams, h.unmixed⟩, h.const, h.external⟩, h.factory, h.block⟩,
      h.redirect⟩, h.superCalls, Rule.obeyed_nil⟩

/-! ### What the rules report -/

/-- A formal is reported by its own text. -/
theorem justified_noFormals {Committed : Violation → Prop} {violation : String → Violation}
    (h : ∀ param ∈ constructor.params, ∀ formal, param.formal? = some formal →
      Committed (violation formal)) :
    Rule.Justified s Committed (constructor.paramList.noFormals s violation) := by
  unfold ParamList.noFormals
  cases hformal : constructor.paramList.formal? with
  | none => exact Rule.justified_nil
  | some formal =>
    obtain ⟨param, hparam, hsome⟩ := List.exists_of_findSome?_eq_some hformal
    refine Rule.justified_must (fun _ => h param ?_ formal hsome) Rule.justified_nil
    exact (ParamList.mem_toList_ofParams constructor.params).mp hparam

theorem justified_nameRules :
    Rule.Justified s constructor.Commits (constructor.nameRules s) := by
  have hname : ∀ name, constructor.Uses name →
      Rule.Justified s constructor.Commits (s.usableName name) := fun name huses =>
    Rule.justified_usableName (.invalidName huses) (.reservedName huses)
  have hname? : ∀ name : Option String, (∀ text, name = some text → constructor.Uses text) →
      Rule.Justified s constructor.Commits (s.usableName? name) := by
    intro name huses
    cases name with
    | none => exact Rule.justified_nil
    | some text => exact hname text (huses text rfl)
  unfold nameRules
  rw [Rule.justified_append, Rule.justified_append, Rule.justified_append]
  refine ⟨⟨⟨hname _ .className, hname? _ fun text h => .name h⟩, ?_⟩,
    Rule.justified_flatMap fun entry hentry => hname? _ fun text h => uses_of_target hentry h⟩
  refine Rule.justified_must (fun hmixed => ?_) (Rule.justified_distinct fun name hcount => ?_)
  · -- a group that is not empty has a parameter, which was given
    have hgiven : ∀ group, constructor.paramList.ofGroup group ≠ [] →
        ∃ param ∈ constructor.params, param.group = group := by
      intro group hne
      obtain ⟨param, hparam⟩ := List.exists_mem_of_ne_nil _ hne
      have hpartitions := ParamList.partitions_ofParams constructor.params
      exact ⟨param, (hpartitions.ordered group).subset hparam,
        hpartitions.grouped group param hparam⟩
    rw [Bool.or_eq_false_iff, List.isEmpty_eq_false_iff, List.isEmpty_eq_false_iff] at hmixed
    obtain ⟨param, hparam, hoptional⟩ := hgiven .optional hmixed.1
    obtain ⟨other, hother, hnamed⟩ := hgiven .named hmixed.2
    exact .mixedParams hparam hother hoptional hnamed
  · rw [List.nil_append] at hcount
    have hperm := (ParamList.partitions_ofParams constructor.params).complete.map Param.name
    exact .repeatedParam (hperm.count_eq name ▸ hcount)

theorem justified_keywordRules :
    Rule.Justified s constructor.Commits (constructor.keywordRules s) := by
  unfold keywordRules
  refine Rule.justified_must (fun h => ?_) (Rule.justified_must (fun h => ?_)
    (Rule.justified_must (fun h => ?_) (Rule.justified_must (fun h => ?_)
      (Rule.justified_must (fun h => ?_) Rule.justified_nil))))
  · rw [Bool.not_eq_false', Bool.and_eq_true] at h
    exact .constFactory h.1 h.2
  · rw [Bool.not_eq_false', Bool.and_eq_true] at h
    exact .constExternal h.1 h.2
  · rw [Bool.or_eq_false_iff, Bool.not_eq_false', Option.isNone_eq_false_iff,
      Option.isSome_iff_ne_none] at h
    exact .externalBody h.1 h.2
  · rw [Bool.or_eq_false_iff, Bool.not_eq_false', List.isEmpty_eq_false_iff] at h
    exact .externalInitializers h.1 h.2
  · rw [Bool.or_eq_false_iff, Bool.not_eq_false', Option.isNone_eq_false_iff,
      Option.isSome_iff_ne_none] at h
    exact .constBody h.1 h.2

theorem justified_factoryRules :
    Rule.Justified s constructor.Commits (constructor.factoryRules s) := by
  unfold factoryRules
  by_cases hfactory : constructor.isFactory = true
  · rw [if_pos hfactory, Rule.justified_append]
    refine ⟨justified_noFormals fun param hparam formal h => .factoryFormal hfactory hparam h,
      Rule.justified_must (fun h => ?_) (Rule.justified_must (fun h => ?_) Rule.justified_nil)⟩
    · rw [List.isEmpty_eq_false_iff] at h
      exact .factoryInitializers hfactory h
    · rw [Bool.or_eq_false_iff, Option.isSome_eq_false_iff, Option.isNone_iff_eq_none] at h
      exact .factoryWithoutBody hfactory h.1 h.2
  · rw [if_neg hfactory]
    refine Rule.justified_must (fun h => ?_) Rule.justified_nil
    rw [Bool.or_false, Bool.not_eq_false', ← Bool.not_eq_false, any_isArrow_eq_false_iff,
      not_forall] at h
    obtain ⟨expression, hbody⟩ := h
    exact .arrowBody (Bool.eq_false_iff.mpr hfactory) (not_ne_iff.mp hbody)

theorem justified_redirectRules :
    Rule.Justified s constructor.Commits (constructor.redirectRules s) := by
  unfold redirectRules
  by_cases hredirects : constructor.redirects = true
  · obtain ⟨target, arguments, hentry⟩ := redirects_iff.mp hredirects
    rw [if_pos hredirects]
    refine Rule.justified_must (fun h => .redirectBeside hentry ?_)
      (justified_noFormals fun param hparam formal h => .redirectFormal hentry hparam h)
    rw [Bool.and_eq_false_iff, beq_eq_false_iff_ne, Option.isNone_eq_false_iff,
      Option.isSome_iff_ne_none] at h
    exact h.imp_left fun hlength heq => hlength ((eq_singleton_iff hentry).mp heq)
  · rw [if_neg hredirects]
    exact Rule.justified_nil

/-- **Whatever is reported of a constructor was committed by it.** -/
theorem justified_rules :
    Rule.Justified ⟨.constructor, constructor.displayName⟩ constructor.Commits
      constructor.rules := by
  unfold rules
  rw [Rule.justified_append, Rule.justified_append, Rule.justified_append, Rule.justified_append]
  refine ⟨⟨⟨⟨justified_nameRules, justified_keywordRules⟩, justified_factoryRules⟩,
    justified_redirectRules⟩, Rule.justified_must (fun h => ?_) Rule.justified_nil⟩
  rw [decide_eq_false_iff_not, Nat.not_le] at h
  exact .superCalls h

/-- A legal constructor commits nothing. -/
theorem Legal.not_commits (h : constructor.Legal) (violation : Violation) :
    ¬constructor.Commits violation := by
  intro hcommits
  cases hcommits with
  | invalidName huses hname => exact absurd (h.names _ huses).1 (Bool.eq_false_iff.mp hname)
  | reservedName huses hname => exact absurd hname (Bool.eq_false_iff.mp (h.names _ huses).2)
  | mixedParams hparam hother hoptional hnamed =>
    exact h.unmixed.elim (fun hno => hno _ hparam hoptional) fun hno => hno _ hother hnamed
  | repeatedParam hcount =>
    exact absurd (List.nodup_iff_count_le_one.mp h.distinctParams _) (Nat.not_le.mpr hcount)
  | constFactory hconst hfactory => exact absurd hfactory (Bool.eq_false_iff.mp (h.const hconst).1)
  | constExternal hconst hexternal =>
    exact absurd hexternal (Bool.eq_false_iff.mp (h.const hconst).2.1)
  | externalBody hexternal hbody => exact hbody (h.external hexternal).1
  | constBody hconst hbody => exact hbody (h.const hconst).2.2
  | externalInitializers hexternal hentries => exact hentries (h.external hexternal).2
  | factoryInitializers hfactory hentries => exact hentries (h.factory hfactory).2.1
  | factoryFormal hfactory hparam hformal =>
    have hplain := Param.formal?_eq_none_iff.mpr ((h.factory hfactory).1 _ hparam)
    exact absurd (hplain.symm.trans hformal) (Option.some_ne_none _).symm
  | factoryWithoutBody hfactory hexternal hbody => exact (h.factory hfactory).2.2 hexternal hbody
  | arrowBody hfactory hbody => exact h.block hfactory _ hbody
  | redirectBeside hentry hbeside =>
    obtain ⟨hentries, hbody, -⟩ := h.redirect _ _ hentry
    exact hbeside.elim (fun hne => hne hentries) fun hne => hne hbody
  | redirectFormal hentry hparam hformal =>
    have hplain := Param.formal?_eq_none_iff.mpr ((h.redirect _ _ hentry).2.2 _ hparam)
    exact absurd (hplain.symm.trans hformal) (Option.some_ne_none _).symm
  | superCalls hcount => exact absurd h.superCalls (Nat.not_le.mpr hcount)

/-! ### The main statement -/

/-- In a legal constructor the calls need no order among themselves: there is at most one. -/
theorem Legal.arrange_eq (h : constructor.Legal) :
    Initializer.arrange constructor.initializers =
      constructor.initializers.filter Initializer.isAssert ++
        constructor.initializers.filter Initializer.isField ++
        constructor.initializers.filter Initializer.isCall := by
  rw [Initializer.arrange_eq_filter, List.append_assoc (_ ++ _)]
  congr 1
  by_cases hredirects : constructor.redirects = true
  · obtain ⟨target, arguments, hentry⟩ := redirects_iff.mp hredirects
    rw [(h.redirect target arguments hentry).1]
    rfl
  · have hnone : ∀ entry ∈ constructor.initializers, entry.isRedirect = false := by
      unfold redirects at hredirects
      rw [List.any_eq_true, not_exists] at hredirects
      exact fun entry hentry => Bool.eq_false_iff.mpr fun hr => hredirects entry ⟨hentry, hr⟩
    have hcalls : constructor.initializers.filter Initializer.isCall =
        constructor.initializers.filter Initializer.isSuper :=
      List.filter_congr fun entry hentry => by
        rw [Initializer.isCall, hnone entry hentry, Bool.or_false]
    rw [hcalls, List.filter_eq_nil_iff.mpr fun entry hentry =>
      Bool.eq_false_iff.mp (hnone entry hentry), List.append_nil]

/-- **Building decides the legality of constructors.** A constructor is built exactly when it is
legal, which is when it commits no violation. What is built has the initializers of the draft, kind
by kind, and everything else as it was given; what is refused is blamed for a violation that it
commits. -/
theorem legality_decided (constructor : Constructor) :
    ((∃ node, constructor.build = .ok node) ↔ constructor.Legal) ∧
      (constructor.Legal ↔ ∀ violation, ¬constructor.Commits violation) ∧
      (∀ node, constructor.build = .ok node →
        node = { constructor with
          initializers :=
            constructor.initializers.filter Initializer.isAssert ++
              constructor.initializers.filter Initializer.isField ++
              constructor.initializers.filter Initializer.isCall }) ∧
      ∀ fault, constructor.build = .error fault →
        ∃ violation, fault = .structural .constructor constructor.displayName violation ∧
          constructor.Commits violation := by
  have hbuilt : (∃ node, constructor.build = .ok node) ↔ constructor.Legal :=
    Rule.exists_enforce_eq_ok_iff.trans obeyed_rules_iff
  have hfault : ∀ fault, constructor.build = .error fault →
      ∃ violation, fault = .structural .constructor constructor.displayName violation ∧
        constructor.Commits violation := fun fault h => justified_rules.of_enforce h
  refine ⟨hbuilt, ⟨Legal.not_commits, fun hnone => ?_⟩, fun node h => ?_, hfault⟩
  · -- something that is refused would have committed what is reported
    cases hbuild : constructor.build with
    | ok node => exact hbuilt.mp ⟨node, hbuild⟩
    | error fault =>
      obtain ⟨violation, -, hcommits⟩ := hfault fault hbuild
      exact absurd hcommits (hnone violation)
  · obtain ⟨hobeyed, rfl⟩ := build_eq_ok_iff.mp h
    rw [(obeyed_rules_iff.mp hobeyed).arrange_eq]

/-- Initializers in no good order. -/
def polar : Constructor where
  className := "Point"
  name := some "polar"
  params := [{ name := "r" }, { name := "label", isOptional := true }]
  initializers :=
    [.superCall none {}, .field "x" "r", .assert "r >= 0" none, .field "y" "0"]

/-- A redirection that takes a parameter for a field, and has a body besides. -/
def zero : Constructor where
  className := "Point"
  name := some "zero"
  params := [{ name := "x", isField := true }]
  initializers := [.redirect (some "polar") { positional := ["x"] }]
  body := some (.block "")

/-- The one is legal and gets its initializers put in order; of the two violations that the other
commits the one about its body is reported. -/
theorem legality_decided_redirect :
    polar.Legal ∧
      (∀ node, polar.build = .ok node → node.initializers =
        [.assert "r >= 0" none, .field "x" "r", .field "y" "0", .superCall none {}]) ∧
      zero.build = .error (.structural .constructor "Point.zero" .redirectNotAlone) ∧
      zero.Commits .redirectNotAlone ∧ ¬zero.Legal := by
  have hpolar : ∃ node, polar.build = .ok node := by
    refine ⟨{ polar with initializers := Initializer.arrange polar.initializers }, ?_⟩
    decide +kernel
  have hzero : zero.build =
      .error (.structural .constructor "Point.zero" .redirectNotAlone) := by decide +kernel
  obtain ⟨violation, hfault, hcommits⟩ := (legality_decided zero).2.2.2 _ hzero
  obtain rfl : Violation.redirectNotAlone = violation := by
    injection hfault
  refine ⟨(legality_decided polar).1.mp hpolar, fun node h => ?_, hzero, hcommits, fun hlegal => ?_⟩
  · rw [(legality_decided polar).2.2.1 node h]
    rfl
  · exact (legality_decided zero).2.1.mp hlegal _ hcommits

end Constructor

end DartSource
