import DartSource.Member.Constructor
import DartSource.Proofs.Member.Rank
import DartSource.Proofs.Rule

/-!
# Constructors and the order of their initializers

Building a constructor puts its initializers into written order, after its rules have been checked
on the order given. The rules do not see the difference: each of them asks for something that a
list has in any order, but for the rules about the names that initializers use, which are reported
one initializer after the other. So the later rules are the same rules for two lists that are equal
up to order (`Constructor.laterRules_of_perm`), and a legal constructor stays legal when its
initializers are put into another order (`Constructor.obeyed_rules_of_perm`).
-/

namespace DartSource

namespace Initializer

theorem rank_lt (entry : Initializer) : entry.rank < 4 := by
  cases entry <;> simp [rank]

/-- Arranging initializers changes nothing but their order. -/
theorem arrange_perm (entries : List Initializer) : (arrange entries).Perm entries :=
  byRank_perm fun entry _ => entry.rank_lt

/-- Initializers that agree kind by kind are written alike. -/
theorem arrange_congr {entries others : List Initializer}
    (h : ∀ r < 4, entries.filter (fun entry => entry.rank == r) =
      others.filter fun entry => entry.rank == r) : arrange entries = arrange others :=
  byRank_congr 4 h

/-- Arranged initializers with more behind them are arranged like the ones given. -/
theorem arrange_arrange_append (entries more : List Initializer) :
    arrange (arrange entries ++ more) = arrange (entries ++ more) :=
  byRank_byRank_append 4 entries more

end Initializer

namespace Constructor

/-- The rules about the names of a constructor and its parameters. -/
def frontRules (s : Subject) (constructor : Constructor) : List Rule :=
  s.usableName constructor.className ++ s.usableName? constructor.name ++
    constructor.paramList.rules s

/-- The rules behind those about names. -/
def laterRules (s : Subject) (constructor : Constructor) : List Rule :=
  constructor.keywordRules s ++ constructor.factoryRules s ++ constructor.redirectRules s ++
    [s.must (decide ((constructor.initializers.filter Initializer.isSuper).length ≤ 1))
      .multipleSuperCalls]

/-- The rules of a constructor in three parts, of which the middle one goes through the
initializers in the order given. -/
theorem rules_eq (constructor : Constructor) :
    constructor.rules =
      constructor.frontRules ⟨.constructor, constructor.displayName⟩ ++
      (constructor.initializers.flatMap fun entry =>
        Subject.usableName? ⟨.constructor, constructor.displayName⟩ entry.target?) ++
      constructor.laterRules ⟨.constructor, constructor.displayName⟩ := by
  unfold rules nameRules frontRules laterRules
  simp only [List.append_assoc]

variable {constructor : Constructor} {entries : List Initializer}

/-- **The later rules do not see the order of the initializers.** -/
theorem laterRules_of_perm (s : Subject) (hperm : constructor.initializers.Perm entries) :
    laterRules s { constructor with initializers := entries } = laterRules s constructor := by
  have hempty : entries.isEmpty = constructor.initializers.isEmpty := by
    rw [Bool.eq_iff_iff, List.isEmpty_iff, List.isEmpty_iff]
    exact ⟨fun h => (h ▸ hperm).eq_nil, fun h => (h ▸ hperm.symm).eq_nil⟩
  have hany : entries.any Initializer.isRedirect =
      constructor.initializers.any Initializer.isRedirect := hperm.any_eq.symm
  have hlength : entries.length = constructor.initializers.length := hperm.length_eq.symm
  have hsuper : (entries.filter Initializer.isSuper).length =
      (constructor.initializers.filter Initializer.isSuper).length :=
    (hperm.filter _).length_eq.symm
  -- the rules read the initializers through these four and in no other way
  unfold laterRules keywordRules factoryRules redirectRules redirects paramList
  simp only [hempty, hany, hlength, hsuper]

/-- A legal constructor is legal with its initializers in any order. -/
theorem obeyed_rules_of_perm (hperm : constructor.initializers.Perm entries)
    (h : Rule.Obeyed constructor.rules) :
    Rule.Obeyed { constructor with initializers := entries }.rules := by
  rw [rules_eq, Rule.obeyed_append, Rule.obeyed_append] at h ⊢
  obtain ⟨⟨hfront, hnames⟩, hlater⟩ := h
  refine ⟨⟨hfront, ?_⟩, ?_⟩
  · -- names are checked entry by entry, and the entries are the same
    rw [Rule.obeyed_flatMap] at hnames ⊢
    exact fun entry hentry => hnames entry (hperm.mem_iff.mpr hentry)
  · rw [← laterRules_of_perm _ hperm] at hlater
    exact hlater

/-- **What building a constructor gives**: the draft with its initializers in written order, if the
draft is legal. -/
theorem build_eq_ok_iff {draft node : Constructor} :
    draft.build = .ok node ↔
      Rule.Obeyed draft.rules ∧
        { draft with initializers := Initializer.arrange draft.initializers } = node :=
  Rule.enforce_eq_ok_iff

/-- A constructor that was built is itself legal. -/
theorem obeyed_rules_of_build {draft node : Constructor} (h : draft.build = .ok node) :
    Rule.Obeyed node.rules := by
  obtain ⟨hobeyed, rfl⟩ := build_eq_ok_iff.mp h
  exact obeyed_rules_of_perm (Initializer.arrange_perm _).symm hobeyed

end Constructor

end DartSource
