import DartSource.Rule

/-!
# When a draft is legal

Building a node runs through a list of rules and stops at the first that is broken. What a caller
needs to know about this is said here once. A draft is built exactly when its rules are all
**obeyed** (`Rule.enforce_eq_ok_iff`), and the fault of a list of rules is the fault of its front
part, or that of the rest when the front part is obeyed (`Rule.firstFault?_append`). Everything
else about the legality of nodes is read off the lists of rules themselves.

The fault of a draft that is refused comes from a rule that is really broken. Rules are
**accounted** for when each that is broken reports a fault that was committed (`Rule.Accounted`),
and then so does building (`Rule.Accounted.of_enforce`). Most rules blame the draft itself: they are
**justified** by the violations that it has committed (`Rule.Justified`).

Lowering and building are chains of steps that may fail; `bind_eq_ok_iff` and `bind_eq_error_iff`
open such a chain.
-/

namespace DartSource

variable {ε α β : Type}

/-- A chain of two steps gives a result exactly when both do. -/
theorem bind_eq_ok_iff {step : Except ε α} {next : α → Except ε β} {result : β} :
    step >>= next = .ok result ↔ ∃ value, step = .ok value ∧ next value = .ok result := by
  cases step with
  | error e =>
    refine ⟨fun h => absurd h (by simp [bind, Except.bind]), ?_⟩
    rintro ⟨value, h, -⟩
    exact absurd h (by simp)
  | ok value =>
    refine ⟨fun h => ⟨value, rfl, h⟩, ?_⟩
    rintro ⟨value', h, hnext⟩
    obtain rfl := Except.ok.inj h
    exact hnext

/-- A chain of two steps fails where the first fails, or where the second does after the first. -/
theorem bind_eq_error_iff {step : Except ε α} {next : α → Except ε β} {e : ε} :
    step >>= next = .error e ↔
      step = .error e ∨ ∃ value, step = .ok value ∧ next value = .error e := by
  cases step with
  | error e' => simp [bind, Except.bind]
  | ok value => simp [bind, Except.bind]

namespace Rule

/-- Every rule of the list holds. -/
def Obeyed (rules : List Rule) : Prop :=
  ∀ rule ∈ rules, rule.holds = true

@[simp] theorem obeyed_nil : Obeyed [] := fun _ h => absurd h (List.not_mem_nil)

@[simp] theorem obeyed_cons {rule : Rule} {rules : List Rule} :
    Obeyed (rule :: rules) ↔ rule.holds = true ∧ Obeyed rules :=
  List.forall_mem_cons

@[simp] theorem obeyed_append {front rest : List Rule} :
    Obeyed (front ++ rest) ↔ Obeyed front ∧ Obeyed rest :=
  List.forall_mem_append

@[simp] theorem obeyed_map {items : List α} {rule : α → Rule} :
    Obeyed (items.map rule) ↔ ∀ item ∈ items, (rule item).holds = true :=
  List.forall_mem_map

theorem obeyed_flatMap {items : List α} {rules : α → List Rule} :
    Obeyed (items.flatMap rules) ↔ ∀ item ∈ items, Obeyed (rules item) := by
  refine ⟨fun h item hi rule hr => h rule (List.mem_flatMap.mpr ⟨item, hi, hr⟩), ?_⟩
  intro h rule hr
  obtain ⟨item, hi, hr⟩ := List.mem_flatMap.mp hr
  exact h item hi rule hr

/-- There is no fault exactly when all rules are obeyed. -/
theorem firstFault?_eq_none_iff {rules : List Rule} : firstFault? rules = none ↔ Obeyed rules := by
  unfold firstFault? Obeyed
  rw [Option.map_eq_none_iff, List.find?_eq_none]
  simp

/-- Rules are read from the front: those behind count only when those in front are obeyed. -/
theorem firstFault?_append (front rest : List Rule) :
    firstFault? (front ++ rest) = (firstFault? front).or (firstFault? rest) := by
  unfold firstFault?
  rw [List.find?_append]
  cases front.find? fun rule => !rule.holds <;> rfl

/-- Rules that are obeyed may be left out in front of others. -/
theorem firstFault?_append_of_obeyed {front : List Rule} (h : Obeyed front) (rest : List Rule) :
    firstFault? (front ++ rest) = firstFault? rest := by
  rw [firstFault?_append, firstFault?_eq_none_iff.mpr h, Option.none_or]

/-- A draft is built, and then as it stands, exactly when it obeys its rules. -/
theorem enforce_eq_ok_iff {rules : List Rule} {draft node : α} :
    enforce rules draft = .ok node ↔ Obeyed rules ∧ draft = node := by
  rw [← firstFault?_eq_none_iff]
  unfold enforce
  cases firstFault? rules with
  | none => simp
  | some fault => simp

/-- Lists of rules with the same first fault refuse the same drafts for the same reason. -/
theorem enforce_congr {rules rules' : List Rule} (h : firstFault? rules = firstFault? rules')
    (draft : α) : enforce rules draft = enforce rules' draft := by
  unfold enforce
  rw [h]

end Rule

namespace Subject

@[simp] theorem must_holds (s : Subject) (holds : Bool) (violation : Violation) :
    (s.must holds violation).holds = holds := rfl

@[simp] theorem exclusive_holds (s : Subject) (first second : String × Bool) :
    (s.exclusive first second).holds = !(first.2 && second.2) := rfl

@[simp] theorem implies_holds (s : Subject) (keyword other : String × Bool) :
    (s.implies keyword other).holds = (!keyword.2 || other.2) := rfl

/-- The rules of a name ask that it be an identifier and no reserved word. -/
theorem obeyed_usableName {s : Subject} {name : String} :
    Rule.Obeyed (s.usableName name) ↔
      Text.isIdentifier name = true ∧ Text.isReserved name = false := by
  unfold usableName
  simp

/-- A name that is not given breaks no rule. -/
theorem obeyed_usableName? {s : Subject} {name : Option String} :
    Rule.Obeyed (s.usableName? name) ↔ ∀ text ∈ name, Rule.Obeyed (s.usableName text) := by
  cases name with
  | none => simp [usableName?]
  | some text => simp [usableName?]

end Subject

/-! ### Faults that are accounted for -/

namespace Rule

/-- Every broken rule reports a fault that was committed, whoever is to blame for it. -/
def Accounted (Committed : Fault → Prop) (rules : List Rule) : Prop :=
  ∀ rule ∈ rules, rule.holds = false → Committed rule.fault

theorem accounted_nil {Committed : Fault → Prop} : Accounted Committed [] :=
  fun _ h => absurd h List.not_mem_nil

theorem accounted_append {Committed : Fault → Prop} {front rest : List Rule} :
    Accounted Committed (front ++ rest) ↔ Accounted Committed front ∧ Accounted Committed rest :=
  List.forall_mem_append

/-- **The fault of a refused draft was committed** where its rules are accounted for. -/
theorem Accounted.of_enforce {Committed : Fault → Prop} {rules : List Rule}
    (hrules : Accounted Committed rules) {draft : α} {fault : Fault}
    (h : enforce rules draft = .error fault) : Committed fault := by
  unfold enforce firstFault? at h
  cases hfind : rules.find? fun rule => !rule.holds with
  | none =>
    rw [hfind] at h
    exact absurd h (by simp)
  | some rule =>
    rw [hfind] at h
    obtain rfl : rule.fault = fault := Except.error.inj h
    have hbroken := List.find?_some hfind
    rw [Bool.not_eq_true'] at hbroken
    exact hrules rule (List.mem_of_find?_eq_some hfind) hbroken

/-- Every broken rule blames the subject for something that was committed. -/
def Justified (s : Subject) (Committed : Violation → Prop) (rules : List Rule) : Prop :=
  ∀ rule ∈ rules, rule.holds = false →
    ∃ violation, rule.fault = s.fault violation ∧ Committed violation

variable {s : Subject} {Committed : Violation → Prop}

theorem justified_nil : Justified s Committed [] := fun _ h => absurd h List.not_mem_nil

theorem justified_append {front rest : List Rule} :
    Justified s Committed (front ++ rest) ↔
      Justified s Committed front ∧ Justified s Committed rest :=
  List.forall_mem_append

/-- A single condition is justified if its failure was committed. -/
theorem justified_must {holds : Bool} {violation : Violation} {rest : List Rule}
    (h : holds = false → Committed violation) (hrest : Justified s Committed rest) :
    Justified s Committed (s.must holds violation :: rest) :=
  List.forall_mem_cons.mpr ⟨fun hbroken => ⟨violation, rfl, h hbroken⟩, hrest⟩

/-- One condition for each item. -/
theorem justified_map {items : List α} {holds : α → Bool} {violation : α → Violation}
    (h : ∀ item ∈ items, holds item = false → Committed (violation item)) :
    Justified s Committed (items.map fun item => s.must (holds item) (violation item)) := by
  refine List.forall_mem_map.mpr fun item hitem hbroken => ?_
  exact ⟨violation item, rfl, h item hitem hbroken⟩

theorem justified_flatMap {items : List α} {rules : α → List Rule}
    (h : ∀ item ∈ items, Justified s Committed (rules item)) :
    Justified s Committed (items.flatMap rules) := by
  intro rule hrule
  obtain ⟨item, hitem, hrule⟩ := List.mem_flatMap.mp hrule
  exact h item hitem rule hrule

/-- Conditions on a name that something uses. -/
theorem justified_usableName {name : String}
    (hinvalid : Text.isIdentifier name = false → Committed (.invalidIdentifier name))
    (hreserved : Text.isReserved name = true → Committed (.reservedWord name)) :
    Justified s Committed (s.usableName name) := by
  refine justified_must hinvalid (justified_must (fun hbroken => hreserved ?_) justified_nil)
  rw [Bool.not_eq_false'] at hbroken
  exact hbroken

/-- A name that comes again is there twice, counting those seen before. -/
theorem justified_distinct {what : String} {seen names : List String}
    (h : ∀ name, 2 ≤ (seen ++ names).count name → Committed (.duplicate what name)) :
    Justified s Committed (s.distinct what seen names) := by
  induction names generalizing seen with
  | nil => exact justified_nil
  | cons name rest ih =>
    refine justified_must (fun hbroken => h name ?_) (ih fun other hother => h other ?_)
    · rw [Bool.not_eq_false', List.contains_iff_mem] at hbroken
      have hseen : 0 < seen.count name := List.count_pos_iff.mpr hbroken
      rw [List.count_append, List.count_cons_self]
      omega
    · rwa [List.append_assoc] at hother

/-- What the subject has committed may be one part of all that was committed. -/
theorem Justified.accounted {rules : List Rule} (hrules : Justified s Committed rules)
    {All : Fault → Prop} (hall : ∀ violation, Committed violation → All (s.fault violation)) :
    Accounted All rules := by
  intro rule hrule hbroken
  obtain ⟨violation, hfault, hcommitted⟩ := hrules rule hrule hbroken
  rw [hfault]
  exact hall violation hcommitted

/-- **The fault of a refused draft is justified** where its rules are. -/
theorem Justified.of_enforce {rules : List Rule} (hrules : Justified s Committed rules)
    {draft : α} {fault : Fault} (h : enforce rules draft = .error fault) :
    ∃ violation, fault = s.fault violation ∧ Committed violation := by
  have haccounted : Accounted (fun fault => ∃ violation, fault = s.fault violation ∧
      Committed violation) rules := hrules.accounted fun violation hc => ⟨violation, rfl, hc⟩
  exact haccounted.of_enforce h

end Rule

end DartSource
