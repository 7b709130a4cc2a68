import DartSource.Proofs.Lowering.Walk
import DartSource.Proofs.Text.Separation

/-!
# The text of a path

A failure is reported with the text of its path, so what a reader gets to see is a row of names and
indices with dots between them. This module says that nothing is lost: within a description two
paths with the same text are the same path (`Record.Library.eq_of_path_text_eq`).

Every step that can be taken in a description bears the name of a field or of a list, and these
names are identifiers (`Record.Entry.name_mem_stepNames`). No dot and no bracket stands in an
identifier, so a name ends where its run of characters does, an index at its bracket, and a step at
the dot behind it (`RecordPath.Step.separates`).
-/

namespace DartSource

namespace RecordPath

/-- The name of the field or list that a step goes to. -/
def Step.name : Step → String
  | .field name => name
  | .item name _ => name

/-- What stands behind the name in the text of a step. -/
def Step.ending : Step → String
  | .field _ => ""
  | .item _ index => "[" ++ toString index ++ "]"

namespace Step

theorem text_eq (step : Step) : step.text = step.name ++ step.ending := by
  cases step with
  | field name => exact String.append_empty.symm
  | item name index =>
    change name ++ "[" ++ toString index ++ "]" = name ++ ("[" ++ toString index ++ "]")
    rw [String.append_assoc, String.append_assoc, String.append_assoc]

/-- Behind the name of a step stands a bracket or what follows the step. -/
theorem stops_ending (step : Step) {rest : List Char} (hrest : Text.Stops ['.'] rest) :
    Text.Stops ['[', '.'] (step.ending.toList ++ rest) := by
  cases step with
  | field name => exact fun c hc => List.mem_cons_of_mem _ (hrest c hc)
  | item name index =>
    rw [ending, String.toList_append, String.toList_append, List.append_assoc, List.append_assoc]
    exact Text.stops_cons.mpr List.mem_cons_self

/-- An index is found again in front of its closing bracket. -/
theorem index_inj {index other : Nat} {s t : List Char}
    (h : (toString index).toList ++ ']' :: s = (toString other).toList ++ ']' :: t) :
    index = other ∧ s = t := by
  have hdigits : ∀ n : Nat, ∀ c ∈ (toString n).toList, c.isDigit = true := by
    intro n c hc
    rw [Nat.toString_eq_repr, Nat.repr_eq_ofList_toDigits, String.toList_ofList] at hc
    exact Nat.isDigit_of_mem_toDigits (by decide) (by decide) hc
  have hstop : ∀ rest : List Char, Text.Stops [']'] (']' :: rest) := fun rest =>
    Text.stops_cons.mpr (List.mem_singleton_self _)
  obtain ⟨hrun, hrest⟩ := Text.run_append_inj (hdigits index) (hdigits other) (by decide)
    (hstop s) (hstop t) h
  -- the digits are those of one number only
  have hnumber := congrArg (fun digits => Nat.ofDigitChars 10 digits 0) hrun
  refine ⟨?_, (List.cons.inj hrest).2⟩
  simpa [Nat.toString_eq_ofList_toDigits] using hnumber

/-- **Steps are separated by dots.** -/
theorem separates {step other : Step} (hstep : Text.isIdentifier step.name = true)
    (hother : Text.isIdentifier other.name = true) : Text.Separates text ['.'] step other := by
  intro s t hs ht h
  rw [text_eq, text_eq, String.toList_append, String.toList_append, List.append_assoc,
    List.append_assoc] at h
  obtain ⟨hname, hrest⟩ := Text.separates_of_isIdentifier (by decide) hstep hother _ _
    (step.stops_ending hs) (other.stops_ending ht) h
  cases step with
  | field name =>
    cases other with
    | field otherName => exact ⟨congrArg Step.field hname, hrest⟩
    | item otherName index =>
      -- a dot cannot stand where there is a bracket
      have hbracket : s = '[' :: ((toString index).toList ++ ']' :: t) := by
        simpa [ending] using hrest
      exact absurd (Text.stops_cons.mp (hbracket ▸ hs)) (by decide)
  | item name index =>
    cases other with
    | field otherName =>
      have hbracket : t = '[' :: ((toString index).toList ++ ']' :: s) := by
        simpa [ending] using hrest.symm
      exact absurd (Text.stops_cons.mp (hbracket ▸ ht)) (by decide)
    | item otherName otherIndex =>
      simp only [ending, String.toList_append, List.append_assoc] at hrest
      obtain ⟨hindex, hrest⟩ := index_inj (List.append_cancel_left hrest)
      exact ⟨congrArg₂ Step.item hname hindex, hrest⟩

end Step

theorem toList_text_cons (step : Step) (rest : List Step) :
    (text ⟨step :: rest⟩).toList =
      step.text.toList ++ rest.flatMap fun next => ("." ++ next.text).toList := by
  rw [text, List.map_cons, Text.toList_intercalate_cons, List.flatMap_map]

/-- **Paths with the same text are the same**, if their steps have proper names. -/
theorem eq_of_text_eq {path other : RecordPath}
    (hpath : ∀ step ∈ path.steps, Text.isIdentifier step.name = true)
    (hother : ∀ step ∈ other.steps, Text.isIdentifier step.name = true)
    (h : path.text = other.text) : path = other := by
  obtain ⟨steps⟩ := path
  obtain ⟨others⟩ := other
  -- a path with a step has a text, as a name has a character
  have hempty : ∀ (step : Step) (rest : List Step), Text.isIdentifier step.name = true →
      text ⟨[]⟩ ≠ text ⟨step :: rest⟩ := by
    intro step rest hstep heq
    obtain ⟨first, more, hname, -, -⟩ := Text.exists_of_isIdentifier hstep
    have htext := congrArg String.toList heq
    rw [toList_text_cons, step.text_eq, String.toList_append, hname] at htext
    exact absurd htext (by simp [text])
  cases steps with
  | nil =>
    cases others with
    | nil => rfl
    | cons step rest => exact absurd h (hempty step rest (hother step List.mem_cons_self))
  | cons step rest =>
    cases others with
    | nil => exact absurd h.symm (hempty step rest (hpath step List.mem_cons_self))
    | cons next more =>
      obtain ⟨hstep, hrest⟩ := List.forall_mem_cons.mp hpath
      obtain ⟨hnext, hmore⟩ := List.forall_mem_cons.mp hother
      have hdot : ∀ step : Step,
          Text.Begins (fun c => c ∈ ['.'] ∧ c ∉ ([] : List Char)) ("." ++ step.text) := by
        intro step
        rw [Text.Begins, String.toList_append]
        exact ⟨'.', _, rfl, List.mem_singleton_self _, List.not_mem_nil⟩
      have hstops : ∀ steps : List Step, Text.Stops ['.']
          ((steps.flatMap fun step => ("." ++ step.text).toList) ++ []) := fun steps =>
        Text.stops_flatMap (fun step _ => (hdot step).mono fun _ hc => hc.1) (Text.stops_nil _)
      have htails : ∀ x ∈ rest, ∀ y ∈ more,
          Text.Separates (fun step : Step => "." ++ step.text) ['.'] x y := by
        intro x hx y hy s t hs ht heq
        rw [String.toList_append, String.toList_append, List.append_assoc, List.append_assoc] at heq
        exact Step.separates (hrest x hx) (hmore y hy) s t hs ht (List.append_cancel_left heq)
      have hchars := congrArg (fun text => text.toList ++ []) h
      simp only [toList_text_cons, List.append_assoc] at hchars
      obtain ⟨rfl, htail⟩ := Step.separates hstep hnext _ _ (hstops rest) (hstops more) hchars
      obtain ⟨rfl, -⟩ := Text.flatMap_append_inj htails (fun step _ => hdot step)
        (List.nil_subset _) (Text.stops_nil _) (Text.stops_nil _) htail
      rfl

end RecordPath

namespace Record

namespace Entry

/-- The names under which records stand inside others. -/
def stepNames : List String :=
  ["output", "part_of", "directives", "declarations", "members", "constants", "params", "param",
   "value"]

theorem isIdentifier_of_mem_stepNames : ∀ name ∈ stepNames, Text.isIdentifier name = true := by
  decide

theorem name_mem_of_mem_fields {entry : Entry} {field : String × Entry} (h : field ∈ entry.fields) :
    field.1 ∈ stepNames := by
  unfold fields at h
  split at h
  · obtain rfl := List.mem_singleton.mp h
    simp [stepNames]
  · obtain ⟨owner, -, rfl⟩ := List.mem_map.mp h
    simp [stepNames]
  · obtain ⟨value, -, rfl⟩ := List.mem_map.mp h
    simp [stepNames]
  · obtain ⟨value, -, rfl⟩ := List.mem_map.mp h
    simp [stepNames]
  · obtain rfl := List.mem_singleton.mp h
    simp [stepNames]
  · exact absurd h List.not_mem_nil

theorem name_mem_of_mem_lists {entry : Entry} {list : String × List Entry}
    (h : list ∈ entry.lists) : list.1 ∈ stepNames := by
  have hnames : ∀ names ⊆ stepNames, entry.lists.map Prod.fst = names → list.1 ∈ stepNames :=
    fun names hsub hlists => hsub (hlists ▸ List.mem_map_of_mem h)
  unfold lists at hnames
  split at hnames
  · exact hnames ["directives", "declarations"] (by decide) rfl
  · exact hnames ["members"] (by decide) rfl
  · exact hnames ["constants", "members"] (by decide) rfl
  · exact hnames ["members"] (by decide) rfl
  · exact hnames ["members"] (by decide) rfl
  · exact hnames ["params"] (by decide) rfl
  · exact hnames ["params"] (by decide) rfl
  · exact hnames ["params"] (by decide) rfl
  · exact hnames [] (by decide) rfl

/-- The steps that can be taken in a description have names of their own. -/
theorem name_mem_stepNames {entry inner : Entry} {step : RecordPath.Step}
    (h : entry.step? step = some inner) : step.name ∈ stepNames := by
  cases step with
  | field name =>
    obtain ⟨front, rest, hfields, -⟩ := List.lookup_eq_some_iff.mp h
    have hmem : (name, inner) ∈ entry.fields := hfields ▸ List.mem_append_right _ List.mem_cons_self
    exact name_mem_of_mem_fields hmem
  | item name index =>
    obtain ⟨entries, hentries, -⟩ := Option.bind_eq_some_iff.mp h
    obtain ⟨front, rest, hlists, -⟩ := List.lookup_eq_some_iff.mp hentries
    have hmem : (name, entries) ∈ entry.lists := hlists ▸ List.mem_append_right _ List.mem_cons_self
    exact name_mem_of_mem_lists hmem

theorem isIdentifier_of_follow? {entry inner : Entry} {steps : List RecordPath.Step}
    (h : entry.follow? steps = some inner) :
    ∀ step ∈ steps, Text.isIdentifier step.name = true := by
  induction steps generalizing entry with
  | nil => exact List.forall_mem_nil _
  | cons step rest ih =>
    obtain ⟨next, hnext, hrest⟩ := Option.bind_eq_some_iff.mp h
    have hstep := isIdentifier_of_mem_stepNames step.name (name_mem_stepNames hnext)
    exact List.forall_mem_cons.mpr ⟨hstep, ih hrest⟩

end Entry

/-- **Different records have different addresses**, also as they are written. -/
theorem Library.eq_of_path_text_eq {library : Library} {path other : RecordPath}
    {record record' : Entry} (hpath : library.recordAt? path = some record)
    (hother : library.recordAt? other = some record') (h : path.text = other.text) :
    path = other :=
  RecordPath.eq_of_text_eq (Entry.isIdentifier_of_follow? hpath)
    (Entry.isIdentifier_of_follow? hother) h

end Record

end DartSource
