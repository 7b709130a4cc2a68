import DartSource.Proofs.Const.Registration
import DartSource.Proofs.Record.Order

/-!
# Which missing converter is reported

A constant may hold custom values anywhere inside it, and rendering it needs a converter for each
of their tags. This module says when there is an expression, and which tag is to blame when there
is none: the first, in the order of writing, that has no converter. The tag of a custom value comes
before those in its fields, and the key of a map entry before the value (`Const.parts`).

Rendering and the lookup of type names are walks through a constant that ask the register for one
tag after the other. `Converters.Answers` says how such a walk ends, given the tags that it asks
for. Walks one after the other ask for the tags of the first and then for those of the second
(`Answers.bind`), so each function of the two walks is settled where it is defined, by one step of
a mutual induction on the constant.

A constant of a description is looked up first and rendered afterwards. Looking up leaves the tags
where they are (`Record.Value.tags_of_toConst`), so a constant that got through can be rendered.
-/

namespace DartSource

/-! ### Walks that ask for tags -/

namespace Converters

/-- The tag is the first of these that has no converter. -/
def FirstMissing (converters : Converters) (tags : List String) (tag : String) : Prop :=
  ∃ front rest, tags = front ++ tag :: rest ∧ (∀ earlier ∈ front, earlier ∈ converters.tags) ∧
    tag ∉ converters.tags

/-- The first of the tags that has no converter, if there is one. -/
def firstMissing? (converters : Converters) (tags : List String) : Option String :=
  tags.find? fun tag => !converters.contains tag

theorem firstMissing?_eq_some_iff {converters : Converters} {tags : List String} {tag : String} :
    converters.firstMissing? tags = some tag ↔ converters.FirstMissing tags tag := by
  unfold firstMissing? FirstMissing
  rw [List.find?_eq_some_iff_append]
  simp only [Bool.not_not, Bool.not_eq_true', ← Bool.not_eq_true, contains_iff]
  refine ⟨?_, ?_⟩
  · rintro ⟨hmissing, front, rest, htags, hfront⟩
    exact ⟨front, rest, htags, hfront, hmissing⟩
  · rintro ⟨front, rest, htags, hfront, hmissing⟩
    exact ⟨hmissing, front, rest, htags, hfront⟩

theorem firstMissing?_eq_none_iff {converters : Converters} {tags : List String} :
    converters.firstMissing? tags = none ↔ ∀ tag ∈ tags, tag ∈ converters.tags := by
  unfold firstMissing?
  rw [List.find?_eq_none]
  simp only [Bool.not_eq_true', Bool.not_eq_false, contains_iff]

/-- The result of a walk that asks for the tags one after the other: it has a value, or it failed at
the first tag that has no converter. -/
def Answers {α : Type} (converters : Converters) (tags : List String) (result : Except Fault α) :
    Prop :=
  match converters.firstMissing? tags with
  | none => ∃ value, result = .ok value
  | some tag => result = .error (.lookup (.missingConverter tag))

namespace Answers

variable {α β : Type} {converters : Converters} {tags more : List String} {tag : String}
  {result : Except Fault α} {next : α → Except Fault β}

/-- A walk that asks for nothing succeeds. -/
theorem ok (value : α) : converters.Answers [] (.ok value) :=
  ⟨value, rfl⟩

/-- A tag without a converter ends the walk. -/
theorem missing (h : converters.contains tag = false) :
    converters.Answers (tag :: tags)
      (.error (.lookup (.missingConverter tag)) : Except Fault α) := by
  unfold Answers firstMissing?
  rw [List.find?_cons_of_pos (by rw [h]; rfl)]

/-- A tag with a converter lets it go on. -/
theorem found (h : converters.contains tag = true) (hresult : converters.Answers tags result) :
    converters.Answers (tag :: tags) result := by
  unfold Answers firstMissing? at hresult ⊢
  rwa [List.find?_cons_of_neg (by rw [h]; exact Bool.false_ne_true)]

/-- **Walks one after the other** ask for the tags of the first, and for those of the second if the
first has a value. -/
theorem bind (h : converters.Answers tags result)
    (hnext : ∀ value, result = .ok value → converters.Answers more (next value)) :
    converters.Answers (tags ++ more) (result >>= next) := by
  unfold Answers firstMissing? at *
  rw [List.find?_append]
  cases hfirst : tags.find? fun tag => !converters.contains tag with
  | none =>
    rw [hfirst] at h
    obtain ⟨value, rfl⟩ := h
    exact hnext value rfl
  | some tag =>
    rw [hfirst] at h
    subst h
    rfl

/-- What cannot fail behind a walk asks for nothing more. -/
theorem andThen (h : converters.Answers tags result)
    (hnext : ∀ value, result = .ok value → ∃ other, next value = .ok other) :
    converters.Answers tags (result >>= next) := by
  have hall : converters.Answers (tags ++ []) (result >>= next) := h.bind hnext
  rwa [List.append_nil] at hall

theorem map (h : converters.Answers tags result) (f : α → β) :
    converters.Answers tags (result >>= fun value => .ok (f value)) :=
  h.andThen fun value _ => ⟨f value, rfl⟩

theorem exists_eq_ok_iff (h : converters.Answers tags result) :
    (∃ value, result = .ok value) ↔ ∀ tag ∈ tags, tag ∈ converters.tags := by
  rw [← firstMissing?_eq_none_iff]
  unfold Answers at h
  cases hfirst : converters.firstMissing? tags with
  | none =>
    rw [hfirst] at h
    exact iff_of_true h rfl
  | some tag =>
    rw [hfirst] at h
    refine iff_of_false ?_ (Option.some_ne_none tag)
    rintro ⟨value, hvalue⟩
    exact absurd (h.symm.trans hvalue) (by rintro ⟨⟩)

theorem eq_error_iff (h : converters.Answers tags result) {fault : Fault} :
    result = .error fault ↔
      ∃ tag, fault = .lookup (.missingConverter tag) ∧ converters.FirstMissing tags tag := by
  simp only [← firstMissing?_eq_some_iff]
  unfold Answers at h
  cases hfirst : converters.firstMissing? tags with
  | none =>
    rw [hfirst] at h
    obtain ⟨value, rfl⟩ := h
    refine iff_of_false (by rintro ⟨⟩) ?_
    rintro ⟨tag, -, hnone⟩
    exact absurd hnone (Option.some_ne_none tag).symm
  | some tag =>
    rw [hfirst] at h
    subst h
    refine ⟨fun hfault => ⟨tag, (Except.error.inj hfault).symm, rfl⟩, ?_⟩
    rintro ⟨other, rfl, hother⟩
    rw [Option.some.inj hother]

end Answers

end Converters

/-! ### The tags of a constant -/

namespace Const

mutual

/-- The constant and all constants inside it. -/
def parts : Const → List Const
  | .list items => .list items :: itemsParts items
  | .map entries => .map entries :: entriesParts entries
  | .custom tag fields => .custom tag fields :: fieldsParts fields
  | value => [value]

/-- All constants inside the items of a list. -/
def itemsParts : List Const → List Const
  | [] => []
  | item :: rest => parts item ++ itemsParts rest

/-- All constants inside the entries of a map. -/
def entriesParts : List (Const × Const) → List Const
  | [] => []
  | (key, value) :: rest => parts key ++ parts value ++ entriesParts rest

/-- All constants inside the fields of a custom value. -/
def fieldsParts : List (String × Const) → List Const
  | [] => []
  | (_, value) :: rest => parts value ++ fieldsParts rest

end

/-- The tag of a custom value. -/
def tag? : Const → Option String
  | .custom tag _ => some tag
  | _ => none

/-- The tags of the custom values in a constant, in the order of writing. -/
def tags (value : Const) : List String :=
  value.parts.filterMap tag?

variable (converters : Converters)

mutual

/-- **Rendering asks for the tags of a constant in their order.** -/
theorem answers_render (value : Const) :
    converters.Answers value.tags (value.render converters) := by
  cases value with
  | null => exact .ok _
  | bool value => exact .ok _
  | int value => exact .ok _
  | double value => exact .ok _
  | text value => exact .ok _
  | enumValue type value => exact .ok _
  | list items =>
    rw [render, tags, parts]
    exact (answers_renderItems items).map _
  | map entries =>
    rw [render, tags, parts]
    exact (answers_renderEntries entries).map _
  | custom tag fields =>
    -- the converter is looked for before the fields are rendered
    rw [render, tags, parts]
    cases hbound : converters.get? tag with
    | none =>
      have hmissing : converters.contains tag = false := by rw [Converters.contains, hbound]; rfl
      exact .missing hmissing
    | some converter =>
      have hfound : converters.contains tag = true := by rw [Converters.contains, hbound]; rfl
      exact .found hfound ((answers_renderFields fields).map _)

theorem answers_renderItems (items : List Const) :
    converters.Answers ((itemsParts items).filterMap tag?) (renderItems converters items) := by
  cases items with
  | nil => exact .ok _
  | cons item rest =>
    rw [renderItems, itemsParts, List.filterMap_append]
    exact (answers_render item).bind fun _ _ => (answers_renderItems rest).map _

theorem answers_renderEntries (entries : List (Const × Const)) :
    converters.Answers ((entriesParts entries).filterMap tag?)
      (renderEntries converters entries) := by
  cases entries with
  | nil => exact .ok _
  | cons entry rest =>
    obtain ⟨key, value⟩ := entry
    rw [renderEntries, entriesParts, List.filterMap_append, List.filterMap_append,
      List.append_assoc]
    exact (answers_render key).bind fun _ _ => (answers_render value).bind fun _ _ =>
      (answers_renderEntries rest).map _

theorem answers_renderFields (fields : List (String × Const)) :
    converters.Answers ((fieldsParts fields).filterMap tag?) (renderFields converters fields) := by
  cases fields with
  | nil => exact .ok _
  | cons field rest =>
    obtain ⟨name, value⟩ := field
    rw [renderFields, fieldsParts, List.filterMap_append]
    exact (answers_render value).bind fun _ _ => (answers_renderFields rest).map _

end

end Const

/-! ### Constants of descriptions -/

namespace Record.Value

/-- The type that a custom value names. -/
def tag? : Value → Option String
  | .custom type _ => some type
  | _ => none

/-- The types that the custom values in a constant name, in the order of writing. -/
def tags (value : Value) : List String :=
  value.parts.filterMap tag?

variable (converters : Converters)

mutual

/-- **Looking up asks for the same tags in the same order.** -/
theorem answers_toConst (value : Value) :
    converters.Answers value.tags (value.toConst converters) := by
  cases value with
  | null => exact .ok _
  | bool value => exact .ok _
  | int value => exact .ok _
  | double value => exact .ok _
  | text value => exact .ok _
  | enumValue type value => exact .ok _
  | list items =>
    rw [toConst, tags, parts]
    exact (answers_toConsts items).map _
  | map entries =>
    rw [toConst, tags, parts]
    exact (answers_toEntries entries).map _
  | custom type fields =>
    rw [toConst, tags, parts, Converters.findTag?_eq]
    cases hcontains : converters.contains type with
    | false => exact .missing hcontains
    | true => exact .found hcontains ((answers_toFields fields).map _)

theorem answers_toConsts (items : List Value) :
    converters.Answers ((itemsParts items).filterMap tag?) (toConsts converters items) := by
  cases items with
  | nil => exact .ok _
  | cons item rest =>
    rw [toConsts, itemsParts, List.filterMap_append]
    exact (answers_toConst item).bind fun _ _ => (answers_toConsts rest).map _

theorem answers_toEntries (entries : List (Value × Value)) :
    converters.Answers ((entriesParts entries).filterMap tag?) (toEntries converters entries) := by
  cases entries with
  | nil => exact .ok _
  | cons entry rest =>
    obtain ⟨key, value⟩ := entry
    rw [toEntries, entriesParts, List.filterMap_append, List.filterMap_append, List.append_assoc]
    exact (answers_toConst key).bind fun _ _ => (answers_toConst value).bind fun _ _ =>
      (answers_toEntries rest).map _

theorem answers_toFields (fields : List (String × Value)) :
    converters.Answers ((fieldsParts fields).filterMap tag?) (toFields converters fields) := by
  cases fields with
  | nil => exact .ok _
  | cons field rest =>
    obtain ⟨name, value⟩ := field
    rw [toFields, fieldsParts, List.filterMap_append]
    exact (answers_toConst value).bind fun _ _ => (answers_toFields rest).map _

end

variable {converters}

mutual

/-- **A constant that was looked up has the tags that it had before**, and in the same order. -/
theorem tags_of_toConst {value : Value} {const : Const}
    (h : value.toConst converters = .ok const) : const.tags = value.tags := by
  cases value with
  | list items =>
    rw [toConst] at h
    obtain ⟨consts, hitems, h⟩ := bind_eq_ok_iff.mp h
    obtain rfl := Except.ok.inj h
    exact tags_of_toConsts hitems
  | map entries =>
    rw [toConst] at h
    obtain ⟨consts, hentries, h⟩ := bind_eq_ok_iff.mp h
    obtain rfl := Except.ok.inj h
    exact tags_of_toEntries hentries
  | custom type fields =>
    rw [toConst, Converters.findTag?_eq] at h
    cases hcontains : converters.contains type with
    | false =>
      rw [hcontains] at h
      exact absurd h (by rintro ⟨⟩)
    | true =>
      rw [hcontains] at h
      obtain ⟨consts, hfields, h⟩ := bind_eq_ok_iff.mp h
      obtain rfl := Except.ok.inj h
      -- the tag that was found is the name that was looked for
      exact congrArg (type :: ·) (tags_of_toFields hfields)
  | _ =>
    obtain rfl := Except.ok.inj h
    rfl

theorem tags_of_toConsts {items : List Value} {consts : List Const}
    (h : toConsts converters items = .ok consts) :
    (Const.itemsParts consts).filterMap Const.tag? = (itemsParts items).filterMap tag? := by
  cases items with
  | nil =>
    obtain rfl := Except.ok.inj h
    rfl
  | cons item rest =>
    rw [toConsts] at h
    obtain ⟨first, hitem, h⟩ := bind_eq_ok_iff.mp h
    obtain ⟨more, hrest, h⟩ := bind_eq_ok_iff.mp h
    obtain rfl := Except.ok.inj h
    rw [Const.itemsParts, itemsParts, List.filterMap_append, List.filterMap_append,
      tags_of_toConsts hrest]
    exact congrArg (· ++ _) (tags_of_toConst hitem)

theorem tags_of_toEntries {entries : List (Value × Value)} {consts : List (Const × Const)}
    (h : toEntries converters entries = .ok consts) :
    (Const.entriesParts consts).filterMap Const.tag? = (entriesParts entries).filterMap tag? := by
  cases entries with
  | nil =>
    obtain rfl := Except.ok.inj h
    rfl
  | cons entry rest =>
    obtain ⟨key, value⟩ := entry
    rw [toEntries] at h
    obtain ⟨firstKey, hkey, h⟩ := bind_eq_ok_iff.mp h
    obtain ⟨firstValue, hvalue, h⟩ := bind_eq_ok_iff.mp h
    obtain ⟨more, hrest, h⟩ := bind_eq_ok_iff.mp h
    obtain rfl := Except.ok.inj h
    have hkeyTags := tags_of_toConst hkey
    have hvalueTags := tags_of_toConst hvalue
    unfold Const.tags tags at hkeyTags hvalueTags
    rw [Const.entriesParts, entriesParts]
    simp only [List.filterMap_append, hkeyTags, hvalueTags, tags_of_toEntries hrest]

theorem tags_of_toFields {fields : List (String × Value)} {consts : List (String × Const)}
    (h : toFields converters fields = .ok consts) :
    (Const.fieldsParts consts).filterMap Const.tag? = (fieldsParts fields).filterMap tag? := by
  cases fields with
  | nil =>
    obtain rfl := Except.ok.inj h
    rfl
  | cons field rest =>
    obtain ⟨name, value⟩ := field
    rw [toFields] at h
    obtain ⟨first, hvalue, h⟩ := bind_eq_ok_iff.mp h
    obtain ⟨more, hrest, h⟩ := bind_eq_ok_iff.mp h
    obtain rfl := Except.ok.inj h
    rw [Const.fieldsParts, fieldsParts, List.filterMap_append, List.filterMap_append,
      tags_of_toFields hrest]
    exact congrArg (· ++ _) (tags_of_toConst hvalue)

end

/-- A constant that was looked up can be rendered: its tags have all been found. -/
theorem exists_render_of_toConst {value : Value} {const : Const}
    (h : value.toConst converters = .ok const) : ∃ text, const.render converters = .ok text := by
  have hfound : ∀ tag ∈ value.tags, tag ∈ converters.tags :=
    (answers_toConst converters value).exists_eq_ok_iff.mp ⟨const, h⟩
  rw [← tags_of_toConst h] at hfound
  exact (Const.answers_render converters const).exists_eq_ok_iff.mpr hfound

theorem answers_render (value : Value) :
    converters.Answers value.tags (value.render converters) :=
  (answers_toConst converters value).andThen fun _ h => exists_render_of_toConst h

end Record.Value

/-! ### The main statement -/

namespace Converters

/-- How something ends that needs converters for the tags: well exactly when they are all there, and
otherwise with the first missing one to blame. -/
structure Settles {α : Type} (converters : Converters) (tags : List String)
    (result : Except Fault α) : Prop where
  ok : (∃ value, result = .ok value) ↔ ∀ tag ∈ tags, tag ∈ converters.tags
  error : ∀ fault, result = .error fault ↔
    ∃ tag, fault = .lookup (.missingConverter tag) ∧ converters.FirstMissing tags tag

theorem Answers.settles {α : Type} {converters : Converters} {tags : List String}
    {result : Except Fault α} (h : converters.Answers tags result) :
    converters.Settles tags result :=
  ⟨h.exists_eq_ok_iff, fun _ => h.eq_error_iff⟩

/-- **The first missing converter is to blame.** A constant can be rendered exactly when all its
tags are registered, and otherwise the first that is not is reported, whatever the converters write.
The same holds of a constant in a description; once its names have been looked up it can be
rendered. -/
theorem first_missing_blamed (converters : Converters) :
    (∀ value : Const, converters.Settles value.tags (value.render converters)) ∧
      (∀ others : Converters, others.tags = converters.tags → ∀ (value : Const) (fault : Fault),
        value.render others = .error fault ↔ value.render converters = .error fault) ∧
      ∀ value : Record.Value,
        converters.Settles value.tags (value.render converters) ∧
          ∀ const, value.toConst converters = .ok const →
            const.tags = value.tags ∧ ∃ text, const.render converters = .ok text := by
  have hrender : ∀ (others : Converters) (value : Const),
      others.Settles value.tags (value.render others) :=
    fun others value => (value.answers_render others).settles
  refine ⟨hrender converters, fun others htags value fault => ?_, fun value => ⟨?_, ?_⟩⟩
  · -- what is missing depends on the tags alone
    rw [(hrender others value).error, (hrender converters value).error]
    unfold FirstMissing
    rw [htags]
  · exact value.answers_render.settles
  · intro const h
    exact ⟨Record.Value.tags_of_toConst h, Record.Value.exists_render_of_toConst h⟩

/-- Points, but neither sizes nor colours. -/
def onlyPoints : Converters :=
  ⟨[("Point", fun fields => "Point(" ++ Converter.namedArgs fields ++ ")")]⟩

/-- A point with a map inside it, from sizes to colours. -/
def pointOfSizes : Record.Value :=
  .custom "Point" [("x", .list [.null, .map [(.custom "Size" [], .custom "Color" [])]])]

/-- Of the two types that are not known the key of the map comes first. -/
theorem first_missing_blamed_mapKey :
    onlyPoints.FirstMissing pointOfSizes.tags "Size" ∧
      pointOfSizes.render onlyPoints = .error (.lookup (.missingConverter "Size")) := by
  have htags : pointOfSizes.tags = ["Point", "Size", "Color"] := by decide +kernel
  have hmissing : onlyPoints.FirstMissing pointOfSizes.tags "Size" := by
    rw [htags]
    exact ⟨["Point"], ["Color"], rfl, by decide +kernel, by decide +kernel⟩
  exact ⟨hmissing, (((first_missing_blamed onlyPoints).2.2 pointOfSizes).1.error _).mpr
    ⟨"Size", rfl, hmissing⟩⟩

end Converters

end DartSource
