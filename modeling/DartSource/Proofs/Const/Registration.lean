import DartSource.Proofs.Assoc
import DartSource.Proofs.Const.Unambiguous

/-!
# Registers of converters

A register is filled by **requests**, one after the other, and a tag belongs to the converter that
was requested for it first. A second request for the tag is refused and changes nothing. So after
any run of requests the register has the tags that were requested, in the order in which they came
first (`Converters.tags_requested`), each bound as the first request for it says
(`Converters.get?_requested`).

Rendering a constant asks the register for converters and for nothing else. A register that binds
more tags renders a constant as the smaller one does, unless the smaller one failed on a tag that it
lacks and the larger one has (`Const.grown_render`). Two laws follow: a constant that can be
rendered is rendered alike ever after, and registers with the same bindings are interchangeable.

A converter receives each field name once, where it came first, with the expression for the field
that bears the name last (`Const.render_custom_eq_ok_iff`).
-/

namespace DartSource

namespace Converters

/-! ### Requests -/

/-- The register after a request: with the converter, or as it was if the request is refused. -/
def request (converters : Converters) (entry : String × Converter) : Converters :=
  match converters.register entry.1 entry.2 with
  | .ok extended => extended
  | .error _ => converters

/-- The register after a run of requests that starts with an empty register. -/
def requested (entries : List (String × Converter)) : Converters :=
  entries.foldl request {}

theorem contains_iff {converters : Converters} {tag : String} :
    converters.contains tag = true ↔ tag ∈ converters.tags := by
  unfold contains get? tags
  rw [Option.isSome_iff_ne_none, Ne, Assoc.get?_eq_none_iff, not_not]

theorem register_eq (converters : Converters) (tag : String) (converter : Converter) :
    converters.register tag converter =
      if tag ∈ converters.tags then .error (.lookup (.duplicateConverter tag))
      else .ok ⟨converters.entries ++ [(tag, converter)]⟩ := by
  unfold register
  simp only [contains_iff]

/-- One request: the register has the tag already, or has it from now on. -/
theorem request_eq (converters : Converters) (entry : String × Converter) :
    converters.request entry =
      if entry.1 ∈ converters.tags then converters
      else ⟨converters.entries ++ [entry]⟩ := by
  unfold request
  rw [register_eq]
  by_cases h : entry.1 ∈ converters.tags
  · rw [if_pos h, if_pos h]
  · rw [if_neg h, if_neg h]

theorem requested_concat (entries : List (String × Converter)) (entry : String × Converter) :
    requested (entries ++ [entry]) = (requested entries).request entry := by
  unfold requested
  rw [List.foldl_concat]

/-- **The tags of a register** are the requested ones, each where it came first. -/
theorem tags_requested (entries : List (String × Converter)) :
    (requested entries).tags = (entries.map Prod.fst).eraseDups := by
  induction entries using List.reverseRecOn with
  | nil => rfl
  | append_singleton entries entry ih =>
    have hmem : entry.1 ∈ (requested entries).tags ↔ entry.1 ∈ entries.map Prod.fst := by
      rw [ih, List.mem_eraseDups]
    rw [requested_concat, request_eq, List.map_append, List.map_singleton, eraseDups_concat]
    by_cases h : entry.1 ∈ entries.map Prod.fst
    · rw [if_pos (hmem.mpr h), if_pos h, ih]
    · rw [if_neg fun hold => h (hmem.mp hold), if_neg h, ← ih]
      unfold tags
      rw [List.map_append, List.map_singleton]

theorem mem_tags_requested {entries : List (String × Converter)} {tag : String} :
    tag ∈ (requested entries).tags ↔ tag ∈ entries.map Prod.fst := by
  rw [tags_requested, List.mem_eraseDups]

/-- **A tag is bound as its first request says.** -/
theorem get?_requested (entries : List (String × Converter)) (tag : String) :
    (requested entries).get? tag = Assoc.get? tag entries := by
  induction entries using List.reverseRecOn with
  | nil => rfl
  | append_singleton entries entry ih =>
    rw [requested_concat, request_eq, Assoc.get?_append, ← ih]
    by_cases h : entry.1 ∈ (requested entries).tags
    · rw [if_pos h, Assoc.get?_cons]
      by_cases htag : entry.1 = tag
      · -- the tag has a converter, so the new request is not looked at
        obtain ⟨converter, hbound⟩ := Option.isSome_iff_exists.mp (contains_iff.mpr (htag ▸ h))
        rw [hbound, Option.some_or]
      · rw [if_neg htag]
        exact (Option.or_none).symm
    · rw [if_neg h]
      exact Assoc.get?_append tag (requested entries).entries [entry]

/-- A request is refused exactly when its tag was requested before. -/
theorem register_requested (entries : List (String × Converter)) (tag : String)
    (converter : Converter) :
    (requested entries).register tag converter =
      if tag ∈ entries.map Prod.fst then .error (.lookup (.duplicateConverter tag))
      else .ok (requested (entries ++ [(tag, converter)])) := by
  rw [register_eq, requested_concat, request_eq]
  by_cases h : tag ∈ entries.map Prod.fst
  · rw [if_pos (mem_tags_requested.mpr h), if_pos h]
  · have hnew : ¬tag ∈ (requested entries).tags := fun hold => h (mem_tags_requested.mp hold)
    rw [if_neg hnew, if_neg h, if_neg hnew]

theorem requested_of_mem {entries : List (String × Converter)} {tag : String}
    (h : tag ∈ entries.map Prod.fst) (converter : Converter) :
    requested (entries ++ [(tag, converter)]) = requested entries := by
  rw [requested_concat, request_eq, if_pos (mem_tags_requested.mpr h)]

/-- A tag is found under its own name, if it is there. -/
theorem findTag?_eq (converters : Converters) (name : String) :
    converters.findTag? name = if converters.contains name then some name else none := by
  have hcontains := @contains_iff converters name
  unfold findTag?
  by_cases h : converters.contains name = true
  · rw [if_pos h]
    cases hfind : converters.tags.find? (· == name) with
    | none =>
      rw [List.find?_eq_none] at hfind
      exact absurd (beq_self_eq_true name) (hfind name (hcontains.mp h))
    | some tag =>
      have htag := List.find?_some hfind
      exact congrArg some (beq_iff_eq.mp htag)
  · rw [if_neg h, List.find?_eq_none]
    intro tag hmem htag
    rw [beq_iff_eq.mp htag] at hmem
    exact h (hcontains.mpr hmem)

theorem length_requested (entries : List (String × Converter)) :
    (requested entries).entries.length = (entries.map Prod.fst).toFinset.card := by
  have hsame : ((entries.map Prod.fst).eraseDups).toFinset = (entries.map Prod.fst).toFinset := by
    ext tag
    rw [List.mem_toFinset, List.mem_toFinset, List.mem_eraseDups]
  rw [← hsame, List.toFinset_card_of_nodup (nodup_eraseDups _), ← tags_requested]
  exact (List.length_map Prod.fst).symm

/-- The larger register binds all that the smaller one binds, and to the same converters. -/
def Extends (small large : Converters) : Prop :=
  ∀ tag converter, small.get? tag = some converter → large.get? tag = some converter

/-- Requests take nothing away. -/
theorem extends_requested (entries more : List (String × Converter)) :
    (requested entries).Extends (requested (entries ++ more)) := by
  intro tag converter h
  rw [get?_requested] at h
  rw [get?_requested, Assoc.get?_append, h, Option.some_or]

end Converters

namespace Const

/-! ### Larger registers -/

variable {small large : Converters}

/-- The second result is the first, or the first is the failure to find a tag that is missing in the
smaller register and there in the larger one. -/
inductive Grown {α : Type} (small large : Converters) : Except Fault α → Except Fault α → Prop where
  | same (result : Except Fault α) : Grown small large result result
  | supplied {tag : String} (hsmall : small.get? tag = none) (hlarge : large.get? tag ≠ none)
      (result : Except Fault α) :
      Grown small large (.error (.lookup (.missingConverter tag))) result

namespace Grown

variable {α β : Type} {result other : Except Fault α}

/-- In a chain of steps the first failure counts. -/
theorem bind (h : Grown small large result other) {next more : α → Except Fault β}
    (hnext : ∀ value, Grown small large (next value) (more value)) :
    Grown small large (result >>= next) (other >>= more) := by
  cases h with
  | same =>
    cases result with
    | ok value => exact hnext value
    | error fault => exact .same _
  | supplied hsmall hlarge => exact .supplied hsmall hlarge _

/-- What was found is found again. -/
theorem eq_ok (h : Grown small large result other) {value : α} (hresult : result = .ok value) :
    other = .ok value := by
  cases h with
  | same => exact hresult
  | supplied hsmall hlarge => exact absurd hresult (by rintro ⟨⟩)

/-- Nothing is gained where the bindings are the same. -/
theorem eq_of_get?_eq (h : Grown small large result other)
    (hsame : ∀ tag, large.get? tag = small.get? tag) : result = other := by
  cases h with
  | same => rfl
  | supplied hsmall hlarge => exact absurd ((hsame _).trans hsmall) hlarge

end Grown

mutual

/-- **A larger register gives the same expressions.** The induction is on the constant; the register
is asked at custom values only. -/
theorem grown_render (h : small.Extends large) (value : Const) :
    Grown small large (value.render small) (value.render large) := by
  cases value with
  | null => exact .same _
  | bool value => exact .same _
  | int value => exact .same _
  | double value => exact .same _
  | text value => exact .same _
  | enumValue type value => exact .same _
  | list items =>
    rw [render, render]
    exact (grown_renderItems h items).bind fun _ => .same _
  | map entries =>
    rw [render, render]
    exact (grown_renderEntries h entries).bind fun _ => .same _
  | custom tag fields =>
    rw [render, render]
    cases hsmall : small.get? tag with
    | some converter =>
      -- the larger register has the same converter for the tag
      rw [h tag converter hsmall]
      exact (grown_renderFields h fields).bind fun _ => .same _
    | none =>
      cases hlarge : large.get? tag with
      | none => exact .same _
      | some converter =>
        refine .supplied hsmall ?_ _
        rw [hlarge]
        exact Option.some_ne_none converter

theorem grown_renderItems (h : small.Extends large) (items : List Const) :
    Grown small large (renderItems small items) (renderItems large items) := by
  cases items with
  | nil => exact .same _
  | cons item rest =>
    rw [renderItems, renderItems]
    exact (grown_render h item).bind fun _ =>
      (grown_renderItems h rest).bind fun _ => .same _

theorem grown_renderEntries (h : small.Extends large) (entries : List (Const × Const)) :
    Grown small large (renderEntries small entries) (renderEntries large entries) := by
  cases entries with
  | nil => exact .same _
  | cons entry rest =>
    obtain ⟨key, value⟩ := entry
    rw [renderEntries, renderEntries]
    exact (grown_render h key).bind fun _ => (grown_render h value).bind fun _ =>
      (grown_renderEntries h rest).bind fun _ => .same _

theorem grown_renderFields (h : small.Extends large) (fields : List (String × Const)) :
    Grown small large (renderFields small fields) (renderFields large fields) := by
  cases fields with
  | nil => exact .same _
  | cons field rest =>
    obtain ⟨name, value⟩ := field
    rw [renderFields, renderFields]
    exact (grown_render h value).bind fun _ =>
      (grown_renderFields h rest).bind fun _ => .same _

end

/-- Registers with the same bindings render every constant alike, faults included. -/
theorem render_congr (h : ∀ tag, large.get? tag = small.get? tag) (value : Const) :
    value.render large = value.render small := by
  have hextends : small.Extends large := fun tag converter hbound => (h tag).trans hbound
  exact ((grown_render hextends value).eq_of_get?_eq h).symm

/-! ### Custom values -/

variable {converters : Converters}

/-- What a converter receives for the fields of a value: each name where it comes first, with the
expression for the field that bears the name last. -/
structure Received (converters : Converters) (fields : List (String × Const))
    (received : List (String × String)) : Prop where
  names : received.map Prod.fst = (fields.map Prod.fst).eraseDups
  last : ∀ entry ∈ received, ∃ front value behind,
    fields = front ++ (entry.1, value) :: behind ∧ entry.1 ∉ behind.map Prod.fst ∧
      value.render converters = .ok entry.2

/-- Nothing else fits. -/
theorem Received.unique {fields : List (String × Const)} {received others : List (String × String)}
    (h : Received converters fields received) (hothers : Received converters fields others) :
    received = others := by
  refine eq_of_map_eq (h.names.trans hothers.names.symm) fun entry hentry other hother hname => ?_
  obtain ⟨front, value, behind, hfields, hbehind, hvalue⟩ := h.last entry hentry
  obtain ⟨front', value', behind', hfields', hbehind', hvalue'⟩ := hothers.last other hother
  -- there is one last field of the name
  have hlast := Assoc.get?_reverse_eq_some_iff.mpr ⟨front, behind, hfields, hbehind⟩
  have hlast' := Assoc.get?_reverse_eq_some_iff.mpr ⟨front', behind', hfields', hbehind'⟩
  rw [← hname, hlast] at hlast'
  obtain rfl := Option.some.inj hlast'
  exact Prod.ext hname (Except.ok.inj (hvalue.symm.trans hvalue'))

theorem renderFields_eq {fields : List (String × Const)}
    (h : ∀ field ∈ fields, field.2.render converters = .ok (field.2.expression converters)) :
    renderFields converters fields =
      .ok (fields.map fun field => (field.1, field.2.expression converters)) := by
  induction fields with
  | nil => rfl
  | cons field rest ih =>
    obtain ⟨name, value⟩ := field
    obtain ⟨hfield, hrest⟩ := List.forall_mem_cons.mp h
    rw [renderFields, hfield, ih hrest]
    rfl

/-- Fields are rendered only if each of them is. -/
theorem exists_render_of_renderFields {fields : List (String × Const)}
    {rendered : List (String × String)} (h : renderFields converters fields = .ok rendered) :
    ∀ field ∈ fields, ∃ written, field.2.render converters = .ok written := by
  induction fields generalizing rendered with
  | nil => exact fun field hmem => absurd hmem List.not_mem_nil
  | cons field rest ih =>
    obtain ⟨name, value⟩ := field
    rw [renderFields, bind_eq_ok_iff] at h
    obtain ⟨written, hfield, h⟩ := h
    obtain ⟨more, hrest, -⟩ := bind_eq_ok_iff.mp h
    exact List.forall_mem_cons.mpr ⟨⟨written, hfield⟩, ih hrest⟩

/-- The list that is filled from the rendered fields is what the converter is to receive. -/
theorem received_ofList {fields : List (String × Const)}
    (h : ∀ field ∈ fields, field.2.render converters = .ok (field.2.expression converters)) :
    Received converters fields
      (Assoc.ofList (fields.map fun field => (field.1, field.2.expression converters))) where
  names := by
    rw [Assoc.names_ofList, List.map_map]
    rfl
  last := by
    intro entry hentry
    obtain ⟨front, behind, hsplit, hbehind⟩ := Assoc.exists_last_of_mem_ofList hentry
    -- the fields split where their expressions do
    obtain ⟨before, rest, rfl, rfl, hrest⟩ := List.map_eq_append_iff.mp hsplit
    obtain ⟨field, after, rfl, rfl, rfl⟩ := List.map_eq_cons_iff.mp hrest
    refine ⟨before, field.2, after, rfl, ?_, h field ?_⟩
    · rw [List.map_map] at hbehind
      exact hbehind
    · exact List.mem_append_right before List.mem_cons_self

/-- **How a custom value is rendered.** There has to be a converter for its tag and an expression
for each of its fields; the converter gets what it is to receive and nothing else. -/
theorem render_custom_eq_ok_iff {tag : String} {fields : List (String × Const)} {text : String} :
    (Const.custom tag fields).render converters = .ok text ↔
      ∃ converter received, converters.get? tag = some converter ∧
        (∀ field ∈ fields, ∃ written, field.2.render converters = .ok written) ∧
        Received converters fields received ∧ converter received = text := by
  have hrender : ∀ {converter : Converter}, converters.get? tag = some converter →
      (∀ field ∈ fields, ∃ written, field.2.render converters = .ok written) →
      (Const.custom tag fields).render converters = .ok (converter
        (Assoc.ofList (fields.map fun field => (field.1, field.2.expression converters)))) := by
    intro converter hbound hfields
    rw [render, hbound]
    simp only [renderFields_eq fun field hmem => render_eq_of_exists (hfields field hmem)]
    rfl
  constructor
  · intro h
    cases hbound : converters.get? tag with
    | none =>
      rw [render, hbound] at h
      exact absurd h (by rintro ⟨⟩)
    | some converter =>
      have hchain := h
      rw [render, hbound] at hchain
      obtain ⟨rendered, hrendered, -⟩ := bind_eq_ok_iff.mp hchain
      have hfields := exists_render_of_renderFields hrendered
      refine ⟨converter, _, rfl, hfields,
        received_ofList fun field hmem => render_eq_of_exists (hfields field hmem), ?_⟩
      exact Except.ok.inj ((hrender hbound hfields).symm.trans h)
  · rintro ⟨converter, received, hbound, hfields, hreceived, rfl⟩
    have hother : Received converters fields _ :=
      received_ofList fun field hmem => render_eq_of_exists (hfields field hmem)
    rw [hrender hbound hfields, hreceived.unique hother]

end Const

/-! ### The main statement -/

/-- What a register is after the given requests, and what it does. -/
structure Converters.FirstWins (entries : List (String × Converter)) (converters : Converters) :
    Prop where
  /-- The tags are the requested ones in the order of their first requests, … -/
  tags : converters.tags = (entries.map Prod.fst).eraseDups
  /-- … each bound to the converter that was requested first. -/
  bound : ∀ tag, converters.get? tag = Assoc.get? tag entries
  /-- A further request is refused exactly when its tag was requested before, … -/
  register : ∀ tag converter,
    converters.register tag converter =
      if tag ∈ entries.map Prod.fst then .error (.lookup (.duplicateConverter tag))
      else .ok (requested (entries ++ [(tag, converter)]))
  /-- … and then nothing changes. -/
  refused : ∀ tag converter, tag ∈ entries.map Prod.fst →
    requested (entries ++ [(tag, converter)]) = converters
  findTag : ∀ name,
    converters.findTag? name = if converters.contains name then some name else none
  contains : ∀ tag, converters.contains tag = true ↔ tag ∈ entries.map Prod.fst
  length : converters.entries.length = (entries.map Prod.fst).toFinset.card
  /-- What can be rendered is rendered alike after any further requests. -/
  monotone : ∀ (value : Const) (text : String) (more : List (String × Converter)),
    value.render converters = .ok text → value.render (requested (entries ++ more)) = .ok text
  /-- A register with the same bindings renders every constant alike. -/
  bindings : ∀ others : Converters, (∀ tag, others.get? tag = converters.get? tag) →
    ∀ value : Const, value.render others = value.render converters
  /-- The converter of a custom value receives each name once, with what was given last. -/
  custom : ∀ (tag : String) (fields : List (String × Const)) (text : String),
    (Const.custom tag fields).render converters = .ok text ↔
      ∃ converter received, converters.get? tag = some converter ∧
        (∀ field ∈ fields, ∃ written, field.2.render converters = .ok written) ∧
        Const.Received converters fields received ∧ converter received = text

/-- **The first request wins**, along every run of requests, and what was rendered once stays
rendered as it was. -/
theorem Converters.firstWins_requested (entries : List (String × Converter)) :
    FirstWins entries (requested entries) where
  tags := tags_requested entries
  bound := get?_requested entries
  register := register_requested entries
  refused _ converter hmem := requested_of_mem hmem converter
  findTag := findTag?_eq (requested entries)
  contains _ := contains_iff.trans mem_tags_requested
  length := length_requested entries
  monotone value _ more h := (Const.grown_render (extends_requested entries more) value).eq_ok h
  bindings _ h value := Const.render_congr h value
  custom _ _ _ := Const.render_custom_eq_ok_iff

/-- Two tags, the first of which is requested again. -/
def Converters.pointTwice : List (String × Converter) :=
  [("Point", fun fields => "Point(" ++ Converter.namedArgs fields ++ ")"),
   ("Size", fun _ => "Size()"),
   ("Point", fun _ => "Other()")]

/-- The second converter for points is never asked, and of the two fields of one name the second
takes the place of the first. No further request changes that. -/
theorem Converters.firstWins_requested_pointTwice :
    let point : Const := .custom "Point" [("x", .bool true), ("y", .null), ("x", .bool false)]
    (requested pointTwice).tags = ["Point", "Size"] ∧
      (requested pointTwice).register "Size" (fun _ => "") =
        .error (.lookup (.duplicateConverter "Size")) ∧
      ∀ more, point.render (requested (pointTwice ++ more)) = .ok "Point(x: false, y: null)" := by
  intro point
  have hwins := Converters.firstWins_requested pointTwice
  have hpoint : point.render (requested pointTwice) = .ok "Point(x: false, y: null)" := by
    decide +kernel
  refine ⟨hwins.tags.trans ?_, (hwins.register "Size" _).trans ?_, fun more => ?_⟩
  · decide +kernel
  · exact if_pos (by decide +kernel)
  · exact hwins.monotone point _ more hpoint

end DartSource
