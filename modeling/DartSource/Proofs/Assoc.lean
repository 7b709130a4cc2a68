import DartSource.Assoc
import Mathlib.Data.List.Basic
import Mathlib.Data.List.Induction

/-!
# First occurrences and association lists

`List.eraseDups` leaves each item of a list where it occurs first. One more item at the end is left
there if it is new and left out otherwise (`eraseDups_concat`), which is how names are collected one
by one.

An association list that was filled from a list of entries has the names of the entries, each where
it came first (`Assoc.names_ofList`), and binds a name as the last of its entries does
(`Assoc.get?_ofList`). Looking for the last entry is looking for the first from behind, so what is
said about lookups in the list of entries is said about its reverse.
-/

namespace DartSource

/-! ### Lists without repetitions -/

section Lists

variable {α β : Type} [BEq α] [LawfulBEq α] [BEq β] [LawfulBEq β]

theorem nodup_eraseDups (items : List α) : items.eraseDups.Nodup := by
  cases items with
  | nil => simp
  | cons first rest =>
    rw [List.eraseDups_cons, List.nodup_cons]
    -- what comes again was taken out before the rest is looked at
    exact ⟨by simp, nodup_eraseDups (rest.filter fun item => !item == first)⟩
termination_by items.length
decreasing_by exact Nat.lt_succ_of_le (List.length_filter_le _ _)

/-- Where a function tells items apart, the first occurrences of its values are the values of the
first occurrences. -/
theorem eraseDups_map {f : α → β} :
    ∀ items : List α, (∀ x ∈ items, ∀ y ∈ items, f x = f y → x = y) →
      (items.map f).eraseDups = items.eraseDups.map f
  | [], _ => by simp
  | first :: rest, h => by
    have hfilter : (rest.map f).filter (fun value => !value == f first) =
        (rest.filter fun item => !item == first).map f := by
      rw [List.filter_map]
      refine congrArg (List.map f) (List.filter_congr fun item hitem => ?_)
      -- an item has the value of the first only if it is the first
      have hiff : f item = f first ↔ item = first :=
        ⟨h item (List.mem_cons_of_mem _ hitem) first List.mem_cons_self, congrArg f⟩
      rw [Function.comp_apply, Bool.eq_iff_iff]
      simp [hiff]
    rw [List.map_cons, List.eraseDups_cons, List.eraseDups_cons, List.map_cons, hfilter]
    refine congrArg _ (eraseDups_map (rest.filter fun item => !item == first) ?_)
    intro x hx y hy
    exact h x (List.mem_cons_of_mem _ (List.mem_of_mem_filter hx)) y
      (List.mem_cons_of_mem _ (List.mem_of_mem_filter hy))
termination_by items => items.length
decreasing_by exact Nat.lt_succ_of_le (List.length_filter_le _ _)

/-- One more item counts if it is new. -/
theorem eraseDups_concat (items : List α) (item : α) :
    (items ++ [item]).eraseDups =
      if item ∈ items then items.eraseDups else items.eraseDups ++ [item] := by
  rw [List.eraseDups_append]
  unfold List.removeAll
  by_cases hmem : item ∈ items
  · rw [if_pos hmem, List.filter_cons_of_neg (by simpa using hmem), List.filter_nil,
      List.eraseDups_nil, List.append_nil]
  · rw [if_neg hmem, List.filter_cons_of_pos (by simpa using hmem), List.filter_nil,
      List.eraseDups_cons, List.filter_nil, List.eraseDups_nil]

omit [BEq α] [LawfulBEq α] [BEq β] [LawfulBEq β] in
/-- Lists with the same values are the same if the function tells their items apart. -/
theorem eq_of_map_eq {f : α → β} {items others : List α} (hmap : items.map f = others.map f)
    (h : ∀ x ∈ items, ∀ y ∈ others, f x = f y → x = y) : items = others := by
  induction items generalizing others with
  | nil => exact (List.map_eq_nil_iff.mp hmap.symm).symm
  | cons first rest ih =>
    cases others with
    | nil => exact absurd hmap (List.cons_ne_nil _ _)
    | cons second more =>
      obtain ⟨hfirst, hrest⟩ := List.cons.inj hmap
      have hsame : first = second := h first List.mem_cons_self second List.mem_cons_self hfirst
      have hmore : rest = more := ih hrest fun x hx y hy =>
        h x (List.mem_cons_of_mem _ hx) y (List.mem_cons_of_mem _ hy)
      rw [hsame, hmore]

end Lists

namespace Assoc

variable {α : Type}

/-! ### Lookups -/

theorem get?_cons (name : String) (entry : String × α) (rest : List (String × α)) :
    get? name (entry :: rest) = if entry.1 = name then some entry.2 else get? name rest := by
  unfold get?
  rw [List.find?_cons]
  by_cases h : entry.1 = name
  · rw [if_pos h, beq_iff_eq.mpr h]
    rfl
  · rw [if_neg h, beq_eq_false_iff_ne.mpr h]

/-- The first of two lists is asked first. -/
theorem get?_append (name : String) (front rest : List (String × α)) :
    get? name (front ++ rest) = (get? name front).or (get? name rest) := by
  unfold get?
  rw [List.find?_append]
  cases front.find? fun entry => entry.1 == name with
  | none => rfl
  | some entry => rfl

/-- A lookup fails exactly for the names that are not there. -/
theorem get?_eq_none_iff {name : String} {entries : List (String × α)} :
    get? name entries = none ↔ name ∉ entries.map Prod.fst := by
  induction entries with
  | nil => exact ⟨fun _ => List.not_mem_nil, fun _ => rfl⟩
  | cons entry rest ih =>
    rw [get?_cons, List.map_cons, List.mem_cons, not_or, ← ih]
    by_cases h : entry.1 = name
    · rw [if_pos h]
      exact ⟨fun hsome => absurd hsome (Option.some_ne_none _), fun hne => absurd h.symm hne.1⟩
    · rw [if_neg h]
      exact ⟨fun hnone => ⟨fun heq => h heq.symm, hnone⟩, fun hboth => hboth.2⟩

/-- From behind, a lookup finds the last entry of a name. -/
theorem get?_reverse_eq_some_iff {name : String} {value : α} {entries : List (String × α)} :
    get? name entries.reverse = some value ↔
      ∃ front behind, entries = front ++ (name, value) :: behind ∧
        name ∉ behind.map Prod.fst := by
  constructor
  · intro h
    induction entries with
    | nil => exact absurd h (Option.some_ne_none value).symm
    | cons entry rest ih =>
      rw [List.reverse_cons, get?_append] at h
      cases hrest : get? name rest.reverse with
      | some found =>
        -- the rest has an entry of this name, and its last one is the last of all
        rw [hrest, Option.some_or] at h
        obtain ⟨front, behind, rfl, hbehind⟩ := ih (hrest.trans h)
        exact ⟨entry :: front, behind, rfl, hbehind⟩
      | none =>
        rw [hrest, Option.none_or, get?_cons] at h
        split at h
        · next hname =>
          obtain rfl := Option.some.inj h
          refine ⟨[], rest, ?_, ?_⟩
          · rw [← hname]
            rfl
          · rw [get?_eq_none_iff, List.map_reverse, List.mem_reverse] at hrest
            exact hrest
        · exact absurd h (Option.some_ne_none value).symm
  · rintro ⟨front, behind, rfl, hbehind⟩
    have hnone : get? name behind.reverse = none := by
      rw [get?_eq_none_iff, List.map_reverse, List.mem_reverse]
      exact hbehind
    rw [List.reverse_append, List.reverse_cons, List.append_assoc, get?_append, hnone,
      Option.none_or, List.singleton_append, get?_cons, if_pos rfl]

/-! ### Bindings -/

/-- A binding changes what its name is bound to and nothing else. -/
theorem get?_put (name other : String) (value : α) (entries : List (String × α)) :
    get? other (put name value entries) =
      if name = other then some value else get? other entries := by
  induction entries with
  | nil => exact get?_cons other (name, value) []
  | cons entry rest ih =>
    rw [put]
    by_cases hentry : entry.1 = name
    · -- the name keeps its place
      rw [if_pos hentry, get?_cons, get?_cons, hentry]
      split
      · rfl
      · rfl
    · rw [if_neg hentry, get?_cons, ih, get?_cons]
      by_cases hother : entry.1 = other
      · have hne : ¬name = other := fun h => hentry (hother.trans h.symm)
        rw [if_pos hother, if_neg hne, if_pos hother]
      · rw [if_neg hother, if_neg hother]

/-- A new name goes to the end. -/
theorem names_put (name : String) (value : α) (entries : List (String × α)) :
    (put name value entries).map Prod.fst =
      if name ∈ entries.map Prod.fst then entries.map Prod.fst
      else entries.map Prod.fst ++ [name] := by
  induction entries with
  | nil => rfl
  | cons entry rest ih =>
    rw [put]
    by_cases hentry : entry.1 = name
    · rw [if_pos hentry, List.map_cons, List.map_cons, ← hentry, if_pos List.mem_cons_self]
    · have hmem : name ∈ (entry :: rest).map Prod.fst ↔ name ∈ rest.map Prod.fst := by
        rw [List.map_cons, List.mem_cons]
        exact or_iff_right fun h => hentry h.symm
      rw [if_neg hentry, List.map_cons, ih]
      by_cases hrest : name ∈ rest.map Prod.fst
      · rw [if_pos hrest, if_pos (hmem.mpr hrest), List.map_cons]
      · rw [if_neg hrest, if_neg fun h => hrest (hmem.mp h), List.map_cons, List.cons_append]

/-- A new name goes to the end, and nothing else changes. -/
theorem put_of_not_mem {name : String} {value : α} {entries : List (String × α)}
    (h : name ∉ entries.map Prod.fst) : put name value entries = entries ++ [(name, value)] := by
  induction entries with
  | nil => rfl
  | cons entry rest ih =>
    rw [List.map_cons, List.mem_cons, not_or] at h
    rw [put, if_neg fun hname => h.1 hname.symm, ih h.2, List.cons_append]

/-! ### Filling from a list -/

theorem ofList_concat (entries : List (String × α)) (entry : String × α) :
    ofList (entries ++ [entry]) = put entry.1 entry.2 (ofList entries) := by
  unfold ofList
  rw [List.foldl_concat]

/-- **Each name stands where it came first.** -/
theorem names_ofList (entries : List (String × α)) :
    (ofList entries).map Prod.fst = (entries.map Prod.fst).eraseDups := by
  induction entries using List.reverseRecOn with
  | nil => rfl
  | append_singleton entries entry ih =>
    rw [ofList_concat, names_put, ih, List.map_append, List.map_singleton, eraseDups_concat]
    simp only [List.mem_eraseDups]

theorem nodup_names_ofList (entries : List (String × α)) :
    ((ofList entries).map Prod.fst).Nodup := by
  rw [names_ofList]
  exact nodup_eraseDups _

/-- **Each name is bound as its last entry says.** -/
theorem get?_ofList (name : String) (entries : List (String × α)) :
    get? name (ofList entries) = get? name entries.reverse := by
  induction entries using List.reverseRecOn with
  | nil => rfl
  | append_singleton entries entry ih =>
    rw [ofList_concat, get?_put, ih, List.reverse_append, List.reverse_singleton,
      List.singleton_append, get?_cons]

/-- In a list that names each name once, every entry is found. -/
theorem get?_of_mem {entries : List (String × α)} (hnodup : (entries.map Prod.fst).Nodup)
    {entry : String × α} (h : entry ∈ entries) : get? entry.1 entries = some entry.2 := by
  induction entries with
  | nil => exact absurd h List.not_mem_nil
  | cons first rest ih =>
    rw [List.map_cons, List.nodup_cons] at hnodup
    rw [get?_cons]
    rcases List.mem_cons.mp h with rfl | hrest
    · rw [if_pos rfl]
    · have hne : ¬first.1 = entry.1 := fun heq =>
        hnodup.1 (heq ▸ List.mem_map_of_mem hrest)
      rw [if_neg hne, ih hnodup.2 hrest]

/-- Entries that name each name once are kept as they are. -/
theorem ofList_of_nodup {entries : List (String × α)} (h : (entries.map Prod.fst).Nodup) :
    ofList entries = entries := by
  induction entries using List.reverseRecOn with
  | nil => rfl
  | append_singleton entries entry ih =>
    rw [List.map_append, List.map_singleton, List.nodup_append] at h
    have hnew : entry.1 ∉ entries.map Prod.fst := fun hmem =>
      h.2.2 entry.1 hmem entry.1 List.mem_cons_self rfl
    rw [ofList_concat, ih h.1, put_of_not_mem hnew]

/-- What stands in the filled list is the last entry of its name. -/
theorem exists_last_of_mem_ofList {entries : List (String × α)} {entry : String × α}
    (h : entry ∈ ofList entries) :
    ∃ front behind, entries = front ++ entry :: behind ∧ entry.1 ∉ behind.map Prod.fst := by
  have hfound := get?_of_mem (nodup_names_ofList entries) h
  rw [get?_ofList, get?_reverse_eq_some_iff] at hfound
  exact hfound

end Assoc

end DartSource
