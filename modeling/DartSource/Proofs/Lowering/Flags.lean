import DartSource.Lowering.Flags
import Mathlib.Data.List.Nodup

/-!
# Keywords of records as sets

A record that passes the check of its keywords has each of them once, and only such as its kind
accepts (`Acceptance.check_eq_ok_iff`). Its list of keywords is then settled, up to order, by which
of the accepted keywords are in it. That is what a node keeps of them as its flags, so the flags of
a node settle the keywords of its record up to order (`Acceptance.Spells.perm`).

The keywords that limit the use of a type share one place in a node. At most one of them passes
(`Lowering.limit?_eq_ok_iff`), so nothing is lost there either.
-/

namespace DartSource

open Record (Modifier)

namespace Acceptance

/-- The keywords are accepted and none of them is repeated. -/
structure Admits (acceptance : Acceptance) (modifiers : List Modifier) : Prop where
  nodup : modifiers.Nodup
  accepted : ∀ modifier ∈ modifiers, modifier ∈ acceptance.modifiers

/-- The check from the middle of a list on: the rest is accepted, has no repetition and repeats
nothing that came before. -/
theorem misuseAfter?_eq_none_iff (acceptance : Acceptance) (seen modifiers : List Modifier) :
    acceptance.misuseAfter? seen modifiers = none ↔
      acceptance.Admits modifiers ∧ ∀ modifier ∈ modifiers, modifier ∉ seen := by
  induction modifiers generalizing seen with
  | nil =>
    refine ⟨fun _ => ⟨⟨List.nodup_nil, ?_⟩, ?_⟩, fun _ => rfl⟩ <;>
      exact fun _ h => absurd h List.not_mem_nil
  | cons modifier rest ih =>
    rw [misuseAfter?]
    by_cases haccepted : modifier ∉ acceptance.modifiers
    · -- refused as a keyword of another kind
      rw [if_pos haccepted]
      refine ⟨fun h => absurd h (by simp), fun h => ?_⟩
      exact absurd (h.1.accepted modifier List.mem_cons_self) haccepted
    rw [if_neg haccepted]
    by_cases hseen : modifier ∈ seen
    · -- refused as a repetition
      rw [if_pos hseen]
      refine ⟨fun h => absurd h (by simp), fun h => ?_⟩
      exact absurd hseen (h.2 modifier List.mem_cons_self)
    rw [if_neg hseen, ih]
    constructor
    · rintro ⟨⟨hnodup, hall⟩, hnew⟩
      -- the keyword counts as seen for the rest, so the rest does not repeat it
      have hnotin : modifier ∉ rest := fun h => hnew modifier h (by simp)
      refine ⟨⟨List.nodup_cons.mpr ⟨hnotin, hnodup⟩, ?_⟩, ?_⟩
      · exact List.forall_mem_cons.mpr ⟨not_not.mp haccepted, hall⟩
      · refine List.forall_mem_cons.mpr ⟨hseen, fun m hm h => hnew m hm ?_⟩
        exact List.mem_append_left _ h
    · rintro ⟨⟨hnodup, hall⟩, hnew⟩
      rw [List.nodup_cons] at hnodup
      refine ⟨⟨hnodup.2, fun m hm => hall m (List.mem_cons_of_mem _ hm)⟩, fun m hm h => ?_⟩
      rcases List.mem_append.mp h with h | h
      · exact hnew m (List.mem_cons_of_mem _ hm) h
      · obtain rfl := List.mem_singleton.mp h
        exact hnodup.1 hm

/-- **The check decides admission.** Where it is made does not matter. -/
theorem check_eq_ok_iff {acceptance : Acceptance} {path : RecordPath} {modifiers : List Modifier} :
    acceptance.check path modifiers = .ok () ↔ acceptance.Admits modifiers := by
  have hnone := acceptance.misuseAfter?_eq_none_iff [] modifiers
  unfold check
  cases hm : acceptance.misuseAfter? [] modifiers with
  | none =>
    rw [hm] at hnone
    exact ⟨fun _ => (hnone.mp rfl).1, fun _ => rfl⟩
  | some cause =>
    rw [hm] at hnone
    refine ⟨fun h => absurd h (by simp), fun h => ?_⟩
    exact absurd (hnone.mpr ⟨h, fun _ _ => List.not_mem_nil⟩) (by simp)

/-- Admission does not depend on the order of the keywords. -/
theorem Admits.of_perm {acceptance : Acceptance} {modifiers others : List Modifier}
    (h : acceptance.Admits modifiers) (hperm : modifiers.Perm others) :
    acceptance.Admits others where
  nodup := hperm.nodup_iff.mp h.nodup
  accepted := fun modifier hm => h.accepted modifier (hperm.mem_iff.mpr hm)

/-! ### Keywords and flags

A node has one flag for each keyword that its record may have. The two sides agree when exactly the
keywords of the set flags are given. -/

/-- The keywords whose flags are set. -/
def spelled (flags : List (Modifier × Bool)) : List Modifier :=
  (flags.filter Prod.snd).map Prod.fst

/-- Admitted keywords that say the same as the flags of a node. -/
structure Spells (acceptance : Acceptance) (modifiers : List Modifier)
    (flags : List (Modifier × Bool)) : Prop where
  admits : acceptance.Admits modifiers
  set_iff : ∀ flag ∈ flags, flag.2 = true ↔ flag.1 ∈ modifiers

section Spells

variable {acceptance : Acceptance} {modifiers others : List Modifier}
  {flags : List (Modifier × Bool)}

/-- A flag can be computed from the keywords. -/
theorem Spells.decide_eq (h : acceptance.Spells modifiers flags) {modifier : Modifier} {set : Bool}
    (hflag : (modifier, set) ∈ flags) : decide (modifier ∈ modifiers) = set := by
  have hset : set = true ↔ modifier ∈ modifiers := h.set_iff (modifier, set) hflag
  rw [Bool.eq_iff_iff, decide_eq_true_iff]
  exact hset.symm

/-- The order of the keywords does not matter. -/
theorem Spells.of_perm (h : acceptance.Spells modifiers flags) (hperm : modifiers.Perm others) :
    acceptance.Spells others flags where
  admits := h.admits.of_perm hperm
  set_iff := fun flag hflag => (h.set_iff flag hflag).trans hperm.mem_iff

/-- **Flags settle the keywords up to order**, provided there is a flag for every keyword. -/
theorem Spells.perm (h : acceptance.Spells modifiers flags) (h' : acceptance.Spells others flags)
    (hcover : flags.map Prod.fst = acceptance.modifiers) : modifiers.Perm others := by
  have hmem : ∀ modifier ∈ acceptance.modifiers, modifier ∈ modifiers ↔ modifier ∈ others := by
    intro modifier hm
    rw [← hcover] at hm
    obtain ⟨flag, hflag, rfl⟩ := List.mem_map.mp hm
    exact (h.set_iff flag hflag).symm.trans (h'.set_iff flag hflag)
  -- without repetitions, lists with the same members are the same up to order
  refine (List.perm_ext_iff_of_nodup h.admits.nodup h'.admits.nodup).mpr fun modifier => ?_
  constructor
  · exact fun hm => (hmem modifier (h.admits.accepted modifier hm)).mp hm
  · exact fun hm => (hmem modifier (h'.admits.accepted modifier hm)).mpr hm

/-- The keywords of the set flags say what the flags say. -/
theorem spells_spelled (hcover : flags.map Prod.fst = acceptance.modifiers)
    (hnodup : acceptance.modifiers.Nodup) : acceptance.Spells (spelled flags) flags := by
  rw [← hcover] at hnodup
  refine ⟨⟨hnodup.sublist (List.filter_sublist.map _), ?_⟩, fun flag hflag => ?_⟩
  · intro modifier hm
    rw [← hcover]
    exact (List.filter_sublist.map Prod.fst).subset hm
  · constructor
    · exact fun hset => List.mem_map.mpr ⟨flag, List.mem_filter.mpr ⟨hflag, hset⟩, rfl⟩
    · intro hm
      obtain ⟨other, hother, heq⟩ := List.mem_map.mp hm
      rw [List.mem_filter] at hother
      -- each keyword has one flag, so the set flag that was found is this one
      obtain rfl := List.inj_on_of_nodup_map hnodup hother.1 hflag heq
      exact hother.2

end Spells

end Acceptance

namespace Lowering

/-- **At most one limit passes**, and it is the one that the node gets: a limiting keyword is given
exactly when the node has it. -/
theorem limit?_eq_ok_iff {path : RecordPath} {modifiers : List Modifier}
    {limit : Option ClassModifier} :
    limit? path modifiers = .ok limit ↔
      ∀ entry ∈ limits, limit = some entry.2 ↔ entry.1 ∈ modifiers := by
  unfold limit? limits
  -- which of the four keywords are given settles both sides
  by_cases hbase : Modifier.base ∈ modifiers <;>
  by_cases hinterface : Modifier.interface ∈ modifiers <;>
  by_cases hfinal : Modifier.final ∈ modifiers <;>
  by_cases hsealed : Modifier.sealed ∈ modifiers <;>
  simp [hbase, hinterface, hfinal, hsealed] <;>
  rcases limit with - | - | - | - | - <;> simp

end Lowering

end DartSource
