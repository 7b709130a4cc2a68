import DartSource.Location.Uri
import DartSource.Proofs.Location.Segments
import Mathlib.Data.List.Basic

/-!
# Where relative paths lead

The path from a file to a target climbs out of what the file's directory does not share with the
target and goes down from there. Whether it arrives depends on one thing alone: the part to climb
out of must have no climbs of its own, since nothing takes a climb back.

That it arrives otherwise is `segmentChars_way`. Here is the other direction. Segments are a run of
climbs followed by ordinary components (`Settled.exists_climbs`). If the directory's own part has a
climb, then what is shared is climbs only, the target has no more climbs than that, and each step
out of the directory's own climbs adds one more. So the path ends at a place with more climbs than
the target has (`foldl_push_way_ne`).
-/

namespace DartSource.Path

/-! ### Climbs in front -/

/-- Segments are climbs in front and ordinary components behind. -/
theorem Settled.exists_climbs {parts : List (List Char)} (h : Settled parts.reverse) :
    ∃ n tops, parts = List.replicate n up ++ tops ∧ ∀ part ∈ tops, Ordinary part := by
  suffices hstack : ∀ stack, Settled stack →
      ∃ n, ∃ tops : List (List Char),
        stack = tops.reverse ++ List.replicate n up ∧ ∀ part ∈ tops, Ordinary part by
    obtain ⟨n, tops, hparts, htops⟩ := hstack parts.reverse h
    refine ⟨n, tops, ?_, htops⟩
    rw [← List.reverse_reverse parts, hparts, List.reverse_append, List.reverse_replicate,
      List.reverse_reverse]
  intro stack h
  induction h with
  | nil => exact ⟨0, [], rfl, fun part hpart => absurd hpart List.not_mem_nil⟩
  | @ordinary part stack hpart _ ih =>
    obtain ⟨n, tops, rfl, htops⟩ := ih
    refine ⟨n, tops ++ [part], ?_, List.forall_mem_append.mpr ⟨htops, ?_⟩⟩
    · rw [List.reverse_append, List.reverse_singleton, List.append_assoc, List.singleton_append]
    · exact List.forall_mem_singleton.mpr hpart
  | @climb stack hall =>
    refine ⟨stack.length + 1, [], ?_, fun part hpart => absurd hpart List.not_mem_nil⟩
    rw [List.reverse_nil, List.nil_append, List.replicate_succ,
      ← List.eq_replicate_of_mem hall]

/-- Climbs pile up on climbs. -/
theorem foldl_push_replicate_up (m n : Nat) :
    (List.replicate m up).foldl push (List.replicate n up) = List.replicate (m + n) up := by
  induction m generalizing n with
  | zero => rw [Nat.zero_add]; rfl
  | succ m ih =>
    have hall : ∀ part ∈ List.replicate n up, part = up :=
      fun part hpart => (List.mem_replicate.mp hpart).2
    rw [List.replicate_succ, List.foldl_cons, push_up_of_all_up hall, ← List.replicate_succ, ih,
      Nat.succ_add_eq_add_succ]

theorem foldl_push_ordinary {parts : List (List Char)} (h : ∀ part ∈ parts, Ordinary part)
    (stack : List (List Char)) : parts.foldl push stack = parts.reverse ++ stack := by
  induction parts generalizing stack with
  | nil => rfl
  | cons part parts ih =>
    obtain ⟨hpart, hparts⟩ := List.forall_mem_cons.mp h
    rw [List.foldl_cons, push_ordinary hpart, ih hparts, List.reverse_cons, List.append_assoc,
      List.singleton_append]

theorem up_notMem_of_ordinary {parts : List (List Char)} (h : ∀ part ∈ parts, Ordinary part) :
    up ∉ parts :=
  fun hmem => (h up hmem).ne_up rfl

/-! ### What is shared -/

/-- The length of the longest beginning that two lists of segments share. -/
structure SharedLength (target base : List (List Char)) (shared : Nat) : Prop where
  reached : ∃ front, front <+: target ∧ front <+: base ∧ front.length = shared
  longest : ∀ front, front <+: target → front <+: base → front.length ≤ shared

theorem sharedLength_commonLength (target base : List (List Char)) :
    SharedLength target base (commonLength target base) := by
  fun_induction commonLength target base with
  | case1 target part base ih =>
    obtain ⟨front, htarget, hbase, hlength⟩ := ih.reached
    refine ⟨⟨part :: front, ?_, ?_, congrArg (· + 1) hlength⟩, fun front htarget hbase => ?_⟩
    · exact List.prefix_cons_inj part |>.mpr htarget
    · exact List.prefix_cons_inj part |>.mpr hbase
    · cases front with
      | nil => exact Nat.zero_le _
      | cons first front =>
        rw [List.cons_prefix_cons] at htarget hbase
        exact Nat.succ_le_succ (ih.longest front htarget.2 hbase.2)
  | case2 part target other base hne =>
    refine ⟨⟨[], List.nil_prefix, List.nil_prefix, rfl⟩, fun front htarget hbase => ?_⟩
    cases front with
    | nil => exact Nat.le_refl 0
    | cons first front =>
      rw [List.cons_prefix_cons] at htarget hbase
      exact absurd (htarget.1.symm.trans hbase.1) hne
  | case3 target base hnone =>
    refine ⟨⟨[], List.nil_prefix, List.nil_prefix, rfl⟩, fun front htarget hbase => ?_⟩
    cases front with
    | nil => exact Nat.le_refl 0
    | cons first front =>
      obtain ⟨more, rfl⟩ := htarget
      obtain ⟨other, rfl⟩ := hbase
      exact absurd rfl (hnone first (front ++ more) first (front ++ other) rfl)

/-! ### Ways that go astray -/

section Climbs

variable {n m : Nat} {tops goal : List (List Char)}

theorem replicate_up_isPrefix (h : m ≤ n) (rest : List (List Char)) :
    List.replicate m up <+: List.replicate n up ++ rest := by
  refine ⟨List.replicate (n - m) up ++ rest, ?_⟩
  rw [← List.append_assoc, List.replicate_append_replicate, Nat.add_sub_cancel' h]

/-- Behind the climbs there are ordinary components only. -/
theorem drop_climbs {shared : Nat} (h : n ≤ shared) :
    (List.replicate n up ++ tops).drop shared = tops.drop (shared - n) := by
  rw [List.drop_append, List.drop_replicate, Nat.sub_eq_zero_of_le h, List.replicate_zero,
    List.nil_append, List.length_replicate]

/-- A climb outside of what is shared means that the target has no climbs but shared ones. -/
theorem climbs_of_up_mem_drop {shared : Nat}
    (hshared : SharedLength (List.replicate m up ++ goal) (List.replicate n up ++ tops) shared)
    (htops : ∀ part ∈ tops, Ordinary part)
    (hown : up ∈ (List.replicate n up ++ tops).drop shared) : m ≤ shared ∧ shared < n := by
  have hn : shared < n := by
    by_contra hle
    rw [drop_climbs (Nat.le_of_not_lt hle)] at hown
    exact up_notMem_of_ordinary htops (List.mem_of_mem_drop hown)
  have hcommon := hshared.longest (List.replicate (min m n) up)
    (replicate_up_isPrefix (Nat.min_le_left m n) goal)
    (replicate_up_isPrefix (Nat.min_le_right m n) tops)
  rw [List.length_replicate] at hcommon
  omega

/-- Where a way leads that climbs out of climbs: every climb that it was to undo is doubled. -/
theorem foldl_push_way_of_climbs {shared : Nat} (htops : ∀ part ∈ tops, Ordinary part)
    (hgoal : ∀ part ∈ goal, Ordinary part) (hm : m ≤ shared) (hn : shared ≤ n) :
    (List.replicate n up ++ tops ++
        (List.replicate ((List.replicate n up ++ tops).length - shared) up ++
          (List.replicate m up ++ goal).drop shared)).foldl push [] =
      (goal.drop (shared - m)).reverse ++ List.replicate (n - shared + n) up := by
  have hsteps : (List.replicate n up ++ tops).length - shared =
      tops.reverse.length + (n - shared) := by
    rw [List.length_append, List.length_replicate, List.length_reverse]
    omega
  have hdown : (List.replicate n up).foldl push [] = List.replicate n up :=
    foldl_push_replicate_up n 0
  have hback : up ∉ tops.reverse := by
    rw [List.mem_reverse]
    exact up_notMem_of_ordinary htops
  have hrest : ∀ part ∈ goal.drop (shared - m), Ordinary part :=
    fun part hpart => hgoal part (List.mem_of_mem_drop hpart)
  rw [drop_climbs hm, hsteps, List.replicate_add]
  simp only [List.foldl_append]
  -- the ordinary components are taken back, the climbs are not
  rw [hdown, foldl_push_ordinary htops, foldl_push_climbs hback, foldl_push_replicate_up,
    foldl_push_ordinary hrest]

end Climbs

/-- **A way that has to climb out of a climb leads elsewhere.** -/
theorem foldl_push_way_ne {target base : List (List Char)} (htarget : Settled target.reverse)
    (hbase : Settled base.reverse) (hown : up ∈ base.drop (commonLength target base)) :
    (base ++ wayChars target base).foldl push [] ≠ target.reverse := by
  have hshared := sharedLength_commonLength target base
  simp only [wayChars]
  generalize commonLength target base = shared at hown hshared ⊢
  obtain ⟨n, tops, rfl, htops⟩ := hbase.exists_climbs
  obtain ⟨m, goal, rfl, hgoal⟩ := htarget.exists_climbs
  obtain ⟨hm, hn⟩ := climbs_of_up_mem_drop hshared htops hown
  rw [foldl_push_way_of_climbs htops hgoal hm (Nat.le_of_lt hn)]
  intro heq
  -- the two places differ in the number of their climbs
  have hgoalUp : up ∉ goal := up_notMem_of_ordinary hgoal
  have hrestUp : up ∉ goal.drop (shared - m) := fun hmem => hgoalUp (List.mem_of_mem_drop hmem)
  have hcount := congrArg (List.count up) heq
  rw [List.reverse_append, List.reverse_replicate, List.count_append, List.count_append,
    List.count_reverse, List.count_reverse, List.count_replicate_self, List.count_replicate_self,
    List.count_eq_zero_of_not_mem hgoalUp, List.count_eq_zero_of_not_mem hrestUp] at hcount
  omega

/-- A way leads to its target exactly when the directory's own part has no climbs. -/
theorem segmentChars_way_iff {target base : List (List Char)} (htarget : Settled target.reverse)
    (hbase : Settled base.reverse) :
    segmentChars (joinChars base ++ '/' :: joinChars (wayChars target base)) = target ↔
      up ∉ base.drop (commonLength target base) := by
  refine ⟨fun h hown => foldl_push_way_ne htarget hbase hown ?_, segmentChars_way htarget hbase⟩
  rw [segmentChars_walk htarget hbase] at h
  exact List.reverse_eq_iff.mp h

/-- Climbs behind a place in a list, by their index. -/
theorem up_notMem_drop_iff {parts : List (List Char)} {n : Nat} :
    up ∉ parts.drop n ↔ ∀ i, n ≤ i → parts[i]? ≠ some up := by
  rw [List.mem_iff_getElem?, not_exists]
  refine ⟨fun h i hi hup => h (i - n) ?_, fun h i hup => h (n + i) (Nat.le_add_right n i) ?_⟩
  · rw [List.getElem?_drop, Nat.add_sub_cancel' hi]
    exact hup
  · rw [← List.getElem?_drop]
    exact hup

end DartSource.Path

namespace DartSource

/-- **A relative reference leads to its target exactly when it has no climb to take back.** The
reference is read from the directory of the file that holds it. The directory and the target begin
with the same segments up to some place and with no more; behind that place the directory must have
no climbs. So a reference from a file that does not climb always leads to its target. -/
theorem Uri.between_leads_iff (target origin : String) :
    let goal := Path.segments (Path.normalize target)
    let base := (Path.segments (Path.normalize origin)).dropLast
    let shared := Path.commonLength goal base
    Path.SharedLength goal base shared ∧
      (Path.segmentsFrom (Path.normalize origin) (Uri.between target origin).text = goal ↔
        ∀ i, shared ≤ i → base[i]? ≠ some Path.up) ∧
      (Path.up ∉ base →
        Path.segmentsFrom (Path.normalize origin) (Uri.between target origin).text = goal) := by
  intro goal base shared
  have hbase : Path.Settled base.reverse := by
    rw [← List.tail_reverse]
    exact (Path.settled_segmentChars _).tail
  have hread : Path.segmentsFrom (Path.normalize origin) (Uri.between target origin).text =
      Path.segmentChars (Path.joinChars base ++ '/' ::
        Path.joinChars (Path.wayChars goal base)) := by
    unfold Path.segmentsFrom Uri.between Uri.text Path.relative
    rw [String.toList_ofList]
    rfl
  have hgoal : Path.Settled goal.reverse := Path.settled_segmentChars _
  have hleads := Path.segmentChars_way_iff hgoal hbase
  rw [hread]
  refine ⟨Path.sharedLength_commonLength goal base, hleads.trans Path.up_notMem_drop_iff, ?_⟩
  exact fun h => hleads.mpr fun hmem => h (List.mem_of_mem_drop hmem)

/-- From a file beside the target's directory the reference leads to the target. From a file
outside of the root it leads there only if the target is outside too. -/
theorem Uri.between_leads_iff_outside :
    (Path.up ∉ (Path.segments (Path.normalize "bin/main.dart")).dropLast ∧
      Path.segmentsFrom (Path.normalize "bin/main.dart")
        (Uri.between "lib\\a.dart" "bin/main.dart").text = Path.segments "lib/a.dart") ∧
    Path.segmentsFrom "../bin/main.dart" (Uri.between "../lib/a.dart" "../bin/main.dart").text =
      Path.segments "../lib/a.dart" ∧
    Path.segmentsFrom "../bin/main.dart" (Uri.between "lib/a.dart" "../bin/main.dart").text ≠
      Path.segments "lib/a.dart" := by
  have hinside : Path.up ∉ (Path.segments (Path.normalize "bin/main.dart")).dropLast := by
    decide +kernel
  refine ⟨⟨hinside, ?_⟩, ?_, fun h => ?_⟩
  · exact (Uri.between_leads_iff "lib\\a.dart" "bin/main.dart").2.2 hinside
  · exact (Uri.between_leads_iff "../lib/a.dart" "../bin/main.dart").2.1.mpr
      (Path.up_notMem_drop_iff.mp (by decide +kernel))
  · have hup := (Uri.between_leads_iff "lib/a.dart" "../bin/main.dart").2.1.mp h
    exact Path.up_notMem_drop_iff.mpr hup (by decide +kernel)

end DartSource
