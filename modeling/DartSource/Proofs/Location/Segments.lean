import DartSource.Location.Path
import Mathlib.Data.List.Basic

/-!
# Segments of paths

The segments of a path are found with a stack: ordinary components are put on it, and a climb takes
one off again or, where there is none to take, stays. The stacks that arise are **settled**: climbs
stand only at the bottom. Pushing a component on a settled stack leaves a settled one
(`Settled.push`), and pushing the components of a settled stack again, from the bottom up, gives the
same stack back (`Settled.foldl_eq`). So segments are a normal form: reading them once more as a
path changes nothing.

The main result is about ways from a directory to a target. A way climbs out of what the directory
has of its own and then follows the target, and walking it from the directory ends at the target as
long as the part to climb out of has no climbs itself (`foldl_push_way`).
-/

namespace DartSource.Path

/-- A component that names a file or directory. -/
structure Ordinary (part : List Char) : Prop where
  ne_nil : part ≠ []
  ne_dot : part ≠ ['.']
  ne_up : part ≠ up
  slash_notMem : '/' ∉ part

/-- Stacks of segments, the last one on top: a climb has nothing but climbs below it. -/
inductive Settled : List (List Char) → Prop where
  | nil : Settled []
  | ordinary {part : List Char} {stack : List (List Char)} (hpart : Ordinary part)
      (hstack : Settled stack) : Settled (part :: stack)
  | climb {stack : List (List Char)} (hall : ∀ part ∈ stack, part = up) : Settled (up :: stack)

/-! ### One component -/

theorem push_skip {part : List Char} (h : part = [] ∨ part = ['.']) (stack : List (List Char)) :
    push stack part = stack := by
  unfold push
  rw [if_pos h]

theorem push_ordinary {part : List Char} (h : Ordinary part) (stack : List (List Char)) :
    push stack part = part :: stack := by
  unfold push
  rw [if_neg (by rintro (hnil | hdot); exacts [h.ne_nil hnil, h.ne_dot hdot]), if_neg h.ne_up]

/-- A climb takes back the component before it. -/
theorem push_up_cons {top : List Char} (h : top ≠ up) (stack : List (List Char)) :
    push (top :: stack) up = stack := by
  unfold push
  rw [if_neg (by decide), if_pos rfl]
  exact if_neg h

/-- A climb on a climb stays. -/
theorem push_up_up (stack : List (List Char)) : push (up :: stack) up = up :: up :: stack := by
  unfold push
  rw [if_neg (by decide), if_pos rfl]
  exact if_pos rfl

/-- A climb that has nothing to take back stays. -/
theorem push_up_of_all_up {stack : List (List Char)} (h : ∀ part ∈ stack, part = up) :
    push stack up = up :: stack := by
  cases stack with
  | nil => rfl
  | cons top rest =>
    rw [h top List.mem_cons_self]
    exact push_up_up rest

namespace Settled

variable {part : List Char} {stack front rest : List (List Char)}

theorem tail (h : Settled stack) : Settled stack.tail := by
  cases h with
  | nil => exact .nil
  | ordinary _ hstack => exact hstack
  | @climb below hall =>
    cases below with
    | nil => exact .nil
    | cons top more =>
      obtain ⟨rfl, hmore⟩ := List.forall_mem_cons.mp hall
      exact .climb hmore

/-- The lower part of a settled stack is settled. -/
theorem of_append (h : Settled (front ++ rest)) : Settled rest := by
  induction front with
  | nil => exact h
  | cons part front ih => exact ih h.tail

theorem slash_notMem (h : Settled stack) : ∀ part ∈ stack, '/' ∉ part := by
  induction h with
  | nil => exact fun part hpart => absurd hpart List.not_mem_nil
  | ordinary hpart _ ih => exact List.forall_mem_cons.mpr ⟨hpart.slash_notMem, ih⟩
  | climb hall =>
    refine List.forall_mem_cons.mpr ⟨by decide, fun part hpart => ?_⟩
    rw [hall part hpart]
    decide

/-- One step: pushing a component keeps a stack settled. -/
theorem push (h : Settled stack) (hpart : '/' ∉ part) : Settled (Path.push stack part) := by
  by_cases hskip : part = [] ∨ part = ['.']
  · rw [push_skip hskip]
    exact h
  · obtain ⟨hnil, hdot⟩ := not_or.mp hskip
    by_cases hup : part = up
    · subst hup
      cases h with
      | nil =>
        rw [push_up_of_all_up (fun part hmem => absurd hmem List.not_mem_nil)]
        exact .climb fun part hmem => absurd hmem List.not_mem_nil
      | ordinary htop hstack =>
        -- the climb takes back an ordinary component
        rw [push_up_cons htop.ne_up]
        exact hstack
      | climb hall =>
        -- there is nothing to take back
        rw [push_up_up]
        exact .climb (List.forall_mem_cons.mpr ⟨rfl, hall⟩)
    · have hordinary : Ordinary part := ⟨hnil, hdot, hup, hpart⟩
      rw [push_ordinary hordinary]
      exact .ordinary hordinary h

/-- A component of a settled stack stands where pushing it puts it. -/
theorem push_eq_cons (h : Settled (part :: stack)) : Path.push stack part = part :: stack := by
  cases h with
  | ordinary hpart _ => exact push_ordinary hpart stack
  | climb hall => exact push_up_of_all_up hall

/-- A whole run: pushing the components of a settled stack gives that stack. -/
theorem foldl_eq {parts : List (List Char)} (h : Settled (parts.reverse ++ stack)) :
    parts.foldl Path.push stack = parts.reverse ++ stack := by
  induction parts generalizing stack with
  | nil => rfl
  | cons part parts ih =>
    rw [List.reverse_cons, List.append_assoc, List.singleton_append] at h ⊢
    -- the component lands where it stands in the settled stack, and the rest goes on from there
    rw [List.foldl_cons, h.of_append.push_eq_cons]
    exact ih h

end Settled

/-- Any run leaves a settled stack. -/
theorem settled_foldl_push {parts stack : List (List Char)} (hstack : Settled stack)
    (hparts : ∀ part ∈ parts, '/' ∉ part) : Settled (parts.foldl push stack) :=
  List.foldlRecOn parts push hstack fun _ h part hpart => h.push (hparts part hpart)

/-- Nothing gets on a stack but what was pushed. -/
theorem mem_of_mem_push {part other : List Char} {stack : List (List Char)}
    (h : other ∈ push stack part) : other ∈ stack ∨ other = part := by
  by_cases hskip : part = [] ∨ part = ['.']
  · rw [push_skip hskip] at h
    exact .inl h
  · by_cases hup : part = up
    · subst hup
      cases stack with
      | nil => exact .inr (List.mem_singleton.mp h)
      | cons top rest =>
        by_cases htop : top = up
        · subst htop
          rw [push_up_up] at h
          exact (List.mem_cons.mp h).symm
        · rw [push_up_cons htop] at h
          exact .inl (List.mem_cons_of_mem top h)
    · unfold push at h
      rw [if_neg hskip, if_neg hup] at h
      exact (List.mem_cons.mp h).symm

theorem mem_of_mem_foldl_push {parts stack : List (List Char)} {other : List Char}
    (h : other ∈ parts.foldl push stack) : other ∈ stack ∨ other ∈ parts := by
  induction parts generalizing stack with
  | nil => exact .inl h
  | cons part parts ih =>
    rcases ih h with h | h
    · rcases mem_of_mem_push h with h | rfl
      · exact .inl h
      · exact .inr List.mem_cons_self
    · exact .inr (List.mem_cons_of_mem part h)

/-! ### Splitting and joining -/

theorem splitChars_ne_nil (cs : List Char) : splitChars cs ≠ [] := by
  cases cs with
  | nil => exact List.cons_ne_nil _ _
  | cons c rest =>
    unfold splitChars
    split
    · exact List.cons_ne_nil _ _
    · split <;> exact List.cons_ne_nil _ _

theorem splitChars_slash (rest : List Char) : splitChars ('/' :: rest) = [] :: splitChars rest := by
  rw [splitChars, if_pos rfl]

/-- A character that is no slash belongs to the first component. -/
theorem splitChars_cons {c : Char} (hc : c ≠ '/') {rest part : List Char}
    {more : List (List Char)} (h : splitChars rest = part :: more) :
    splitChars (c :: rest) = (c :: part) :: more := by
  rw [splitChars, if_neg hc, h]

/-- A slash ends a component. -/
theorem splitChars_append (front rest : List Char) :
    splitChars (front ++ '/' :: rest) = splitChars front ++ splitChars rest := by
  induction front with
  | nil => exact splitChars_slash rest
  | cons c front ih =>
    by_cases hc : c = '/'
    · subst hc
      rw [List.cons_append, splitChars_slash, splitChars_slash, ih, List.cons_append]
    · -- the character joins the first component of what follows
      obtain ⟨part, more, hsplit⟩ := List.exists_cons_of_ne_nil (splitChars_ne_nil front)
      rw [hsplit, List.cons_append] at ih
      rw [List.cons_append, splitChars_cons hc ih, splitChars_cons hc hsplit, List.cons_append]

theorem slash_notMem_of_mem_splitChars (cs : List Char) : ∀ part ∈ splitChars cs, '/' ∉ part := by
  induction cs with
  | nil => exact List.forall_mem_singleton.mpr List.not_mem_nil
  | cons c rest ih =>
    by_cases hc : c = '/'
    · subst hc
      rw [splitChars_slash]
      exact List.forall_mem_cons.mpr ⟨List.not_mem_nil, ih⟩
    · obtain ⟨part, more, hsplit⟩ := List.exists_cons_of_ne_nil (splitChars_ne_nil rest)
      rw [hsplit, List.forall_mem_cons] at ih
      rw [splitChars_cons hc hsplit, List.forall_mem_cons]
      refine ⟨fun hmem => ?_, ih.2⟩
      rcases List.mem_cons.mp hmem with hmem | hmem
      · exact hc hmem.symm
      · exact ih.1 hmem

theorem splitChars_of_slash_notMem {part : List Char} (h : '/' ∉ part) :
    splitChars part = [part] := by
  induction part with
  | nil => rfl
  | cons c rest ih =>
    rw [List.mem_cons, not_or] at h
    exact splitChars_cons (Ne.symm h.1) (ih h.2)

/-- Components that are joined and split again are pushed as they were; only the empty list comes
back as an empty component, which says nothing. -/
theorem foldl_push_joinChars {parts : List (List Char)} (h : ∀ part ∈ parts, '/' ∉ part)
    (stack : List (List Char)) :
    (splitChars (joinChars parts)).foldl push stack = parts.foldl push stack := by
  induction parts generalizing stack with
  | nil => exact push_skip (.inl rfl) stack
  | cons part more ih =>
    obtain ⟨hpart, hmore⟩ := List.forall_mem_cons.mp h
    cases more with
    | nil =>
      rw [joinChars, splitChars_of_slash_notMem hpart]
    | cons second rest =>
      rw [joinChars, splitChars_append, splitChars_of_slash_notMem hpart, List.singleton_append,
        List.foldl_cons, ih hmore, List.foldl_cons]
      · rfl
      · exact List.cons_ne_nil _ _

/-- Slashes at the start of a path say nothing. -/
theorem foldl_push_dropSlashes (cs : List Char) (stack : List (List Char)) :
    (splitChars (dropSlashes cs)).foldl push stack = (splitChars cs).foldl push stack := by
  unfold dropSlashes
  induction cs with
  | nil => rfl
  | cons c rest ih =>
    by_cases hc : c = '/'
    · subst hc
      rw [List.dropWhile_cons_of_pos (by decide), ih, splitChars_slash, List.foldl_cons,
        push_skip (.inl rfl)]
    · rw [List.dropWhile_cons_of_neg (by simpa using hc)]

/-! ### Segments -/

/-- The segments of a text. -/
def segments (path : String) : List (List Char) :=
  segmentChars path.toList

/-- The segments of a path that is read from the directory of a file. The directory has the
segments of the file but for the last. -/
def segmentsFrom (file path : String) : List (List Char) :=
  segmentChars (joinChars (segments file).dropLast ++ '/' :: path.toList)

/-- The segments of a path, from the last to the first, are a settled stack. -/
theorem settled_segmentChars (cs : List Char) : Settled (segmentChars cs).reverse := by
  unfold segmentChars
  rw [List.reverse_reverse]
  exact settled_foldl_push .nil (slash_notMem_of_mem_splitChars cs)

theorem segmentChars_append (front rest : List Char) :
    segmentChars (front ++ '/' :: rest) =
      ((splitChars front ++ splitChars rest).foldl push []).reverse := by
  unfold segmentChars
  rw [splitChars_append]

/-- A path without climbs has no climbs among its segments. -/
theorem up_notMem_segmentChars {cs : List Char} (h : up ∉ splitChars cs) :
    up ∉ segmentChars cs := by
  unfold segmentChars
  rw [List.mem_reverse]
  intro hmem
  rcases mem_of_mem_foldl_push hmem with hmem | hmem
  · exact absurd hmem List.not_mem_nil
  · exact h hmem

/-! ### Ways -/

theorem take_commonLength (target base : List (List Char)) :
    base.take (commonLength target base) = target.take (commonLength target base) := by
  fun_induction commonLength target base with
  | case1 a as bs ih => rw [List.take_succ_cons, List.take_succ_cons, ih]
  | case2 => rfl
  | case3 => rfl

/-- Climbing takes off as many components as there are climbs. -/
theorem foldl_push_climbs {tops : List (List Char)} (htops : up ∉ tops)
    (stack : List (List Char)) :
    (List.replicate tops.length up).foldl push (tops ++ stack) = stack := by
  induction tops with
  | nil => rfl
  | cons top tops ih =>
    rw [List.mem_cons, not_or] at htops
    rw [List.length_cons, List.replicate_succ, List.foldl_cons, List.cons_append,
      push_up_cons (Ne.symm htops.1)]
    exact ih htops.2

/-- **A way leads to its target**, from a directory whose own part can be climbed out of. -/
theorem foldl_push_way {target base : List (List Char)} (htarget : Settled target.reverse)
    (hbase : Settled base.reverse) (hown : up ∉ base.drop (commonLength target base)) :
    (base ++ wayChars target base).foldl push [] = target.reverse := by
  unfold wayChars
  generalize hshared : commonLength target base = shared at hown ⊢
  have hcommon : base.take shared = target.take shared := hshared ▸ take_commonLength target base
  have hreverse : ∀ parts : List (List Char),
      parts.reverse = (parts.drop shared).reverse ++ (parts.take shared).reverse := by
    intro parts
    rw [← List.reverse_append, List.take_append_drop]
  -- down into the directory
  have hdown : base.foldl push [] = base.reverse := by
    rw [← List.append_nil base.reverse] at hbase ⊢
    exact hbase.foldl_eq
  -- up to where the two part
  have hup : (List.replicate (base.length - shared) up).foldl push base.reverse =
      (base.take shared).reverse := by
    have htops : up ∉ (base.drop shared).reverse := by
      rw [List.mem_reverse]
      exact hown
    have h := foldl_push_climbs htops (base.take shared).reverse
    rw [List.length_reverse, List.length_drop] at h
    rw [hreverse base]
    exact h
  -- and down to the target
  rw [List.foldl_append, List.foldl_append, hdown, hup, hcommon]
  rw [hreverse target] at htarget ⊢
  exact htarget.foldl_eq

/-- Reading a way from the directory is walking into the directory and then along the way. -/
theorem segmentChars_walk {target base : List (List Char)} (htarget : Settled target.reverse)
    (hbase : Settled base.reverse) :
    segmentChars (joinChars base ++ '/' :: joinChars (wayChars target base)) =
      ((base ++ wayChars target base).foldl push []).reverse := by
  have hparts : ∀ parts : List (List Char), Settled parts.reverse → ∀ part ∈ parts, '/' ∉ part :=
    fun parts h part hpart => h.slash_notMem part (List.mem_reverse.mpr hpart)
  have hway : ∀ part ∈ wayChars target base, '/' ∉ part := by
    refine List.forall_mem_append.mpr ⟨fun part hpart => ?_, fun part hpart => ?_⟩
    · rw [(List.mem_replicate.mp hpart).2]
      decide
    · exact hparts target htarget part (List.mem_of_mem_drop hpart)
  rw [segmentChars_append, List.foldl_append, foldl_push_joinChars (hparts base hbase),
    foldl_push_joinChars hway, ← List.foldl_append]

/-- The same for texts: reading the way from the directory gives the target. -/
theorem segmentChars_way {target base : List (List Char)} (htarget : Settled target.reverse)
    (hbase : Settled base.reverse) (hown : up ∉ base.drop (commonLength target base)) :
    segmentChars (joinChars base ++ '/' :: joinChars (wayChars target base)) = target := by
  rw [segmentChars_walk htarget hbase, foldl_push_way htarget hbase hown, List.reverse_reverse]

/-- A path without backslashes is written as it should be. -/
theorem normalize_eq_self {path : String} (h : '\\' ∉ path.toList) : normalize path = path := by
  unfold normalize
  rw [List.map_congr_left (g := id), List.map_id, String.ofList_toList]
  intro c hc
  refine if_neg fun hback => h ?_
  rw [← hback]
  exact hc

theorem backslash_notMem_normalize (path : String) : '\\' ∉ (normalize path).toList := by
  unfold normalize
  rw [String.toList_ofList, List.mem_map]
  rintro ⟨c, -, hc⟩
  by_cases hback : c = '\\'
  · rw [if_pos hback] at hc
    exact absurd hc (by decide)
  · rw [if_neg hback] at hc
    exact hback hc

/-- **The relative path leads from the referring file to the target** when the referring file does
not climb. -/
theorem segmentsFrom_relative {target origin : String} (htarget : '\\' ∉ target.toList)
    (horigin : '\\' ∉ origin.toList) (hclimb : up ∉ splitChars origin.toList) :
    segmentsFrom origin (relative target origin) = segments target := by
  -- the directory is the stack of the file without its top
  have hbase : Settled (segments origin).dropLast.reverse := by
    rw [← List.tail_reverse]
    exact (settled_segmentChars origin.toList).tail
  unfold segmentsFrom relative
  rw [normalize_eq_self htarget, normalize_eq_self horigin, String.toList_ofList]
  refine segmentChars_way (settled_segmentChars _) hbase fun hmem => ?_
  exact up_notMem_segmentChars hclimb (List.dropLast_subset _ (List.mem_of_mem_drop hmem))

end DartSource.Path
