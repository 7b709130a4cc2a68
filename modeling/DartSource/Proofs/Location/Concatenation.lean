import DartSource.Proofs.Location.Ways

/-!
# Segments as a normal form of paths

The segments of a path are **resolved**: a run of climbs, and ordinary components behind it. Every
resolved list arises in this way, and from its own text (`segments_joined`), so the segments are a
normal form of paths.

What a path does to a stack, its segments do as well (`foldl_push_segmentChars`). A component that
is taken back leaves no trace, and a climb that finds nothing to take back among the components in
front of it is kept, for whatever stack it meets later. The step is `Settled.foldl_reverse_push`,
and `Settled.foldl_reverse_foldl` is the run. So a path can be replaced by the text of its segments
wherever it stands in a longer path: in front of a slash, behind one, or alone
(`segments_normalForm`).
-/

namespace DartSource.Path

/-- Climbs in front, and then ordinary components only. -/
def Resolved (parts : List (List Char)) : Prop :=
  ∃ climbs tops, parts = List.replicate climbs up ++ tops ∧ ∀ part ∈ tops, Ordinary part

/-- The path that is written with the given components. -/
def joined (parts : List (List Char)) : String :=
  String.ofList (joinChars parts)

/-- Read from the last component to the first, a resolved list is a settled stack. -/
theorem resolved_iff_settled {parts : List (List Char)} :
    Resolved parts ↔ Settled parts.reverse := by
  refine ⟨?_, Settled.exists_climbs⟩
  rintro ⟨climbs, tops, rfl, htops⟩
  have hclimbs : Settled ((List.replicate climbs up).foldl push []) :=
    settled_foldl_push .nil fun part hpart => by
      rw [List.eq_of_mem_replicate hpart]
      decide
  have hall : Settled (tops.foldl push ((List.replicate climbs up).foldl push [])) :=
    settled_foldl_push hclimbs fun part hpart => (htops part hpart).slash_notMem
  -- nothing is taken back on the way, neither by the climbs nor behind them
  have hdown : (List.replicate climbs up).foldl push [] = List.replicate climbs up :=
    foldl_push_replicate_up climbs 0
  rw [hdown, foldl_push_ordinary htops] at hall
  rw [List.reverse_append, List.reverse_replicate]
  exact hall

theorem resolved_segmentChars (cs : List Char) : Resolved (segmentChars cs) :=
  resolved_iff_settled.mpr (settled_segmentChars cs)

theorem Resolved.slash_notMem {parts : List (List Char)} (h : Resolved parts) :
    ∀ part ∈ parts, '/' ∉ part :=
  fun part hpart => (resolved_iff_settled.mp h).slash_notMem part (List.mem_reverse.mpr hpart)

namespace Settled

variable {kept : List (List Char)}

/-- One step: pushing a component on what was kept, and then all of it on a stack, is pushing the
component last. -/
theorem foldl_reverse_push (h : Settled kept) {part : List Char} (hpart : '/' ∉ part)
    (stack : List (List Char)) :
    (Path.push kept part).reverse.foldl Path.push stack =
      Path.push (kept.reverse.foldl Path.push stack) part := by
  have hbehind : ∀ last : List Char, (last :: kept).reverse.foldl Path.push stack =
      Path.push (kept.reverse.foldl Path.push stack) last := by
    intro last
    rw [List.reverse_cons, List.foldl_append]
    rfl
  by_cases hskip : part = [] ∨ part = ['.']
  · rw [push_skip hskip, push_skip hskip]
  · obtain ⟨hnil, hdot⟩ := not_or.mp hskip
    by_cases hup : part = up
    · subst hup
      cases h with
      | nil => rfl
      | @ordinary top rest htop _ =>
        -- the climb takes back a component that was to be pushed right before it
        rw [push_up_cons htop.ne_up, List.reverse_cons, List.foldl_append, List.foldl_cons,
          List.foldl_nil, push_ordinary htop, push_up_cons htop.ne_up]
      | climb _ =>
        -- the climb is kept, and finds on the stack what it takes back, if anything
        rw [push_up_up]
        exact hbehind up
    · have hordinary : Ordinary part := ⟨hnil, hdot, hup, hpart⟩
      rw [push_ordinary hordinary]
      exact hbehind part

/-- A whole run, by induction on its components. -/
theorem foldl_reverse_foldl (h : Settled kept) {parts : List (List Char)}
    (hparts : ∀ part ∈ parts, '/' ∉ part) (stack : List (List Char)) :
    (parts.foldl Path.push kept).reverse.foldl Path.push stack =
      parts.foldl Path.push (kept.reverse.foldl Path.push stack) := by
  induction parts generalizing kept with
  | nil => rfl
  | cons part parts ih =>
    obtain ⟨hpart, hrest⟩ := List.forall_mem_cons.mp hparts
    rw [List.foldl_cons, List.foldl_cons, ih (h.push hpart) hrest,
      h.foldl_reverse_push hpart]

end Settled

/-- **A path and the text of its segments do the same to every stack.** -/
theorem foldl_push_segmentChars (cs : List Char) (stack : List (List Char)) :
    (splitChars (joinChars (segmentChars cs))).foldl push stack =
      (splitChars cs).foldl push stack := by
  rw [foldl_push_joinChars (resolved_segmentChars cs).slash_notMem]
  exact Settled.nil.foldl_reverse_foldl (slash_notMem_of_mem_splitChars cs) stack

/-! ### Texts -/

variable (path other : String)

theorem segments_slash :
    segments (path ++ "/" ++ other) =
      ((splitChars other.toList).foldl push
        ((splitChars path.toList).foldl push [])).reverse := by
  have hchars : (path ++ "/" ++ other).toList = path.toList ++ '/' :: other.toList := by
    rw [String.toList_append, String.toList_append, List.append_assoc]
    rfl
  rw [segments, hchars, segmentChars_append, List.foldl_append]

/-- A resolved list is what its own text is read as. -/
theorem segments_joined {parts : List (List Char)} (h : Resolved parts) :
    segments (joined parts) = parts := by
  have hrun : parts.foldl push [] = parts.reverse := by
    have hsettled := resolved_iff_settled.mp h
    rw [← List.append_nil parts.reverse] at hsettled ⊢
    exact hsettled.foldl_eq
  rw [segments, joined, String.toList_ofList, segmentChars, foldl_push_joinChars h.slash_notMem,
    hrun, List.reverse_reverse]

/-- In front of a slash, a path may be replaced by the text of its segments. -/
theorem segments_joined_slash :
    segments (joined (segments path) ++ "/" ++ other) = segments (path ++ "/" ++ other) := by
  rw [segments_slash, segments_slash, joined, String.toList_ofList, segments,
    foldl_push_segmentChars]

/-- And behind a slash as well. -/
theorem segments_slash_joined :
    segments (other ++ "/" ++ joined (segments path)) = segments (other ++ "/" ++ path) := by
  rw [segments_slash, segments_slash, joined, String.toList_ofList, segments,
    foldl_push_segmentChars]

/-- **The segments are a normal form that goes along with concatenation.** Whatever the paths: their
segments are resolved; reading the text of the segments gives the segments back; and it makes no
difference to the segments of two paths with a slash between them whether the first of them, or the
second, is replaced by the text of its own segments. The resolved lists are all of them normal
forms, each of its own text. -/
theorem segments_normalForm :
    Resolved (segments path) ∧
      segments (joined (segments path)) = segments path ∧
      segments (path ++ "/" ++ other) = segments (joined (segments path) ++ "/" ++ other) ∧
      segments (path ++ "/" ++ other) = segments (path ++ "/" ++ joined (segments other)) ∧
      ∀ parts, Resolved parts → segments (joined parts) = parts := by
  have hresolved : Resolved (segments path) := resolved_segmentChars path.toList
  refine ⟨hresolved, segments_joined hresolved, ?_, ?_, ?_⟩
  · exact (segments_joined_slash path other).symm
  · exact (segments_slash_joined other path).symm
  · exact fun parts h => segments_joined h

/-- Two climbs above the root, then a component that a later climb takes back; and a resolved list
with a component of three dots, which is an ordinary one. -/
theorem segments_normalForm_climbs :
    segments ".././/..//a/" = [up, up, ['a']] ∧
      segments (".././/..//a/" ++ "/" ++ "../b") = segments ("../../a" ++ "/" ++ "../b") ∧
      Resolved [up, ['.', '.', '.']] ∧ segments "../..." = [up, ['.', '.', '.']] := by
  have hpath : joined (segments ".././/..//a/") = "../../a" := by decide +kernel
  have hresolved : Resolved [up, ['.', '.', '.']] := by
    refine ⟨1, [['.', '.', '.']], rfl, List.forall_mem_singleton.mpr ?_⟩
    exact ⟨by decide, by decide, by decide, by decide⟩
  refine ⟨by decide +kernel, ?_, hresolved, ?_⟩
  · rw [← hpath]
    exact (segments_normalForm ".././/..//a/" "../b").2.2.1
  · exact (segments_normalForm "" "").2.2.2.2 _ hresolved

end DartSource.Path
