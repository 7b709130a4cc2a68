import DartSource.Proofs.Location.Canonical

/-!
# Idle steps at the start of an asset's path

A slash at the start of a path, or a `./`, leads nowhere: it is an **idle step**. Every path is a
number of idle steps and a **bare** rest that starts with neither (`Path.exists_idle`). The path of
an asset is meant to be that rest.

`Asset.ofPath` leaves out the `./` steps first and the slashes after them, each of them once. On the
steps this is two `dropWhile`s (`Path.dropSlashes_dropDotSlashes_idle`), so it takes all of them
away when no `./` comes behind a slash, and only then; otherwise what is left starts with a `./`
(`Path.unreached_cases`). Everything about the path of an asset follows from these two cases:
whether it is bare, whether making an asset of it again changes it, and whether an asset below
`lib/` is seen to be there (`Asset.ofPath_settled_iff`).
-/

namespace DartSource

namespace Path

/-! ### Idle steps -/

/-- A step at the start of a path that leads nowhere. -/
inductive IdleStep where
  /-- A slash. -/
  | slash
  /-- A `./`. -/
  | dot
  deriving DecidableEq, Repr

/-- How a step is written. -/
def IdleStep.chars : IdleStep → List Char
  | .slash => ['/']
  | .dot => ['.', '/']

theorem IdleStep.length_chars_pos (step : IdleStep) : 0 < step.chars.length := by
  cases step <;> decide

/-- Idle steps, one after the other. -/
def idle (steps : List IdleStep) : List Char :=
  steps.flatMap IdleStep.chars

/-- The path starts with no idle step. -/
def Bare (cs : List Char) : Prop :=
  ∀ step : IdleStep, ¬step.chars <+: cs

/-- No `./` comes behind a slash. -/
def InOrder (steps : List IdleStep) : Prop :=
  ∃ dots slashes, steps = List.replicate dots .dot ++ List.replicate slashes .slash

/-- What is left of idle steps without the `./` steps in front and the slashes behind these. -/
def unreached (steps : List IdleStep) : List IdleStep :=
  (steps.dropWhile (· == .dot)).dropWhile (· == .slash)

theorem unreached_suffix (steps : List IdleStep) : unreached steps <:+ steps :=
  (List.dropWhile_suffix _).trans (List.dropWhile_suffix _)

theorem idle_suffix {rest steps : List IdleStep} (h : rest <:+ steps) :
    idle rest <:+ idle steps := by
  obtain ⟨front, rfl⟩ := h
  exact ⟨idle front, List.flatMap_append.symm⟩

variable {steps : List IdleStep} {core : List Char}

/-- **Every path is some idle steps and a bare rest.** -/
theorem exists_idle (cs : List Char) : ∃ steps core, cs = idle steps ++ core ∧ Bare core := by
  by_cases hbare : Bare cs
  · exact ⟨[], cs, rfl, hbare⟩
  · -- the step with which the path starts goes in front of those of the rest
    unfold Bare at hbare
    push Not at hbare
    obtain ⟨step, rest, rfl⟩ := hbare
    have hshorter : rest.length < (step.chars ++ rest).length := by
      rw [List.length_append]
      exact Nat.lt_add_of_pos_left step.length_chars_pos
    obtain ⟨steps, core, hrest, hcore⟩ := exists_idle rest
    refine ⟨step :: steps, core, ?_, hcore⟩
    rw [hrest, idle, idle, List.flatMap_cons, List.append_assoc]
termination_by cs.length

/-- Slashes in front of idle steps are those that stand in front of the path. -/
theorem dropSlashes_idle (hcore : Bare core) :
    dropSlashes (idle steps ++ core) = idle (steps.dropWhile (· == .slash)) ++ core := by
  have hstop : dropSlashes core = core := by
    cases core with
    | nil => rfl
    | cons c rest =>
      refine List.dropWhile_cons_of_neg fun hc => hcore .slash ⟨rest, ?_⟩
      rw [beq_iff_eq.mp hc]
      rfl
  induction steps with
  | nil => exact hstop
  | cons step steps ih =>
    cases step with
    | slash => exact ih
    | dot => rfl

theorem dropDotSlashes_eq_self {cs : List Char} (h : ¬['.', '/'] <+: cs) :
    dropDotSlashes cs = cs := by
  fun_cases dropDotSlashes cs with
  | case1 rest => exact absurd ⟨rest, rfl⟩ h
  | case2 => rfl

/-- And `./` steps likewise. -/
theorem dropDotSlashes_idle (hcore : Bare core) :
    dropDotSlashes (idle steps ++ core) = idle (steps.dropWhile (· == .dot)) ++ core := by
  induction steps with
  | nil => exact dropDotSlashes_eq_self (hcore .dot)
  | cons step steps ih =>
    cases step with
    | slash =>
      exact dropDotSlashes_eq_self fun h => absurd (List.cons_prefix_cons.mp h).1 (by decide)
    | dot => exact ih

theorem dropSlashes_dropDotSlashes_idle (hcore : Bare core) :
    dropSlashes (dropDotSlashes (idle steps ++ core)) = idle (unreached steps) ++ core := by
  rw [dropDotSlashes_idle hcore, dropSlashes_idle hcore]
  rfl

/-! ### Steps in order -/

theorem unreached_eq_nil (h : InOrder steps) : unreached steps = [] := by
  obtain ⟨dots, slashes, rfl⟩ := h
  have hdots : (List.replicate dots IdleStep.dot ++ List.replicate slashes IdleStep.slash).dropWhile
      (· == IdleStep.dot) = List.replicate slashes IdleStep.slash := by
    rw [List.dropWhile_append_of_pos fun step hstep =>
      beq_iff_eq.mpr (List.eq_of_mem_replicate hstep)]
    cases slashes <;> rfl
  unfold unreached
  rw [hdots, List.dropWhile_eq_nil_iff]
  exact fun step hstep => beq_iff_eq.mpr (List.eq_of_mem_replicate hstep)

/-- **Nothing is left of steps in order, and of others something that starts with a `./`.** -/
theorem unreached_cases (steps : List IdleStep) :
    (InOrder steps ∧ unreached steps = []) ∨
      (¬InOrder steps ∧ ∃ rest, unreached steps = .dot :: rest) := by
  have hdots : steps.takeWhile (· == .dot) =
      List.replicate (steps.takeWhile (· == .dot)).length .dot :=
    List.eq_replicate_of_mem fun step hstep =>
      eq_of_beq (List.all_eq_true.mp List.all_takeWhile step hstep)
  cases hleft : unreached steps with
  | nil =>
    -- what follows the `./` steps in front is slashes to the end
    have hslashes : steps.dropWhile (· == .dot) =
        List.replicate (steps.dropWhile (· == .dot)).length .slash :=
      List.eq_replicate_of_mem fun step hstep =>
        beq_iff_eq.mp (List.dropWhile_eq_nil_iff.mp hleft step hstep)
    have hsteps : steps = List.replicate (steps.takeWhile (· == .dot)).length .dot ++
        List.replicate (steps.dropWhile (· == .dot)).length .slash := by
      rw [← hdots, ← hslashes, List.takeWhile_append_dropWhile]
    exact .inl ⟨⟨_, _, hsteps⟩, rfl⟩
  | cons step rest =>
    have hstep : step = .dot := by
      have hnot := List.head?_dropWhile_not (· == .slash) (steps.dropWhile (· == .dot))
      rw [← unreached, hleft] at hnot
      cases step with
      | slash => exact absurd hnot (by simp)
      | dot => rfl
    subst hstep
    refine .inr ⟨fun horder => ?_, rest, rfl⟩
    rw [unreached_eq_nil horder] at hleft
    exact absurd hleft.symm (List.cons_ne_nil _ _)

/-- The path is written with these idle steps in front, and with `core` behind them. -/
structure WrittenWith (path : String) (steps : List IdleStep) (core : String) : Prop where
  bare : Bare core.toList
  eq : (normalize path).toList = idle steps ++ core.toList

theorem exists_writtenWith (path : String) : ∃ steps core, WrittenWith path steps core := by
  obtain ⟨steps, core, hpath, hcore⟩ := exists_idle (normalize path).toList
  refine ⟨steps, String.ofList core, ?_, ?_⟩
  · rw [String.toList_ofList]
    exact hcore
  · rw [String.toList_ofList]
    exact hpath

theorem WrittenWith.backslash_notMem {path : String} {core : String}
    (h : WrittenWith path steps core) : '\\' ∉ core.toList := by
  refine fun hmem => backslash_notMem_normalize path ?_
  rw [h.eq]
  exact List.mem_append_right _ hmem

end Path

/-! ### Assets -/

namespace Asset

open DartSource.Path (IdleStep idle Bare InOrder unreached WrittenWith)

/-- The path of an asset never starts with a slash. -/
theorem not_slash_prefix_ofPath (package path : String) :
    ¬['/'] <+: (ofPath package path).path.toList := by
  rintro ⟨rest, hrest⟩
  have hnot := List.head?_dropWhile_not (· == '/')
    (Path.dropDotSlashes (Path.normalize path).toList)
  rw [ofPath, String.toList_ofList, Path.dropSlashes] at hrest
  rw [← hrest] at hnot
  exact absurd hnot (by simp)

variable {path : String} {steps : List IdleStep} {core : String} (package : String)

/-- The path of an asset, by the idle steps with which it was written. -/
theorem toList_path_ofPath (h : WrittenWith path steps core) :
    (ofPath package path).path.toList = idle (unreached steps) ++ core.toList := by
  rw [ofPath, String.toList_ofList, h.eq, Path.dropSlashes_dropDotSlashes_idle h.bare]

/-- The path of an asset is written with the steps that were left. -/
theorem writtenWith_path (h : WrittenWith path steps core) :
    WrittenWith (ofPath package path).path (unreached steps) core := by
  refine ⟨h.bare, ?_⟩
  rw [Path.normalize_eq_self (backslash_notMem_ofPath package path), toList_path_ofPath package h]

/-- What stands behind the idle steps is the path of an asset by itself. -/
theorem path_ofPath_core (h : WrittenWith path steps core) : (ofPath package core).path = core := by
  have hcore : WrittenWith core [] core :=
    ⟨h.bare, congrArg String.toList (Path.normalize_eq_self h.backslash_notMem)⟩
  rw [← String.toList_inj]
  exact toList_path_ofPath package hcore

/-- Nothing is left of steps in order. -/
theorem ofPath_eq_of_inOrder (h : WrittenWith path steps core) (horder : InOrder steps) :
    ofPath package path = ofPath package core := by
  have hpath : (ofPath package path).path = (ofPath package core).path := by
    rw [path_ofPath_core package h, ← String.toList_inj, toList_path_ofPath package h,
      Path.unreached_eq_nil horder]
    rfl
  rw [Asset.mk.injEq]
  exact ⟨rfl, hpath⟩

/-- Where a `./` is left at the start, making an asset of the path again takes it away. -/
theorem ofPath_path_ne (h : WrittenWith path steps core) {rest : List IdleStep}
    (hleft : unreached steps = .dot :: rest) :
    ofPath package (ofPath package path).path ≠ ofPath package path := by
  intro heq
  have hagain := toList_path_ofPath package (writtenWith_path package h)
  rw [heq, toList_path_ofPath package h, hleft] at hagain
  -- the steps that are left the second time are among those behind the `./`
  have hfewer : (idle (unreached (.dot :: rest))).length ≤ (idle rest).length :=
    (Path.idle_suffix (Path.unreached_suffix rest)).length_le
  have hmore : idle (.dot :: rest) = '.' :: '/' :: idle rest := rfl
  rw [← List.append_cancel_right hagain, hmore, List.length_cons, List.length_cons] at hfewer
  omega

/-- An asset whose path starts with a `./` does not look public. -/
theorem libPath?_eq_none {asset : Asset} {rest : List Char}
    (h : asset.path.toList = '.' :: '/' :: rest) : asset.libPath? = none := by
  unfold libPath? Path.after?
  rw [h]
  rfl

/-- **The path of an asset is settled exactly if no `./` comes behind a slash where it starts.**
Whatever a path is written with, that of its asset has no backslash and starts with no slash. Every
path is some idle steps and a bare rest. If the steps are in order, the asset is that of the rest
alone: its path starts with no `./` either, making an asset of it again gives the same asset, and it
is below `lib/` if the rest is. If they are not, all of this fails, and an asset below `lib/` is not
seen to be there. -/
theorem ofPath_settled_iff (package path : String) :
    '\\' ∉ (ofPath package path).path.toList ∧
    ¬['/'] <+: (ofPath package path).path.toList ∧
    (∃ steps core, WrittenWith path steps core) ∧
    ∀ steps core, WrittenWith path steps core →
      (¬['.', '/'] <+: (ofPath package path).path.toList ↔ InOrder steps) ∧
      (ofPath package (ofPath package path).path = ofPath package path ↔ InOrder steps) ∧
      (ofPath package path = ofPath package core ↔ InOrder steps) ∧
      ((ofPath package path).libPath? = (ofPath package core).libPath? ↔
        InOrder steps ∨ (ofPath package core).libPath? = none) := by
  refine ⟨backslash_notMem_ofPath package path, not_slash_prefix_ofPath package path,
    Path.exists_writtenWith path, fun steps core h => ?_⟩
  have hcore := path_ofPath_core package h
  rcases Path.unreached_cases steps with ⟨horder, -⟩ | ⟨hstray, rest, hleft⟩
  · have heq := ofPath_eq_of_inOrder package h horder
    have hbare : ¬['.', '/'] <+: (ofPath package path).path.toList := by
      rw [heq, hcore]
      exact h.bare .dot
    refine ⟨iff_of_true hbare horder, iff_of_true ?_ horder, iff_of_true heq horder,
      iff_of_true ?_ (.inl horder)⟩
    · rw [heq, hcore]
    · rw [heq]
  · have hpath : (ofPath package path).path.toList = '.' :: '/' :: (idle rest ++ core.toList) := by
      rw [toList_path_ofPath package h, hleft]
      rfl
    have hstarts : ['.', '/'] <+: (ofPath package path).path.toList := ⟨_, hpath.symm⟩
    refine ⟨iff_of_false (not_not.mpr hstarts) hstray,
      iff_of_false (ofPath_path_ne package h hleft) hstray, iff_of_false (fun heq => ?_) hstray, ?_⟩
    · -- the rest by itself is bare
      rw [heq, hcore] at hstarts
      exact h.bare .dot hstarts
    · rw [libPath?_eq_none hpath]
      exact ⟨fun hlib => .inr hlib.symm, fun hlib => (hlib.resolve_left hstray).symm⟩

/-- Steps in order, written with both separators. -/
theorem ofPath_settled_iff_dots :
    WrittenWith ".\\.//\\lib/a.dart" [.dot, .dot, .slash, .slash] "lib/a.dart" ∧
      (ofPath "app" ".\\.//\\lib/a.dart").libPath? = (ofPath "app" "lib/a.dart").libPath? ∧
      (ofPath "app" "lib/a.dart").libPath? = some "a.dart" := by
  have h : WrittenWith ".\\.//\\lib/a.dart" [.dot, .dot, .slash, .slash] "lib/a.dart" := by
    refine ⟨fun step => ?_, by decide⟩
    cases step <;> decide
  refine ⟨h, ?_, by decide +kernel⟩
  exact ((ofPath_settled_iff "app" ".\\.//\\lib/a.dart").2.2.2 _ _ h).2.2.2.mpr
    (.inl ⟨2, 2, rfl⟩)

/-- A `./` behind a slash stays in the path, and the asset below `lib/` does not look public. -/
theorem not_settled_ofPath_slash_dot :
    ['.', '/'] <+: (ofPath "app" "/./lib/a.dart").path.toList ∧
      ofPath "app" (ofPath "app" "/./lib/a.dart").path ≠ ofPath "app" "/./lib/a.dart" ∧
      (ofPath "app" "/./lib/a.dart").libPath? = none ∧
      (ofPath "app" ".//lib/a.dart").libPath? = some "a.dart" := by
  refine ⟨?_, ?_, ?_, ?_⟩ <;> decide +kernel

end Asset

end DartSource
