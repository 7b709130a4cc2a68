import DartSource.Location.Asset
import DartSource.Location.Resolver
import DartSource.Proofs.Location.Segments

/-!
# Which assets can be referred to, and that references point at them

Resolving an asset has three outcomes. It fails when a closed list of assets lacks the asset; it
fails when the asset is not public and the referring file is absent, in another package or public
itself; and otherwise it succeeds. The reference that it then gives **points at** the asset: read
by the conventions of packages, it has the segments of the asset's path.

Assets are made from paths by `Asset.ofPath`, which leaves no backslash in them, so the results
here are about all assets that there are.
-/

namespace DartSource

/-- There is a closed list of assets and it lacks this one. -/
def Packages.Lacks (packages : Packages) (asset : Asset) : Prop :=
  ∃ assets, packages.known = some assets ∧ asset ∉ assets

/-- The asset is not public, and the referring file is absent, in another package, or public. -/
def Asset.Unreachable (asset : Asset) (origin : Option Asset) : Prop :=
  asset.libPath? = none ∧
    (origin = none ∨
      ∃ file, origin = some file ∧
        (file.package ≠ asset.package ∨ file.libPath?.isSome = true))

/-- What a reference in the file `origin` stands for. A path in a package is read from the public
directory of that package. A relative path is used between two files of one package that are both
public or both not, and is read from the directory of the referring file; where the path of that
file climbs, nothing is said about the result. -/
def Uri.PointsAt (asset : Asset) (origin : Option Asset) : Uri → Prop
  | .absolute _ => False
  | .package name path =>
    name = asset.package ∧ Path.segments ("lib/" ++ path) = Path.segments asset.path
  | .relative path =>
    ∃ file, origin = some file ∧ file.package = asset.package ∧
      file.libPath?.isSome = asset.libPath?.isSome ∧
      (Path.up ∉ Path.splitChars file.path.toList →
        Path.segmentsFrom file.path path = Path.segments asset.path)

/-! ### Paths of assets -/

namespace Path

theorem mem_of_mem_dropDotSlashes {c : Char} {cs : List Char} (h : c ∈ dropDotSlashes cs) :
    c ∈ cs := by
  fun_induction dropDotSlashes cs with
  | case1 rest ih => exact List.mem_cons_of_mem _ (List.mem_cons_of_mem _ (ih h))
  | case2 => exact h

theorem after?_eq_some_iff {start cs rest : List Char} :
    after? start cs = some rest ↔ start ++ rest = cs := by
  unfold after?
  by_cases hstart : start.isPrefixOf cs = true
  · obtain ⟨tail, rfl⟩ := List.isPrefixOf_iff_prefix.mp hstart
    rw [if_pos hstart, List.drop_left, Option.some.injEq, List.append_cancel_left_eq]
    exact eq_comm
  · rw [if_neg hstart]
    refine ⟨fun h => absurd h (by simp), fun h => absurd ?_ hstart⟩
    exact List.isPrefixOf_iff_prefix.mpr ⟨rest, h⟩

/-- Below a directory, slashes at the start say nothing. -/
theorem segmentChars_append_dropSlashes (front rest : List Char) :
    segmentChars (front ++ '/' :: dropSlashes rest) = segmentChars (front ++ '/' :: rest) := by
  rw [segmentChars_append, segmentChars_append, List.foldl_append, List.foldl_append,
    foldl_push_dropSlashes]

end Path

namespace Asset

/-- Assets are written with slashes only. -/
theorem backslash_notMem_ofPath (package path : String) :
    '\\' ∉ (ofPath package path).path.toList := by
  unfold ofPath Path.dropSlashes
  rw [String.toList_ofList]
  intro hmem
  exact Path.backslash_notMem_normalize path
    (Path.mem_of_mem_dropDotSlashes ((List.dropWhile_suffix _).subset hmem))

/-- The path of a public asset is its path below `lib/`, with that directory in front. -/
theorem path_eq_of_libPath? {asset : Asset} {path : String} (h : asset.libPath? = some path) :
    asset.path = "lib/" ++ path := by
  unfold libPath? at h
  rw [Option.map_eq_some_iff] at h
  obtain ⟨rest, hrest, rfl⟩ := h
  rw [Path.after?_eq_some_iff] at hrest
  rw [← String.toList_inj, String.toList_append, ← hrest]
  exact congrArg _ (String.toList_ofList).symm

end Asset

namespace Uri

variable {asset : Asset} {origin : Option Asset}

/-- A public asset is found in its package; slashes that were left out said nothing. -/
theorem pointsAt_inPackage {path : String} (hlib : asset.libPath? = some path)
    (hasset : '\\' ∉ asset.path.toList) :
    (inPackage asset.package path).PointsAt asset origin := by
  have hpath := Asset.path_eq_of_libPath? hlib
  have hslashes : '\\' ∉ path.toList := by
    rw [hpath, String.toList_append, List.mem_append, not_or] at hasset
    exact hasset.2
  have hchars : (String.ofList (Path.dropSlashes path.toList)).toList =
      Path.dropSlashes path.toList := String.toList_ofList
  refine ⟨rfl, ?_⟩
  unfold Path.segments
  rw [hpath, Path.normalize_eq_self hslashes, String.toList_append, String.toList_append, hchars]
  exact Path.segmentChars_append_dropSlashes ['l', 'i', 'b'] path.toList

/-- Files of one package and one area refer to each other by relative paths. -/
theorem pointsAt_between {file : Asset} (hpackage : file.package = asset.package)
    (harea : file.libPath?.isSome = asset.libPath?.isSome) (hasset : '\\' ∉ asset.path.toList)
    (hfile : '\\' ∉ file.path.toList) :
    (between asset.path file.path).PointsAt asset (some file) :=
  ⟨file, rfl, hpackage, harea, Path.segmentsFrom_relative hasset hfile⟩

end Uri

namespace Packages

variable {packages : Packages} {asset : Asset} {origin : Option Asset}

theorem knows_eq_false_iff : packages.knows asset = false ↔ packages.Lacks asset := by
  unfold knows Lacks
  cases packages.known with
  | none => simp
  | some assets => simp

/-! ### The three outcomes -/

theorem resolve_of_lacks (h : packages.Lacks asset) :
    packages.resolve asset origin = .error (.lookup (.unknownAsset asset)) := by
  unfold resolve
  rw [knows_eq_false_iff.mpr h]
  rfl

/-- An asset that is known is resolved by where it and the referring file are. -/
theorem resolve_of_not_lacks (h : ¬packages.Lacks asset) :
    packages.resolve asset origin = resolve {} asset origin := by
  have hknown : packages.knows asset = true := by
    rw [← knows_eq_false_iff, Bool.not_eq_false] at h
    exact h
  unfold resolve
  rw [hknown]
  rfl

/-- From outside its package an asset is reached through its package or not at all. -/
theorem resolve_apart (h : ∀ file ∈ origin, file.package ≠ asset.package) :
    resolve {} asset origin =
      match asset.libPath? with
      | some path => .ok (Uri.inPackage asset.package path)
      | none => .error (.lookup (.unreachableAsset asset origin)) := by
  have hnone : origin.filter (fun file => file.package == asset.package) = none := by
    rw [Option.filter_eq_none_iff]
    exact fun file hfile hsame => h file hfile (beq_iff_eq.mp hsame)
  unfold resolve
  rw [hnone]
  cases asset.libPath? with
  | none => rfl
  | some path => rfl

/-- From a file of its own package it matters which of the two are public. -/
theorem resolve_beside {file : Asset} (h : file.package = asset.package) :
    resolve {} asset (some file) =
      match asset.libPath? with
      | some path =>
        if file.libPath?.isSome then .ok (Uri.between asset.path file.path)
        else .ok (Uri.inPackage asset.package path)
      | none =>
        if file.libPath?.isSome then .error (.lookup (.unreachableAsset asset (some file)))
        else .ok (Uri.between asset.path file.path) := by
  have hsome : (some file).filter (fun file => file.package == asset.package) = some file := by
    rw [Option.filter_some, if_pos (beq_iff_eq.mpr h)]
  unfold resolve
  rw [hsome]
  cases asset.libPath? with
  | none => rfl
  | some path => rfl

theorem resolve_of_unreachable (h : asset.Unreachable origin) :
    resolve {} asset origin = .error (.lookup (.unreachableAsset asset origin)) := by
  obtain ⟨hlib, horigin⟩ := h
  by_cases hbeside : ∃ file, origin = some file ∧ file.package = asset.package
  · obtain ⟨file, rfl, hpackage⟩ := hbeside
    -- of the three reasons only the last is left for a file of the same package
    have hpublic : file.libPath?.isSome = true := by
      rcases horigin with hnone | ⟨other, hother, hforeign | hpublic⟩
      · exact absurd hnone (by simp)
      · obtain rfl := Option.some.inj hother
        exact absurd hpackage hforeign
      · obtain rfl := Option.some.inj hother
        exact hpublic
    rw [resolve_beside hpackage, hlib]
    exact if_pos hpublic
  · rw [resolve_apart fun file hfile hpackage => hbeside ⟨file, hfile, hpackage⟩, hlib]

/-- **Everything else is reached, and the reference points at it.** -/
theorem resolve_of_reachable (h : ¬asset.Unreachable origin) (hasset : '\\' ∉ asset.path.toList)
    (horigin : ∀ file ∈ origin, '\\' ∉ file.path.toList) :
    ∃ uri, resolve {} asset origin = .ok uri ∧ uri.PointsAt asset origin := by
  by_cases hbeside : ∃ file, origin = some file ∧ file.package = asset.package
  · obtain ⟨file, rfl, hpackage⟩ := hbeside
    have hfile := horigin file rfl
    rw [resolve_beside hpackage]
    cases hlib : asset.libPath? with
    | some path =>
      by_cases hpublic : file.libPath?.isSome = true
      · refine ⟨_, if_pos hpublic, Uri.pointsAt_between hpackage ?_ hasset hfile⟩
        rw [hpublic, hlib, Option.isSome_some]
      · exact ⟨_, if_neg hpublic, Uri.pointsAt_inPackage hlib hasset⟩
    | none =>
      by_cases hpublic : file.libPath?.isSome = true
      · exact absurd ⟨hlib, .inr ⟨file, rfl, .inr hpublic⟩⟩ h
      · refine ⟨_, if_neg hpublic, Uri.pointsAt_between hpackage ?_ hasset hfile⟩
        rw [Bool.eq_false_iff.mpr hpublic, hlib, Option.isSome_none]
  · have hapart : ∀ file ∈ origin, file.package ≠ asset.package :=
      fun file hfile hpackage => hbeside ⟨file, hfile, hpackage⟩
    rw [resolve_apart hapart]
    cases hlib : asset.libPath? with
    | some path => exact ⟨_, rfl, Uri.pointsAt_inPackage hlib hasset⟩
    | none =>
      -- a private asset that nothing beside it refers to cannot be reached
      refine absurd ⟨hlib, ?_⟩ h
      cases origin with
      | none => exact .inl rfl
      | some file => exact .inr ⟨file, rfl, .inl (hapart file rfl)⟩

/-- **Resolution decides reachability exactly and its references point at their assets.** For every
asset and every referring file, or none: an asset that a closed list lacks is unknown; one that is
not public is unreachable without a referring file, from another package and from a public file; and
anything else is resolved, to a reference that points at it. -/
theorem resolve_exact (packages : Packages) (package path : String)
    (referrer : Option (String × String)) :
    let asset := Asset.ofPath package path
    let origin := referrer.map fun file => Asset.ofPath file.1 file.2
    (packages.resolve asset origin = .error (.lookup (.unknownAsset asset)) ↔
      packages.Lacks asset) ∧
    (¬packages.Lacks asset →
      (packages.resolve asset origin = .error (.lookup (.unreachableAsset asset origin)) ↔
        asset.Unreachable origin)) ∧
    (¬packages.Lacks asset → ¬asset.Unreachable origin →
      ∃ uri, packages.resolve asset origin = .ok uri) ∧
    ∀ uri, packages.resolve asset origin = .ok uri → uri.PointsAt asset origin := by
  intro asset origin
  have hreached : ¬asset.Unreachable origin →
      ∃ uri, resolve {} asset origin = .ok uri ∧ uri.PointsAt asset origin := by
    refine fun h => resolve_of_reachable h (Asset.backslash_notMem_ofPath package path) ?_
    intro file hfile
    obtain ⟨given, -, rfl⟩ := Option.map_eq_some_iff.mp hfile
    exact Asset.backslash_notMem_ofPath given.1 given.2
  -- each of the three outcomes excludes the other two
  by_cases hlacks : packages.Lacks asset
  · rw [resolve_of_lacks hlacks]
    refine ⟨iff_of_true rfl hlacks, fun h => absurd hlacks h, fun h => absurd hlacks h, ?_⟩
    exact fun uri h => absurd h (by simp)
  · rw [resolve_of_not_lacks hlacks]
    by_cases hunreachable : asset.Unreachable origin
    · rw [resolve_of_unreachable hunreachable]
      refine ⟨iff_of_false (by simp) hlacks, fun _ => iff_of_true rfl hunreachable,
        fun _ h => absurd hunreachable h, ?_⟩
      exact fun uri h => absurd h (by simp)
    · obtain ⟨uri, hresolve, hpoints⟩ := hreached hunreachable
      rw [hresolve]
      refine ⟨iff_of_false (by simp) hlacks, fun _ => iff_of_false (by simp) hunreachable,
        fun _ _ => ⟨uri, rfl⟩, ?_⟩
      intro other hother
      obtain rfl := Except.ok.inj hother
      exact hpoints

end Packages

end DartSource
