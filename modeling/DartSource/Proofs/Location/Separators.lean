import DartSource.Proofs.Location.Canonical

/-!
# Separators in references

References are written with slashes, whatever separators the texts had from which they were made. A
reference is **slashed** when no backslash stands in its text, so that normalizing the text changes
nothing (`Uri.slashed_iff`).

Every way of making a reference normalizes the paths and the whole texts it is given. The name of a
package is the one part that goes into a reference as it is. So a backslash can come into a
reference through such a name and in no other way (`Uri.backslash_mem_text_inPackage_iff`), and
which references are slashed can be told from what they were made of
(`Uri.slashed_apart_from_names`).
-/

namespace DartSource

namespace Path

theorem backslash_notMem_relative (target origin : String) :
    '\\' ∉ (relative target origin).toList := by
  intro hmem
  rcases mem_of_mem_relative hmem with h | h | h
  · exact absurd h (by decide)
  · exact absurd h (by decide)
  · exact backslash_notMem_normalize target h

end Path

namespace Uri

/-- The reference is written with slashes only, so normalizing its text changes nothing. -/
structure Slashed (uri : Uri) : Prop where
  notMem : '\\' ∉ uri.text.toList
  normalize_text : Path.normalize uri.text = uri.text

theorem slashed_iff {uri : Uri} : uri.Slashed ↔ '\\' ∉ uri.text.toList :=
  ⟨Slashed.notMem, fun h => ⟨h, Path.normalize_eq_self h⟩⟩

/-! ### The ways of making a reference -/

theorem slashed_ofAbsolute (text : String) : (ofAbsolute text).Slashed :=
  slashed_iff.mpr (Path.backslash_notMem_normalize text)

theorem slashed_ofRelativePath (path : String) : (ofRelativePath path).Slashed :=
  slashed_iff.mpr (Path.backslash_notMem_normalize path)

/-- A way to a target is made of climbs and of segments of the normalized target. -/
theorem slashed_between (target origin : String) : (between target origin).Slashed :=
  slashed_iff.mpr (Path.backslash_notMem_relative target origin)

/-- **A path inside a package has the backslashes of the package's name, and no others.** -/
theorem backslash_mem_text_inPackage_iff {name path : String} :
    '\\' ∈ (inPackage name path).text.toList ↔ '\\' ∈ name.toList := by
  have hscheme : '\\' ∉ packageScheme.toList := by decide
  have hpath : '\\' ∉ Path.dropSlashes (Path.normalize path).toList := fun hmem =>
    Path.backslash_notMem_normalize path ((List.dropWhile_suffix _).subset hmem)
  rw [inPackage, text]
  simp only [String.toList_append, String.toList_ofList, List.mem_append]
  constructor
  · rintro (((h | h) | h) | h)
    · exact absurd h hscheme
    · exact h
    · exact absurd h (by decide)
    · exact absurd h hpath
  · exact fun h => .inl (.inl (.inr h))

theorem slashed_inPackage_iff {name path : String} :
    (inPackage name path).Slashed ↔ '\\' ∉ name.toList :=
  slashed_iff.trans (not_congr backslash_mem_text_inPackage_iff)

/-- What is read was normalized as a whole, so the name of a package is normalized with it. -/
theorem slashed_parse (text : String) : (parse text).Slashed := by
  have hclean := Path.backslash_notMem_normalize text
  rcases parse_cases text with ⟨name, path, hinto, hparse⟩ | ⟨-, hparse⟩
  · rw [hparse, slashed_inPackage_iff, String.toList_ofList]
    refine fun hmem => hclean ?_
    rw [hinto.2]
    exact List.mem_append_right _ (List.mem_append_left _ hmem)
  · rw [hparse, slashed_iff, text_plain]
    exact hclean

/-- What an asset is resolved to is slashed, unless it spells out a name that is not. -/
theorem slashed_resolve_iff {packages : Packages} {asset : Asset} {origin : Option Asset}
    {uri : Uri} (h : packages.resolve asset origin = .ok uri) :
    uri.Slashed ↔ (uri.isPackage = true → '\\' ∉ asset.package.toList) := by
  rcases Packages.resolve_eq_ok h with ⟨path, rfl⟩ | ⟨file, rfl⟩
  · rw [slashed_inPackage_iff]
    exact ⟨fun hname _ => hname, fun hname => hname rfl⟩
  · -- a relative path does not name the package
    exact iff_of_true (slashed_between _ _) fun hpackage => absurd hpackage Bool.false_ne_true

/-- **Backslashes come into references through the names of packages alone.** Absolute references,
relative paths as they are given, ways from one file to another and references that were read are
slashed, whatever texts they were made from. A path inside a package is slashed exactly if the name
of the package has no backslash in it. And an asset that can be resolved is resolved to a slashed
reference, unless it is reached through a package with such a name. -/
theorem slashed_apart_from_names (text other name path : String) (packages : Packages)
    (asset : Asset) (origin : Option Asset) :
    (ofAbsolute text).Slashed ∧ (ofRelativePath text).Slashed ∧ (between text other).Slashed ∧
    (parse text).Slashed ∧
    ((inPackage name path).Slashed ↔ '\\' ∉ name.toList) ∧
    ∀ uri, packages.resolve asset origin = .ok uri →
      (uri.Slashed ↔ (uri.isPackage = true → '\\' ∉ asset.package.toList)) := by
  refine ⟨?_, ?_, ?_, ?_, ?_, ?_⟩
  · exact slashed_ofAbsolute text
  · exact slashed_ofRelativePath text
  · exact slashed_between text other
  · exact slashed_parse text
  · exact slashed_inPackage_iff
  · exact fun uri h => slashed_resolve_iff h

/-- A package with a backslash in its name: seen from a file of its own it is not named, and the
reference to it is slashed. -/
theorem slashed_apart_from_names_sibling :
    let asset := Asset.ofPath "a\\b" "lib\\src\\c.dart"
    let file := Asset.ofPath "a\\b" "lib/d.dart"
    Packages.resolve {} asset (some file) = .ok (.relative "src/c.dart") ∧
      (Uri.relative "src/c.dart").Slashed := by
  intro asset file
  have hresolve : Packages.resolve {} asset (some file) = .ok (.relative "src/c.dart") := by
    decide +kernel
  refine ⟨hresolve, ?_⟩
  obtain ⟨-, -, -, -, -, hresolved⟩ := slashed_apart_from_names "" "" "" "" {} asset (some file)
  rw [hresolved _ hresolve]
  exact fun hpackage => absurd hpackage Bool.false_ne_true

/-- The name of a package keeps its backslashes, where it is given as a name and where it is the
name of an asset's package. -/
theorem not_slashed_inPackage_backslash :
    (inPackage "a\\b" "c.dart").text = "package:a\\b/c.dart" ∧
      ¬(inPackage "a\\b" "c.dart").Slashed ∧
      Packages.resolve {} (Asset.ofPath "a\\b" "lib/c.dart") none =
        .ok (inPackage "a\\b" "c.dart") := by
  refine ⟨by decide +kernel, ?_, by decide +kernel⟩
  rw [slashed_inPackage_iff]
  decide

end Uri

end DartSource
