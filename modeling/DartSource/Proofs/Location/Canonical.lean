import DartSource.Proofs.Location.Reachability
import DartSource.Proofs.Text.Separation
import Mathlib.Data.List.DropRight

/-!
# References that their text stands for

A reference has one of three forms, and the form does not show in its text: a path with a colon in
it reads like an absolute reference, and so does one that starts with a slash. A reference is
**canonical** when reading its text gives the reference back. Canonical references with the same
text are the same reference, so for them it makes no difference whether one compares references or
texts (`Canonical.eq_of_text_eq`).

Reading always gives a canonical reference (`canonical_parse`), and the text of that reference is
the text that was read but for its separators and the slashes behind a package's name
(`reading_canonical`). Resolving an asset gives a canonical reference as long as the package's name
has no separator in it and the path no colon (`Packages.canonical_resolve`): a slash in the name
would end it early, and a colon in a relative path would make it look absolute.
-/

namespace DartSource

namespace Path

theorem mem_of_mem_normalize {c : Char} {text : String} (h : c ∈ (normalize text).toList) :
    c ∈ text.toList ∨ c = '/' := by
  unfold normalize at h
  rw [String.toList_ofList, List.mem_map] at h
  obtain ⟨d, hd, hc⟩ := h
  by_cases hback : d = '\\'
  · rw [if_pos hback] at hc
    exact .inr hc.symm
  · rw [if_neg hback] at hc
    exact .inl (hc ▸ hd)

theorem mem_of_mem_splitChars {c : Char} {cs part : List Char} (hpart : part ∈ splitChars cs)
    (hc : c ∈ part) : c ∈ cs := by
  induction cs generalizing part with
  | nil =>
    obtain rfl := List.mem_singleton.mp hpart
    exact absurd hc List.not_mem_nil
  | cons d rest ih =>
    by_cases hd : d = '/'
    · subst hd
      rw [splitChars_slash] at hpart
      rcases List.mem_cons.mp hpart with rfl | hpart
      · exact absurd hc List.not_mem_nil
      · exact List.mem_cons_of_mem _ (ih hpart hc)
    · -- the character belongs to the first component of the rest
      obtain ⟨first, more, hsplit⟩ := List.exists_cons_of_ne_nil (splitChars_ne_nil rest)
      rw [splitChars_cons hd hsplit] at hpart
      rw [hsplit] at ih
      rcases List.mem_cons.mp hpart with rfl | hpart
      · rcases List.mem_cons.mp hc with rfl | hc
        · exact List.mem_cons_self
        · exact List.mem_cons_of_mem _ (ih List.mem_cons_self hc)
      · exact List.mem_cons_of_mem _ (ih (List.mem_cons_of_mem _ hpart) hc)

/-- Segments are made of the characters of the path. -/
theorem mem_of_mem_segmentChars {c : Char} {cs part : List Char} (hpart : part ∈ segmentChars cs)
    (hc : c ∈ part) : c ∈ cs := by
  unfold segmentChars at hpart
  rw [List.mem_reverse] at hpart
  rcases mem_of_mem_foldl_push hpart with hpart | hpart
  · exact absurd hpart List.not_mem_nil
  · exact mem_of_mem_splitChars hpart hc

theorem Settled.ne_nil {stack : List (List Char)} (h : Settled stack) :
    ∀ part ∈ stack, part ≠ [] := by
  induction h with
  | nil => exact fun part hpart => absurd hpart List.not_mem_nil
  | ordinary hpart _ ih => exact List.forall_mem_cons.mpr ⟨hpart.ne_nil, ih⟩
  | climb hall =>
    refine List.forall_mem_cons.mpr ⟨by decide, fun part hpart => ?_⟩
    rw [hall part hpart]
    decide

theorem mem_of_mem_joinChars {c : Char} {parts : List (List Char)} (h : c ∈ joinChars parts) :
    c = '/' ∨ ∃ part ∈ parts, c ∈ part := by
  fun_induction joinChars parts with
  | case1 => exact absurd h List.not_mem_nil
  | case2 part => exact .inr ⟨part, List.mem_singleton_self part, h⟩
  | case3 part more _ ih =>
    rcases List.mem_append.mp h with h | h
    · exact .inr ⟨part, List.mem_cons_self, h⟩
    · rcases List.mem_cons.mp h with h | h
      · exact .inl h
      · rcases ih h with h | ⟨other, hother, h⟩
        · exact .inl h
        · exact .inr ⟨other, List.mem_cons_of_mem _ hother, h⟩

/-- Components that are joined do not start with a slash. -/
theorem head?_joinChars_ne {parts : List (List Char)} (hne : ∀ part ∈ parts, part ≠ [])
    (hslash : ∀ part ∈ parts, '/' ∉ part) : (joinChars parts).head? ≠ some '/' := by
  cases parts with
  | nil => exact fun h => absurd h (by simp [joinChars])
  | cons part more =>
    obtain ⟨c, rest, hpart⟩ := List.exists_cons_of_ne_nil (hne part List.mem_cons_self)
    have hc : c ≠ '/' := by
      rintro rfl
      exact hslash part List.mem_cons_self (hpart ▸ List.mem_cons_self)
    -- the first character is that of the first component, whether or not more follow
    have hhead : (joinChars (part :: more)).head? = some c := by
      cases more with
      | nil => rw [joinChars, hpart, List.head?_cons]
      | cons second others =>
        rw [joinChars, hpart, List.cons_append, List.head?_cons]
        exact List.cons_ne_nil second others
    rw [hhead]
    exact fun h => hc (Option.some.inj h)

/-- What a way to a target is made of: climbs and segments of the target. -/
theorem mem_wayChars {target base : List (List Char)} {part : List Char}
    (h : part ∈ wayChars target base) : part = up ∨ part ∈ target := by
  rcases List.mem_append.mp h with h | h
  · exact .inl (List.mem_replicate.mp h).2
  · exact .inr (List.mem_of_mem_drop h)

variable {target origin : String}

/-- The characters of a relative path: slashes, dots, and what the target has. -/
theorem mem_of_mem_relative {c : Char} (h : c ∈ (relative target origin).toList) :
    c = '/' ∨ c = '.' ∨ c ∈ (normalize target).toList := by
  unfold relative at h
  rw [String.toList_ofList] at h
  rcases mem_of_mem_joinChars h with h | ⟨part, hpart, h⟩
  · exact .inl h
  · rcases mem_wayChars hpart with rfl | hpart
    · have hdots : ∀ d ∈ up, d = '.' :=
        List.forall_mem_cons.mpr ⟨rfl, List.forall_mem_singleton.mpr rfl⟩
      exact .inr (.inl (hdots c h))
    · exact .inr (.inr (mem_of_mem_segmentChars hpart h))

theorem head?_relative_ne : (relative target origin).toList.head? ≠ some '/' := by
  unfold relative
  rw [String.toList_ofList]
  have hsettled := settled_segmentChars (normalize target).toList
  refine head?_joinChars_ne (fun part hpart => ?_) fun part hpart => ?_
  · rcases mem_wayChars hpart with rfl | hpart
    · decide
    · exact hsettled.ne_nil part (List.mem_reverse.mpr hpart)
  · rcases mem_wayChars hpart with rfl | hpart
    · decide
    · exact hsettled.slash_notMem part (List.mem_reverse.mpr hpart)

theorem dropSlashes_dropSlashes (cs : List Char) : dropSlashes (dropSlashes cs) = dropSlashes cs :=
  List.dropWhile_idempotent (· == '/') cs

end Path

namespace Uri

/-- Reading the text of the reference gives the reference back. -/
def Canonical (uri : Uri) : Prop :=
  parse uri.text = uri

/-- **Canonical references are determined by their text.** -/
theorem Canonical.eq_of_text_eq {uri other : Uri} (huri : uri.Canonical) (hother : other.Canonical)
    (h : uri.text = other.text) : uri = other := by
  rw [← huri, ← hother, h]

/-! ### Reading -/

/-- What a text stands for when it does not point into a package. -/
def plain (text : String) : Uri :=
  if ':' ∈ text.toList ∨ text.toList.head? = some '/' then .absolute text else .relative text

@[simp] theorem text_plain (text : String) : (plain text).text = text := by
  unfold plain
  split <;> rfl

/-- The text points into a package: the scheme, a name, a slash, and a path. -/
def PointsInto (text : String) (name path : List Char) : Prop :=
  '/' ∉ name ∧ text.toList = packageScheme.toList ++ (name ++ '/' :: path)

/-- A text points into one package only, and there at one path. -/
theorem pointsInto_inj {text : String} {name path name' path' : List Char}
    (h : PointsInto text name path) (h' : PointsInto text name' path') :
    name = name' ∧ path = path' := by
  have htext : name ++ '/' :: path = name' ++ '/' :: path' :=
    List.append_cancel_left (h.2.symm.trans h'.2)
  have hrun : ∀ cs : List Char, '/' ∉ cs → ∀ c ∈ cs, (c != '/') = true := fun cs hcs c hc =>
    bne_iff_ne.mpr fun heq => hcs (heq ▸ hc)
  have hstop : ∀ cs : List Char, Text.Stops ['/'] ('/' :: cs) := fun cs =>
    Text.stops_cons.mpr (List.mem_singleton_self '/')
  obtain ⟨rfl, hrest⟩ := Text.run_append_inj (hrun name h.1) (hrun name' h'.1) (by rfl)
    (hstop path) (hstop path') htext
  exact ⟨rfl, (List.cons.inj hrest).2⟩

/-- **The two ways in which a text is read**, once its separators are slashes. -/
theorem parse_cases (text : String) :
    (∃ name path, PointsInto (Path.normalize text) name path ∧
        parse text = inPackage (String.ofList name) (String.ofList path)) ∨
      (∀ name path, ¬PointsInto (Path.normalize text) name path) ∧
        parse text = plain (Path.normalize text) := by
  have hplain : (if (Path.normalize text).toList.contains ':' = true ∨
        (Path.normalize text).toList.head? = some '/'
      then Uri.absolute (String.ofList (Path.normalize text).toList)
      else Uri.relative (String.ofList (Path.normalize text).toList)) =
        plain (Path.normalize text) := by
    unfold plain
    simp only [List.contains_iff_mem, String.ofList_toList]
  unfold parse
  simp only [hplain]
  cases hscheme : Path.after? packageScheme.toList (Path.normalize text).toList with
  | none =>
    refine .inr ⟨fun name path h => ?_, rfl⟩
    rw [Path.after?_eq_some_iff.mpr h.2.symm] at hscheme
    exact absurd hscheme (by simp)
  | some rest =>
    have htext := Path.after?_eq_some_iff.mp hscheme
    dsimp only
    cases hslash : rest.dropWhile (· != '/') with
    | nil =>
      -- without a slash behind the name there is no path
      refine .inr ⟨fun name path h => ?_, rfl⟩
      have hrest : rest = name ++ '/' :: path :=
        List.append_cancel_left (htext.trans h.2)
      rw [List.dropWhile_eq_nil_iff] at hslash
      exact absurd (hslash '/' (hrest ▸ by simp)) (by decide)
    | cons slash path =>
      have hsplit := List.takeWhile_append_dropWhile (p := (· != '/')) (l := rest)
      rw [hslash] at hsplit
      have hhead : slash = '/' := by
        have h := List.head?_dropWhile_not (· != '/') rest
        rw [hslash] at h
        simpa using h
      subst hhead
      refine .inl ⟨rest.takeWhile (· != '/'), path, ⟨fun hmem => ?_, ?_⟩, rfl⟩
      · exact absurd (List.mem_takeWhile_imp hmem) (by decide)
      · rw [← htext, hsplit]

theorem canonical_plain {text : String} (hback : '\\' ∉ text.toList)
    (hplain : ∀ name path, ¬PointsInto text name path) : (plain text).Canonical := by
  unfold Canonical
  rw [text_plain]
  rcases parse_cases text with ⟨name, path, hinto, -⟩ | ⟨-, hparse⟩
  · rw [Path.normalize_eq_self hback] at hinto
    exact absurd hinto (hplain name path)
  · rw [hparse, Path.normalize_eq_self hback]

/-- A path inside a package is canonical when the package's name ends where it should. -/
theorem canonical_inPackage {name : String} (hslash : '/' ∉ name.toList)
    (hback : '\\' ∉ name.toList) (path : String) : (inPackage name path).Canonical := by
  unfold inPackage
  generalize hinner : String.ofList (Path.dropSlashes (Path.normalize path).toList) = inner
  have hchars : inner.toList = Path.dropSlashes (Path.normalize path).toList := by
    rw [← hinner, String.toList_ofList]
  have hclean : '\\' ∉ inner.toList := by
    rw [hchars]
    exact fun hmem =>
      Path.backslash_notMem_normalize path ((List.dropWhile_suffix _).subset hmem)
  have hdropped : Path.dropSlashes inner.toList = inner.toList := by
    rw [hchars, Path.dropSlashes_dropSlashes]
  have hinto : PointsInto (Uri.package name inner).text name.toList inner.toList := by
    refine ⟨hslash, ?_⟩
    rw [text, String.toList_append, String.toList_append, String.toList_append,
      List.append_assoc, List.append_assoc]
    rfl
  -- the text has no backslash in any of its parts
  have htext : Path.normalize (Uri.package name inner).text = (Uri.package name inner).text := by
    refine Path.normalize_eq_self ?_
    rw [hinto.2]
    simp only [List.mem_append, List.mem_cons, not_or]
    exact ⟨by decide, hback, by decide, hclean⟩
  unfold Canonical
  rcases parse_cases (Uri.package name inner).text with
    ⟨first, rest, hother, hparse⟩ | ⟨hnone, -⟩
  · rw [htext] at hother
    -- both readings of the text end the name at its first slash
    obtain ⟨hname, hrest⟩ := pointsInto_inj hother hinto
    rw [hparse, hname, hrest, String.ofList_toList, String.ofList_toList, inPackage,
      Path.normalize_eq_self hclean, hdropped, String.ofList_toList]
  · rw [htext] at hnone
    exact absurd hinto (hnone name.toList inner.toList)

/-- A relative path is canonical when nothing in it reads like a scheme or a root. -/
theorem canonical_relative {path : String} (hback : '\\' ∉ path.toList)
    (hcolon : ':' ∉ path.toList) (hroot : path.toList.head? ≠ some '/') :
    (Uri.relative path).Canonical := by
  have hplain : plain path = .relative path := by
    unfold plain
    rw [if_neg (not_or.mpr ⟨hcolon, hroot⟩)]
  rw [← hplain]
  refine canonical_plain hback fun name inner hinto => hcolon ?_
  -- the scheme of packages has a colon
  rw [hinto.2]
  exact List.mem_append_left _ (by decide)

/-- **Reading gives canonical references**, whatever the text. -/
theorem canonical_parse (text : String) : (parse text).Canonical := by
  rcases parse_cases text with ⟨name, path, ⟨hslash, htext⟩, hparse⟩ | ⟨hnone, hparse⟩
  · rw [hparse]
    refine canonical_inPackage ?_ ?_ _
    · rw [String.toList_ofList]
      exact hslash
    · rw [String.toList_ofList]
      refine fun hmem => Path.backslash_notMem_normalize text ?_
      rw [htext]
      exact List.mem_append_right _ (List.mem_append_left _ hmem)
  · rw [hparse]
    exact canonical_plain (Path.backslash_notMem_normalize text) hnone

/-- The way to a target without colons is canonical. -/
theorem canonical_between {target : String} (hcolon : ':' ∉ target.toList) (origin : String) :
    (between target origin).Canonical := by
  refine canonical_relative (fun hmem => ?_) (fun hmem => ?_) Path.head?_relative_ne
  · rcases Path.mem_of_mem_relative hmem with h | h | h
    · exact absurd h (by decide)
    · exact absurd h (by decide)
    · exact Path.backslash_notMem_normalize target h
  · rcases Path.mem_of_mem_relative hmem with h | h | h
    · exact absurd h (by decide)
    · exact absurd h (by decide)
    · rcases Path.mem_of_mem_normalize h with h | h
      · exact hcolon h
      · exact absurd h (by decide)

/-! ### The text of what was read -/

/-- A text that points into a package is kept, but for the slashes at the start of the path. -/
theorem text_parse_of_pointsInto {text : String} {name path : List Char}
    (h : PointsInto (Path.normalize text) name path) :
    (parse text).text = packageScheme ++ String.ofList name ++ "/" ++
      String.ofList (Path.dropSlashes path) := by
  have hback : '\\' ∉ (String.ofList path).toList := by
    rw [String.toList_ofList]
    refine fun hmem => Path.backslash_notMem_normalize text ?_
    rw [h.2]
    exact List.mem_append_right _ (List.mem_append_right _ (List.mem_cons_of_mem _ hmem))
  rcases parse_cases text with ⟨name', path', hinto, hparse⟩ | ⟨hnone, -⟩
  · obtain ⟨rfl, rfl⟩ := pointsInto_inj hinto h
    rw [hparse, inPackage, Path.normalize_eq_self hback, String.toList_ofList, Uri.text]
  · exact absurd h (hnone name path)

theorem text_parse_of_not_pointsInto {text : String}
    (h : ∀ name path, ¬PointsInto (Path.normalize text) name path) :
    (parse text).text = Path.normalize text := by
  rcases parse_cases text with ⟨name, path, hinto, -⟩ | ⟨-, hparse⟩
  · exact absurd hinto (h name path)
  · rw [hparse, text_plain]

/-- A text points into a package when it is put together from the scheme, a name, a slash and a
path. -/
theorem pointsInto_of_eq {text name path : String} (hname : '/' ∉ name.toList)
    (htext : text = packageScheme ++ name ++ "/" ++ path) :
    PointsInto text name.toList path.toList := by
  refine ⟨hname, ?_⟩
  rw [htext]
  simp only [String.toList_append, List.append_assoc]
  rfl

/-- **Reading is canonical.** Reading the text of what was read changes nothing. That text is the
one that was read, with its separators made slashes; only where it points into a package, the
slashes at the start of the path are left out. And a path inside a package comes back from its
text, as long as no separator stands in the name of the package. -/
theorem reading_canonical (text : String) :
    parse (parse text).text = parse text ∧
      (∀ name slashes path : String, '/' ∉ name.toList → (∀ c ∈ slashes.toList, c = '/') →
        path.toList.head? ≠ some '/' →
        Path.normalize text = "package:" ++ name ++ "/" ++ (slashes ++ path) →
          (parse text).text = "package:" ++ name ++ "/" ++ path) ∧
      ((∀ name rest : String, '/' ∉ name.toList →
        Path.normalize text ≠ "package:" ++ name ++ "/" ++ rest) →
          (parse text).text = Path.normalize text) ∧
      ∀ name path : String, '/' ∉ name.toList → '\\' ∉ name.toList →
        parse (inPackage name path).text = inPackage name path := by
  refine ⟨canonical_parse text, fun name slashes path hname hslashes hpath htext => ?_,
    fun hnone => ?_, fun name path hslash hback => canonical_inPackage hslash hback path⟩
  · have hdropped : Path.dropSlashes (slashes ++ path).toList = path.toList := by
      rw [Path.dropSlashes, String.toList_append,
        List.dropWhile_append_of_pos fun c hc => beq_iff_eq.mpr (hslashes c hc)]
      cases hchars : path.toList with
      | nil => rfl
      | cons c rest =>
        rw [hchars, List.head?_cons] at hpath
        exact List.dropWhile_cons_of_neg fun hc => hpath (congrArg some (beq_iff_eq.mp hc))
    rw [text_parse_of_pointsInto (pointsInto_of_eq hname htext), hdropped, String.ofList_toList,
      String.ofList_toList]
    rfl
  · refine text_parse_of_not_pointsInto fun name path hinto => ?_
    refine hnone (String.ofList name) (String.ofList path) ?_ ?_
    · rw [String.toList_ofList]
      exact hinto.1
    · rw [← String.toList_inj, hinto.2]
      simp only [String.toList_append, String.toList_ofList, List.append_assoc]
      rfl

/-- A package without a name, the scheme without a slash behind it, and a name that looks like a
scheme. -/
theorem reading_canonical_oddNames :
    (parse "package:\\/\\a").text = "package:/a" ∧ parse "package:/a" = parse "package:\\/\\a" ∧
      (parse "package:a").text = "package:a" ∧
      parse (inPackage "dart:" "\\\\b").text = inPackage "dart:" "\\\\b" := by
  have hodd : (parse "package:\\/\\a").text = "package:/a" :=
    (reading_canonical "package:\\/\\a").2.1 "" "//" "a" (by decide) (by simp) (by decide)
      (by decide)
  refine ⟨hodd, ?_, ?_, ?_⟩
  · rw [← hodd]
    exact (reading_canonical "package:\\/\\a").1
  · refine (reading_canonical "package:a").2.2.1 fun name rest _ htext => ?_
    -- there is no slash in the text
    have hslash : '/' ∈ (Path.normalize "package:a").toList := by
      rw [htext]
      simp
    exact absurd hslash (by decide)
  · exact (reading_canonical "").2.2.2 "dart:" "\\\\b" (by decide) (by decide)

end Uri

/-! ### Resolving -/

theorem Asset.colon_notMem_ofPath {path : String} (h : ':' ∉ path.toList) (package : String) :
    ':' ∉ (ofPath package path).path.toList := by
  unfold ofPath Path.dropSlashes
  rw [String.toList_ofList]
  intro hmem
  rcases Path.mem_of_mem_normalize
    (Path.mem_of_mem_dropDotSlashes ((List.dropWhile_suffix _).subset hmem)) with hmem | hmem
  · exact h hmem
  · exact absurd hmem (by decide)

namespace Packages

variable {packages : Packages} {asset : Asset} {origin : Option Asset} {uri : Uri}

/-- An asset that is resolved is reached through its package or from a file beside it. -/
theorem resolve_eq_ok (h : packages.resolve asset origin = .ok uri) :
    (∃ path, uri = .inPackage asset.package path) ∨
      ∃ file : Asset, uri = .between asset.path file.path := by
  have hknown : ¬packages.Lacks asset := fun hlacks => by
    rw [resolve_of_lacks hlacks] at h
    exact absurd h (by simp)
  rw [resolve_of_not_lacks hknown] at h
  by_cases hbeside : ∃ file, origin = some file ∧ file.package = asset.package
  · obtain ⟨file, rfl, hpackage⟩ := hbeside
    rw [resolve_beside hpackage] at h
    split at h
    · split at h
      · exact .inr ⟨file, (Except.ok.inj h).symm⟩
      · exact .inl ⟨_, (Except.ok.inj h).symm⟩
    · split at h
      · exact absurd h (by simp)
      · exact .inr ⟨file, (Except.ok.inj h).symm⟩
  · rw [resolve_apart fun file hfile hpackage => hbeside ⟨file, hfile, hpackage⟩] at h
    split at h
    · exact .inl ⟨_, (Except.ok.inj h).symm⟩
    · exact absurd h (by simp)

/-- **Resolving gives the reference that reading its text would give.** -/
theorem canonical_resolve (h : packages.resolve asset origin = .ok uri)
    (hslash : '/' ∉ asset.package.toList) (hback : '\\' ∉ asset.package.toList)
    (hcolon : ':' ∉ asset.path.toList) : uri.Canonical := by
  rcases resolve_eq_ok h with ⟨path, rfl⟩ | ⟨file, rfl⟩
  · exact Uri.canonical_inPackage hslash hback path
  · exact Uri.canonical_between hcolon file.path

end Packages

end DartSource
