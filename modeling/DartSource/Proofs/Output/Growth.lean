import Mathlib.Data.List.Induction
import DartSource.Output.FileTree

/-!
# How file trees grow

A tree changes in two ways only: directories are made, and a text is put at a place. Making
directories leaves every file as it was and every directory where it was (`Grown`); putting a text
changes the file at its own place and no other (`file?_putFile`).

A path goes through the directories that are there, so a path that leads to a place still leads
there in a grown tree (`walk?_mono`). A path that led nowhere may lead somewhere afterwards, even to
a file that has been there all along: this takes a `..` behind a directory that was missing. Without
one the path spells the place out, and in a tree where everything stands in a directory (`Rooted`)
whatever is at such a place was within reach before (`Rooted.walk?_of_dropLast`, `Rooted.detour`).
-/

namespace DartSource

namespace FileTree

/-! ### The place of a path -/

/-- The place that a path leads to. -/
def place? (tree : FileTree) (path : String) : Option Place :=
  tree.walk? [] (parts path)

theorem walk?_append (tree : FileTree) (place : Place) (front rest : List String) :
    tree.walk? place (front ++ rest) = (tree.walk? place front).bind (tree.walk? · rest) := by
  induction front generalizing place with
  | nil => rfl
  | cons part front ih =>
    rw [List.cons_append, walk?, walk?]
    split
    · exact ih _
    · rfl

theorem walk?_concat_eq_some_iff {tree : FileTree} {start place : Place} {front : List String}
    {part : String} :
    tree.walk? start (front ++ [part]) = some place ↔
      ∃ around, tree.walk? start front = some around ∧ tree.isDirectory around = true ∧
        enter around part = place := by
  rw [walk?_append, Option.bind_eq_some_iff]
  simp only [walk?, Option.ite_none_right_eq_some, Option.some.injEq]

/-- A walk that never goes back ends at the place that it spells out. -/
theorem walk?_eq_append {tree : FileTree} {start place : Place} {steps : List String}
    (forward : ".." ∉ steps) (h : tree.walk? start steps = some place) :
    place = start ++ steps := by
  induction steps generalizing start with
  | nil => simpa [walk?] using h.symm
  | cons part steps ih =>
    rw [List.mem_cons, not_or] at forward
    rw [walk?] at h
    split at h
    · rw [ih forward.2 h, enter, if_neg (Ne.symm forward.1), List.append_assoc,
        List.singleton_append]
    · exact absurd h (by simp)

/-- The limit decides, of all that a tree is, which paths can be used. -/
theorem isUsable_eq_of_pathLimit_eq {tree other : FileTree}
    (same : other.pathLimit = tree.pathLimit) : other.isUsable = tree.isUsable := by
  funext path
  rw [isUsable, isUsable, same]

/-! ### Texts put in place -/

@[simp] theorem pathLimit_putFile (tree : FileTree) (place : Place) (text : String) :
    (tree.putFile place text).pathLimit = tree.pathLimit := rfl

@[simp] theorem isUsable_putFile (tree : FileTree) (place : Place) (text : String) :
    (tree.putFile place text).isUsable = tree.isUsable := rfl

@[simp] theorem isDirectory_putFile (tree : FileTree) (place : Place) (text : String) :
    (tree.putFile place text).isDirectory = tree.isDirectory := rfl

theorem walk?_putFile (tree : FileTree) (place start : Place) (text : String)
    (steps : List String) :
    (tree.putFile place text).walk? start steps = tree.walk? start steps := by
  induction steps generalizing start with
  | nil => rfl
  | cons part steps ih => rw [walk?, walk?, ih, isDirectory_putFile]

@[simp] theorem place?_putFile (tree : FileTree) (place : Place) (text path : String) :
    (tree.putFile place text).place? path = tree.place? path :=
  walk?_putFile tree place [] text (parts path)

/-- A text changes the file at its own place and no other. -/
theorem file?_putFile (tree : FileTree) (place other : Place) (text : String) :
    (tree.putFile place text).file? other =
      if other = place then some text else tree.file? other := by
  unfold file? putFile
  by_cases h : other = place
  · simp [h]
  · have kept : ((tree.files.filter fun entry => entry.1 != place).find? fun entry =>
        entry.1 == other) = tree.files.find? fun entry => entry.1 == other := by
      rw [List.find?_filter]
      congr 1
      funext entry
      by_cases he : entry.1 = other <;> simp [he, h]
    rw [if_neg h, List.find?_cons_of_neg (by simpa using Ne.symm h), kept]

/-! ### Directories made -/

/-- The second tree has the files of the first, and its directories and perhaps more. The same paths
can be used in both. -/
structure Grown (tree grown : FileTree) : Prop where
  pathLimit : grown.pathLimit = tree.pathLimit
  file? (place : Place) : grown.file? place = tree.file? place
  isDirectory {place : Place} : tree.isDirectory place = true → grown.isDirectory place = true

namespace Grown

theorem refl (tree : FileTree) : Grown tree tree :=
  ⟨rfl, fun _ => rfl, id⟩

theorem trans {tree middle grown : FileTree} (first : Grown tree middle)
    (second : Grown middle grown) : Grown tree grown :=
  ⟨second.pathLimit.trans first.pathLimit,
    fun place => (second.file? place).trans (first.file? place),
    fun h => second.isDirectory (first.isDirectory h)⟩

theorem makeDirectory (tree : FileTree) (place : Place) :
    Grown tree { tree with directories := tree.directories ++ [place] } := by
  refine ⟨rfl, fun _ => rfl, fun {other} h => ?_⟩
  unfold FileTree.isDirectory at h ⊢
  simp only [Bool.or_eq_true, List.contains_iff_mem, List.mem_append] at h ⊢
  exact h.imp_right .inl

end Grown

/-- A walk reads the directories alone, and more of them do not lead it astray. -/
theorem walk?_mono {tree grown : FileTree}
    (more : ∀ place, tree.isDirectory place = true → grown.isDirectory place = true)
    {start place : Place} {steps : List String} (h : tree.walk? start steps = some place) :
    grown.walk? start steps = some place := by
  induction steps generalizing start with
  | nil => exact h
  | cons part steps ih =>
    rw [walk?] at h ⊢
    split at h
    next there =>
      rw [if_pos (more start there)]
      exact ih h
    · exact absurd h (by simp)

theorem grown_makeAlong (tree : FileTree) (place : Place) (steps : List String) :
    Grown tree (tree.makeAlong place steps).1 := by
  fun_induction makeAlong tree place steps with
  | case1 tree place => exact .refl tree
  | case2 tree place part rest next there ih => exact ih
  | case3 tree place part rest next missing stuck => exact .refl tree
  | case4 tree place part rest next missing free ih =>
    exact (Grown.makeDirectory tree next).trans ih

theorem grown_makeParent (tree : FileTree) (path : String) :
    Grown tree (tree.makeParent path).1 := by
  unfold makeParent
  split
  · exact .refl tree
  · exact grown_makeAlong tree [] (parts path).dropLast

/-! ### Trees in which everything stands in a directory -/

/-- Every directory and every file stands in a directory. -/
structure Rooted (tree : FileTree) : Prop where
  directory {place : Place} : tree.isDirectory place = true → tree.isDirectory place.dropLast = true
  file {place : Place} {text : String} :
    tree.file? place = some text → tree.isDirectory place.dropLast = true

theorem mem_of_file?_eq_some {tree : FileTree} {place : Place} {text : String}
    (h : tree.file? place = some text) : (place, text) ∈ tree.files := by
  obtain ⟨entry, found, rfl⟩ := Option.map_eq_some_iff.mp h
  obtain rfl : entry.1 = place := by simpa using List.find?_some found
  exact List.mem_of_find?_eq_some found

theorem rooted_of_lists {tree : FileTree}
    (directories : ∀ place ∈ tree.directories, tree.isDirectory place.dropLast = true)
    (files : ∀ entry ∈ tree.files, tree.isDirectory entry.1.dropLast = true) : tree.Rooted where
  directory {place} h := by
    rw [isDirectory, Bool.or_eq_true, List.contains_iff_mem, List.isEmpty_iff] at h
    rcases h with rfl | listed
    · rfl
    · exact directories place listed
  file h := files _ (mem_of_file?_eq_some h)

namespace Rooted

/-- A step out of a directory that does not end in a directory goes forward: going back would. -/
theorem dropLast_enter {tree : FileTree} (rooted : tree.Rooted) {around : Place} {part : String}
    (there : tree.isDirectory around = true)
    (outside : tree.isDirectory (enter around part) = false) :
    (enter around part).dropLast = around := by
  unfold enter at outside ⊢
  split at outside
  · rw [rooted.directory there] at outside
    contradiction
  next forward => rw [if_neg forward, List.dropLast_concat]

/-- What a walk reaches outside the directories stands in a directory. -/
theorem isDirectory_dropLast {tree : FileTree} (rooted : tree.Rooted) {place : Place}
    {steps : List String} (h : tree.walk? [] steps = some place)
    (outside : tree.isDirectory place = false) : tree.isDirectory place.dropLast = true := by
  induction steps using List.reverseRecOn with
  | nil =>
    obtain rfl : [] = place := by simpa [walk?] using h
    rfl
  | append_singleton front part _ =>
    obtain ⟨around, -, there, rfl⟩ := walk?_concat_eq_some_iff.mp h
    rwa [rooted.dropLast_enter there outside]

/-- **A place without `..` is within reach** as soon as its directory is there. -/
theorem walk?_of_dropLast {tree : FileTree} (rooted : tree.Rooted) {place : Place}
    (forward : ".." ∉ place) (there : tree.isDirectory place.dropLast = true) :
    tree.walk? [] place = some place := by
  induction place using List.reverseRecOn with
  | nil => rfl
  | append_singleton around part ih =>
    rw [List.mem_append, not_or] at forward
    rw [List.dropLast_concat] at there
    -- The directory stands in one itself, so the walk to it is there by induction.
    refine walk?_concat_eq_some_iff.mpr ⟨around, ih forward.1 (rooted.directory there), there, ?_⟩
    exact if_neg fun h => forward.2 (by simp [h])

theorem putFile {tree : FileTree} (rooted : tree.Rooted) {place : Place} (text : String)
    (there : tree.isDirectory place.dropLast = true) : (tree.putFile place text).Rooted where
  directory h := rooted.directory h
  file {other} _ h := by
    rw [file?_putFile] at h
    split at h
    next same => exact same ▸ there
    · exact rooted.file h

theorem makeDirectory {tree : FileTree} (rooted : tree.Rooted) {place : Place}
    (there : tree.isDirectory place.dropLast = true) :
    Rooted { tree with directories := tree.directories ++ [place] } := by
  have grown := Grown.makeDirectory tree place
  refine ⟨fun {other} h => ?_, fun h => grown.isDirectory (rooted.file h)⟩
  rw [isDirectory, Bool.or_eq_true, List.contains_iff_mem, List.mem_append, List.mem_singleton] at h
  rcases h with empty | old | rfl
  · rw [List.isEmpty_iff.mp empty]
    rfl
  · exact grown.isDirectory (rooted.directory (by simp [isDirectory, old]))
  · exact grown.isDirectory there

theorem makeAlong {tree : FileTree} (rooted : tree.Rooted) {place : Place}
    (there : tree.isDirectory place = true) (steps : List String) :
    (tree.makeAlong place steps).1.Rooted := by
  fun_induction FileTree.makeAlong tree place steps with
  | case1 tree place => exact rooted
  | case2 tree place part rest next reached ih => exact ih rooted reached
  | case3 tree place part rest next missing stuck => exact rooted
  | case4 tree place part rest next missing free ih =>
    have around : next.dropLast = place := rooted.dropLast_enter there (by simpa using missing)
    exact ih (rooted.makeDirectory (around ▸ there)) (by simp [isDirectory])

theorem makeParent {tree : FileTree} (rooted : tree.Rooted) (path : String) :
    (tree.makeParent path).1.Rooted := by
  unfold FileTree.makeParent
  split
  · exact rooted
  · exact rooted.makeAlong rfl (parts path).dropLast

end Rooted

/-! ### Paths that a text can be put at -/

/-- The path is that of a file, which is at the place or can be put there. -/
structure Receives (tree : FileTree) (path : String) (place : Place) : Prop where
  leads : tree.place? path = some place
  usable : tree.isUsable path = true
  namesFile : meansDirectory path = false
  outside : tree.isDirectory place = false

theorem writeFile_cases (tree : FileTree) (path text : String) :
    tree.writeFile path text = (tree, false) ∨
      ∃ place, tree.Receives path place ∧
        tree.writeFile path text = (tree.putFile place text, true) := by
  unfold writeFile
  split
  · exact .inl rfl
  next place leads =>
    split
    · exact .inl rfl
    next fits =>
      simp only [Bool.or_eq_true, Bool.not_eq_true', not_or, Bool.not_eq_true,
        Bool.not_eq_false] at fits
      obtain ⟨⟨⟨usable, namesFile⟩, outside⟩, -⟩ := fits
      exact .inr ⟨place, ⟨leads, usable, namesFile, outside⟩, rfl⟩

theorem Receives.read?_putFile {tree : FileTree} {path : String} {place : Place}
    (received : tree.Receives path place) (text : String) :
    (tree.putFile place text).read? path = some text := by
  have leads : (tree.putFile place text).walk? [] (parts path) = some place :=
    (place?_putFile tree place text path).trans received.leads
  rw [read?, isUsable_putFile, received.usable, received.namesFile, leads]
  exact (file?_putFile tree place place text).trans (if_pos rfl)

theorem read?_eq_some_iff {tree : FileTree} {path text : String} :
    tree.read? path = some text ↔
      tree.isUsable path = true ∧ meansDirectory path = false ∧
        ∃ place, tree.place? path = some place ∧ tree.file? place = some text := by
  unfold read? place?
  rw [Option.ite_none_left_eq_some, Option.bind_eq_some_iff]
  simp only [Bool.or_eq_true, Bool.not_eq_true', not_or, Bool.not_eq_true, Bool.not_eq_false,
    and_assoc]

theorem pathExists_of_read? {tree : FileTree} {path text : String}
    (h : tree.read? path = some text) : tree.pathExists path = true := by
  obtain ⟨usable, namesFile, place, leads, held⟩ := read?_eq_some_iff.mp h
  rw [place?] at leads
  simp [pathExists, leads, usable, namesFile, held]

/-- **Only a detour hides a file.** If a path that does not exist leads to a file once directories
have been made, it goes back out of a directory that was missing. -/
theorem Rooted.detour {tree grown : FileTree} (rooted : tree.Rooted) (growth : Grown tree grown)
    {path text : String} {place : Place} (received : grown.Receives path place)
    (held : tree.file? place = some text) (missing : tree.pathExists path = false) :
    ".." ∈ parts path ∧ tree.place? path = none := by
  have unreached : tree.place? path ≠ some place := by
    intro leads
    have usable : tree.isUsable path = true :=
      isUsable_eq_of_pathLimit_eq growth.pathLimit ▸ received.usable
    have found : tree.read? path = some text :=
      read?_eq_some_iff.mpr ⟨usable, received.namesFile, place, leads, held⟩
    rw [pathExists_of_read? found] at missing
    contradiction
  constructor
  · by_contra forward
    have spelled : place = parts path := walk?_eq_append forward received.leads
    subst spelled
    exact unreached (rooted.walk?_of_dropLast forward (rooted.file held))
  · -- A path that leads anywhere leads there still, so it would lead to the file.
    cases leads : tree.place? path with
    | none => rfl
    | some other =>
      have same : some other = some place :=
        (walk?_mono (fun _ => growth.isDirectory) leads).symm.trans received.leads
      exact absurd (leads.trans same) unreached

end FileTree

end DartSource
