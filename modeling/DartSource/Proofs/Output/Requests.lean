import DartSource.Output.Write
import DartSource.Proofs.Output.Growth

/-!
# Runs of writes

Files are written by **requests**, one after the other: a text or a source file, a path, and a rule
for what is there already. A request takes one of four courses (`Request.course`). It is skipped; or
its text cannot be had; or there is no way to put the text at the path; or the text is put there.
Only the last course changes a file, and it changes the one at the end of the path alone.

From this it follows what a whole run can do to a file that is there. The file stays as it is until
a request is carried out that puts a text at its place, and such a request either replaces whatever
is there or takes a detour: its path goes back out of a directory that was missing, so nothing was
found at the end of the path when the rule was asked, and the file came within reach only when the
directory had been made (`run_keeps_files`). The rule that leaves files alone does not hold on a
detour (`ifMissing_overwrites_on_detour`).
-/

namespace DartSource

/-- A file that is to be written. -/
inductive Request where
  /-- The text is given. -/
  | text (path : String) (overwrite : Overwrite) (content : String)
  /-- The text is that of a source file, formatted if there is a formatter. -/
  | source (path : String) (overwrite : Overwrite) (file : SourceFile)
      (formatter : Option Formatter)

namespace Request

def path : Request → String
  | .text path _ _ => path
  | .source path _ _ _ => path

def overwrite : Request → Overwrite
  | .text _ overwrite _ => overwrite
  | .source _ overwrite _ _ => overwrite

/-- The text to be written, or why it cannot be had. -/
def content : Request → Except FormattingFault String
  | .text _ _ content => .ok content
  | .source _ _ file formatter => file.formatted formatter

/-- Carries the request out: the tree, and what became of the request. -/
def perform (tree : FileTree) : Request → FileTree × Except WriteFault WriteResult
  | .text path overwrite content => tree.write path overwrite fun _ => .ok content
  | .source path overwrite file formatter => tree.writeSource path overwrite file formatter

/-- The request is to leave alone what is there, and something is there. -/
def Skips (request : Request) (tree : FileTree) : Prop :=
  request.overwrite = .ifMissing ∧ tree.pathExists request.path = true

/-- The path of the request goes back, and it does so out of a directory that is missing. -/
def Detours (request : Request) (tree : FileTree) : Prop :=
  ".." ∈ FileTree.parts request.path ∧ tree.place? request.path = none

theorem perform_eq (tree : FileTree) (request : Request) :
    request.perform tree = tree.write request.path request.overwrite fun _ => request.content := by
  cases request <;> rfl

end Request

/-! ### The courses of a request -/

namespace FileTree

/-- The directory of the path can be made, and then the text be put there. -/
def Storable (tree : FileTree) (path text : String) : Prop :=
  (tree.makeParent path).2 = true ∧ ((tree.makeParent path).1.writeFile path text).2 = true

theorem store_cases (tree : FileTree) (path text : String) :
    (¬ tree.Storable path text ∧
      ∃ fault, tree.store path text = ((tree.makeParent path).1, .error fault)) ∨
    (tree.Storable path text ∧ ∃ place, (tree.makeParent path).1.Receives path place ∧
      tree.store path text = ((tree.makeParent path).1.putFile place text, .ok .written)) := by
  unfold store Storable
  obtain ⟨grown, made⟩ := tree.makeParent path
  cases made with
  | false => exact .inl ⟨fun h => absurd h.1 Bool.false_ne_true, _, rfl⟩
  | true =>
    dsimp only
    obtain stuck | ⟨place, received, stored⟩ := writeFile_cases grown path text
    · rw [stuck]
      exact .inl ⟨fun h => absurd h.2 Bool.false_ne_true, _, rfl⟩
    · rw [stored]
      exact .inr ⟨⟨rfl, rfl⟩, place, received, rfl⟩

end FileTree

namespace Request

/-- The courses that a request can take, each with the tree and the result that it ends in. -/
inductive Course (tree : FileTree) (request : Request) :
    FileTree → Except WriteFault WriteResult → Prop
  | skipped (skips : request.Skips tree) : Course tree request tree (.ok .skipped)
  | unformatted {cause : FormattingFault} (goes : ¬ request.Skips tree)
      (failed : request.content = .error cause) :
      Course tree request tree (.error (.formatting cause))
  | refused {text : String} {fault : WriteFault} (goes : ¬ request.Skips tree)
      (had : request.content = .ok text) (stuck : ¬ tree.Storable request.path text) :
      Course tree request (tree.makeParent request.path).1 (.error fault)
  | written {text : String} {place : Place} (goes : ¬ request.Skips tree)
      (had : request.content = .ok text) (storable : tree.Storable request.path text)
      (received : (tree.makeParent request.path).1.Receives request.path place) :
      Course tree request ((tree.makeParent request.path).1.putFile place text) (.ok .written)

/-- **Every request takes one of the four courses.** -/
theorem course (tree : FileTree) (request : Request) :
    Course tree request (request.perform tree).1 (request.perform tree).2 := by
  rw [perform_eq, FileTree.write]
  split
  next skips => exact .skipped skips
  next goes =>
    cases had : request.content with
    | error cause => exact .unformatted goes had
    | ok text =>
      obtain ⟨stuck, fault, stored⟩ | ⟨storable, place, received, stored⟩ :=
        tree.store_cases request.path text
      · simp only [stored]
        exact .refused goes had stuck
      · simp only [stored]
        exact .written goes had storable received

namespace Course

variable {tree : FileTree} {request : Request} {after : FileTree}
  {result : Except WriteFault WriteResult}

theorem rooted (taken : Course tree request after result) (rooted : tree.Rooted) :
    after.Rooted := by
  have grown := rooted.makeParent request.path
  cases taken with
  | skipped | unformatted => exact rooted
  | refused => exact grown
  | written _ _ _ received =>
    exact grown.putFile _ (grown.isDirectory_dropLast received.leads received.outside)

/-- No course changes which paths can be used. -/
theorem pathLimit (taken : Course tree request after result) :
    after.pathLimit = tree.pathLimit := by
  have grown := tree.grown_makeParent request.path
  cases taken with
  | skipped | unformatted => rfl
  | refused => exact grown.pathLimit
  | written =>
    rw [FileTree.pathLimit_putFile]
    exact grown.pathLimit

theorem isDirectory (taken : Course tree request after result) (place : Place)
    (there : tree.isDirectory place = true) : after.isDirectory place = true := by
  have grown := tree.grown_makeParent request.path
  cases taken with
  | skipped | unformatted => exact there
  | refused => exact grown.isDirectory there
  | written =>
    rw [FileTree.isDirectory_putFile]
    exact grown.isDirectory there

theorem skipped_iff (taken : Course tree request after result) :
    result = .ok .skipped ↔ request.Skips tree := by
  cases taken with
  | skipped skips => simp [skips]
  | unformatted goes | refused goes | written goes => simp [goes]

theorem written_iff (taken : Course tree request after result) :
    result = .ok .written ↔
      ¬ request.Skips tree ∧
        ∃ text, request.content = .ok text ∧ tree.Storable request.path text := by
  cases taken with
  | skipped skips => simp [skips]
  | unformatted goes failed => simp [failed]
  | refused goes had stuck => simp [had, stuck]
  | written goes had storable => simp [goes, had, storable]

theorem eq_of_unformatted (taken : Course tree request after result) (goes : ¬ request.Skips tree)
    {cause : FormattingFault} (failed : request.content = .error cause) :
    after = tree ∧ result = .error (.formatting cause) := by
  cases taken with
  | skipped skips => exact absurd skips goes
  | unformatted _ failed' =>
    rw [failed] at failed'
    rw [Except.error.inj failed']
    exact ⟨rfl, rfl⟩
  | refused _ had | written _ had =>
    rw [failed] at had
    cases had

/-- Only a text that is put in its place changes a file. -/
theorem file?_of_not_written (taken : Course tree request after result)
    (kept : result ≠ .ok .written) (place : Place) : after.file? place = tree.file? place := by
  cases taken with
  | skipped | unformatted => rfl
  | refused => exact (tree.grown_makeParent request.path).file? place
  | written => exact absurd rfl kept

/-- A text that is put in its place is found at the end of the path, and every other file is as it
was. -/
theorem exists_of_written (taken : Course tree request after result)
    (done : result = .ok .written) :
    ∃ text place, request.content = .ok text ∧ after.place? request.path = some place ∧
      after.read? request.path = some text ∧
      ∀ other, other ≠ place → after.file? other = tree.file? other := by
  cases taken with
  | skipped | unformatted | refused => cases done
  | written _ had _ received =>
    refine ⟨_, _, had, (FileTree.place?_putFile ..).trans received.leads,
      received.read?_putFile _, ?_⟩
    intro other elsewhere
    rw [FileTree.file?_putFile, if_neg elsewhere]
    exact (tree.grown_makeParent request.path).file? other

/-- **What it takes to change a file.** The text is put at the place of the file, and the request
replaces what is there or takes a detour. -/
theorem changed (taken : Course tree request after result) (rooted : tree.Rooted) {place : Place}
    {text : String} (held : tree.file? place = some text) (lost : after.file? place ≠ some text) :
    result = .ok .written ∧ after.place? request.path = some place ∧
      (request.overwrite = .always ∨ request.Detours tree) := by
  cases taken with
  | skipped | unformatted => exact absurd held lost
  | refused => exact absurd (((tree.grown_makeParent request.path).file? place).trans held) lost
  | @written _ reached goes _ _ received =>
    have grown := tree.grown_makeParent request.path
    -- Files elsewhere are kept, so the text went to the place of the file.
    have here : place = reached := by
      by_contra elsewhere
      rw [FileTree.file?_putFile, if_neg elsewhere, grown.file?] at lost
      exact lost held
    subst here
    refine ⟨rfl, (FileTree.place?_putFile ..).trans received.leads, ?_⟩
    cases rule : request.overwrite with
    | always => exact .inl rfl
    | ifMissing =>
      have missing : tree.pathExists request.path = false :=
        Bool.eq_false_iff.mpr fun there => goes ⟨rule, there⟩
      exact .inr (rooted.detour grown received held missing)

end Course

end Request

/-! ### Runs -/

namespace FileTree

/-- The tree after a run of requests. -/
def run (tree : FileTree) (requests : List Request) : FileTree :=
  requests.foldl (fun tree request => (request.perform tree).1) tree

/-- The same paths can be used after every run. -/
theorem isUsable_run (tree : FileTree) (requests : List Request) :
    (tree.run requests).isUsable = tree.isUsable := by
  induction requests generalizing tree with
  | nil => rfl
  | cons request requests ih =>
    exact (ih _).trans (isUsable_eq_of_pathLimit_eq (request.course tree).pathLimit)

/-- Directories outlast every run. -/
theorem isDirectory_run (tree : FileTree) (requests : List Request) (place : Place)
    (there : tree.isDirectory place = true) : (tree.run requests).isDirectory place = true := by
  induction requests generalizing tree with
  | nil => exact there
  | cons request requests ih => exact ih _ ((request.course tree).isDirectory place there)

/-- A run that changes a file has a request that does it. -/
theorem changed_of_run {tree : FileTree} (rooted : tree.Rooted) {place : Place} {text : String}
    (held : tree.file? place = some text) {requests : List Request}
    (lost : (tree.run requests).file? place ≠ some text) :
    ∃ front request rest, requests = front ++ request :: rest ∧
      (request.perform (tree.run front)).2 = .ok .written ∧
      (request.perform (tree.run front)).1.place? request.path = some place ∧
      (request.overwrite = .always ∨ request.Detours (tree.run front)) := by
  induction requests generalizing tree with
  | nil => exact absurd held lost
  | cons request requests ih =>
    have taken := request.course tree
    -- Either the file outlasts the first request, or that request is the one.
    by_cases still : (request.perform tree).1.file? place = some text
    · obtain ⟨front, other, rest, rfl, found⟩ := ih (taken.rooted rooted) still lost
      exact ⟨request :: front, other, rest, rfl, found⟩
    · exact ⟨[], request, requests, rfl, taken.changed rooted held still⟩

end FileTree

namespace Request

/-- What a request promises on a tree. -/
structure Contract (tree : FileTree) (request : Request) : Prop where
  /-- It is skipped if it is to leave alone what is there and something is there. -/
  skipped_iff : (request.perform tree).2 = .ok .skipped ↔ request.Skips tree
  /-- Then nothing changes, and the text is not asked for: whatever it is, and whether or not it can
  be had, the request is skipped. -/
  skipped_eq : request.Skips tree → ∀ other : Request, other.path = request.path →
    other.overwrite = request.overwrite → other.perform tree = (tree, .ok .skipped)
  /-- Nothing changes if the text is asked for and cannot be had. -/
  unformatted : ¬ request.Skips tree → ∀ cause, request.content = .error cause →
    request.perform tree = (tree, .error (.formatting cause))
  /-- The text is written whenever it is asked for and can be had and stored. -/
  written_iff : (request.perform tree).2 = .ok .written ↔
    ¬ request.Skips tree ∧ ∃ text, request.content = .ok text ∧ tree.Storable request.path text
  /-- Then it is found at the end of the path, and every other file is as it was. -/
  written : (request.perform tree).2 = .ok .written →
    ∃ text place, request.content = .ok text ∧
      (request.perform tree).1.place? request.path = some place ∧
      (request.perform tree).1.read? request.path = some text ∧
      ∀ other, other ≠ place → (request.perform tree).1.file? other = tree.file? other
  /-- Otherwise every file is as it was. -/
  kept : (request.perform tree).2 ≠ .ok .written →
    ∀ place, (request.perform tree).1.file? place = tree.file? place
  /-- No directory is lost. -/
  isDirectory : ∀ place, tree.isDirectory place = true →
    (request.perform tree).1.isDirectory place = true

theorem contract (tree : FileTree) (request : Request) : Contract tree request where
  skipped_iff := (request.course tree).skipped_iff
  skipped_eq skips other samePath sameRule := by
    rw [perform_eq, FileTree.write, samePath, sameRule]
    exact if_pos skips
  unformatted goes _ failed :=
    Prod.ext_iff.mpr ((request.course tree).eq_of_unformatted goes failed)
  written_iff := (request.course tree).written_iff
  written := (request.course tree).exists_of_written
  kept := (request.course tree).file?_of_not_written
  isDirectory := (request.course tree).isDirectory

end Request

namespace FileTree

/-- **A run keeps the files that are there.** Every request of the run keeps its contract, and a
file that can be read changes only through a request that is carried out at its place and replaces
what is there, detours apart. -/
theorem run_keeps_files (tree : FileTree) (rooted : tree.Rooted) (requests : List Request) :
    (∀ front request rest, requests = front ++ request :: rest →
      Request.Contract (tree.run front) request) ∧
    ∀ path text, tree.read? path = some text → (tree.run requests).read? path ≠ some text →
      ∃ front request rest, requests = front ++ request :: rest ∧
        (request.perform (tree.run front)).2 = .ok .written ∧
        (request.perform (tree.run front)).1.place? request.path = tree.place? path ∧
        (request.overwrite = .always ∨ request.Detours (tree.run front)) := by
  refine ⟨fun front request rest _ => request.contract (tree.run front), ?_⟩
  intro path text readable changed
  obtain ⟨usable, namesFile, place, leads, held⟩ := read?_eq_some_iff.mp readable
  rw [← isUsable_run tree requests] at usable
  -- The path leads to the place ever after, so it is the file that has changed.
  have lost : (tree.run requests).file? place ≠ some text := fun still =>
    changed (read?_eq_some_iff.mpr
      ⟨usable, namesFile, place, walk?_mono (isDirectory_run tree requests) leads, still⟩)
  rw [leads]
  exact changed_of_run rooted held lost

/-- A stub and a generated file: the stub is there and stays, though its formatter would fail, and
the generated file is replaced. -/
theorem run_keeps_files_stub :
    let tree : FileTree :=
      { top := "app", directories := [["lib"]],
        files := [(["lib", "stub.dart"], "mine"), (["lib", "made.dart"], "old")] }
    let requests : List Request :=
      [.source "lib/stub.dart" .ifMissing {} (some fun _ => .error (.refused "no")),
        .text "lib/./made.dart" .always "new"]
    tree.Rooted ∧ (tree.run requests).read? "lib/stub.dart" = some "mine" ∧
      tree.read? "lib/made.dart" = some "old" ∧
      (tree.run requests).read? "lib/made.dart" = some "new" ∧
      ∃ front request rest, requests = front ++ request :: rest ∧
        (request.perform (tree.run front)).2 = .ok .written ∧
        (request.perform (tree.run front)).1.place? request.path = tree.place? "lib/made.dart" ∧
        (request.overwrite = .always ∨ request.Detours (tree.run front)) := by
  intro tree requests
  have rooted : tree.Rooted := rooted_of_lists (by decide) (by decide)
  have stub : (tree.run requests).read? "lib/stub.dart" = some "mine" := by decide +kernel
  have before : tree.read? "lib/made.dart" = some "old" := by decide +kernel
  have after : (tree.run requests).read? "lib/made.dart" = some "new" := by decide +kernel
  refine ⟨rooted, stub, before, after, ?_⟩
  refine (run_keeps_files tree rooted requests).2 "lib/made.dart" "old" before ?_
  rw [after]
  decide

/-- The rule that leaves files alone does not hold on a detour: nothing is at the end of the path
while its directory is missing, and once that is made, the text goes to the file that was there. -/
theorem ifMissing_overwrites_on_detour :
    let tree : FileTree := { top := "app", files := [(["b.dart"], "kept")] }
    let request : Request := .text "x/../b.dart" .ifMissing "new"
    tree.Rooted ∧ tree.read? "b.dart" = some "kept" ∧ request.overwrite = .ifMissing ∧
      (request.perform tree).2 = .ok .written ∧
      (tree.run [request]).read? "b.dart" = some "new" := by
  intro tree request
  have rooted : tree.Rooted := rooted_of_lists (by decide) (by decide)
  refine ⟨rooted, ?_, rfl, ?_, ?_⟩ <;> decide +kernel

end FileTree

end DartSource
