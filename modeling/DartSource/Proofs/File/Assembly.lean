import DartSource.Proofs.Lowering.DirectiveLines
import DartSource.Proofs.Node.Closing

/-!
# Putting a file together

A file starts from its options and is changed step by step: directives and declarations are added,
one at a time or several at once, in whatever order the caller comes by them. In the end only three
things count: the options, the directives that were added, each where it was added first, and the
declarations that were added (`SourceFile.assemble_eq`). What makes this true is that a directive
and a declaration are added to different parts of the file, so the two steps commute
(`SourceFile.addDirective_addDeclaration`), and a run of changes can be sorted into the directives
and then the declarations.

The text of the file is laid out from these three (`SourceFile.layoutText`): header, owner,
directives and declarations one behind the other, where each of the empty lines between them is
there exactly when it has something to separate.
-/

namespace DartSource

/-- The text of a declaration that stands alone. -/
def Declaration.written (indent : Indent) (declaration : Declaration) : String :=
  Fragment.written indent declaration.fragments

namespace SourceFile

/-! ### Runs of changes -/

namespace Edit

/-- The directives that a change brings. -/
def newDirectives : Edit → List Directive
  | .directive added => [added]
  | .directives added => added
  | .declaration _ => []
  | .declarations _ => []

/-- The declarations that a change brings. -/
def newDeclarations : Edit → List Declaration
  | .directive _ => []
  | .directives _ => []
  | .declaration added => [added]
  | .declarations added => added

end Edit

/-- The file that a run of changes makes of some options. -/
def assemble (options : RenderOptions) (changes : List Edit) : SourceFile :=
  changes.foldl edit { options }

/-- It does not matter whether a directive or a declaration is added first. -/
theorem addDirective_addDeclaration (file : SourceFile) (directive : Directive)
    (declaration : Declaration) :
    (file.addDeclaration declaration).addDirective directive =
      (file.addDirective directive).addDeclaration declaration := by
  unfold addDirective
  -- a declaration leaves the directives as they are, so both sides ask the same question
  have hsame : (file.addDeclaration declaration).directives = file.directives := rfl
  rw [hsame]
  split
  · rfl
  · rfl

/-- Nor does it for a directive and several declarations. -/
theorem addDirective_foldl_addDeclaration (file : SourceFile) (directive : Directive)
    (declarations : List Declaration) :
    (declarations.foldl addDeclaration file).addDirective directive =
      declarations.foldl addDeclaration (file.addDirective directive) := by
  induction declarations generalizing file with
  | nil => rfl
  | cons declaration rest ih =>
    rw [List.foldl_cons, List.foldl_cons, ih, addDirective_addDeclaration]

/-- Nor for several of each. -/
theorem foldl_addDirective_foldl_addDeclaration (file : SourceFile) (directives : List Directive)
    (declarations : List Declaration) :
    directives.foldl addDirective (declarations.foldl addDeclaration file) =
      declarations.foldl addDeclaration (directives.foldl addDirective file) := by
  induction directives generalizing file with
  | nil => rfl
  | cons directive rest ih =>
    rw [List.foldl_cons, List.foldl_cons, addDirective_foldl_addDeclaration, ih]

/-- One step: a change adds its directives and its declarations. -/
theorem edit_eq (file : SourceFile) (change : Edit) :
    file.edit change =
      change.newDeclarations.foldl addDeclaration
        (change.newDirectives.foldl addDirective file) := by
  cases change with
  | directive directive => rfl
  | directives directives => rfl
  | declaration declaration => rfl
  | declarations declarations => rfl

/-- A run: the directives of all changes are added first, then the declarations of all changes. -/
theorem foldl_edit (file : SourceFile) (changes : List Edit) :
    changes.foldl edit file =
      (changes.flatMap Edit.newDeclarations).foldl addDeclaration
        ((changes.flatMap Edit.newDirectives).foldl addDirective file) := by
  induction changes generalizing file with
  | nil => rfl
  | cons change rest ih =>
    -- the declarations of the first change are moved behind the directives of the others
    rw [List.foldl_cons, ih, edit_eq, foldl_addDirective_foldl_addDeclaration, List.flatMap_cons,
      List.flatMap_cons, List.foldl_append, List.foldl_append]

/-- **What a run of changes leaves**: each directive where it came first, and all declarations. -/
theorem assemble_eq (options : RenderOptions) (changes : List Edit) :
    assemble options changes =
      { options
        directives := (changes.flatMap Edit.newDirectives).eraseDups
        declarations := changes.flatMap Edit.newDeclarations } := by
  unfold assemble
  rw [foldl_edit]
  exact edit_directives_declarations options _ _

/-- Several additions at once are the same additions one by one. -/
theorem assemble_congr_of_batch (options : RenderOptions) {batch : Edit} {single : List Edit}
    (hdirectives : batch.newDirectives = single.flatMap Edit.newDirectives)
    (hdeclarations : batch.newDeclarations = single.flatMap Edit.newDeclarations)
    (before behind : List Edit) :
    assemble options (before ++ batch :: behind) =
      assemble options (before ++ single ++ behind) := by
  rw [assemble_eq, assemble_eq, List.flatMap_append, List.flatMap_append, List.flatMap_cons,
    List.flatMap_cons, hdirectives, hdeclarations]
  simp only [List.flatMap_append, List.append_assoc]

/-- A directive that is there already is not added again. -/
theorem edit_directive_of_mem {file : SourceFile} {directive : Directive}
    (h : directive ∈ file.directives) : file.edit (.directive directive) = file := by
  show file.addDirective directive = file
  unfold addDirective
  rw [if_pos h]

/-! ### The layout -/

/-- The notice and the banner, with an empty line behind them. -/
def headerText (options : RenderOptions) : String :=
  match options.generator with
  | some generator => Banner.notice ++ "\n" ++ "\n" ++ Banner.text generator ++ "\n"
  | none => ""

/-- The line of the owner, with an empty line behind it if a directive or declaration follows. -/
def ownerText (options : RenderOptions) (directives : List Directive)
    (declarations : List Declaration) : String :=
  match options.partOf with
  | some owner =>
    owner.text ++ "\n" ++ (if directives ≠ [] ∨ declarations ≠ [] then "\n" else "")
  | none => ""

/-- The text of a file: the header, the owner, the directives on one line each, and the declarations
as each of them is written alone, with one empty line between two neighbours. Another empty line
stands between directives and declarations if there are both. -/
def layoutText (options : RenderOptions) (directives : List Directive)
    (declarations : List Declaration) : String :=
  headerText options ++ ownerText options directives declarations ++
    String.join (directives.map fun directive => directive.text ++ "\n") ++
    (if directives ≠ [] ∧ declarations ≠ [] then "\n" else "") ++
    "\n".intercalate (declarations.map (Declaration.written options.indent))

theorem written_headerFragments_eq (indent : Indent) (options : RenderOptions) :
    Fragment.written indent (headerFragments options) = headerText options := by
  unfold headerFragments headerText
  cases options.generator with
  | none => rfl
  | some generator =>
    -- four fragments, one after the other
    show Fragment.written indent
        ([.line Banner.notice] ++ ([.blank] ++ ([.raw (Banner.text generator)] ++ [.blank]))) =
      Banner.notice ++ "\n" ++ "\n" ++ Banner.text generator ++ "\n"
    rw [Fragment.written_append, Fragment.written_append, Fragment.written_append,
      Fragment.written_line, Fragment.written_blank, Fragment.written_raw]
    simp only [String.append_assoc]

theorem written_partOfFragments (indent : Indent) (file : SourceFile) :
    Fragment.written indent file.partOfFragments =
      ownerText file.options file.directives file.declarations := by
  unfold partOfFragments ownerText
  cases file.options.partOf with
  | none => rfl
  | some owner =>
    -- the file is empty exactly when nothing follows the owner
    have hempty : file.isEmpty = true ↔
        ¬(file.directives ≠ [] ∨ file.declarations ≠ []) := by
      unfold isEmpty
      rw [Bool.and_eq_true, List.isEmpty_iff, List.isEmpty_iff, not_or, not_not, not_not]
    show Fragment.written indent
      ([.line owner.text] ++ if file.isEmpty then [] else [.blank]) = _
    rw [Fragment.written_append, Fragment.written_line]
    by_cases hfollows : file.directives ≠ [] ∨ file.declarations ≠ []
    · rw [if_neg (fun h => hempty.mp h hfollows), if_pos hfollows, Fragment.written_blank]
    · rw [if_pos (hempty.mpr hfollows), if_neg hfollows, Fragment.written_nil]

/-- Declarations one after the other are their texts with an empty line between neighbours. -/
theorem written_spaced (indent : Indent) (declarations : List Declaration) :
    Fragment.written indent (spaced declarations) =
      "\n".intercalate (declarations.map (Declaration.written indent)) := by
  induction declarations with
  | nil => rfl
  | cons first rest ih =>
    cases rest with
    | nil => exact String.intercalate_singleton.symm
    | cons second more =>
      calc Fragment.written indent (spaced (first :: second :: more))
        _ = first.written indent ++
              ("\n" ++ Fragment.written indent (spaced (second :: more))) := by
          rw [spaced, Fragment.written_append, Fragment.written_cons, Fragment.written_blank]
          rfl
        _ = first.written indent ++ ("\n" ++
              "\n".intercalate ((second :: more).map (Declaration.written indent))) := by
          rw [ih]
        _ = "\n".intercalate ((first :: second :: more).map (Declaration.written indent)) := by
          rw [List.map_cons, List.map_cons, List.map_cons, String.intercalate_cons_cons,
            String.append_assoc]

/-- Every file is laid out like this. -/
theorem render_eq_layoutText (file : SourceFile) :
    file.render = layoutText file.options file.directives file.declarations := by
  have habove : Fragment.written file.options.indent file.fragmentsAbove =
      headerText file.options ++ ownerText file.options file.directives file.declarations := by
    unfold fragmentsAbove
    rw [Fragment.written_append, written_headerFragments_eq, written_partOfFragments]
  have hlines : file.directiveLines.map (· ++ "\n") =
      file.directives.map fun directive => directive.text ++ "\n" := by
    unfold directiveLines
    rw [List.map_map]
    rfl
  -- the empty line below the directives needs both of its neighbours
  have hgap : Fragment.written file.options.indent
      (if file.directives.isEmpty || file.declarations.isEmpty then [] else [.blank]) =
        if file.directives ≠ [] ∧ file.declarations ≠ [] then "\n" else "" := by
    cases file.directives with
    | nil => rfl
    | cons directive more =>
      cases file.declarations with
      | nil => rfl
      | cons declaration rest => rfl
  have hbelow : Fragment.written file.options.indent file.fragmentsBelow =
      (if file.directives ≠ [] ∧ file.declarations ≠ [] then "\n" else "") ++
        "\n".intercalate (file.declarations.map (Declaration.written file.options.indent)) := by
    unfold fragmentsBelow
    rw [Fragment.written_append, hgap, written_spaced]
  rw [render_eq_directiveLines, habove, hlines, hbelow]
  unfold layoutText
  simp only [String.append_assoc]

/-! ### The main statement -/

/-- **How the calls were mixed leaves no trace in a file.** After any run of changes the text is
laid out from the options, the directives that were added, each where it came first, and the
declarations that were added. Every declaration closes its last line, so what stands behind it is an
empty line. Another run that adds the same directives, repetitions apart, and the same declarations
makes the same file. Several additions at once are the same additions one by one, wherever they
stand in the run, and a directive that was added before changes nothing. -/
theorem render_assemble (options : RenderOptions) (changes : List Edit) :
    let directives := (changes.flatMap Edit.newDirectives).eraseDups
    let declarations := changes.flatMap Edit.newDeclarations
    (assemble options changes).render = layoutText options directives declarations ∧
      (∀ declaration ∈ declarations, Text.Closed (declaration.written options.indent)) ∧
      (∀ others : List Edit, (others.flatMap Edit.newDirectives).eraseDups = directives →
        others.flatMap Edit.newDeclarations = declarations →
        assemble options others = assemble options changes) ∧
      (∀ (added : List Directive) (behind : List Edit),
        assemble options (changes ++ .directives added :: behind) =
          assemble options (changes ++ added.map Edit.directive ++ behind)) ∧
      (∀ (added : List Declaration) (behind : List Edit),
        assemble options (changes ++ .declarations added :: behind) =
          assemble options (changes ++ added.map Edit.declaration ++ behind)) ∧
      ∀ directive ∈ changes.flatMap Edit.newDirectives,
        (assemble options changes).edit (.directive directive) = assemble options changes := by
  intro directives declarations
  refine ⟨?_, ?_, ?_, ?_, ?_, ?_⟩
  · rw [render_eq_layoutText, assemble_eq]
  · intro declaration _
    exact declaration.closed_fragments.written options.indent
  · intro others hdirectives hdeclarations
    rw [assemble_eq, assemble_eq, hdirectives, hdeclarations]
  · intro added behind
    apply assemble_congr_of_batch
    · rw [List.flatMap_map]
      exact (List.flatMap_singleton' added).symm
    · rw [List.flatMap_map]
      exact (List.flatMap_eq_nil_iff.mpr fun _ _ => rfl).symm
  · intro added behind
    apply assemble_congr_of_batch
    · rw [List.flatMap_map]
      exact (List.flatMap_eq_nil_iff.mpr fun _ _ => rfl).symm
    · rw [List.flatMap_map]
      exact (List.flatMap_singleton' added).symm
  · intro directive hmem
    apply edit_directive_of_mem
    rw [assemble_eq]
    exact List.mem_eraseDups.mpr hmem

/-- Declarations before directives, and a directive that comes three times. -/
def mixedChanges : List Edit :=
  [.declaration (.variable { name := "x", type := some "int" }),
   .directive (.part (.relative "a.dart")),
   .declarations [.functionDecl { callable := { name := "f", body := some (.arrow "g(\n1)") } }],
   .directives [.part (.relative "b.dart"), .part (.relative "a.dart")],
   .directive (.part (.relative "a.dart"))]

/-- The same directives and declarations in two calls. -/
def sortedChanges : List Edit :=
  [.directives [.part (.relative "a.dart"), .part (.relative "b.dart")],
   .declarations
    [.variable { name := "x", type := some "int" },
     .functionDecl { callable := { name := "f", body := some (.arrow "g(\n1)") } }]]

theorem render_assemble_mixedChanges :
    let options : RenderOptions := { indent := .tab, partOf := some (.library "lib") }
    assemble options sortedChanges = assemble options mixedChanges ∧
      (assemble options mixedChanges).edit (.directive (.part (.relative "b.dart"))) =
        assemble options mixedChanges ∧
      (assemble options mixedChanges).render =
        "part of lib;\n\npart 'a.dart';\npart 'b.dart';\n\nint x;\n\nf() => g(\n1);\n" := by
  intro options
  obtain ⟨hrender, -, hruns, -, -, hagain⟩ := render_assemble options mixedChanges
  refine ⟨hruns sortedChanges ?_ ?_, hagain _ ?_, hrender.trans ?_⟩
  · decide +kernel
  · decide +kernel
  · decide +kernel
  · decide +kernel

end SourceFile

end DartSource
