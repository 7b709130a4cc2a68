import DartSource.Proofs.Assoc
import DartSource.Proofs.Layout.Indentation
import DartSource.Proofs.Location.Canonical
import DartSource.Proofs.Lowering.Legality

/-!
# No directive is written twice

A file leaves out a directive that it has already. It compares directives, while a reader compares
lines, and the two need not agree: references of different forms may have the same text. For the
directives of a library they do agree. A line determines all that its directive says
(`Meaning.eq_of_text_eq`), the text of the reference included, and that text determines the
reference, because reading and resolving give **canonical** references only. So among the directives
of one library equal lines come from equal directives (`Directive.eq_of_text_eq`), and the lines of
the file are those of its records, each line where it occurs first.

For an asset this needs that its package's name has no separator and its path no colon in it;
otherwise the reference that it is resolved to may read like one of another form.
-/

namespace DartSource

/-! ### Directives by their lines -/

namespace Directive

/-- The directive with a meaning and a reference. -/
def ofMeaning (meaning : Meaning) (uri : Uri) : Directive :=
  match meaning.kind with
  | .importLib =>
    .importLib
      { uri, qualifier := meaning.qualifier, isDeferred := meaning.isDeferred
        names := meaning.names }
  | .exportLib => .exportLib { uri, names := meaning.names }
  | .part => .part uri
  | .partOf => .partOf (.reference uri)

variable {directive other : Directive} {uri uri' : Uri}

/-- Beside its reference a directive has nothing but its meaning. -/
theorem ofMeaning_meaning (h : directive.reference? = some uri) :
    ofMeaning directive.meaning uri = directive := by
  cases directive with
  | importLib directive | exportLib directive =>
    obtain rfl := Option.some.inj h
    rfl
  | part reference =>
    obtain rfl := Option.some.inj h
    rfl
  | partOf owner =>
    cases owner with
    | library name => exact absurd h (by simp [reference?])
    | reference reference =>
      obtain rfl := Option.some.inj h
      rfl

theorem target_meaning (h : directive.reference? = some uri) :
    directive.meaning.target = uri.text := by
  rw [← ofMeaning_meaning h]
  unfold ofMeaning
  split <;> rfl

/-- **Directives with canonical references are determined by their lines.** -/
theorem eq_of_text_eq (hmade : directive.Made) (hother : other.Made)
    (huri : directive.reference? = some uri) (huri' : other.reference? = some uri')
    (hcanonical : uri.Canonical) (hcanonical' : uri'.Canonical)
    (h : directive.text = other.text) : directive = other := by
  have hmeaning : directive.meaning = other.meaning := by
    rw [hmade.text_eq, hother.text_eq] at h
    exact Meaning.eq_of_text_eq hmade.built.legal hother.built.legal h
  -- the text of the reference is part of the meaning
  have hreference : uri = uri' := by
    refine hcanonical.eq_of_text_eq hcanonical' ?_
    rw [← target_meaning huri, ← target_meaning huri', hmeaning]
  rw [← ofMeaning_meaning huri, ← ofMeaning_meaning huri', hmeaning, hreference]

end Directive

/-! ### Directives of a library -/

/-- A reference, or an asset whose package has no separator in its name and whose path has no
colon. -/
def Record.Target.Plain : Record.Target → Prop
  | .uri _ => True
  | .asset record =>
    '/' ∉ record.package.toList ∧ '\\' ∉ record.package.toList ∧ ':' ∉ record.path.toList

instance : DecidablePred Record.Target.Plain
  | .uri _ => inferInstanceAs (Decidable True)
  | .asset _ => inferInstanceAs (Decidable (_ ∧ _ ∧ _))

/-- By the conventions of packages a plain target stands for a canonical reference. -/
theorem Lowering.canonical_target {resolution : Resolution} {packages : Packages}
    (hpaths : resolution.paths = packages.resolve) {record : Record.Target} {uri : Uri}
    (hplain : record.Plain) (h : Lowering.target resolution record = .ok uri) : uri.Canonical := by
  cases record with
  | uri text =>
    obtain rfl := Except.ok.inj h
    exact Uri.canonical_parse text
  | asset record =>
    obtain ⟨hslash, hback, hcolon⟩ := hplain
    rw [Lowering.target, hpaths] at h
    exact Packages.canonical_resolve h hslash hback (Asset.colon_notMem_ofPath hcolon _)

namespace SourceFile

/-- The lines of a file's directives. -/
def directiveLines (file : SourceFile) : List String :=
  file.directives.map Directive.text

/-- What stands above the directives: the header, and the owner of a part file. -/
def fragmentsAbove (file : SourceFile) : List Fragment :=
  headerFragments file.options ++ file.partOfFragments

/-- What stands below the directives. -/
def fragmentsBelow (file : SourceFile) : List Fragment :=
  (if file.directives.isEmpty || file.declarations.isEmpty then [] else [.blank]) ++
    spaced file.declarations

/-- **A file is its directive lines between the rest.** -/
theorem render_eq_directiveLines (file : SourceFile) :
    file.render = Fragment.written file.options.indent file.fragmentsAbove ++
      String.join (file.directiveLines.map (· ++ "\n")) ++
      Fragment.written file.options.indent file.fragmentsBelow := by
  have hlines : Fragment.written file.options.indent
      (file.directives.flatMap Directive.fragments) =
        String.join (file.directiveLines.map (· ++ "\n")) := by
    unfold directiveLines
    rw [Fragment.written_eq_join]
    induction file.directives with
    | nil => rfl
    | cons first rest ih =>
      rw [List.flatMap_cons, Fragment.piecesOf_append, Piece.join_append, ih, List.map_cons,
        List.map_cons, String.join_cons]
      refine congrArg (· ++ _) ?_
      -- a directive stands at level zero, so nothing is in front of it
      change Piece.join _ 0 [⟨0, .line first.text⟩] = _
      rw [Piece.join_cons, Piece.join_nil, String.append_empty]
      change "" ++ first.text ++ "\n" = first.text ++ "\n"
      rw [String.empty_append]
  have hsplit : file.fragments = file.fragmentsAbove ++
      file.directives.flatMap Directive.fragments ++ file.fragmentsBelow := by
    unfold fragments fragmentsAbove fragmentsBelow
    simp only [List.append_assoc]
  change Fragment.written file.options.indent file.fragments = _
  rw [hsplit, Fragment.written_append, Fragment.written_append, hlines]

end SourceFile

namespace Record.Library

variable {library : Library} {surroundings : Surroundings} {packages : Packages}

/-- The directives of a library with plain targets are told apart by their lines. -/
theorem eq_of_directive_text_eq (hpaths : surroundings.paths = packages.resolve)
    (htargets : ∀ record ∈ library.directives, record.target.Plain)
    {nodes : List DartSource.Directive} (hnodes : library.directiveNodes surroundings = .ok nodes) :
    (∀ node ∈ nodes, node.Made) ∧
      ∀ node ∈ nodes, ∀ other ∈ nodes, node.text = other.text → node = other := by
  have hcanonical : ∀ node ∈ nodes,
      node.Made ∧ ∃ uri, node.reference? = some uri ∧ uri.Canonical := by
    refine forall_mem_of_forall₂ ((List.forall₂_and_left _ _).mpr
      ⟨htargets, directiveNodes_eq_ok_iff.mp hnodes⟩) ?_
    rintro record node ⟨hplain, hnode⟩
    obtain ⟨hmade, uri, htarget, huri⟩ := Lowering.exists_target_of_directive hnode
    exact ⟨hmade, uri, huri, Lowering.canonical_target hpaths hplain htarget⟩
  refine ⟨fun node hnode => (hcanonical node hnode).1, fun node hnode other hother htext => ?_⟩
  obtain ⟨hmade, uri, huri, hcanon⟩ := hcanonical node hnode
  obtain ⟨hmade', uri', huri', hcanon'⟩ := hcanonical other hother
  exact Directive.eq_of_text_eq hmade hmade' huri huri' hcanon hcanon' htext

/-- **No directive line is written twice.** Let a library be lowered by the conventions of packages,
with directives that point at references or at assets whose package has no separator in its name and
whose path no colon. Then the lines between the header of the file and its declarations are pairwise
distinct, and they are the lines of the directives, each lowered alone, in the order of the records
and each line where it occurs first. -/
theorem distinct_directive_lines {library : Library} {converters : Converters}
    {packages : Packages} {libraries : Asset → Except Fault (Option String)} {file : SourceFile}
    (htargets : ∀ record ∈ library.directives, record.target.Plain)
    (hfile : library.lower { converters, paths := packages.resolve, libraries } = .ok file) :
    ∃ nodes : List DartSource.Directive,
      List.Forall₂
        (fun record node =>
          library.directiveAlone { converters, paths := packages.resolve, libraries } record =
            .ok { options := file.options, directives := [node] })
        library.directives nodes ∧
      file.directiveLines = (nodes.map DartSource.Directive.text).eraseDups ∧
      file.directiveLines.Nodup ∧
      (∀ line ∈ file.directiveLines, '\n' ∉ line.toList ∧ '\r' ∉ line.toList) ∧
      file.render = Fragment.written file.options.indent file.fragmentsAbove ++
        String.join (file.directiveLines.map (· ++ "\n")) ++
        Fragment.written file.options.indent file.fragmentsBelow := by
  obtain ⟨options, nodes, declarations, hlayout, hnodes, -, rfl⟩ := exists_nodes_of_lower hfile
  obtain ⟨hmade, hinjective⟩ := eq_of_directive_text_eq rfl htargets hnodes
  have hlines : nodes.eraseDups.map DartSource.Directive.text =
      (nodes.map DartSource.Directive.text).eraseDups :=
    (eraseDups_map nodes hinjective).symm
  refine ⟨nodes, ?_, hlines, ?_, ?_, SourceFile.render_eq_directiveLines _⟩
  · exact (lowersAlone_directive hlayout).each_eq_ok_iff.mp hnodes
  · unfold SourceFile.directiveLines
    rw [hlines]
    exact nodup_eraseDups _
  · -- a reference is quoted, so no line break of it shows
    refine List.forall_mem_map.mpr fun node hnode => ?_
    have hnode := hmade node (List.mem_eraseDups.mp hnode)
    have havoids : Text.Avoids Text.lineBreaks node.text := by
      rw [hnode.text_eq]
      exact Directive.Meaning.avoids_text hnode.built.legal
    exact ⟨fun h => havoids _ h (by decide), fun h => havoids _ h (by decide)⟩

/-- Five directives with three targets: one in another package, given as a reference and as an
asset, one beside the file that is written, given in both ways too, and one that is given once. -/
def twiceGiven : Library where
  output := { asset := some ⟨"q", "lib/main.dart"⟩ }
  directives :=
    [.importLib { target := .uri "package:p//a.dart" }, .exportLib (.uri "b.dart") ["C"] [],
     .importLib { target := .asset ⟨"p", "lib/a.dart"⟩ },
     .exportLib (.asset ⟨"q", "./lib\\b.dart"⟩) ["C"] [], .part (.uri "a.dart")]

theorem distinct_directive_lines_twiceGiven :
    ∃ file : SourceFile,
      (∀ record ∈ twiceGiven.directives, record.target.Plain) ∧
      twiceGiven.lower {} = .ok file ∧
      file.directiveLines =
        ["import 'package:p/a.dart';", "export 'b.dart' show C;", "part 'a.dart';"] ∧
      file.directiveLines.Nodup := by
  have hplain : ∀ record ∈ twiceGiven.directives, record.target.Plain := by decide +kernel
  have hfile : twiceGiven.lower {} = .ok
      { directives :=
          [.importLib { uri := .package "p" "a.dart" },
           .exportLib { uri := .relative "b.dart", names := { shown := ["C"] } },
           .part (.relative "a.dart")] } := by
    decide +kernel
  obtain ⟨-, -, -, hnodup, -⟩ := distinct_directive_lines hplain hfile
  exact ⟨_, hplain, hfile, by decide +kernel, hnodup⟩

end Record.Library

end DartSource
