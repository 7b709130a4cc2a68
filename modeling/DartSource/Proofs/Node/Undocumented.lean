import DartSource.Proofs.Declaration.Body
import DartSource.Proofs.Layout.DocComments
import DartSource.Proofs.Node.Sequence

/-!
# Files without their docs

Docs are the one kind of given text that is meant for readers only, so a file says the same without
them. `SourceFile.undocumented` leaves out the docs of all declarations, members and constants. The
file as it is should be the file that remains, with one comment line in between for each line of
each doc (`Commented`).

For fragments this is `Fragment.Extends`, which asks it of their text at every level. It holds of
two texts put one behind the other as soon as it holds of each, because fragments end their last
line (`Fragment.Extends.append`), and it goes through blocks, where the level is one higher
(`Fragment.Extends.block`). So it is carried from a doc comment, where it is
`Fragment.dartLines_doc_iff`, to members, declarations and files. What it takes is that the docs
pair their carriage returns; a stray one lets its doc out of the comment
(`SourceFile.docs_stay_comments`).
-/

namespace DartSource

open Text (dartLines EndsLine)

/-! ### Lines with comments -/

/-- The last list is that of the plain lines with a comment line for each of the texts, in their
order, in between. -/
inductive Commented (unit : String) : List String → List String → List String → Prop where
  | nil : Commented unit [] [] []
  | keep {texts plain full : List String} (line : String) :
    Commented unit texts plain full → Commented unit texts (line :: plain) (line :: full)
  | comment {texts plain full : List String} (level : Nat) (text : String) :
    Commented unit texts plain full → Commented unit (text :: texts) plain
      ((Piece.margin unit level ++ Fragment.docLine text) :: full)

namespace Commented

variable {unit : String}

theorem refl (lines : List String) : Commented unit [] lines lines := by
  induction lines with
  | nil => exact .nil
  | cons line rest ih => exact .keep line ih

theorem of_texts (level : Nat) (texts : List String) :
    Commented unit texts []
      (texts.map fun text => Piece.margin unit level ++ Fragment.docLine text) := by
  induction texts with
  | nil => exact .nil
  | cons text rest ih => exact .comment level text ih

theorem texts_eq_nil {texts plain : List String} (h : Commented unit texts plain []) :
    texts = [] := by
  cases h with
  | nil => rfl

theorem append {texts plain full texts' plain' full' : List String}
    (h : Commented unit texts plain full) (h' : Commented unit texts' plain' full') :
    Commented unit (texts ++ texts') (plain ++ plain') (full ++ full') := by
  induction h with
  | nil => exact h'
  | keep line _ ih => exact .keep line ih
  | comment level text _ ih => exact .comment level text ih

end Commented

/-! ### Fragments -/

namespace Fragment

/-- At every level, the text of the fragments ends its last line. -/
def EndsLines (unit : String) (fragments : List Fragment) : Prop :=
  ∀ level, EndsLine (Piece.join unit level (piecesOf fragments))

section EndsLines

variable {unit : String}

theorem endsLines_nil : EndsLines unit [] :=
  fun _ => Text.endsLine_empty

theorem EndsLines.append {front rest : List Fragment} (hfront : EndsLines unit front)
    (hrest : EndsLines unit rest) : EndsLines unit (front ++ rest) := by
  intro level
  rw [piecesOf_append, Piece.join_append]
  exact (hfront level).append (hrest level)

/-- A fragment of one piece ends its line if the piece does. -/
theorem endsLines_singleton {fragment : Fragment} {piece : Piece}
    (hpiece : fragment.pieces = [piece]) (h : ∀ level, EndsLine (Piece.text unit level piece)) :
    EndsLines unit [fragment] := by
  intro level
  rw [piecesOf_cons, piecesOf_nil, List.append_nil, hpiece, Piece.join_cons, Piece.join_nil,
    String.append_empty]
  exact h level

theorem endsLines_line (text : String) : EndsLines unit [.line text] :=
  endsLines_singleton rfl fun _ => Text.endsLine_feed _

theorem endsLines_blank : EndsLines unit [.blank] :=
  endsLines_singleton rfl fun _ => .inr ⟨"", rfl⟩

theorem endsLines_raw {text : String} (h : EndsLine text) : EndsLines unit [.raw text] :=
  endsLines_singleton rfl fun _ => h

theorem endsLines_doc (text : String) : EndsLines unit [.doc text] := by
  intro level
  rw [piecesOf_cons, piecesOf_nil, List.append_nil, pieces]
  induction Text.lines text with
  | nil => exact Text.endsLine_empty
  | cons line rest ih =>
    rw [List.map_cons, Piece.join_cons]
    exact (Text.endsLine_feed _).append ih

theorem endsLines_ite {front rest : List Fragment} {p : Prop} [Decidable p]
    (hfront : EndsLines unit front) (hrest : EndsLines unit rest) :
    EndsLines unit (if p then front else rest) := by
  split
  · exact hfront
  · exact hrest

/-- What is closed ends with the line that closes it. -/
theorem Closed.endsLines {fragments : List Fragment} (h : Closed fragments) :
    EndsLines unit fragments := by
  intro level
  obtain ⟨line, -, htext⟩ := h.text unit level
  rw [htext]
  exact Text.endsLine_feed line

theorem Closed.ne_nil {fragments : List Fragment} (h : Closed fragments) : fragments ≠ [] := by
  rintro rfl
  obtain ⟨front, depth, line, hpieces, -⟩ := h
  simp at hpieces

theorem endsLines_flatMap {α : Type} {items : List α} {fragments : α → List Fragment}
    (h : ∀ item ∈ items, EndsLines unit (fragments item)) :
    EndsLines unit (items.flatMap fragments) := by
  induction items with
  | nil => exact endsLines_nil
  | cons first rest ih =>
    obtain ⟨hfirst, hrest⟩ := List.forall_mem_cons.mp h
    rw [List.flatMap_cons]
    exact hfirst.append (ih hrest)

end EndsLines

/-- At every level, the text of `full` has the lines of the text of `plain` and, in between, a
comment line for each line of the docs; and both texts end their last line. -/
structure Extends (unit : String) (docs : List String) (plain full : List Fragment) : Prop where
  endsPlain : EndsLines unit plain
  endsFull : EndsLines unit full
  lines : ∀ level, Commented unit (docs.flatMap dartLines)
    (dartLines (Piece.join unit level (piecesOf plain)))
    (dartLines (Piece.join unit level (piecesOf full)))

namespace Extends

variable {unit : String} {docs : List String} {plain full : List Fragment}

theorem refl {fragments : List Fragment} (h : EndsLines unit fragments) :
    Extends unit [] fragments fragments :=
  ⟨h, h, fun _ => .refl _⟩

/-- Texts that end their last lines have their lines one behind the other. -/
theorem append {docs' : List String} {plain' full' : List Fragment}
    (h : Extends unit docs plain full) (h' : Extends unit docs' plain' full') :
    Extends unit (docs ++ docs') (plain ++ plain') (full ++ full') := by
  refine ⟨h.endsPlain.append h'.endsPlain, h.endsFull.append h'.endsFull, fun level => ?_⟩
  rw [piecesOf_append, piecesOf_append, Piece.join_append, Piece.join_append,
    Text.dartLines_append (h.endsPlain level), Text.dartLines_append (h.endsFull level),
    List.flatMap_append]
  exact (h.lines level).append (h'.lines level)

theorem followed (h : Extends unit docs plain full) {rest : List Fragment}
    (hrest : EndsLines unit rest) : Extends unit docs (plain ++ rest) (full ++ rest) := by
  have happend := h.append (.refl hrest)
  rwa [List.append_nil] at happend

theorem preceded (h : Extends unit docs plain full) {front : List Fragment}
    (hfront : EndsLines unit front) : Extends unit docs (front ++ plain) (front ++ full) :=
  (Extends.refl hfront).append h

/-- One block deeper is one level deeper. -/
theorem block (h : Extends unit docs plain full) (header close : String) :
    Extends unit docs [.block header plain (some close)] [.block header full (some close)] := by
  have htext : ∀ (body : List Fragment) (level : Nat),
      Piece.join unit level (piecesOf [.block header body (some close)]) =
        Piece.text unit level ⟨0, .line header⟩ ++ (Piece.join unit (level + 1) (piecesOf body) ++
          Piece.text unit level ⟨0, .line close⟩) := by
    intro body level
    rw [piecesOf_cons, piecesOf_nil, List.append_nil, pieces, Option.toList_some,
      List.map_singleton, List.cons_append, Piece.join_cons, Piece.join_append,
      Piece.join_map_deepen, Piece.join_cons, Piece.join_nil, String.append_empty]
  have hline : ∀ (text : String) (level : Nat), EndsLine (Piece.text unit level ⟨0, .line text⟩) :=
    fun text level => Text.endsLine_feed _
  have hends : ∀ body, EndsLines unit body → EndsLines unit [.block header body (some close)] := by
    intro body hbody level
    rw [htext]
    exact (hline header level).append ((hbody (level + 1)).append (hline close level))
  refine ⟨hends plain h.endsPlain, hends full h.endsFull, fun level => ?_⟩
  rw [htext, htext, Text.dartLines_append (hline header level),
    Text.dartLines_append (hline header level), Text.dartLines_append (h.endsPlain (level + 1)),
    Text.dartLines_append (h.endsFull (level + 1))]
  have hbody := (h.lines (level + 1)).append
    (.refl (dartLines (Piece.text unit level ⟨0, .line close⟩)))
  rw [List.append_nil] at hbody
  exact (Commented.refl _).append hbody

theorem braced (h : Extends unit docs plain full) (hempty : plain = [] ↔ full = [])
    (header : String) :
    Extends unit docs [Fragment.braced header plain] [Fragment.braced header full] := by
  by_cases hfull : full = []
  · -- empty braces have no line for a comment
    obtain rfl := hempty.mpr hfull
    subst hfull
    have hnone : docs.flatMap dartLines = [] := (h.lines 0).texts_eq_nil
    refine ⟨endsLines_line _, endsLines_line _, fun level => ?_⟩
    rw [hnone]
    exact .refl _
  · have hplain : plain ≠ [] := mt hempty.mp hfull
    rw [Fragment.braced, Fragment.braced, List.isEmpty_eq_false_iff.mpr hplain,
      List.isEmpty_eq_false_iff.mpr hfull]
    exact h.block _ _

end Extends

end Fragment

/-! ### Members -/

/-- The docs pair their carriage returns. -/
def Paired (docs : List String) : Prop :=
  ∀ doc ∈ docs, Text.pairsReturns doc.toList = true

theorem paired_append {docs more : List String} :
    Paired (docs ++ more) ↔ Paired docs ∧ Paired more :=
  List.forall_mem_append

theorem paired_flatMap {α : Type} {items : List α} {docs : α → List String} :
    Paired (items.flatMap docs) ↔ ∀ item ∈ items, Paired (docs item) :=
  List.forall_mem_flatMap

variable (indent : Indent)

namespace Meta

/-- The annotations without the doc comment. -/
def undocumented (info : Meta) : Meta :=
  { info with doc := none }

/-- A doc comment adds the comment lines of its text. -/
theorem extends_undocumented {info : Meta} (h : Paired info.doc.toList) :
    Fragment.Extends indent.unit info.doc.toList info.undocumented.fragments info.fragments := by
  have hmarks : Fragment.EndsLines indent.unit
      (info.annotations.map fun mark => .line (annotationLine mark)) := by
    rw [List.map_eq_flatMap]
    exact Fragment.endsLines_flatMap fun mark _ => Fragment.endsLines_line _
  have hdoc : Fragment.Extends indent.unit info.doc.toList []
      (info.doc.toList.map Fragment.doc) := by
    cases hinfo : info.doc with
    | none => exact .refl Fragment.endsLines_nil
    | some doc =>
      have hpairs : Text.pairsReturns doc.toList = true := h doc (by simp [hinfo])
      refine ⟨Fragment.endsLines_nil, Fragment.endsLines_doc doc, fun level => ?_⟩
      rw [Option.toList_some, List.map_singleton, Fragment.piecesOf_cons, Fragment.piecesOf_nil,
        List.append_nil, (Fragment.dartLines_doc_iff indent level doc).mpr hpairs,
        List.flatMap_singleton]
      exact .of_texts level (dartLines doc)
  exact hdoc.followed hmarks

end Meta

namespace Member

/-- What stands above a member. -/
def info : Member → Meta
  | .property member => member.info
  | .getter member => member.info
  | .setter member => member.info
  | .constructor member => member.info
  | .method member => member.callable.info

/-- The docs of members, in the order in which they are written. -/
def docs (members : List Member) : List String :=
  (arrange members).flatMap fun member => member.info.doc.toList

/-- The member without its doc comment. -/
def undocumented : Member → Member
  | .property member => .property { member with info := member.info.undocumented }
  | .getter member => .getter { member with info := member.info.undocumented }
  | .setter member => .setter { member with info := member.info.undocumented }
  | .constructor member => .constructor { member with info := member.info.undocumented }
  | .method member =>
    .method { member with
      callable := { member.callable with info := member.callable.info.undocumented } }

theorem rank_undocumented (member : Member) : member.undocumented.rank = member.rank := by
  cases member <;> rfl

theorem isProperty_undocumented (member : Member) :
    member.undocumented.isProperty = member.isProperty := by
  cases member <;> rfl

/-- Members are arranged alike with docs and without. -/
theorem arrange_map_undocumented (members : List Member) :
    arrange (members.map undocumented) = (arrange members).map undocumented := by
  unfold arrange byRank
  rw [List.map_flatMap]
  refine List.flatMap_congr fun r _ => ?_
  rw [List.filter_map]
  simp only [Function.comp_def, rank_undocumented]

/-- Whatever a member writes, its doc comment comes first. -/
theorem extends_undocumented {member : Member} (h : Paired member.info.doc.toList) :
    Fragment.Extends indent.unit member.info.doc.toList member.undocumented.fragments
      member.fragments := by
  have hinfo := Meta.extends_undocumented indent h
  cases member with
  | property member => exact hinfo.followed (Fragment.endsLines_line _)
  | getter member => exact hinfo.followed (Body.closed_attach _ _).endsLines
  | setter member => exact hinfo.followed (Body.closed_attach _ _).endsLines
  | constructor member => exact hinfo.followed (Body.closed_attach _ _).endsLines
  | method member =>
    -- the mark of a method that overrides another stands between annotations and signature
    have hmark : Fragment.EndsLines indent.unit
        (if member.isOverride then [.line "@override"] else []) :=
      Fragment.endsLines_ite (Fragment.endsLines_line _) Fragment.endsLines_nil
    exact (hinfo.followed hmark).followed (Body.closed_attach _ _).endsLines

theorem extends_spaced {members : List Member}
    (h : ∀ member ∈ members, Paired member.info.doc.toList) :
    Fragment.Extends indent.unit (members.flatMap fun member => member.info.doc.toList)
      (spaced (members.map undocumented)) (spaced members) := by
  induction members with
  | nil => exact .refl Fragment.endsLines_nil
  | cons first rest ih =>
    obtain ⟨hfirst, hrest⟩ := List.forall_mem_cons.mp h
    have hfirst := extends_undocumented indent hfirst
    have hgap : ∀ second : Member, Fragment.EndsLines indent.unit
        (if first.isProperty && second.isProperty then [] else [.blank]) := fun second =>
      Fragment.endsLines_ite Fragment.endsLines_nil Fragment.endsLines_blank
    rw [List.flatMap_cons]
    cases rest with
    | nil =>
      rw [List.flatMap_nil, List.append_nil]
      exact hfirst
    | cons second more =>
      rw [List.map_cons, List.map_cons, spaced, spaced, isProperty_undocumented,
        isProperty_undocumented]
      exact (hfirst.followed (hgap second)).append (ih hrest)

theorem extends_bodyFragments {members : List Member} (h : Paired (docs members)) :
    Fragment.Extends indent.unit (docs members) (bodyFragments (members.map undocumented))
      (bodyFragments members) := by
  unfold bodyFragments
  rw [arrange_map_undocumented]
  exact extends_spaced indent (paired_flatMap.mp h)

theorem spaced_eq_nil_iff {members : List Member} : spaced members = [] ↔ members = [] := by
  refine ⟨fun h => ?_, fun h => h ▸ rfl⟩
  cases members with
  | nil => rfl
  | cons first rest =>
    -- a member writes something, whether or not others follow it
    have hfirst := first.closed_fragments.ne_nil
    cases rest with
    | nil => exact absurd h hfirst
    | cons second more =>
      rw [spaced, List.append_eq_nil_iff, List.append_eq_nil_iff] at h
      exact absurd h.1.1 hfirst

theorem bodyFragments_eq_nil_iff {members : List Member} :
    bodyFragments (members.map undocumented) = [] ↔ bodyFragments members = [] := by
  unfold bodyFragments
  rw [arrange_map_undocumented, spaced_eq_nil_iff, spaced_eq_nil_iff, List.map_eq_nil_iff]

end Member

/-! ### Declarations -/

namespace EnumConstant

/-- The constant without its doc comment. -/
def undocumented (constant : EnumConstant) : EnumConstant :=
  { constant with info := constant.info.undocumented }

end EnumConstant

namespace EnumDecl

/-- The enum without the docs of its own, its constants and its members. -/
def undocumented (decl : EnumDecl) : EnumDecl :=
  { decl with
    info := decl.info.undocumented
    constants := decl.constants.map EnumConstant.undocumented
    members := decl.members.map Member.undocumented }

theorem constantFragments_eq_nil_iff {close : String} {constants : List EnumConstant} :
    constantFragments close constants = [] ↔ constants = [] := by
  match constants with
  | [] => exact iff_of_true rfl rfl
  | [last] => exact iff_of_false (by simp [constantFragments]) (by simp)
  | first :: second :: rest => exact iff_of_false (by simp [constantFragments]) (by simp)

theorem bodyFragments_eq_nil_iff {decl : EnumDecl} :
    decl.undocumented.bodyFragments = [] ↔ decl.bodyFragments = [] := by
  have hmembers : decl.undocumented.members.isEmpty = decl.members.isEmpty := List.isEmpty_map
  unfold bodyFragments
  rw [hmembers]
  split
  · rw [constantFragments_eq_nil_iff, constantFragments_eq_nil_iff]
    exact List.map_eq_nil_iff
  · -- between constants and members there is an empty line
    exact iff_of_false (by simp) (by simp)

theorem extends_constantFragments (close : String) {constants : List EnumConstant}
    (h : ∀ constant ∈ constants, Paired constant.info.doc.toList) :
    Fragment.Extends indent.unit (constants.flatMap fun constant => constant.info.doc.toList)
      (constantFragments close (constants.map EnumConstant.undocumented))
      (constantFragments close constants) := by
  induction constants with
  | nil => exact .refl Fragment.endsLines_nil
  | cons first rest ih =>
    obtain ⟨hfirst, hrest⟩ := List.forall_mem_cons.mp h
    have hinfo := Meta.extends_undocumented indent hfirst
    rw [List.flatMap_cons]
    cases rest with
    | nil =>
      rw [List.flatMap_nil, List.append_nil]
      exact hinfo.followed (Fragment.endsLines_line _)
    | cons second more => exact hinfo.append ((ih hrest).preceded (Fragment.endsLines_line _))

theorem extends_bodyFragments {decl : EnumDecl}
    (hconstants : ∀ constant ∈ decl.constants, Paired constant.info.doc.toList)
    (hmembers : Paired (Member.docs decl.members)) :
    Fragment.Extends indent.unit
      ((decl.constants.flatMap fun constant => constant.info.doc.toList) ++
        Member.docs decl.members)
      decl.undocumented.bodyFragments decl.bodyFragments := by
  have hsome : decl.undocumented.members.isEmpty = decl.members.isEmpty := List.isEmpty_map
  unfold bodyFragments
  rw [hsome]
  split
  · rename_i hnone
    have hnodocs : Member.docs decl.members = [] := by
      rw [List.isEmpty_iff.mp hnone]
      rfl
    rw [hnodocs, List.append_nil]
    exact extends_constantFragments indent _ hconstants
  · exact (extends_constantFragments indent _ hconstants).append
      ((Member.extends_bodyFragments indent hmembers).preceded Fragment.endsLines_blank)

end EnumDecl

namespace Declaration

/-- The docs of a declaration and of everything in it, in the order in which they are written. -/
def docs (declaration : Declaration) : List String :=
  declaration.info.doc.toList ++
    ((declaration.constants.flatMap fun constant => constant.info.doc.toList) ++
      Member.docs declaration.members)

/-- The declaration without its docs and those of everything in it. -/
def undocumented : Declaration → Declaration
  | .classDecl decl => .classDecl { decl with
      info := decl.info.undocumented
      members := decl.members.map Member.undocumented }
  | .enumDecl decl => .enumDecl decl.undocumented
  | .mixinDecl decl => .mixinDecl { decl with
      info := decl.info.undocumented
      members := decl.members.map Member.undocumented }
  | .extensionDecl decl => .extensionDecl { decl with
      info := decl.info.undocumented
      members := decl.members.map Member.undocumented }
  | .functionDecl decl => .functionDecl { decl with
      callable := { decl.callable with info := decl.callable.info.undocumented } }
  | .variable decl => .variable { decl with info := decl.info.undocumented }

theorem extends_undocumented {declaration : Declaration} (h : Paired declaration.docs) :
    Fragment.Extends indent.unit declaration.docs declaration.undocumented.fragments
      declaration.fragments := by
  obtain ⟨habove, hinside⟩ := paired_append.mp h
  obtain ⟨hconstants, hmembers⟩ := paired_append.mp hinside
  have hinfo := Meta.extends_undocumented indent habove
  have hbody := (Member.extends_bodyFragments indent hmembers).braced
    Member.bodyFragments_eq_nil_iff
  cases declaration with
  | classDecl decl => exact hinfo.append (hbody decl.header)
  | enumDecl decl =>
    have hbody := EnumDecl.extends_bodyFragments indent (paired_flatMap.mp hconstants) hmembers
    exact hinfo.append (hbody.braced EnumDecl.bodyFragments_eq_nil_iff decl.header)
  | mixinDecl decl => exact hinfo.append (hbody decl.header)
  | extensionDecl decl => exact hinfo.append (hbody decl.header)
  | functionDecl decl => exact hinfo.append (.refl (Body.closed_attach _ _).endsLines)
  | «variable» decl => exact hinfo.append (.refl (Fragment.endsLines_line _))

end Declaration

/-! ### Files -/

namespace SourceFile

/-- All docs of a file, in the order in which they are written. -/
def docs (file : SourceFile) : List String :=
  file.declarations.flatMap Declaration.docs

/-- The file without its docs. -/
def undocumented (file : SourceFile) : SourceFile :=
  { file with declarations := file.declarations.map Declaration.undocumented }

theorem endsLines_headerFragments (unit : String) (options : RenderOptions) :
    Fragment.EndsLines unit (headerFragments options) := by
  unfold headerFragments
  cases options.generator with
  | none => exact Fragment.endsLines_nil
  | some generator =>
    have hbanner : EndsLine (Banner.text generator) := Text.endsLine_feed _
    exact (Fragment.endsLines_line _).append
      (Fragment.endsLines_blank.append
        ((Fragment.endsLines_raw hbanner).append Fragment.endsLines_blank))

theorem endsLines_partOfFragments (unit : String) (file : SourceFile) :
    Fragment.EndsLines unit file.partOfFragments := by
  unfold partOfFragments
  cases file.options.partOf with
  | none => exact Fragment.endsLines_nil
  | some owner =>
    exact (Fragment.endsLines_line _).append
      (Fragment.endsLines_ite Fragment.endsLines_nil Fragment.endsLines_blank)

/-- Header, owner and directives are the same without the docs. -/
theorem fragments_undocumented (file : SourceFile) :
    file.undocumented.fragments =
      headerFragments file.options ++ file.partOfFragments ++
        file.directives.flatMap Directive.fragments ++
        (if file.directives.isEmpty || file.declarations.isEmpty then [] else [.blank]) ++
        spaced (file.declarations.map Declaration.undocumented) := by
  have hsome : file.undocumented.declarations.isEmpty = file.declarations.isEmpty :=
    List.isEmpty_map
  have howner : file.undocumented.partOfFragments = file.partOfFragments := by
    unfold partOfFragments isEmpty
    rw [hsome]
    rfl
  unfold fragments
  rw [howner, hsome]
  rfl

theorem extends_spaced {declarations : List Declaration}
    (h : ∀ declaration ∈ declarations, Paired declaration.docs) :
    Fragment.Extends indent.unit (declarations.flatMap Declaration.docs)
      (spaced (declarations.map Declaration.undocumented)) (spaced declarations) := by
  induction declarations with
  | nil => exact .refl Fragment.endsLines_nil
  | cons first rest ih =>
    obtain ⟨hfirst, hrest⟩ := List.forall_mem_cons.mp h
    have hfirst := Declaration.extends_undocumented indent hfirst
    rw [List.flatMap_cons]
    cases rest with
    | nil =>
      rw [List.flatMap_nil, List.append_nil]
      exact hfirst
    | cons second more => exact hfirst.append ((ih hrest).preceded Fragment.endsLines_blank)

theorem extends_undocumented {file : SourceFile} (h : Paired file.docs) :
    Fragment.Extends indent.unit file.docs file.undocumented.fragments file.fragments := by
  rw [fragments_undocumented]
  have hdirectives : Fragment.EndsLines indent.unit
      (file.directives.flatMap Directive.fragments) :=
    Fragment.endsLines_flatMap fun _ _ => Fragment.endsLines_line _
  have hgap : Fragment.EndsLines indent.unit
      (if file.directives.isEmpty || file.declarations.isEmpty then [] else [.blank]) :=
    Fragment.endsLines_ite Fragment.endsLines_nil Fragment.endsLines_blank
  have hfront := (endsLines_headerFragments indent.unit file.options).append
    (endsLines_partOfFragments indent.unit file)
  exact (extends_spaced indent (paired_flatMap.mp h)).preceded
    ((hfront.append hdirectives).append hgap)

end SourceFile

/-- The text that a doc comment adds to a sink. -/
theorem Sink.text_doc (sink : Sink) (doc : String) :
    (sink.doc doc).text =
      sink.text ++ Piece.join sink.unit sink.level (Fragment.doc doc).pieces := by
  rw [Sink.doc_eq_raw]
  rfl

namespace SourceFile

/-- **Docs stay comments as long as they pair their carriage returns.** A doc comment that is put
into a sink, at whatever level and behind whatever text, adds for each line of the doc its comment
line behind the margin, and nothing else, exactly if the doc pairs its carriage returns. And if all
docs of a file do, the lines of the file are those of the file without docs and, in between, one
comment line for each line of each doc. -/
theorem docs_stay_comments (indent : Indent) (level : Nat) (before doc : String)
    (file : SourceFile) :
    (let sink : Sink := ⟨indent.unit, level, before⟩
      ∃ added, (sink.doc doc).text = before ++ added ∧
        (dartLines added = (dartLines doc).map (fun line => sink.margin ++ Fragment.docLine line) ↔
          Text.pairsReturns doc.toList = true)) ∧
    ((∀ doc ∈ file.docs, Text.pairsReturns doc.toList = true) →
      Commented file.options.indent.unit (file.docs.flatMap dartLines)
        (dartLines file.undocumented.render) (dartLines file.render)) := by
  constructor
  · exact ⟨_, Sink.text_doc _ doc, Fragment.dartLines_doc_iff indent level doc⟩
  · intro h
    rw [render_eq_join, render_eq_join]
    exact (extends_undocumented file.options.indent h).lines 0

/-- Docs of a class, of its members and of a constant of an enum, with line ends of both kinds and
an empty line. The getter was given first and is written last. -/
def documented : SourceFile where
  declarations := [
    .classDecl { name := "C", info := { doc := some "One.\r\n\r\nTwo." }, members := [
      .getter { name := "g", info := { doc := some "The last.\r" } },
      .property { name := "f", info := { doc := some "\nThe first." } }] },
    .enumDecl { name := "E", constants := [{ name := "a", info := { doc := some "A." } }] }]

theorem docs_stay_comments_documented :
    (∀ doc ∈ documented.docs, Text.pairsReturns doc.toList = true) ∧
      Commented "  " ["One.", "", "Two.", "", "The first.", "The last.", "A."]
        (dartLines documented.undocumented.render) (dartLines documented.render) := by
  have hpaired : ∀ doc ∈ documented.docs, Text.pairsReturns doc.toList = true := by decide +kernel
  have htexts : documented.docs.flatMap dartLines =
      ["One.", "", "Two.", "", "The first.", "The last.", "A."] := by
    decide +kernel
  refine ⟨hpaired, ?_⟩
  rw [← htexts]
  exact (docs_stay_comments .standard 0 "" "" documented).2 hpaired

/-- What stands behind a stray carriage return is outside the comment, in a sink and in a file. -/
theorem doc_leaves_comment_at_stray_return :
    dartLines ((Sink.empty .standard).doc "a\rb").text = ["/// a", "b"] ∧
      ¬(∀ line ∈ dartLines ((Sink.empty .standard).doc "a\rb").text,
        "///".toList <+: line.toList) ∧
      dartLines (SourceFile.render { declarations := [
        .classDecl { name := "C", info := { doc := some "Old:\rfinal x = 0;" } }] }) =
        ["/// Old:", "final x = 0;", "class C \x7b\x7d"] := by
  have hlines : dartLines ((Sink.empty .standard).doc "a\rb").text = ["/// a", "b"] := by
    decide +kernel
  refine ⟨hlines, ?_, by decide +kernel⟩
  rw [hlines]
  decide

end SourceFile

end DartSource
