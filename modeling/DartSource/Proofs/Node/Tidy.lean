import DartSource.Proofs.Layout.Tidy
import DartSource.Proofs.WellBracketed

/-!
# Nodes are laid out in tidy lines

Some given texts are meant to sit on one line, next to what the library writes itself: types,
annotations, values, expressions and the like. Docs, blocks and arrow expressions may have any
number of lines. A text **fits** when it has no line feed, or need not sit on one line.

A node whose names are identifiers and whose given texts fit is laid out in tidy fragments: every
line that is not empty has something to be seen on it. A file is therefore written neatly, whatever
stands in its docs and bodies and however deep these are nested (`SourceFile.neat_render`).
-/

namespace DartSource

open Text (OneLine FillsLine)

/-- A text of this role is meant to sit on one line. References are quoted, so that they do in any
case. -/
def TextRole.isInline : TextRole → Bool
  | .doc => false
  | .block => false
  | .arrow => false
  | .uri => false
  | _ => true

/-- The text sits on one line if it is meant to. -/
def GivenText.Fits (given : GivenText) : Prop :=
  given.role.isInline = true → OneLine given.text

instance (given : GivenText) : Decidable given.Fits :=
  inferInstanceAs (Decidable (given.role.isInline = true → OneLine given.text))

/-- Texts that are all meant to sit on one line. -/
theorem TextRole.oneLine_of_fits {role : TextRole} (hrole : role.isInline = true)
    {texts : List String} (h : ∀ given ∈ role.each texts, given.Fits) :
    ∀ text ∈ texts, OneLine text :=
  fun text hmem => forall_mem_each.mp h text hmem hrole

/-! ### Signatures -/

namespace Meta

theorem fillsLine_annotationLine {mark : String} (h : OneLine mark) :
    FillsLine (annotationLine mark) := by
  have hat : FillsLine "@" := by decide
  show FillsLine (if (Text.trim mark).toList.head? = some '@' then _ else "@" ++ Text.trim mark)
  split
  · next hhead =>
    -- the mark was given, and it can be seen
    refine ⟨h.trim, ?_⟩
    unfold Text.allBlank
    obtain ⟨rest, hrest⟩ := List.head?_eq_some_iff.mp hhead
    rw [hrest]
    rfl
  · exact hat.append h.trim

theorem tidy_fragments {info : Meta} (h : ∀ given ∈ info.texts, given.Fits) :
    Fragment.Tidy info.fragments := by
  rw [texts, List.forall_mem_append] at h
  refine .append (Fragment.tidy_map fun text _ => Fragment.tidy_doc text) ?_
  refine Fragment.tidy_map fun mark hmem => Fragment.tidy_line (fillsLine_annotationLine ?_)
  exact TextRole.oneLine_of_fits rfl h.2 mark hmem

end Meta

namespace Body

/-- A signature with its body, whatever stands in the body. -/
theorem tidy_attach {signature : String} (h : OneLine signature) (body : Option Body) :
    Fragment.Tidy (attach signature body) := by
  have hend : FillsLine ";" := by decide
  have hbraces : FillsLine " \x7b\x7d" := by decide
  have hbrace : FillsLine " \x7b" := by decide
  cases body with
  | none => exact Fragment.tidy_line (hend.behind h)
  | some body =>
    cases body with
    | arrow expression => exact Fragment.tidy_ofText _
    | block text =>
      rw [attach]
      split
      · exact Fragment.tidy_line (hbraces.behind h)
      · exact Fragment.tidy_block (hbrace.behind h) (Fragment.tidy_ofText _) (by decide)

theorem oneLine_marker (isAsync isGenerator : Bool) : OneLine (marker isAsync isGenerator) := by
  cases isAsync <;> cases isGenerator <;> decide

end Body

namespace TypeParam

theorem oneLine_text {param : TypeParam} (hname : OneLine param.name)
    (htexts : ∀ given ∈ param.texts, given.Fits) : OneLine param.text := by
  have hbound := TextRole.oneLine_of_fits rfl htexts
  exact .given (fun bound h => (hname.append (by decide)).append (hbound bound h)) hname

theorem oneLine_listText {params : List TypeParam}
    (hnames : ∀ name ∈ params.map TypeParam.name, FillsLine name)
    (htexts : ∀ given ∈ params.flatMap texts, given.Fits) : OneLine (listText params) := by
  rw [List.forall_mem_map] at hnames
  rw [List.forall_mem_flatMap] at htexts
  have hlist : OneLine (Text.commaSep (params.map text)) :=
    .commaSep (List.forall_mem_map.mpr fun param hmem =>
      oneLine_text (hnames param hmem).oneLine (htexts param hmem))
  exact .ite (by decide) (.append (.append (by decide) hlist) (by decide))

end TypeParam

namespace Param

theorem oneLine_text {param : Param} (hname : OneLine param.name)
    (htexts : ∀ given ∈ param.texts, given.Fits) : OneLine param.text := by
  rw [texts, List.forall_mem_append] at htexts
  have htype := TextRole.oneLine_of_fits rfl htexts.1
  have hvalue := TextRole.oneLine_of_fits rfl htexts.2
  refine .append (.append (.append (.ite (by decide) (by decide)) ?_) hname) ?_
  · refine .ite (by decide) (.ite (by decide) ?_)
    exact .given (fun type h => (htype type h).append (by decide)) (by decide)
  · exact .given (fun value h => .append (by decide) (hvalue value h)) (by decide)

end Param

namespace ParamList

theorem oneLine_source {params : List Param} (multiline : Bool)
    (hnames : ∀ name ∈ params.map Param.name, FillsLine name)
    (htexts : ∀ given ∈ params.flatMap Param.texts, given.Fits) :
    OneLine ((ofParams params).source multiline) := by
  rw [List.forall_mem_map] at hnames
  rw [List.forall_mem_flatMap] at htexts
  -- a group is some of the parameters, whichever they are
  have hgroup : ∀ p : Param → Bool, OneLine (groupText (params.filter p)) := by
    intro p
    refine .commaSep (List.forall_mem_map.mpr fun param hmem => ?_)
    have hmem := List.mem_of_mem_filter hmem
    exact Param.oneLine_text (hnames param hmem).oneLine (htexts param hmem)
  have hcomma : OneLine (if multiline then "," else "") := .ite (by decide) (by decide)
  have hgap : OneLine (if (ofParams params).required.isEmpty then "" else ", ") :=
    .ite (by decide) (by decide)
  refine .append (.append (.append (by decide) (hgroup _)) (.ite ?_ (.ite ?_ ?_))) (by decide)
  · exact .append (.append (.append (hgap.append (by decide)) (hgroup _)) hcomma) (by decide)
  · exact .append (.append (.append (hgap.append (by decide)) (hgroup _)) hcomma) (by decide)
  · exact .ite (by decide) hcomma

end ParamList

namespace Callable

theorem oneLine_signature {callable : Callable} {flags : List (String × Bool)}
    (hflags : ∀ flag ∈ flags, OneLine flag.1) (hnames : ∀ name ∈ callable.names, FillsLine name)
    (htexts : ∀ given ∈ callable.texts, given.Fits) : OneLine (callable.signature flags) := by
  simp only [names, List.forall_mem_append, List.forall_mem_cons] at hnames
  obtain ⟨⟨hname, htypeNames⟩, hparamNames⟩ := hnames
  simp only [texts, List.forall_mem_append] at htexts
  obtain ⟨⟨⟨⟨-, hreturns⟩, htypeTexts⟩, hparamTexts⟩, -⟩ := htexts
  have hreturns := TextRole.oneLine_of_fits rfl hreturns
  have hexternal : OneLine "external" := by decide
  have hkeywords : OneLine (keywords (("external", callable.isExternal) :: flags)) :=
    .keywords (List.forall_mem_cons.mpr ⟨hexternal, hflags⟩)
  -- keywords, return type, name, type parameters, parameters, mark of the body
  refine .append (.append (.append (.append (.append hkeywords ?_) hname.oneLine) ?_) ?_) ?_
  · exact .given (fun type h => (hreturns type h).append (by decide)) (by decide)
  · exact TypeParam.oneLine_listText htypeNames htypeTexts
  · exact ParamList.oneLine_source callable.multiline hparamNames hparamTexts
  · exact Body.oneLine_marker _ _

theorem tidy_info {callable : Callable} (htexts : ∀ given ∈ callable.texts, given.Fits) :
    Fragment.Tidy callable.info.fragments := by
  simp only [texts, List.forall_mem_append] at htexts
  obtain ⟨⟨⟨⟨hinfo, -⟩, -⟩, -⟩, -⟩ := htexts
  exact Meta.tidy_fragments hinfo

end Callable

/-! ### Members -/

theorem oneLine_typeOrVar {type : Option String} (isConst isFinal : Bool)
    (h : ∀ text ∈ type.toList, OneLine text) : OneLine (typeOrVar type isConst isFinal) :=
  .given (fun text hmem => (h text hmem).append (by decide)) (.ite (by decide) (by decide))

theorem oneLine_initialText {value : Option String} (h : ∀ text ∈ value.toList, OneLine text) :
    OneLine (initialText value) :=
  .given (fun text hmem => .append (by decide) (h text hmem)) (by decide)

namespace Property

theorem tidy_fragments {property : Property} (hnames : ∀ name ∈ property.names, FillsLine name)
    (htexts : ∀ given ∈ property.texts, given.Fits) : Fragment.Tidy property.fragments := by
  simp only [texts, List.forall_mem_append] at htexts
  obtain ⟨⟨hinfo, htype⟩, hvalue⟩ := htexts
  have hname : FillsLine property.name := hnames _ (List.mem_singleton_self _)
  have hend : FillsLine ";" := by decide
  refine .append (Meta.tidy_fragments hinfo) (Fragment.tidy_line (hend.behind ?_))
  refine .append (.append (.append (.keywords ?_) ?_) hname.oneLine) ?_
  · simp only [List.forall_mem_cons]
    decide
  · exact oneLine_typeOrVar _ _ (TextRole.oneLine_of_fits rfl htype)
  · exact oneLine_initialText (TextRole.oneLine_of_fits rfl hvalue)

end Property

namespace Getter

theorem oneLine_signature {getter : Getter} (hnames : ∀ name ∈ getter.names, FillsLine name)
    (htexts : ∀ given ∈ getter.texts, given.Fits) : OneLine getter.signature := by
  simp only [texts, List.forall_mem_append] at htexts
  have htype := TextRole.oneLine_of_fits rfl htexts.1.2
  have hname : FillsLine getter.name := hnames _ (List.mem_singleton_self _)
  refine .append (.append (.append (.append (.keywords ?_) ?_) (by decide)) hname.oneLine) ?_
  · simp only [List.forall_mem_cons]
    decide
  · exact .given (fun type h => (htype type h).append (by decide)) (by decide)
  · exact Body.oneLine_marker _ _

end Getter

namespace Setter

theorem oneLine_signature {setter : Setter} (hnames : ∀ name ∈ setter.names, FillsLine name)
    (htexts : ∀ given ∈ setter.texts, given.Fits) : OneLine setter.signature := by
  simp only [texts, List.forall_mem_append] at htexts
  simp only [names, List.forall_mem_cons] at hnames
  obtain ⟨hname, hparamName, -⟩ := hnames
  have hparam := Param.oneLine_text hparamName.oneLine htexts.1.2
  refine .append (.append (.append (.append (.append (.keywords ?_) (by decide)) hname.oneLine)
    (by decide)) hparam) (by decide)
  simp only [List.forall_mem_cons]
  decide

end Setter

namespace Arguments

theorem oneLine_text {arguments : Arguments} (htexts : ∀ given ∈ arguments.texts, given.Fits) :
    OneLine arguments.text := by
  rw [texts, List.forall_mem_append, List.forall_mem_flatMap] at htexts
  obtain ⟨hpositional, hnamed⟩ := htexts
  refine .commaSep (List.forall_mem_append.mpr ⟨TextRole.oneLine_of_fits rfl hpositional, ?_⟩)
  -- a labelled argument is its label, a colon and its value
  refine List.forall_mem_map.mpr fun entry hentry => ?_
  have hlabel : OneLine entry.1 := hnamed entry hentry ⟨.label, entry.1⟩ (by simp) rfl
  have hvalue : OneLine entry.2 := hnamed entry hentry ⟨.expression, entry.2⟩ (by simp) rfl
  exact .append (hlabel.append (by decide)) hvalue

end Arguments

namespace Initializer

/-- What a call writes behind its receiver. -/
theorem oneLine_callText {receiver : String} {constructor : Option String} {arguments : Arguments}
    (hreceiver : OneLine receiver) (hname : ∀ name ∈ constructor.toList, FillsLine name)
    (htexts : ∀ given ∈ arguments.texts, given.Fits) :
    OneLine (callText receiver constructor arguments) := by
  refine .append (.append (.append (hreceiver.append ?_) (by decide))
    (Arguments.oneLine_text htexts)) (by decide)
  exact .given (fun name h => .append (by decide) (hname name h).oneLine) (by decide)

theorem oneLine_text {entry : Initializer} (hname : ∀ name ∈ entry.target?.toList, FillsLine name)
    (htexts : ∀ given ∈ entry.texts, given.Fits) : OneLine entry.text := by
  cases entry with
  | assert condition message =>
    have hparts := TextRole.oneLine_of_fits rfl htexts
    obtain ⟨hcondition, hmessage⟩ := List.forall_mem_cons.mp hparts
    have hopen : OneLine ("assert(" ++ condition) := .append (by decide) hcondition
    cases message with
    | none => exact hopen.append (by decide)
    | some message =>
      have hmessage : OneLine message := hmessage message (List.mem_singleton_self _)
      exact ((hopen.append (by decide)).append hmessage).append (by decide)
  | field name value =>
    have hname : FillsLine name := hname name (List.mem_singleton_self _)
    have hvalue : OneLine value := htexts _ (List.mem_singleton_self _) rfl
    exact (hname.oneLine.append (by decide)).append hvalue
  | superCall constructor arguments => exact oneLine_callText (by decide) hname htexts
  | redirect constructor arguments => exact oneLine_callText (by decide) hname htexts

end Initializer

namespace Constructor

theorem oneLine_signature {constructor : Constructor}
    (hnames : ∀ name ∈ constructor.names, FillsLine name)
    (htexts : ∀ given ∈ constructor.texts, given.Fits) : OneLine constructor.signature := by
  simp only [names, List.forall_mem_append, List.forall_mem_cons] at hnames
  obtain ⟨⟨⟨hclass, hname⟩, hparamNames⟩, htargets⟩ := hnames
  simp only [texts, List.forall_mem_append] at htexts
  obtain ⟨⟨⟨-, hparamTexts⟩, hentries⟩, -⟩ := htexts
  rw [List.forall_mem_flatMap] at hentries
  have hdisplay : OneLine constructor.displayName :=
    .given (fun name h => (hclass.oneLine.append (by decide)).append (hname name h).oneLine)
      hclass.oneLine
  -- the names that initializers use are among those of the constructor
  have hlist : OneLine (Text.commaSep (constructor.initializers.map Initializer.text)) := by
    refine .commaSep (List.forall_mem_map.mpr fun entry hentry => ?_)
    refine Initializer.oneLine_text (fun name htarget => ?_) (hentries entry hentry)
    exact htargets name (List.mem_filterMap.mpr ⟨entry, hentry, Option.mem_toList.mp htarget⟩)
  refine .append (.append (.append (.keywords ?_) hdisplay) ?_) ?_
  · simp only [List.forall_mem_cons]
    decide
  · exact ParamList.oneLine_source constructor.multiline hparamNames hparamTexts
  · exact .ite (by decide) (.append (by decide) hlist)

end Constructor

namespace Member

theorem tidy_fragments {member : Member} (hnames : ∀ name ∈ member.names, FillsLine name)
    (htexts : ∀ given ∈ member.texts, given.Fits) : Fragment.Tidy member.fragments := by
  cases member with
  | property member => exact Property.tidy_fragments hnames htexts
  | getter member =>
    have hsignature := Getter.oneLine_signature hnames htexts
    simp only [texts, Getter.texts, List.forall_mem_append] at htexts
    exact .append (Meta.tidy_fragments htexts.1.1) (Body.tidy_attach hsignature member.body)
  | setter member =>
    have hsignature := Setter.oneLine_signature hnames htexts
    simp only [texts, Setter.texts, List.forall_mem_append] at htexts
    exact .append (Meta.tidy_fragments htexts.1.1) (Body.tidy_attach hsignature member.body)
  | constructor member =>
    have hsignature := Constructor.oneLine_signature hnames htexts
    simp only [texts, Constructor.texts, List.forall_mem_append] at htexts
    exact .append (Meta.tidy_fragments htexts.1.1.1) (Body.tidy_attach hsignature member.body)
  | method member =>
    have hstatic : OneLine "static" := by decide
    have hsignature : OneLine member.signature :=
      Callable.oneLine_signature (List.forall_mem_singleton.mpr hstatic) hnames htexts
    refine .append (.append (Callable.tidy_info htexts) ?_) (Body.tidy_attach hsignature _)
    -- the mark of a method that overrides another
    split
    · exact Fragment.tidy_line (by decide)
    · exact Fragment.tidy_nil

theorem tidy_spaced {members : List Member}
    (h : ∀ member ∈ members, Fragment.Tidy member.fragments) :
    Fragment.Tidy (spaced members) := by
  induction members with
  | nil => exact Fragment.tidy_nil
  | cons first rest ih =>
    obtain ⟨hfirst, hrest⟩ := List.forall_mem_cons.mp h
    cases rest with
    | nil => exact hfirst
    | cons second more =>
      rw [spaced]
      refine .append (hfirst.append ?_) (ih hrest)
      split
      · exact Fragment.tidy_nil
      · exact Fragment.tidy_blank

/-- The body of a type: its members, in an order that does not matter here. -/
theorem tidy_bodyFragments {members : List Member}
    (hnames : ∀ name ∈ members.flatMap names, FillsLine name)
    (htexts : ∀ given ∈ members.flatMap texts, given.Fits) :
    Fragment.Tidy (bodyFragments members) := by
  rw [List.forall_mem_flatMap] at hnames htexts
  refine tidy_spaced fun member hmem => ?_
  have hmem : member ∈ members := (arrange_perm members).mem_iff.mp hmem
  exact tidy_fragments (hnames member hmem) (htexts member hmem)

end Member

/-! ### Declarations -/

theorem Supertype.oneLine_clause {keyword : String} {types : List String}
    (hkeyword : OneLine keyword) (htypes : ∀ type ∈ types, OneLine type) :
    OneLine (clause keyword types) :=
  .ite (by decide)
    (.append (.append (.append (by decide) hkeyword) (by decide)) (.commaSep htypes))

namespace ClassDecl

theorem oneLine_header {decl : ClassDecl} (hnames : ∀ name ∈ decl.names, FillsLine name)
    (htexts : ∀ given ∈ decl.texts, given.Fits) : OneLine decl.header := by
  simp only [names, List.forall_mem_append, List.forall_mem_cons] at hnames
  obtain ⟨⟨hname, htypeNames⟩, -⟩ := hnames
  simp only [texts, List.forall_mem_append] at htexts
  obtain ⟨⟨⟨-, htypeTexts⟩, hsupertypes⟩, -⟩ := htexts
  have hsupertypes := TextRole.oneLine_of_fits rfl hsupertypes
  rw [List.forall_mem_append, List.forall_mem_append] at hsupertypes
  obtain ⟨⟨hsuperclass, hmixins⟩, hinterfaces⟩ := hsupertypes
  have habstract : OneLine (keywords [("abstract", decl.isAbstract)]) := by
    refine .keywords ?_
    simp only [List.forall_mem_cons]
    decide
  have hmixin : OneLine (keywords [("mixin", decl.isMixin)]) := by
    refine .keywords ?_
    simp only [List.forall_mem_cons]
    decide
  refine .append (.append (.append (.append (.append (.append (.append (.append
    habstract ?_) hmixin) (by decide)) hname.oneLine) ?_) ?_) ?_) ?_
  · cases decl.modifier with
    | none => decide
    | some modifier => cases modifier <;> decide
  · exact TypeParam.oneLine_listText htypeNames htypeTexts
  · exact Supertype.oneLine_clause (by decide) hsuperclass
  · exact Supertype.oneLine_clause (by decide) hmixins
  · exact Supertype.oneLine_clause (by decide) hinterfaces

theorem tidy_fragments {decl : ClassDecl} (hnames : ∀ name ∈ decl.names, FillsLine name)
    (htexts : ∀ given ∈ decl.texts, given.Fits) : Fragment.Tidy decl.fragments := by
  have hheader := oneLine_header hnames htexts
  simp only [names, List.forall_mem_append] at hnames
  simp only [texts, List.forall_mem_append] at htexts
  have hmembers := Member.tidy_bodyFragments hnames.2 htexts.2
  exact .append (Meta.tidy_fragments htexts.1.1.1) (Fragment.tidy_braced hheader hmembers)

end ClassDecl

namespace EnumDecl

theorem fillsLine_constantText {constant : EnumConstant}
    (hnames : ∀ name ∈ constant.names, FillsLine name)
    (htexts : ∀ given ∈ constant.texts, given.Fits) : FillsLine constant.text := by
  obtain ⟨hname, hconstructor⟩ := List.forall_mem_cons.mp hnames
  rw [EnumConstant.texts, List.forall_mem_append] at htexts
  obtain ⟨-, harguments⟩ := htexts
  unfold EnumConstant.text
  cases hcall : constant.arguments with
  | none => exact hname
  | some arguments =>
    rw [hcall] at harguments
    have harguments := List.forall_mem_flatMap.mp harguments arguments (List.mem_singleton_self _)
    refine ⟨Initializer.oneLine_callText hname.oneLine hconstructor harguments, ?_⟩
    -- the name stands in front of the call
    show Text.allBlank (constant.name ++ _ ++ "(" ++ _ ++ ")") = false
    simp only [Text.allBlank_append, hname.visible, Bool.false_and]

/-- The constants, each with what stands above it. The last one may have nothing behind it, but its
name can be seen. -/
theorem tidy_constantFragments {close : String} {constants : List EnumConstant}
    (hclose : OneLine close)
    (hnames : ∀ name ∈ constants.flatMap EnumConstant.names, FillsLine name)
    (htexts : ∀ given ∈ constants.flatMap EnumConstant.texts, given.Fits) :
    Fragment.Tidy (constantFragments close constants) := by
  induction constants with
  | nil => exact Fragment.tidy_nil
  | cons first rest ih =>
    rw [List.flatMap_cons, List.forall_mem_append] at hnames htexts
    have hinfo : Fragment.Tidy first.info.fragments :=
      Meta.tidy_fragments (List.forall_mem_append.mp htexts.1).1
    have hfirst : FillsLine first.text := fillsLine_constantText hnames.1 htexts.1
    cases rest with
    | nil => exact hinfo.append (Fragment.tidy_line (hfirst.append hclose))
    | cons second more =>
      have hline : Fragment.Tidy [.line (first.text ++ ",")] :=
        Fragment.tidy_line (hfirst.append (by decide))
      exact hinfo.append (hline.cons (ih hnames.2 htexts.2))

theorem tidy_fragments {decl : EnumDecl} (hnames : ∀ name ∈ decl.names, FillsLine name)
    (htexts : ∀ given ∈ decl.texts, given.Fits) : Fragment.Tidy decl.fragments := by
  simp only [names, List.forall_mem_append, List.forall_mem_cons] at hnames
  obtain ⟨⟨⟨hname, htypeNames⟩, hconstantNames⟩, hmemberNames⟩ := hnames
  simp only [texts, List.forall_mem_append] at htexts
  obtain ⟨⟨⟨⟨hinfo, htypeTexts⟩, hsupertypes⟩, hconstantTexts⟩, hmemberTexts⟩ := htexts
  have hsupertypes := TextRole.oneLine_of_fits rfl hsupertypes
  rw [List.forall_mem_append] at hsupertypes
  have hbody : Fragment.Tidy decl.bodyFragments := by
    unfold bodyFragments
    split
    · exact tidy_constantFragments (by decide) hconstantNames hconstantTexts
    · refine .append (tidy_constantFragments (by decide) hconstantNames hconstantTexts) ?_
      exact Fragment.tidy_blank.cons (Member.tidy_bodyFragments hmemberNames hmemberTexts)
  refine .append (Meta.tidy_fragments hinfo) (Fragment.tidy_braced ?_ hbody)
  refine .append (.append (.append (.append (by decide) hname.oneLine) ?_) ?_) ?_
  · exact TypeParam.oneLine_listText htypeNames htypeTexts
  · exact Supertype.oneLine_clause (by decide) hsupertypes.1
  · exact Supertype.oneLine_clause (by decide) hsupertypes.2

end EnumDecl

namespace MixinDecl

theorem tidy_fragments {decl : MixinDecl} (hnames : ∀ name ∈ decl.names, FillsLine name)
    (htexts : ∀ given ∈ decl.texts, given.Fits) : Fragment.Tidy decl.fragments := by
  simp only [names, List.forall_mem_append, List.forall_mem_cons] at hnames
  obtain ⟨⟨hname, htypeNames⟩, hmemberNames⟩ := hnames
  simp only [texts, List.forall_mem_append] at htexts
  obtain ⟨⟨⟨hinfo, htypeTexts⟩, hsupertypes⟩, hmemberTexts⟩ := htexts
  have hsupertypes := TextRole.oneLine_of_fits rfl hsupertypes
  rw [List.forall_mem_append] at hsupertypes
  refine .append (Meta.tidy_fragments hinfo)
    (Fragment.tidy_braced ?_ (Member.tidy_bodyFragments hmemberNames hmemberTexts))
  refine .append (.append (.append (.append (.append (.keywords ?_) (by decide)) hname.oneLine) ?_)
    ?_) ?_
  · simp only [List.forall_mem_cons]
    decide
  · exact TypeParam.oneLine_listText htypeNames htypeTexts
  · exact Supertype.oneLine_clause (by decide) hsupertypes.1
  · exact Supertype.oneLine_clause (by decide) hsupertypes.2

end MixinDecl

namespace ExtensionDecl

theorem tidy_fragments {decl : ExtensionDecl} (hnames : ∀ name ∈ decl.names, FillsLine name)
    (htexts : ∀ given ∈ decl.texts, given.Fits) : Fragment.Tidy decl.fragments := by
  simp only [names, List.forall_mem_append] at hnames
  obtain ⟨⟨hname, htypeNames⟩, hmemberNames⟩ := hnames
  simp only [texts, List.forall_mem_append] at htexts
  obtain ⟨⟨⟨hinfo, htypeTexts⟩, htarget⟩, hmemberTexts⟩ := htexts
  have htarget := TextRole.oneLine_of_fits rfl htarget decl.target (List.mem_singleton_self _)
  refine .append (Meta.tidy_fragments hinfo)
    (Fragment.tidy_braced ?_ (Member.tidy_bodyFragments hmemberNames hmemberTexts))
  refine .append (.append (.append (.append (by decide) ?_) ?_) (by decide)) htarget
  · exact .given (fun name h => .append (by decide) (hname name h).oneLine) (by decide)
  · exact TypeParam.oneLine_listText htypeNames htypeTexts

end ExtensionDecl

namespace VariableDecl

theorem tidy_fragments {decl : VariableDecl} (hnames : ∀ name ∈ decl.names, FillsLine name)
    (htexts : ∀ given ∈ decl.texts, given.Fits) : Fragment.Tidy decl.fragments := by
  simp only [texts, List.forall_mem_append] at htexts
  obtain ⟨⟨hinfo, htype⟩, hvalue⟩ := htexts
  have hname : FillsLine decl.name := hnames _ (List.mem_singleton_self _)
  have hend : FillsLine ";" := by decide
  refine .append (Meta.tidy_fragments hinfo) (Fragment.tidy_line (hend.behind ?_))
  refine .append (.append (.append (.keywords ?_) ?_) hname.oneLine) ?_
  · simp only [List.forall_mem_cons]
    decide
  · exact oneLine_typeOrVar _ _ (TextRole.oneLine_of_fits rfl htype)
  · exact oneLine_initialText (TextRole.oneLine_of_fits rfl hvalue)

end VariableDecl

namespace Declaration

theorem tidy_fragments {declaration : Declaration}
    (hnames : ∀ name ∈ declaration.names, FillsLine name)
    (htexts : ∀ given ∈ declaration.texts, given.Fits) : Fragment.Tidy declaration.fragments := by
  cases declaration with
  | classDecl decl => exact ClassDecl.tidy_fragments hnames htexts
  | enumDecl decl => exact EnumDecl.tidy_fragments hnames htexts
  | mixinDecl decl => exact MixinDecl.tidy_fragments hnames htexts
  | extensionDecl decl => exact ExtensionDecl.tidy_fragments hnames htexts
  | functionDecl decl =>
    have hsignature : OneLine (decl.callable.signature []) :=
      Callable.oneLine_signature (fun flag h => absurd h List.not_mem_nil) hnames htexts
    exact .append (Callable.tidy_info htexts) (Body.tidy_attach hsignature decl.callable.body)
  | «variable» decl => exact VariableDecl.tidy_fragments hnames htexts

end Declaration

/-! ### Directives -/

theorem Combinators.oneLine_text {names : Combinators}
    (hnames : ∀ name ∈ names.shown ++ names.hidden, FillsLine name) : OneLine names.text := by
  rw [List.forall_mem_append] at hnames
  have hshown := OneLine.commaSep fun name hmem => (hnames.1 name hmem).oneLine
  have hhidden := OneLine.commaSep fun name hmem => (hnames.2 name hmem).oneLine
  exact .ite (.append (by decide) hshown) (.ite (.append (by decide) hhidden) (by decide))

namespace Directive

/-- A directive is one line. Its reference is quoted, so only the name of a library could break
it. -/
theorem tidy_fragments {directive : Directive} (hnames : ∀ name ∈ directive.names, FillsLine name)
    (htexts : ∀ given ∈ directive.texts, given.Fits) : Fragment.Tidy directive.fragments := by
  have hend : FillsLine ";" := by decide
  refine Fragment.tidy_line ?_
  cases directive with
  | importLib directive =>
    rw [names, List.append_assoc, List.forall_mem_append] at hnames
    obtain ⟨hqualifier, hcombinators⟩ := hnames
    refine hend.behind (.append (.append (.append (.append (by decide) (.quote _)) ?_) ?_) ?_)
    · exact .ite (by decide) (by decide)
    · exact .given (fun name h => .append (by decide) (hqualifier name h).oneLine) (by decide)
    · exact Combinators.oneLine_text hcombinators
  | exportLib directive =>
    exact hend.behind
      (.append (.append (by decide) (.quote _)) (Combinators.oneLine_text hnames))
  | part uri => exact hend.behind (.append (by decide) (.quote _))
  | partOf owner =>
    cases owner with
    | library name =>
      have hname : OneLine name := htexts ⟨.library, name⟩ (List.mem_singleton_self _) rfl
      exact hend.behind (.append (by decide) hname)
    | reference uri => exact hend.behind (.append (by decide) (.quote _))

end Directive

/-! ### Files -/

theorem Banner.oneLine_stars (count : Nat) : OneLine (stars count) := by
  unfold OneLine stars
  rw [String.toList_ofList, List.mem_replicate]
  exact fun h => absurd h.2 (by decide)

theorem Banner.oneLine_titleRow {generator : String} (h : OneLine generator) :
    OneLine (titleRow generator) :=
  .append (.append (oneLine_stars _) (.append (.append (by decide) h.trim) (by decide)))
    (oneLine_stars _)

namespace SourceFile

/-- The notice and the banner, line by line. -/
def headerLines (options : RenderOptions) : List Fragment :=
  match options.generator with
  | some generator =>
    [.line Banner.notice, .blank, .line ("// " ++ Banner.stars Banner.width),
      .line ("// " ++ Banner.titleRow generator), .line ("// " ++ Banner.stars Banner.width),
      .blank]
  | none => []

/-- The banner is put as one raw text. As it stands at level zero, it could as well be lines. -/
theorem written_headerFragments (options : RenderOptions) (indent : Indent) :
    Fragment.written indent (headerFragments options) =
      Fragment.written indent (headerLines options) := by
  unfold headerFragments headerLines
  cases options.generator with
  | none => rfl
  | some generator =>
    have hraw : ∀ text, Piece.text indent.unit 0 ⟨0, .raw text⟩ = text := fun _ => rfl
    have hrule : "\n// " = "\n" ++ "// " := by decide
    simp only [Fragment.written_eq_join, Fragment.piecesOf_cons, Fragment.piecesOf_nil,
      Fragment.pieces, List.append_nil, List.singleton_append, Piece.join_cons, Piece.join_nil,
      Piece.text_line_zero, hraw, Banner.text, hrule, String.append_assoc]

theorem tidy_headerLines {options : RenderOptions}
    (h : ∀ generator ∈ options.generator.toList, OneLine generator) :
    Fragment.Tidy (headerLines options) := by
  unfold headerLines
  cases hgenerator : options.generator with
  | none => exact Fragment.tidy_nil
  | some generator =>
    rw [hgenerator] at h
    have htitle := Banner.oneLine_titleRow (h generator (List.mem_singleton_self _))
    have hnotice : Fragment.Tidy [.line Banner.notice] := Fragment.tidy_line (by decide)
    -- a comment shows its mark
    have hcomment : ∀ text, OneLine text → Fragment.Tidy [.line ("// " ++ text)] := by
      intro text htext
      have hmark : FillsLine "// " := by decide
      exact Fragment.tidy_line (hmark.append htext)
    have hrule := hcomment _ (Banner.oneLine_stars Banner.width)
    exact hnotice.cons (Fragment.tidy_blank.cons (hrule.cons ((hcomment _ htitle).cons
      (hrule.cons Fragment.tidy_blank))))

theorem tidy_partOfFragments {file : SourceFile}
    (h : ∀ given ∈ file.options.partOf.toList.flatMap PartOf.texts, given.Fits) :
    Fragment.Tidy file.partOfFragments := by
  unfold partOfFragments
  cases howner : file.options.partOf with
  | none => exact Fragment.tidy_nil
  | some owner =>
    rw [howner, Option.toList_some, List.flatMap_singleton] at h
    have hnames : ∀ name ∈ (Directive.partOf owner).names, FillsLine name :=
      fun name hmem => absurd hmem List.not_mem_nil
    refine .append (Directive.tidy_fragments hnames h) ?_
    split
    · exact Fragment.tidy_nil
    · exact Fragment.tidy_blank

theorem tidy_spaced {declarations : List Declaration}
    (h : ∀ declaration ∈ declarations, Fragment.Tidy declaration.fragments) :
    Fragment.Tidy (spaced declarations) := by
  induction declarations with
  | nil => exact Fragment.tidy_nil
  | cons first rest ih =>
    obtain ⟨hfirst, hrest⟩ := List.forall_mem_cons.mp h
    cases rest with
    | nil => exact hfirst
    | cons second more =>
      rw [spaced]
      exact hfirst.append (Fragment.tidy_blank.cons (ih hrest))

/-- Everything below the header of a file: owner, directives and declarations. -/
def bodyFragments (file : SourceFile) : List Fragment :=
  file.partOfFragments ++ file.directives.flatMap Directive.fragments ++
    (if file.directives.isEmpty || file.declarations.isEmpty then [] else [.blank]) ++
    spaced file.declarations

theorem tidy_bodyFragments {file : SourceFile} (hnames : ∀ name ∈ file.names, FillsLine name)
    (htexts : ∀ given ∈ file.texts, given.Fits) : Fragment.Tidy file.bodyFragments := by
  simp only [names, List.forall_mem_append, List.forall_mem_flatMap] at hnames
  obtain ⟨hdirectiveNames, hdeclarationNames⟩ := hnames
  rw [texts, List.forall_mem_append, List.forall_mem_append] at htexts
  obtain ⟨⟨hoptions, hdirectiveTexts⟩, hdeclarationTexts⟩ := htexts
  rw [RenderOptions.texts, List.forall_mem_append] at hoptions
  rw [List.forall_mem_flatMap] at hdirectiveTexts hdeclarationTexts
  refine .append (.append (.append (tidy_partOfFragments hoptions.2) ?_) ?_) ?_
  · exact Fragment.tidy_flatMap fun directive hmem =>
      Directive.tidy_fragments (hdirectiveNames directive hmem) (hdirectiveTexts directive hmem)
  · split
    · exact Fragment.tidy_nil
    · exact Fragment.tidy_blank
  · exact tidy_spaced fun declaration hmem => Declaration.tidy_fragments
      (hdeclarationNames declaration hmem) (hdeclarationTexts declaration hmem)

/-- A file is written as its header line by line and what stands below it. -/
theorem render_eq_written (file : SourceFile) :
    file.render =
      Fragment.written file.options.indent (headerLines file.options ++ file.bodyFragments) := by
  have hfragments : file.fragments = headerFragments file.options ++ file.bodyFragments := by
    simp only [fragments, bodyFragments, List.append_assoc]
  calc file.render
    _ = Fragment.written file.options.indent (headerFragments file.options ++ file.bodyFragments) :=
      congrArg (Fragment.written file.options.indent) hfragments
    _ = Fragment.written file.options.indent (headerLines file.options ++ file.bodyFragments) := by
      rw [Fragment.written_append, written_headerFragments, ← Fragment.written_append]

/-- **No indentation is left standing by itself.** If the texts that are meant to sit on one line
do, then a row of the rendered file that holds nothing but blanks holds nothing, whatever stands in
docs, blocks and arrow expressions and however deep these are nested. -/
theorem neat_render {file : SourceFile} (hbuilt : file.Built)
    (htexts : ∀ given ∈ file.texts, given.Fits) : Text.Neat file.render := by
  have hnames : ∀ name ∈ file.names, FillsLine name :=
    fun name hmem => .of_isIdentifier (hbuilt.usable name hmem).1
  have hgenerator : ∀ generator ∈ file.options.generator.toList, OneLine generator := by
    rw [texts, List.forall_mem_append, List.forall_mem_append, RenderOptions.texts,
      List.forall_mem_append] at htexts
    exact TextRole.oneLine_of_fits rfl htexts.1.1.1
  have htidy := (tidy_headerLines hgenerator).append (tidy_bodyFragments hnames htexts)
  rw [render_eq_written]
  exact htidy.neat_written file.options.indent

/-- A class whose docs and bodies have lines of spaces, tabs, carriage returns and a no-break
space. -/
def blankLines : SourceFile :=
  { options := { indent := .tab, generator := some " g " }
    declarations := [.classDecl
      { name := "C"
        info := { doc := some "a\n \t\n\r\n" }
        members :=
          [.method
            { callable :=
                { name := "m"
                  body := some (.block "if (a) \x7b\n\u00a0\r\n  b;\n \n\x7d\n\n  ") } },
           .getter { name := "g", body := some (.arrow " [\n  \n\t1,\n]\r\n") }] }] }

theorem neat_render_blankLines :
    blankLines.Built ∧ (∀ given ∈ blankLines.texts, given.Fits) ∧ Text.Neat blankLines.render := by
  have hbuilt : blankLines.Built := by
    refine ⟨fun directive hmem => absurd hmem List.not_mem_nil, ?_⟩
    refine List.forall_mem_singleton.mpr ⟨.again rfl, ?_⟩
    refine List.forall_mem_cons.mpr ⟨⟨.again rfl, fun _ hmem => absurd hmem List.not_mem_nil⟩, ?_⟩
    exact List.forall_mem_singleton.mpr (BuiltBy.again rfl)
  have htexts : ∀ given ∈ blankLines.texts, given.Fits := by decide +kernel
  exact ⟨hbuilt, htexts, neat_render hbuilt htexts⟩

end SourceFile

end DartSource
