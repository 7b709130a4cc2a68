import DartSource.Proofs.Layout.Balance
import DartSource.Proofs.Node.Built

/-!
# Rendered files are well bracketed

Every bracket that the library itself writes is closed where it belongs. A file whose given texts
are balanced is therefore rendered as a balanced text, whatever directives and declarations it was
put together from (`SourceFile.balanced_render`).

The argument follows the nodes. The text of a node is put together from keywords, names, given
texts and the texts of its parts; names have no brackets because building has checked them; and the
brackets of the library come in pairs around parts that are balanced themselves: parentheses around
parameters and arguments, the bracket of an optional or named group, braces around bodies.
-/

namespace DartSource

/-! ### Signatures -/

namespace Meta

theorem balanced_annotationLine {mark : String} (h : Balanced mark) :
    Balanced (annotationLine mark) :=
  .ite h.trim (.append (by decide) h.trim)

theorem balanced_fragments {info : Meta} (h : ∀ given ∈ info.texts, Balanced given.text) :
    Fragment.Balanced info.fragments := by
  simp only [texts, List.forall_mem_append, TextRole.forall_mem_each] at h
  obtain ⟨hdoc, hmarks⟩ := h
  refine .append (Fragment.balanced_map ?_) (Fragment.balanced_map ?_)
  · exact fun text hmem => Fragment.balanced_doc (hdoc text hmem)
  · exact fun mark hmem => Fragment.balanced_line (balanced_annotationLine (hmarks mark hmem))

end Meta

namespace Body

/-- A signature with its body, whatever form the body has. -/
theorem balanced_attach {signature : String} {body : Option Body} (hsignature : Balanced signature)
    (hbody : ∀ given ∈ body.toList.flatMap texts, Balanced given.text) :
    Fragment.Balanced (attach signature body) := by
  cases body with
  | none => exact Fragment.balanced_line (hsignature.append (by decide))
  | some body =>
    cases body with
    | arrow expression =>
      -- the whole text is cut into lines, signature included
      have hexpression : Balanced expression := hbody _ (List.mem_singleton_self _)
      refine Fragment.balanced_ofText ?_
      exact .append (.append (.append hsignature (by decide)) hexpression.trim) (by decide)
    | block text =>
      -- a block of blanks is written as empty braces, which are balanced on their own
      have htext : Balanced text := hbody _ (List.mem_singleton_self _)
      rw [attach]
      split
      · exact Fragment.balanced_emptyBraces hsignature
      · refine Fragment.balanced_block hsignature (Fragment.balanced_ofText ?_)
        unfold Balanced
        rw [Brackets.of_trimNewlines]
        exact htext

theorem balanced_marker (isAsync isGenerator : Bool) : Balanced (marker isAsync isGenerator) := by
  cases isAsync <;> cases isGenerator <;> decide

end Body

namespace TypeParam

theorem balanced_text {param : TypeParam} (hname : Balanced param.name)
    (htexts : ∀ given ∈ param.texts, Balanced given.text) : Balanced param.text := by
  rw [texts, TextRole.forall_mem_each] at htexts
  exact .given (fun bound h => (hname.append (by decide)).append (htexts bound h)) hname

/-- Angle brackets are none of the brackets that have to be closed. -/
theorem balanced_listText {params : List TypeParam}
    (hnames : ∀ name ∈ params.map TypeParam.name, Balanced name)
    (htexts : ∀ given ∈ params.flatMap texts, Balanced given.text) :
    Balanced (listText params) := by
  rw [List.forall_mem_map] at hnames
  rw [List.forall_mem_flatMap] at htexts
  have hlist : Balanced (Text.commaSep (params.map text)) :=
    .commaSep (List.forall_mem_map.mpr fun param hmem =>
      balanced_text (hnames param hmem) (htexts param hmem))
  exact .ite (by decide) (.append (.append (by decide) hlist) (by decide))

end TypeParam

namespace Param

theorem balanced_text {param : Param} (hname : Balanced param.name)
    (htexts : ∀ given ∈ param.texts, Balanced given.text) : Balanced param.text := by
  simp only [texts, List.forall_mem_append, TextRole.forall_mem_each] at htexts
  obtain ⟨htype, hvalue⟩ := htexts
  unfold text
  refine .append (.append (.append (.ite (by decide) (by decide)) ?_) hname) ?_
  · refine .ite (by decide) (.ite (by decide) ?_)
    exact .given (fun type h => (htype type h).append (by decide)) (by decide)
  · exact .given (fun value h => .append (by decide) (hvalue value h)) (by decide)

end Param

namespace ParamList

/-- **A parameter list closes what it opens.** Whichever of the two bracketed groups is written, its
bracket opens and closes inside the parentheses. -/
theorem balanced_source {params : List Param} (multiline : Bool)
    (hnames : ∀ name ∈ params.map Param.name, Balanced name)
    (htexts : ∀ given ∈ params.flatMap Param.texts, Balanced given.text) :
    Balanced ((ofParams params).source multiline) := by
  rw [List.forall_mem_map] at hnames
  rw [List.forall_mem_flatMap] at htexts
  -- a group is some of the parameters, so it is balanced whichever they are
  have hgroup : ∀ p : Param → Bool, Balanced (groupText (params.filter p)) := by
    intro p
    refine .commaSep (List.forall_mem_map.mpr fun param hmem => ?_)
    have hmem := List.mem_of_mem_filter hmem
    exact Param.balanced_text (hnames param hmem) (htexts param hmem)
  have hcomma : Balanced (if multiline then "," else "") := .ite (by decide) (by decide)
  have hgap : Balanced (if (ofParams params).required.isEmpty then "" else ", ") :=
    .ite (by decide) (by decide)
  refine ((Awaits.paren.append (hgroup _)).append (.ite ?_ (.ite ?_ ?_))).closed (by decide)
  · -- the optional group
    have hopen : Awaits ']' "[" := .of_opening '[' (by decide) (by decide)
    exact (((hopen.behind hgap).append (hgroup _)).append hcomma).closed (by decide)
  · -- the named group
    have hopen : Awaits '\x7d' "\x7b" := .of_opening '\x7b' (by decide) (by decide)
    exact (((hopen.behind hgap).append (hgroup _)).append hcomma).closed (by decide)
  · -- required parameters only
    exact .ite (by decide) hcomma

end ParamList

namespace Callable

theorem balanced_signature {callable : Callable} {flags : List (String × Bool)}
    (hflags : ∀ flag ∈ flags, Balanced flag.1) (hnames : ∀ name ∈ callable.names, Balanced name)
    (htexts : ∀ given ∈ callable.texts, Balanced given.text) :
    Balanced (callable.signature flags) := by
  simp only [names, List.forall_mem_append, List.forall_mem_cons] at hnames
  obtain ⟨⟨hname, htypeNames⟩, hparamNames⟩ := hnames
  simp only [texts, List.forall_mem_append, TextRole.forall_mem_each] at htexts
  obtain ⟨⟨⟨⟨-, hreturns⟩, htypeTexts⟩, hparamTexts⟩, -⟩ := htexts
  -- keywords, return type, name, type parameters, parameters, mark of the body
  have hexternal : Balanced "external" := by decide
  have hkeywords : Balanced (keywords (("external", callable.isExternal) :: flags)) :=
    .keywords (List.forall_mem_cons.mpr ⟨hexternal, hflags⟩)
  refine .append (.append (.append (.append (.append hkeywords ?_) hname) ?_) ?_) ?_
  · exact .given (fun type h => (hreturns type h).append (by decide)) (by decide)
  · exact TypeParam.balanced_listText htypeNames htypeTexts
  · exact ParamList.balanced_source callable.multiline hparamNames hparamTexts
  · exact Body.balanced_marker _ _

/-- The parts of a callable that stand above and behind its signature. -/
theorem balanced_info_and_body {callable : Callable}
    (htexts : ∀ given ∈ callable.texts, Balanced given.text) :
    Fragment.Balanced callable.info.fragments ∧
      ∀ given ∈ callable.body.toList.flatMap Body.texts, Balanced given.text := by
  simp only [texts, List.forall_mem_append] at htexts
  obtain ⟨⟨⟨⟨hinfo, -⟩, -⟩, -⟩, hbody⟩ := htexts
  exact ⟨Meta.balanced_fragments hinfo, hbody⟩

end Callable

/-! ### Members -/

theorem balanced_typeOrVar {type : Option String} (isConst isFinal : Bool)
    (h : ∀ text ∈ type.toList, Balanced text) : Balanced (typeOrVar type isConst isFinal) :=
  .given (fun text hmem => (h text hmem).append (by decide)) (.ite (by decide) (by decide))

theorem balanced_initialText {value : Option String} (h : ∀ text ∈ value.toList, Balanced text) :
    Balanced (initialText value) :=
  .given (fun text hmem => .append (by decide) (h text hmem)) (by decide)

namespace Property

theorem balanced_fragments {property : Property} (hnames : ∀ name ∈ property.names, Balanced name)
    (htexts : ∀ given ∈ property.texts, Balanced given.text) :
    Fragment.Balanced property.fragments := by
  simp only [texts, List.forall_mem_append, TextRole.forall_mem_each] at htexts
  obtain ⟨⟨hinfo, htype⟩, hvalue⟩ := htexts
  have hname : Balanced property.name := hnames _ (List.mem_singleton_self _)
  refine .append (Meta.balanced_fragments hinfo) (Fragment.balanced_line ?_)
  refine .append (.append (.append (.append (.keywords ?_) ?_) hname) ?_) (by decide)
  · simp only [List.forall_mem_cons]
    decide
  · exact balanced_typeOrVar _ _ htype
  · exact balanced_initialText hvalue

end Property

namespace Getter

theorem balanced_fragments {getter : Getter} (hnames : ∀ name ∈ getter.names, Balanced name)
    (htexts : ∀ given ∈ getter.texts, Balanced given.text) :
    Fragment.Balanced getter.fragments := by
  simp only [texts, List.forall_mem_append, TextRole.forall_mem_each] at htexts
  obtain ⟨⟨hinfo, htype⟩, hbody⟩ := htexts
  have hname : Balanced getter.name := hnames _ (List.mem_singleton_self _)
  refine .append (Meta.balanced_fragments hinfo) (Body.balanced_attach ?_ hbody)
  refine .append (.append (.append (.append (.keywords ?_) ?_) (by decide)) hname) ?_
  · simp only [List.forall_mem_cons]
    decide
  · exact .given (fun type h => (htype type h).append (by decide)) (by decide)
  · exact Body.balanced_marker _ _

end Getter

namespace Setter

theorem balanced_fragments {setter : Setter} (hnames : ∀ name ∈ setter.names, Balanced name)
    (htexts : ∀ given ∈ setter.texts, Balanced given.text) :
    Fragment.Balanced setter.fragments := by
  simp only [texts, List.forall_mem_append] at htexts
  obtain ⟨⟨hinfo, hparamTexts⟩, hbody⟩ := htexts
  simp only [names, List.forall_mem_cons] at hnames
  obtain ⟨hname, hparamName, -⟩ := hnames
  refine .append (Meta.balanced_fragments hinfo) (Body.balanced_attach ?_ hbody)
  refine ((Awaits.paren.behind (.append (.append (.keywords ?_) (by decide)) hname)).append
    (Param.balanced_text hparamName hparamTexts)).closed (by decide)
  simp only [List.forall_mem_cons]
  decide

end Setter

namespace Arguments

theorem balanced_text {arguments : Arguments}
    (htexts : ∀ given ∈ arguments.texts, Balanced given.text) : Balanced arguments.text := by
  simp only [texts, List.forall_mem_append, TextRole.forall_mem_each, List.forall_mem_flatMap,
    List.forall_mem_cons] at htexts
  obtain ⟨hpositional, hnamed⟩ := htexts
  refine .commaSep (List.forall_mem_append.mpr ⟨hpositional, ?_⟩)
  -- a labelled argument is its label, a colon and its value
  refine List.forall_mem_map.mpr fun entry hentry => ?_
  obtain ⟨hlabel, hvalue, -⟩ := hnamed entry hentry
  exact .append (.append hlabel (by decide)) hvalue

end Arguments

namespace Initializer

/-- A call: the arguments stand in parentheses behind the receiver and the constructor's name. -/
theorem balanced_callText {receiver : String} {constructor : Option String} {arguments : Arguments}
    (hreceiver : Balanced receiver) (hname : ∀ name ∈ constructor.toList, Balanced name)
    (htexts : ∀ given ∈ arguments.texts, Balanced given.text) :
    Balanced (callText receiver constructor arguments) := by
  refine ((Awaits.paren.behind (.append hreceiver ?_)).append
    (Arguments.balanced_text htexts)).closed (by decide)
  exact .given (fun name h => .append (by decide) (hname name h)) (by decide)

theorem balanced_text {entry : Initializer} (hname : ∀ name ∈ entry.target?.toList, Balanced name)
    (htexts : ∀ given ∈ entry.texts, Balanced given.text) : Balanced entry.text := by
  cases entry with
  | assert condition message =>
    have hopen : Awaits ')' "assert(" := .of_opening '(' (by decide) (by decide)
    simp only [texts, TextRole.forall_mem_each, List.forall_mem_cons] at htexts
    obtain ⟨hcondition, hmessage⟩ := htexts
    cases message with
    | none => exact (hopen.append hcondition).closed (by decide)
    | some message =>
      have hmessage : Balanced message := hmessage message (List.mem_singleton_self _)
      exact (((hopen.append hcondition).append (by decide)).append hmessage).closed (by decide)
  | field name value =>
    have hname : Balanced name := hname name (List.mem_singleton_self _)
    have hvalue : Balanced value := htexts _ (List.mem_singleton_self _)
    exact .append (.append hname (by decide)) hvalue
  | superCall constructor arguments => exact balanced_callText (by decide) hname htexts
  | redirect constructor arguments => exact balanced_callText (by decide) hname htexts

end Initializer

namespace Constructor

theorem balanced_fragments {constructor : Constructor}
    (hnames : ∀ name ∈ constructor.names, Balanced name)
    (htexts : ∀ given ∈ constructor.texts, Balanced given.text) :
    Fragment.Balanced constructor.fragments := by
  simp only [names, List.forall_mem_append, List.forall_mem_cons] at hnames
  obtain ⟨⟨⟨hclass, hname⟩, hparamNames⟩, htargets⟩ := hnames
  simp only [texts, List.forall_mem_append] at htexts
  obtain ⟨⟨⟨hinfo, hparamTexts⟩, hentries⟩, hbody⟩ := htexts
  rw [List.forall_mem_flatMap] at hentries
  have hdisplay : Balanced constructor.displayName :=
    .given (fun name h => (hclass.append (by decide)).append (hname name h)) hclass
  -- the names that initializers use are among those of the constructor
  have hlist : Balanced (Text.commaSep (constructor.initializers.map Initializer.text)) := by
    refine .commaSep (List.forall_mem_map.mpr fun entry hentry => ?_)
    refine Initializer.balanced_text (fun name htarget => ?_) (hentries entry hentry)
    exact htargets name (List.mem_filterMap.mpr ⟨entry, hentry, Option.mem_toList.mp htarget⟩)
  refine .append (Meta.balanced_fragments hinfo) (Body.balanced_attach ?_ hbody)
  refine .append (.append (.append (.keywords ?_) hdisplay) ?_) ?_
  · simp only [List.forall_mem_cons]
    decide
  · exact ParamList.balanced_source constructor.multiline hparamNames hparamTexts
  · exact .ite (by decide) (.append (by decide) hlist)

end Constructor

namespace Member

theorem balanced_fragments {member : Member} (hnames : ∀ name ∈ member.names, Balanced name)
    (htexts : ∀ given ∈ member.texts, Balanced given.text) :
    Fragment.Balanced member.fragments := by
  cases member with
  | property member => exact Property.balanced_fragments hnames htexts
  | getter member => exact Getter.balanced_fragments hnames htexts
  | setter member => exact Setter.balanced_fragments hnames htexts
  | constructor member => exact Constructor.balanced_fragments hnames htexts
  | method member =>
    obtain ⟨hinfo, hbody⟩ := Callable.balanced_info_and_body htexts
    have hstatic : Balanced "static" := by decide
    refine .append (hinfo.append ?_) (Body.balanced_attach ?_ hbody)
    · -- the mark of a method that overrides another
      split
      · exact Fragment.balanced_line (by decide)
      · exact Fragment.balanced_nil
    · exact Callable.balanced_signature (List.forall_mem_singleton.mpr hstatic) hnames htexts

theorem balanced_spaced {members : List Member}
    (h : ∀ member ∈ members, Fragment.Balanced member.fragments) :
    Fragment.Balanced (spaced members) := by
  induction members with
  | nil => exact Fragment.balanced_nil
  | cons first rest ih =>
    obtain ⟨hfirst, hrest⟩ := List.forall_mem_cons.mp h
    cases rest with
    | nil => exact hfirst
    | cons second more =>
      rw [spaced]
      refine .append (hfirst.append ?_) (ih hrest)
      split
      · exact Fragment.balanced_nil
      · exact Fragment.balanced_blank

/-- Arranging members by kind neither adds nor drops one. -/
theorem arrange_perm (members : List Member) : (arrange members).Perm members := by
  refine byRank_perm fun member _ => ?_
  cases member <;> simp [rank]

/-- The body of a type: its members, in an order that does not matter here. -/
theorem balanced_bodyFragments {members : List Member}
    (hnames : ∀ name ∈ members.flatMap names, Balanced name)
    (htexts : ∀ given ∈ members.flatMap texts, Balanced given.text) :
    Fragment.Balanced (bodyFragments members) := by
  rw [List.forall_mem_flatMap] at hnames htexts
  refine balanced_spaced fun member hmem => ?_
  have hmem : member ∈ members := (arrange_perm members).mem_iff.mp hmem
  exact balanced_fragments (hnames member hmem) (htexts member hmem)

end Member

/-! ### Declarations -/

theorem Supertype.balanced_clause {keyword : String} {types : List String}
    (hkeyword : Balanced keyword) (htypes : ∀ type ∈ types, Balanced type) :
    Balanced (clause keyword types) :=
  .ite (by decide)
    (.append (.append (.append (by decide) hkeyword) (by decide)) (.commaSep htypes))

namespace ClassDecl

theorem balanced_fragments {decl : ClassDecl} (hnames : ∀ name ∈ decl.names, Balanced name)
    (htexts : ∀ given ∈ decl.texts, Balanced given.text) : Fragment.Balanced decl.fragments := by
  simp only [names, List.forall_mem_append, List.forall_mem_cons] at hnames
  obtain ⟨⟨hname, htypeNames⟩, hmemberNames⟩ := hnames
  simp only [texts, List.forall_mem_append, TextRole.forall_mem_each] at htexts
  obtain ⟨⟨⟨hinfo, htypeTexts⟩, ⟨hsuperclass, hmixins⟩, hinterfaces⟩, hmemberTexts⟩ := htexts
  have habstract : Balanced (keywords [("abstract", decl.isAbstract)]) := by
    refine .keywords ?_
    simp only [List.forall_mem_cons]
    decide
  have hmixin : Balanced (keywords [("mixin", decl.isMixin)]) := by
    refine .keywords ?_
    simp only [List.forall_mem_cons]
    decide
  refine .append (Meta.balanced_fragments hinfo)
    (Fragment.balanced_braced ?_ (Member.balanced_bodyFragments hmemberNames hmemberTexts))
  refine .append (.append (.append (.append (.append (.append (.append (.append
    habstract ?_) hmixin) (by decide)) hname) ?_) ?_) ?_) ?_
  · cases decl.modifier with
    | none => decide
    | some modifier => cases modifier <;> decide
  · exact TypeParam.balanced_listText htypeNames htypeTexts
  · exact Supertype.balanced_clause (by decide) hsuperclass
  · exact Supertype.balanced_clause (by decide) hmixins
  · exact Supertype.balanced_clause (by decide) hinterfaces

end ClassDecl

namespace EnumDecl

theorem balanced_constantText {constant : EnumConstant}
    (hnames : ∀ name ∈ constant.names, Balanced name)
    (htexts : ∀ given ∈ constant.texts, Balanced given.text) : Balanced constant.text := by
  simp only [EnumConstant.names, List.forall_mem_cons] at hnames
  obtain ⟨hname, hconstructor⟩ := hnames
  simp only [EnumConstant.texts, List.forall_mem_append] at htexts
  obtain ⟨-, harguments⟩ := htexts
  unfold EnumConstant.text
  cases hcall : constant.arguments with
  | none => exact hname
  | some arguments =>
    rw [hcall] at harguments
    exact Initializer.balanced_callText hname hconstructor (List.forall_mem_flatMap.mp harguments
      arguments (List.mem_singleton_self _))

/-- The constants, each with what stands above it, and the mark behind the last. -/
theorem balanced_constantFragments {close : String} {constants : List EnumConstant}
    (hclose : Balanced close)
    (hnames : ∀ name ∈ constants.flatMap EnumConstant.names, Balanced name)
    (htexts : ∀ given ∈ constants.flatMap EnumConstant.texts, Balanced given.text) :
    Fragment.Balanced (constantFragments close constants) := by
  induction constants with
  | nil => exact Fragment.balanced_nil
  | cons first rest ih =>
    rw [List.flatMap_cons, List.forall_mem_append] at hnames htexts
    have hinfo : Fragment.Balanced first.info.fragments :=
      Meta.balanced_fragments (List.forall_mem_append.mp htexts.1).1
    have hfirst : Balanced first.text := balanced_constantText hnames.1 htexts.1
    cases rest with
    | nil => exact hinfo.append (Fragment.balanced_line (hfirst.append hclose))
    | cons second more =>
      have hline : Fragment.Balanced [.line (first.text ++ ",")] :=
        Fragment.balanced_line (hfirst.append (by decide))
      exact hinfo.append (hline.cons (ih hnames.2 htexts.2))

theorem balanced_fragments {decl : EnumDecl} (hnames : ∀ name ∈ decl.names, Balanced name)
    (htexts : ∀ given ∈ decl.texts, Balanced given.text) : Fragment.Balanced decl.fragments := by
  simp only [names, List.forall_mem_append, List.forall_mem_cons] at hnames
  obtain ⟨⟨⟨hname, htypeNames⟩, hconstantNames⟩, hmemberNames⟩ := hnames
  simp only [texts, List.forall_mem_append, TextRole.forall_mem_each] at htexts
  obtain ⟨⟨⟨⟨hinfo, htypeTexts⟩, hmixins, hinterfaces⟩, hconstantTexts⟩, hmemberTexts⟩ := htexts
  have hbody : Fragment.Balanced decl.bodyFragments := by
    unfold bodyFragments
    -- the last constant is followed by a semicolon exactly when there are members
    split
    · exact balanced_constantFragments (by decide) hconstantNames hconstantTexts
    · refine .append (balanced_constantFragments (by decide) hconstantNames hconstantTexts) ?_
      exact Fragment.balanced_blank.cons (Member.balanced_bodyFragments hmemberNames hmemberTexts)
  refine .append (Meta.balanced_fragments hinfo) (Fragment.balanced_braced ?_ hbody)
  refine .append (.append (.append (.append (by decide) hname) ?_) ?_) ?_
  · exact TypeParam.balanced_listText htypeNames htypeTexts
  · exact Supertype.balanced_clause (by decide) hmixins
  · exact Supertype.balanced_clause (by decide) hinterfaces

end EnumDecl

namespace MixinDecl

theorem balanced_fragments {decl : MixinDecl} (hnames : ∀ name ∈ decl.names, Balanced name)
    (htexts : ∀ given ∈ decl.texts, Balanced given.text) : Fragment.Balanced decl.fragments := by
  simp only [names, List.forall_mem_append, List.forall_mem_cons] at hnames
  obtain ⟨⟨hname, htypeNames⟩, hmemberNames⟩ := hnames
  simp only [texts, List.forall_mem_append, TextRole.forall_mem_each] at htexts
  obtain ⟨⟨⟨hinfo, htypeTexts⟩, hconstraints, hinterfaces⟩, hmemberTexts⟩ := htexts
  refine .append (Meta.balanced_fragments hinfo)
    (Fragment.balanced_braced ?_ (Member.balanced_bodyFragments hmemberNames hmemberTexts))
  refine .append (.append (.append (.append (.append (.keywords ?_) (by decide)) hname) ?_) ?_) ?_
  · simp only [List.forall_mem_cons]
    decide
  · exact TypeParam.balanced_listText htypeNames htypeTexts
  · exact Supertype.balanced_clause (by decide) hconstraints
  · exact Supertype.balanced_clause (by decide) hinterfaces

end MixinDecl

namespace ExtensionDecl

theorem balanced_fragments {decl : ExtensionDecl} (hnames : ∀ name ∈ decl.names, Balanced name)
    (htexts : ∀ given ∈ decl.texts, Balanced given.text) : Fragment.Balanced decl.fragments := by
  simp only [names, List.forall_mem_append] at hnames
  obtain ⟨⟨hname, htypeNames⟩, hmemberNames⟩ := hnames
  simp only [texts, List.forall_mem_append, TextRole.forall_mem_each,
    List.forall_mem_singleton] at htexts
  obtain ⟨⟨⟨hinfo, htypeTexts⟩, htarget⟩, hmemberTexts⟩ := htexts
  refine .append (Meta.balanced_fragments hinfo)
    (Fragment.balanced_braced ?_ (Member.balanced_bodyFragments hmemberNames hmemberTexts))
  refine .append (.append (.append (.append (by decide) ?_) ?_) (by decide)) htarget
  · exact .given (fun name h => .append (by decide) (hname name h)) (by decide)
  · exact TypeParam.balanced_listText htypeNames htypeTexts

end ExtensionDecl

namespace VariableDecl

theorem balanced_fragments {decl : VariableDecl} (hnames : ∀ name ∈ decl.names, Balanced name)
    (htexts : ∀ given ∈ decl.texts, Balanced given.text) : Fragment.Balanced decl.fragments := by
  simp only [texts, List.forall_mem_append, TextRole.forall_mem_each] at htexts
  obtain ⟨⟨hinfo, htype⟩, hvalue⟩ := htexts
  have hname : Balanced decl.name := hnames _ (List.mem_singleton_self _)
  refine .append (Meta.balanced_fragments hinfo) (Fragment.balanced_line ?_)
  refine .append (.append (.append (.append (.keywords ?_) ?_) hname) ?_) (by decide)
  · simp only [List.forall_mem_cons]
    decide
  · exact balanced_typeOrVar _ _ htype
  · exact balanced_initialText hvalue

end VariableDecl

namespace Declaration

theorem balanced_fragments {declaration : Declaration}
    (hnames : ∀ name ∈ declaration.names, Balanced name)
    (htexts : ∀ given ∈ declaration.texts, Balanced given.text) :
    Fragment.Balanced declaration.fragments := by
  cases declaration with
  | classDecl decl => exact ClassDecl.balanced_fragments hnames htexts
  | enumDecl decl => exact EnumDecl.balanced_fragments hnames htexts
  | mixinDecl decl => exact MixinDecl.balanced_fragments hnames htexts
  | extensionDecl decl => exact ExtensionDecl.balanced_fragments hnames htexts
  | functionDecl decl =>
    obtain ⟨hinfo, hbody⟩ := Callable.balanced_info_and_body htexts
    refine .append hinfo (Body.balanced_attach ?_ hbody)
    exact Callable.balanced_signature (fun flag h => absurd h List.not_mem_nil) hnames htexts
  | «variable» decl => exact VariableDecl.balanced_fragments hnames htexts

end Declaration

/-! ### Directives -/

theorem Combinators.balanced_text {names : Combinators}
    (hnames : ∀ name ∈ names.shown ++ names.hidden, Balanced name) : Balanced names.text := by
  rw [List.forall_mem_append] at hnames
  refine .ite (.append (by decide) (.commaSep hnames.1)) (.ite ?_ (by decide))
  exact .append (by decide) (.commaSep hnames.2)

namespace Directive

/-- A reference keeps its brackets when it is quoted. -/
theorem balanced_fragments {directive : Directive}
    (hnames : ∀ name ∈ directive.names, Balanced name)
    (htexts : ∀ given ∈ directive.texts, Balanced given.text) :
    Fragment.Balanced directive.fragments := by
  refine Fragment.balanced_line ?_
  cases directive with
  | importLib directive =>
    have huri : Balanced directive.uri.text := htexts _ (List.mem_singleton_self _)
    rw [names, List.append_assoc, List.forall_mem_append] at hnames
    obtain ⟨hqualifier, hcombinators⟩ := hnames
    refine .append (.append (.append (.append (.append (by decide) huri.quote) ?_) ?_) ?_)
      (by decide)
    · exact .ite (by decide) (by decide)
    · exact .given (fun name h => .append (by decide) (hqualifier name h)) (by decide)
    · exact Combinators.balanced_text hcombinators
  | exportLib directive =>
    have huri : Balanced directive.uri.text := htexts _ (List.mem_singleton_self _)
    exact .append (.append (.append (by decide) huri.quote) (Combinators.balanced_text hnames))
      (by decide)
  | part uri =>
    have huri : Balanced uri.text := htexts _ (List.mem_singleton_self _)
    exact .append (.append (by decide) huri.quote) (by decide)
  | partOf owner =>
    cases owner with
    | library name =>
      have hname : Balanced name := htexts _ (List.mem_singleton_self _)
      exact .append (.append (by decide) hname) (by decide)
    | reference uri =>
      have huri : Balanced uri.text := htexts _ (List.mem_singleton_self _)
      exact .append (.append (by decide) huri.quote) (by decide)

end Directive

/-! ### Files -/

/-- The stars around the name of a generator. -/
theorem Banner.balanced_text {generator : String} (h : Balanced generator) :
    Balanced (text generator) := by
  have hstars : ∀ count, Balanced (stars count) := by
    intro count
    refine .of_eq_nil ?_
    unfold stars
    rw [Brackets.of_ofList, List.filter_replicate_of_neg (by decide)]
  have htitle : Balanced (titleRow generator) :=
    .append (.append (hstars _) (.append (.append (by decide) h.trim) (by decide))) (hstars _)
  exact .append (.append (.append (.append (.append (.append (by decide) (hstars _)) (by decide))
    htitle) (by decide)) (hstars _)) (by decide)

namespace SourceFile

theorem balanced_headerFragments {options : RenderOptions}
    (h : ∀ generator ∈ options.generator.toList, Balanced generator) :
    Fragment.Balanced (headerFragments options) := by
  unfold headerFragments
  cases hgenerator : options.generator with
  | none => exact Fragment.balanced_nil
  | some generator =>
    rw [hgenerator] at h
    -- notice, empty line, banner, empty line
    have hbanner := Banner.balanced_text (h generator (List.mem_singleton_self _))
    have hnotice : Fragment.Balanced [.line Banner.notice] := Fragment.balanced_line (by decide)
    exact hnotice.cons (Fragment.balanced_blank.cons
      ((Fragment.balanced_raw hbanner).cons Fragment.balanced_blank))

theorem balanced_partOfFragments {file : SourceFile}
    (h : ∀ given ∈ file.options.partOf.toList.flatMap PartOf.texts, Balanced given.text) :
    Fragment.Balanced file.partOfFragments := by
  unfold partOfFragments
  cases howner : file.options.partOf with
  | none => exact Fragment.balanced_nil
  | some owner =>
    rw [howner, Option.toList_some, List.flatMap_singleton] at h
    refine .append (Directive.balanced_fragments (fun name hmem => absurd hmem ?_) h) ?_
    · exact List.not_mem_nil
    · split
      · exact Fragment.balanced_nil
      · exact Fragment.balanced_blank

theorem balanced_spaced {declarations : List Declaration}
    (h : ∀ declaration ∈ declarations, Fragment.Balanced declaration.fragments) :
    Fragment.Balanced (spaced declarations) := by
  induction declarations with
  | nil => exact Fragment.balanced_nil
  | cons first rest ih =>
    obtain ⟨hfirst, hrest⟩ := List.forall_mem_cons.mp h
    cases rest with
    | nil => exact hfirst
    | cons second more =>
      rw [spaced]
      exact hfirst.append (Fragment.balanced_blank.cons (ih hrest))

/-- The layout of a file is balanced when its names and its given texts are. -/
theorem balanced_fragments {file : SourceFile} (hnames : ∀ name ∈ file.names, Balanced name)
    (htexts : ∀ given ∈ file.texts, Balanced given.text) : Fragment.Balanced file.fragments := by
  simp only [names, List.forall_mem_append, List.forall_mem_flatMap] at hnames
  obtain ⟨hdirectiveNames, hdeclarationNames⟩ := hnames
  rw [texts, List.forall_mem_append, List.forall_mem_append] at htexts
  obtain ⟨⟨hoptions, hdirectiveTexts⟩, hdeclarationTexts⟩ := htexts
  rw [RenderOptions.texts, List.forall_mem_append, TextRole.forall_mem_each] at hoptions
  rw [List.forall_mem_flatMap] at hdirectiveTexts hdeclarationTexts
  refine .append (.append (.append (.append ?_ ?_) ?_) ?_) ?_
  · exact balanced_headerFragments hoptions.1
  · exact balanced_partOfFragments hoptions.2
  · exact Fragment.balanced_flatMap fun directive hmem =>
      Directive.balanced_fragments (hdirectiveNames directive hmem) (hdirectiveTexts directive hmem)
  · split
    · exact Fragment.balanced_nil
    · exact Fragment.balanced_blank
  · exact balanced_spaced fun declaration hmem => Declaration.balanced_fragments
      (hdeclarationNames declaration hmem) (hdeclarationTexts declaration hmem)

/-- What is rendered has the brackets of the layout. -/
theorem balanced_render_of_fragments {file : SourceFile}
    (h : Fragment.Balanced file.fragments) : Balanced file.render := by
  unfold Balanced render
  -- indentation has no brackets, whatever the unit
  rw [Sink.text_fragments_empty, Piece.of_join (Indent.of_unit _)]
  exact h

/-- **Rendered files are well bracketed.** However a file is put together from directives and
declarations that were built, and whatever its options are: if the texts given for it are balanced,
so is the text that it is rendered to. -/
theorem balanced_render (options : RenderOptions) (changes : List Edit)
    (hbuilt : ∀ change ∈ changes, change.Built)
    (htexts : ∀ given ∈ (changes.foldl edit { options }).texts, Balanced given.text) :
    Balanced (changes.foldl edit { options }).render := by
  have hfile : (changes.foldl edit { options }).Built := (built_of_options options).edits hbuilt
  -- building has made sure that names are identifiers, which have no brackets
  refine balanced_render_of_fragments (balanced_fragments (fun name hmem => ?_) htexts)
  exact .of_isIdentifier (hfile.usable name hmem).1

/-- An import and a class with brackets of every kind, in given texts and around them. -/
def bracketed : List Edit :=
  [.directive (.importLib { uri := .package "p" "a(b).dart", qualifier := some "p" }),
   .declaration (.classDecl
     { name := "C"
       members :=
         [.constructor
            { className := "C"
              params := [{ name := "a", isNamed := true, isRequired := true, isField := true }]
              initializers := [.assert "f(a)" (some "'[$a]'")] },
          .method
            { callable :=
                { name := "m"
                  params := [{ name := "b", isOptional := true, defaultValue := some "const []" }]
                  body := some (.block "if (b) \x7b\n  c();\n\x7d") } }] })]

theorem balanced_render_bracketed :
    (∀ change ∈ bracketed, change.Built) ∧
      (∀ given ∈ (bracketed.foldl edit { options := { generator := some "g (1)" } }).texts,
        Balanced given.text) ∧
      Balanced (bracketed.foldl edit { options := { generator := some "g (1)" } }).render := by
  have hbuilt : ∀ change ∈ bracketed, change.Built := by
    refine List.forall_mem_cons.mpr ⟨.again rfl, List.forall_mem_singleton.mpr ⟨.again rfl, ?_⟩⟩
    refine List.forall_mem_cons.mpr ⟨⟨.again rfl, ?_⟩, ?_⟩
    · exact List.forall_mem_singleton.mpr (BuiltBy.again rfl)
    · refine List.forall_mem_singleton.mpr ⟨.again rfl, ?_⟩
      exact List.forall_mem_singleton.mpr (BuiltBy.again rfl)
  have htexts : ∀ given ∈ (bracketed.foldl edit { options := { generator := some "g (1)" } }).texts,
      Balanced given.text := by decide +kernel
  exact ⟨hbuilt, htexts, balanced_render _ bracketed hbuilt htexts⟩

end SourceFile

end DartSource
