import DartSource.Proofs.Layout.Framed
import DartSource.Proofs.Node.Hygiene
import DartSource.Proofs.Node.Tidy

/-!
# The body of a type

Between the braces of a class, mixin or extension stand its members, kind by kind: each as it is
written by itself, indented by one unit, with an empty line between two neighbours unless both are
fields. In an enum this block follows the constants after an empty line. Everything about the body
is said by `Declaration.LaidOut`, which holds of every built type whose members and constants keep
to their lines (`Declaration.laidOut_of_built`).

The order in which members of different kinds were given leaves no trace: the block depends on the
members of each kind alone.
-/

namespace DartSource

open Text (OneLine FillsLine indented)

/-! ### Members are framed -/

theorem Meta.isLine_of_mem_fragments (info : Meta) :
    ∀ piece ∈ Fragment.piecesOf info.fragments, piece.isLine = true := by
  unfold fragments
  rw [Fragment.piecesOf_append, List.forall_mem_append, Fragment.piecesOf_eq_flatMap,
    Fragment.piecesOf_eq_flatMap, List.flatMap_map, List.flatMap_map, List.forall_mem_flatMap,
    List.forall_mem_flatMap]
  constructor
  · exact fun text _ => List.forall_mem_map.mpr fun line _ => rfl
  · exact fun mark _ => List.forall_mem_singleton.mpr rfl

/-- A signature with its body begins with the signature and ends with a semicolon or a brace. -/
theorem Body.framed_attach {signature : String} (h : FillsLine signature) (body : Option Body) :
    Fragment.Framed (attach signature body) := by
  cases body with
  | none => exact Fragment.framed_line _
  | some body =>
    cases body with
    | arrow expression =>
      -- an expression may bring lines of its own, which stand between signature and semicolon
      have htext : signature ++ " => " ++ Text.trim expression ++ ";" =
          signature ++ " " ++ ("=> " ++ Text.trim expression) ++ ";" := by
        have harrow : " => " = " " ++ "=> " := by decide
        rw [harrow]
        simp only [String.append_assoc]
      rw [attach, htext]
      exact Fragment.framed_ofText h _
    | block text =>
      rw [attach]
      split
      · exact Fragment.framed_line _
      · exact Fragment.framed_block _ _ _

namespace Member

/-- A member begins with a line of its doc comment, an annotation or its signature, and ends with a
semicolon or a brace. -/
theorem framed_fragments {member : Member} (hnames : ∀ name ∈ member.names, FillsLine name)
    (htexts : ∀ given ∈ member.texts, given.Fits) : Fragment.Framed member.fragments := by
  cases member with
  | property member => exact (Fragment.framed_line _).behind (Meta.isLine_of_mem_fragments _)
  | getter member =>
    have hword : Text.allBlank "get " = false := by decide
    have hsignature : FillsLine member.signature := by
      refine ⟨Getter.oneLine_signature hnames htexts, ?_⟩
      -- its keyword can be seen
      simp only [Getter.signature, Text.allBlank_append, hword, Bool.and_false, Bool.false_and]
    exact (Body.framed_attach hsignature _).behind (Meta.isLine_of_mem_fragments _)
  | setter member =>
    have hword : Text.allBlank "set " = false := by decide
    have hsignature : FillsLine member.signature := by
      refine ⟨Setter.oneLine_signature hnames htexts, ?_⟩
      simp only [Setter.signature, Text.allBlank_append, hword, Bool.and_false, Bool.false_and]
    exact (Body.framed_attach hsignature _).behind (Meta.isLine_of_mem_fragments _)
  | constructor member =>
    have hclass : FillsLine member.className := hnames member.className List.mem_cons_self
    have hdisplay : Text.allBlank member.displayName = false := by
      unfold Constructor.displayName
      split
      · simp only [Text.allBlank_append, hclass.visible, Bool.false_and]
      · exact hclass.visible
    have hsignature : FillsLine member.signature := by
      refine ⟨Constructor.oneLine_signature hnames htexts, ?_⟩
      simp only [Constructor.signature, Text.allBlank_append, hdisplay, Bool.and_false,
        Bool.false_and]
    exact (Body.framed_attach hsignature _).behind (Meta.isLine_of_mem_fragments _)
  | method member =>
    have hname : FillsLine member.callable.name := hnames member.callable.name List.mem_cons_self
    have hstatic : OneLine "static" := by decide
    have hsignature : FillsLine member.signature := by
      refine ⟨Callable.oneLine_signature (List.forall_mem_singleton.mpr hstatic) hnames htexts, ?_⟩
      simp only [Method.signature, Callable.signature, Text.allBlank_append, hname.visible,
        Bool.and_false, Bool.false_and]
    refine (Body.framed_attach hsignature _).behind ?_
    -- the mark of a method that overrides another is one more line
    rw [Fragment.piecesOf_append, List.forall_mem_append]
    refine ⟨Meta.isLine_of_mem_fragments _, ?_⟩
    split
    · exact List.forall_mem_singleton.mpr rfl
    · exact fun piece hmem => absurd hmem List.not_mem_nil

/-! ### The block of members -/

/-- The member is a getter. -/
def isGetter : Member → Bool
  | .getter _ => true
  | _ => false

/-- The member is a setter. -/
def isSetter : Member → Bool
  | .setter _ => true
  | _ => false

/-- The member is a method. -/
def isMethod : Member → Bool
  | .method _ => true
  | _ => false

/-- Fields, getters, setters, constructors, methods; each kind in the given order. -/
def byKind (members : List Member) : List Member :=
  members.filter isProperty ++ members.filter isGetter ++ members.filter isSetter ++
    members.filter isConstructor ++ members.filter isMethod

/-- Two lists of members that agree kind by kind. -/
structure SameKinds (members others : List Member) : Prop where
  properties : members.filter isProperty = others.filter isProperty
  getters : members.filter isGetter = others.filter isGetter
  setters : members.filter isSetter = others.filter isSetter
  constructors : members.filter isConstructor = others.filter isConstructor
  methods : members.filter isMethod = others.filter isMethod

/-- The text of a member that stands alone. -/
def written (indent : Indent) (member : Member) : String :=
  Fragment.written indent member.fragments

/-- The indented texts of members, an empty line between two that are not both fields. -/
def blockText (indent : Indent) : List Member → String
  | [] => ""
  | [last] => indented indent.unit (last.written indent)
  | first :: second :: rest =>
    indented indent.unit (first.written indent) ++
      (if first.isProperty && second.isProperty then "" else "\n") ++
      blockText indent (second :: rest)

/-- Members are arranged kind by kind. -/
theorem arrange_eq_byKind (members : List Member) : arrange members = byKind members := by
  have hrange : List.range 5 = [0, 1, 2, 3, 4] := by decide
  have hproperty : (fun member : Member => member.rank == 0) = isProperty := by
    funext member; cases member <;> rfl
  have hgetter : (fun member : Member => member.rank == 1) = isGetter := by
    funext member; cases member <;> rfl
  have hsetter : (fun member : Member => member.rank == 2) = isSetter := by
    funext member; cases member <;> rfl
  have hconstructor : (fun member : Member => member.rank == 3) = isConstructor := by
    funext member; cases member <;> rfl
  have hmethod : (fun member : Member => member.rank == 4) = isMethod := by
    funext member; cases member <;> rfl
  unfold arrange byRank byKind
  rw [hrange]
  simp only [List.flatMap_cons, List.flatMap_nil, hproperty, hgetter, hsetter, hconstructor,
    hmethod, List.append_nil, List.append_assoc]

theorem byKind_perm (members : List Member) : (byKind members).Perm members := by
  rw [← arrange_eq_byKind]
  exact arrange_perm members

theorem SameKinds.byKind_eq {members others : List Member} (h : SameKinds members others) :
    byKind members = byKind others := by
  unfold byKind
  rw [h.properties, h.getters, h.setters, h.constructors, h.methods]

theorem SameKinds.arrange_eq {members others : List Member} (h : SameKinds members others) :
    arrange members = arrange others := by
  rw [arrange_eq_byKind, arrange_eq_byKind, h.byKind_eq]

theorem SameKinds.isEmpty_eq {members others : List Member} (h : SameKinds members others) :
    members.isEmpty = others.isEmpty := by
  have hperm : members.Perm others := by
    have hmembers := byKind_perm members
    rw [h.byKind_eq] at hmembers
    exact hmembers.symm.trans (byKind_perm others)
  exact hperm.isEmpty_eq

variable {members : List Member}

/-- One level deep, spaced members are the block of their texts. -/
theorem join_spaced (indent : Indent) (h : ∀ member ∈ members, Fragment.Tidy member.fragments) :
    Piece.join indent.unit 1 (Fragment.piecesOf (spaced members)) = blockText indent members := by
  induction members with
  | nil => rfl
  | cons first rest ih =>
    obtain ⟨hfirst, hrest⟩ := List.forall_mem_cons.mp h
    cases rest with
    | nil => exact (hfirst.indented_written indent).symm
    | cons second more =>
      -- whether a line is left empty depends on the two neighbours alone
      have hgap : Piece.join indent.unit 1 (Fragment.piecesOf
          (if first.isProperty && second.isProperty then [] else [.blank])) =
          if first.isProperty && second.isProperty then "" else "\n" := by
        split <;> rfl
      rw [spaced, Fragment.piecesOf_append, Fragment.piecesOf_append, Piece.join_append,
        Piece.join_append, ih hrest, hgap, blockText, written, hfirst.indented_written]

theorem framed_spaced (hne : members ≠ [])
    (h : ∀ member ∈ members, Fragment.Framed member.fragments) :
    Fragment.Framed (spaced members) := by
  induction members with
  | nil => exact absurd rfl hne
  | cons first rest ih =>
    obtain ⟨hfirst, hrest⟩ := List.forall_mem_cons.mp h
    cases rest with
    | nil => exact hfirst
    | cons second more => exact hfirst.append (ih (List.cons_ne_nil second more) hrest) _

/-- One level deep, the body of a type is the block of its members kind by kind. -/
theorem join_bodyFragments (indent : Indent)
    (h : ∀ member ∈ members, Fragment.Tidy member.fragments) :
    Piece.join indent.unit 1 (Fragment.piecesOf (bodyFragments members)) =
      blockText indent (byKind members) := by
  unfold bodyFragments
  rw [arrange_eq_byKind]
  exact join_spaced indent fun member hmem => h member ((byKind_perm members).mem_iff.mp hmem)

theorem framed_bodyFragments (hne : members ≠ [])
    (h : ∀ member ∈ members, Fragment.Framed member.fragments) :
    Fragment.Framed (bodyFragments members) := by
  unfold bodyFragments
  rw [arrange_eq_byKind]
  refine framed_spaced (fun hnil => hne ?_) fun member hmem =>
    h member ((byKind_perm members).mem_iff.mp hmem)
  have hperm := byKind_perm members
  rw [hnil] at hperm
  exact hperm.nil_eq.symm

end Member

/-! ### Types -/

namespace Fragment

/-- Nothing stands between the braces, or lines one level deeper. -/
theorem written_braced (indent : Indent) (header : String) (body : List Fragment) :
    written indent [braced header body] =
      header ++ " \x7b" ++
        (if body = [] then "" else "\n" ++ Piece.join indent.unit 1 (piecesOf body)) ++
        "\x7d\n" := by
  cases body with
  | nil =>
    have hbraces : " \x7b\x7d" ++ "\n" = " \x7b" ++ "\x7d\n" := by decide
    calc written indent [braced header []]
      _ = Piece.join indent.unit 0 [⟨0, .line (header ++ " \x7b\x7d")⟩] := written_eq_join _ _
      _ = header ++ (" \x7b\x7d" ++ "\n") := by
        rw [Piece.join_cons, Piece.join_nil, String.append_empty, Piece.text_line_zero,
          String.append_assoc]
      _ = header ++ " \x7b" ++ "" ++ "\x7d\n" := by
        rw [hbraces, String.append_empty, String.append_assoc]
  | cons first rest =>
    have hclose : "\x7d" ++ "\n" = "\x7d\n" := by decide
    calc written indent [braced header (first :: rest)]
      _ = Piece.join indent.unit 0 (⟨0, .line (header ++ " \x7b")⟩ ::
          (piecesOf (first :: rest)).map Piece.deepen ++ [⟨0, .line "\x7d"⟩]) := by
        rw [written_eq_join, braced, List.isEmpty_cons, if_neg Bool.false_ne_true, piecesOf_cons,
          piecesOf_nil, List.append_nil, pieces, Option.toList_some, List.map_singleton]
      _ = header ++ " \x7b" ++ "\n" ++ Piece.join indent.unit 1 (piecesOf (first :: rest)) ++
          ("\x7d" ++ "\n") := by
        rw [Piece.join_append, Piece.join_cons, Piece.join_cons, Piece.join_nil,
          String.append_empty, Piece.text_line_zero, Piece.text_line_zero, Piece.join_map_deepen]
      _ = header ++ " \x7b" ++ ("\n" ++ Piece.join indent.unit 1 (piecesOf (first :: rest))) ++
          "\x7d\n" := by
        rw [hclose]
        simp only [String.append_assoc]

theorem Framed.ne_nil {fragments : List Fragment} (h : Framed fragments) : fragments ≠ [] := by
  rintro rfl
  obtain ⟨piece, rest, hnil, -⟩ := h.first
  exact absurd hnil (List.cons_ne_nil _ _).symm

end Fragment

namespace Declaration

/-- The line that opens the body of a type, without the brace; other declarations have none. -/
def header? : Declaration → Option String
  | .classDecl decl => some decl.header
  | .enumDecl decl => some decl.header
  | .mixinDecl decl => some decl.header
  | .extensionDecl decl => some decl.header
  | .functionDecl _ => none
  | .variable _ => none

/-- What stands above a declaration. -/
def info : Declaration → Meta
  | .classDecl decl => decl.info
  | .enumDecl decl => decl.info
  | .mixinDecl decl => decl.info
  | .extensionDecl decl => decl.info
  | .functionDecl decl => decl.callable.info
  | .variable decl => decl.info

/-- The constants of an enum; other declarations have none. -/
def constants : Declaration → List EnumConstant
  | .enumDecl decl => decl.constants
  | _ => []

/-- The type with other members. -/
def withMembers (declaration : Declaration) (members : List Member) : Declaration :=
  match declaration with
  | .classDecl decl => .classDecl { decl with members }
  | .enumDecl decl => .enumDecl { decl with members }
  | .mixinDecl decl => .mixinDecl { decl with members }
  | .extensionDecl decl => .extensionDecl { decl with members }
  | other => other

/-- The given texts between the braces. -/
def insideTexts (declaration : Declaration) : List GivenText :=
  declaration.constants.flatMap EnumConstant.texts ++ declaration.members.flatMap Member.texts

/-- The lines of the constants; a semicolon follows the last one if there are members. -/
def constantLines (indent : Indent) (declaration : Declaration) : String :=
  indented indent.unit (Fragment.written indent (EnumDecl.constantFragments
    (if declaration.members.isEmpty then "" else ";") declaration.constants))

/-- What stands between the braces: nothing, or the constants and the block of members, with an
empty line between the two. -/
def insideText (indent : Indent) (declaration : Declaration) : String :=
  if declaration.constants.isEmpty && declaration.members.isEmpty then ""
  else
    "\n" ++ declaration.constantLines indent ++
      (if declaration.constants.isEmpty || declaration.members.isEmpty then "" else "\n") ++
      Member.blockText indent (Member.byKind declaration.members)

/-- How the body of a type is laid out. -/
structure LaidOut (indent : Indent) (header : String) (declaration : Declaration) : Prop where
  text : Fragment.written indent declaration.fragments =
    Fragment.written indent declaration.info.fragments ++ header ++ " \x7b" ++
      declaration.insideText indent ++ "\x7d\n"
  /-- No member begins or ends with an empty line; neither do the constants and the block. -/
  member : ∀ member ∈ declaration.members, Text.Framed (member.written indent)
  constants : declaration.constants ≠ [] → Text.Framed (declaration.constantLines indent)
  block : declaration.members ≠ [] →
    Text.Framed (Member.blockText indent (Member.byKind declaration.members))
  /-- Each member is there exactly once. -/
  once : (Member.byKind declaration.members).Perm declaration.members
  /-- In which order members of different kinds were given makes no difference. -/
  kinds : ∀ others, Member.SameKinds declaration.members others →
    Fragment.written indent (declaration.withMembers others).fragments =
      Fragment.written indent declaration.fragments

/-- The fragments between the braces of a type. -/
def inside : Declaration → List Fragment
  | .enumDecl decl => decl.bodyFragments
  | declaration => Member.bodyFragments declaration.members

variable {declaration : Declaration}

/-- A type is what stands above it, its header, and its body in braces. -/
theorem fragments_of_header? {header : String} (h : declaration.header? = some header) :
    declaration.fragments =
      declaration.info.fragments ++ [Fragment.braced header declaration.inside] := by
  cases declaration with
  | classDecl decl =>
    obtain rfl := Option.some.inj h
    rfl
  | enumDecl decl =>
    obtain rfl := Option.some.inj h
    rfl
  | mixinDecl decl =>
    obtain rfl := Option.some.inj h
    rfl
  | extensionDecl decl =>
    obtain rfl := Option.some.inj h
    rfl
  | functionDecl decl => exact absurd h (Option.some_ne_none _).symm
  | «variable» decl => exact absurd h (Option.some_ne_none _).symm

/-- The lines of the constants begin with what stands above the first constant and end with the last
constant. -/
theorem framed_constantFragments (close : String) {constants : List EnumConstant}
    (hne : constants ≠ []) : Fragment.Framed (EnumDecl.constantFragments close constants) := by
  induction constants with
  | nil => exact absurd rfl hne
  | cons first rest ih =>
    cases rest with
    | nil => exact (Fragment.framed_line _).behind (Meta.isLine_of_mem_fragments _)
    | cons second more =>
      have hfirst : Fragment.Framed (first.info.fragments ++ [.line (first.text ++ ",")]) :=
        (Fragment.framed_line _).behind (Meta.isLine_of_mem_fragments _)
      have hall := hfirst.append (ih (List.cons_ne_nil second more)) []
      rwa [List.append_nil, List.append_assoc] at hall

/-- Constants, an empty line if it separates something, and members. A built enum has constants;
without any, its members would still have an empty line in front of them. -/
theorem inside_eq (h : declaration.Built) :
    declaration.inside =
      EnumDecl.constantFragments (if declaration.members.isEmpty then "" else ";")
          declaration.constants ++
        (if declaration.constants.isEmpty || declaration.members.isEmpty then [] else [.blank]) ++
        Member.bodyFragments declaration.members := by
  cases declaration with
  | enumDecl decl =>
    have hconstants : decl.constants.isEmpty = false :=
      List.isEmpty_eq_false_iff.mpr h.hygienic_constants.1
    show decl.bodyFragments =
      EnumDecl.constantFragments (if decl.members.isEmpty then "" else ";") decl.constants ++
        (if decl.constants.isEmpty || decl.members.isEmpty then [] else [.blank]) ++
        Member.bodyFragments decl.members
    unfold EnumDecl.bodyFragments
    rw [hconstants, Bool.false_or]
    cases hmembers : decl.members with
    | nil => exact (List.append_nil _).symm.trans (List.append_nil _).symm
    | cons first rest => exact (List.append_assoc _ [Fragment.blank] _).symm
  | _ => rfl

/-- Nothing is written exactly when there is nothing to write. -/
theorem inside_eq_nil_iff (hbuilt : declaration.Built)
    (hframed : ∀ member ∈ declaration.members, Fragment.Framed member.fragments) :
    declaration.inside = [] ↔ declaration.constants = [] ∧ declaration.members = [] := by
  rw [inside_eq hbuilt, List.append_eq_nil_iff, List.append_eq_nil_iff]
  constructor
  · rintro ⟨⟨hconstants, -⟩, hbody⟩
    constructor
    · by_contra hne
      exact (framed_constantFragments _ hne).ne_nil hconstants
    · by_contra hne
      exact (Member.framed_bodyFragments hne hframed).ne_nil hbody
  · rintro ⟨hconstants, hmembers⟩
    rw [hconstants, hmembers]
    exact ⟨⟨rfl, rfl⟩, rfl⟩

/-- Between the braces stand the constants and the block of members. -/
theorem text_inside (indent : Indent) (hbuilt : declaration.Built)
    (hconstants : ∀ close, OneLine close →
      Fragment.Tidy (EnumDecl.constantFragments close declaration.constants))
    (hmembers : ∀ member ∈ declaration.members, Fragment.Tidy member.fragments)
    (hframed : ∀ member ∈ declaration.members, Fragment.Framed member.fragments) :
    (if declaration.inside = [] then ""
      else "\n" ++ Piece.join indent.unit 1 (Fragment.piecesOf declaration.inside)) =
      declaration.insideText indent := by
  have hclose : OneLine (if declaration.members.isEmpty then "" else ";") :=
    .ite (by decide) (by decide)
  have hgap : Piece.join indent.unit 1 (Fragment.piecesOf
      (if declaration.constants.isEmpty || declaration.members.isEmpty then [] else [.blank])) =
      if declaration.constants.isEmpty || declaration.members.isEmpty then "" else "\n" := by
    split <;> rfl
  have hjoin : Piece.join indent.unit 1 (Fragment.piecesOf declaration.inside) =
      declaration.constantLines indent ++
        (if declaration.constants.isEmpty || declaration.members.isEmpty then "" else "\n") ++
        Member.blockText indent (Member.byKind declaration.members) := by
    rw [inside_eq hbuilt, Fragment.piecesOf_append, Fragment.piecesOf_append, Piece.join_append,
      Piece.join_append, hgap, Member.join_bodyFragments indent hmembers, constantLines,
      (hconstants _ hclose).indented_written]
  have hempty : declaration.inside = [] ↔
      (declaration.constants.isEmpty && declaration.members.isEmpty) = true := by
    rw [inside_eq_nil_iff hbuilt hframed, Bool.and_eq_true, List.isEmpty_iff, List.isEmpty_iff]
  unfold insideText
  by_cases hnil : declaration.inside = []
  · rw [if_pos hnil, if_pos (hempty.mp hnil)]
  · rw [if_neg hnil, if_neg fun h => hnil (hempty.mpr h), hjoin]
    simp only [String.append_assoc]

/-- A type depends on its members only kind by kind. -/
theorem fragments_withMembers {others : List Member}
    (h : Member.SameKinds declaration.members others) :
    (declaration.withMembers others).fragments = declaration.fragments := by
  have hbody : Member.bodyFragments others = Member.bodyFragments declaration.members := by
    unfold Member.bodyFragments
    rw [h.arrange_eq]
  cases declaration with
  | classDecl decl =>
    show decl.info.fragments ++ [Fragment.braced decl.header (Member.bodyFragments others)] = _
    rw [hbody]
    rfl
  | enumDecl decl =>
    -- whether there are members decides about the semicolon and the empty line
    have hinside : EnumDecl.bodyFragments { decl with members := others } = decl.bodyFragments := by
      unfold EnumDecl.bodyFragments
      rw [hbody, ← h.isEmpty_eq]
      rfl
    show decl.info.fragments ++ [Fragment.braced decl.header
      (EnumDecl.bodyFragments { decl with members := others })] = _
    rw [hinside]
    rfl
  | mixinDecl decl =>
    show decl.info.fragments ++ [Fragment.braced decl.header (Member.bodyFragments others)] = _
    rw [hbody]
    rfl
  | extensionDecl decl =>
    show decl.info.fragments ++ [Fragment.braced decl.header (Member.bodyFragments others)] = _
    rw [hbody]
    rfl
  | functionDecl decl => rfl
  | «variable» decl => rfl

/-- The constants of a built enum were built. -/
theorem Built.constants (h : declaration.Built) :
    ∀ constant ∈ declaration.constants, constant.Built := by
  cases declaration with
  | enumDecl decl => exact h.2.1
  | _ => exact fun constant hmem => absurd hmem List.not_mem_nil

/-- **The body of a built type is the block of its members, kind by kind.** It is enough that the
texts which the members and constants put on one line are free of line feeds. -/
theorem laidOut_of_built (indent : Indent) {header : String}
    (hheader : declaration.header? = some header) (hbuilt : declaration.Built)
    (htexts : ∀ given ∈ declaration.insideTexts, given.Fits) :
    declaration.LaidOut indent header := by
  obtain ⟨hconstantTexts, hmemberTexts⟩ := List.forall_mem_append.mp htexts
  have hmemberNames : ∀ name ∈ declaration.members.flatMap Member.names, FillsLine name :=
    fun name hmem => .of_isIdentifier (Member.usable_of_built hbuilt.members name hmem).1
  have hbody := Member.tidy_bodyFragments hmemberNames hmemberTexts
  rw [List.forall_mem_flatMap] at hmemberNames hmemberTexts
  have hmembers : ∀ member ∈ declaration.members, Fragment.Tidy member.fragments :=
    fun member hmem => Member.tidy_fragments (hmemberNames member hmem) (hmemberTexts member hmem)
  have hframed : ∀ member ∈ declaration.members, Fragment.Framed member.fragments :=
    fun member hmem => Member.framed_fragments (hmemberNames member hmem) (hmemberTexts member hmem)
  have hconstants : ∀ close, OneLine close →
      Fragment.Tidy (EnumDecl.constantFragments close declaration.constants) := by
    intro close hclose
    refine EnumDecl.tidy_constantFragments hclose (List.forall_mem_flatMap.mpr ?_) hconstantTexts
    intro constant hmem name hname
    exact .of_isIdentifier ((hbuilt.constants constant hmem).usable name hname).1
  have hclose : OneLine (if declaration.members.isEmpty then "" else ";") :=
    .ite (by decide) (by decide)
  refine ⟨?_, ?_, ?_, ?_, Member.byKind_perm _, fun others h => ?_⟩
  · rw [fragments_of_header? hheader, Fragment.written_append, Fragment.written_braced,
      text_inside indent hbuilt hconstants hmembers hframed]
    simp only [String.append_assoc]
  -- nothing of it begins or ends with an empty line
  · intro member hmem
    unfold Member.written
    rw [Fragment.written_eq_join]
    exact Piece.Framed.text (hframed member hmem) indent.oneLine_unit 0 (hmembers member hmem)
  · intro hne
    unfold constantLines
    rw [(hconstants _ hclose).indented_written]
    exact (framed_constantFragments _ hne).text indent.oneLine_unit 1 (hconstants _ hclose)
  · intro hne
    rw [← Member.join_bodyFragments indent hmembers]
    exact (Member.framed_bodyFragments hne hframed).text indent.oneLine_unit 1 hbody
  · rw [fragments_withMembers h]

/-- An enum whose members are given in no particular order of kinds. -/
def mixedEnum : Declaration :=
  .enumDecl
    { name := "E"
      constants :=
        [{ name := "a", arguments := some { positional := ["1"] } },
         { name := "b", info := { doc := some "Two." }, arguments := some { positional := ["2"] } }]
      members :=
        [.method { callable := { name := "m", body := some (.block "f();\n\n  g();") } },
         .property { name := "x", type := some "int", isFinal := true },
         .constructor
           { className := "E", params := [{ name := "x", isField := true }], isConst := true },
         .property { name := "y", isFinal := true, defaultValue := some "0" }] }

theorem laidOut_of_built_mixedEnum :
    mixedEnum.header? = some "enum E" ∧ mixedEnum.Built ∧
      (∀ given ∈ mixedEnum.insideTexts, given.Fits) ∧ mixedEnum.LaidOut .tab "enum E" := by
  have hbuilt : mixedEnum.Built := by
    refine ⟨.again rfl, ?_, ?_⟩
    · exact List.forall_mem_cons.mpr
        ⟨BuiltBy.again rfl, List.forall_mem_singleton.mpr (BuiltBy.again rfl)⟩
    · refine List.forall_mem_cons.mpr ⟨⟨.again rfl, fun _ h => absurd h List.not_mem_nil⟩, ?_⟩
      refine List.forall_mem_cons.mpr ⟨BuiltBy.again rfl, ?_⟩
      refine List.forall_mem_cons.mpr ⟨⟨.again rfl, ?_⟩, ?_⟩
      · exact List.forall_mem_singleton.mpr (BuiltBy.again rfl)
      · exact List.forall_mem_singleton.mpr (BuiltBy.again rfl)
  have htexts : ∀ given ∈ mixedEnum.insideTexts, given.Fits := by decide +kernel
  exact ⟨rfl, hbuilt, htexts, laidOut_of_built .tab rfl hbuilt htexts⟩

example : Fragment.render mixedEnum.fragments =
    "enum E \x7b\n  a(1),\n  /// Two.\n  b(2);\n\n  final int x;\n  final y = 0;\n\n" ++
      "  const E(this.x);\n\n  m() \x7b\n    f();\n\n      g();\n  \x7d\n\x7d\n" := by
  decide +kernel

/-- A class with a line feed in the label of an argument. -/
def brokenLabel : Declaration :=
  .classDecl
    { name := "C"
      members :=
        [.constructor
          { className := "C", initializers := [.superCall none { named := [("a\nb", "1")] }] }] }

/-- The labels of arguments have to keep to their line as well: what follows a line feed in one is
not indented with the rest of its member. -/
theorem not_laidOut_brokenLabel :
    brokenLabel.header? = some "class C" ∧ brokenLabel.Built ∧
      (∀ given ∈ brokenLabel.insideTexts, given.role ≠ .label → given.Fits) ∧
      ¬brokenLabel.LaidOut .standard "class C" := by
  refine ⟨rfl, ⟨.again rfl, ?_⟩, by decide +kernel, fun h => ?_⟩
  · exact List.forall_mem_singleton.mpr ⟨.again rfl, fun _ h => absurd h List.not_mem_nil⟩
  · exact absurd h.text (by decide +kernel)

end Declaration

end DartSource
