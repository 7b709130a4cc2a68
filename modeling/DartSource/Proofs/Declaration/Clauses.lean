import DartSource.Proofs.Declaration.Constants
import DartSource.Proofs.Node.Staged

/-!
# The types in the clauses of a header

The header of a class, an enum, a mixin or an extension ends with clauses: a keyword, and types with
commas between them. So a header has **slots** for types, one behind each keyword and one behind
each comma of a clause, and it is its lead and its slots, one behind the other
(`Declaration.header?_eq`). A slot that holds nothing but blanks leaves a keyword or a comma without
a type.

Building looks for a blank type in two places only, the superclass of a class and the target of an
extension. What calls put into the other clauses is **listed** as it is given. Whichever list a call
adds to, the listed types are those of all calls together (`Builder.run_parts_perm`), so it can be
told from the calls which headers have all their slots filled.

Nor does any other rule keep blank types away. A blank type refers to nothing, so it is not the
declared type itself, and it is both mixed in and implemented only if a type on the other side
refers to nothing as well (`ClassDecl.Legal.relist_iff`). The main statement,
`Declaration.slots_filled_iff`, has all this for the four kinds of declarations.
-/

namespace DartSource

/-! ### Blank types -/

/-- Some character of the text is not blank. -/
def Text.Visible (text : String) : Prop :=
  ∃ c ∈ text.toList, isBlank c = false

theorem Text.visible_iff {text : String} : Visible text ↔ allBlank text = false := by
  unfold Visible allBlank
  simp only [List.all_eq_false, Bool.not_eq_true]

namespace Supertype

variable {owner blank : String} {types others mixins interfaces : List String}

/-- A blank type refers to nothing. -/
theorem referent_of_not_visible (h : ¬Text.Visible blank) : referent blank = "" := by
  have hall : ∀ c ∈ blank.toList, Text.isBlank c = true := by
    intro c hc
    by_contra hvisible
    exact h ⟨c, hc, Bool.eq_false_iff.mpr hvisible⟩
  have hfront : (blank.toList.takeWhile fun c => c != '<' && c != '?').dropWhile Text.isBlank =
      [] := by
    rw [List.dropWhile_eq_nil_iff]
    exact fun c hc => hall c ((List.takeWhile_prefix _).subset hc)
  unfold referent Text.trim Text.trimChars
  rw [String.toList_ofList, hfront]
  rfl

/-- The second list has nothing that is not in the first, apart from blank types. -/
def Blanked (types others : List String) : Prop :=
  ∀ type ∈ others, type ∈ types ∨ ¬Text.Visible type

theorem blanked_refl (types : List String) : Blanked types types :=
  fun _ htype => .inl htype

theorem blanked_append (h : ¬Text.Visible blank) (types : List String) :
    Blanked types (types ++ [blank]) :=
  List.forall_mem_append.mpr ⟨blanked_refl types, List.forall_mem_singleton.mpr (.inr h)⟩

/-- Blank types do not refer to the declared type, which has a name. -/
theorem Blanked.notSelf (h : Blanked types others) (howner : UsableName owner)
    (hself : ∀ type ∈ types, referent type ≠ owner) : ∀ type ∈ others, referent type ≠ owner := by
  intro type htype
  rcases h type htype with hold | hblank
  · exact hself type hold
  · rw [referent_of_not_visible hblank]
    exact (Text.FillsLine.of_isIdentifier howner.1).ne_empty.symm

/-- Among types that are not both mixed in and implemented, a blank one is both only if a type on
the other side refers to nothing. -/
theorem disjoint_blank_mixin_iff (hblank : ¬Text.Visible blank)
    (h : ∀ mixin ∈ mixins, ∀ interface ∈ interfaces, referent mixin ≠ referent interface) :
    (∀ mixin ∈ mixins ++ [blank], ∀ interface ∈ interfaces,
      referent mixin ≠ referent interface) ↔ ∀ type ∈ interfaces, referent type ≠ "" := by
  rw [List.forall_mem_append, List.forall_mem_singleton, referent_of_not_visible hblank]
  refine ⟨fun hall type htype => (hall.2 type htype).symm, fun hall => ⟨h, ?_⟩⟩
  exact fun type htype => (hall type htype).symm

theorem disjoint_blank_interface_iff (hblank : ¬Text.Visible blank)
    (h : ∀ mixin ∈ mixins, ∀ interface ∈ interfaces, referent mixin ≠ referent interface) :
    (∀ mixin ∈ mixins, ∀ interface ∈ interfaces ++ [blank],
      referent mixin ≠ referent interface) ↔ ∀ type ∈ mixins, referent type ≠ "" := by
  refine forall₂_congr fun mixin hmixin => ?_
  rw [List.forall_mem_append, List.forall_mem_singleton, referent_of_not_visible hblank]
  exact and_iff_right (h mixin hmixin)

/-- A blank type is taken beside the given types exactly if each of them refers to something. -/
def TakenBeside {α : Type} (result : Except Fault α) (others : List String) : Prop :=
  (∃ node, result = .ok node) ↔ ∀ type ∈ others, referent type ≠ ""

/-- Where blank types are refused only for being both mixed in and implemented, one of them is taken
on either side if nothing on the other refers to nothing. -/
theorem takenBeside_of_disjoint {α : Type} (build : List String → List String → Except Fault α)
    (hbuild : ∀ mixed implemented, Blanked mixins mixed → Blanked interfaces implemented →
      ((∃ node, build mixed implemented = .ok node) ↔
        ∀ mixin ∈ mixed, ∀ interface ∈ implemented, referent mixin ≠ referent interface))
    (h : ∀ mixin ∈ mixins, ∀ interface ∈ interfaces, referent mixin ≠ referent interface)
    (hblank : ¬Text.Visible blank) :
    TakenBeside (build (mixins ++ [blank]) interfaces) interfaces ∧
      TakenBeside (build mixins (interfaces ++ [blank])) mixins := by
  constructor
  · exact (hbuild _ _ (blanked_append hblank _) (blanked_refl _)).trans
      (disjoint_blank_mixin_iff hblank h)
  · exact (hbuild _ _ (blanked_refl _) (blanked_append hblank _)).trans
      (disjoint_blank_interface_iff hblank h)

/-! ### Slots -/

/-- A place for a type in a header: what stands in front of it, and the text in it. -/
structure Slot where
  opening : String
  type : String
  deriving DecidableEq, Repr

/-- A slot with what stands in front of it. -/
def Slot.text (slot : Slot) : String :=
  slot.opening ++ slot.type

/-- The slots of a clause. The keyword opens the first of them, and a comma each of the others. -/
def slots : String × List String → List Slot
  | (_, []) => []
  | (keyword, first :: more) =>
    ⟨" " ++ keyword ++ " ", first⟩ :: more.map fun type => ⟨", ", type⟩

theorem map_type_slots (clause : String × List String) :
    (slots clause).map Slot.type = clause.2 := by
  obtain ⟨keyword, types⟩ := clause
  cases types with
  | nil => rfl
  | cons first more =>
    rw [slots, List.map_cons, List.map_map]
    exact congrArg (first :: ·) (List.map_id more)

/-- Types behind the first have a comma in front of them. -/
theorem commaSep_cons (first : String) (more : List String) :
    Text.commaSep (first :: more) =
      first ++ String.join (more.map fun type => Slot.text ⟨", ", type⟩) := by
  unfold Text.commaSep
  induction more generalizing first with
  | nil => rw [String.intercalate_singleton, List.map_nil, String.join_nil, String.append_empty]
  | cons second rest ih =>
    rw [String.intercalate_cons_of_ne_nil (List.cons_ne_nil _ _), ih second, List.map_cons,
      String.join_cons, Slot.text]
    simp only [String.append_assoc]

/-- **A clause is its slots.** -/
theorem clause_eq_join_slots (keyword : String) (types : List String) :
    clause keyword types = String.join ((slots (keyword, types)).map Slot.text) := by
  cases types with
  | nil => rfl
  | cons first more =>
    rw [clause, List.isEmpty_cons, if_neg Bool.false_ne_true, commaSep_cons, slots, List.map_cons,
      String.join_cons, Slot.text, List.map_map, ← String.append_assoc]
    rfl

end Supertype

/-! ### Headers -/

namespace Declaration

open Supertype (Slot)

/-- The clauses in which a declaration names other types, with their keywords. -/
def clauses : Declaration → List (String × List String)
  | .classDecl decl => decl.clauses
  | .enumDecl decl => decl.clauses
  | .mixinDecl decl => decl.clauses
  | .extensionDecl decl => [("on", [decl.target])]
  | .functionDecl _ => []
  | .variable _ => []

/-- The slots of a header, clause by clause. -/
def slots (declaration : Declaration) : List Slot :=
  declaration.clauses.flatMap Supertype.slots

/-- The header up to its clauses: for all but extensions, that of the declaration without any. -/
def lead : Declaration → String
  | .classDecl decl =>
    ClassDecl.header { decl with superclass := none, mixins := [], interfaces := [] }
  | .enumDecl decl => EnumDecl.header { decl with mixins := [], interfaces := [] }
  | .mixinDecl decl => MixinDecl.header { decl with constraints := [], interfaces := [] }
  | .extensionDecl decl =>
    "extension" ++ (decl.name.map (" " ++ ·)).getD "" ++ TypeParam.listText decl.typeParams
  | .functionDecl _ => ""
  | .variable _ => ""

variable {declaration : Declaration} {header : String}

theorem join_slots (declaration : Declaration) :
    String.join (declaration.slots.map Slot.text) =
      String.join (declaration.clauses.map fun clause => Supertype.clause clause.1 clause.2) := by
  unfold slots
  induction declaration.clauses with
  | nil => rfl
  | cons clause clauses ih =>
    rw [List.flatMap_cons, List.map_append, String.join_append, ih, List.map_cons,
      String.join_cons, Supertype.clause_eq_join_slots]

/-- **A header is its lead and its slots, one behind the other.** -/
theorem header?_eq (h : declaration.header? = some header) :
    header = declaration.lead ++ String.join (declaration.slots.map Slot.text) := by
  -- without types there is no clause, so the lead of most kinds is a header that stops short
  have hnone : ∀ keyword, Supertype.clause keyword [] = "" := fun _ => rfl
  rw [join_slots]
  cases declaration with
  | classDecl decl =>
    obtain rfl := Option.some.inj h
    simp only [lead, ClassDecl.header, clauses, ClassDecl.clauses, List.map_cons, List.map_nil,
      String.join_cons, String.join_nil, Option.toList_none, hnone, String.append_empty,
      String.append_assoc]
  | enumDecl decl =>
    obtain rfl := Option.some.inj h
    simp only [lead, EnumDecl.header, clauses, EnumDecl.clauses, List.map_cons, List.map_nil,
      String.join_cons, String.join_nil, hnone, String.append_empty, String.append_assoc]
  | mixinDecl decl =>
    obtain rfl := Option.some.inj h
    simp only [lead, MixinDecl.header, clauses, MixinDecl.clauses, List.map_cons, List.map_nil,
      String.join_cons, String.join_nil, hnone, String.append_empty, String.append_assoc]
  | extensionDecl decl =>
    obtain rfl := Option.some.inj h
    -- the clause of an extension has one type, so there are no commas in it
    have hon : Supertype.clause "on" [decl.target] = " on " ++ decl.target := rfl
    have htext : String.join ((extensionDecl decl).clauses.map
        fun clause => Supertype.clause clause.1 clause.2) = " on " ++ decl.target := by
      rw [clauses, List.map_singleton, String.join_cons, String.join_nil, String.append_empty, hon]
    rw [htext, lead, ExtensionDecl.header, ← String.append_assoc]
    cases decl.name <;> rfl
  | functionDecl decl => exact absurd h (Option.some_ne_none _).symm
  | «variable» decl => exact absurd h (Option.some_ne_none _).symm

theorem map_type_slots (declaration : Declaration) :
    declaration.slots.map Slot.type = declaration.clauses.flatMap Prod.snd := by
  unfold slots
  rw [List.map_flatMap]
  exact congrArg (List.flatMap · declaration.clauses) (funext Supertype.map_type_slots)

/-- The header of a declaration, by the types that were given to it: those that building looked at,
and those that it listed. -/
structure Headed (declaration : Declaration) (checked listed : List String) : Prop where
  /-- Between what stands above the declaration and the brace, lead and slots are written. -/
  written : ∀ indent, ∃ body, Fragment.written indent declaration.fragments =
    Fragment.written indent declaration.info.fragments ++
      (declaration.lead ++ String.join (declaration.slots.map Slot.text)) ++ " \x7b" ++ body
  /-- The slots hold the types that were given, each as often as it was. -/
  given : (declaration.slots.map Slot.type).Perm (checked ++ listed)
  /-- What was looked at is there, … -/
  checked : ∀ type ∈ checked, Text.Visible type
  /-- … so all slots are filled exactly if all listed types are. -/
  filled : (∀ slot ∈ declaration.slots, Text.Visible slot.type) ↔
    ∀ type ∈ listed, Text.Visible type

theorem headed_of_given {checked listed : List String} (hheader : declaration.header? = some header)
    (hgiven : (declaration.clauses.flatMap Prod.snd).Perm (checked ++ listed))
    (hchecked : ∀ type ∈ checked, Text.Visible type) : declaration.Headed checked listed := by
  rw [← map_type_slots] at hgiven
  refine ⟨fun indent => ?_, hgiven, hchecked, ?_⟩
  · refine ⟨(if declaration.inside = [] then ""
      else "\n" ++ Piece.join indent.unit 1 (Fragment.piecesOf declaration.inside)) ++ "\x7d\n", ?_⟩
    rw [fragments_of_header? hheader, Fragment.written_append, Fragment.written_braced,
      ← header?_eq hheader]
    simp only [String.append_assoc]
  · have hslots : (∀ slot ∈ declaration.slots, Text.Visible slot.type) ↔
        ∀ type ∈ checked ++ listed, Text.Visible type := by
      rw [← List.forall_mem_map (f := Slot.type)]
      exact forall_congr' fun type => imp_congr_left hgiven.mem_iff
    rw [hslots, List.forall_mem_append]
    exact and_iff_right hchecked

end Declaration

/-! ### Calls -/

namespace Builder

variable {α β : Type} {builder : Builder α β} {draft node : α} {changes : List β}

/-- **What every call adds to the parts of a draft, a run of calls adds.** It does not matter where
among the others a call puts its parts. -/
theorem run_parts_perm {ι : Type} (parts : α → List ι) (added : β → List ι)
    (hedit : ∀ draft change changed, builder.edit draft change = .ok changed →
      (parts changed).Perm (parts draft ++ added change))
    {changed : α} (h : builder.run draft changes = .ok changed) :
    (parts changed).Perm (parts draft ++ changes.flatMap added) := by
  induction changes generalizing draft with
  | nil =>
    obtain rfl := Except.ok.inj h
    rw [List.flatMap_nil, List.append_nil]
  | cons change changes ih =>
    rw [run_cons] at h
    obtain ⟨next, hnext, hrest⟩ := bind_eq_ok_iff.mp h
    -- the first call adds to the parts of the draft, the others to the parts of what comes of it
    have hstep := (hedit draft change next hnext).append_right (changes.flatMap added)
    rw [List.append_assoc, ← List.flatMap_cons] at hstep
    exact (ih hrest).trans hstep

/-- A builder that only checks its drafts makes what its calls lead to, if that is legal. -/
theorem run_of_make (rules : α → List Rule)
    (hbuild : ∀ draft, builder.build draft = Rule.enforce (rules draft) draft)
    (h : builder.make draft changes = .ok node) :
    builder.run draft changes = .ok node ∧ Rule.Obeyed (rules node) := by
  obtain ⟨changed, hrun, hnode⟩ := bind_eq_ok_iff.mp h
  rw [hbuild] at hnode
  obtain ⟨hrules, rfl⟩ := Rule.enforce_eq_ok_iff.mp hnode
  exact ⟨hrun, hrules⟩

end Builder

/-- The slots of a header hold what was listed in the draft and what the calls gave to be listed. -/
theorem Declaration.headed_of_run {α β : Type} {builder : Builder α β} (listed : α → List String)
    (added : β → List String)
    (hedit : ∀ draft change changed, builder.edit draft change = .ok changed →
      (listed changed).Perm (listed draft ++ added change))
    {draft node : α} {changes : List β} (hrun : builder.run draft changes = .ok node)
    {declaration : Declaration} {header : String} (hheader : declaration.header? = some header)
    {checked : List String}
    (htypes : declaration.clauses.flatMap Prod.snd = checked ++ listed node)
    (hchecked : ∀ type ∈ checked, Text.Visible type) :
    declaration.Headed checked (listed draft ++ changes.flatMap added) := by
  refine headed_of_given hheader ?_ hchecked
  rw [htypes]
  exact (Builder.run_parts_perm listed added hedit hrun).append_left checked

/-- A type that goes behind the first of two lists is one more in the two of them together. -/
theorem Supertype.perm_append_first (first second : List String) (type : String) :
    (first ++ [type] ++ second).Perm (first ++ second ++ [type]) := by
  rw [List.append_assoc, List.append_assoc]
  exact List.perm_append_comm.append_left first

/-! ### Classes -/

namespace ClassDecl

/-- The types of a class that building lists without looking at them. -/
def listed (decl : ClassDecl) : List String :=
  decl.mixins ++ decl.interfaces

/-- The types that a call gives to be listed. -/
def Edit.listed : Edit → List String
  | .mixin type => [type]
  | .interface type => [type]
  | _ => []

variable {draft decl : ClassDecl} {changes : List Edit}

theorem listed_edit_perm (decl : ClassDecl) (change : Edit) :
    (decl.edit change).listed.Perm (decl.listed ++ change.listed) := by
  cases change with
  | mixin type => exact Supertype.perm_append_first _ _ type
  | interface type => exact .of_eq (List.append_assoc _ _ _).symm
  | _ => exact .of_eq (List.append_nil _).symm

theorem legal_of_make (h : (DraftKind.builder .classDecl).make draft changes = .ok decl) :
    decl.Legal :=
  obeyed_rules_iff.mp (Builder.run_of_make rules (fun _ => rfl) h).2

theorem headed_of_make (h : (DraftKind.builder .classDecl).make draft changes = .ok decl) :
    (Declaration.classDecl decl).Headed decl.superclass.toList
      (draft.listed ++ changes.flatMap Edit.listed) := by
  have hrun := (Builder.run_of_make rules (fun _ => rfl) h).1
  have htypes : (Declaration.classDecl decl).clauses.flatMap Prod.snd =
      decl.superclass.toList ++ decl.listed := by
    simp [Declaration.clauses, clauses, listed]
  refine Declaration.headed_of_run listed Edit.listed ?_ hrun rfl htypes fun type htype => ?_
  · intro draft change changed hedit
    obtain rfl := Except.ok.inj hedit
    exact listed_edit_perm draft change
  · exact Text.visible_iff.mpr ((legal_of_make h).superclass type (Option.mem_toList.mp htype))

/-- A legal class that gets blank mixins and interfaces stays legal exactly if nothing is both mixed
in and implemented then. -/
theorem Legal.relist_iff (h : decl.Legal) {mixins interfaces : List String}
    (hmixins : Supertype.Blanked decl.mixins mixins)
    (hinterfaces : Supertype.Blanked decl.interfaces interfaces) :
    Legal { decl with mixins, interfaces } ↔ ∀ mixin ∈ mixins, ∀ interface ∈ interfaces,
      Supertype.referent mixin ≠ Supertype.referent interface := by
  refine ⟨fun hlegal => hlegal.disjoint, fun hdisjoint =>
    { h with notSelf := ?_, disjoint := hdisjoint }⟩
  have hself := h.notSelf
  rw [clauses, List.forall_mem_cons, List.forall_mem_cons, List.forall_mem_singleton] at hself ⊢
  obtain ⟨hextends, hwith, himplements⟩ := hself
  exact ⟨hextends, hmixins.notSelf h.name hwith, hinterfaces.notSelf h.name himplements⟩

/-- A class takes a blank mixin, and a blank interface, if nothing on the other side is like it. -/
theorem Legal.takes_blank (h : decl.Legal) {blank : String} (hblank : ¬Text.Visible blank) :
    Supertype.TakenBeside ((DraftKind.builder .classDecl).make decl [Edit.mixin blank])
        decl.interfaces ∧
      Supertype.TakenBeside ((DraftKind.builder .classDecl).make decl [Edit.interface blank])
        decl.mixins := by
  refine Supertype.takenBeside_of_disjoint
    (fun mixins interfaces => build { decl with mixins, interfaces })
    (fun mixed implemented hmixed himplemented => ?_) h.disjoint hblank
  exact Rule.exists_enforce_eq_ok_iff.trans
    (obeyed_rules_iff.trans (h.relist_iff hmixed himplemented))

end ClassDecl

/-! ### Enums -/

namespace EnumDecl

/-- The types of an enum; building lists them without looking at them. -/
def listed (decl : EnumDecl) : List String :=
  decl.mixins ++ decl.interfaces

/-- The types that a call gives to be listed. -/
def Edit.listed : Edit → List String
  | .mixin type => [type]
  | .interface type => [type]
  | _ => []

variable {draft decl : EnumDecl} {changes : List Edit}

theorem listed_edit_perm {changed : EnumDecl} {change : Edit} (h : decl.edit change = .ok changed) :
    changed.listed.Perm (decl.listed ++ change.listed) := by
  cases change with
  | mixin type =>
    obtain rfl := Except.ok.inj h
    exact Supertype.perm_append_first _ _ type
  | interface type =>
    obtain rfl := Except.ok.inj h
    exact .of_eq (List.append_assoc _ _ _).symm
  | values names =>
    -- the one call that can be refused; it builds constants, and lists no types
    obtain ⟨constants, -, h⟩ := bind_eq_ok_iff.mp h
    obtain rfl := Except.ok.inj h
    exact .of_eq (List.append_nil _).symm
  | _ =>
    obtain rfl := Except.ok.inj h
    exact .of_eq (List.append_nil _).symm

theorem legal_of_make (h : (DraftKind.builder .enumDecl).make draft changes = .ok decl) :
    decl.Legal :=
  obeyed_rules_iff.mp (Builder.run_of_make rules (fun _ => rfl) h).2

theorem headed_of_make (h : (DraftKind.builder .enumDecl).make draft changes = .ok decl) :
    (Declaration.enumDecl decl).Headed [] (draft.listed ++ changes.flatMap Edit.listed) := by
  have hrun := (Builder.run_of_make rules (fun _ => rfl) h).1
  have htypes : (Declaration.enumDecl decl).clauses.flatMap Prod.snd = [] ++ decl.listed := by
    simp [Declaration.clauses, clauses, listed]
  refine Declaration.headed_of_run listed Edit.listed ?_ hrun rfl htypes fun type htype => ?_
  · exact fun draft change changed hedit => listed_edit_perm hedit
  · exact absurd htype List.not_mem_nil

theorem Legal.relist_iff (h : decl.Legal) {mixins interfaces : List String}
    (hmixins : Supertype.Blanked decl.mixins mixins)
    (hinterfaces : Supertype.Blanked decl.interfaces interfaces) :
    Legal { decl with mixins, interfaces } ↔ ∀ mixin ∈ mixins, ∀ interface ∈ interfaces,
      Supertype.referent mixin ≠ Supertype.referent interface := by
  refine ⟨fun hlegal => hlegal.disjoint, fun hdisjoint =>
    { h with notSelf := ?_, disjoint := hdisjoint }⟩
  have hself := h.notSelf
  rw [clauses, List.forall_mem_cons, List.forall_mem_singleton] at hself ⊢
  obtain ⟨hwith, himplements⟩ := hself
  exact ⟨hmixins.notSelf h.name hwith, hinterfaces.notSelf h.name himplements⟩

/-- An enum takes blank types as a class does. -/
theorem Legal.takes_blank (h : decl.Legal) {blank : String} (hblank : ¬Text.Visible blank) :
    Supertype.TakenBeside ((DraftKind.builder .enumDecl).make decl [Edit.mixin blank])
        decl.interfaces ∧
      Supertype.TakenBeside ((DraftKind.builder .enumDecl).make decl [Edit.interface blank])
        decl.mixins := by
  refine Supertype.takenBeside_of_disjoint
    (fun mixins interfaces => build { decl with mixins, interfaces })
    (fun mixed implemented hmixed himplemented => ?_) h.disjoint hblank
  exact Rule.exists_enforce_eq_ok_iff.trans
    (obeyed_rules_iff.trans (h.relist_iff hmixed himplemented))

end EnumDecl

/-! ### Mixins -/

namespace MixinDecl

/-- The types of a mixin; building lists them without looking at them. -/
def listed (decl : MixinDecl) : List String :=
  decl.constraints ++ decl.interfaces

/-- The types that a call gives to be listed. -/
def Edit.listed : Edit → List String
  | .constraint type => [type]
  | .interface type => [type]
  | _ => []

variable {draft decl : MixinDecl} {changes : List Edit}

theorem listed_edit_perm (decl : MixinDecl) (change : Edit) :
    (decl.edit change).listed.Perm (decl.listed ++ change.listed) := by
  cases change with
  | constraint type => exact Supertype.perm_append_first _ _ type
  | interface type => exact .of_eq (List.append_assoc _ _ _).symm
  | _ => exact .of_eq (List.append_nil _).symm

theorem legal_of_make (h : (DraftKind.builder .mixinDecl).make draft changes = .ok decl) :
    decl.Legal :=
  obeyed_rules_iff.mp (Builder.run_of_make rules (fun _ => rfl) h).2

theorem headed_of_make (h : (DraftKind.builder .mixinDecl).make draft changes = .ok decl) :
    (Declaration.mixinDecl decl).Headed [] (draft.listed ++ changes.flatMap Edit.listed) := by
  have hrun := (Builder.run_of_make rules (fun _ => rfl) h).1
  have htypes : (Declaration.mixinDecl decl).clauses.flatMap Prod.snd = [] ++ decl.listed := by
    simp [Declaration.clauses, clauses, listed]
  refine Declaration.headed_of_run listed Edit.listed ?_ hrun rfl htypes fun type htype => ?_
  · intro draft change changed hedit
    obtain rfl := Except.ok.inj hedit
    exact listed_edit_perm draft change
  · exact absurd htype List.not_mem_nil

/-- Blank types keep a legal mixin legal: no rule compares its two clauses with each other. -/
theorem Legal.relist (h : decl.Legal) {constraints interfaces : List String}
    (hconstraints : Supertype.Blanked decl.constraints constraints)
    (hinterfaces : Supertype.Blanked decl.interfaces interfaces) :
    Legal { decl with constraints, interfaces } := by
  refine { h with notSelf := ?_ }
  have hself := h.notSelf
  rw [clauses, List.forall_mem_cons, List.forall_mem_singleton] at hself ⊢
  obtain ⟨hon, himplements⟩ := hself
  exact ⟨hconstraints.notSelf h.name hon, hinterfaces.notSelf h.name himplements⟩

theorem Legal.takes_blank (h : decl.Legal) {blank : String} (hblank : ¬Text.Visible blank) :
    (∃ node, (DraftKind.builder .mixinDecl).make decl [Edit.constraint blank] = .ok node) ∧
      ∃ node, (DraftKind.builder .mixinDecl).make decl [Edit.interface blank] = .ok node := by
  have hbuild : ∀ draft : MixinDecl, (∃ node, draft.build = .ok node) ↔ draft.Legal := fun draft =>
    Rule.exists_enforce_eq_ok_iff.trans obeyed_rules_iff
  have hnew := Supertype.blanked_append hblank
  refine ⟨(hbuild _).mpr ?_, (hbuild _).mpr ?_⟩
  · exact h.relist (hnew _) (Supertype.blanked_refl _)
  · exact h.relist (Supertype.blanked_refl _) (hnew _)

end MixinDecl

/-! ### Extensions -/

theorem ExtensionDecl.headed_of_make {draft decl : ExtensionDecl} {changes : List Edit}
    (h : (DraftKind.builder .extensionDecl).make draft changes = .ok decl) :
    (Declaration.extensionDecl decl).Headed [decl.target] [] := by
  have hlegal := obeyed_rules_iff.mp (Builder.run_of_make rules (fun _ => rfl) h).2
  refine Declaration.headed_of_given rfl (.refl _) (List.forall_mem_singleton.mpr ?_)
  exact Text.visible_iff.mpr hlegal.target

/-! ### The main statement -/

namespace Declaration

/-- The types that building looks at. -/
def checked : Declaration → List String
  | .classDecl decl => decl.superclass.toList
  | .extensionDecl decl => [decl.target]
  | _ => []

/-- The declaration was made from some draft by some calls, and the types are those that the draft
and the calls give to be listed. -/
inductive Made : Declaration → List String → Prop where
  | classDecl {draft decl : ClassDecl} {changes : List ClassDecl.Edit}
      (h : (DraftKind.builder .classDecl).make draft changes = .ok decl) :
      Made (.classDecl decl) (draft.listed ++ changes.flatMap ClassDecl.Edit.listed)
  | enumDecl {draft decl : EnumDecl} {changes : List EnumDecl.Edit}
      (h : (DraftKind.builder .enumDecl).make draft changes = .ok decl) :
      Made (.enumDecl decl) (draft.listed ++ changes.flatMap EnumDecl.Edit.listed)
  | mixinDecl {draft decl : MixinDecl} {changes : List MixinDecl.Edit}
      (h : (DraftKind.builder .mixinDecl).make draft changes = .ok decl) :
      Made (.mixinDecl decl) (draft.listed ++ changes.flatMap MixinDecl.Edit.listed)
  /-- No call changes what an extension is on. -/
  | extensionDecl {draft decl : ExtensionDecl} {changes : List ExtensionDecl.Edit}
      (h : (DraftKind.builder .extensionDecl).make draft changes = .ok decl) :
      Made (.extensionDecl decl) []

/-- What comes of one more call that gives a blank type to be listed. A mixin takes it, and a class
or an enum does if every type on the other side refers to something. -/
def TakesBlank (blank : String) : Declaration → Prop
  | .classDecl decl =>
    Supertype.TakenBeside ((DraftKind.builder .classDecl).make decl [ClassDecl.Edit.mixin blank])
        decl.interfaces ∧
      Supertype.TakenBeside
        ((DraftKind.builder .classDecl).make decl [ClassDecl.Edit.interface blank]) decl.mixins
  | .enumDecl decl =>
    Supertype.TakenBeside ((DraftKind.builder .enumDecl).make decl [EnumDecl.Edit.mixin blank])
        decl.interfaces ∧
      Supertype.TakenBeside
        ((DraftKind.builder .enumDecl).make decl [EnumDecl.Edit.interface blank]) decl.mixins
  | .mixinDecl decl =>
    (∃ node, (DraftKind.builder .mixinDecl).make decl
        [MixinDecl.Edit.constraint blank] = .ok node) ∧
      ∃ node, (DraftKind.builder .mixinDecl).make decl [MixinDecl.Edit.interface blank] = .ok node
  | _ => True

/-- **The slots of a header are filled exactly if no blank type was listed.** What a class extends
and what an extension is on is never blank, so an extension has its slot filled; a class, an enum or
a mixin has all of them filled if no type in the other clauses of the draft is blank, and none that
a call puts there. Nor is a blank type kept away from these clauses: a call that lists one is
refused only where a type on the other side refers to nothing as well. -/
theorem slots_filled_iff {declaration : Declaration} {listed : List String}
    (h : declaration.Made listed) :
    declaration.Headed declaration.checked listed ∧
      ∀ blank, ¬Text.Visible blank → declaration.TakesBlank blank := by
  cases h with
  | classDecl h =>
    exact ⟨ClassDecl.headed_of_make h, fun _ hblank =>
      (ClassDecl.legal_of_make h).takes_blank hblank⟩
  | enumDecl h =>
    exact ⟨EnumDecl.headed_of_make h, fun _ hblank =>
      (EnumDecl.legal_of_make h).takes_blank hblank⟩
  | mixinDecl h =>
    exact ⟨MixinDecl.headed_of_make h, fun _ hblank =>
      (MixinDecl.legal_of_make h).takes_blank hblank⟩
  | extensionDecl h => exact ⟨ExtensionDecl.headed_of_make h, fun _ _ => trivial⟩

/-- A class of three clauses. The superclass that was given first is blank, and another one comes in
its place. -/
theorem slots_filled_iff_twoSuperclasses :
    let changes : List ClassDecl.Edit :=
      [.superclass " ", .interface "I", .mixin "M<A, B>", .superclass "B", .mixin "N"]
    let decl : ClassDecl :=
      { name := "C", superclass := some "B", mixins := ["M<A, B>", "N"], interfaces := ["I"] }
    (DraftKind.builder .classDecl).make ({ name := "C" } : ClassDecl) changes = .ok decl ∧
      decl.header = "class C extends B with M<A, B>, N implements I" ∧
      ∀ slot ∈ (classDecl decl).slots, Text.Visible slot.type := by
  intro changes decl
  have hmake : (DraftKind.builder .classDecl).make ({ name := "C" } : ClassDecl) changes =
      .ok decl := rfl
  have hheaded := (slots_filled_iff (.classDecl hmake)).1
  have hlisted : ∀ type ∈ ["I", "M<A, B>", "N"], Text.allBlank type = false := by decide +kernel
  refine ⟨hmake, by decide +kernel, hheaded.filled.mpr fun type htype => ?_⟩
  exact Text.visible_iff.mpr (hlisted type htype)

/-- A keyword is left without a type in a class, an enum and a mixin, each by one call with a blank
type that no rule looks at. -/
theorem unfilled_slots_of_blank :
    let aClass : ClassDecl := { name := "A", mixins := [""] }
    let anEnum : EnumDecl := { name := "E", constants := [{ name := "a" }], interfaces := [" "] }
    let aMixin : MixinDecl := { name := "M", constraints := ["\t"] }
    ((DraftKind.builder .classDecl).make ({ name := "A" } : ClassDecl)
        [ClassDecl.Edit.mixin ""] = .ok aClass ∧
      aClass.header = "class A with " ∧
      ∃ slot ∈ (classDecl aClass).slots, slot.opening = " with " ∧ ¬Text.Visible slot.type) ∧
    ((DraftKind.builder .enumDecl).make ({ name := "E" } : EnumDecl)
        [EnumDecl.Edit.values ["a"], EnumDecl.Edit.interface " "] = .ok anEnum ∧
      anEnum.header = "enum E implements  " ∧
      ∃ slot ∈ (enumDecl anEnum).slots, slot.opening = " implements " ∧ ¬Text.Visible slot.type) ∧
    (DraftKind.builder .mixinDecl).make ({ name := "M" } : MixinDecl)
        [MixinDecl.Edit.constraint "\t"] = .ok aMixin ∧
      aMixin.header = "mixin M on \t" ∧
      ∃ slot ∈ (mixinDecl aMixin).slots, slot.opening = " on " ∧ ¬Text.Visible slot.type := by
  intro aClass anEnum aMixin
  have hblank : ∀ type, Text.allBlank type = true → ¬Text.Visible type := fun type htype hvisible =>
    absurd htype (Bool.eq_false_iff.mp (Text.visible_iff.mp hvisible))
  refine ⟨⟨rfl, by decide +kernel, ⟨" with ", ""⟩, ?_, rfl, hblank _ rfl⟩,
    ⟨rfl, by decide +kernel, ⟨" implements ", " "⟩, ?_, rfl, hblank _ rfl⟩,
    rfl, by decide +kernel, ⟨" on ", "\t"⟩, ?_, rfl, hblank _ rfl⟩ <;> decide +kernel

end Declaration

end DartSource
