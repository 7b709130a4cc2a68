import DartSource.Proofs.Node.Built
import DartSource.Proofs.Text.Avoidance

/-!
# Directives as lines of text

What a directive says is its **meaning**: what it does, with which file, and under which names. The
line of a directive is its meaning written down (`Made.text_eq`): a keyword, the target as a quoted
literal, and **clauses**, each with a space in front of it. Nothing of the meaning is lost on the
way. The keyword ends at the quote, the literal ends where reading it ends, and a clause ends where
the next one begins or at the semicolon, because the names in it are identifiers
(`Clause.separates`). Clauses give back the meaning, as names are shown or hidden but not both
(`Meaning.foldl_add_clauses`).

That the words `as`, `show`, `hide` and `deferred` may themselves be names does no harm: what a
clause is can be told from its first letter.
-/

namespace DartSource

open Text

/-! ### Clauses -/

/-- What may stand between the target of a directive and its end. -/
inductive Clause where
  | deferred
  | qualifier (name : String)
  | shown (names : List String)
  | hidden (names : List String)
  deriving DecidableEq, Repr

namespace Clause

/-- A clause, with a space in front of it. -/
def text : Clause → String
  | .deferred => " deferred"
  | .qualifier name => " as " ++ name
  | .shown names => " show " ++ commaSep names
  | .hidden names => " hide " ++ commaSep names

/-- The names in a clause. -/
def names : Clause → List String
  | .deferred => []
  | .qualifier name => [name]
  | .shown names => names
  | .hidden names => names

/-- The names in a clause are identifiers. -/
def Legal (clause : Clause) : Prop :=
  ∀ name ∈ clause.names, isIdentifier name = true

/-- The marks that follow a clause. -/
def marks : List Char := [' ', ';']

theorem begins_text (clause : Clause) : Begins (fun c => c ∈ marks ∧ c ∉ [';']) clause.text := by
  have hspace : ' ' ∈ marks ∧ ' ' ∉ [';'] := by decide
  cases clause with
  | deferred => exact ⟨' ', _, rfl, hspace⟩
  | qualifier name => exact ⟨' ', _, String.toList_append, hspace⟩
  | shown names => exact ⟨' ', _, String.toList_append, hspace⟩
  | hidden names => exact ⟨' ', _, String.toList_append, hspace⟩

/-- Lists of identifiers are separated by what may follow a clause. -/
theorem separates_names {names others : List String}
    (hnames : ∀ name ∈ names, isIdentifier name = true)
    (hothers : ∀ name ∈ others, isIdentifier name = true) :
    Separates commaSep marks names others := by
  -- a comma is no mark of a clause, so the commas between the names do not end the list
  have hitems : Separates (fun items => commaSep (items.map id)) marks names others := by
    refine separates_commaSep (by decide) (fun name hname other hother => ?_) fun name hname => ?_
    · exact separates_of_isIdentifier (by rfl) (hnames name hname) (hothers other hother)
    · have hname : isIdentifier name = true :=
        (List.mem_append.mp hname).elim (hnames name) (hothers name)
      refine (begins_of_isIdentifier hname).mono fun c hc hmark => ?_
      exact List.any_eq_false.mp (show marks.any isIdentifierPart = false from rfl) c hmark
        (isIdentifierPart_of_start hc)
  simpa only [List.map_id] using hitems

/-- **Clauses are separated by what may follow them.** -/
theorem separates {clause other : Clause} (hclause : clause.Legal) (hother : other.Legal) :
    Separates text marks clause other := by
  intro s t hs ht h
  -- clauses of different kinds differ in the letter behind the space
  cases clause with
  | deferred =>
    cases other with
    | deferred => exact ⟨rfl, List.append_cancel_left h⟩
    | qualifier name => simp [text] at h
    | shown names => simp [text] at h
    | hidden names => simp [text] at h
  | qualifier name =>
    cases other with
    | qualifier name' =>
      simp only [text, String.toList_append, List.append_assoc] at h
      obtain ⟨rfl, hrest⟩ := separates_of_isIdentifier (by rfl) (hclause name (by simp [names]))
        (hother name' (by simp [names])) s t hs ht (List.append_cancel_left h)
      exact ⟨rfl, hrest⟩
    | deferred => simp [text] at h
    | shown names => simp [text] at h
    | hidden names => simp [text] at h
  | shown names =>
    cases other with
    | shown names' =>
      simp only [text, String.toList_append, List.append_assoc] at h
      obtain ⟨rfl, hrest⟩ := separates_names hclause hother s t hs ht (List.append_cancel_left h)
      exact ⟨rfl, hrest⟩
    | deferred => simp [text] at h
    | qualifier name => simp [text] at h
    | hidden names => simp [text] at h
  | hidden names =>
    cases other with
    | hidden names' =>
      simp only [text, String.toList_append, List.append_assoc] at h
      obtain ⟨rfl, hrest⟩ := separates_names hclause hother s t hs ht (List.append_cancel_left h)
      exact ⟨rfl, hrest⟩
    | deferred => simp [text] at h
    | qualifier name => simp [text] at h
    | shown names => simp [text] at h

theorem avoids_text {clause : Clause} (h : clause.Legal) : Avoids lineBreaks clause.text := by
  have hname : ∀ name ∈ clause.names, Avoids lineBreaks name := fun name hname =>
    avoids_of_isIdentifier (by rfl) (h name hname)
  cases clause with
  | deferred => exact avoids_of_any rfl
  | qualifier name => exact (avoids_of_any rfl).append (hname name List.mem_cons_self)
  | shown names => exact (avoids_of_any rfl).append (avoids_commaSep (avoids_of_any rfl) hname)
  | hidden names => exact (avoids_of_any rfl).append (avoids_commaSep (avoids_of_any rfl) hname)

end Clause

namespace Combinators

/-- Names as a clause; there is none without names. -/
def clauses (names : Combinators) : List Clause :=
  if !names.shown.isEmpty then [.shown names.shown]
  else if !names.hidden.isEmpty then [.hidden names.hidden]
  else []

theorem join_clauses (names : Combinators) :
    String.join (names.clauses.map Clause.text) = names.text := by
  unfold clauses text
  split_ifs
  · rw [List.map_singleton, String.join_cons, String.join_nil, String.append_empty]
    rfl
  · rw [List.map_singleton, String.join_cons, String.join_nil, String.append_empty]
    rfl
  · rfl

/-- Names are shown or hidden but not both. -/
theorem eq_nil_of_rules {s : Subject} {names : Combinators} (h : Rule.Obeyed (names.rules s)) :
    names.shown = [] ∨ names.hidden = [] := by
  have hexclusive := (Rule.obeyed_cons.mp h).1
  simpa only [Subject.exclusive_holds, Bool.not_and, Bool.not_not, Bool.or_eq_true,
    List.isEmpty_iff] using hexclusive

end Combinators

/-! ### Meanings -/

namespace Directive

/-- What a directive does. -/
inductive Kind where
  | importLib
  | exportLib
  | part
  | partOf
  deriving DecidableEq, Repr

/-- The keyword, with a space behind it. -/
def Kind.keyword : Kind → String
  | .importLib => "import "
  | .exportLib => "export "
  | .part => "part "
  | .partOf => "part of "

theorem Kind.keyword_injective {kind other : Kind} (h : kind.keyword = other.keyword) :
    kind = other := by
  cases kind <;> cases other <;> simp_all [keyword]

/-- No quote stands in a keyword. -/
theorem Kind.forall_mem_keyword (kind : Kind) :
    ∀ c ∈ kind.keyword.toList, (c != '\x27') = true := by
  refine List.all_eq_true.mp ?_
  cases kind <;> rfl

/-- What a directive says. -/
structure Meaning where
  kind : Kind
  /-- The text of the reference that the directive holds. -/
  target : String
  isDeferred : Bool := false
  qualifier : Option String := none
  names : Combinators := {}
  deriving DecidableEq, Repr

namespace Meaning

/-- The clauses of a directive with this meaning, in the order in which they are written. -/
def clauses (meaning : Meaning) : List Clause :=
  (if meaning.isDeferred then [.deferred] else []) ++
    meaning.qualifier.toList.map .qualifier ++ meaning.names.clauses

/-- The line of a directive with this meaning. -/
def text (meaning : Meaning) : String :=
  meaning.kind.keyword ++ quote meaning.target ++
    String.join (meaning.clauses.map Clause.text) ++ ";"

/-- The clauses of a line, one after the other. -/
theorem text_eq (meaning : Meaning) :
    meaning.text = meaning.kind.keyword ++ quote meaning.target ++
      (if meaning.isDeferred then " deferred" else "") ++
      (match meaning.qualifier with
        | some name => " as " ++ name
        | none => "") ++
      meaning.names.text ++ ";" := by
  have hdeferred :
      String.join ((if meaning.isDeferred then [Clause.deferred] else []).map Clause.text) =
        if meaning.isDeferred then " deferred" else "" := by
    split_ifs <;> simp [Clause.text]
  have hqualifier :
      String.join ((meaning.qualifier.toList.map Clause.qualifier).map Clause.text) =
        match meaning.qualifier with
        | some name => " as " ++ name
        | none => "" := by
    cases meaning.qualifier <;> simp [Clause.text]
  unfold text clauses
  rw [List.map_append, List.map_append, String.join_append, String.join_append, hdeferred,
    hqualifier, Combinators.join_clauses]
  simp only [String.append_assoc]

/-- Takes in what a clause says. -/
def add (meaning : Meaning) : Clause → Meaning
  | .deferred => { meaning with isDeferred := true }
  | .qualifier name => { meaning with qualifier := some name }
  | .shown names => { meaning with names := { meaning.names with shown := names } }
  | .hidden names => { meaning with names := { meaning.names with hidden := names } }

/-- What building a directive makes sure of, as far as its text is concerned. -/
structure Legal (meaning : Meaning) : Prop where
  qualifier : ∀ name ∈ meaning.qualifier, isIdentifier name = true
  names : ∀ name ∈ meaning.names.shown ++ meaning.names.hidden, isIdentifier name = true
  exclusive : meaning.names.shown = [] ∨ meaning.names.hidden = []

variable {meaning other : Meaning}

/-- The clauses give back the meaning. -/
theorem foldl_add_clauses (h : meaning.names.shown = [] ∨ meaning.names.hidden = []) :
    meaning.clauses.foldl add { kind := meaning.kind, target := meaning.target } = meaning := by
  obtain ⟨kind, target, isDeferred, qualifier, shown, hidden⟩ := meaning
  -- of the two lists of names only one is written, but then the other is empty
  cases isDeferred <;> cases qualifier <;> cases shown <;> cases hidden <;>
    simp_all [clauses, Combinators.clauses, add]

theorem Legal.clauses (h : meaning.Legal) : ∀ clause ∈ meaning.clauses, clause.Legal := by
  obtain ⟨hshown, hhidden⟩ := List.forall_mem_append.mp h.names
  unfold Meaning.clauses Combinators.clauses
  rw [List.forall_mem_append, List.forall_mem_append, List.forall_mem_map]
  refine ⟨⟨?_, fun name hname => ?_⟩, ?_⟩
  · split_ifs
    · exact List.forall_mem_singleton.mpr fun name hname => absurd hname List.not_mem_nil
    · exact fun clause hclause => absurd hclause List.not_mem_nil
  · exact List.forall_mem_singleton.mpr (h.qualifier name (Option.mem_toList.mp hname))
  · split_ifs
    · exact List.forall_mem_singleton.mpr hshown
    · exact List.forall_mem_singleton.mpr hhidden
    · exact fun clause hclause => absurd hclause List.not_mem_nil

/-- **The line determines the meaning.** -/
theorem eq_of_text_eq (hmeaning : meaning.Legal) (hother : other.Legal)
    (h : meaning.text = other.text) : meaning = other := by
  have hchars : meaning.kind.keyword.toList ++ ((quote meaning.target).toList ++
      ((meaning.clauses.flatMap fun clause => clause.text.toList) ++ [';'])) =
      other.kind.keyword.toList ++ ((quote other.target).toList ++
      ((other.clauses.flatMap fun clause => clause.text.toList) ++ [';'])) := by
    have h := congrArg String.toList h
    simp only [text, String.toList_append, String.toList_join, List.flatMap_map,
      List.append_assoc] at h
    exact h
  -- first the keyword, up to the quote
  have hquote : ∀ (target : String) (rest : List Char),
      Stops ['\x27'] ((quote target).toList ++ rest) := by
    intro target rest
    unfold quote quoteChars
    rw [String.toList_ofList]
    exact stops_cons.mpr (List.mem_singleton_self _)
  obtain ⟨hkeyword, hrest⟩ := run_append_inj meaning.kind.forall_mem_keyword
    other.kind.forall_mem_keyword (by rfl) (hquote _ _) (hquote _ _) hchars
  -- then the target, up to the end of the literal, then the clauses, up to the semicolon
  obtain ⟨htarget, hrest⟩ := quote_append_inj hrest
  have hsemicolon : Stops [';'] [';'] := stops_cons.mpr (List.mem_singleton_self _)
  obtain ⟨hclauses, -⟩ := flatMap_append_inj
    (fun clause hclause clause' hclause' =>
      Clause.separates (hmeaning.clauses clause hclause) (hother.clauses clause' hclause'))
    (fun clause _ => clause.begins_text) (List.subset_cons_self _ _) hsemicolon hsemicolon hrest
  rw [← foldl_add_clauses hmeaning.exclusive, ← foldl_add_clauses hother.exclusive, hclauses,
    htarget, Kind.keyword_injective (String.toList_injective hkeyword)]

theorem avoids_text (h : meaning.Legal) : Avoids lineBreaks meaning.text := by
  unfold text
  refine (((?_ : Avoids _ _).append (avoids_quote _)).append ?_).append (avoids_of_any rfl)
  · refine avoids_of_any ?_
    cases meaning.kind <;> rfl
  · refine avoids_join (List.forall_mem_map.mpr fun clause hclause => ?_)
    exact Clause.avoids_text (h.clauses clause hclause)

theorem getLast?_text (meaning : Meaning) : meaning.text.toList.getLast? = some ';' := by
  unfold text
  rw [String.toList_append, List.getLast?_append]
  rfl

end Meaning

/-! ### Directives -/

/-- What a directive says. The target of an owner that is given by name is that name. -/
def meaning : Directive → Meaning
  | .importLib directive =>
    { kind := .importLib, target := directive.uri.text, isDeferred := directive.isDeferred
      qualifier := directive.qualifier, names := directive.names }
  | .exportLib directive =>
    { kind := .exportLib, target := directive.uri.text, names := directive.names }
  | .part uri => { kind := .part, target := uri.text }
  | .partOf (.library name) => { kind := .partOf, target := name }
  | .partOf (.reference uri) => { kind := .partOf, target := uri.text }

/-- The directives that hold a reference, by the ways in which they are made. -/
inductive Made : Directive → Prop where
  | plainImport (uri : Uri) : Made (.importLib { uri })
  | builtImport {draft node : Import} (h : draft.build = .ok node) : Made (.importLib node)
  | plainExport (uri : Uri) : Made (.exportLib { uri })
  | builtExport {draft node : Export} (h : draft.build = .ok node) : Made (.exportLib node)
  | part (uri : Uri) : Made (.part uri)
  | owner (uri : Uri) : Made (.partOf (.reference uri))

variable {directive : Directive}

theorem Made.built (h : directive.Made) : directive.Built := by
  cases h with
  | plainImport uri => exact .again rfl
  | builtImport h => exact ⟨_, h⟩
  | plainExport uri => exact .again rfl
  | builtExport h => exact ⟨_, h⟩
  | part uri => trivial
  | owner uri => trivial

/-- A directive that was built has a legal meaning. -/
theorem Built.legal (h : directive.Built) : directive.meaning.Legal := by
  have husable := h.usable
  cases directive with
  | importLib directive =>
    have hrules := BuiltBy.obeyed Import.rules h
    unfold Import.rules at hrules
    -- that a deferred import has a qualifier is not needed: the word is a clause of its own
    rw [Rule.obeyed_cons, Rule.obeyed_append] at hrules
    rw [names, List.append_assoc, List.forall_mem_append] at husable
    refine ⟨fun name hname => ?_, fun name hname => ?_, Combinators.eq_nil_of_rules hrules.2.2⟩
    · exact (husable.1 name (Option.mem_toList.mpr hname)).1
    · exact (husable.2 name hname).1
  | exportLib directive =>
    refine ⟨fun name hname => ?_, fun name hname => ?_, ?_⟩
    · exact absurd hname (Option.not_mem_none name)
    · exact (husable name hname).1
    · exact Combinators.eq_nil_of_rules (BuiltBy.obeyed Export.rules h)
  | part uri =>
    exact ⟨fun name hname => absurd hname (Option.not_mem_none name),
      fun name hname => absurd hname List.not_mem_nil, .inl rfl⟩
  | partOf owner =>
    cases owner with
    | library name | reference uri =>
      exact ⟨fun name hname => absurd hname (Option.not_mem_none name),
        fun name hname => absurd hname List.not_mem_nil, .inl rfl⟩

/-- The line of a directive is its meaning written down. -/
theorem Made.text_eq (h : directive.Made) : directive.text = directive.meaning.text := by
  rw [Meaning.text_eq]
  cases h with
  | plainImport uri => rfl
  | builtImport h => rfl
  | plainExport uri => simp [meaning, text, Export.text, Kind.keyword]
  | builtExport h => simp [meaning, text, Export.text, Kind.keyword]
  | part uri => simp [meaning, text, Combinators.text, Kind.keyword]
  | owner uri => simp [meaning, text, PartOf.text, Combinators.text, Kind.keyword]

/-- **A directive is one line that says all of its meaning.** No line break stands in its text,
whatever stands in its reference; the text ends with a semicolon; and it is the text of another
directive exactly when both have the same kind, the same target, the same qualifier and the same
names in the same order, and both are deferred or neither is. -/
theorem faithful_line (h : directive.Made) :
    '\r' ∉ directive.text.toList ∧ '\n' ∉ directive.text.toList ∧
      directive.text.toList.getLast? = some ';' ∧
      ∀ other : Directive, other.Made →
        (directive.text = other.text ↔ directive.meaning = other.meaning) := by
  have hline : Avoids lineBreaks directive.text := by
    rw [h.text_eq]
    exact Meaning.avoids_text h.built.legal
  refine ⟨fun hreturn => ?_, fun hfeed => ?_, ?_, fun other hother => ?_⟩
  · exact hline '\r' hreturn (by decide)
  · exact hline '\n' hfeed (by decide)
  · rw [h.text_eq]
    exact directive.meaning.getLast?_text
  · rw [h.text_eq, hother.text_eq]
    exact ⟨Meaning.eq_of_text_eq h.built.legal hother.built.legal, congrArg Meaning.text⟩

/-- The keywords of the clauses as names, and a line break and quotes in the reference. -/
theorem faithful_line_of_keywords_as_names :
    let draft : Import :=
      { uri := .relative "a\n' as b;", qualifier := some "as", isDeferred := true
        names := { shown := ["show", "hide", "deferred"] } }
    let other : Import := { draft with uri := .absolute "a\n' as b;" }
    draft.build = .ok draft ∧ other.build = .ok other ∧
      '\r' ∉ draft.text.toList ∧ '\n' ∉ draft.text.toList ∧
      draft.text.toList.getLast? = some ';' ∧
      (draft.text = other.text ↔ (importLib draft).meaning = (importLib other).meaning) := by
  intro draft other
  have hdraft : draft.build = .ok draft := rfl
  have hother : other.build = .ok other := rfl
  obtain ⟨hreturn, hfeed, hlast, hfaithful⟩ := faithful_line (.builtImport hdraft)
  exact ⟨hdraft, hother, hreturn, hfeed, hlast, hfaithful _ (.builtImport hother)⟩

end Directive

end DartSource
