import DartSource.Proofs.Text.Separation
import DartSource.Rule
import DartSource.Text.Lines

/-!
# Balanced texts

The **brackets** of a text are its round, square and curly brackets in the order in which they
stand, with everything else left out. A text is **balanced** when its brackets form a Dyck word:
nothing, a Dyck word between an opening bracket and its partner, or two Dyck words one after the
other.

That a text is balanced depends on its brackets alone. So whatever moves, adds or takes away other
characters only (trimming, quoting, cutting into lines, commas, keywords) leaves balance as it was,
and the laws below say what such a step does to the brackets of a text. `closes` decides balance by
reading a text once with a stack of the brackets that are still to be closed.
-/

namespace DartSource

namespace Brackets

/-- Opening brackets with their partners. -/
def pairs : List (Char × Char) :=
  [('(', ')'), ('[', ']'), ('\x7b', '\x7d')]

/-- One of the six brackets. -/
def isBracket (c : Char) : Bool :=
  pairs.any fun pair => c == pair.1 || c == pair.2

/-- Well-nested words of brackets. -/
inductive Dyck : List Char → Prop where
  | nil : Dyck []
  | wrap {opening closing : Char} {word : List Char} (hpair : (opening, closing) ∈ pairs)
      (h : Dyck word) : Dyck (opening :: (word ++ [closing]))
  | append {front rest : List Char} (hfront : Dyck front) (hrest : Dyck rest) :
      Dyck (front ++ rest)

/-- The brackets of a text. -/
def of (text : String) : List Char :=
  text.toList.filter isBracket

/-! ### Deciding balance -/

/-- The word closes the brackets that are still open, innermost first, and all that it opens
itself. -/
def closes : List Char → List Char → Bool
  | stack, [] => stack.isEmpty
  | stack, c :: rest =>
    match pairs.find? fun pair => pair.1 == c with
    | some pair => closes (pair.2 :: stack) rest
    | none =>
      match stack with
      | [] => false
      | top :: outer => top == c && closes outer rest

theorem closes_nil (stack : List Char) : closes stack [] = stack.isEmpty := by
  cases stack <;> rfl

/-- An opening bracket waits for its partner. -/
theorem closes_opening {c : Char} {pair : Char × Char}
    (h : pairs.find? (fun pair => pair.1 == c) = some pair) (stack rest : List Char) :
    closes stack (c :: rest) = closes (pair.2 :: stack) rest := by
  rw [closes.eq_def]
  simp only [h]

/-- Any other bracket has to be the one that is waited for. -/
theorem closes_closing {c : Char} (h : pairs.find? (fun pair => pair.1 == c) = none)
    (top : Char) (outer rest : List Char) :
    closes (top :: outer) (c :: rest) = (top == c && closes outer rest) := by
  rw [closes.eq_def]
  simp only [h]

/-- Nothing can be closed where nothing is open. -/
theorem closes_unopened {c : Char} (h : pairs.find? (fun pair => pair.1 == c) = none)
    (rest : List Char) : closes [] (c :: rest) = false := by
  rw [closes.eq_def]
  simp only [h]

/-- What it means to close a stack: between the partners of its entries stand Dyck words. -/
def Finishes : List Char → List Char → Prop
  | [], word => Dyck word
  | top :: outer, word =>
    ∃ inner rest, word = inner ++ top :: rest ∧ Dyck inner ∧ Finishes outer rest

theorem Finishes.of_dyck_append {stack front rest : List Char} (hfront : Dyck front)
    (h : Finishes stack rest) : Finishes stack (front ++ rest) := by
  cases stack with
  | nil => exact .append hfront h
  | cons top outer =>
    obtain ⟨inner, more, rfl, hinner, hmore⟩ := h
    exact ⟨front ++ inner, more, (List.append_assoc _ _ _).symm, .append hfront hinner, hmore⟩

theorem finishes_of_closes {stack word : List Char} (h : closes stack word = true) :
    Finishes stack word := by
  induction word generalizing stack with
  | nil =>
    -- at the end nothing may be open
    rw [closes_nil, List.isEmpty_iff] at h
    rw [h]
    exact .nil
  | cons c rest ih =>
    cases hfind : pairs.find? (fun pair => pair.1 == c) with
    | some pair =>
      rw [closes_opening hfind] at h
      obtain ⟨inner, more, rfl, hinner, hmore⟩ := ih h
      have hc : pair.1 = c := by simpa using List.find?_some hfind
      -- the bracket, what it encloses and its partner are a Dyck word in front of the rest
      have hwrap : Dyck (c :: (inner ++ [pair.2])) :=
        .wrap (hc ▸ List.mem_of_find?_eq_some hfind) hinner
      have hsplit : c :: (inner ++ pair.2 :: more) = c :: (inner ++ [pair.2]) ++ more := by simp
      rw [hsplit]
      exact hmore.of_dyck_append hwrap
    | none =>
      -- a closing bracket has to be the partner of the innermost open one
      cases stack with
      | nil =>
        rw [closes_unopened hfind] at h
        exact absurd h (by simp)
      | cons top outer =>
        rw [closes_closing hfind] at h
        obtain ⟨htop, hrest⟩ := Bool.and_eq_true_iff.mp h
        rw [beq_iff_eq] at htop
        exact ⟨[], rest, by rw [htop]; rfl, .nil, ih hrest⟩

theorem find?_opening {opening closing : Char} (hpair : (opening, closing) ∈ pairs) :
    pairs.find? (fun pair => pair.1 == opening) = some (opening, closing) := by
  simp only [pairs, List.mem_cons, Prod.mk.injEq, List.not_mem_nil, or_false] at hpair
  rcases hpair with ⟨rfl, rfl⟩ | ⟨rfl, rfl⟩ | ⟨rfl, rfl⟩ <;> rfl

theorem find?_closing {opening closing : Char} (hpair : (opening, closing) ∈ pairs) :
    pairs.find? (fun pair => pair.1 == closing) = none := by
  simp only [pairs, List.mem_cons, Prod.mk.injEq, List.not_mem_nil, or_false] at hpair
  rcases hpair with ⟨rfl, rfl⟩ | ⟨rfl, rfl⟩ | ⟨rfl, rfl⟩ <;> rfl

/-- Reading a Dyck word leaves the stack as it was. -/
theorem Dyck.closes_append {word : List Char} (h : Dyck word) (stack rest : List Char) :
    closes stack (word ++ rest) = closes stack rest := by
  induction h generalizing stack rest with
  | nil => rfl
  | @wrap opening closing inner hpair hinner ih =>
    have hsplit : opening :: (inner ++ [closing]) ++ rest =
        opening :: (inner ++ closing :: rest) := by simp
    rw [hsplit, closes_opening (find?_opening hpair), ih, closes_closing (find?_closing hpair),
      beq_self_eq_true, Bool.true_and]
  | append hfront hrest ihfront ihrest => rw [List.append_assoc, ihfront, ihrest]

/-- **Reading with a stack decides Dyck words.** -/
theorem dyck_iff_closes {word : List Char} : Dyck word ↔ closes [] word = true := by
  refine ⟨fun h => ?_, finishes_of_closes⟩
  -- reading the word from an empty stack leaves it empty
  have hread := h.closes_append [] []
  rw [List.append_nil] at hread
  rw [hread]
  rfl

instance (word : List Char) : Decidable (Dyck word) :=
  decidable_of_iff _ dyck_iff_closes.symm

end Brackets

open Brackets (Dyck isBracket)

/-- The brackets of the text form a Dyck word. -/
def Balanced (text : String) : Prop :=
  Dyck (Brackets.of text)

instance (text : String) : Decidable (Balanced text) :=
  inferInstanceAs (Decidable (Dyck _))

namespace Brackets

/-! ### What operations on texts do to brackets -/

@[simp] theorem of_append (a b : String) : of (a ++ b) = of a ++ of b := by
  unfold of
  rw [String.toList_append, List.filter_append]

@[simp] theorem of_ofList (cs : List Char) : of (String.ofList cs) = cs.filter isBracket := by
  unfold of
  rw [String.toList_ofList]

/-- A text is plain when no character of it is a bracket. -/
theorem of_eq_nil_iff {text : String} : of text = [] ↔ ∀ c ∈ text.toList, isBracket c = false := by
  unfold of
  rw [List.filter_eq_nil_iff]
  simp

/-- Characters that are no brackets may be dropped from the front. -/
theorem filter_dropWhile {p : Char → Bool} (hp : ∀ c, p c = true → isBracket c = false)
    (cs : List Char) : (cs.dropWhile p).filter isBracket = cs.filter isBracket := by
  induction cs with
  | nil => rfl
  | cons c rest ih =>
    by_cases hc : p c = true
    · rw [List.dropWhile_cons_of_pos hc, ih, List.filter_cons_of_neg (by simp [hp c hc])]
    · rw [List.dropWhile_cons_of_neg hc]

/-- And from the end. -/
theorem filter_dropEndWhile {p : Char → Bool} (hp : ∀ c, p c = true → isBracket c = false)
    (cs : List Char) : (Text.dropEndWhile p cs).filter isBracket = cs.filter isBracket := by
  unfold Text.dropEndWhile
  rw [List.filter_reverse, filter_dropWhile hp, List.filter_reverse, List.reverse_reverse]

/-- A class of characters that fails on the six brackets has none of them. -/
theorem isBracket_eq_false_of_class {p : Char → Bool}
    (hp : ∀ pair ∈ pairs, p pair.1 = false ∧ p pair.2 = false) {c : Char} (h : p c = true) :
    isBracket c = false := by
  refine Bool.eq_false_iff.mpr fun hbracket => ?_
  obtain ⟨pair, hpair, hc⟩ := List.any_eq_true.mp hbracket
  rw [Bool.or_eq_true, beq_iff_eq, beq_iff_eq] at hc
  obtain ⟨hopening, hclosing⟩ := hp pair hpair
  rcases hc with rfl | rfl
  · exact absurd h (by rw [hopening]; decide)
  · exact absurd h (by rw [hclosing]; decide)

/-- No bracket is blank. -/
theorem isBracket_of_isBlank {c : Char} (h : Text.isBlank c = true) : isBracket c = false :=
  isBracket_eq_false_of_class (by decide) h

@[simp] theorem of_trim (text : String) : of (Text.trim text) = of text := by
  unfold Text.trim Text.trimChars
  rw [of_ofList, filter_dropEndWhile (fun _ => isBracket_of_isBlank),
    filter_dropWhile (fun _ => isBracket_of_isBlank)]
  rfl

@[simp] theorem of_trimNewlines (text : String) : of (Text.trimNewlines text) = of text := by
  have hnewline : ∀ c : Char, (c == '\n') = true → isBracket c = false :=
    fun _ => isBracket_eq_false_of_class (p := (· == '\n')) (by decide)
  unfold Text.trimNewlines
  rw [of_ofList, filter_dropEndWhile hnewline, filter_dropWhile hnewline]
  rfl

theorem of_eq_nil_of_allBlank {text : String} (h : Text.allBlank text = true) :
    of text = [] := by
  rw [of_eq_nil_iff]
  unfold Text.allBlank at h
  rw [List.all_eq_true] at h
  exact fun c hc => isBracket_of_isBlank (h c hc)

/-- Cutting characters into lines takes away line ends only. -/
theorem filter_lineChars (cs : List Char) :
    (Text.lineChars cs).flatMap (List.filter isBracket) = cs.filter isBracket := by
  fun_induction Text.lineChars cs with
  | case1 => rfl
  | case2 rest ih =>
    rw [List.flatMap_cons, ih, List.filter_cons_of_neg (by decide)]
    rfl
  | case3 rest ih =>
    rw [List.flatMap_cons, ih, List.filter_cons_of_neg (by decide),
      List.filter_cons_of_neg (by decide)]
    rfl
  | case4 c rest _ _ hlines ih =>
    -- the last character of a text without a final line end
    rw [hlines] at ih
    rw [List.filter_cons, ← ih]
    simp [List.filter_cons]
  | case5 c rest _ _ line more hlines ih =>
    -- a character that joins the line behind it
    rw [hlines, List.flatMap_cons] at ih
    rw [List.flatMap_cons, List.filter_cons, List.filter_cons, ← ih]
    split <;> simp

@[simp] theorem flatMap_lines (text : String) : (Text.lines text).flatMap of = of text := by
  unfold Text.lines
  rw [List.flatMap_map]
  simp only [of_ofList]
  exact filter_lineChars text.toList

/-- Escaping a character adds no bracket and takes none away. -/
theorem filter_escapeChar (c : Char) :
    (Text.escapeChar c).filter isBracket = [c].filter isBracket := by
  unfold Text.escapeChar
  split_ifs <;> subst_vars <;> rfl

@[simp] theorem of_quote (text : String) : of (Text.quote text) = of text := by
  unfold Text.quote Text.quoteChars
  rw [of_ofList, List.filter_cons_of_neg (by decide), List.filter_append, List.filter_flatMap]
  simp only [filter_escapeChar]
  rw [← List.filter_flatMap, List.flatMap_singleton']
  rw [List.filter_cons_of_neg (by decide), List.filter_nil, List.append_nil]
  rfl

/-- Characters of an identifier are no brackets. -/
theorem isBracket_of_isIdentifierPart {c : Char} (h : Text.isIdentifierPart c = true) :
    isBracket c = false :=
  isBracket_eq_false_of_class (by decide) h

/-- An identifier has no brackets. -/
theorem of_eq_nil_of_isIdentifier {name : String} (h : Text.isIdentifier name = true) :
    of name = [] := by
  rw [of_eq_nil_iff]
  exact fun c hc => isBracket_of_isIdentifierPart (Text.isIdentifierPart_of_mem h c hc)

end Brackets

/-! ### Balanced texts -/

namespace Balanced

variable {text : String}

/-- A text without brackets is balanced. -/
theorem of_eq_nil (h : Brackets.of text = []) : Balanced text := by
  unfold Balanced
  rw [h]
  exact .nil

theorem of_isIdentifier (h : Text.isIdentifier text = true) : Balanced text :=
  of_eq_nil (Brackets.of_eq_nil_of_isIdentifier h)

theorem append {front rest : String} (hfront : Balanced front) (hrest : Balanced rest) :
    Balanced (front ++ rest) := by
  unfold Balanced
  rw [Brackets.of_append]
  exact .append hfront hrest

theorem trim (h : Balanced text) : Balanced (Text.trim text) := by
  unfold Balanced
  rw [Brackets.of_trim]
  exact h

theorem quote (h : Balanced text) : Balanced (Text.quote text) := by
  unfold Balanced
  rw [Brackets.of_quote]
  exact h

/-- Balanced texts, separated by commas. -/
theorem commaSep {parts : List String} (h : ∀ part ∈ parts, Balanced part) :
    Balanced (Text.commaSep parts) := by
  unfold Text.commaSep
  induction parts with
  | nil =>
    rw [String.intercalate_nil]
    decide
  | cons first rest ih =>
    obtain ⟨hfirst, hrest⟩ := List.forall_mem_cons.mp h
    cases rest with
    | nil =>
      rw [String.intercalate_singleton]
      exact hfirst
    | cons second more =>
      rw [String.intercalate_cons_cons]
      exact .append (.append hfirst (by decide)) (ih hrest)

/-- Keywords without brackets, whichever of them are set. -/
theorem keywords {flags : List (String × Bool)} (h : ∀ flag ∈ flags, Balanced flag.1) :
    Balanced (keywords flags) := by
  unfold DartSource.keywords
  induction flags with
  | nil => decide
  | cons flag rest ih =>
    obtain ⟨hflag, hrest⟩ := List.forall_mem_cons.mp h
    by_cases hset : flag.2 = true
    · -- a keyword that is set is written with a space behind it
      rw [List.filter_cons_of_pos hset, List.map_cons, String.join_cons]
      exact .append (.append hflag (by decide)) (ih hrest)
    · rw [List.filter_cons_of_neg hset]
      exact ih hrest

/-- A text that depends on a condition. -/
theorem ite {condition : Prop} [Decidable condition] {first second : String}
    (hfirst : Balanced first) (hsecond : Balanced second) :
    Balanced (if condition then first else second) := by
  split
  · exact hfirst
  · exact hsecond

/-- A text that is written when it is given, and what stands in its place otherwise. -/
theorem given {given : Option String} {write : String → String} {other : String} :
    (∀ text ∈ given.toList, Balanced (write text)) → Balanced other →
      Balanced (match given with | some text => write text | none => other) := by
  intro h hnone
  cases given with
  | none => exact hnone
  | some text => exact h text (List.mem_singleton_self text)

end Balanced

/-! ### Texts with an open bracket

A text that is written from left to right is not balanced while a bracket of it is open. -/

/-- The text is balanced but for one bracket, which waits for its partner. -/
def Awaits (closing : Char) (text : String) : Prop :=
  ∃ front inner opening, (opening, closing) ∈ Brackets.pairs ∧ Dyck front ∧ Dyck inner ∧
    Brackets.of text = front ++ opening :: inner

variable {closing : Char} {text rest : String}

namespace Awaits

/-- The only bracket of a text opens. -/
theorem of_opening (opening : Char) (htext : Brackets.of text = [opening])
    (hpair : (opening, closing) ∈ Brackets.pairs) : Awaits closing text :=
  ⟨[], [], opening, hpair, .nil, .nil, htext⟩

/-- An opening parenthesis waits for the closing one. -/
theorem paren : Awaits ')' "(" :=
  of_opening '(' (by decide) (by decide)

/-- A bracket opens behind a balanced text. -/
theorem behind (hrest : Awaits closing rest) (h : Balanced text) :
    Awaits closing (text ++ rest) := by
  obtain ⟨front, inner, opening, hpair, hfront, hinner, hword⟩ := hrest
  refine ⟨Brackets.of text ++ front, inner, opening, hpair, .append h hfront, hinner, ?_⟩
  rw [Brackets.of_append, hword, List.append_assoc]

theorem append (h : Awaits closing text) (hrest : Balanced rest) :
    Awaits closing (text ++ rest) := by
  obtain ⟨front, inner, opening, hpair, hfront, hinner, htext⟩ := h
  refine ⟨front, inner ++ Brackets.of rest, opening, hpair, hfront, .append hinner hrest, ?_⟩
  rw [Brackets.of_append, htext, List.append_assoc, List.cons_append]

/-- The partner closes the bracket. -/
theorem closed (h : Awaits closing text) (hrest : Brackets.of rest = [closing]) :
    Balanced (text ++ rest) := by
  obtain ⟨front, inner, opening, hpair, hfront, hinner, htext⟩ := h
  unfold Balanced
  rw [Brackets.of_append, htext, hrest, List.append_assoc, List.cons_append]
  exact .append hfront (.wrap hpair hinner)

end Awaits

end DartSource
