import DartSource.Const.Converters
import DartSource.Proofs.Rule
import DartSource.Proofs.Text.Separation
import Mathlib

/-!
# Constants can be read off their expressions

A **plain** constant is put together from null, booleans, integers, texts and values of enums by
lists and maps. It is rendered without asking any converter (`Const.Plain.render_eq`), and no two of
them are rendered alike (`Const.render_unambiguous`). This holds also inside a longer text: where
an expression is followed by a comma, a colon or a closing bracket, the constant and what follows it
can be told from the text, whatever delimiters the texts inside the constant hold.

The **lead** of an expression, read off its first character, tells words, numerals, literals, lists
and maps apart. Inside each of these groups the text is taken apart from the front: words and
numerals are runs of characters that no delimiter belongs to, literals end at their closing quote,
and a list or a map is separated by its bracket because its items are separated by commas, which is
what the induction on the constant supplies.
-/

namespace DartSource.Const

/-- Constants that need no converter and no digits behind a point. The names in them are
identifiers. -/
inductive Plain : Const → Prop where
  | null : Plain .null
  | bool (value : Bool) : Plain (.bool value)
  | int (value : Int) : Plain (.int value)
  | text (value : String) : Plain (.text value)
  | list {items : List Const} (hitems : ∀ item ∈ items, Plain item) : Plain (.list items)
  | map {entries : List (Const × Const)} (hkeys : ∀ entry ∈ entries, Plain entry.1)
      (hvalues : ∀ entry ∈ entries, Plain entry.2) : Plain (.map entries)
  | enumValue {type value : String} (htype : Text.isIdentifier type = true)
      (hvalue : Text.isIdentifier value = true) : Plain (.enumValue type value)

/-- What may follow an expression. -/
def delimiters : List Char :=
  [',', ':', ']', '\x7d']

/-! ### Expressions -/

variable (converters : Converters)

/-- The expression for a constant, where there is one. -/
def expression (constant : Const) : String :=
  match constant.render converters with
  | .ok written => written
  | .error _ => ""

/-- The entry of a map, where there is an expression for both of its parts. -/
def entryText (entry : Const × Const) : String :=
  entry.1.expression converters ++ ": " ++ entry.2.expression converters

variable {converters}

theorem expression_of_render {constant : Const} {written : String}
    (h : constant.render converters = .ok written) :
    constant.expression converters = written := by
  unfold expression
  rw [h]

theorem render_eq_of_exists {constant : Const}
    (h : ∃ written, constant.render converters = .ok written) :
    constant.render converters = .ok (constant.expression converters) := by
  obtain ⟨written, h⟩ := h
  rw [expression_of_render h, h]

theorem renderItems_eq {items : List Const}
    (h : ∀ item ∈ items, item.render converters = .ok (item.expression converters)) :
    renderItems converters items = .ok (items.map (expression converters)) := by
  induction items with
  | nil => rfl
  | cons item rest ih =>
    obtain ⟨hitem, hrest⟩ := List.forall_mem_cons.mp h
    rw [renderItems, hitem, ih hrest]
    rfl

theorem renderEntries_eq {entries : List (Const × Const)}
    (hkeys : ∀ entry ∈ entries, entry.1.render converters = .ok (entry.1.expression converters))
    (hvalues : ∀ entry ∈ entries, entry.2.render converters = .ok (entry.2.expression converters)) :
    renderEntries converters entries = .ok (entries.map (entryText converters)) := by
  induction entries with
  | nil => rfl
  | cons entry rest ih =>
    obtain ⟨hkey, hkeys⟩ := List.forall_mem_cons.mp hkeys
    obtain ⟨hvalue, hvalues⟩ := List.forall_mem_cons.mp hvalues
    rw [renderEntries, hkey, hvalue, ih hkeys hvalues]
    rfl

/-- **A plain constant has an expression**, whatever converters there are. -/
theorem Plain.render_eq {constant : Const} (h : constant.Plain) :
    constant.render converters = .ok (constant.expression converters) := by
  refine render_eq_of_exists ?_
  induction h with
  | null => exact ⟨_, rfl⟩
  | bool value => exact ⟨_, rfl⟩
  | int value => exact ⟨_, rfl⟩
  | text value => exact ⟨_, rfl⟩
  | list hitems ih =>
    rw [render, renderItems_eq fun item hitem => render_eq_of_exists (ih item hitem)]
    exact ⟨_, rfl⟩
  | map hkeys hvalues ihkeys ihvalues =>
    rw [render, renderEntries_eq (fun entry hentry => render_eq_of_exists (ihkeys entry hentry))
      (fun entry hentry => render_eq_of_exists (ihvalues entry hentry))]
    exact ⟨_, rfl⟩
  | enumValue htype hvalue => exact ⟨_, rfl⟩

theorem expression_null : Const.null.expression converters = "null" :=
  expression_of_render rfl

theorem expression_bool (value : Bool) :
    (Const.bool value).expression converters = if value then "true" else "false" :=
  expression_of_render rfl

theorem expression_int (value : Int) : (Const.int value).expression converters = toString value :=
  expression_of_render rfl

theorem expression_text (value : String) :
    (Const.text value).expression converters = Text.quote value :=
  expression_of_render rfl

theorem expression_enumValue (type value : String) :
    (Const.enumValue type value).expression converters = type ++ "." ++ value :=
  expression_of_render rfl

theorem expression_list {items : List Const} (h : ∀ item ∈ items, item.Plain) :
    (Const.list items).expression converters =
      "[" ++ Text.commaSep (items.map (expression converters)) ++ "]" := by
  refine expression_of_render ?_
  rw [render, renderItems_eq fun item hitem => (h item hitem).render_eq]
  rfl

theorem expression_map {entries : List (Const × Const)} (hkeys : ∀ entry ∈ entries, entry.1.Plain)
    (hvalues : ∀ entry ∈ entries, entry.2.Plain) :
    (Const.map entries).expression converters =
      "\x7b" ++ Text.commaSep (entries.map (entryText converters)) ++ "\x7d" := by
  refine expression_of_render ?_
  rw [render, renderEntries_eq (fun entry hentry => (hkeys entry hentry).render_eq)
    (fun entry hentry => (hvalues entry hentry).render_eq)]
  rfl

/-! ### Numerals -/

/-- A character of a numeral. -/
def isNumeralPart (c : Char) : Bool :=
  c.isDigit || c == '-'

theorem isNumeralPart_of_mem_repr {n : Nat} : ∀ c ∈ n.repr.toList, isNumeralPart c = true := by
  intro c hc
  rw [Nat.repr_eq_ofList_toDigits, String.toList_ofList] at hc
  have hdigit : c.isDigit = true := Nat.isDigit_of_mem_toDigits (by decide) (by decide) hc
  simp [isNumeralPart, hdigit]

theorem isNumeralPart_of_mem {n : Int} : ∀ c ∈ (toString n).toList, isNumeralPart c = true := by
  rw [Int.toString_eq_repr, Int.repr_eq_if]
  split
  · exact isNumeralPart_of_mem_repr
  · rw [String.toList_append]
    exact List.forall_mem_append.mpr
      ⟨List.forall_mem_singleton.mpr rfl, isNumeralPart_of_mem_repr⟩

theorem toString_ne_empty (n : Int) : toString n ≠ "" := by
  rw [Int.toString_eq_repr, Int.repr_eq_if]
  split
  · exact Nat.repr_ne_empty
  · intro h
    exact absurd (congrArg String.toList h) (by simp)

/-- No numeral starts as an identifier does. -/
theorem isIdentifierStart_of_isNumeralPart {c : Char} (h : isNumeralPart c = true) :
    Text.isIdentifierStart c = false := by
  unfold isNumeralPart at h
  rw [Bool.or_eq_true, beq_iff_eq] at h
  rcases h with hdigit | rfl
  · have hbounds : 48 ≤ c.toNat ∧ c.toNat ≤ 57 := by
      simpa [Char.isDigit, UInt32.le_iff_toNat_le] using hdigit
    -- the letters and the two signs of identifiers have other codes
    refine Bool.eq_false_iff.mpr fun hstart => ?_
    simp only [Text.isIdentifierStart, Char.isAlpha, Char.isUpper, Char.isLower, Bool.or_eq_true,
      Bool.and_eq_true, decide_eq_true_eq, UInt32.le_iff_toNat_le, ge_iff_le, beq_iff_eq] at hstart
    change (((65 ≤ c.toNat ∧ c.toNat ≤ 90) ∨ (97 ≤ c.toNat ∧ c.toNat ≤ 122)) ∨ c = '_') ∨
      c = '$' at hstart
    rcases hstart with ((hupper | hlower) | rfl) | rfl
    · omega
    · omega
    · exact absurd hbounds (by decide)
    · exact absurd hbounds (by decide)
  · rfl

/-- Integers are separated by delimiters. -/
theorem separates_int (n m : Int) : Text.Separates (fun n : Int => toString n) delimiters n m := by
  intro s t hs ht h
  obtain ⟨heq, hrest⟩ :=
    Text.run_append_inj isNumeralPart_of_mem isNumeralPart_of_mem rfl hs ht h
  have hrepr : n.repr = m.repr := by
    rw [← Int.toString_eq_repr, ← Int.toString_eq_repr]
    exact String.toList_injective heq
  exact ⟨Int.repr_injective hrepr, hrest⟩

/-! ### Leads -/

/-- What the first character of an expression tells about it. -/
inductive Lead where
  | word
  | numeral
  | literal
  | list
  | map
  deriving DecidableEq

/-- The lead that a character is, if it is one. -/
def Lead.of? (c : Char) : Option Lead :=
  if Text.isIdentifierStart c then some .word
  else if isNumeralPart c then some .numeral
  else if c = '\x27' then some .literal
  else if c = '[' then some .list
  else if c = '\x7b' then some .map
  else none

theorem Lead.of?_word {c : Char} (h : Text.isIdentifierStart c = true) :
    Lead.of? c = some .word := by
  rw [Lead.of?, if_pos h]

theorem Lead.of?_numeral {c : Char} (h : isNumeralPart c = true) : Lead.of? c = some .numeral := by
  have hstart : ¬Text.isIdentifierStart c = true := by
    rw [isIdentifierStart_of_isNumeralPart h]
    decide
  rw [Lead.of?, if_neg hstart, if_pos h]

/-- The lead of a constant. -/
def lead : Const → Lead
  | .null => .word
  | .bool _ => .word
  | .int _ => .numeral
  | .double _ => .numeral
  | .text _ => .literal
  | .list _ => .list
  | .map _ => .map
  | .enumValue _ _ => .word
  | .custom _ _ => .word

/-- No delimiter leads an expression. -/
theorem Lead.of?_delimiter {c : Char} (h : c ∈ delimiters) : Lead.of? c = none := by
  simp only [delimiters, List.mem_cons, List.not_mem_nil, or_false] at h
  rcases h with rfl | rfl | rfl | rfl <;> rfl

/-- **The lead of a plain constant is read off its first character.** -/
theorem Plain.lead_eq {constant : Const} (h : constant.Plain) :
    Text.Begins (Lead.of? · = some constant.lead) (constant.expression converters) := by
  cases h with
  | null =>
    rw [expression_null]
    exact ⟨'n', "ull".toList, rfl, rfl⟩
  | bool value =>
    rw [expression_bool]
    cases value with
    | true => exact ⟨'t', "rue".toList, rfl, rfl⟩
    | false => exact ⟨'f', "alse".toList, rfl, rfl⟩
  | int value =>
    rw [expression_int]
    have hparts := @isNumeralPart_of_mem value
    cases hdigits : (toString value).toList with
    | nil => exact absurd (String.toList_injective hdigits) (toString_ne_empty value)
    | cons c rest =>
      rw [hdigits] at hparts
      exact ⟨c, rest, hdigits, Lead.of?_numeral (hparts c List.mem_cons_self)⟩
  | text value =>
    rw [expression_text, Text.quote, Text.Begins, String.toList_ofList]
    exact ⟨'\x27', _, rfl, rfl⟩
  | list hitems =>
    rw [expression_list hitems, String.append_assoc, Text.Begins, String.toList_append]
    exact ⟨'[', _, rfl, rfl⟩
  | map hkeys hvalues =>
    rw [expression_map hkeys hvalues, String.append_assoc, Text.Begins, String.toList_append]
    exact ⟨'\x7b', _, rfl, rfl⟩
  | @enumValue type value htype hvalue =>
    obtain ⟨first, rest, hname, hfirst⟩ := Text.begins_of_isIdentifier htype
    rw [expression_enumValue, String.append_assoc, Text.Begins, String.toList_append, hname]
    exact ⟨first, _, rfl, Lead.of?_word hfirst⟩

/-- Where two expressions agree their constants have the same lead, and need only be told apart
from those. -/
theorem separates_of_lead {v w : Const} (hv : v.Plain) (hw : w.Plain)
    (h : v.lead = w.lead → Text.Separates (expression converters) delimiters v w) :
    Text.Separates (expression converters) delimiters v w := by
  intro s t hs ht heq
  obtain ⟨c, rest, hstart, hlead⟩ := @Plain.lead_eq converters v hv
  obtain ⟨c', rest', hstart', hlead'⟩ := @Plain.lead_eq converters w hw
  -- the texts agree in their first character, which tells the lead
  have hc : c = c' := by
    rw [hstart, hstart'] at heq
    exact (List.cons.inj heq).1
  rw [← hc, hlead] at hlead'
  exact h (Option.some.inj hlead') s t hs ht heq

/-! ### Words -/

/-- The one or two words of a constant that is written in words. -/
def spelling : Const → String × Option String
  | .null => ("null", none)
  | .bool value => (if value then "true" else "false", none)
  | .enumValue type value => (type, some value)
  | _ => ("", none)

/-- The second word, with a point in front of it. -/
def dotted : Option String → List Char
  | some value => '.' :: value.toList
  | none => []

theorem Plain.spelling_eq {constant : Const} (h : constant.Plain) (hlead : constant.lead = .word) :
    (constant.expression converters).toList =
        constant.spelling.1.toList ++ dotted constant.spelling.2 ∧
      Text.isIdentifier constant.spelling.1 = true ∧
      ∀ value ∈ constant.spelling.2, Text.isIdentifier value = true := by
  cases h with
  | null => exact ⟨by rw [expression_null]; rfl, rfl, fun _ h => absurd h (by simp [spelling])⟩
  | bool value =>
    refine ⟨?_, ?_, fun _ h => absurd h (by simp [spelling])⟩
    · rw [expression_bool]
      exact (List.append_nil _).symm
    · cases value <;> rfl
  | enumValue htype hvalue =>
    refine ⟨?_, htype, ?_⟩
    · rw [expression_enumValue, String.append_assoc, String.toList_append]
      simp [spelling, dotted]
    · intro value h
      obtain rfl := Option.some.inj h
      exact hvalue
  | _ => exact absurd hlead (by simp [lead])

/-- The constant that is written in the given words. -/
def ofSpelling : String × Option String → Const
  | (type, some value) => .enumValue type value
  | (word, none) => if word = "null" then .null else .bool (word == "true")

theorem Plain.ofSpelling_spelling {constant : Const} (h : constant.Plain)
    (hlead : constant.lead = .word) : ofSpelling constant.spelling = constant := by
  cases h with
  | null => rfl
  | bool value => cases value <;> rfl
  | enumValue htype hvalue => rfl
  | _ => exact absurd hlead (by simp [lead])

/-- Words in front of delimiters: the first ends at a point or a delimiter, the second at a
delimiter. -/
theorem dotted_append_inj {first other : String} {second second' : Option String} {s t : List Char}
    (hfirst : Text.isIdentifier first = true) (hother : Text.isIdentifier other = true)
    (hsecond : ∀ value ∈ second, Text.isIdentifier value = true)
    (hsecond' : ∀ value ∈ second', Text.isIdentifier value = true)
    (hs : Text.Stops delimiters s) (ht : Text.Stops delimiters t)
    (h : first.toList ++ dotted second ++ s = other.toList ++ dotted second' ++ t) :
    (first, second) = (other, second') ∧ s = t := by
  -- either a point or what follows the word stops it
  have hstops : ∀ {value : Option String} {rest : List Char}, Text.Stops delimiters rest →
      Text.Stops ('.' :: delimiters) (dotted value ++ rest) := by
    intro value rest hrest
    cases value with
    | some value => exact Text.stops_cons.mpr List.mem_cons_self
    | none => exact fun c hc => List.mem_cons_of_mem _ (hrest c hc)
  rw [List.append_assoc, List.append_assoc] at h
  have hwords : Text.Separates id ('.' :: delimiters) first other :=
    Text.separates_of_isIdentifier rfl hfirst hother
  obtain ⟨rfl, hrest⟩ := hwords _ _ (hstops hs) (hstops ht) h
  cases second with
  | none =>
    cases second' with
    | none => exact ⟨rfl, hrest⟩
    | some value =>
      -- a delimiter would be a point
      rw [show s = '.' :: (value.toList ++ t) from hrest, Text.stops_cons] at hs
      exact absurd hs (by decide)
  | some value =>
    cases second' with
    | none =>
      rw [show t = '.' :: (value.toList ++ s) from hrest.symm, Text.stops_cons] at ht
      exact absurd ht (by decide)
    | some value' =>
      obtain ⟨rfl, hst⟩ := Text.separates_of_isIdentifier rfl (hsecond value rfl)
        (hsecond' value' rfl) s t hs ht (List.cons.inj hrest).2
      exact ⟨rfl, hst⟩

theorem Plain.separates_words {v w : Const} (hv : v.Plain) (hw : w.Plain) (hlead : v.lead = .word)
    (hlead' : w.lead = .word) : Text.Separates (expression converters) delimiters v w := by
  intro s t hs ht h
  obtain ⟨heq, hfirst, hsecond⟩ := hv.spelling_eq hlead
  obtain ⟨heq', hfirst', hsecond'⟩ := hw.spelling_eq hlead'
  rw [heq, heq'] at h
  obtain ⟨hspelling, hst⟩ := dotted_append_inj hfirst hfirst' hsecond hsecond' hs ht h
  refine ⟨?_, hst⟩
  rw [← hv.ofSpelling_spelling hlead, ← hw.ofSpelling_spelling hlead']
  exact congrArg ofSpelling hspelling

/-! ### The induction -/

theorem Plain.int_of_lead {constant : Const} (h : constant.Plain)
    (hlead : .numeral = constant.lead) : ∃ value, constant = .int value := by
  cases h with
  | int value => exact ⟨value, rfl⟩
  | _ => exact absurd hlead (by simp [lead])

theorem Plain.text_of_lead {constant : Const} (h : constant.Plain)
    (hlead : .literal = constant.lead) : ∃ value, constant = .text value := by
  cases h with
  | text value => exact ⟨value, rfl⟩
  | _ => exact absurd hlead (by simp [lead])

theorem Plain.list_of_lead {constant : Const} (h : constant.Plain) (hlead : .list = constant.lead) :
    ∃ items, constant = .list items ∧ ∀ item ∈ items, item.Plain := by
  cases h with
  | list hitems => exact ⟨_, rfl, hitems⟩
  | _ => exact absurd hlead (by simp [lead])

theorem Plain.map_of_lead {constant : Const} (h : constant.Plain) (hlead : .map = constant.lead) :
    ∃ entries, constant = .map entries ∧ (∀ entry ∈ entries, entry.1.Plain) ∧
      ∀ entry ∈ entries, entry.2.Plain := by
  cases h with
  | map hkeys hvalues => exact ⟨_, rfl, hkeys, hvalues⟩
  | _ => exact absurd hlead (by simp [lead])

/-- No plain constant begins with a delimiter. -/
theorem Plain.begins {constant : Const} (h : constant.Plain) :
    Text.Begins (· ∉ delimiters) (constant.expression converters) := by
  refine (@Plain.lead_eq converters constant h).mono fun c hlead hmark => ?_
  rw [Lead.of?_delimiter hmark] at hlead
  exact absurd hlead (by simp)

/-- Entries of maps are separated when their keys and their values are. -/
theorem separates_entryText {entry other : Const × Const}
    (hkeys : Text.Separates (expression converters) delimiters entry.1 other.1)
    (hvalues : Text.Separates (expression converters) delimiters entry.2 other.2) :
    Text.Separates (entryText converters) delimiters entry other := by
  intro s t hs ht h
  unfold entryText at h
  simp only [String.toList_append, List.append_assoc] at h
  -- the colon between key and value is itself a delimiter
  have hcolon : ∀ rest : List Char, Text.Stops delimiters (": ".toList ++ rest) :=
    fun rest => Text.stops_cons.mpr (by decide)
  obtain ⟨hkey, hrest⟩ := hkeys _ _ (hcolon _) (hcolon _) h
  obtain ⟨hvalue, hst⟩ := hvalues s t hs ht (List.append_cancel_left hrest)
  exact ⟨Prod.ext hkey hvalue, hst⟩

/-- An entry begins as its key does. -/
theorem begins_entryText {entry : Const × Const} (h : entry.1.Plain) :
    Text.Begins (· ∉ delimiters) (entryText converters entry) := by
  obtain ⟨c, rest, hbegin, hc⟩ := @Plain.begins converters entry.1 h
  rw [entryText, String.append_assoc, Text.Begins, String.toList_append, hbegin]
  exact ⟨c, _, rfl, hc⟩

/-- A list in brackets, in front of anything. -/
theorem bracketed_append_inj {α : Type} {text : α → String} {xs ys : List α}
    {opening closing : Char}
    (hclosing : closing ∈ delimiters) (hne : closing ≠ ',')
    (hsep : ∀ x ∈ xs, ∀ y ∈ ys, Text.Separates text delimiters x y)
    (hbegin : ∀ x ∈ xs ++ ys, Text.Begins (· ∉ delimiters) (text x)) {s t : List Char}
    (h : opening :: ((Text.commaSep (xs.map text)).toList ++ closing :: s) =
      opening :: ((Text.commaSep (ys.map text)).toList ++ closing :: t)) : xs = ys ∧ s = t := by
  have hmarks : [',', closing] ⊆ delimiters := by
    simpa [delimiters] using hclosing
  have hlists : Text.Separates (fun items => Text.commaSep (items.map text)) [closing] xs ys := by
    refine Text.separates_commaSep (by simpa using hne.symm) ?_ ?_
    · exact fun x hx y hy => (hsep x hx y hy).mono hmarks
    · intro x hx
      exact (hbegin x hx).mono fun c hc hmem => hc (hmarks (List.mem_cons_of_mem _ hmem))
  have hstops : ∀ rest, Text.Stops [closing] (closing :: rest) := fun rest =>
    Text.stops_cons.mpr (List.mem_singleton_self _)
  obtain ⟨hitems, hrest⟩ := hlists _ _ (hstops s) (hstops t) (List.cons.inj h).2
  exact ⟨hitems, (List.cons.inj hrest).2⟩

/-- **Plain constants are separated by delimiters.** -/
theorem Plain.separates {v : Const} (hv : v.Plain) {w : Const} (hw : w.Plain) :
    Text.Separates (expression converters) delimiters v w := by
  induction hv generalizing w with
  | null =>
    exact separates_of_lead .null hw fun hlead => Plain.null.separates_words hw rfl hlead.symm
  | bool value =>
    exact separates_of_lead (.bool value) hw fun hlead =>
      (Plain.bool value).separates_words hw rfl hlead.symm
  | enumValue htype hvalue =>
    exact separates_of_lead (.enumValue htype hvalue) hw fun hlead =>
      (Plain.enumValue htype hvalue).separates_words hw rfl hlead.symm
  | int value =>
    refine separates_of_lead (.int value) hw fun hlead => ?_
    obtain ⟨other, rfl⟩ := hw.int_of_lead hlead
    intro s t hs ht h
    rw [expression_int, expression_int] at h
    obtain ⟨rfl, hst⟩ := separates_int value other s t hs ht h
    exact ⟨rfl, hst⟩
  | text value =>
    refine separates_of_lead (.text value) hw fun hlead => ?_
    obtain ⟨other, rfl⟩ := hw.text_of_lead hlead
    intro s t _ _ h
    rw [expression_text, expression_text] at h
    obtain ⟨rfl, hst⟩ := Text.quote_append_inj h
    exact ⟨rfl, hst⟩
  | @list items hitems ih =>
    refine separates_of_lead (.list hitems) hw fun hlead => ?_
    obtain ⟨others, rfl, hothers⟩ := hw.list_of_lead hlead
    intro s t _ _ h
    rw [expression_list hitems, expression_list hothers] at h
    -- items begin with no delimiter, so an empty list is not taken for the front of another
    simp only [String.toList_append, List.append_assoc] at h
    have hplain : ∀ item ∈ items ++ others, item.Plain :=
      List.forall_mem_append.mpr ⟨hitems, hothers⟩
    have hsep : ∀ item ∈ items, ∀ other ∈ others,
        Text.Separates (expression converters) delimiters item other :=
      fun item hitem other hother => ih item hitem (hothers other hother)
    obtain ⟨rfl, hst⟩ := bracketed_append_inj (by decide) (by decide) hsep
      (fun item hitem => (hplain item hitem).begins) h
    exact ⟨rfl, hst⟩
  | @map entries hkeys hvalues ihkeys ihvalues =>
    refine separates_of_lead (.map hkeys hvalues) hw fun hlead => ?_
    obtain ⟨others, rfl, hkeys', hvalues'⟩ := hw.map_of_lead hlead
    intro s t _ _ h
    rw [expression_map hkeys hvalues, expression_map hkeys' hvalues'] at h
    simp only [String.toList_append, List.append_assoc] at h
    have hplain : ∀ entry ∈ entries ++ others, entry.1.Plain :=
      List.forall_mem_append.mpr ⟨hkeys, hkeys'⟩
    have hsep : ∀ entry ∈ entries, ∀ other ∈ others,
        Text.Separates (entryText converters) delimiters entry other :=
      fun entry hentry other hother =>
        separates_entryText (ihkeys entry hentry (hkeys' other hother))
          (ihvalues entry hentry (hvalues' other hother))
    obtain ⟨rfl, hst⟩ := bracketed_append_inj (by decide) (by decide) hsep
      (fun entry hentry => begins_entryText (hplain entry hentry)) h
    exact ⟨rfl, hst⟩

/-! ### The main statement -/

/-- **Rendering is unambiguous.** Any two plain constants have expressions, whatever converters
there are. Equal expressions are expressions of equal constants, and even where each is followed by
some text, which is empty or starts with a delimiter, equal texts have equal constants in front and
the same text behind. -/
theorem render_unambiguous (converters : Converters) {v w : Const} (hv : v.Plain) (hw : w.Plain) :
    (v.render converters = w.render converters → v = w) ∧
      ∃ first second, v.render converters = .ok first ∧ w.render converters = .ok second ∧
        ∀ s t : String, Text.Stops delimiters s.toList → Text.Stops delimiters t.toList →
          first ++ s = second ++ t → v = w ∧ s = t := by
  have hseparates : Text.Separates (expression converters) delimiters v w := hv.separates hw
  refine ⟨fun h => ?_, _, _, hv.render_eq, hw.render_eq, fun s t hs ht h => ?_⟩
  · rw [hv.render_eq, hw.render_eq] at h
    have htexts := congrArg String.toList (Except.ok.inj h)
    exact (hseparates [] [] (Text.stops_nil _) (Text.stops_nil _) (congrArg (· ++ []) htexts)).1
  · have htexts := congrArg String.toList h
    rw [String.toList_append, String.toList_append] at htexts
    obtain ⟨heq, hst⟩ := hseparates _ _ hs ht htexts
    exact ⟨heq, String.toList_injective hst⟩

/-- A list of one text that holds the separator of lists, and a list of two texts. -/
theorem render_unambiguous_of_lists :
    let v : Const := .list [.text "a\x27, \x27b", .map [(.enumValue "Color" "red", .int (-7))]]
    let w : Const := .list [.text "a", .text "b", .map [(.bool true, .null)]]
    v.Plain ∧ w.Plain ∧ (v.render {} = w.render {} → v = w) ∧
      ∃ first second, v.render {} = .ok first ∧ w.render {} = .ok second ∧
        ∀ s t : String, Text.Stops delimiters s.toList → Text.Stops delimiters t.toList →
          first ++ s = second ++ t → v = w ∧ s = t := by
  intro v w
  have hv : v.Plain := by
    refine .list (List.forall_mem_cons.mpr ⟨.text _, List.forall_mem_singleton.mpr (.map ?_ ?_)⟩)
    · exact List.forall_mem_singleton.mpr (.enumValue rfl rfl)
    · exact List.forall_mem_singleton.mpr (.int _)
  have hw : w.Plain := by
    refine .list (List.forall_mem_cons.mpr ⟨.text _, List.forall_mem_cons.mpr ⟨.text _, ?_⟩⟩)
    refine List.forall_mem_singleton.mpr (.map ?_ ?_)
    · exact List.forall_mem_singleton.mpr (.bool true)
    · exact List.forall_mem_singleton.mpr .null
  exact ⟨hv, hw, render_unambiguous {} hv hw⟩

end DartSource.Const
