import DartSource.Proofs.Text.Avoidance
import Mathlib.Algebra.Ring.Parity

/-!
# Literals keep what they quote

A literal carries its content past everything that could stop it on the way: a quote that would end
the literal, a dollar sign that would start an interpolation, a line break. This module says what
may stand between the quotes of a literal, and that `quote` writes nothing else.

* `Spells` is the grammar of the inside of a literal. The reader accepts exactly the literals of
  this grammar and stops at the quote behind them (`scan_eq_some_iff`), so what it reads does not
  depend on what follows (`scan_append`).
* A character is **escaped** when an odd number of backslashes stands in front of it (`Escaped`).
  In the inside of a literal every quote and every dollar sign is escaped (`Spells.escaped`), and
  the quote behind it is not (`Spells.not_escaped`). The count is carried from left to right: what
  has been read so far ends with an even number of backslashes, so it does not change whether a
  later character is escaped (`escaped_append_iff`).

The main statement is `sealed_quote`.
-/

namespace DartSource.Text

/-! ### The inside of a literal -/

/-- The characters that cannot stand for themselves in a literal. -/
def special : List Char := ['\\', '\x27', '$', '\n', '\r']

/-- The first list of characters, put between quotes, stands for the second. -/
inductive Spells : List Char → List Char → Prop where
  | nil : Spells [] []
  | escape {c d : Char} {inside text : List Char} (h : unescape? c = some d)
      (rest : Spells inside text) : Spells ('\\' :: c :: inside) (d :: text)
  | plain {c : Char} {inside text : List Char} (h : c ∉ special) (rest : Spells inside text) :
      Spells (c :: inside) (c :: text)

/-- A character that is not special is read as itself. -/
theorem scanInside_plain {c : Char} (h : c ∉ special) (rest : List Char) :
    scanInside (c :: rest) = (scanInside rest).map fun read => (c :: read.1, read.2) := by
  simp only [special, List.mem_cons, List.not_mem_nil, or_false, not_or] at h
  obtain ⟨hbackslash, hquote, hdollar, hfeed, hreturn⟩ := h
  rw [scanInside, if_neg hquote, if_neg (by tauto)]
  · cases scanInside rest <;> rfl
  · exact fun hc _ => hbackslash hc
  · exact fun _ _ hc _ => hbackslash hc

theorem Spells.scanInside_eq {inside text : List Char} (h : Spells inside text)
    (rest : List Char) : scanInside (inside ++ '\x27' :: rest) = some (text, rest) := by
  induction h with
  | nil => rfl
  | escape h _ ih =>
    rw [List.cons_append, List.cons_append, scanInside_escape h, ih]
    rfl
  | plain h _ ih =>
    rw [List.cons_append, scanInside_plain h, ih]
    rfl

/-- **The reader accepts exactly what the grammar spells**, and stops at the quote behind it. -/
theorem scanInside_eq_some_iff {chars text rest : List Char} :
    scanInside chars = some (text, rest) ↔
      ∃ inside, chars = inside ++ '\x27' :: rest ∧ Spells inside text := by
  refine ⟨fun h => ?_, ?_⟩
  · -- along the reader: each of its branches that goes on is a rule of the grammar
    fun_induction scanInside chars generalizing text with
    | case1 => exact absurd h (Option.some_ne_none _).symm
    | case2 => exact absurd h (Option.some_ne_none _).symm
    | case3 c chars ih =>
      obtain ⟨d, hescape, h⟩ := Option.bind_eq_some_iff.mp h
      obtain ⟨⟨more, after⟩, hread, h⟩ := Option.bind_eq_some_iff.mp h
      obtain ⟨rfl, rfl⟩ := Prod.mk.inj (Option.some.inj h)
      obtain ⟨inside, rfl, hspells⟩ := ih hread
      exact ⟨'\\' :: c :: inside, rfl, .escape hescape hspells⟩
    | case4 chars =>
      obtain ⟨rfl, rfl⟩ := Prod.mk.inj (Option.some.inj h)
      exact ⟨[], rfl, .nil⟩
    | case5 => exact absurd h (Option.some_ne_none _).symm
    | case6 c chars hlast hescape hquote hother ih =>
      obtain ⟨⟨more, after⟩, hread, h⟩ := Option.bind_eq_some_iff.mp h
      obtain ⟨rfl, rfl⟩ := Prod.mk.inj (Option.some.inj h)
      obtain ⟨inside, rfl, hspells⟩ := ih hread
      -- behind a backslash something would follow, and then it would be an escape
      have hbackslash : c ≠ '\\' := by
        intro hc
        cases hchars : inside ++ '\x27' :: after with
        | nil => exact hlast hc hchars
        | cons next more => exact hescape next more hc hchars
      have hplain : c ∉ special := by
        simp only [special, List.mem_cons, List.not_mem_nil, or_false]
        tauto
      exact ⟨c :: inside, rfl, .plain hplain hspells⟩
  · rintro ⟨inside, rfl, hspells⟩
    exact hspells.scanInside_eq rest

theorem scan_eq_some_iff {chars text rest : List Char} :
    scan chars = some (text, rest) ↔
      ∃ inside, chars = '\x27' :: (inside ++ '\x27' :: rest) ∧ Spells inside text := by
  refine ⟨fun h => ?_, ?_⟩
  · unfold scan at h
    split at h
    · obtain ⟨inside, rfl, hspells⟩ := scanInside_eq_some_iff.mp h
      exact ⟨inside, rfl, hspells⟩
    · exact absurd h (Option.some_ne_none _).symm
  · rintro ⟨inside, rfl, hspells⟩
    exact hspells.scanInside_eq rest

/-- What follows a literal has no part in how it is read. -/
theorem scan_append {chars text rest : List Char} (h : scan chars = some (text, rest))
    (more : List Char) : scan (chars ++ more) = some (text, rest ++ more) := by
  obtain ⟨inside, rfl, hspells⟩ := scan_eq_some_iff.mp h
  refine scan_eq_some_iff.mpr ⟨inside, ?_, hspells⟩
  rw [List.cons_append, List.append_assoc, List.cons_append]

/-- Nothing is read from a part of what is a literal as a whole: the part would be read alike in the
whole, and leave something over. -/
theorem scan_eq_none_of_append {front rest text : List Char}
    (h : scan (front ++ rest) = some (text, [])) (hne : rest ≠ []) : scan front = none := by
  cases hpart : scan front with
  | none => rfl
  | some found =>
    rw [scan_append hpart rest] at h
    have hrest : found.2 ++ rest = [] := (Prod.mk.inj (Option.some.inj h)).2
    exact absurd (List.append_eq_nil_iff.mp hrest).2 hne

/-- What is written for a text spells it. -/
theorem spells_escaped (text : List Char) : Spells (text.flatMap escapeChar) text := by
  obtain ⟨inside, hinside, hspells⟩ := scanInside_eq_some_iff.mp (scanInside_escaped text [])
  rwa [List.append_cancel_right hinside]

/-! ### Escaped characters -/

/-- So many backslashes stand at the end. -/
def backslashes (front : List Char) : Nat :=
  (front.reverse.takeWhile (· == '\\')).length

/-- Whatever follows is escaped, since the last of the backslashes in front of it is not. -/
def Escaped (front : List Char) : Prop :=
  Odd (backslashes front)

instance (front : List Char) : Decidable (Escaped front) :=
  inferInstanceAs (Decidable (Odd _))

theorem backslashes_of_last {front : List Char} {c : Char} (hc : c ≠ '\\') :
    backslashes (front ++ [c]) = 0 := by
  unfold backslashes
  rw [List.reverse_append, List.reverse_singleton, List.singleton_append,
    List.takeWhile_cons_of_neg (by simpa using hc), List.length_nil]

/-- Where nothing is escaped behind the front, it makes no difference to what comes later. -/
theorem escaped_append_iff {front : List Char} (h : ¬Escaped front) (rest : List Char) :
    Escaped (front ++ rest) ↔ Escaped rest := by
  have hfront : Even (backslashes front) := Nat.not_odd_iff_even.mp h
  unfold Escaped backslashes at *
  rw [List.reverse_append, List.takeWhile_append]
  split
  · next hall =>
    -- the rest is backslashes only, and those in front of it come in pairs
    rw [List.length_append, hall, Nat.odd_add]
    exact iff_true_right hfront
  · exact Iff.rfl

/-- One step of a spelling leaves nothing open. -/
theorem not_escaped_plain {c : Char} (h : c ∉ special) : ¬Escaped [c] := by
  have hc : c ≠ '\\' := fun heq => h (heq ▸ List.mem_cons_self)
  unfold Escaped
  rw [← List.nil_append [c], backslashes_of_last hc]
  decide

theorem not_escaped_pair (c : Char) : ¬Escaped ['\\', c] := by
  by_cases hc : c = '\\'
  · subst hc
    decide
  · unfold Escaped
    rw [show ['\\', c] = ['\\'] ++ [c] from rfl, backslashes_of_last hc]
    decide

/-- The quote in front of the inside does not count. -/
theorem escaped_quote_cons_iff (rest : List Char) : Escaped ('\x27' :: rest) ↔ Escaped rest := by
  have hquote : ¬Escaped ['\x27'] := by decide
  exact escaped_append_iff hquote rest

namespace Spells

variable {inside text : List Char}

/-- The quote behind the inside of a literal is not escaped. -/
theorem not_escaped (h : Spells inside text) : ¬Escaped inside := by
  induction h with
  | nil => decide
  | @escape c d inside text _ _ ih =>
    intro hescaped
    exact ih ((escaped_append_iff (not_escaped_pair c) inside).mp hescaped)
  | @plain c inside text hc _ ih =>
    intro hescaped
    exact ih ((escaped_append_iff (not_escaped_plain hc) inside).mp hescaped)

/-- **Every quote and every dollar sign in the inside of a literal is escaped.** The induction is on
the spelling: the character stands behind the backslash of an escape, or further to the right. -/
theorem escaped (h : Spells inside text) {front rest : List Char} {c : Char}
    (hc : c = '\x27' ∨ c = '$') (hinside : inside = front ++ c :: rest) : Escaped front := by
  induction h generalizing front with
  | nil => exact absurd hinside (by simp)
  | @escape e d inside text _ _ ih =>
    cases front with
    | nil =>
      have hfirst : '\\' = c := (List.cons.inj hinside).1
      rw [← hfirst] at hc
      exact absurd hc (by decide)
    | cons first front =>
      obtain ⟨rfl, hlater⟩ := List.cons.inj hinside
      cases front with
      | nil => decide
      | cons second front =>
        obtain ⟨rfl, hlast⟩ := List.cons.inj hlater
        exact (escaped_append_iff (not_escaped_pair e) front).mpr (ih hlast)
  | @plain e inside text he _ ih =>
    cases front with
    | nil =>
      have hfirst : e = c := (List.cons.inj hinside).1
      rw [hfirst] at he
      exact absurd he (by rcases hc with rfl | rfl <;> decide)
    | cons first front =>
      obtain ⟨rfl, hlater⟩ := List.cons.inj hinside
      exact (escaped_append_iff (not_escaped_plain he) front).mpr (ih hlater)

/-- In the whole literal the two quotes around the inside are the only exceptions. -/
theorem escaped_of_quoted (h : Spells inside text) {front rest : List Char} {c : Char}
    (hc : c = '\x27' ∨ c = '$')
    (hquoted : '\x27' :: (inside ++ ['\x27']) = front ++ c :: rest) :
    c = '\x27' ∧ (front = [] ∨ rest = []) ∨ Escaped front := by
  cases front with
  | nil =>
    have hfirst : '\x27' = c := (List.cons.inj hquoted).1
    exact .inl ⟨hfirst.symm, .inl rfl⟩
  | cons first front =>
    obtain ⟨rfl, hlater⟩ := List.cons.inj hquoted
    rcases List.eq_nil_or_concat rest with rfl | ⟨rest, last, rfl⟩
    · have hlast : ['\x27'] = [c] := (List.append_inj' hlater rfl).2
      exact .inl ⟨(List.cons.inj hlast).1.symm, .inr rfl⟩
    · -- what is neither the first nor the last character stands in the inside
      have hsplit : inside ++ ['\x27'] = (front ++ c :: rest) ++ [last] := by simpa using hlater
      have hinside : inside = front ++ c :: rest := (List.append_inj' hsplit rfl).1
      exact .inr ((escaped_quote_cons_iff front).mpr (h.escaped hc hinside))

end Spells

/-! ### The main statement -/

/-- The literal carries the content, whatever the content is and whatever follows the literal. -/
structure Sealed (content literal : String) : Prop where
  /-- In front of any text, exactly the literal is read, as its content. -/
  read : ∀ after : String,
    scan (literal ++ after).toList = some (content.toList, after.toList)
  /-- The literal does not end early: nothing is read from a part of it. -/
  whole : ∀ front rest : List Char, literal.toList = front ++ rest → rest ≠ [] → scan front = none
  /-- It stands between two quotes, the second of which is not escaped, … -/
  quotes : ∃ inside, literal.toList = '\x27' :: (inside ++ ['\x27']) ∧ ¬Escaped ('\x27' :: inside)
  /-- … as every other quote is, … -/
  inner : ∀ front rest : List Char, literal.toList = front ++ '\x27' :: rest →
    front = [] ∨ rest = [] ∨ Escaped front
  /-- … and every dollar sign, so nothing is interpolated. -/
  dollar : ∀ front rest : List Char, literal.toList = front ++ '$' :: rest → Escaped front
  line : Avoids lineBreaks literal

/-- **Quoting seals a text**, and different texts differently. -/
theorem sealed_quote (content : String) :
    Sealed content (quote content) ∧ ∀ other, quote other = quote content → other = content := by
  have hspells : Spells (content.toList.flatMap escapeChar) content.toList :=
    spells_escaped content.toList
  have hquote : (quote content).toList =
      '\x27' :: (content.toList.flatMap escapeChar ++ ['\x27']) := String.toList_ofList
  have hread : ∀ after : List Char,
      scan ((quote content).toList ++ after) = some (content.toList, after) := by
    intro after
    rw [hquote]
    exact scan_quoteChars_append content.toList after
  refine ⟨⟨fun after => ?_, fun front rest hsplit hne => ?_, ?_, fun front rest hsplit => ?_,
    fun front rest hsplit => ?_, avoids_quote content⟩, fun other hother => ?_⟩
  · rw [String.toList_append]
    exact hread after.toList
  · have hwhole := hread []
    rw [List.append_nil, hsplit] at hwhole
    exact scan_eq_none_of_append hwhole hne
  · refine ⟨_, hquote, fun hescaped => hspells.not_escaped ?_⟩
    exact (escaped_quote_cons_iff _).mp hescaped
  · rw [hquote] at hsplit
    rcases hspells.escaped_of_quoted (.inl rfl) hsplit with ⟨-, hfirst | hlast⟩ | hescaped
    · exact .inl hfirst
    · exact .inr (.inl hlast)
    · exact .inr (.inr hescaped)
  · rw [hquote] at hsplit
    rcases hspells.escaped_of_quoted (.inr rfl) hsplit with ⟨hc, -⟩ | hescaped
    · exact absurd hc (by decide)
    · exact hescaped
  · have hsame : (quote other).toList ++ [] = (quote content).toList ++ [] := by rw [hother]
    exact (quote_append_inj hsame).1

/-- A text that ends with a backslash, in front of one that begins with a quote. -/
example :
    scan (quote "\x27$\n\\" ++ "\x27;").toList =
      some (['\x27', '$', '\n', '\\'], ['\x27', ';']) := by
  decide

end DartSource.Text
