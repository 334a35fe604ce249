import Checkup.Json.Basic
import Mathlib.Data.List.Chain
import Mathlib.Tactic.IntervalCases

/-!
# Tokens of JSON texts

A JSON text consists of tokens with white space between them: of signs, of words such as numbers,
and of strings with their escapes. The first characters of a token tell where it ends and what it
is, so a text spells one list of tokens at most.
-/

namespace Checkup.Json

def isGap (c : Char) : Bool := [' ', '\t', '\n', '\r'].contains c

def isSign (c : Char) : Bool := ['[', ']', '\x7b', '\x7d', ',', ':'].contains c

def isWordChar (c : Char) : Bool := c.isAlphanum || c == '-' || c == '.'

/-- One of the characters that real numbers have and whole numbers do not. -/
def isRealChar (c : Char) : Bool := c == '.' || c == 'e'

def isNumberChar (c : Char) : Bool := c.isDigit || c == '-' || isRealChar c

/-- A value without parts; a real number is known by its text alone. -/
inductive Word
  | null
  | bool (b : Bool)
  | integer (n : Int)
  | real (text : String)
deriving DecidableEq

namespace Word

def text : Word → List Char
  | null => "null".toList
  | bool b => (if b then "true" else "false").toList
  | integer n => (toString n).toList
  | real text => text.toList

def isNumber : Word → Bool
  | null | bool _ => false
  | integer _ | real _ => true

def Proper : Word → Prop
  | real text => text.toList.all isNumberChar ∧ text.toList.any isRealChar
  | null | bool _ | integer _ => True

end Word

inductive Token
  | sign (c : Char)
  | word (w : Word)
  | string (s : String)
deriving DecidableEq

namespace Token

/-- The characters of a string and the quotation mark behind them. -/
def quoted (cs : List Char) : List Char := cs.flatMap (fun c => (writeChar c).toList) ++ ['"']

def text : Token → List Char
  | sign c => [c]
  | word w => w.text
  | string s => '"' :: quoted s.toList

def Proper : Token → Prop
  | sign c => isSign c
  | word w => w.Proper
  | string _ => True

def isWord : Token → Bool
  | word _ => true
  | sign _ | string _ => false

end Token

/-- The text consists of these tokens, with white space before, between and behind them. -/
inductive Spells : List Token → List Char → Prop
  | gap {gap : List Char} (hgap : gap.all isGap) : Spells [] gap
  | cons {gap text : List Char} {token : Token} {tokens : List Token} (hgap : gap.all isGap)
      (hproper : token.Proper) (h : Spells tokens text) :
      Spells (token :: tokens) (gap ++ token.text ++ text)

/-- No word stands next to another one. -/
def Apart (tokens : List Token) : Prop := tokens.IsChain fun a b => !(a.isWord && b.isWord)

/-! ## The text of a word -/

/-- A whole number is written with its digits, behind a minus sign if it is negative. -/
lemma toList_toString_int (n : Int) :
    (toString n).toList = (if n < 0 then ['-'] else []) ++ Nat.toDigits 10 n.natAbs := by
  have htext : toString n = n.repr := rfl
  rw [htext, Int.repr_eq_if]
  by_cases h : 0 ≤ n
  · have habs : n.toNat = n.natAbs := by omega
    rw [if_pos h, if_neg (Int.not_lt.mpr h), habs, Nat.repr_eq_ofList_toDigits]
    simp
  · have habs : (-n).toNat = n.natAbs := by omega
    rw [if_neg h, if_pos (Int.not_le.mp h), habs, Nat.repr_eq_ofList_toDigits]
    simp

lemma isDigit_of_mem_toDigits {n : Nat} {c : Char} (h : c ∈ Nat.toDigits 10 n) : c.isDigit :=
  Nat.isDigit_of_mem_toDigits (by decide) (by decide) h

lemma minus_mem_toString_int (n : Int) : '-' ∈ (toString n).toList ↔ n < 0 := by
  rw [toList_toString_int, List.mem_append]
  constructor
  · rintro (h | h)
    · by_contra hn
      simp [hn] at h
    · cases isDigit_of_mem_toDigits h
  · intro h
    simp [h]

lemma eq_of_toString_int {n n' : Int} (h : (toString n).toList = (toString n').toList) :
    n = n' := by
  have hsign : n < 0 ↔ n' < 0 := by
    rw [← minus_mem_toString_int, h, minus_mem_toString_int]
  rw [toList_toString_int, toList_toString_int] at h
  simp only [hsign] at h
  have habs := congrArg (Nat.ofDigitChars 10 · 0) (List.append_cancel_left h)
  simp only [Nat.ofDigitChars_ten_toDigits] at habs
  omega

lemma isWordChar_of_isNumberChar {c : Char} (h : isNumberChar c) : isWordChar c := by
  simp only [isNumberChar, isRealChar, Bool.or_eq_true, beq_iff_eq] at h
  rcases h with (hdigit | rfl) | rfl | rfl
  · simp [isWordChar, Char.isAlphanum, hdigit]
  · decide
  · decide
  · decide

lemma all_isNumberChar_toString (n : Nat) : (toString n).toList.all isNumberChar := by
  rw [Nat.toString_eq_ofList_toDigits, String.toList_ofList]
  apply List.all_eq_true.mpr
  intro c hc
  simp [isNumberChar, isDigit_of_mem_toDigits hc]

namespace Word

variable {w w' : Word}

lemma mem_integer {n : Int} {c : Char} (h : c ∈ (integer n).text) : c.isDigit ∨ c = '-' := by
  rw [text, toList_toString_int, List.mem_append] at h
  rcases h with h | h
  · split_ifs at h
    · exact .inr (List.mem_singleton.mp h)
    · cases h
  · exact .inl (isDigit_of_mem_toDigits h)

lemma all_isNumberChar (h : w.Proper) : w.text.all isNumberChar = w.isNumber := by
  cases w with
  | null => decide
  | bool b => cases b <;> decide
  | real text => exact h.1
  | integer n =>
    apply List.all_eq_true.mpr
    intro c hc
    rcases mem_integer hc with hdigit | rfl
    · simp [isNumberChar, hdigit]
    · decide

lemma any_isRealChar_integer (n : Int) : (integer n).text.any isRealChar = false := by
  apply List.any_eq_false.mpr
  intro c hc hreal
  simp only [isRealChar, Bool.or_eq_true, beq_iff_eq] at hreal
  rcases mem_integer hc with hdigit | rfl
  · rcases hreal with rfl | rfl
    · cases hdigit
    · cases hdigit
  · simp at hreal

/-- The text of a word tells the word. -/
lemma eq_of_text (h : w.Proper) (h' : w'.Proper) (htext : w.text = w'.text) : w = w' := by
  have hnumber : w.isNumber = w'.isNumber := by
    rw [← all_isNumberChar h, htext, all_isNumberChar h']
  cases w <;> cases w' <;> try cases hnumber
  case null.null => rfl
  case null.bool b => cases b <;> cases htext
  case bool.null b => cases b <;> cases htext
  case bool.bool b b' => cases b <;> cases b' <;> first | rfl | cases htext
  case integer.integer n n' => rw [eq_of_toString_int htext]
  case real.real text text' => rw [String.toList_inj.mp htext]
  case integer.real n text =>
    have hreal : (integer n).text.any isRealChar := htext ▸ h'.2
    simp [any_isRealChar_integer] at hreal
  case real.integer text n =>
    have hreal : (integer n).text.any isRealChar := htext ▸ h.2
    simp [any_isRealChar_integer] at hreal

lemma all_isWordChar (h : w.Proper) : w.text.all isWordChar := by
  cases hkind : w.isNumber with
  | false =>
    cases w with
    | null => decide
    | bool b => cases b <;> decide
    | integer n => cases hkind
    | real text => cases hkind
  | true =>
    have hnumber : w.text.all isNumberChar := (all_isNumberChar h).trans hkind
    apply List.all_eq_true.mpr
    intro c hc
    exact isWordChar_of_isNumberChar (List.all_eq_true.mp hnumber c hc)

lemma text_ne_nil (h : w.Proper) : w.text ≠ [] := by
  cases w with
  | null => decide
  | bool b => cases b <;> decide
  | integer n =>
    rw [text, toList_toString_int]
    simp [Nat.toDigits_ne_nil]
  | real text =>
    intro hnil
    have hreal : (real text).text.any isRealChar := h.2
    simp [hnil] at hreal

end Word

/-! ## The text of a string -/

/-- What stands for a character behind a backslash. -/
def unescape (c : Char) : Char :=
  if c == 'b' then '\x08'
  else if c == 'f' then '\x0c'
  else if c == 'n' then '\n'
  else if c == 'r' then '\r'
  else if c == 't' then '\t'
  else c

def hexValue (c : Char) : Nat := if c.isDigit then c.toNat - 48 else c.toNat - 87

/-- The character of a string that a text starts with, and the text behind it. -/
def readChar : List Char → Option (Char × List Char)
  | '\\' :: 'u' :: _ :: _ :: a :: b :: cs => some (Char.ofNat (16 * hexValue a + hexValue b), cs)
  | '\\' :: c :: cs => some (unescape c, cs)
  | '"' :: _ => none
  | c :: cs => some (c, cs)
  | [] => none

lemma readChar_writeChar (c : Char) (rest : List Char) :
    readChar ((writeChar c).toList ++ rest) = some (c, rest) := by
  by_cases h : c.toNat < 32
  · obtain ⟨n, hn, rfl⟩ : ∃ n < 32, Char.ofNat n = c := ⟨c.toNat, h, Char.ofNat_toNat c⟩
    -- each of these few has an escape of its own
    interval_cases n <;> rfl
  · by_cases hquote : c = '"'
    · subst hquote
      rfl
    by_cases hslash : c = '\\'
    · subst hslash
      rfl
    have hother : ∀ d : Char, d.toNat < 32 → c ≠ d := by
      rintro d hd rfl
      exact h hd
    have hsmall : ¬c.toNat < 16 := by omega
    have hplain : writeChar c = String.singleton c := by
      unfold writeChar
      simp only [beq_iff_eq, hquote, hslash, hother '\x08' (by decide), hother '\x0c' (by decide),
        hother '\n' (by decide), hother '\r' (by decide), hother '\t' (by decide), hsmall, h,
        if_false]
    simp [hplain, readChar, hslash]

namespace Token

lemma quoted_cons (c : Char) (cs : List Char) :
    quoted (c :: cs) = (writeChar c).toList ++ quoted cs := by
  unfold quoted
  rw [List.flatMap_cons, List.append_assoc]

lemma eq_of_quoted {cs cs' rest rest' : List Char} (h : quoted cs ++ rest = quoted cs' ++ rest') :
    cs = cs' ∧ rest = rest' := by
  induction cs generalizing cs' with
  | nil =>
    cases cs' with
    | nil => exact ⟨rfl, List.append_cancel_left h⟩
    | cons c' cs' =>
      have hread := congrArg readChar h
      rw [quoted_cons, List.append_assoc, readChar_writeChar] at hread
      simp [quoted, readChar] at hread
  | cons c cs ih =>
    have hread := congrArg readChar h
    rw [quoted_cons, List.append_assoc, readChar_writeChar] at hread
    cases cs' with
    | nil => simp [quoted, readChar] at hread
    | cons c' cs' =>
      rw [quoted_cons, List.append_assoc, readChar_writeChar] at hread
      simp only [Option.some.injEq, Prod.mk.injEq] at hread
      obtain ⟨rfl, hrest⟩ := hread
      obtain ⟨rfl, rfl⟩ := ih hrest
      exact ⟨rfl, rfl⟩

end Token

/-! ## A text spells one list of tokens -/

section Text

variable {c : Char} {text text' rest rest' : List Char} {token token' : Token}
  {tokens tokens' : List Token}

lemma isWordChar_of_isGap (h : isGap c) : isWordChar c = false := by
  simp only [isGap, List.contains_cons, Bool.or_eq_true, beq_iff_eq] at h
  rcases h with rfl | rfl | rfl | rfl | h <;> first | rfl | cases h

lemma of_isSign (h : isSign c) : isGap c = false ∧ isWordChar c = false ∧ c ≠ '"' := by
  simp only [isSign, List.contains_cons, Bool.or_eq_true, beq_iff_eq] at h
  rcases h with rfl | rfl | rfl | rfl | rfl | rfl | h <;> first | decide | cases h

lemma isGap_of_isWordChar (h : isWordChar c) : isGap c = false := by
  by_contra hgap
  simp [isWordChar_of_isGap (Bool.not_eq_false _ ▸ hgap)] at h

/-- What stands before the first character that fails a test. -/
lemma eq_of_all {p : Char → Bool} (h : text.all p) (h' : text'.all p)
    (hrest : ∀ c ∈ rest.head?, p c = false) (hrest' : ∀ c ∈ rest'.head?, p c = false)
    (heq : text ++ rest = text' ++ rest') : text = text' ∧ rest = rest' := by
  have htake : ∀ {u v : List Char}, u.all p → (∀ c ∈ v.head?, p c = false) →
      (u ++ v).takeWhile p = u := by
    intro u v hu hv
    rw [List.takeWhile_append_of_pos (List.all_eq_true.mp hu)]
    cases v with
    | nil => simp
    | cons c cs => simp [hv c rfl]
  have htext : text = text' := by
    rw [← htake h hrest, heq, htake h' hrest']
  subst htext
  exact ⟨rfl, List.append_cancel_left heq⟩

namespace Token

lemma Proper.text_eq (h : token.Proper) :
    ∃ c cs, token.text = c :: cs ∧ isGap c = false ∧ isWordChar c = token.isWord := by
  cases token with
  | sign c => exact ⟨c, [], rfl, (of_isSign h).1, (of_isSign h).2.1⟩
  | word w =>
    obtain ⟨c, cs, hw⟩ := List.exists_cons_of_ne_nil (Word.text_ne_nil h)
    have hall := List.all_eq_true.mp (Word.all_isWordChar h)
    have hc : isWordChar c := hall c (hw ▸ List.mem_cons_self)
    exact ⟨c, cs, hw, isGap_of_isWordChar hc, hc⟩
  | string s => exact ⟨'"', quoted s.toList, rfl, by decide, rfl⟩

lemma eq_of_text (h : token.Proper) (h' : token'.Proper)
    (hrest : token.isWord → ∀ c ∈ rest.head?, isWordChar c = false)
    (hrest' : token'.isWord → ∀ c ∈ rest'.head?, isWordChar c = false)
    (heq : token.text ++ rest = token'.text ++ rest') : token = token' ∧ rest = rest' := by
  have hkind : token.isWord = token'.isWord := by
    obtain ⟨c, cs, htext, -, hword⟩ := h.text_eq
    obtain ⟨c', cs', htext', -, hword'⟩ := h'.text_eq
    rw [htext, htext'] at heq
    rw [← hword, ← hword', (List.cons.inj heq).1]
  -- a word is longest, and a string ends at its quotation mark, so both texts end alike
  cases token <;> cases token' <;> try cases hkind
  case sign.sign c c' =>
    obtain ⟨rfl, hrest⟩ := List.cons.inj heq
    exact ⟨rfl, hrest⟩
  case word.word w w' =>
    obtain ⟨htext, hrest⟩ := eq_of_all (Word.all_isWordChar h) (Word.all_isWordChar h') (hrest rfl)
      (hrest' rfl) heq
    exact ⟨congrArg word (Word.eq_of_text h h' htext), hrest⟩
  case string.string s s' =>
    obtain ⟨htext, hrest⟩ := eq_of_quoted (List.cons.inj heq).2
    exact ⟨congrArg string (String.toList_inj.mp htext), hrest⟩
  case sign.string c s => exact absurd (List.cons.inj heq).1 (of_isSign h).2.2
  case string.sign s c => exact absurd (List.cons.inj heq).1.symm (of_isSign h').2.2

end Token

namespace Apart

lemma of_cons (h : Apart (token :: tokens)) : Apart tokens := (List.isChain_cons.mp h).2

lemma head (h : Apart (token :: tokens)) (hword : token.isWord) :
    ∀ next ∈ tokens.head?, !next.isWord := by
  intro next hnext
  simpa [hword] using (List.isChain_cons.mp h).1 next hnext

lemma append (h : Apart tokens) (h' : Apart tokens')
    (hfirst : ∀ token ∈ tokens'.head?, !token.isWord) : Apart (tokens ++ tokens') := by
  apply List.IsChain.append h h'
  intro a _ b hb
  simpa using Or.inr (hfirst b hb)

lemma sign (c : Char) (h : Apart tokens) : Apart (.sign c :: tokens) := by
  apply List.isChain_cons.mpr
  exact ⟨fun _ _ => rfl, h⟩

lemma string (s : String) (h : Apart tokens) : Apart (.string s :: tokens) := by
  apply List.isChain_cons.mpr
  exact ⟨fun _ _ => rfl, h⟩

end Apart

namespace Spells

lemma eq_nil (h : Spells tokens text) (hall : text.all isGap) : tokens = [] := by
  cases h with
  | gap => rfl
  | cons hgap hproper h =>
    obtain ⟨c, cs, htext, hc, -⟩ := hproper.text_eq
    simp [htext, hc] at hall

lemma head?_of_not_word (h : Spells tokens text) (hfirst : ∀ token ∈ tokens.head?, !token.isWord) :
    ∀ c ∈ text.head?, isWordChar c = false := by
  cases h with
  | gap hgap =>
    intro c hc
    exact isWordChar_of_isGap (List.all_eq_true.mp hgap c (List.mem_of_head? hc))
  | @cons gap text token tokens hgap hproper h =>
    obtain ⟨c, cs, htext, -, hword⟩ := hproper.text_eq
    cases gap with
    | nil => simpa [htext, hword] using hfirst token rfl
    | cons c' gap =>
      have hc' : isGap c' := List.all_eq_true.mp hgap c' List.mem_cons_self
      simpa using isWordChar_of_isGap hc'

/-- A text spells one list of tokens at most, if words stand apart. -/
theorem unique (h : Spells tokens text) (h' : Spells tokens' text) (hapart : Apart tokens)
    (hapart' : Apart tokens') : tokens = tokens' := by
  induction h generalizing tokens' with
  | gap hgap => exact (h'.eq_nil hgap).symm
  | @cons gap text token tokens hgap hproper h ih =>
    generalize heq : gap ++ token.text ++ text = whole at h'
    cases h' with
    | gap hgap' => exact (heq ▸ (Spells.cons hgap hproper h)).eq_nil hgap'
    | @cons gap' text' token' tokens' hgap' hproper' h' =>
      obtain ⟨c, cs, htext, hc, -⟩ := hproper.text_eq
      obtain ⟨c', cs', htext', hc', -⟩ := hproper'.text_eq
      have hbehind : token.text ++ text = token'.text ++ text' := by
        rw [List.append_assoc, List.append_assoc] at heq
        exact (eq_of_all hgap hgap' (by simp [htext, hc]) (by simp [htext', hc']) heq).2
      have hnext (hword : token.isWord) := h.head?_of_not_word (hapart.head hword)
      have hnext' (hword : token'.isWord) := h'.head?_of_not_word (hapart'.head hword)
      obtain ⟨rfl, rfl⟩ := Token.eq_of_text hproper hproper' hnext hnext' hbehind
      rw [ih h' hapart.of_cons hapart'.of_cons]

end Spells

end Text

/-! ## Texts behind one another -/

namespace Spells

variable {tokens tokens' : List Token} {text text' : List Char} {token : Token} {done s : String}

lemma append (h : Spells tokens text) (h' : Spells tokens' text') :
    Spells (tokens ++ tokens') (text ++ text') := by
  induction h with
  | gap hgap =>
    cases h' with
    | gap hgap' => exact .gap (by simp_all)
    | cons hgap' hproper h' =>
      rw [← List.append_assoc, ← List.append_assoc]
      exact .cons (by simp_all) hproper h'
  | cons hgap hproper h ih =>
    rw [List.append_assoc]
    exact .cons hgap hproper ih

lemma single (hproper : token.Proper) : Spells [token] token.text := by
  simpa using @Spells.cons [] [] token [] rfl hproper (@Spells.gap [] rfl)

lemma white (h : Spells tokens done.toList) (hs : s.toList.all isGap) :
    Spells tokens (done ++ s).toList := by
  simpa using h.append (.gap hs)

lemma sign (h : Spells tokens done.toList) (s : String) (c : Char) (hs : s.toList = [c])
    (hc : isSign c) : Spells (tokens ++ [.sign c]) (done ++ s).toList := by
  rw [String.toList_append, hs]
  exact h.append (single hc)

lemma word (h : Spells tokens done.toList) (w : Word) (hs : s.toList = w.text) (hw : w.Proper) :
    Spells (tokens ++ [.word w]) (done ++ s).toList := by
  rw [String.toList_append, hs]
  exact h.append (single hw)

lemma string (h : Spells tokens done.toList) (s : String) :
    Spells (tokens ++ [.string s]) (writeString done s).toList := by
  have hfold (cs : List Char) (done : String) :
      (cs.foldl (fun done c => done ++ writeChar c) done).toList =
        done.toList ++ cs.flatMap fun c => (writeChar c).toList := by
    induction cs generalizing done with
    | nil => simp
    | cons c cs ih => simp [ih]
  have htext : (writeString done s).toList = done.toList ++ (Token.string s).text := by
    simp [writeString, hfold, Token.text, Token.quoted]
  rw [htext]
  exact h.append (single trivial)

end Spells

end Checkup.Json
