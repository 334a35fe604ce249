import Checkup.Proofs.Columns
import Checkup.Proofs.Stops

/-!
# Dangerous calls

The rules for dangerous calls look for the name of a function, not behind a word character, and the
parenthesis that opens its arguments. A match takes everything up to that parenthesis, or up to the
quote behind it, with it. Still no call is passed over: within a call the first letter of its name
stands behind word characters only, so no other call of the same form starts there.
-/

namespace Checkup
open Pattern

/-- A piece of a call: one of some texts, one of some characters, or white space, which may be
missing in a `blank` and not in a `gap`. -/
inductive Piece
  | oneOf (texts : List String)
  | sign (characters : String)
  | blank
  | gap
deriving DecidableEq, Repr

namespace Piece

/-- The piece stands in the line from `i` to `j`. -/
def Takes (text : List Char) (i j : Nat) : Piece → Prop
  | oneOf texts => ∃ t ∈ texts, t.toList <+: text.drop i ∧ j = i + t.length
  | sign characters => (CharSet.of characters).HoldsAt text i ∧ j = i + 1
  | blank => i ≤ j ∧ ∀ k, i ≤ k → k < j → CharSet.space.HoldsAt text k
  | gap => i < j ∧ ∀ k, i ≤ k → k < j → CharSet.space.HoldsAt text k

def pattern : Piece → Pattern
  | oneOf texts => Pattern.texts texts
  | sign characters => char (.of characters)
  | blank => spaces
  | gap => spaces₁

/-- The pieces stand one after another in the line from `i` to `j`. -/
def TakeAll (text : List Char) : List Piece → Nat → Nat → Prop
  | [], i, j => i = j
  | piece :: pieces, i, j => ∃ k, piece.Takes text i k ∧ TakeAll text pieces k j

end Piece

/-- The form of a call: the rule that reports it, the names that can start it, and what stands
behind these. -/
structure Call where
  id : String
  names : List String
  rest : List Piece
deriving DecidableEq, Repr

namespace Call

def all : List Call :=
  [⟨"no-eval", ["eval"], [.blank, .oneOf ["("]]⟩,
   ⟨"no-exec", ["exec"], [.blank, .oneOf ["("]]⟩,
   ⟨"no-new-function", ["new"], [.gap, .oneOf ["Function"], .blank, .oneOf ["("]]⟩,
   ⟨"no-implied-eval", ["setTimeout", "setInterval"],
    [.blank, .oneOf ["("], .blank, .sign "\"'`"]⟩,
   ⟨"no-document-write", ["document.write"], [.oneOf ["ln", ""], .blank, .oneOf ["("]]⟩,
   ⟨"no-pickle-load", ["pickle.load"], [.oneOf ["s", ""], .blank, .oneOf ["("]]⟩,
   ⟨"no-yaml-load", ["yaml.load"], [.blank, .oneOf ["("]]⟩]

def pieces (call : Call) : List Piece := .oneOf call.names :: call.rest

def pattern (call : Call) : Pattern := (call.pieces.map Piece.pattern).foldl seq wordEdge

end Call

/-- The character before `p` is a word character. -/
def WordBefore (text : List Char) (p : Nat) : Prop :=
  ∃ q c, q + 1 = p ∧ text[q]? = some c ∧ Unicode.isWord c

/-- The text from `p` on begins with such a call, and no word goes on there. -/
def Call.StartsAt (call : Call) (text : List Char) (p : Nat) : Prop :=
  ¬WordBefore text p ∧ ∃ j, Piece.TakeAll text call.pieces p j

variable {text : List Char} {i j k p q : Nat} {piece : Piece} {pieces : List Piece}

lemma wordBefore_iff : WordBefore text p ↔ isWordAt (Site.ofText text p).before := by
  simp only [isWordAt, Option.any_eq_true, Site.ofText]
  constructor
  · rintro ⟨q, c, rfl, hc, hword⟩
    exact ⟨c, by simpa using hc, hword⟩
  · rintro ⟨c, hc, hword⟩
    split at hc
    · exact absurd hc (by simp)
    · exact ⟨p - 1, c, by omega, hc, hword⟩

lemma wordEdge_holds_iff (hword : CharSet.word.HoldsAt text p) :
    Assertion.wordEdge.holds (Site.ofText text p).before (Site.ofText text p).after ↔
      ¬WordBefore text p := by
  have hafter : isWordAt (Site.ofText text p).after = true := CharSet.holdsAt_iff_any.mp hword
  rw [wordBefore_iff, Assertion.holds, hafter]
  simp

namespace Piece

lemma spans_texts (texts : List String) : (Pattern.texts texts).Spans text i j ↔
    ∃ t ∈ texts, t.toList <+: text.drop i ∧ j = i + t.length := by
  simp only [Pattern.texts, spans_choice, List.mem_map, exists_exists_and_eq_and, spans_text]

lemma spans_pattern : piece.pattern.Spans text i j ↔ piece.Takes text i j := by
  cases piece with
  | oneOf texts => exact spans_texts texts
  | sign characters => exact spans_char
  | blank => exact spans_zeroOrMore_char
  | gap => exact spans_oneOrMore_char

lemma spans_foldl (pieces : List Piece) (r : Pattern) :
    ((pieces.map Piece.pattern).foldl seq r).Spans text i j ↔
      ∃ k, r.Spans text i k ∧ TakeAll text pieces k j := by
  induction pieces generalizing r with
  | nil => simp [TakeAll]
  | cons piece pieces ih =>
    rw [List.map_cons, List.foldl_cons, ih]
    simp only [spans_seq, spans_pattern, TakeAll]
    constructor
    · rintro ⟨k, ⟨l, hr, hpiece⟩, hrest⟩
      exact ⟨l, hr, k, hpiece, hrest⟩
    · rintro ⟨l, hr, k, hpiece, hrest⟩
      exact ⟨k, ⟨l, hr, hpiece⟩, hrest⟩

lemma Takes.le (h : piece.Takes text i j) : i ≤ j := (spans_pattern.mpr h).le

lemma TakeAll.le (h : TakeAll text pieces i j) : i ≤ j := by
  induction pieces generalizing i with
  | nil => exact Nat.le_of_eq h
  | cons piece pieces ih =>
    obtain ⟨k, hpiece, hrest⟩ := h
    exact Nat.le_trans hpiece.le (ih hrest)

/-- From `start` on the piece has one of the heads only behind a word character. -/
def keepsApart (heads : List Char) (start : Nat) : Piece → Bool
  | oneOf texts => texts.all fun t => (List.range t.length).all fun d =>
      d < start || !t.toList[d]?.any heads.contains ||
        (d != 0 && t.toList[d - 1]?.any Unicode.isWord)
  | sign characters => characters.toList.all fun c => !heads.contains c
  | blank => heads.all fun c => !Unicode.isSpace c
  | gap => heads.all fun c => !Unicode.isSpace c

lemma not_space_of_head {heads : List Char} {c : Char} (h : heads.all fun c => !Unicode.isSpace c)
    (hhead : c ∈ heads) (hc : text[p]? = some c) : ¬CharSet.space.HoldsAt text p := by
  rintro ⟨d, hd, hspace⟩
  rw [hc, Option.some.injEq] at hd
  have hnot := List.all_eq_true.mp h c hhead
  rw [hd, Bool.not_eq_true'] at hnot
  exact Bool.false_ne_true (hnot.symm.trans hspace)

lemma Takes.wordBefore {heads : List Char} {start : Nat} {c : Char} (h : piece.Takes text i j)
    (hapart : piece.keepsApart heads start) (hp : i + start ≤ p) (hpj : p < j)
    (hc : text[p]? = some c) (hhead : c ∈ heads) : WordBefore text p := by
  cases piece with
  | oneOf texts =>
    obtain ⟨t, ht, hbegin, rfl⟩ := h
    rw [← String.length_toList] at hpj
    have hget := getElem?_of_prefix_drop hbegin (by omega : i ≤ p) hpj
    have hd := List.all_eq_true.mp (List.all_eq_true.mp hapart t ht) (p - i)
      (List.mem_range.mpr (by rw [← String.length_toList]; omega))
    simp only [← hget, hc, Option.any_some, List.contains_iff_mem.mpr hhead, Bool.not_true,
      Bool.or_false, Bool.or_eq_true, decide_eq_true_eq, Bool.and_eq_true, bne_iff_ne,
      Option.any_eq_true] at hd
    obtain ⟨hpos, e, he, hword⟩ := hd.resolve_left (by omega)
    refine ⟨p - 1, e, by omega, ?_, hword⟩
    rw [getElem?_of_prefix_drop hbegin (by omega : i ≤ p - 1) (by omega), ← he]
    congr 1
    omega
  | sign characters =>
    obtain ⟨⟨d, hd, hmem⟩, rfl⟩ := h
    obtain rfl : p = i := by omega
    rw [hc, Option.some.injEq] at hd
    rw [CharSet.of, CharSet.contains, List.contains_iff_mem] at hmem
    have hnot := List.all_eq_true.mp hapart d hmem
    rw [← hd, List.contains_iff_mem.mpr hhead] at hnot
    exact absurd hnot (by decide)
  | blank => exact absurd (h.2 p (by omega) hpj) (not_space_of_head hapart hhead hc)
  | gap => exact absurd (h.2 p (by omega) hpj) (not_space_of_head hapart hhead hc)

/-- Each character that the pieces take is one that some piece takes. -/
lemma TakeAll.exists_takes (h : TakeAll text pieces i j) (hip : i ≤ p) (hpj : p < j) :
    ∃ piece ∈ pieces, ∃ k l, piece.Takes text k l ∧ k ≤ p ∧ p < l := by
  induction pieces generalizing i with
  | nil =>
    obtain rfl : i = j := h
    omega
  | cons piece pieces ih =>
    obtain ⟨k, hpiece, hrest⟩ := h
    rcases Nat.lt_or_ge p k with hpk | hkp
    · exact ⟨piece, List.mem_cons_self, i, k, hpiece, hip, hpk⟩
    · obtain ⟨next, hnext, htakes⟩ := ih hrest hkp
      exact ⟨next, List.mem_cons_of_mem piece hnext, htakes⟩

lemma TakeAll.wordBefore {heads : List Char} {c : Char} (h : TakeAll text pieces i j)
    (hapart : pieces.all (·.keepsApart heads 0)) (hp : i ≤ p) (hpj : p < j)
    (hc : text[p]? = some c) (hhead : c ∈ heads) : WordBefore text p := by
  obtain ⟨piece, hpiece, k, l, htakes, hkp, hpl⟩ := h.exists_takes hp hpj
  exact htakes.wordBefore (List.all_eq_true.mp hapart piece hpiece) hkp hpl hc hhead

/-- The piece ends with a character, and that is no carriage return. -/
def closes : Piece → Bool
  | oneOf texts => texts.all fun t => t.toList.getLast?.any (· != '\r')
  | sign characters => characters.toList.all (· != '\r')
  | blank => false
  | gap => false

lemma Takes.last_ne (h : piece.Takes text i j) (hcloses : piece.closes) :
    i < j ∧ ∃ c, text[j - 1]? = some c ∧ c ≠ '\r' := by
  cases piece with
  | oneOf texts =>
    obtain ⟨t, ht, hbegin, rfl⟩ := h
    have hlast := List.all_eq_true.mp hcloses t ht
    simp only [Option.any_eq_true, List.getLast?_eq_getElem?, bne_iff_ne] at hlast
    obtain ⟨c, hc, hne⟩ := hlast
    have hlt := (List.getElem?_eq_some_iff.mp hc).1
    rw [← String.length_toList]
    refine ⟨by omega, c, ?_, hne⟩
    rw [getElem?_of_prefix_drop hbegin (by omega : i ≤ i + t.toList.length - 1) (by omega), ← hc]
    congr 1
    omega
  | sign characters =>
    obtain ⟨⟨c, hc, hmem⟩, rfl⟩ := h
    rw [CharSet.of, CharSet.contains, List.contains_iff_mem] at hmem
    exact ⟨Nat.lt_succ_self i, c, hc, bne_iff_ne.mp (List.all_eq_true.mp hcloses c hmem)⟩
  | blank => simp [closes] at hcloses
  | gap => simp [closes] at hcloses

lemma TakeAll.last_ne (h : TakeAll text pieces i j) (hcloses : pieces.getLast?.any closes) :
    i < j ∧ ∃ c, text[j - 1]? = some c ∧ c ≠ '\r' := by
  induction pieces generalizing i with
  | nil => simp at hcloses
  | cons piece pieces ih =>
    obtain ⟨k, hpiece, hrest⟩ := h
    cases pieces with
    | nil =>
      obtain rfl : k = j := hrest
      exact hpiece.last_ne (by simpa using hcloses)
    | cons next pieces =>
      have hlast := ih hrest (by simpa using hcloses)
      exact ⟨Nat.lt_of_le_of_lt hpiece.le hlast.1, hlast.2⟩

/-- What a piece takes does not depend on what the line has behind it. -/
lemma takes_append {rest : List Char} (hj : j ≤ text.length) :
    piece.Takes (text ++ rest) i j ↔ piece.Takes text i j := by
  have hholds {s : CharSet} {k : Nat} (hk : k < j) :
      s.HoldsAt (text ++ rest) k ↔ s.HoldsAt text k := by
    rw [CharSet.HoldsAt, CharSet.HoldsAt, List.getElem?_append_left (by omega)]
  cases piece with
  | oneOf texts =>
    refine exists_congr fun t => and_congr_right fun _ => and_congr_left fun hstop => ?_
    rw [List.drop_append]
    constructor
    · intro h
      refine List.prefix_of_prefix_length_le h (List.prefix_append _ _) ?_
      rw [List.length_drop, String.length_toList]
      omega
    · exact fun h => h.trans (List.prefix_append _ _)
  | sign characters => exact and_congr_left fun hstop => hholds (by omega)
  | blank =>
    exact and_congr_right fun _ => forall_congr' fun k => forall_congr' fun _ =>
      forall_congr' fun hk => hholds hk
  | gap =>
    exact and_congr_right fun _ => forall_congr' fun k => forall_congr' fun _ =>
      forall_congr' fun hk => hholds hk

lemma takeAll_append {rest : List Char} (hj : j ≤ text.length) :
    TakeAll (text ++ rest) pieces i j ↔ TakeAll text pieces i j := by
  induction pieces generalizing i with
  | nil => exact Iff.rfl
  | cons piece pieces ih =>
    refine exists_congr fun k => ?_
    rw [ih]
    exact and_congr_left fun hrest => takes_append (Nat.le_trans hrest.le hj)

end Piece
namespace Call

/-- The characters that a call of this form can start with. -/
def heads (call : Call) : List Char := call.names.filterMap (·.toList.head?)

/-- The names begin with word characters, one of the heads stands further on in a call only behind
a word character, and the last character is no carriage return. -/
def wellFormed (call : Call) : Bool :=
  call.names.all (fun t => t.toList.head?.any Unicode.isWord) &&
    (Piece.oneOf call.names).keepsApart call.heads 1 &&
    call.rest.all (·.keepsApart call.heads 0) && call.pieces.getLast?.any Piece.closes

variable {call : Call}

lemma exists_head (hcall : call.wellFormed) (h : Piece.TakeAll text call.pieces p j) :
    ∃ c ∈ call.heads, text[p]? = some c ∧ Unicode.isWord c := by
  simp only [wellFormed, Bool.and_eq_true] at hcall
  obtain ⟨k, ⟨t, ht, hbegin, -⟩, -⟩ := h
  obtain ⟨c, hc, hword⟩ := (Option.any_eq_true _ _).mp (List.all_eq_true.mp hcall.1.1.1 t ht)
  refine ⟨c, List.mem_filterMap.mpr ⟨t, ht, hc⟩, ?_, hword⟩
  rw [List.head?_eq_getElem?] at hc
  have hlt := (List.getElem?_eq_some_iff.mp hc).1
  rw [getElem?_of_prefix_drop hbegin (Nat.le_refl p) (by omega), Nat.sub_self, hc]

/-- The pattern matches a call where no word goes on. -/
lemma spans_pattern (hcall : call.wellFormed) : call.pattern.Spans text i j ↔
    ¬WordBefore text i ∧ Piece.TakeAll text call.pieces i j := by
  have hedge (h : Piece.TakeAll text call.pieces i j) :
      Assertion.wordEdge.holds (Site.ofText text i).before (Site.ofText text i).after ↔
        ¬WordBefore text i := by
    obtain ⟨c, -, hc, hword⟩ := exists_head hcall h
    exact wordEdge_holds_iff ⟨c, hc, hword⟩
  rw [pattern, Piece.spans_foldl]
  simp only [wordEdge, spans_look]
  constructor
  · rintro ⟨k, ⟨hholds, rfl⟩, htakes⟩
    exact ⟨(hedge htakes).mp hholds, htakes⟩
  · rintro ⟨hbefore, htakes⟩
    exact ⟨i, ⟨(hedge htakes).mpr hbefore, rfl⟩, htakes⟩

/-- No call starts inside another one of its form. -/
lemma not_startsAt_inside (hcall : call.wellFormed) (h : Piece.TakeAll text call.pieces i j)
    (hip : i < p) (hpj : p < j) : ¬call.StartsAt text p := by
  rintro ⟨hbefore, l, htakes⟩
  obtain ⟨c, hhead, hc, -⟩ := exists_head hcall htakes
  simp only [wellFormed, Bool.and_eq_true] at hcall
  obtain ⟨k, hname, hrest⟩ := h
  refine hbefore ?_
  rcases Nat.lt_or_ge p k with hpk | hkp
  · exact hname.wordBefore hcall.1.1.2 hip hpk hc hhead
  · exact hrest.wordBefore hcall.1.2 hkp hpj hc hhead

lemma pieces_lt (hcall : call.wellFormed) (h : Piece.TakeAll text call.pieces i j) :
    i < j ∧ ∃ c, text[j - 1]? = some c ∧ c ≠ '\r' := by
  rw [wellFormed, Bool.and_eq_true] at hcall
  exact h.last_ne hcall.2

/-- The matches of the pattern start where calls do, and at all of these places. -/
theorem exists_mem_matchesIn_iff (hcall : call.wellFormed) (p : Nat) :
    (∃ m ∈ call.pattern.matchesIn text, m.start = p) ↔ call.StartsAt text p := by
  constructor
  · rintro ⟨m, hm, rfl⟩
    obtain ⟨hbefore, htakes⟩ := (spans_pattern hcall).mp (spans_of_mem_matchesIn hm)
    exact ⟨hbefore, m.stop, htakes⟩
  · intro hstarts
    obtain ⟨hbefore, j, htakes⟩ := hstarts
    obtain ⟨c, -, hc, -⟩ := exists_head hcall htakes
    have hempty : ¬call.pattern.Spans text p p := fun h =>
      Nat.lt_irrefl p (pieces_lt hcall ((spans_pattern hcall).mp h).2).1
    obtain ⟨m, hm, hle, hlt⟩ := ((spans_pattern hcall).mpr ⟨hbefore, htakes⟩).exists_mem_matchesIn
      (List.getElem?_eq_some_iff.mp hc).1 hempty
    obtain ⟨-, hm'⟩ := (spans_pattern hcall).mp (spans_of_mem_matchesIn hm)
    refine ⟨m, hm, ?_⟩
    -- A match that has the call in it and starts before it would be a call with another one inside.
    by_contra hne
    exact not_startsAt_inside hcall hm' (by omega) hlt ⟨hbefore, j, htakes⟩

lemma startsAt_dropReturn (hcall : call.wellFormed) (text : List Char) :
    call.StartsAt (Text.dropReturn text) p ↔ call.StartsAt text p := by
  have hreturn : Unicode.isWord '\r' = false := by decide
  have hbefore : WordBefore (Text.dropReturn text) p ↔ WordBefore text p := by
    refine exists_congr fun q => exists_congr fun c => and_congr_right fun _ => ?_
    refine and_congr_left fun hword => Text.getElem?_dropReturn text ?_ q
    rintro rfl
    exact Bool.false_ne_true (hreturn.symm.trans hword)
  refine and_congr (not_congr hbefore) (exists_congr fun j => ?_)
  rw [Text.dropReturn]
  split
  · rename_i hlast
    obtain ⟨init, rfl⟩ := List.getLast?_eq_some_iff.mp hlast
    rw [List.dropLast_concat]
    -- A call ends before the carriage return.
    constructor
    · intro h
      obtain ⟨hlt, c, hc, -⟩ := pieces_lt hcall h
      have := (List.getElem?_eq_some_iff.mp hc).1
      exact (Piece.takeAll_append (by omega)).mpr h
    · intro h
      obtain ⟨hlt, c, hc, hne⟩ := pieces_lt hcall h
      refine (Piece.takeAll_append ?_).mp h
      by_contra hle
      rw [List.getElem?_append_right (by omega), List.getElem?_singleton] at hc
      split at hc
      · exact hne (Option.some.inj hc).symm
      · exact absurd hc (by simp)
  · rfl

lemma matchesIn_pairwise_start (hcall : call.wellFormed) (text : List Char) :
    (call.pattern.matchesIn text).Pairwise fun m m' => m.start < m'.start := by
  refine (matchesIn_pairwise call.pattern text).imp_of_mem ?_
  intro m m' hm _ hle
  have htakes := ((spans_pattern hcall).mp (spans_of_mem_matchesIn hm)).2
  have hlt := (pieces_lt hcall htakes).1
  omega

end Call

namespace Finding

variable {call : Call} {language : Language} {code : String} {line : List Char}

lemma builtin_call (hcall : call ∈ Call.all) {rule : Rule}
    (hrule : rule ∈ Catalog.builtin.rulesFor language) (hid : rule.id = call.id) :
    rule.pattern = call.pattern ∧ rule.exemption = none := by
  have hall : ∀ call ∈ Call.all, ∀ rule ∈ Rule.all, rule.id = call.id →
      rule.pattern = call.pattern ∧ rule.exemption = none := by
    decide +kernel
  exact hall call hcall rule (Rule.mem_all_of_mem_builtin hrule) hid

lemma columnsOf_eq_starts (hcall : call ∈ Call.all)
    (hrule : ∃ rule ∈ Catalog.builtin.rulesFor language, rule.id = call.id)
    (hline : (code.toList.splitOn '\n')[k]? = some line) :
    columnsOf call.id (k + 1) (scan .builtin code language) =
      (call.pattern.matchesIn (Text.dropReturn line)).map (·.start + 1) := by
  have hmark : ∀ call ∈ Call.all, call.pattern.markFree := by decide
  rw [columnsOf_builtin hline hrule fun _ => builtin_call hcall]
  refine List.map_congr_left fun m hm => ?_
  rw [anchor_of_markFree (hmark call hcall) hm]

/-- In a line of a text, the rule for a form of call reports exactly the places where such a call
starts, each once and from left to right. -/
theorem columnsOf_call (call : Call) (hcall : call ∈ Call.all) (language : Language)
    (hrule : ∃ rule ∈ Catalog.builtin.rulesFor language, rule.id = call.id) (code : String)
    (k : Nat) (line : List Char) (hline : (code.toList.splitOn '\n')[k]? = some line) :
    let columns := columnsOf call.id (k + 1) (scan .builtin code language)
    (∀ column, column ∈ columns ↔ ∃ p, column = p + 1 ∧ call.StartsAt line p) ∧
      columns.Pairwise (· < ·) := by
  intro columns
  have hforms : ∀ call ∈ Call.all, call.wellFormed := by decide +kernel
  have hwell := hforms call hcall
  have hcolumns : columns = _ := columnsOf_eq_starts hcall hrule hline
  rw [hcolumns]
  constructor
  · intro column
    simp only [← Call.startsAt_dropReturn hwell line, ← Call.exists_mem_matchesIn_iff hwell,
      List.mem_map]
    constructor
    · rintro ⟨m, hm, rfl⟩
      exact ⟨m.start, rfl, m, hm, rfl⟩
    · rintro ⟨p, rfl, m, hm, rfl⟩
      exact ⟨m, hm, rfl⟩
  · rw [List.pairwise_map]
    exact (Call.matchesIn_pairwise_start hwell _).imp Nat.succ_lt_succ

/-- A call in the arguments of another one is reported, and what ends like a call is not. -/
theorem columnsOf_call_nested :
    let call : Call := ⟨"no-eval", ["eval"], [.blank, .oneOf ["("]]⟩
    let code := "import os\r\neval(eval (1)) + xeval(2)\r\n"
    let line := "eval(eval (1)) + xeval(2)\r".toList
    let columns := columnsOf call.id 2 (scan .builtin code .python)
    call ∈ Call.all ∧ (∃ rule ∈ Catalog.builtin.rulesFor .python, rule.id = call.id) ∧
      (code.toList.splitOn '\n')[1]? = some line ∧ call.StartsAt line 5 ∧ 6 ∈ columns ∧
      19 ∉ columns ∧ columns.Pairwise (· < ·) := by
  intro call code line columns
  have hrule : ∃ rule ∈ Catalog.builtin.rulesFor .python, rule.id = call.id := by decide
  have hline : (code.toList.splitOn '\n')[1]? = some line := by decide +kernel
  obtain ⟨hiff, hpairwise⟩ := columnsOf_call call (by decide) .python hrule code 1 line hline
  have hinner : call.StartsAt line 5 := by
    refine ⟨?_, 11, 9, ⟨"eval", by decide, by decide, rfl⟩, 10, ⟨by decide, ?_⟩, 11,
      ⟨"(", by decide, by decide, rfl⟩, rfl⟩
    · rw [wordBefore_iff]
      decide
    · intro k hk hlt
      obtain rfl : k = 9 := by omega
      exact ⟨' ', by decide, by decide⟩
  have houter : ¬call.StartsAt line 18 := fun h => h.1 ⟨17, 'x', rfl, by decide, by decide⟩
  refine ⟨by decide, hrule, hline, hinner, (hiff 6).mpr ⟨5, rfl, hinner⟩, fun h => ?_, hpairwise⟩
  obtain ⟨p, hp, hstarts⟩ := (hiff 19).mp h
  obtain rfl : p = 18 := by omega
  exact houter hstarts

end Finding
end Checkup
