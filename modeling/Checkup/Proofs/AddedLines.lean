import Checkup.Proofs.LineComments
import Checkup.Proofs.LineEndLanguage

/-!
# Languages and added lines

What a pattern matches in a text, it still matches when lines are added below, unless it asks for
the end of the text. Nearly all tests of a content only ask for such matches, so each of them still
fires for the longer text, and the first one to fire comes no later in the table. The test for a
module with types also asks that there is no `require(`. Where the added lines bring one, the next
test fires, which only looks for the module line.
-/

namespace Checkup

variable {text : List Char} {i j : Nat}

/-- At the end of the text a line feed comes behind instead of nothing, and this matters only to the
condition that nothing does. -/
lemma Assertion.holds_append_line {a : Assertion} (ha : a ≠ .textEnd) (hi : i ≤ text.length)
    (h : a.holds (Site.ofText text i).before (Site.ofText text i).after) (rest : List Char) :
    a.holds (Site.ofText (text ++ '\n' :: rest) i).before
      (Site.ofText (text ++ '\n' :: rest) i).after := by
  rw [Metrics.before_append_left _ _ hi]
  rcases Nat.eq_or_lt_of_le hi with rfl | hlt
  · have hend : (Site.ofText text text.length).after = none := by simp [Site.ofText]
    have hline : (Site.ofText (text ++ '\n' :: rest) text.length).after = some '\n' := by
      simp [Site.ofText]
    rw [hend] at h
    rw [hline]
    cases a with
    | textEnd => exact absurd rfl ha
    | lineEnd => rfl
    | _ => exact h
  · have hafter : (Site.ofText (text ++ '\n' :: rest) i).after = (Site.ofText text i).after :=
      List.getElem?_append_left hlt
    rwa [hafter]

/-- A part without a line feed lies on one side of it. -/
lemma infix_append_line_iff {part a b : List Char} (hpart : '\n' ∉ part) :
    part <:+: a ++ '\n' :: b ↔ part <:+: a ∨ part <:+: b := by
  constructor
  · rintro ⟨s, t, hjoin⟩
    rcases List.append_eq_append_iff.mp hjoin with ⟨c, ha, -⟩ | ⟨c, hfront, hback⟩
    · exact .inl ⟨s, c, ha.symm⟩
    cases c with
    | nil => exact .inl ⟨s, [], by rw [hfront, List.append_nil]; simp⟩
    | cons d c =>
      -- The line feed lies in front of the part, as it is not in it.
      obtain ⟨rfl, hb⟩ : '\n' = d ∧ b = c ++ t := List.cons_eq_cons.mp hback
      rcases List.append_eq_append_iff.mp hfront with ⟨e, -, he⟩ | ⟨e, -, he⟩
      · exact absurd (he ▸ by simp) hpart
      · cases e with
        | nil =>
          rw [List.nil_append] at he
          exact absurd (he ▸ by simp) hpart
        | cons _ e =>
          have hc : c = e ++ part := (List.cons_eq_cons.mp he).2
          exact .inr ⟨e, t, by rw [hb, hc]⟩
  · rintro (h | h)
    · exact h.trans (List.prefix_append a _).isInfix
    · exact h.trans ((List.suffix_cons _ b).trans (List.suffix_append a _)).isInfix

lemma Text.contains_iff_infix {part text : List Char} :
    Text.contains part text ↔ part <:+: text := by
  rw [Text.contains_iff, List.infix_iff_prefix_suffix]
  constructor
  · rintro ⟨i, -, h⟩
    exact ⟨text.drop i, h, List.drop_suffix i text⟩
  · rintro ⟨t, h, front, rfl⟩
    exact ⟨front.length, by simp, by simpa using h⟩

namespace Pattern

variable {r : Pattern}

/-- Where rounds end, they end with more room and with rounds that end at the same places. -/
lemma exists_mem_rounds {size size' : Nat} {greedy : Bool} {ways ways' : Nat → List Hit}
    (hsize : size ≤ size') (hways : ∀ i ≤ size, ∀ k ∈ ways i, ∃ k' ∈ ways' i, k'.stop = k.stop)
    {h : Hit} (hh : h ∈ rounds size greedy ways i) :
    i ≤ size → ∃ h' ∈ rounds size' greedy ways' i, h'.stop = h.stop := by
  refine rounds_induction (P := fun i h =>
    i ≤ size → ∃ h' ∈ rounds size' greedy ways' i, h'.stop = h.stop) ?_ ?_ hh
  · intro i _
    exact ⟨.stay i, mem_rounds.mpr (.inl rfl), rfl⟩
  · intro i k hk hlt hle l hl hi
    obtain ⟨k', hk', hstop⟩ := hways i hi k hk
    obtain ⟨l', hl', heq⟩ := hl hle
    rw [← hstop] at hl' hlt hle
    have hround : i < k'.stop ∧ k'.stop ≤ size' := ⟨hlt, Nat.le_trans hle hsize⟩
    exact ⟨k'.andThen l', mem_rounds.mpr (.inr ⟨k', hk', hround, l', hl', rfl⟩), heq⟩

/-- A repetition spans in another text what it spans in a text of which its rounds do. -/
lemma Spans.plus_mono {text' : List Char} {greedy : Bool} (hlen : text.length ≤ text'.length)
    (hr : ∀ i j, i ≤ text.length → r.Spans text i j → r.Spans text' i j) (hi : i ≤ text.length)
    (h : (plus greedy r).Spans text i j) : (plus greedy r).Spans text' i j := by
  have hways : ∀ i ≤ text.length, ∀ k ∈ r.ways text i, ∃ k' ∈ r.ways text' i, k'.stop = k.stop :=
    fun i hi k hk => hr i k.stop hi ⟨k, hk, rfl⟩
  obtain ⟨h, hh, rfl⟩ := h
  rw [ways, List.mem_flatMap] at hh
  obtain ⟨k, hk, hh⟩ := hh
  obtain ⟨k', hk', hstop⟩ := hways i hi k hk
  simp only [Spans, ways, List.mem_flatMap]
  split at hh
  · rename_i hempty
    obtain rfl := List.mem_singleton.mp hh
    refine ⟨k', ⟨k', hk', ?_⟩, hstop⟩
    rw [if_pos (hstop.trans hempty)]
    exact List.mem_singleton_self k'
  · rename_i hmoved
    obtain ⟨l, hl, rfl⟩ := List.mem_map.mp hh
    have hle : k.stop ≤ text.length := stop_le_length (mem_stops.mpr ⟨k, hk, rfl⟩) hi
    obtain ⟨l', hl', heq⟩ := exists_mem_rounds hlen hways hl hle
    refine ⟨k'.andThen l', ⟨k', hk', ?_⟩, heq⟩
    rw [if_neg (hstop ▸ hmoved), hstop]
    exact List.mem_map_of_mem hl'

/-- The pattern does not ask for the end of the text. -/
def ignoresEnd : Pattern → Bool
  | empty => true
  | char _ => true
  | look a => a != .textEnd
  | seq r s => r.ignoresEnd && s.ignoresEnd
  | alt r s => r.ignoresEnd && s.ignoresEnd
  | plus _ r => r.ignoresEnd
  | mark r => r.ignoresEnd

/-- What such a pattern matches in a text, it matches with lines added below. -/
theorem Spans.append_line (hr : r.ignoresEnd) (hi : i ≤ text.length) (h : r.Spans text i j)
    (rest : List Char) : r.Spans (text ++ '\n' :: rest) i j := by
  induction r generalizing i j with
  | empty =>
    rw [spans_empty] at h ⊢
    exact h
  | char s =>
    obtain ⟨⟨c, hc, hs⟩, rfl⟩ := spans_char.mp h
    have hlt := (List.getElem?_eq_some_iff.mp hc).1
    exact spans_char.mpr ⟨⟨c, (List.getElem?_append_left hlt).trans hc, hs⟩, rfl⟩
  | look a =>
    obtain ⟨hholds, rfl⟩ := spans_look.mp h
    have ha : a ≠ .textEnd := by simpa [ignoresEnd] using hr
    exact spans_look.mpr ⟨Assertion.holds_append_line ha hi hholds rest, rfl⟩
  | seq r s ihr ihs =>
    rw [ignoresEnd, Bool.and_eq_true] at hr
    obtain ⟨k, hrk, hks⟩ := spans_seq.mp h
    have hk := stop_le_length (mem_stops.mpr hrk) hi
    exact spans_seq.mpr ⟨k, ihr hr.1 hi hrk, ihs hr.2 hk hks⟩
  | alt r s ihr ihs =>
    rw [ignoresEnd, Bool.and_eq_true] at hr
    rcases spans_alt.mp h with h | h
    · exact spans_alt.mpr (.inl (ihr hr.1 hi h))
    · exact spans_alt.mpr (.inr (ihs hr.2 hi h))
  | plus greedy r ih =>
    apply h.plus_mono _ _ hi
    · simp
    · intro i j hi h
      exact ih hr hi h
  | mark r ih => exact spans_mark.mpr (ih hr hi (spans_mark.mp h))

end Pattern

namespace Heuristic
open Pattern

/-- The test still fires when lines are added below. -/
def Keeps (fires : List Char → Bool) : Prop := ∀ a b, fires a → fires (a ++ '\n' :: b)

lemma Keeps.occursIn {r : Pattern} (hr : r.ignoresEnd) : Keeps r.occursIn := by
  intro a b h
  obtain ⟨i, j, hi, h⟩ := occursIn_iff.mp h
  exact occursIn_iff.mpr ⟨i, j, by simp; omega, h.append_line hr hi b⟩

lemma Keeps.contains (part : List Char) : Keeps (Text.contains part) := by
  intro a b h
  rw [Text.contains_iff_infix] at h ⊢
  exact h.trans (List.prefix_append a _).isInfix

lemma Keeps.or {p q : List Char → Bool} (hp : Keeps p) (hq : Keeps q) :
    Keeps fun code => p code || q code := by
  intro a b h
  rw [Bool.or_eq_true] at h ⊢
  exact h.imp (hp a b) (hq a b)

/-- A module with types stays one, unless the added lines bring a `require(`. -/
lemma isTypedModule_join {a b : List Char} (h : isTypedModule a)
    (hb : ¬"require(".toList <:+: b) : isTypedModule (a ++ '\n' :: b) := by
  simp only [isTypedModule, Bool.and_eq_true, Bool.not_eq_true', ← Bool.not_eq_true,
    Text.contains_iff_infix] at h ⊢
  obtain ⟨⟨hline, ha⟩, htypes⟩ := h
  have hkeeps := ((Keeps.occursIn (r := typeImport) (by decide)).or
    (.occursIn (r := typedParameter) (by decide))).or (.occursIn (r := resultType) (by decide))
  refine ⟨⟨Keeps.occursIn (by decide) a b hline, ?_⟩, hkeeps a b htypes⟩
  rw [infix_append_line_iff (by decide)]
  exact not_or.mpr ⟨ha, hb⟩

/-- Of all tests only the second, for a module with types, can stop firing. -/
lemma keeps_fires {k : Nat} {test : Heuristic} (htest : table[k]? = some test) (hk : k ≠ 1) :
    Keeps test.fires := by
  have hmem : test ∈ table.eraseIdx 1 := by
    rw [List.mem_eraseIdx_iff_getElem?]
    exact ⟨k, hk, htest⟩
  simp only [table, List.eraseIdx_cons_succ, List.eraseIdx_cons_zero, List.mem_cons,
    List.not_mem_nil, or_false] at hmem
  rcases hmem with rfl | rfl | rfl | rfl | rfl | rfl | rfl | rfl | rfl
  · exact (Keeps.occursIn (by decide)).or (.occursIn (by decide))
  · exact .occursIn (by decide)
  · exact (Keeps.occursIn (by decide)).or (.occursIn (by decide))
  · exact (Keeps.occursIn (by decide)).or (.contains _)
  · exact (Keeps.occursIn (by decide)).or (.occursIn (by decide))
  · exact .occursIn (by decide)
  · exact .occursIn (by decide)
  · exact .occursIn (by decide)
  · exact .occursIn (by decide)

lemma fires_join {a b : List Char} {test : Heuristic} (htest : table[i]? = some test)
    (hfires : test.fires a) (hb : i = 1 → ¬"require(".toList <:+: b) :
    test.fires (a ++ '\n' :: b) := by
  by_cases hi : i = 1
  · subst hi
    obtain rfl : ⟨"module-syntax", .typescript, isTypedModule⟩ = test := Option.some.inj htest
    exact isTypedModule_join hfires (hb rfl)
  · exact keeps_fires htest hi a b hfires

/-- What the test for a module with types finds, the one for a plain module finds with any lines
added below. -/
lemma moduleLine_join {a b : List Char} (h : isTypedModule a) :
    moduleLine.occursIn (a ++ '\n' :: b) := by
  simp only [isTypedModule, Bool.and_eq_true] at h
  exact Keeps.occursIn (by decide) a b h.1.1

/-- The place in the table of the first test that a text passes. -/
def position? (code : String) : Option Nat := table.findIdx? (·.fires code.toList)

lemma fires_of_position? {code : String} {i : Nat} (h : position? code = some i) :
    ∃ test, table[i]? = some test ∧ test.fires code.toList := by
  obtain ⟨hlt, hfires, -⟩ := List.findIdx?_eq_some_iff_getElem.mp h
  exact ⟨table[i], List.getElem?_eq_getElem hlt, hfires⟩

/-- No test further down than one that fires decides. -/
lemma position?_le {code : String} {k : Nat} {test : Heuristic} (htest : table[k]? = some test)
    (hfires : test.fires code.toList) : ∃ j ≤ k, position? code = some j := by
  obtain ⟨hlt, rfl⟩ := List.getElem?_eq_some_iff.mp htest
  have hfind := List.findIdx?_eq_some_of_exists (p := fun test => test.fires code.toList)
    ⟨_, List.getElem_mem hlt, hfires⟩
  refine ⟨_, ?_, hfind⟩
  by_contra hle
  have hnot := List.not_of_lt_findIdx (Nat.not_le.mp hle)
  rw [hfires] at hnot
  exact absurd hnot (by decide)

lemma ofContent?_eq {code : String} {i : Nat} (h : position? code = some i) :
    Language.ofContent? code = table[i]? := by
  have hfind := (List.findIdx?_eq_some_iff_findIdx_eq.mp h).2
  rw [Language.ofContent?, List.find?_eq_getElem?_findIdx, hfind]

lemma isSome_ofContent? {code : String} {i : Nat} (h : position? code = some i) :
    (Language.ofContent? code).isSome := by
  obtain ⟨test, htest, -⟩ := fires_of_position? h
  rw [ofContent?_eq h, htest]
  rfl

/-- If a content decides at a place in the table, then lines added below make it decide there or
further up. Only lines with a `require(` in them can move the place down, from the module with types
to the plain one. -/
theorem position_of_added_lines {a b : String} {i : Nat} (h : position? a = some i) :
    ∃ j, position? (a ++ "\n" ++ b) = some j ∧
      Language.ofContent? a = table[i]? ∧ Language.ofContent? (a ++ "\n" ++ b) = table[j]? ∧
      (Language.ofContent? (a ++ "\n" ++ b)).isSome ∧
      (¬"require(".toList <:+: b.toList → j ≤ i) ∧
      (i < j → "require(".toList <:+: b.toList ∧
        table[i]? = some ⟨"module-syntax", .typescript, isTypedModule⟩ ∧
        table[j]? = some ⟨"module-syntax", .javascript, moduleLine.occursIn⟩) := by
  have htext : (a ++ "\n" ++ b).toList = a.toList ++ '\n' :: b.toList := by
    simp
  obtain ⟨test, htest, hfires⟩ := fires_of_position? h
  by_cases hloads : i = 1 ∧ "require(".toList <:+: b.toList
  · obtain ⟨rfl, hb⟩ := hloads
    obtain rfl : ⟨"module-syntax", .typescript, isTypedModule⟩ = test := Option.some.inj htest
    have hline : moduleLine.occursIn (a ++ "\n" ++ b).toList := by
      rw [htext]
      exact moduleLine_join hfires
    obtain ⟨j, hj, hposition⟩ := position?_le (k := 2) rfl hline
    refine ⟨j, hposition, ofContent?_eq h, ofContent?_eq hposition, isSome_ofContent? hposition,
      fun hnot => absurd hb hnot, fun hlt => ⟨hb, rfl, ?_⟩⟩
    obtain rfl : j = 2 := by omega
    rfl
  · have hkept : test.fires (a ++ "\n" ++ b).toList := by
      rw [htext]
      exact fires_join htest hfires fun hi hb => hloads ⟨hi, hb⟩
    obtain ⟨j, hj, hposition⟩ := position?_le htest hkept
    exact ⟨j, hposition, ofContent?_eq h, ofContent?_eq hposition, isSome_ofContent? hposition,
      fun _ => hj, fun hlt => absurd hj (Nat.not_le.mpr hlt)⟩

/-- A module with types, to which a call of `require` is added. -/
theorem position_of_added_lines_require :
    let a := "import type A from './a';"
    let b := "const fs = require('fs');"
    position? a = some 1 ∧ position? (a ++ "\n" ++ b) = some 2 ∧
      (Language.ofContent? (a ++ "\n" ++ b)).isSome ∧ "require(".toList <:+: b.toList := by
  intro a b
  have hpositions : position? a = some 1 ∧ position? (a ++ "\n" ++ b) = some 2 := by
    decide +kernel
  obtain ⟨j, hj, -, -, hsome, -, hdown⟩ := position_of_added_lines (b := b) hpositions.1
  obtain rfl : 2 = j := Option.some.inj (hpositions.2.symm.trans hj)
  exact ⟨hpositions.1, hpositions.2, hsome, (hdown (by decide)).1⟩

end Heuristic
end Checkup
