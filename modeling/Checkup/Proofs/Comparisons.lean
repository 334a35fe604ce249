import Checkup.Proofs.Columns
import Checkup.Proofs.Stops

/-!
# Loose comparisons

The rules for loose comparisons look at one character on each side of a sign, and a match takes
these characters with it. So a sign that stands alone is reported unless the character before it
went to the sign before that one: from left to right, a reported sign hides the sign three places
further on, and no other.
-/

namespace Checkup
open Pattern

/-- A loose comparison: the rule that reports it, the first character of its sign, of which the
other one is an equals sign, and the characters that stand before a longer sign. -/
structure Comparison where
  id : String
  first : Char
  guards : String
deriving DecidableEq, Repr

namespace Comparison

def all : List Comparison := [⟨"eqeqeq", '=', "=!<>"⟩, ⟨"no-loose-inequality", '!', "=!"⟩]

/-- Signs that are longer than a loose comparison and have one in them. -/
def longer : List String := ["===", "!==", "<==", ">==", "!!="]

def sign (c : Comparison) : String := String.ofList [c.first, '=']

/-- The sign stands at `p`, and neither a guard before it nor an equals sign behind it. -/
structure IsolatedAt (c : Comparison) (text : List Char) (p : Nat) : Prop where
  first : text[p]? = some c.first
  equals : text[p + 1]? = some '='
  before : ¬∃ q, q + 1 = p ∧ ∃ g ∈ c.guards.toList, text[q]? = some g
  behind : text[p + 2]? ≠ some '='

def pattern (c : Comparison) : Pattern := Rule.bareComparison c.sign c.guards

/-- A match of the pattern shows the sign at `p`. -/
def ShownAt (c : Comparison) (text : List Char) (p : Nat) : Prop :=
  ∃ m ∈ c.pattern.matchesIn text, m.anchor = p

variable {c : Comparison} {text : List Char} {p i j : Nat}

lemma isolatedAt_iff : c.IsolatedAt text p ↔
    (text[p]? = some c.first ∧ text[p + 1]? = some '=' ∧ text[p + 2]? ≠ some '=') ∧
      ¬(p ≠ 0 ∧ text[p - 1]?.any c.guards.toList.contains) := by
  simp only [Option.any_eq_true, List.contains_iff_mem]
  constructor
  · rintro ⟨hfirst, hequals, hbefore, hbehind⟩
    refine ⟨⟨hfirst, hequals, hbehind⟩, ?_⟩
    rintro ⟨hp, g, hget, hg⟩
    exact hbefore ⟨p - 1, by omega, g, hg, hget⟩
  · rintro ⟨⟨hfirst, hequals, hbehind⟩, hbefore⟩
    refine ⟨hfirst, hequals, ?_, hbehind⟩
    rintro ⟨q, rfl, g, hg, hget⟩
    exact hbefore ⟨Nat.succ_ne_zero q, g, hget, hg⟩

instance : Decidable (c.IsolatedAt text p) := decidable_of_iff' _ isolatedAt_iff

lemma text_sign (c : Comparison) :
    Pattern.text c.sign = seq (char (.one c.first)) (char (.one '=')) := by
  rw [Pattern.text, sign, String.toList_ofList]
  rfl

lemma spans_sign : (Pattern.text c.sign).Spans text i j ↔
    (text[i]? = some c.first ∧ text[i + 1]? = some '=') ∧ j = i + 2 := by
  simp only [text_sign, spans_seq, spans_char, CharSet.holdsAt_one]
  constructor
  · rintro ⟨_, ⟨hfirst, rfl⟩, hequals, rfl⟩
    exact ⟨⟨hfirst, hequals⟩, rfl⟩
  · rintro ⟨⟨hfirst, hequals⟩, rfl⟩
    exact ⟨i + 1, ⟨hfirst, rfl⟩, hequals, rfl⟩

lemma holdsAt_allBut {guards : String} : (CharSet.allBut guards).HoldsAt text i ↔
    i < text.length ∧ ¬∃ g ∈ guards.toList, text[i]? = some g := by
  have hcontains (d : Char) : (CharSet.allBut guards).contains d ↔ d ∉ guards.toList := by
    simp [CharSet.allBut, CharSet.of, CharSet.contains]
  constructor
  · rintro ⟨d, hd, hguards⟩
    refine ⟨(List.getElem?_eq_some_iff.mp hd).1, ?_⟩
    rintro ⟨g, hg, hline⟩
    rw [hd, Option.some.injEq] at hline
    exact (hcontains d).mp hguards (hline ▸ hg)
  · rintro ⟨hlt, hnone⟩
    have hd := List.getElem?_eq_getElem hlt
    exact ⟨_, hd, (hcontains _).mpr fun hmem => hnone ⟨_, hmem, hd⟩⟩

lemma spans_before (hj : j < text.length) {guards : String} :
    (look .textStart ||| char (.allBut guards) : Pattern).Spans text i j ↔
      (i = 0 ∧ j = 0) ∨ (i + 1 = j ∧ ¬∃ g ∈ guards.toList, text[i]? = some g) := by
  have halt : (look .textStart ||| char (.allBut guards) : Pattern) =
      alt (look .textStart) (char (.allBut guards)) := rfl
  rw [halt, spans_alt, spans_look, spans_char, holdsAt_allBut]
  refine or_congr ?_ ?_
  · constructor
    · rintro ⟨hstart, rfl⟩
      have hzero : j = 0 := by
        by_contra hne
        have hlt : j - 1 < text.length := by omega
        simp [Assertion.holds, Site.ofText, hne, hlt] at hstart
      exact ⟨hzero, hzero⟩
    · rintro ⟨rfl, rfl⟩
      exact ⟨rfl, rfl⟩
  · constructor
    · rintro ⟨⟨-, hguards⟩, rfl⟩
      exact ⟨rfl, hguards⟩
    · rintro ⟨rfl, hguards⟩
      exact ⟨⟨by omega, hguards⟩, rfl⟩

lemma spans_behind (hi : i ≤ text.length) :
    (char (.allBut "=") ||| look .textEnd : Pattern).Spans text i j ↔
      text[i]? ≠ some '=' ∧ ((i < text.length ∧ j = i + 1) ∨ (i = text.length ∧ j = i)) := by
  have halt : (char (.allBut "=") ||| look .textEnd : Pattern) =
      alt (char (.allBut "=")) (look .textEnd) := rfl
  have hequals : (∃ g ∈ "=".toList, text[i]? = some g) ↔ text[i]? = some '=' := by simp
  have hend : Assertion.textEnd.holds (Site.ofText text i).before (Site.ofText text i).after ↔
      text.length ≤ i := by
    simp [Assertion.holds, Site.ofText]
  rw [halt, spans_alt, spans_look, spans_char, holdsAt_allBut, hequals, hend]
  constructor
  · rintro (⟨⟨hlt, hne⟩, rfl⟩ | ⟨hle, rfl⟩)
    · exact ⟨hne, .inl ⟨hlt, rfl⟩⟩
    · refine ⟨?_, .inr ⟨by omega, rfl⟩⟩
      rw [List.getElem?_eq_none hle]
      simp
  · rintro ⟨hne, ⟨hlt, rfl⟩ | ⟨rfl, rfl⟩⟩
    · exact .inl ⟨⟨hlt, hne⟩, rfl⟩
    · exact .inr ⟨Nat.le_refl _, rfl⟩

/-- What is shown is an isolated sign. The match takes the characters on its two sides, where the
line has them. -/
lemma isolatedAt_of_mem {m : Match} (hm : m ∈ c.pattern.matchesIn text) :
    c.IsolatedAt text m.anchor ∧ m.start = m.anchor - 1 ∧
      m.stop = min (m.anchor + 3) text.length := by
  obtain ⟨s, e, hmarked, hbefore, hsign, hbehind⟩ :=
    mem_matchesIn_around_mark (by rfl) (by rw [text_sign]; rfl) (by rfl) hm
  obtain rfl : m.anchor = s := by rw [Match.anchor, hmarked]; rfl
  obtain ⟨⟨hfirst, hequals⟩, rfl⟩ := spans_sign.mp hsign
  have hlt := (List.getElem?_eq_some_iff.mp hequals).1
  obtain ⟨hne, hstop⟩ := (spans_behind (by omega)).mp hbehind
  have hstart := (spans_before (by omega)).mp hbefore
  refine ⟨⟨hfirst, hequals, ?_, hne⟩, by omega, by omega⟩
  rintro ⟨q, hq, hguards⟩
  rcases hstart with ⟨-, hzero⟩ | ⟨hnext, hnone⟩
  · omega
  · obtain rfl : m.start = q := by omega
    exact hnone hguards

lemma IsolatedAt.exists_spans (h : c.IsolatedAt text p) : ∃ j, c.pattern.Spans text (p - 1) j := by
  have hlt := (List.getElem?_eq_some_iff.mp h.equals).1
  have hbefore : (look .textStart ||| char (.allBut c.guards) : Pattern).Spans text (p - 1) p := by
    refine (spans_before (by omega)).mpr ?_
    rcases Nat.eq_zero_or_pos p with rfl | hpos
    · exact .inl ⟨rfl, rfl⟩
    · refine .inr ⟨by omega, fun hguards => h.before ⟨p - 1, by omega, hguards⟩⟩
  have hsign : (mark (Pattern.text c.sign)).Spans text p (p + 2) :=
    spans_mark.mpr (spans_sign.mpr ⟨⟨h.first, h.equals⟩, rfl⟩)
  have hbehind : (char (.allBut "=") ||| look .textEnd : Pattern).Spans text (p + 2)
      (min (p + 3) text.length) := (spans_behind (by omega)).mpr ⟨h.behind, by omega⟩
  exact ⟨_, spans_seq.mpr ⟨p + 2, spans_seq.mpr ⟨p, hbefore, hsign⟩, hbehind⟩⟩

/-- The characters of the sign are guards, so no isolated sign stands right behind another or in
it. -/
lemma IsolatedAt.apart (h : c.IsolatedAt text p) (hi : c.IsolatedAt text i)
    (hguards : c.first ∈ c.guards.toList ∧ '=' ∈ c.guards.toList) : p ≠ i + 1 ∧ p ≠ i + 2 :=
  ⟨fun heq => h.before ⟨i, heq.symm, _, hguards.1, hi.first⟩,
    fun heq => h.before ⟨i + 1, heq.symm, _, hguards.2, hi.equals⟩⟩

/-- A sign is shown if it is isolated and the one three places before it is not shown. -/
theorem shownAt_iff (hguards : c.first ∈ c.guards.toList ∧ '=' ∈ c.guards.toList) (p : Nat) :
    c.ShownAt text p ↔ c.IsolatedAt text p ∧ ¬∃ q, q + 3 = p ∧ c.ShownAt text q := by
  constructor
  · rintro ⟨m, hm, rfl⟩
    obtain ⟨hisolated, hstart, hstop⟩ := isolatedAt_of_mem hm
    refine ⟨hisolated, ?_⟩
    -- The match three places before would have taken the character that this one starts with.
    rintro ⟨q, hq, k, hk, rfl⟩
    obtain ⟨-, hstart', hstop'⟩ := isolatedAt_of_mem hk
    have hlt := (List.getElem?_eq_some_iff.mp hisolated.equals).1
    rcases eq_or_apart (matchesIn_pairwise c.pattern text) hk hm with rfl | hle | hle <;> omega
  · rintro ⟨hisolated, hnone⟩
    obtain ⟨j, hj⟩ := hisolated.exists_spans
    have hlt := (List.getElem?_eq_some_iff.mp hisolated.equals).1
    have hconsumes : c.pattern.consumes := by
      rw [pattern, Rule.bareComparison, text_sign]
      rfl
    obtain ⟨m, hm, hle, hstop⟩ := hj.exists_mem_matchesIn (by omega)
      fun hempty => Nat.lt_irrefl _ (hempty.lt hconsumes)
    obtain ⟨hisolated', hstart', hstop'⟩ := isolatedAt_of_mem hm
    have hapart := hisolated.apart hisolated' hguards
    have hapart' := hisolated'.apart hisolated hguards
    have hthird : m.anchor + 3 ≠ p := fun heq => hnone ⟨m.anchor, heq, m, hm, rfl⟩
    exact ⟨m, hm, by omega⟩

lemma isolatedAt_dropReturn (hc : c ∈ all) (text : List Char) :
    c.IsolatedAt (Text.dropReturn text) p ↔ c.IsolatedAt text p := by
  have hreturn : ∀ c ∈ all, c.first ≠ '\r' ∧ '\r' ∉ c.guards.toList := by decide
  obtain ⟨hfirst, hguards⟩ := hreturn c hc
  have hget {d : Char} (hd : d ≠ '\r') (i : Nat) := Text.getElem?_dropReturn text hd i
  have hbefore : (∃ q, q + 1 = p ∧ ∃ g ∈ c.guards.toList, (Text.dropReturn text)[q]? = some g) ↔
      ∃ q, q + 1 = p ∧ ∃ g ∈ c.guards.toList, text[q]? = some g :=
    exists_congr fun q => and_congr_right fun _ => exists_congr fun g =>
      and_congr_right fun hg => hget (ne_of_mem_of_not_mem hg hguards) q
  constructor
  · rintro ⟨h₁, h₂, h₃, h₄⟩
    exact ⟨(hget hfirst p).mp h₁, (hget (by decide) _).mp h₂, mt hbefore.mpr h₃,
      mt (hget (by decide) _).mpr h₄⟩
  · rintro ⟨h₁, h₂, h₃, h₄⟩
    exact ⟨(hget hfirst p).mpr h₁, (hget (by decide) _).mpr h₂, mt hbefore.mp h₃,
      mt (hget (by decide) _).mp h₄⟩

/-- What a sign has at its place `d` and around it leaves no isolated comparison there. -/
def excludedIn (c : Comparison) (sign : List Char) (d : Nat) : Bool :=
  sign[d]? != some c.first || sign[d + 1]?.any (· != '=') || sign[d + 2]? == some '=' ||
    (d != 0 && sign[d - 1]?.any c.guards.toList.contains)

lemma not_isolatedAt_of_excludedIn {sign : List Char} {d : Nat} (hsign : sign <+: text.drop p)
    (hd : d < sign.length) (h : c.excludedIn sign d) : ¬c.IsolatedAt text (p + d) := by
  have hget {i : Nat} {e : Char} (he : sign[i]? = some e) : text[p + i]? = some e := by
    have hlt := (List.getElem?_eq_some_iff.mp he).1
    rw [getElem?_of_prefix_drop hsign (by omega : p ≤ p + i) (by omega), Nat.add_sub_cancel_left]
    exact he
  rintro ⟨hfirst, hequals, hbefore, hbehind⟩
  simp only [excludedIn, Bool.or_eq_true, Bool.and_eq_true, bne_iff_ne, beq_iff_eq,
    Option.any_eq_true, List.contains_iff_mem] at h
  rcases h with ((h | ⟨e, he, hne⟩) | h) | ⟨hpos, e, he, hguard⟩
  · refine h ?_
    rw [List.getElem?_eq_getElem hd, ← hget (List.getElem?_eq_getElem hd), hfirst]
  · rw [Nat.add_assoc, hget he, Option.some.injEq] at hequals
    exact hne hequals
  · rw [Nat.add_assoc, hget h] at hbehind
    exact hbehind rfl
  · exact hbefore ⟨p + (d - 1), by omega, e, hguard, hget he⟩

lemma not_isolatedAt_longer (hc : c ∈ all) {sign : String} (hsign : sign ∈ longer)
    (hline : sign.toList <+: text.drop p) {q : Nat} (hpq : p ≤ q) (hq : q < p + sign.length) :
    ¬c.IsolatedAt text q := by
  have hexcluded : ∀ c ∈ all, ∀ sign ∈ longer, ∀ d < sign.toList.length,
      c.excludedIn sign.toList d := by decide
  have hlt : q - p < sign.toList.length := by
    rw [String.length_toList]
    omega
  have hnot := not_isolatedAt_of_excludedIn hline hlt (hexcluded c hc sign hsign _ hlt)
  rwa [Nat.add_sub_cancel' hpq] at hnot

end Comparison

namespace Finding

open Comparison

variable {c : Comparison} {language : Language} {code : String} {k p : Nat} {line : List Char}

lemma builtin_comparison (hc : c ∈ all) {rule : Rule}
    (hrule : rule ∈ Catalog.builtin.rulesFor language) (hid : rule.id = c.id) :
    rule.pattern = c.pattern ∧ rule.exemption = none := by
  have hall : ∀ c ∈ all, ∀ rule ∈ Rule.all, rule.id = c.id →
      rule.pattern = c.pattern ∧ rule.exemption = none := by
    decide +kernel
  exact hall c hc rule (Rule.mem_all_of_mem_builtin hrule) hid

lemma columnsOf_eq_anchors (hc : c ∈ all)
    (hrule : ∃ rule ∈ Catalog.builtin.rulesFor language, rule.id = c.id)
    (hline : (code.toList.splitOn '\n')[k]? = some line) :
    columnsOf c.id (k + 1) (scan .builtin code language) =
      (c.pattern.matchesIn (Text.dropReturn line)).map (·.anchor + 1) :=
  columnsOf_builtin hline hrule fun _ => builtin_comparison hc

lemma mem_columnsOf_iff (hc : c ∈ all)
    (hrule : ∃ rule ∈ Catalog.builtin.rulesFor language, rule.id = c.id)
    (hline : (code.toList.splitOn '\n')[k]? = some line) :
    p + 1 ∈ columnsOf c.id (k + 1) (scan .builtin code language) ↔
      c.ShownAt (Text.dropReturn line) p := by
  rw [columnsOf_eq_anchors hc hrule hline, List.mem_map]
  exact exists_congr fun m => and_congr_right fun _ => Nat.succ_inj

/-- In a line of a text, the rule for a loose comparison reports exactly the isolated signs that
have no reported sign three places before them, at their first character. So it reports no part of
a longer sign, and passes an isolated sign over only behind a reported one that a single character
keeps apart from it. -/
theorem columnsOf_comparison (c : Comparison) (hc : c ∈ all) (language : Language)
    (hrule : ∃ rule ∈ Catalog.builtin.rulesFor language, rule.id = c.id) (code : String) (k : Nat)
    (line : List Char) (hline : (code.toList.splitOn '\n')[k]? = some line) :
    let columns := columnsOf c.id (k + 1) (scan .builtin code language)
    (∀ column ∈ columns, ∃ p, column = p + 1) ∧
      (∀ p, p + 1 ∈ columns ↔ c.IsolatedAt line p ∧ ¬∃ q, q + 3 = p ∧ q + 1 ∈ columns) ∧
      (∀ sign ∈ longer, ∀ p q, sign.toList <+: line.drop p → p ≤ q → q < p + sign.length →
        q + 1 ∉ columns) ∧
      ∀ p, c.IsolatedAt line p → p + 1 ∉ columns → ∃ q, q + 3 = p ∧ q + 1 ∈ columns := by
  intro columns
  have hguards : ∀ c ∈ all, c.first ∈ c.guards.toList ∧ '=' ∈ c.guards.toList := by decide
  have hiff (p : Nat) :
      p + 1 ∈ columns ↔ c.IsolatedAt line p ∧ ¬∃ q, q + 3 = p ∧ q + 1 ∈ columns := by
    simp only [columns, mem_columnsOf_iff hc hrule hline, ← isolatedAt_dropReturn hc line]
    exact shownAt_iff (hguards c hc) p
  refine ⟨?_, hiff, ?_, ?_⟩
  · intro column hcolumn
    have hcolumns : columns = _ := columnsOf_eq_anchors hc hrule hline
    rw [hcolumns, List.mem_map] at hcolumn
    obtain ⟨m, -, rfl⟩ := hcolumn
    exact ⟨m.anchor, rfl⟩
  · intro sign hsign p q hbegin hpq hq hmem
    exact not_isolatedAt_longer hc hsign hbegin hpq hq ((hiff q).mp hmem).1
  · intro p hisolated hnot
    by_contra hnone
    exact hnot ((hiff p).mpr ⟨hisolated, hnone⟩)

/-- The second sign of the line is isolated, but the first one, which is reported, hides it. -/
theorem columnsOf_comparison_chain :
    let c : Comparison := ⟨"eqeqeq", '=', "=!<>"⟩
    let code := "a != b\nx==y==z===w"
    let line := "x==y==z===w".toList
    let columns := columnsOf c.id 2 (scan .builtin code .typescript)
    c ∈ all ∧ (∃ rule ∈ Catalog.builtin.rulesFor .typescript, rule.id = c.id) ∧
      (code.toList.splitOn '\n')[1]? = some line ∧ c.IsolatedAt line 1 ∧ c.IsolatedAt line 4 ∧
      2 ∈ columns ∧ 5 ∉ columns ∧ 8 ∉ columns := by
  intro c code line columns
  have hrule : ∃ rule ∈ Catalog.builtin.rulesFor .typescript, rule.id = c.id := by decide
  have hline : (code.toList.splitOn '\n')[1]? = some line := by decide +kernel
  obtain ⟨-, hiff, hlonger, -⟩ :=
    columnsOf_comparison c (by decide) .typescript hrule code 1 line hline
  have hfirst : c.IsolatedAt line 1 := by decide +kernel
  have hsecond : c.IsolatedAt line 4 := by decide +kernel
  have hreported : 2 ∈ columns := (hiff 1).mpr ⟨hfirst, fun ⟨q, hq, _⟩ => by omega⟩
  have hhidden : 5 ∉ columns := fun h => ((hiff 4).mp h).2 ⟨1, rfl, hreported⟩
  exact ⟨by decide, hrule, hline, hfirst, hsecond, hreported, hhidden,
    hlonger "===" (by decide) 7 7 (by decide) (by decide) (by decide)⟩

end Finding
end Checkup
