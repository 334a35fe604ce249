import Checkup.Proofs.Calls
import Checkup.Proofs.Comparisons

/-!
# Assignments of HTML

The rule for assignments of HTML looks for a property that holds HTML, an equals sign, and one more
character, which is no equals sign. So it passes over an assignment whose sign ends the line, and
over one that begins with the very character that another assignment was reported with. It reports
every other one.
-/

namespace Checkup
open Pattern

variable {text : List Char} {i j p e e' : Nat} {piece : Piece} {pieces : List Piece} {c : Char}

namespace Piece

/-- The piece never takes this character. -/
def lacks (c : Char) : Piece → Bool
  | oneOf texts => texts.all fun t => !t.toList.contains c
  | sign characters => !characters.toList.contains c
  | blank => !Unicode.isSpace c
  | gap => !Unicode.isSpace c

lemma Takes.ne_of_lacks (h : piece.Takes text i j) (hc : piece.lacks c) (hip : i ≤ p)
    (hpj : p < j) : text[p]? ≠ some c := by
  intro hp
  have hspace (hrun : CharSet.space.HoldsAt text p) : Unicode.isSpace c := by
    obtain ⟨d, hd, hspace⟩ := hrun
    rw [hp, Option.some.injEq] at hd
    exact hd ▸ hspace
  cases piece with
  | oneOf texts =>
    obtain ⟨t, ht, hbegin, rfl⟩ := h
    rw [← String.length_toList] at hpj
    rw [getElem?_of_prefix_drop hbegin hip hpj] at hp
    have hnot := List.all_eq_true.mp hc t ht
    simp [List.mem_of_getElem? hp] at hnot
  | sign characters =>
    obtain ⟨⟨d, hd, hmem⟩, rfl⟩ := h
    obtain rfl : p = i := by omega
    rw [hp, Option.some.injEq] at hd
    rw [CharSet.of, CharSet.contains, ← hd] at hmem
    rw [lacks, hmem] at hc
    exact absurd hc (by decide)
  | blank =>
    rw [lacks, hspace (h.2 p hip hpj)] at hc
    exact absurd hc (by decide)
  | gap =>
    rw [lacks, hspace (h.2 p hip hpj)] at hc
    exact absurd hc (by decide)

lemma TakeAll.ne_of_lacks (h : TakeAll text pieces i j) (hc : pieces.all (·.lacks c))
    (hip : i ≤ p) (hpj : p < j) : text[p]? ≠ some c := by
  obtain ⟨piece, hpiece, k, l, htakes, hkp, hpl⟩ := h.exists_takes hip hpj
  exact htakes.ne_of_lacks (List.all_eq_true.mp hc piece hpiece) hkp hpl

lemma takeAll_append_pieces {pieces' : List Piece} :
    TakeAll text (pieces ++ pieces') i j ↔
      ∃ k, TakeAll text pieces i k ∧ TakeAll text pieces' k j := by
  induction pieces generalizing i with
  | nil => simp [TakeAll]
  | cons piece pieces ih =>
    simp only [List.cons_append, TakeAll, ih]
    constructor
    · rintro ⟨k, hpiece, l, hrest, hrest'⟩
      exact ⟨l, ⟨k, hpiece, hrest⟩, hrest'⟩
    · rintro ⟨l, ⟨k, hpiece, hrest⟩, hrest'⟩
      exact ⟨k, hpiece, l, hrest, hrest'⟩

end Piece

/-- A property that holds HTML, and the white space behind it. -/
def htmlProperty : List Piece := [.oneOf ["."], .oneOf ["innerHTML", "outerHTML"], .blank]

/-- An assignment of HTML starts at `p`, and its equals sign ends at `e`, where no other one
stands. -/
structure AssignsAt (text : List Char) (p e : Nat) : Prop where
  takes : Piece.TakeAll text (htmlProperty ++ [.oneOf ["="]]) p e
  single : text[e]? ≠ some '='

namespace AssignsAt

/-- The pattern of the rule. -/
def pattern : Pattern :=
  Pattern.text "." ++ texts ["innerHTML", "outerHTML"] ++ spaces ++ Pattern.text "=" ++
    char (.allBut "=")

lemma takes_equals : (Piece.oneOf ["="]).Takes text i j ↔ text[i]? = some '=' ∧ j = i + 1 := by
  constructor
  · rintro ⟨t, ht, hbegin, rfl⟩
    obtain rfl := List.mem_singleton.mp ht
    have hget := getElem?_of_prefix_drop hbegin (Nat.le_refl i) (Nat.lt_succ_self i)
    rw [Nat.sub_self] at hget
    exact ⟨hget, rfl⟩
  · rintro ⟨hequals, rfl⟩
    have hlt := (List.getElem?_eq_some_iff.mp hequals).1
    refine ⟨"=", List.mem_singleton_self _, ?_, rfl⟩
    rw [List.drop_eq_getElem_cons hlt, (List.getElem?_eq_some_iff.mp hequals).2]
    exact ⟨_, rfl⟩

/-- The sign ends behind an equals sign, which is the first one behind the start. -/
lemma equals (h : AssignsAt text p e) :
    ∃ k, p < k ∧ e = k + 1 ∧ text[k]? = some '=' ∧ ∀ l, p ≤ l → l < k → text[l]? ≠ some '=' := by
  obtain ⟨k, hproperty, l, hsign, rfl⟩ := Piece.takeAll_append_pieces.mp h.takes
  obtain ⟨hequals, rfl⟩ := takes_equals.mp hsign
  refine ⟨k, ?_, rfl, hequals, fun l hpl hlk => hproperty.ne_of_lacks (by decide) hpl hlk⟩
  obtain ⟨l, ⟨t, ht, -, rfl⟩, hrest⟩ := hproperty
  obtain rfl := List.mem_singleton.mp ht
  exact Nat.lt_of_lt_of_le (Nat.lt_succ_self p) hrest.le

lemma unique (h : AssignsAt text p e) (h' : AssignsAt text p e') : e = e' := by
  obtain ⟨k, hpk, rfl, hequals, hfirst⟩ := h.equals
  obtain ⟨k', hpk', rfl, hequals', hfirst'⟩ := h'.equals
  rcases Nat.lt_trichotomy k k' with hlt | rfl | hlt
  · exact absurd hequals (hfirst' k (Nat.le_of_lt hpk) hlt)
  · rfl
  · exact absurd hequals' (hfirst k' (Nat.le_of_lt hpk') hlt)

lemma start (h : AssignsAt text p e) : text[p]? = some '.' := by
  obtain ⟨k, ⟨t, ht, hbegin, rfl⟩, -⟩ := h.takes
  obtain rfl := List.mem_singleton.mp ht
  have hget := getElem?_of_prefix_drop hbegin (Nat.le_refl p) (Nat.lt_succ_self p)
  rwa [Nat.sub_self] at hget

/-- No other assignment starts before the sign has ended. -/
lemma le_of_lt (h : AssignsAt text p e) (h' : AssignsAt text i e') (hpi : p < i) : e ≤ i := by
  obtain ⟨k, ⟨t, ht, -, rfl⟩, hrest⟩ := h.takes
  obtain rfl := List.mem_singleton.mp ht
  by_contra hlt
  exact Piece.TakeAll.ne_of_lacks hrest (by decide) hpi (Nat.not_le.mp hlt) h'.start

/-- The pattern matches an assignment with one more character behind it. -/
lemma spans_pattern :
    pattern.Spans text i j ↔ ∃ e, AssignsAt text i e ∧ e < text.length ∧ j = e + 1 := by
  have hpattern : pattern =
      seq ((([.oneOf ["innerHTML", "outerHTML"], .blank, .oneOf ["="]] : List Piece).map
        Piece.pattern).foldl seq (Piece.oneOf ["."]).pattern) (char (.allBut "=")) := rfl
  have hnone (k : Nat) : (∃ g ∈ "=".toList, text[k]? = some g) ↔ text[k]? = some '=' := by simp
  rw [hpattern, spans_seq]
  simp only [Piece.spans_foldl, Piece.spans_pattern, spans_char, Comparison.holdsAt_allBut, hnone]
  constructor
  · rintro ⟨e, htakes, ⟨hlt, hsingle⟩, rfl⟩
    exact ⟨e, ⟨htakes, hsingle⟩, hlt, rfl⟩
  · rintro ⟨e, ⟨htakes, hsingle⟩, hlt, rfl⟩
    exact ⟨e, htakes, ⟨hlt, hsingle⟩, rfl⟩

/-- A match of the pattern shows the assignment at `p`. -/
def ShownAt (text : List Char) (p : Nat) : Prop := ∃ m ∈ pattern.matchesIn text, m.anchor = p

lemma exists_of_mem {m : Match} (hm : m ∈ pattern.matchesIn text) :
    m.anchor = m.start ∧ ∃ e, AssignsAt text m.start e ∧ e < text.length ∧ m.stop = e + 1 :=
  ⟨anchor_of_markFree (by rfl) hm, spans_pattern.mp (spans_of_mem_matchesIn hm)⟩

/-- An assignment is shown if a character follows it, and if it does not start with the character
that a shown one has taken. -/
theorem shownAt_iff_not_behind (p : Nat) : ShownAt text p ↔ ∃ e, AssignsAt text p e ∧
    e < text.length ∧ ¬∃ q, ShownAt text q ∧ AssignsAt text q p := by
  constructor
  · rintro ⟨m, hm, rfl⟩
    obtain ⟨hanchor, e, hassigns, hlt, hstop⟩ := exists_of_mem hm
    rw [hanchor]
    refine ⟨e, hassigns, hlt, ?_⟩
    rintro ⟨q, ⟨k, hk, rfl⟩, hbefore⟩
    obtain ⟨hanchor', e', hassigns', -, hstop'⟩ := exists_of_mem hk
    rw [hanchor'] at hbefore
    obtain rfl := hbefore.unique hassigns'
    obtain ⟨l, hstart, hend, -⟩ := hbefore.equals
    have hspan := (spans_of_mem_matchesIn hm).le
    rcases eq_or_apart (matchesIn_pairwise pattern text) hk hm with rfl | hle | hle <;> omega
  · rintro ⟨e, hassigns, hlt, hnone⟩
    have hspans : pattern.Spans text p (e + 1) := spans_pattern.mpr ⟨e, hassigns, hlt, rfl⟩
    have hempty : ¬pattern.Spans text p p := by
      intro h
      exact Nat.lt_irrefl p (h.lt (by rfl))
    have hp := (List.getElem?_eq_some_iff.mp hassigns.start).1
    obtain ⟨m, hm, hle, hstop⟩ := hspans.exists_mem_matchesIn hp hempty
    obtain ⟨hanchor, e', hassigns', -, hstop'⟩ := exists_of_mem hm
    refine ⟨m, hm, ?_⟩
    by_contra hne
    -- The match that covers the assignment starts before it, so it ends with its first character.
    have hend := hassigns'.le_of_lt hassigns (by omega)
    obtain rfl : p = e' := by omega
    exact hnone ⟨m.start, ⟨m, hm, hanchor⟩, hassigns'⟩

end AssignsAt

namespace Finding

open AssignsAt

/-- What a scan says about an assignment of HTML. -/
def htmlAssigned (number column : Nat) : Finding :=
  ⟨number, column, "Assigning HTML strings directly can lead to XSS", .error, "no-inner-html"⟩

variable {language : Language} {rule : Rule} {code : String} {line : List Char} {k : Nat}

lemma eq_of_id_no_inner_html (hrule : rule ∈ Catalog.builtin.rulesFor language)
    (hid : rule.id = "no-inner-html") :
    rule = ⟨"no-inner-html", pattern, "Assigning HTML strings directly can lead to XSS", .error,
      none⟩ := by
  have hall : ∀ rule ∈ Rule.all, rule.id = "no-inner-html" → rule = ⟨"no-inner-html", pattern,
      "Assigning HTML strings directly can lead to XSS", .error, none⟩ := by
    decide +kernel
  exact hall rule (Rule.mem_all_of_mem_builtin hrule) hid

/-- A scan with the rule says that HTML is assigned where a match of its pattern is shown. -/
lemma htmlAssigned_mem_scan_iff
    (hrule : ∃ rule ∈ Catalog.builtin.rulesFor language, rule.id = "no-inner-html")
    (hline : (Text.strippedPieces code.toList)[k]? = some line) :
    htmlAssigned (k + 1) (p + 1) ∈ scan .builtin code language ↔ ShownAt line p := by
  rw [mem_scan_iff]
  constructor
  · rintro ⟨k', line', hline', rule, hrule, -, m, hm, hreport⟩
    have hid : rule.id = "no-inner-html" := congrArg Finding.ruleId hreport
    obtain rfl := eq_of_id_no_inner_html hrule hid
    obtain rfl : k' = k := Nat.succ.inj (congrArg Finding.line hreport)
    obtain rfl : line' = line := Option.some.inj (hline'.symm.trans hline)
    exact ⟨m, hm, Nat.succ.inj (congrArg Finding.column hreport)⟩
  · rintro ⟨m, hm, rfl⟩
    obtain ⟨rule, hrule, hid⟩ := hrule
    obtain rfl := eq_of_id_no_inner_html hrule hid
    exact ⟨k, line, hline, _, hrule, rfl, m, hm, rfl⟩

/-- In a line of a text, an assignment of HTML is reported exactly if its equals sign does not end
the line and if it does not start right behind the sign of a reported one. So an assignment that no
other one stands before is reported exactly if a character follows its sign. -/
theorem htmlAssigned_iff (language : Language)
    (hrule : ∃ rule ∈ Catalog.builtin.rulesFor language, rule.id = "no-inner-html") (code : String)
    (k : Nat) (line : List Char) (hline : (Text.strippedPieces code.toList)[k]? = some line) :
    let reported (p : Nat) : Prop := htmlAssigned (k + 1) (p + 1) ∈ scan .builtin code language
    (∀ p, reported p ↔ ∃ e, AssignsAt line p e ∧ e < line.length ∧
      ¬∃ q, reported q ∧ AssignsAt line q p) ∧
      ∀ p e, AssignsAt line p e → (¬∃ q, AssignsAt line q p) → (reported p ↔ e < line.length) := by
  intro reported
  have hreported (p : Nat) : reported p ↔ ShownAt line p := htmlAssigned_mem_scan_iff hrule hline
  simp only [hreported]
  refine ⟨shownAt_iff_not_behind, ?_⟩
  intro p e hassigns hfirst
  rw [shownAt_iff_not_behind]
  constructor
  · rintro ⟨e', hassigns', hlt, -⟩
    rwa [hassigns.unique hassigns']
  · intro hlt
    exact ⟨e, hassigns, hlt, fun ⟨q, _, hq⟩ => hfirst ⟨q, hq⟩⟩

/-- Of two assignments with nothing between them, the second one starts with the character that the
first was reported with. -/
theorem htmlAssigned_iff_chain :
    let code := "var x = 1\na.innerHTML \t=.outerHTML=y\r\n"
    let line := "a.innerHTML \t=.outerHTML=y".toList
    let reported (p : Nat) : Prop := htmlAssigned 2 (p + 1) ∈ scan .builtin code .markdown
    (∃ rule ∈ Catalog.builtin.rulesFor .markdown, rule.id = "no-inner-html") ∧
      (Text.strippedPieces code.toList)[1]? = some line ∧ AssignsAt line 1 14 ∧
      AssignsAt line 14 25 ∧ (¬∃ q, AssignsAt line q 1) ∧ reported 1 ∧ ¬reported 14 := by
  intro code line reported
  have hrule : ∃ rule ∈ Catalog.builtin.rulesFor .markdown, rule.id = "no-inner-html" := by
    decide +kernel
  have hline : (Text.strippedPieces code.toList)[1]? = some line := by decide +kernel
  obtain ⟨hiff, hfirst⟩ := htmlAssigned_iff .markdown hrule code 1 line hline
  have hblank : ∀ k, 11 ≤ k → k < 13 → CharSet.space.HoldsAt line k := by
    intro k hk hlt
    obtain rfl | rfl : k = 11 ∨ k = 12 := by omega
    · exact ⟨' ', by decide, by decide⟩
    · exact ⟨'\t', by decide, by decide⟩
  have hone : AssignsAt line 1 14 :=
    ⟨⟨2, ⟨".", by decide, by decide, rfl⟩, 11, ⟨"innerHTML", by decide, by decide, rfl⟩, 13,
      ⟨by decide, hblank⟩, 14, takes_equals.mpr ⟨rfl, rfl⟩, rfl⟩, by decide⟩
  have htwo : AssignsAt line 14 25 :=
    ⟨⟨15, ⟨".", by decide, by decide, rfl⟩, 24, ⟨"outerHTML", by decide, by decide, rfl⟩, 24,
      ⟨by decide, fun k hk hlt => by omega⟩, 25, takes_equals.mpr ⟨rfl, rfl⟩, rfl⟩, by decide⟩
  have hnone : ¬∃ q, AssignsAt line q 1 := by
    rintro ⟨q, hq⟩
    obtain ⟨k, hqk, hk, -⟩ := hq.equals
    omega
  have hreported : reported 1 := (hfirst 1 14 hone hnone).mpr (by decide)
  refine ⟨hrule, hline, hone, htwo, hnone, hreported, ?_⟩
  intro hsecond
  obtain ⟨e, -, -, hhidden⟩ := (hiff 14).mp hsecond
  exact hhidden ⟨1, hreported, hone⟩

/-- An assignment whose value stands in the next line is not reported. -/
theorem htmlAssigned_misses_line_end :
    let code := "el.innerHTML =\n  html;"
    let line := "el.innerHTML =".toList
    (Text.strippedPieces code.toList)[0]? = some line ∧ AssignsAt line 2 14 ∧
      (¬∃ q, AssignsAt line q 2) ∧ htmlAssigned 1 3 ∉ scan .builtin code .javascript ∧
      scan .builtin code .javascript = [] := by
  intro code line
  have hline : (Text.strippedPieces code.toList)[0]? = some line := by decide +kernel
  have hassigns : AssignsAt line 2 14 := by
    refine ⟨⟨3, ⟨".", by decide, by decide, rfl⟩, 12, ⟨"innerHTML", by decide, by decide, rfl⟩, 13,
      ⟨by decide, ?_⟩, 14, takes_equals.mpr ⟨rfl, rfl⟩, rfl⟩, by decide⟩
    intro k hk hlt
    obtain rfl : k = 12 := by omega
    exact ⟨' ', by decide, by decide⟩
  have hnone : ¬∃ q, AssignsAt line q 2 := by
    rintro ⟨q, hq⟩
    obtain ⟨k, hqk, hk, hequals, -⟩ := hq.equals
    obtain rfl : k = 1 := by omega
    exact absurd hequals (by decide)
  have hscan : scan .builtin code .javascript = [] := by decide +kernel
  refine ⟨hline, hassigns, hnone, ?_, hscan⟩
  rw [hscan]
  exact List.not_mem_nil

end Finding
end Checkup
