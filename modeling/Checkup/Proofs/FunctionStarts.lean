import Checkup.Metrics
import Checkup.Proofs.Blanks
import Checkup.Proofs.Calls
import Checkup.Proofs.Counts

/-!
# Starts of functions

What counts as the start of a function: a keyword with a name behind it, a named value that is set,
or an arrow. Where these stand is settled by the text around them. One that starts later does not end
earlier: a keyword starts a word, so one that comes behind another keyword stands at the name of that
one or further on.
-/

namespace Checkup

namespace CharSet

/-- Members of the set stand from `i` up to `j`. -/
def Fills (s : CharSet) (text : List Char) (i j : Nat) : Prop :=
  ∀ k, i ≤ k → k < j → s.HoldsAt text k

variable {s : CharSet} {text : List Char} {i j j' l : Nat}

lemma Fills.stop_le (h : s.Fills text i j) (hil : i ≤ l) (hl : ¬s.HoldsAt text l) : j ≤ l := by
  by_contra hlt
  exact hl (h l hil (by omega))

lemma Fills.stop_unique (h : s.Fills text i j) (h' : s.Fills text i j') (hij : i ≤ j)
    (hij' : i ≤ j') (hj : ¬s.HoldsAt text j) (hj' : ¬s.HoldsAt text j') : j = j' :=
  Nat.le_antisymm (h.stop_le hij' hj') (h'.stop_le hij hj)

/-- White space is no part of a word. -/
lemma not_space_of_word (h : CharSet.word.HoldsAt text l) : ¬CharSet.space.HoldsAt text l := by
  obtain ⟨c, hc, hword⟩ := h
  intro hspace
  exact not_isSpace_of_isWord hword (hspace.contains hc)

lemma not_word_of_equals (h : text[l]? = some '=') : ¬CharSet.word.HoldsAt text l := by
  intro hword
  exact absurd (hword.contains h) (by decide)

lemma not_space_of_equals (h : text[l]? = some '=') : ¬CharSet.space.HoldsAt text l := by
  intro hspace
  exact absurd (hspace.contains h) (by decide)

end CharSet

namespace Metrics
open Pattern CharSet

def functionKeywords : List String := ["function"]

def valueKeywords : List String := ["const", "let"]

/-- All of these are words. -/
def areWords (keywords : List String) : Bool :=
  keywords.all fun t => t.length != 0 && t.toList.all Unicode.isWord

/-- A keyword that starts a word, a gap and a name. -/
def named (keywords : List String) : Pattern := wordEdge ++ texts keywords ++ spaces₁ ++ Pattern.word

/-- A named value and the sign that sets it, which is not the first of two. -/
def setValue : Pattern := named valueKeywords ++ spaces ++ text "=" ++ char (.allBut "=")

/-- From `i` on stand a keyword up to `p`, a gap up to `k` and a name up to `m`, and no word goes on
at `i`. -/
structure Named (keywords : List String) (text : List Char) (i p k m : Nat) : Prop where
  apart : ¬WordBefore text i
  keyword : ∃ t ∈ keywords, t.toList <+: text.drop i ∧ p = i + t.length
  gap : p < k ∧ CharSet.space.Fills text p k
  name : k < m ∧ CharSet.word.Fills text k m

/-- A function is introduced between `i` and `j`: by its name, which ends at `j`, by the name of a
value that is set, or by an arrow. -/
inductive IntroducesAt (text : List Char) (i j : Nat) : Prop
  | function {p k : Nat} (named : Named functionKeywords text i p k j)
    (whole : ¬CharSet.word.HoldsAt text j)
  | value {p k m s : Nat} (named : Named valueKeywords text i p k m) (le : m ≤ s)
    (blank : CharSet.space.Fills text m s) (equals : text[s]? = some '=')
    (behind : (CharSet.allBut "=").HoldsAt text (s + 1)) (stop : j = s + 2)
  | arrow (stands : "=>".toList <+: text.drop i) (stop : j = i + 2)

variable {text : List Char} {keywords keywords' : List String}
  {i j p k m s i' j' p' k' m' s' l : Nat}

lemma equals_of_arrow (h : "=>".toList <+: text.drop i) : text[i]? = some '=' := by
  rw [getElem?_of_prefix_drop h (Nat.le_refl i) (Nat.lt_add_of_pos_right (by decide)), Nat.sub_self]
  rfl

lemma areWords_keywords : areWords functionKeywords ∧ areWords valueKeywords := by decide

lemma fills_of_keyword (hwords : areWords keywords)
    (h : ∃ t ∈ keywords, t.toList <+: text.drop i ∧ p = i + t.length) :
    i < p ∧ CharSet.word.Fills text i p := by
  obtain ⟨t, ht, hbegin, rfl⟩ := h
  have hword := List.all_eq_true.mp hwords t ht
  rw [Bool.and_eq_true, bne_iff_ne, List.all_eq_true] at hword
  refine ⟨by omega, fun l hil hl => ?_⟩
  have hlt : l - i < t.toList.length := by
    rw [String.length_toList]
    omega
  have hget := getElem?_of_prefix_drop hbegin hil (by rwa [String.length_toList])
  rw [List.getElem?_eq_getElem hlt] at hget
  exact ⟨_, hget, hword.2 _ (List.getElem_mem hlt)⟩

namespace Named

lemma keyword_fills (h : Named keywords text i p k m) (hwords : areWords keywords) :
    i < p ∧ CharSet.word.Fills text i p :=
  fills_of_keyword hwords h.keyword

lemma not_word_behind_keyword (h : Named keywords text i p k m) : ¬CharSet.word.HoldsAt text p :=
  fun hword => not_space_of_word hword (h.gap.2 p (Nat.le_refl p) h.gap.1)

lemma not_space_at_name (h : Named keywords text i p k m) : ¬CharSet.space.HoldsAt text k :=
  not_space_of_word (h.name.2 k (Nat.le_refl k) h.name.1)

lemma stop_le_length (h : Named keywords text i p k m) : m ≤ text.length := by
  have hname := h.name
  have hlast := (hname.2 (m - 1) (by omega) (by omega)).lt
  omega

/-- No equals sign stands before the end of the name. -/
lemma le_of_equals (h : Named keywords text i p k m) (hwords : areWords keywords) (hil : i ≤ l)
    (hl : text[l]? = some '=') : m ≤ l := by
  have hkeyword := h.keyword_fills hwords
  have hpl : p ≤ l := hkeyword.2.stop_le hil (not_word_of_equals hl)
  have hkl : k ≤ l := h.gap.2.stop_le hpl (not_space_of_equals hl)
  exact h.name.2.stop_le hkl (not_word_of_equals hl)

/-- No arrow starts where a keyword does. -/
lemma ne_equals (h : Named keywords text i p k m) (hwords : areWords keywords) :
    text[i]? ≠ some '=' := by
  intro hequals
  have hkeyword := h.keyword_fills hwords
  exact not_word_of_equals hequals (hkeyword.2 i (Nat.le_refl i) hkeyword.1)

/-- What starts at the same place has the same parts. -/
lemma unique (h : Named keywords text i p k m) (h' : Named keywords' text i p' k' m')
    (hwords : areWords keywords) (hwords' : areWords keywords')
    (hwhole : ¬CharSet.word.HoldsAt text m) (hwhole' : ¬CharSet.word.HoldsAt text m') :
    p = p' ∧ m = m' := by
  have hkeyword := h.keyword_fills hwords
  have hkeyword' := h'.keyword_fills hwords'
  obtain rfl : p = p' := hkeyword.2.stop_unique hkeyword'.2 (Nat.le_of_lt hkeyword.1)
    (Nat.le_of_lt hkeyword'.1) h.not_word_behind_keyword h'.not_word_behind_keyword
  obtain rfl : k = k' := h.gap.2.stop_unique h'.gap.2 (Nat.le_of_lt h.gap.1)
    (Nat.le_of_lt h'.gap.1) h.not_space_at_name h'.not_space_at_name
  exact ⟨rfl, h.name.2.stop_unique h'.name.2 (Nat.le_of_lt h.name.1) (Nat.le_of_lt h'.name.1)
    hwhole hwhole'⟩

lemma exists_mem_of_stop_eq (h : Named keywords text i p k m)
    (h' : Named keywords' text i p k' m') : ∃ t ∈ keywords, t ∈ keywords' := by
  obtain ⟨t, ht, hbegin, hp⟩ := h.keyword
  obtain ⟨t', ht', hbegin', hp'⟩ := h'.keyword
  have hlen : t.toList.length = t'.toList.length := by
    rw [String.length_toList, String.length_toList]
    omega
  have heq : t.toList = t'.toList :=
    (List.prefix_of_prefix_length_le hbegin hbegin' (Nat.le_of_eq hlen)).eq_of_length hlen
  exact ⟨t, ht, String.toList_inj.mp heq ▸ ht'⟩

/-- A keyword that stands further on starts at the name or behind its start, and does not end
before the name. -/
lemma le_later_keyword (h : Named keywords text i p k m) (h' : Named keywords' text i' p' k' m')
    (hwords : areWords keywords) (hwords' : areWords keywords') (hlt : i < i') : m ≤ p' := by
  have hkeyword := h.keyword_fills hwords
  have hkeyword' := h'.keyword_fills hwords'
  have hpi : p ≤ i' := by
    by_contra hp
    obtain ⟨c, hc, hword⟩ := hkeyword.2 (i' - 1) (by omega) (by omega)
    exact h'.apart ⟨i' - 1, c, by omega, hc, hword⟩
  have hki : k ≤ i' :=
    h.gap.2.stop_le hpi (not_space_of_word (hkeyword'.2 i' (Nat.le_refl i') hkeyword'.1))
  exact h.name.2.stop_le (by omega) h'.not_word_behind_keyword

end Named

namespace IntroducesAt

/-- What is introduced ends with the next equals sign, if not before. -/
lemma stop_le_of_equals (h : IntroducesAt text i j) (hil : i ≤ l) (hl : text[l]? = some '=') :
    j ≤ l + 2 := by
  cases h with
  | function named whole =>
    have := named.le_of_equals areWords_keywords.1 hil hl
    omega
  | value named le blank equals behind stop =>
    have hml := named.le_of_equals areWords_keywords.2 hil hl
    have := blank.stop_le hml (not_space_of_equals hl)
    omega
  | arrow stands stop => omega

/-- What is introduced before another keyword ends before the name behind that does. -/
lemma stop_le_of_named (h : IntroducesAt text i j) (h' : Named keywords' text i' p' k' m')
    (hwords' : areWords keywords') (hlt : i < i') : j ≤ m' := by
  have hkeyword' := h'.keyword_fills hwords'
  have hgap' := h'.gap
  have hname' := h'.name
  cases h with
  | function named whole =>
    have := named.le_later_keyword h' areWords_keywords.1 hwords' hlt
    omega
  | @value p k m s named le blank equals behind stop =>
    -- The sign that sets the value stands before the second name, so it stands before the keyword.
    have hmp := named.le_later_keyword h' areWords_keywords.2 hwords' hlt
    have hsk : s ≤ k' := blank.stop_le (by omega) h'.not_space_at_name
    have hsi : s < i' := by
      by_contra his
      have := h'.le_of_equals hwords' (Nat.not_lt.mp his) equals
      omega
    omega
  | arrow stands stop => omega

/-- The name of a value that is set has no further character. -/
lemma not_word_of_blank (hms : m ≤ s) (hblank : CharSet.space.Fills text m s)
    (hequals : text[s]? = some '=') : ¬CharSet.word.HoldsAt text m := by
  rcases Nat.eq_or_lt_of_le hms with rfl | hlt
  · exact not_word_of_equals hequals
  · exact fun hword => not_space_of_word hword (hblank m (Nat.le_refl m) hlt)

lemma not_function_and_value (h : Named functionKeywords text i p k m)
    (h' : Named valueKeywords text i p' k' m') (hwhole : ¬CharSet.word.HoldsAt text m)
    (hwhole' : ¬CharSet.word.HoldsAt text m') : False := by
  obtain ⟨rfl, -⟩ := h.unique h' areWords_keywords.1 areWords_keywords.2 hwhole hwhole'
  obtain ⟨t, ht, ht'⟩ := h.exists_mem_of_stop_eq h'
  exact absurd ht' ((by decide : ∀ t ∈ functionKeywords, t ∉ valueKeywords) t ht)

/-- One start, one end. -/
lemma stop_unique (h : IntroducesAt text i j) (h' : IntroducesAt text i j') : j = j' := by
  cases h with
  | function named whole =>
    cases h' with
    | function named' whole' =>
      exact (named.unique named' areWords_keywords.1 areWords_keywords.1 whole whole').2
    | value named' le' blank' equals' =>
      have whole' := not_word_of_blank le' blank' equals'
      exact (not_function_and_value named named' whole whole').elim
    | arrow stands' =>
      exact absurd (equals_of_arrow stands') (named.ne_equals areWords_keywords.1)
  | @value p k m s named le blank equals behind stop =>
    have whole := not_word_of_blank le blank equals
    cases h' with
    | function named' whole' => exact (not_function_and_value named' named whole' whole).elim
    | @value p' k' m' s' named' le' blank' equals' behind' stop' =>
      have whole' := not_word_of_blank le' blank' equals'
      obtain ⟨-, rfl⟩ := named.unique named' areWords_keywords.2 areWords_keywords.2 whole whole'
      have hs := blank.stop_unique blank' le le' (not_space_of_equals equals)
        (not_space_of_equals equals')
      omega
    | arrow stands' =>
      exact absurd (equals_of_arrow stands') (named.ne_equals areWords_keywords.2)
  | arrow stands stop =>
    have equals := equals_of_arrow stands
    cases h' with
    | function named' => exact absurd equals (named'.ne_equals areWords_keywords.1)
    | value named' => exact absurd equals (named'.ne_equals areWords_keywords.2)
    | arrow stands' stop' => omega

/-- Of two functions the one that starts later is not introduced earlier. -/
lemma ordered (h : IntroducesAt text i j) (h' : IntroducesAt text i' j') (hle : i ≤ i') :
    j ≤ j' := by
  rcases Nat.eq_or_lt_of_le hle with rfl | hlt
  · exact Nat.le_of_eq (h.stop_unique h')
  cases h' with
  | function named whole => exact h.stop_le_of_named named areWords_keywords.1 hlt
  | value named le blank equals behind stop =>
    have := h.stop_le_of_named named areWords_keywords.2 hlt
    omega
  | arrow stands stop =>
    have := h.stop_le_of_equals hle (equals_of_arrow stands)
    omega

end IntroducesAt

lemma functionStart_eq :
    functionStart = alt (named functionKeywords) (alt setValue (Pattern.text "=>")) := rfl

lemma spans_named (hwords : areWords keywords) :
    (named keywords).Spans text i m ↔ ∃ p k, Named keywords text i p k m := by
  have hparts : named keywords = seq (seq (seq wordEdge (texts keywords)) spaces₁) Pattern.word := rfl
  rw [hparts]
  simp only [spans_seq, wordEdge, spans_look, Piece.spans_texts, spaces₁, Pattern.word,
    spans_oneOrMore_char]
  constructor
  · rintro ⟨k, ⟨p, ⟨_, ⟨hedge, rfl⟩, hkeyword⟩, hgap⟩, hname⟩
    have hfills := fills_of_keyword hwords hkeyword
    have hword := hfills.2 _ (Nat.le_refl _) hfills.1
    exact ⟨p, k, (wordEdge_holds_iff hword).mp hedge, hkeyword, hgap, hname⟩
  · rintro ⟨p, k, hapart, hkeyword, hgap, hname⟩
    have hfills := fills_of_keyword hwords hkeyword
    have hword := hfills.2 i (Nat.le_refl i) hfills.1
    exact ⟨k, ⟨p, ⟨i, ⟨(wordEdge_holds_iff hword).mpr hapart, rfl⟩, hkeyword⟩, hgap⟩, hname⟩

/-- The preferred match takes the whole name. -/
lemma not_word_of_head {h : Hit} (hh : ((named keywords).ways text i).head? = some h) :
    ¬CharSet.word.HoldsAt text h.stop := by
  obtain ⟨k, -, l, hl, rfl⟩ := head?_ways_seq hh
  rw [Hit.andThen_stop]
  exact head?_oneOrMore_char hl

lemma spans_setValue : setValue.Spans text i j ↔
    ∃ p k m s, Named valueKeywords text i p k m ∧ m ≤ s ∧ CharSet.space.Fills text m s ∧
      text[s]? = some '=' ∧ (CharSet.allBut "=").HoldsAt text (s + 1) ∧ j = s + 2 := by
  have hparts : setValue = seq (seq (seq (named valueKeywords) spaces) (char (.one '=')))
      (char (.allBut "=")) := rfl
  rw [hparts]
  simp only [spans_seq, spaces, spans_zeroOrMore_char, spans_char, holdsAt_one,
    spans_named areWords_keywords.2]
  constructor
  · rintro ⟨_, ⟨s, ⟨m, ⟨p, k, hnamed⟩, hms, hblank⟩, hequals, rfl⟩, hbehind, hstop⟩
    exact ⟨p, k, m, s, hnamed, hms, hblank, hequals, hbehind, hstop⟩
  · rintro ⟨p, k, m, s, hnamed, hms, hblank, hequals, hbehind, hstop⟩
    exact ⟨s + 1, ⟨s, ⟨m, ⟨p, k, hnamed⟩, hms, hblank⟩, hequals, rfl⟩, hbehind, hstop⟩

/-- What the search for functions finds first from a place on is introduced there. -/
lemma introducesAt_of_head (h : (functionStart.stops text i).head? = some j) :
    IntroducesAt text i j := by
  rw [functionStart_eq, stops_alt, stops_alt, List.head?_append] at h
  cases hfunction : ((named functionKeywords).stops text i).head? with
  | some l =>
    rw [hfunction, Option.some_or, Option.some.injEq] at h
    subst h
    obtain ⟨p, k, hnamed⟩ :=
      (spans_named areWords_keywords.1).mp (mem_stops.mp (List.mem_of_mem_head? hfunction))
    rw [stops, List.head?_map, Option.map_eq_some_iff] at hfunction
    obtain ⟨hit, hhit, rfl⟩ := hfunction
    exact .function hnamed (not_word_of_head hhit)
  | none =>
    rw [hfunction, Option.none_or] at h
    rcases List.mem_append.mp (List.mem_of_mem_head? h) with hvalue | harrow
    · obtain ⟨p, k, m, s, hnamed, hms, hblank, hequals, hbehind, hstop⟩ :=
        spans_setValue.mp (mem_stops.mp hvalue)
      exact .value hnamed hms hblank hequals hbehind hstop
    · obtain ⟨hstands, hstop⟩ := spans_text.mp (mem_stops.mp harrow)
      exact .arrow hstands hstop

lemma IntroducesAt.spans (h : IntroducesAt text i j) : functionStart.Spans text i j := by
  rw [functionStart_eq, spans_alt, spans_alt, spans_named areWords_keywords.1, spans_setValue,
    spans_text]
  cases h with
  | function named whole => exact .inl ⟨_, _, named⟩
  | value named le blank equals behind stop =>
    exact .inr (.inl ⟨_, _, _, _, named, le, blank, equals, behind, stop⟩)
  | arrow stands stop => exact .inr (.inr ⟨stands, stop⟩)

/-- Where the search for functions finds one is settled by the text. -/
theorem settled_functionStart : functionStart.Settled IntroducesAt where
  consumes := by decide
  of_head := introducesAt_of_head
  spans h := ⟨_, h.spans⟩
  ordered h h' hle := h.ordered h' hle

end Metrics
end Checkup
