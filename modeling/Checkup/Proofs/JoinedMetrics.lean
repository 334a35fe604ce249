import Checkup.Proofs.Comments
import Checkup.Proofs.FunctionStarts
import Checkup.Proofs.LineEnds

/-!
# Metrics of joined texts

If two texts are joined with a line break, their lines, words and line comments add up. A function
or a block comment can reach over the join and take in what was one of the second text, but each
that a search finds in one of the two texts is still a match in the joined one, and a search finds
as many matches as can lie apart. So the joined text has at least as many.
-/

namespace Checkup

namespace Text

/-- One character further on in a count of words. -/
def countWord (state : Bool × Nat) (c : Char) : Bool × Nat :=
  if Unicode.isSpace c then (false, state.2)
  else if state.1 then (true, state.2) else (true, state.2 + 1)

lemma wordCount_eq_foldl (text : List Char) :
    wordCount text = (text.foldl countWord (false, 0)).2 := rfl

lemma foldl_countWord (text : List Char) (inWord : Bool) (count : Nat) :
    (text.foldl countWord (inWord, count)).2 = count + (text.foldl countWord (inWord, 0)).2 := by
  induction text generalizing inWord count with
  | nil => rfl
  | cons c text ih =>
    rw [List.foldl_cons, List.foldl_cons]
    have hstep : countWord (inWord, count) c =
        ((countWord (inWord, 0) c).1, count + (countWord (inWord, 0) c).2) := by
      unfold countWord
      split_ifs <;> rfl
    rw [hstep, ih, ih (countWord (inWord, 0) c).1 (countWord (inWord, 0) c).2, Nat.add_assoc]

/-- White space between two texts keeps their words apart. -/
lemma wordCount_join (a b : List Char) {c : Char} (hc : Unicode.isSpace c) :
    wordCount (a ++ c :: b) = wordCount a + wordCount b := by
  have hspace (state : Bool × Nat) : countWord state c = (false, state.2) := if_pos hc
  simp only [wordCount_eq_foldl, List.foldl_append, List.foldl_cons]
  rw [hspace, foldl_countWord]

lemma length_pieces_join (a b : List Char) :
    (pieces (a ++ '\n' :: b)).length = (pieces a).length + (pieces b).length := by
  rw [length_pieces, length_pieces, length_pieces, List.count_append, List.count_cons_self]
  omega

end Text

namespace Metrics
open Pattern CharSet Text

/-- The part stands in the text at `off`, with a line break or an end of the text on both sides. -/
structure Placed (part text : List Char) (off : Nat) : Prop where
  stands : part <+: text.drop off
  before : ∀ q c, q + 1 = off → text[q]? = some c → c = '\n'
  behind : ∀ c, text[off + part.length]? = some c → c = '\n'

variable {part text : List Char} {keywords : List String} {off i j p k m : Nat} {s : CharSet}

lemma placed_left (a b : List Char) : Placed a (a ++ '\n' :: b) 0 where
  stands := List.prefix_append a ('\n' :: b)
  before q c hq _ := absurd hq (Nat.succ_ne_zero q)
  behind c hc := by
    rw [Nat.zero_add, List.getElem?_append_right (Nat.le_refl _), Nat.sub_self] at hc
    exact (Option.some.inj hc).symm

lemma placed_right (a b : List Char) : Placed b (a ++ '\n' :: b) (a.length + 1) where
  stands := by
    rw [List.drop_append, List.drop_eq_nil_of_le (Nat.le_succ a.length), Nat.add_sub_cancel_left]
    exact List.prefix_rfl
  before q c hq hc := by
    obtain rfl : q = a.length := by omega
    rw [List.getElem?_append_right (Nat.le_refl _), Nat.sub_self] at hc
    exact (Option.some.inj hc).symm
  behind c hc := by
    have hlt := (List.getElem?_eq_some_iff.mp hc).1
    rw [List.length_append, List.length_cons] at hlt
    omega

namespace Placed

lemma getElem? (h : Placed part text off) (hi : i < part.length) :
    text[off + i]? = part[i]? := by
  rw [getElem?_of_prefix_drop h.stands (Nat.le_add_right off i) (by omega),
    Nat.add_sub_cancel_left]

lemma prefix_drop_iff (h : Placed part text off) {t : List Char}
    (hi : i + t.length ≤ part.length) : t <+: text.drop (off + i) ↔ t <+: part.drop i := by
  obtain ⟨rest, hrest⟩ := h.stands
  rw [← List.drop_drop, ← hrest, List.drop_append_of_le_length (by omega)]
  constructor
  · intro ht
    refine List.prefix_of_prefix_length_le ht (List.prefix_append _ rest) ?_
    rw [List.length_drop]
    omega
  · exact fun ht => ht.trans (List.prefix_append _ rest)

lemma prefix_drop (h : Placed part text off) {t : List Char} (ht : t <+: part.drop i)
    (hpos : 0 < t.length) : t <+: text.drop (off + i) :=
  (h.prefix_drop_iff (stop_le_of_prefix_drop hpos ht)).mpr ht

lemma holdsAt (h : Placed part text off) (hi : s.HoldsAt part i) : s.HoldsAt text (off + i) := by
  obtain ⟨c, hc, hs⟩ := hi
  exact ⟨c, (h.getElem? (List.getElem?_eq_some_iff.mp hc).1).trans hc, hs⟩

lemma fills (h : Placed part text off) (hfills : s.Fills part i j) :
    s.Fills text (off + i) (off + j) := by
  intro k hik hkj
  obtain ⟨k, rfl⟩ := Nat.exists_eq_add_of_le (Nat.le_trans (Nat.le_add_right off i) hik)
  exact h.holdsAt (hfills k (by omega) (by omega))

/-- Behind the part no word of it goes on. -/
lemma not_word (h : Placed part text off) (hi : i ≤ part.length)
    (hword : ¬CharSet.word.HoldsAt part i) : ¬CharSet.word.HoldsAt text (off + i) := by
  rintro ⟨c, hc, hcontains⟩
  rcases Nat.eq_or_lt_of_le hi with rfl | hlt
  · rw [h.behind c hc] at hcontains
    exact absurd hcontains (by decide)
  · rw [h.getElem? hlt] at hc
    exact hword ⟨c, hc, hcontains⟩

/-- No word goes on from before the part into it. -/
lemma not_wordBefore (h : Placed part text off) (hi : i ≤ part.length)
    (hbefore : ¬WordBefore part i) : ¬WordBefore text (off + i) := by
  rintro ⟨q, c, hq, hc, hword⟩
  cases i with
  | zero =>
    rw [h.before q c hq hc] at hword
    exact absurd hword (by decide)
  | succ i =>
    obtain rfl : q = off + i := by omega
    rw [h.getElem? hi] at hc
    exact hbefore ⟨i, c, rfl, hc, hword⟩

lemma named (h : Placed part text off) (hwords : areWords keywords)
    (hnamed : Named keywords part i p k m) :
    Named keywords text (off + i) (off + p) (off + k) (off + m) := by
  have hkeyword := hnamed.keyword_fills hwords
  have hlt := (hkeyword.2 i (Nat.le_refl i) hkeyword.1).lt
  obtain ⟨t, ht, hbegin, hp⟩ := hnamed.keyword
  refine ⟨h.not_wordBefore (Nat.le_of_lt hlt) hnamed.apart, ⟨t, ht, ?_, by omega⟩, ?_, ?_⟩
  · exact h.prefix_drop hbegin (by rw [String.length_toList]; omega)
  · exact ⟨Nat.add_lt_add_left hnamed.gap.1 off, h.fills hnamed.gap.2⟩
  · exact ⟨Nat.add_lt_add_left hnamed.name.1 off, h.fills hnamed.name.2⟩

/-- A function of the part is one of the text. -/
lemma introducesAt (h : Placed part text off) (hat : IntroducesAt part i j) :
    IntroducesAt text (off + i) (off + j) := by
  cases hat with
  | function named whole =>
    exact .function (h.named areWords_keywords.1 named) (h.not_word named.stop_le_length whole)
  | value named le blank equals behind stop =>
    refine .value (h.named areWords_keywords.2 named) (Nat.add_le_add_left le off) (h.fills blank)
      ?_ (h.holdsAt behind) (by omega)
    exact (h.getElem? (List.getElem?_eq_some_iff.mp equals).1).trans equals
  | arrow stands stop => exact .arrow (h.prefix_drop stands (by decide)) (by omega)

end Placed

/-- A block comment stands from `i` to `j`. -/
structure BlockAt (text : List Char) (i j : Nat) : Prop where
  opens : "/*".toList <+: text.drop i
  closes : ∃ k, FirstAt "*/".toList text (i + 2) k ∧ j = k + 2

/-- Where the search for block comments finds one is settled by the text. -/
lemma settled_blockComment : blockComment.Settled BlockAt where
  consumes := by decide
  of_head := by
    intro text i j h
    have hopen : "/*".toList <+: text.drop i := by
      by_contra hnot
      rw [stops_blockComment_of_not hnot] at h
      exact absurd h (by simp)
    obtain ⟨k, hik, hk⟩ : ∃ k, i + 2 ≤ k ∧ "*/".toList <+: text.drop k := by
      by_contra hnot
      rw [stops_blockComment_of_open fun k hik hk => hnot ⟨k, hik, hk⟩] at h
      exact absurd h (by simp)
    obtain ⟨k, hk⟩ := exists_firstAt hik hk
    rw [head?_stops_blockComment hopen hk] at h
    exact ⟨hopen, k, hk, (Option.some.inj h).symm⟩
  spans := by
    rintro text i j ⟨hopen, k, hk, -⟩
    exact ⟨k + 2, mem_stops.mp (List.mem_of_mem_head? (head?_stops_blockComment hopen hk))⟩
  ordered := by
    rintro text i j i' j' ⟨-, k, hk, rfl⟩ ⟨-, k', hk', rfl⟩ hle
    by_contra hlt
    have := hk'.le
    exact hk.none_before k' (by omega) (by omega) hk'.stands

/-- A block comment of the part is one of the text. -/
lemma Placed.blockAt (h : Placed part text off) (hat : BlockAt part i j) :
    BlockAt text (off + i) (off + j) := by
  obtain ⟨hopen, k, hk, rfl⟩ := hat
  have hend := stop_le_of_prefix_drop (by decide) hk.stands
  have htwo : "*/".toList.length = 2 := rfl
  refine ⟨h.prefix_drop hopen (by decide), off + k, ⟨?_, ?_, ?_⟩, rfl⟩
  · have := hk.le
    omega
  · exact h.prefix_drop hk.stands (by decide)
  · intro l hil hlk hsign
    obtain ⟨l, rfl⟩ := Nat.exists_eq_add_of_le (by omega : off ≤ l)
    rw [h.prefix_drop_iff (by omega)] at hsign
    exact hk.none_before l (by omega) (by omega) hsign

/-- Matches that are settled by lines of their own are found in the joined text too. -/
lemma length_matchesIn_join_le {r : Pattern} {At : List Char → Nat → Nat → Prop} (hr : r.Settled At)
    (hplaced : ∀ {part text off i j}, Placed part text off → At part i j →
      At text (off + i) (off + j)) (a b : List Char) :
    (r.matchesIn a).length + (r.matchesIn b).length ≤ (r.matchesIn (a ++ '\n' :: b)).length := by
  rw [length_matchesIn_eq, length_matchesIn_eq, length_matchesIn_eq]
  refine hr.countFrom_add_le (Nat.le_succ a.length) (fun i j hat => ?_)
    fun i j hat => hplaced (placed_right a b) hat
  have hleft := hplaced (placed_left a b) hat
  rwa [Nat.zero_add, Nat.zero_add] at hleft

lemma commentsIn_join_le (a b : List Char) :
    commentsIn a + commentsIn b ≤ commentsIn (a ++ '\n' :: b) := by
  have hlineComments := length_lineComment_join a b (c := '\n') (by decide) (by decide)
  have hblocks := length_matchesIn_join_le settled_blockComment Placed.blockAt a b
  unfold commentsIn
  omega

/-- No metric of the first is greater than that of the second. -/
def NoneGreater (m n : Metrics) : Prop :=
  m.lineCount ≤ n.lineCount ∧ m.characterCount ≤ n.characterCount ∧ m.wordCount ≤ n.wordCount ∧
    m.functionCount ≤ n.functionCount ∧ m.commentCount ≤ n.commentCount

/-- If two texts are joined with a line break, their lines, words and line comments add up, and so do
their characters and the line break. There are at least as many block comments and functions as
in both, so no text has a greater metric than one with more lines before or behind it. -/
theorem measure_join (a b : String) :
    (measure (a ++ "\n" ++ b)).lineCount = (measure a).lineCount + (measure b).lineCount ∧
      (measure (a ++ "\n" ++ b)).wordCount = (measure a).wordCount + (measure b).wordCount ∧
      (lineComment.matchesIn (a ++ "\n" ++ b).toList).length =
        (lineComment.matchesIn a.toList).length + (lineComment.matchesIn b.toList).length ∧
      (measure (a ++ "\n" ++ b)).characterCount =
        (measure a).characterCount + (measure b).characterCount + 1 ∧
      (blockComment.matchesIn a.toList).length + (blockComment.matchesIn b.toList).length ≤
        (blockComment.matchesIn (a ++ "\n" ++ b).toList).length ∧
      (measure a).functionCount + (measure b).functionCount ≤
        (measure (a ++ "\n" ++ b)).functionCount ∧
      (measure a).commentCount + (measure b).commentCount ≤
        (measure (a ++ "\n" ++ b)).commentCount ∧
      (measure a).NoneGreater (measure (a ++ "\n" ++ b)) ∧
      (measure b).NoneGreater (measure (a ++ "\n" ++ b)) := by
  have htext : (a ++ "\n" ++ b).toList = a.toList ++ '\n' :: b.toList := by
    rw [String.toList_append, String.toList_append, List.append_assoc]
    rfl
  have hlines := length_pieces_join a.toList b.toList
  have hwords := wordCount_join a.toList b.toList (c := '\n') (by decide)
  have hcharacters : (a.toList ++ '\n' :: b.toList).length =
      a.toList.length + b.toList.length + 1 := by
    rw [List.length_append, List.length_cons]
    omega
  have hlineComments := length_lineComment_join a.toList b.toList (c := '\n') (by decide)
    (by decide)
  have hblocks := length_matchesIn_join_le settled_blockComment Placed.blockAt a.toList b.toList
  have hfunctions :=
    length_matchesIn_join_le settled_functionStart Placed.introducesAt a.toList b.toList
  have hcomments := commentsIn_join_le a.toList b.toList
  rw [← htext] at hlines hwords hcharacters hlineComments hblocks hfunctions hcomments
  refine ⟨hlines, hwords, hlineComments, hcharacters, hblocks, hfunctions, hcomments, ?_, ?_⟩
  all_goals
    unfold NoneGreater measure
    dsimp only
    omega

/-- A function that reaches over the join. -/
example : (measure "function").functionCount + (measure "f() {}").functionCount = 0 ∧
    (measure "function\nf() {}").functionCount = 1 := by
  decide

end Metrics
end Checkup
