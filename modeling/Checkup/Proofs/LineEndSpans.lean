import Checkup.Proofs.LineEnds
import Checkup.Proofs.Spans

/-!
# Patterns and line ends

Where a pattern can match in a text, and where it can match in the same text with carriage returns
before its line feeds. What a pattern is built from decides whether carriage returns matter to it:
`Pattern.ignoresReturns` goes through its parts, and a pattern that passes occurs in both texts or
in neither. A pattern can fail at two places: where one character has to be the line feed itself,
and where a part that ended behind a carriage return leaves the line feed to a part that cannot
take it or has to take more.
-/

namespace Checkup

namespace Text

/-- The position `j` of the text with carriage returns is the moved position `i`, or lies in the
line break that starts there. -/
def Origin (text : List Char) (j i : Nat) : Prop :=
  j = moved text i ∨ (text[i]? = some '\n' ∧ j = moved text i + 1)

variable {text : List Char} {i j i' j' : Nat}

lemma exists_origin (text : List Char) (j : Nat) : ∃ i, Origin text j i := by
  rcases eq_moved_or_inBreak text j with ⟨i, rfl⟩ | ⟨i, hi, rfl⟩
  · exact ⟨i, .inl rfl⟩
  · exact ⟨i, .inr ⟨hi, rfl⟩⟩

lemma Origin.unique (hi : Origin text j i) (hi' : Origin text j i') : i = i' := by
  rcases hi with hj | ⟨hi, hj⟩
  · rcases hi' with hj' | ⟨hi', hj'⟩
    · exact (moved_strictMono text).injective (hj.symm.trans hj')
    · exact absurd ⟨i', hi', hj.symm.trans hj'⟩ (not_inBreak_moved text i)
  · rcases hi' with hj' | ⟨hi', hj'⟩
    · exact absurd ⟨i, hi, hj'.symm.trans hj⟩ (not_inBreak_moved text i')
    · exact (moved_strictMono text).injective (Nat.add_right_cancel (hj.symm.trans hj'))

lemma Origin.le_length (hi : Origin text j i) (hj : j ≤ (windows text).length) :
    i ≤ text.length := by
  rw [← moved_length] at hj
  refine (moved_strictMono text).le_iff_le.mp ?_
  rcases hi with h | ⟨-, h⟩ <;> omega

/-- What stands before and behind a moved position; a line feed behind it has its carriage return
before it. -/
lemma site_moved (text : List Char) (i : Nat) :
    (Site.ofText (windows text) (moved text i)).before = (Site.ofText text i).before ∧
      (Site.ofText (windows text) (moved text i)).after =
        if text[i]? = some '\n' then some '\r' else text[i]? := by
  refine ⟨?_, ?_⟩
  · cases i with
    | zero => rfl
    | succ i =>
      have hpos := moved_succ text i
      by_cases hi : text[i]? = some '\n'
      · rw [if_pos hi] at hpos
        simp only [Site.ofText, hpos, Nat.succ_ne_zero, if_false,
          Nat.add_sub_cancel, hi]
        exact getElem?_windows_break hi
      · rw [if_neg hi] at hpos
        simp only [Site.ofText, hpos, Nat.succ_ne_zero, if_false, Nat.add_sub_cancel]
        exact getElem?_windows_of_ne hi
  · by_cases hi : text[i]? = some '\n'
    · rw [if_pos hi]
      exact getElem?_windows_of_break hi
    · rw [if_neg hi]
      exact getElem?_windows_of_ne hi

/-- In a line break stands the carriage return before and the line feed behind. -/
lemma site_inBreak (h : InBreak text j) :
    (Site.ofText (windows text) j).before = some '\r' ∧
      (Site.ofText (windows text) j).after = some '\n' := by
  obtain ⟨i, hi, rfl⟩ := h
  refine ⟨?_, getElem?_windows_break hi⟩
  simp only [Site.ofText, Nat.succ_ne_zero, if_false, Nat.add_sub_cancel]
  exact getElem?_windows_of_break hi

end Text

open Text

variable {text : List Char} {i j i' j' : Nat}

lemma Assertion.holds_of_moved {a : Assertion}
    (h : a.holds (Site.ofText (windows text) (moved text i)).before
      (Site.ofText (windows text) (moved text i)).after) :
    a.holds (Site.ofText text i).before (Site.ofText text i).after := by
  obtain ⟨hbefore, hafter⟩ := site_moved text i
  rw [hbefore, hafter] at h
  by_cases hi : text[i]? = some '\n'
  · have hsite : (Site.ofText text i).after = some '\n' := hi
    rw [if_pos hi] at h
    rw [hsite]
    cases a <;> first | exact h | rfl
  · rw [if_neg hi] at h
    exact h

lemma Assertion.holds_moved {a : Assertion} (ha : a ≠ .lineEnd)
    (h : a.holds (Site.ofText text i).before (Site.ofText text i).after) :
    a.holds (Site.ofText (windows text) (moved text i)).before
      (Site.ofText (windows text) (moved text i)).after := by
  obtain ⟨hbefore, hafter⟩ := site_moved text i
  rw [hbefore, hafter]
  by_cases hi : text[i]? = some '\n'
  · have hsite : (Site.ofText text i).after = some '\n' := hi
    rw [hsite] at h
    rw [if_pos hi]
    cases a <;> first | exact h | exact absurd rfl ha
  · rw [if_neg hi]
    exact h

namespace CharSet

variable {s : CharSet}

/-- A character that is not a line feed is the same in both texts. -/
lemma HoldsAt.moved (h : s.HoldsAt text i) (hs : s.contains '\n' → s.contains '\r') :
    s.HoldsAt (windows text) (moved text i) := by
  by_cases hi : text[i]? = some '\n'
  · exact ⟨'\r', getElem?_windows_of_break hi, hs (h.contains hi)⟩
  · obtain ⟨c, hc, hsc⟩ := h
    exact ⟨c, (getElem?_windows_of_ne hi).trans hc, hsc⟩

lemma HoldsAt.of_origin (h : s.HoldsAt (windows text) j) (hj : Origin text j i)
    (hs : s.contains '\r' → s.contains '\n') : s.HoldsAt text i := by
  rcases hj with rfl | ⟨hi, rfl⟩
  · by_cases hi : text[i]? = some '\n'
    · exact ⟨'\n', hi, hs (h.contains (getElem?_windows_of_break hi))⟩
    · obtain ⟨c, hc, hsc⟩ := h
      exact ⟨c, (getElem?_windows_of_ne hi).symm.trans hc, hsc⟩
  · exact ⟨'\n', hi, h.contains (getElem?_windows_break hi)⟩

/-- A run over both characters of a line break, if it has one in it. -/
lemma run_moved (h : ∀ k, i ≤ k → k < j → s.HoldsAt text k)
    (hs : s.contains '\n' → s.contains '\r') :
    ∀ k, moved text i ≤ k → k < moved text j → s.HoldsAt (windows text) k := by
  intro k hik hkj
  rcases eq_moved_or_inBreak text k with ⟨l, rfl⟩ | ⟨l, hl, rfl⟩
  · exact (h l ((moved_strictMono text).le_iff_le.mp hik)
      ((moved_strictMono text).lt_iff_lt.mp hkj)).moved hs
  · have hstep := moved_succ_of_break hl
    have hil : i ≤ l := by
      by_contra hlt
      have := (moved_strictMono text).monotone (show l + 1 ≤ i by omega)
      omega
    have hlj : l < j := by
      by_contra hle
      have := (moved_strictMono text).monotone (Nat.not_lt.mp hle)
      omega
    exact ⟨'\n', getElem?_windows_break hl, (h l hil hlj).contains hl⟩

lemma run_of_origin (h : ∀ k, i' ≤ k → k < j' → s.HoldsAt (windows text) k)
    (hi : Origin text i' i) (hj : Origin text j' j) :
    ∀ k, i ≤ k → k < j → s.HoldsAt text k := by
  intro k hik hkj
  have hkj' : moved text k < moved text j := moved_strictMono text hkj
  have hik' : moved text i ≤ moved text k := (moved_strictMono text).monotone hik
  by_cases hk : text[k]? = some '\n'
  · have hstep := moved_succ_of_break hk
    have hnext := (moved_strictMono text).monotone (show k + 1 ≤ j from hkj)
    have hfeed := h (moved text k + 1) (by rcases hi with h | ⟨-, h⟩ <;> omega)
      (by rcases hj with h | ⟨-, h⟩ <;> omega)
    exact ⟨'\n', hk, hfeed.contains (getElem?_windows_break hk)⟩
  · have hstart : i' ≤ moved text k := by
      rcases hi with h | ⟨hbreak, h⟩
      · omega
      · have hne : i ≠ k := fun heq => hk (heq ▸ hbreak)
        have := moved_strictMono text (show i < k by omega)
        omega
    obtain ⟨c, hc, hsc⟩ := h (moved text k) hstart (by rcases hj with h | ⟨-, h⟩ <;> omega)
    exact ⟨c, (getElem?_windows_of_ne hk).symm.trans hc, hsc⟩

end CharSet

namespace Pattern

/-- A repetition of one character. -/
def isRun : Pattern → Bool
  | plus _ (char _) => true
  | _ => false

/-- No match starts between a carriage return and its line feed. -/
def startsOutside : Pattern → Bool
  | empty => false
  | char s => !s.contains '\n'
  | look a => !a.holds (some '\r') (some '\n')
  | seq r _ => r.startsOutside
  | alt r s => r.startsOutside && s.startsOutside
  | plus _ r => r.startsOutside
  | mark r => r.startsOutside

/-- A match that ends between a carriage return and its line feed is also one without them. -/
def settles : Pattern → Bool
  | empty => true
  | char s => !s.contains '\r'
  | look a => a == .lineEnd || !a.holds (some '\r') (some '\n')
  | seq _ s => s.settles
  | alt r s => (r.settles || (r.isRun && s == empty)) && s.settles
  | plus _ r => r.settles
  | mark r => r.settles

/-- What the pattern matches in a text with carriage returns, it matches without them. -/
def narrows : Pattern → Bool
  | empty => true
  | char _ => true
  | look _ => true
  | seq r s => r.narrows && s.narrows && (r.settles || s.startsOutside)
  | alt r s => r.narrows && s.narrows
  | plus _ (char _) => true
  | plus _ _ => false
  | mark r => r.narrows

/-- What the pattern matches in a text, it matches with carriage returns. -/
def widens : Pattern → Bool
  | empty => true
  | char s => !s.contains '\n'
  | look a => a != .lineEnd
  | seq r s => r.widens && s.widens
  | alt r s => r.widens && s.widens
  | plus _ (char s) => !s.contains '\n' || s.contains '\r'
  | plus _ _ => false
  | mark r => r.widens

/-- The pattern occurs in a text with carriage returns exactly if it occurs without them. Its last
character may be a line feed if it may also be a carriage return. -/
def ignoresReturns : Pattern → Bool
  | char s => s.contains '\n' == s.contains '\r'
  | seq r s => r.widens && r.narrows && (r.settles || s.startsOutside) && s.ignoresReturns
  | alt r s => r.ignoresReturns && s.ignoresReturns
  | mark r => r.ignoresReturns
  | r => r.widens && r.narrows && r.settles

variable {r s : Pattern}

lemma Spans.not_inBreak (h : r.Spans (windows text) i' j') (hr : r.startsOutside) :
    ¬InBreak text i' := by
  intro hbreak
  induction r generalizing i' j' with
  | empty => simp [startsOutside] at hr
  | char s =>
    obtain ⟨hs, -⟩ := spans_char.mp h
    obtain ⟨i, hi, rfl⟩ := hbreak
    simp [startsOutside, hs.contains (getElem?_windows_break hi)] at hr
  | look a =>
    obtain ⟨hholds, -⟩ := spans_look.mp h
    obtain ⟨hbefore, hafter⟩ := site_inBreak hbreak
    rw [hbefore, hafter] at hholds
    simp [startsOutside, hholds] at hr
  | seq r s ihr ihs =>
    obtain ⟨k, hrk, -⟩ := spans_seq.mp h
    exact ihr hrk hr hbreak
  | alt r s ihr ihs =>
    rw [startsOutside, Bool.and_eq_true] at hr
    rcases spans_alt.mp h with h | h
    · exact ihr h hr.1 hbreak
    · exact ihs h hr.2 hbreak
  | plus greedy r ih =>
    obtain ⟨k, hround, -⟩ := h.exists_round
    exact ih hround hr hbreak
  | mark r ih => exact ih (spans_mark.mp h) hr hbreak

/-- What a pattern that widens matches in a text, it matches with carriage returns. -/
theorem Spans.moved (h : r.Spans text i j) (hr : r.widens) :
    r.Spans (windows text) (moved text i) (moved text j) := by
  induction r generalizing i j with
  | empty =>
    rw [spans_empty] at h ⊢
    rw [h]
  | char s =>
    obtain ⟨hs, rfl⟩ := spans_char.mp h
    have hne : text[i]? ≠ some '\n' := fun hi => by simp [widens, hs.contains hi] at hr
    refine spans_char.mpr ⟨hs.moved fun hbreak => ?_, moved_succ_of_ne hne⟩
    simp [widens, hbreak] at hr
  | look a =>
    obtain ⟨hholds, rfl⟩ := spans_look.mp h
    exact spans_look.mpr ⟨Assertion.holds_moved (by simpa [widens] using hr) hholds, rfl⟩
  | seq r s ihr ihs =>
    rw [widens, Bool.and_eq_true] at hr
    obtain ⟨k, hrk, hks⟩ := spans_seq.mp h
    exact spans_seq.mpr ⟨Text.moved text k, ihr hrk hr.1, ihs hks hr.2⟩
  | alt r s ihr ihs =>
    rw [widens, Bool.and_eq_true] at hr
    rcases spans_alt.mp h with h | h
    · exact spans_alt.mpr (.inl (ihr h hr.1))
    · exact spans_alt.mpr (.inr (ihs h hr.2))
  | plus greedy r _ =>
    cases r with
    | char s =>
      obtain ⟨hij, hrun⟩ := spans_plus_char.mp h
      refine spans_plus_char.mpr
        ⟨moved_strictMono text hij, CharSet.run_moved hrun fun hbreak => ?_⟩
      simpa [widens, hbreak] using hr
    | _ => simp [widens] at hr
  | mark r ih => exact spans_mark.mpr (ih (spans_mark.mp h) hr)

/-- The same run without carriage returns; it is empty if it was a carriage return only. -/
lemma run_narrow {c : CharSet} (hij : i' < j')
    (hrun : ∀ k, i' ≤ k → k < j' → c.HoldsAt (windows text) k)
    (hi : Origin text i' i) (hj : Origin text j' j) :
    (i < j ∨ (i = j ∧ InBreak text j' ∧ c.contains '\r')) ∧
      ∀ k, i ≤ k → k < j → c.HoldsAt text k := by
  refine ⟨?_, CharSet.run_of_origin hrun hi hj⟩
  rcases Nat.lt_or_ge i j with hlt | hle
  · exact .inl hlt
  · have hmoved := (moved_strictMono text).monotone hle
    rcases hj with hj | ⟨hbreak, hj⟩
    · rcases hi with h | ⟨-, h⟩ <;> omega
    · have hij' : moved text i = moved text j := by rcases hi with h | ⟨-, h⟩ <;> omega
      have hstart : i' = moved text j := by rcases hi with h | ⟨-, h⟩ <;> omega
      have hreturn := (hrun i' (Nat.le_refl _) hij).contains
        (hstart ▸ getElem?_windows_of_break hbreak)
      exact .inr ⟨(moved_strictMono text).injective hij', ⟨j, hbreak, hj⟩, hreturn⟩

/-- What a pattern that narrows matches in a text with carriage returns, it matches without them.
Where a match ends inside a line break the pattern has to settle. -/
theorem Spans.narrow (h : r.Spans (windows text) i' j') (hr : r.narrows) (hi : Origin text i' i)
    (hj : Origin text j' j) (hend : r.settles ∨ ¬InBreak text j') : r.Spans text i j := by
  induction r generalizing i' j' i j with
  | empty =>
    rw [spans_empty] at h ⊢
    exact (hi.unique (h ▸ hj)).symm
  | char s =>
    obtain ⟨hs, rfl⟩ := spans_char.mp h
    rcases hi with rfl | ⟨hi, rfl⟩
    · by_cases hi : text[i]? = some '\n'
      · have hreturn := hs.contains (getElem?_windows_of_break hi)
        rcases hend with hend | hend
        · simp [settles, hreturn] at hend
        · exact absurd ⟨i, hi, rfl⟩ hend
      · have hnext : j = i + 1 := hj.unique (.inl (moved_succ_of_ne hi).symm)
        obtain ⟨c, hc, hsc⟩ := hs
        exact spans_char.mpr ⟨⟨c, (getElem?_windows_of_ne hi).symm.trans hc, hsc⟩, hnext⟩
    · have hnext : j = i + 1 := hj.unique (.inl (moved_succ_of_break hi).symm)
      exact spans_char.mpr ⟨⟨'\n', hi, hs.contains (getElem?_windows_break hi)⟩, hnext⟩
  | look a =>
    obtain ⟨hholds, rfl⟩ := spans_look.mp h
    obtain rfl := hi.unique hj
    refine spans_look.mpr ⟨?_, rfl⟩
    rcases hi with rfl | ⟨hi, rfl⟩
    · exact Assertion.holds_of_moved hholds
    · have hbreak : InBreak text (Text.moved text i + 1) := ⟨i, hi, rfl⟩
      obtain ⟨hbefore, hafter⟩ := site_inBreak hbreak
      rw [hbefore, hafter] at hholds
      have hsettles := hend.resolve_right (not_not_intro hbreak)
      simp only [settles, hholds, Bool.not_true, Bool.or_false, beq_iff_eq] at hsettles
      have hafter : (Site.ofText text i).after = some '\n' := hi
      rw [hsettles, hafter]
      rfl
  | seq r s ihr ihs =>
    rw [narrows, Bool.and_eq_true, Bool.and_eq_true, Bool.or_eq_true] at hr
    obtain ⟨k', hrk, hks⟩ := spans_seq.mp h
    obtain ⟨k, hk⟩ := exists_origin text k'
    have hmiddle : r.settles ∨ ¬InBreak text k' := hr.2.imp_right fun hs => hks.not_inBreak hs
    exact spans_seq.mpr ⟨k, ihr hrk hr.1.1 hi hk hmiddle, ihs hks hr.1.2 hk hj hend⟩
  | alt r s ihr ihs =>
    rw [narrows, Bool.and_eq_true] at hr
    simp only [settles, Bool.and_eq_true, Bool.or_eq_true, beq_iff_eq] at hend
    rw [spans_alt] at h ⊢
    rcases h with h | h
    · by_cases hsettles : r.settles ∨ ¬InBreak text j'
      · exact .inl (ihr h hr.1 hi hj hsettles)
      · -- A run that ends inside a line break may have to be the empty one.
        obtain ⟨hrun, rfl⟩ : r.isRun = true ∧ s = empty := by tauto
        cases r with
        | plus greedy r =>
          cases r with
          | char c =>
            obtain ⟨hij, hc⟩ := spans_plus_char.mp h
            obtain ⟨hlt | ⟨heq, -⟩, hc⟩ := run_narrow hij hc hi hj
            · exact .inl (spans_plus_char.mpr ⟨hlt, hc⟩)
            · exact .inr (spans_empty.mpr heq.symm)
          | _ => simp [isRun] at hrun
        | _ => simp [isRun] at hrun
    · exact .inr (ihs h hr.2 hi hj (by tauto))
  | plus greedy r _ =>
    cases r with
    | char c =>
      obtain ⟨hij, hc⟩ := spans_plus_char.mp h
      obtain ⟨hlt | ⟨-, hbreak, hreturn⟩, hc⟩ := run_narrow hij hc hi hj
      · exact spans_plus_char.mpr ⟨hlt, hc⟩
      · rcases hend with hend | hend
        · simp [settles, hreturn] at hend
        · exact absurd hbreak hend
    | _ => simp [narrows] at hr
  | mark r ih => exact spans_mark.mpr (ih (spans_mark.mp h) hr hi hj hend)

lemma spans_windows_of_parts (hr : r.widens && r.narrows && r.settles) (hi : Origin text i' i) :
    (∀ j', r.Spans (windows text) i' j' → ∃ j, r.Spans text i j) ∧
      (i' = Text.moved text i → ∀ j, r.Spans text i j → ∃ j', r.Spans (windows text) i' j') := by
  simp only [Bool.and_eq_true] at hr
  refine ⟨fun j' h => ?_, ?_⟩
  · obtain ⟨j, hj⟩ := exists_origin text j'
    exact ⟨j, h.narrow hr.1.2 hi hj (.inl hr.2)⟩
  · rintro rfl j h
    exact ⟨_, h.moved hr.1.1⟩

/-- Where the pattern matches in one of the two texts, it matches at the same place of the other,
though the match can end elsewhere. -/
theorem spans_windows (hr : r.ignoresReturns) (hi : Origin text i' i) :
    (∀ j', r.Spans (windows text) i' j' → ∃ j, r.Spans text i j) ∧
      (i' = Text.moved text i → ∀ j, r.Spans text i j → ∃ j', r.Spans (windows text) i' j') := by
  induction r generalizing i' i with
  | empty => exact spans_windows_of_parts hr hi
  | char s =>
    simp only [ignoresReturns, beq_iff_eq] at hr
    refine ⟨fun j' h => ?_, ?_⟩
    · obtain ⟨hs, -⟩ := spans_char.mp h
      exact ⟨i + 1, spans_char.mpr ⟨hs.of_origin hi fun h => hr ▸ h, rfl⟩⟩
    · rintro rfl j h
      obtain ⟨hs, -⟩ := spans_char.mp h
      exact ⟨_, spans_char.mpr ⟨hs.moved fun h => hr ▸ h, rfl⟩⟩
  | look a => exact spans_windows_of_parts hr hi
  | seq r s _ ihs =>
    simp only [ignoresReturns, Bool.and_eq_true, Bool.or_eq_true] at hr
    obtain ⟨⟨⟨hwiden, hnarrow⟩, hmiddle⟩, hs⟩ := hr
    refine ⟨fun j' h => ?_, ?_⟩
    · obtain ⟨k', hrk, hks⟩ := spans_seq.mp h
      obtain ⟨k, hk⟩ := exists_origin text k'
      obtain ⟨j, hj⟩ := (ihs hs hk).1 j' hks
      have hend : r.settles ∨ ¬InBreak text k' := hmiddle.imp_right fun h => hks.not_inBreak h
      exact ⟨j, spans_seq.mpr ⟨k, hrk.narrow hnarrow hi hk hend, hj⟩⟩
    · rintro rfl j h
      obtain ⟨k, hrk, hks⟩ := spans_seq.mp h
      obtain ⟨j', hj'⟩ := (ihs hs (.inl rfl)).2 rfl j hks
      exact ⟨j', spans_seq.mpr ⟨_, hrk.moved hwiden, hj'⟩⟩
  | alt r s ihr ihs =>
    simp only [ignoresReturns, Bool.and_eq_true] at hr
    refine ⟨fun j' h => ?_, fun hmoved j h => ?_⟩
    · rcases spans_alt.mp h with h | h
      · exact ((ihr hr.1 hi).1 j' h).imp fun j hj => spans_alt.mpr (.inl hj)
      · exact ((ihs hr.2 hi).1 j' h).imp fun j hj => spans_alt.mpr (.inr hj)
    · rcases spans_alt.mp h with h | h
      · exact ((ihr hr.1 hi).2 hmoved j h).imp fun j hj => spans_alt.mpr (.inl hj)
      · exact ((ihs hr.2 hi).2 hmoved j h).imp fun j hj => spans_alt.mpr (.inr hj)
  | plus greedy r _ => exact spans_windows_of_parts hr hi
  | mark r ih =>
    simp only [spans_mark]
    exact ih hr hi

/-- A pattern to which carriage returns do not matter occurs in both texts or in neither. -/
theorem occursIn_windows (hr : r.ignoresReturns) (text : List Char) :
    r.occursIn (windows text) = r.occursIn text := by
  rw [Bool.eq_iff_iff, occursIn_iff, occursIn_iff]
  constructor
  · rintro ⟨i', j', hlen, h⟩
    obtain ⟨i, hi⟩ := exists_origin text i'
    obtain ⟨j, hj⟩ := (spans_windows hr hi).1 j' h
    exact ⟨i, j, hi.le_length hlen, hj⟩
  · rintro ⟨i, j, hlen, h⟩
    obtain ⟨j', hj'⟩ := (spans_windows hr (.inl rfl)).2 rfl j h
    have hmoved := (moved_strictMono text).monotone hlen
    rw [moved_length] at hmoved
    exact ⟨_, j', hmoved, hj'⟩

end Pattern
end Checkup
