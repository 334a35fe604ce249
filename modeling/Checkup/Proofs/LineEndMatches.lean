import Checkup.Proofs.LineComments
import Checkup.Proofs.LineEndSpans
import Checkup.Proofs.Stops

/-!
# Scans, metrics and line ends

A text and the same text with carriage returns before its line feeds have the same findings, and the
same metrics apart from the number of characters. For the findings this is about the lines. The
counts of functions and of comments come from searches in the whole text, where a carriage return
can be the one character that a match takes behind a sign or before it; `Pattern.stops_windows` says
for patterns that `tracks` accepts that their matches end at the same places in the same order.
-/

namespace Checkup
open Text

variable {text : List Char} {i j i' j' : Nat}

lemma Text.inBreak_iff : InBreak text j ↔ (windows text)[j]? = some '\n' := by
  constructor
  · rintro ⟨i, hi, rfl⟩
    exact getElem?_windows_break hi
  · intro hj
    rcases eq_moved_or_inBreak text j with ⟨i, rfl⟩ | hbreak
    · by_cases hi : text[i]? = some '\n'
      · rw [getElem?_windows_of_break hi] at hj
        exact absurd hj (by decide)
      · rw [getElem?_windows_of_ne hi] at hj
        exact absurd hj hi
    · exact hbreak

instance : DecidablePred (InBreak text) := fun _ => decidable_of_iff _ inBreak_iff.symm

namespace Pattern

/-- A match that starts outside a line break ends outside one. -/
def endsOutside : Pattern → Bool
  | empty => true
  | char s => !s.contains '\r'
  | look _ => true
  | seq r s => (r.endsOutside || s.startsOutside) && s.endsOutside
  | alt r s => r.endsOutside && s.endsOutside
  | plus _ (char s) => !s.contains '\r'
  | plus _ _ => false
  | mark r => r.endsOutside

/-- With carriage returns the pattern has the matches that it has without them, in the same order,
and others that end inside a line break only. -/
def tracks : Pattern → Bool
  | empty => true
  | char s => !s.contains '\n'
  | look a => a != .lineEnd
  | seq r s => r.tracks && s.tracks && (r.endsOutside || s.startsOutside)
  | alt r s => r.tracks && s.tracks
  | plus _ (char s) => !s.contains '\n' || s.contains '\r'
  | plus _ _ => false
  | mark r => r.tracks

variable {r s : Pattern}

/-- A character that is no carriage return ends outside a line break. -/
lemma not_inBreak_succ {s : CharSet} (h : s.HoldsAt (windows text) j) (hs : !s.contains '\r') :
    ¬InBreak text (j + 1) := by
  intro hbreak
  obtain ⟨i, hi, heq⟩ := hbreak
  obtain rfl : j = moved text i := Nat.succ.inj heq
  simp [h.contains (getElem?_windows_of_break hi)] at hs

lemma Spans.not_inBreak_stop (h : r.Spans (windows text) i' j') (hr : r.endsOutside)
    (hi : ¬InBreak text i') : ¬InBreak text j' := by
  induction r generalizing i' j' with
  | empty => rwa [spans_empty.mp h]
  | char s =>
    obtain ⟨hs, rfl⟩ := spans_char.mp h
    exact not_inBreak_succ hs hr
  | look a =>
    obtain ⟨-, rfl⟩ := spans_look.mp h
    exact hi
  | seq r s ihr ihs =>
    simp only [endsOutside, Bool.and_eq_true, Bool.or_eq_true] at hr
    obtain ⟨k, hrk, hks⟩ := spans_seq.mp h
    refine ihs hks hr.2 ?_
    rcases hr.1 with hr | hs
    · exact ihr hrk hr hi
    · exact hks.not_inBreak hs
  | alt r s ihr ihs =>
    rw [endsOutside, Bool.and_eq_true] at hr
    rcases spans_alt.mp h with h | h
    · exact ihr h hr.1 hi
    · exact ihs h hr.2 hi
  | plus greedy r _ =>
    cases r with
    | char s =>
      obtain ⟨hij, hrun⟩ := spans_plus_char.mp h
      have hlast := not_inBreak_succ (hrun (j' - 1) (by omega) (by omega)) hr
      rwa [Nat.sub_add_cancel (by omega)] at hlast
    | _ => simp [endsOutside] at hr
  | mark r ih => exact ih (spans_mark.mp h) hr hi

/-- The members of a list outside line breaks. -/
def outside (text : List Char) (js : List Nat) : List Nat := js.filter (¬InBreak text ·)

lemma outside_append (js ks : List Nat) :
    outside text (js ++ ks) = outside text js ++ outside text ks := List.filter_append js ks

@[simp] lemma outside_nil : outside text [] = [] := rfl

@[simp] lemma outside_cons_moved (i : Nat) (js : List Nat) :
    outside text (moved text i :: js) = moved text i :: outside text js := by
  simp [outside, not_inBreak_moved]

lemma outside_cons_inBreak (h : InBreak text j) (js : List Nat) :
    outside text (j :: js) = outside text js := by
  simp [outside, h]

lemma holdsAt_moved_iff {s : CharSet} (hi : text[i]? ≠ some '\n') :
    s.HoldsAt (windows text) (moved text i) ↔ s.HoldsAt text i := by
  rw [CharSet.HoldsAt, CharSet.HoldsAt, getElem?_windows_of_ne hi]

lemma holdsAt_iff_contains {s : CharSet} {c : Char} (hc : text[i]? = some c) :
    s.HoldsAt text i ↔ s.contains c := by
  simp [CharSet.HoldsAt, hc]

/-- A run that has come between the two characters of a line break ends there, or goes on behind
the break. -/
lemma outside_runStops_break (greedy : Bool) (s : CharSet) (hi : text[i]? = some '\n') :
    outside text (runStops (windows text) greedy s (moved text i + 1)) =
      if s.contains '\n' then outside text (runStops (windows text) greedy s (moved text (i + 1)))
      else [] := by
  have hbreak : InBreak text (moved text i + 1) := ⟨i, hi, rfl⟩
  have hfeed := holdsAt_iff_contains (s := s) (getElem?_windows_break hi)
  rw [moved_succ_of_break hi]
  split
  · rename_i hs
    rw [runStops_of_holdsAt greedy (hfeed.mpr hs)]
    cases greedy <;> simp [outside_append, outside_cons_inBreak hbreak]
  · rename_i hs
    rw [runStops_of_not greedy (mt hfeed.mp hs), outside_cons_inBreak hbreak, outside_nil]

lemma outside_runStops (text : List Char) {s : CharSet} (greedy : Bool)
    (hs : !s.contains '\n' || s.contains '\r') (i : Nat) :
    outside text (runStops (windows text) greedy s (moved text i)) =
      (runStops text greedy s i).map (moved text) := by
  induction hn : text.length - i using Nat.strongRecOn generalizing i with
  | ind n ih =>
    have hnext (hlt : i < text.length) := ih (text.length - (i + 1)) (by omega) (i + 1) rfl
    by_cases hi : text[i]? = some '\n'
    · have hlt := (List.getElem?_eq_some_iff.mp hi).1
      have hreturn := holdsAt_iff_contains (s := s) (getElem?_windows_of_break hi)
      have hfeed := holdsAt_iff_contains (s := s) hi
      have hbetween := outside_runStops_break greedy s hi
      by_cases hn : s.contains '\n'
      · have hr : s.contains '\r' := by simpa [hn] using hs
        rw [if_pos hn, hnext hlt] at hbetween
        rw [runStops_of_holdsAt greedy (hreturn.mpr hr), runStops_of_holdsAt greedy (hfeed.mpr hn)]
        cases greedy <;> simp [outside_append, hbetween]
      · rw [if_neg hn] at hbetween
        rw [runStops_of_not greedy (mt hfeed.mp hn)]
        by_cases hr : s.contains '\r'
        · rw [runStops_of_holdsAt greedy (hreturn.mpr hr)]
          cases greedy <;> simp [outside_append, hbetween]
        · rw [runStops_of_not greedy (mt hreturn.mp hr)]
          exact outside_cons_moved i []
    · have hiff := holdsAt_moved_iff (s := s) hi
      by_cases hold : s.HoldsAt text i
      · have hrest := hnext hold.lt
        rw [moved_succ_of_ne hi] at hrest
        rw [runStops_of_holdsAt greedy hold, runStops_of_holdsAt greedy (hiff.mpr hold)]
        cases greedy <;> simp [outside_append, hrest]
      · rw [runStops_of_not greedy hold, runStops_of_not greedy (mt hiff.mp hold)]
        exact outside_cons_moved i []

/-- Parts that have nothing to add from inside a line break need not be asked there. -/
lemma flatMap_outside (text : List Char) {f : Nat → List Nat} {js : List Nat}
    (h : ∀ j ∈ js, InBreak text j → f j = []) : (outside text js).flatMap f = js.flatMap f := by
  induction js with
  | nil => rfl
  | cons j js ih =>
    have hrest := ih fun k hk => h k (List.mem_cons_of_mem j hk)
    rw [← List.singleton_append, outside_append, List.flatMap_append, List.flatMap_append, hrest]
    by_cases hj : InBreak text j
    · simp [outside_cons_inBreak hj, h j List.mem_cons_self hj]
    · simp [outside, hj]

lemma stops_eq_nil_of_inBreak (hr : r.startsOutside) (hj : InBreak text j) :
    r.stops (windows text) j = [] := by
  refine List.eq_nil_iff_forall_not_mem.mpr fun k hk => ?_
  exact (mem_stops.mp hk).not_inBreak hr hj

/-- A pattern that tracks has in a text with carriage returns, from a moved position on and outside
line breaks, the matches that it has without them, in the same order. -/
theorem stops_windows (hr : r.tracks) (i : Nat) :
    outside text (r.stops (windows text) (moved text i)) = (r.stops text i).map (moved text) := by
  induction r generalizing i with
  | empty => exact outside_cons_moved i []
  | char s =>
    simp only [tracks, Bool.not_eq_true'] at hr
    rw [stops_char, stops_char]
    by_cases hi : text[i]? = some '\n'
    · rw [hi, Option.any_some, hr]
      split
      · exact outside_cons_inBreak ⟨i, hi, rfl⟩ []
      · rfl
    · rw [getElem?_windows_of_ne hi, ← moved_succ_of_ne hi]
      split
      · exact outside_cons_moved (i + 1) []
      · rfl
  | look a =>
    have hiff : a.holds (Site.ofText (windows text) (moved text i)).before
        (Site.ofText (windows text) (moved text i)).after ↔
          a.holds (Site.ofText text i).before (Site.ofText text i).after :=
      ⟨Assertion.holds_of_moved, Assertion.holds_moved (by simpa [tracks] using hr)⟩
    rw [stops_look, stops_look]
    simp only [hiff]
    split
    · exact outside_cons_moved i []
    · rfl
  | seq r s ihr ihs =>
    simp only [tracks, Bool.and_eq_true, Bool.or_eq_true] at hr
    rw [stops_seq, stops_seq, outside, List.filter_flatMap, ← flatMap_outside text,
      ihr hr.1.1, List.flatMap_map, List.map_flatMap]
    · exact congrArg (List.flatMap · _) (funext fun k => ihs hr.1.2 k)
    · intro k hk hbreak
      rcases hr.2 with hr | hs
      · exact absurd hbreak ((mem_stops.mp hk).not_inBreak_stop hr (not_inBreak_moved text i))
      · rw [stops_eq_nil_of_inBreak hs hbreak, List.filter_nil]
  | alt r s ihr ihs =>
    rw [tracks, Bool.and_eq_true] at hr
    rw [stops_alt, stops_alt, outside_append, ihr hr.1, ihs hr.2, List.map_append]
  | plus greedy r _ =>
    cases r with
    | char s =>
      have hruns (k : Nat) := outside_runStops text greedy hr k
      rw [stops_plus_char, stops_plus_char]
      by_cases hi : text[i]? = some '\n'
      · rw [getElem?_windows_of_break hi, hi, Option.any_some, Option.any_some]
        have hbetween := outside_runStops_break greedy s hi
        rw [hruns (i + 1)] at hbetween
        by_cases hn : s.contains '\n'
        · have hreturn : s.contains '\r' := by simpa [tracks, hn] using hr
          simpa [hn, hreturn] using hbetween
        · split
          · simpa [hn] using hbetween
          · simp
      · rw [getElem?_windows_of_ne hi, ← moved_succ_of_ne hi]
        split
        · exact hruns (i + 1)
        · rfl
    | _ => simp [tracks] at hr
  | mark r ih =>
    rw [stops_mark, stops_mark]
    exact ih hr i

lemma stops_windows_of_endsOutside (hr : r.tracks) (he : r.endsOutside) (i : Nat) :
    r.stops (windows text) (moved text i) = (r.stops text i).map (moved text) := by
  rw [← stops_windows hr, outside, List.filter_eq_self.mpr]
  intro j hj
  simpa using (mem_stops.mp hj).not_inBreak_stop he (not_inBreak_moved text i)

lemma meets_of_tracks (hr : r.tracks) (he : r.endsOutside) (i : Nat) :
    (r.stops text i).Forall₂ (Meets (moved text)) (r.stops (windows text) (moved text i)) := by
  rw [stops_windows_of_endsOutside hr he, List.forall₂_map_right_iff, List.forall₂_same]
  exact fun j _ => meets_apply (moved_strictMono text) j

/-- One more character may be the carriage return of a line break: no match can start behind it and
still in the break. -/
lemma meets_seq_char {s : CharSet} (hr : r.tracks) (he : r.endsOutside)
    (hs : s.contains '\n' = s.contains '\r') (i : Nat) :
    ((seq r (char s)).stops text i).Forall₂ (Meets (moved text))
      ((seq r (char s)).stops (windows text) (moved text i)) := by
  rw [stops_seq, stops_seq, stops_windows_of_endsOutside hr he, List.flatMap_map]
  refine List.rel_flatMap (R := Eq) (List.forall₂_eq_eq_eq ▸ rfl) ?_
  rintro k _ rfl
  have hsame : ((windows text)[moved text k]?).any s.contains = (text[k]?).any s.contains := by
    by_cases hk : text[k]? = some '\n'
    · rw [getElem?_windows_of_break hk, hk, Option.any_some, Option.any_some, hs]
    · rw [getElem?_windows_of_ne hk]
  dsimp only
  rw [stops_char, stops_char, hsame]
  split
  · refine .cons (fun i => ?_) .nil
    rw [Nat.succ_le_iff, Nat.succ_le_iff, (moved_strictMono text).lt_iff_lt]
  · exact .nil

/-- A pattern mirrors a text in the one with carriage returns if its matches at moved positions meet
those at the old ones and none starts inside a line break. -/
lemma mirrors_windows (hr : r.startsOutside)
    (h : ∀ i, (r.stops text i).Forall₂ (Meets (moved text))
      (r.stops (windows text) (moved text i))) : r.Mirrors (moved text) text (windows text) where
  strictMono := moved_strictMono text
  le_length i := by rw [← moved_length, (moved_strictMono text).le_iff_le]
  stops := h
  nothingNew j hj := stops_eq_nil_of_inBreak hr
    ((eq_moved_or_inBreak text j).resolve_left (not_exists.mpr hj))

end Pattern

namespace Metrics
open Pattern

lemma functionStart_mirrors (text : List Char) :
    functionStart.Mirrors (moved text) text (windows text) := by
  refine mirrors_windows (by decide) fun i => ?_
  simp only [functionStart, choice, stops_alt]
  refine List.rel_append ?_ (List.rel_append ?_ ?_)
  · exact meets_of_tracks (by decide) (by decide) i
  · exact meets_seq_char (by decide) (by decide) (by decide) i
  · exact meets_of_tracks (by decide) (by decide) i

lemma blockComment_mirrors (text : List Char) :
    blockComment.Mirrors (moved text) text (windows text) :=
  mirrors_windows (by decide) (meets_of_tracks (by decide) (by decide))

/-- Where the character before a comment goes: a line feed goes to the line feed, as only the
comment that stands right behind it matters. -/
def shifted (text : List Char) (i : Nat) : Nat :=
  if text[i]? = some '\n' then moved text i + 1 else moved text i

lemma shifted_lt_moved (text : List Char) {i j : Nat} (h : i < j) :
    shifted text i < moved text j := by
  have hstep := (moved_strictMono text).monotone (show i + 1 ≤ j from h)
  rw [moved_succ] at hstep
  rw [shifted]
  split <;> split at hstep <;> omega

lemma moved_le_shifted (text : List Char) (i : Nat) : moved text i ≤ shifted text i := by
  rw [shifted]
  split <;> omega

lemma shifted_strictMono (text : List Char) : StrictMono (shifted text) := fun _ _ h =>
  Nat.lt_of_lt_of_le (shifted_lt_moved text h) (moved_le_shifted text _)

lemma meets_shifted_moved (text : List Char) (j : Nat) : Meets (shifted text) j (moved text j) := by
  intro i
  constructor
  · intro h
    by_contra hlt
    have := shifted_lt_moved text (Nat.not_le.mp hlt)
    omega
  · intro h
    exact Nat.le_trans ((moved_strictMono text).monotone h) (moved_le_shifted text i)

lemma stops_slashes_windows (text : List Char) (i : Nat) :
    (Pattern.text "//").stops (windows text) (moved text i) =
      ((Pattern.text "//").stops text i).map (moved text) :=
  stops_windows_of_endsOutside (by decide) (by decide) i

lemma stops_lineComment_windows (text : List Char) (i : Nat) :
    lineComment.stops (windows text) (shifted text i) =
      (lineComment.stops text i).map (moved text) := by
  rw [stops_lineComment, stops_lineComment, List.map_append, shifted]
  by_cases hi : text[i]? = some '\n'
  · rw [if_pos hi, stops_slashes_of_ne (getElem?_windows_break hi) (by decide),
      stops_slashes_of_ne hi (by decide), ite_self, ite_self, getElem?_windows_break hi, hi,
      Option.any_some, if_pos (by decide), if_pos (by decide), Nat.add_assoc,
      ← moved_succ_of_break hi, stops_slashes_windows]
    rfl
  · obtain ⟨hbefore, hafter⟩ := site_moved text i
    have hsame : (Site.ofText (windows text) (moved text i)).after = (Site.ofText text i).after :=
      hafter.trans (if_neg hi)
    rw [if_neg hi, hbefore, hsame, getElem?_windows_of_ne hi, ← moved_succ_of_ne hi,
      stops_slashes_windows, stops_slashes_windows]
    congr 1
    · split <;> rfl
    · split <;> rfl

lemma lineComment_mirrors (text : List Char) :
    lineComment.Mirrors (shifted text) text (windows text) where
  strictMono := shifted_strictMono text
  le_length i := by
    rw [← moved_length]
    constructor
    · intro h
      exact (moved_strictMono text).le_iff_le.mp (Nat.le_trans (moved_le_shifted text i) h)
    · intro h
      rcases Nat.eq_or_lt_of_le h with rfl | hlt
      · rw [shifted, if_neg (by simp)]
      · exact Nat.le_of_lt (shifted_lt_moved text hlt)
  stops i := by
    rw [stops_lineComment_windows, List.forall₂_map_right_iff, List.forall₂_same]
    exact fun j _ => meets_shifted_moved text j
  nothingNew j hj := by
    have hreturn : ∃ i, text[i]? = some '\n' ∧ j = moved text i := by
      rcases eq_moved_or_inBreak text j with ⟨i, rfl⟩ | ⟨i, hi, rfl⟩
      · refine ⟨i, ?_, rfl⟩
        by_contra hi
        exact hj i (if_neg hi).symm
      · exact absurd (if_pos hi).symm (hj i)
    obtain ⟨i, hi, rfl⟩ := hreturn
    rw [stops_lineComment, stops_slashes_of_ne (getElem?_windows_of_break hi) (by decide),
      stops_slashes_of_ne (getElem?_windows_break hi) (by decide), ite_self, ite_self]
    rfl

/-- With carriage returns at the ends of its lines a text has as many lines, words, functions and
comments, and one more character for each line feed. -/
lemma measure_windows (code : String) :
    measure (windowsText code) =
      { measure code with
        characterCount := (measure code).characterCount + code.toList.count '\n' } := by
  have hfunctions := (functionStart_mirrors code.toList).length_matchesIn (by decide)
  have hlineComments := (lineComment_mirrors code.toList).length_matchesIn (by decide)
  have hblockComments := (blockComment_mirrors code.toList).length_matchesIn (by decide)
  simp only [measure, commentsIn, toList_windowsText, hfunctions, hlineComments, hblockComments,
    length_pieces, count_windows, wordCount_windows, length_windows]

end Metrics

lemma Finding.scan_windows (catalog : Catalog) (language : Language) {code : String}
    (h : '\r' ∉ code.toList) :
    scan catalog (windowsText code) language = scan catalog code language := by
  rw [scan, scan, toList_windowsText, lines_windows h]

/-- A text without carriage returns, and the same text with one before each line feed, have the same
findings, whatever the catalog and the language are, and as many lines, words, functions and
comments. The number of characters grows by that of the line feeds. -/
theorem scan_measure_windows (catalog : Catalog) (language : Language) (code : String)
    (h : '\r' ∉ code.toList) :
    Finding.scan catalog (windowsText code) language = Finding.scan catalog code language ∧
      Metrics.measure (windowsText code) =
        { Metrics.measure code with
          characterCount := (Metrics.measure code).characterCount + code.toList.count '\n' } :=
  ⟨Finding.scan_windows catalog language h, Metrics.measure_windows code⟩

/-- A value that starts in the line after its name, and comments right behind a line feed. -/
theorem scan_measure_windows_comments :
    let code := "let f =\n  () => 1\n//\n// eval(f)\n"
    '\r' ∉ code.toList ∧
      Finding.scan .builtin (windowsText code) .javascript =
        Finding.scan .builtin code .javascript ∧
      Metrics.measure (windowsText code) = ⟨5, 36, 9, 2, 2⟩ := by
  intro code
  have hreturns : '\r' ∉ code.toList := by decide
  have hmeasure : Metrics.measure code = ⟨5, 32, 9, 2, 2⟩ := by decide +kernel
  have hcount : code.toList.count '\n' = 4 := by decide
  have hboth := scan_measure_windows .builtin .javascript code hreturns
  rw [hmeasure, hcount] at hboth
  exact ⟨hreturns, hboth⟩

end Checkup
