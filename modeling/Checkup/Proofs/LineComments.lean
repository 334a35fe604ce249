import Checkup.Metrics
import Checkup.Proofs.Counts
import Mathlib.Algebra.GroupWithZero.Nat

/-!
# Line comments and runs of slashes

How many line comments are counted depends on the maximal runs of slashes in the text, their lengths
and the characters before them, and on each of them by itself. The first comment of a run takes two
slashes and the character before the run, unless that is a colon; every other comment takes three
slashes, as it needs a character before its sign and the slashes before that are taken.
-/

namespace Checkup.Metrics
open Pattern

/-- The number of slashes that stand one behind the other from `i` on. -/
def slashesFrom (text : List Char) (i : Nat) : Nat := ((text.drop i).takeWhile (· = '/')).length

/-- A maximal run of slashes: the character before it, if there is one, and its length. -/
structure SlashRun where
  before : Option Char
  length : Nat
deriving DecidableEq, Repr

/-- A run of slashes starts at `i`: there is one, and none before it. -/
def StartsRun (text : List Char) (i : Nat) : Prop :=
  text[i]? = some '/' ∧ (Site.ofText text i).before ≠ some '/'

instance (text : List Char) : DecidablePred (StartsRun text) :=
  fun _ => inferInstanceAs (Decidable (_ ∧ _))

def runAt (text : List Char) (i : Nat) : SlashRun :=
  ⟨(Site.ofText text i).before, slashesFrom text i⟩

/-- The maximal runs of slashes that start at `i` or later. -/
def runsFrom (text : List Char) (i : Nat) : List SlashRun :=
  ((List.range' i (text.length - i)).filter (StartsRun text)).map (runAt text)

def slashRuns (text : List Char) : List SlashRun := runsFrom text 0

/-- The line comments that are counted in a run. -/
def SlashRun.comments (run : SlashRun) : Nat :=
  if run.before = some ':' then run.length / 3 else (run.length + 1) / 3

/-- The line comments that are counted in the runs from `i` on. -/
def runComments (text : List Char) (i : Nat) : Nat := ((runsFrom text i).map (·.comments)).sum

variable {text : List Char} {i : Nat} {c : Char}

lemma site_before_succ (text : List Char) (i : Nat) :
    (Site.ofText text (i + 1)).before = text[i]? := by
  simp [Site.ofText]

lemma slashesFrom_of_ne (h : text[i]? ≠ some '/') : slashesFrom text i = 0 := by
  unfold slashesFrom
  cases hdrop : text.drop i with
  | nil => rfl
  | cons c rest =>
    have hc : text[i]? = some c := by
      rw [← List.head?_drop, hdrop, List.head?_cons]
    have hne : c ≠ '/' := fun heq => h (heq ▸ hc)
    rw [List.takeWhile_cons_of_neg (by simpa using hne), List.length_nil]

lemma slashesFrom_of_slash (h : text[i]? = some '/') :
    slashesFrom text i = slashesFrom text (i + 1) + 1 := by
  obtain ⟨hlt, hget⟩ := List.getElem?_eq_some_iff.mp h
  unfold slashesFrom
  rw [List.drop_eq_getElem_cons hlt, hget, List.takeWhile_cons_of_pos (by decide),
    List.length_cons]

lemma slash_of_slashesFrom (h : 0 < slashesFrom text i) : text[i]? = some '/' := by
  by_contra hne
  rw [slashesFrom_of_ne hne] at h
  omega

lemma slashesFrom_add (text : List Char) (i k : Nat) (h : k ≤ slashesFrom text i) :
    slashesFrom text (i + k) + k = slashesFrom text i := by
  induction k with
  | zero => rfl
  | succ k ih =>
    have hrest := ih (by omega)
    rw [slashesFrom_of_slash (slash_of_slashesFrom (by omega))] at hrest
    rw [← Nat.add_assoc i k 1]
    omega

lemma before_in_run (text : List Char) (i k : Nat) (hk : 0 < k) (h : k ≤ slashesFrom text i) :
    (Site.ofText text (i + k)).before = some '/' := by
  obtain ⟨k, rfl⟩ := Nat.exists_eq_succ_of_ne_zero (Nat.ne_of_gt hk)
  have hrest := slashesFrom_add text i k (Nat.le_of_succ_le h)
  rw [Nat.add_succ, site_before_succ]
  exact slash_of_slashesFrom (by omega)

/-- Behind a run stands no further slash. -/
lemma getElem?_behind_slashes (text : List Char) (i : Nat) :
    text[i + slashesFrom text i]? ≠ some '/' := by
  intro h
  have hrest := slashesFrom_add text i _ (Nat.le_refl (slashesFrom text i))
  rw [slashesFrom_of_slash h] at hrest
  omega

lemma stops_slashes (text : List Char) (i : Nat) :
    (Pattern.text "//").stops text i = if 2 ≤ slashesFrom text i then [i + 2] else [] := by
  have hslashes : Pattern.text "//" = seq (char (.one '/')) (char (.one '/')) := rfl
  have hslash (k : Nat) : (text[k]?.any (CharSet.one '/').contains = true) ↔
      text[k]? = some '/' := by
    rw [← CharSet.holdsAt_iff_any, CharSet.holdsAt_one]
  rw [hslashes, stops_seq, stops_char]
  by_cases hi : text[i]? = some '/'
  · rw [if_pos ((hslash i).mpr hi), List.flatMap_singleton, stops_char, slashesFrom_of_slash hi]
    by_cases hnext : text[i + 1]? = some '/'
    · rw [if_pos ((hslash (i + 1)).mpr hnext), slashesFrom_of_slash hnext, if_pos (by omega)]
    · rw [if_neg (mt (hslash (i + 1)).mp hnext), slashesFrom_of_ne hnext, if_neg (by omega)]
  · rw [if_neg (mt (hslash i).mp hi), slashesFrom_of_ne hi, if_neg (by omega), List.flatMap_nil]

lemma stops_slashes_of_ne (hi : text[i]? = some c) (hc : c ≠ '/') :
    (Pattern.text "//").stops text i = [] := by
  have hne : text[i]? ≠ some '/' := by simpa [hi] using hc
  rw [stops_slashes, slashesFrom_of_ne hne, if_neg (by omega)]

lemma stops_lineComment (text : List Char) (i : Nat) :
    lineComment.stops text i =
      (if Assertion.lineStart.holds (Site.ofText text i).before (Site.ofText text i).after then
        (Pattern.text "//").stops text i else []) ++
      if text[i]?.any (CharSet.allBut ":").contains then (Pattern.text "//").stops text (i + 1)
      else [] := by
  have hparts : lineComment =
      seq (alt (look .lineStart) (char (.allBut ":"))) (Pattern.text "//") := rfl
  rw [hparts, stops_seq, stops_alt, stops_look, stops_char, List.flatMap_append]
  congr 1
  · split <;> simp
  · split <;> simp

/-- The place is not the start of a line at which a comment begins. -/
def NotAtLineStart (text : List Char) (i : Nat) : Prop :=
  Assertion.lineStart.holds (Site.ofText text i).before (Site.ofText text i).after = false ∨
    slashesFrom text i < 2

lemma notAtLineStart_of_before (h : (Site.ofText text i).before = some c) (hc : c ≠ '\n') :
    NotAtLineStart text i := by
  left
  simp [Assertion.holds, h, hc]

lemma stops_lineComment_of_not (h : NotAtLineStart text i) :
    lineComment.stops text i =
      if text[i]?.any (CharSet.allBut ":").contains then
        if 2 ≤ slashesFrom text (i + 1) then [i + 3] else []
      else [] := by
  rw [stops_lineComment, stops_slashes, stops_slashes]
  rcases h with hstart | hfew
  · rw [hstart, if_neg (by decide), List.nil_append]
  · rw [if_neg (by omega : ¬2 ≤ slashesFrom text i), ite_self, List.nil_append]

lemma contains_allBut_colon : (CharSet.allBut ":").contains c ↔ c ≠ ':' := by
  simp [CharSet.allBut, CharSet.of, CharSet.contains]

lemma countFrom_lineComment_of_char (h : NotAtLineStart text i) (hc : text[i]? = some c)
    (hcolon : c ≠ ':') (hslashes : 2 ≤ slashesFrom text (i + 1)) :
    lineComment.countFrom text i = lineComment.countFrom text (i + 3) + 1 := by
  refine countFrom_of_head (by decide) ?_
  rw [stops_lineComment_of_not h, hc, Option.any_some, if_pos (contains_allBut_colon.mpr hcolon),
    if_pos hslashes, List.head?_cons]

lemma countFrom_lineComment_of_colon (h : NotAtLineStart text i) (hc : text[i]? = some ':') :
    lineComment.countFrom text i = lineComment.countFrom text (i + 1) := by
  refine countFrom_of_nil ?_
  rw [stops_lineComment_of_not h, hc, Option.any_some, if_neg (by decide)]

lemma countFrom_lineComment_of_few (h : NotAtLineStart text i)
    (hslashes : slashesFrom text (i + 1) < 2) :
    lineComment.countFrom text i = lineComment.countFrom text (i + 1) := by
  refine countFrom_of_nil ?_
  rw [stops_lineComment_of_not h, if_neg (by omega : ¬2 ≤ slashesFrom text (i + 1)), ite_self]

/-- Behind a colon or another slash every comment takes three slashes. -/
lemma countFrom_in_run (h : (Site.ofText text i).before = some c) (hc : c = '/' ∨ c = ':') :
    lineComment.countFrom text i =
      slashesFrom text i / 3 + lineComment.countFrom text (i + slashesFrom text i) := by
  induction hn : slashesFrom text i using Nat.strongRecOn generalizing i c with
  | ind n ih =>
    have hstart : NotAtLineStart text i := by
      apply notAtLineStart_of_before h
      rintro rfl
      simp at hc
    rcases Nat.lt_or_ge n 3 with hfew | hmany
    · rcases Nat.eq_zero_or_pos n with rfl | hpos
      · simp
      have hrun := slashesFrom_add text i 1 (by omega)
      have hbefore := before_in_run text i 1 (by omega) (by omega)
      have hrest := ih (slashesFrom text (i + 1)) (by omega) hbefore (.inl rfl) rfl
      have hstop : i + 1 + slashesFrom text (i + 1) = i + n := by omega
      rw [countFrom_lineComment_of_few hstart (by omega), hrest, hstop]
      omega
    · -- The slash at `i` is the character before the comment.
      have hslash : text[i]? = some '/' := slash_of_slashesFrom (by omega)
      have hnext := slashesFrom_add text i 1 (by omega)
      have hrun := slashesFrom_add text i 3 (by omega)
      have hbefore := before_in_run text i 3 (by omega) (by omega)
      have hrest := ih (slashesFrom text (i + 3)) (by omega) hbefore (.inl rfl) rfl
      have hstop : i + 3 + slashesFrom text (i + 3) = i + n := by omega
      rw [countFrom_lineComment_of_char hstart hslash (by decide) (by omega), hrest, hstop]
      omega

/-- The comments of a run whose first one takes two slashes. -/
lemma countFrom_run_of_first (h : 2 ≤ slashesFrom text i) :
    lineComment.countFrom text (i + 2) + 1 =
      (slashesFrom text i + 1) / 3 + lineComment.countFrom text (i + slashesFrom text i) := by
  have hrun := slashesFrom_add text i 2 h
  have hbefore := before_in_run text i 2 (by omega) h
  have hstop : i + 2 + slashesFrom text (i + 2) = i + slashesFrom text i := by omega
  rw [countFrom_in_run hbefore (.inl rfl), hstop]
  omega

/-- A run that is too short for a comment. -/
lemma countFrom_run_of_few (h : slashesFrom text i < 2) :
    lineComment.countFrom text i =
      (slashesFrom text i + 1) / 3 + lineComment.countFrom text (i + slashesFrom text i) := by
  rcases Nat.eq_zero_or_pos (slashesFrom text i) with hzero | hpos
  · simp [hzero]
  · have hrun := slashesFrom_add text i 1 hpos
    have hone : slashesFrom text i = 1 := by omega
    rw [countFrom_lineComment_of_few (.inr h) (by omega), hone]
    omega

/-- The character before a run, and the run. -/
lemma countFrom_before_run (hc : text[i]? = some c) (hslash : c ≠ '/') :
    lineComment.countFrom text i = (runAt text (i + 1)).comments +
      lineComment.countFrom text (i + 1 + slashesFrom text (i + 1)) := by
  have hne : text[i]? ≠ some '/' := by simpa [hc] using hslash
  have hstart : NotAtLineStart text i := .inr (by rw [slashesFrom_of_ne hne]; omega)
  have hbefore : (Site.ofText text (i + 1)).before = some c := by rw [site_before_succ, hc]
  by_cases hcolon : c = ':'
  · subst hcolon
    rw [countFrom_lineComment_of_colon hstart hc, countFrom_in_run hbefore (.inr rfl),
      SlashRun.comments, runAt, if_pos hbefore]
  · have hcomments : (runAt text (i + 1)).comments = (slashesFrom text (i + 1) + 1) / 3 := by
      rw [SlashRun.comments, runAt, if_neg (by simpa [hbefore] using hcolon)]
    rw [hcomments]
    rcases Nat.lt_or_ge (slashesFrom text (i + 1)) 2 with hfew | hmany
    · rw [countFrom_lineComment_of_few hstart hfew, countFrom_run_of_few hfew]
    · rw [countFrom_lineComment_of_char hstart hc hcolon hmany]
      exact countFrom_run_of_first hmany

/-- The run at the start of a text. -/
lemma countFrom_first_run (text : List Char) :
    lineComment.countFrom text 0 =
      (runAt text 0).comments + lineComment.countFrom text (slashesFrom text 0) := by
  have hcomments : (runAt text 0).comments = (slashesFrom text 0 + 1) / 3 := rfl
  rw [hcomments]
  rcases Nat.lt_or_ge (slashesFrom text 0) 2 with hfew | hmany
  · have hrun := countFrom_run_of_few hfew
    rwa [Nat.zero_add] at hrun
  · have hrun := countFrom_run_of_first hmany
    rw [Nat.zero_add (slashesFrom text 0)] at hrun
    have hhead : (lineComment.stops text 0).head? = some (0 + 2) := by
      rw [stops_lineComment, if_pos (by rfl), stops_slashes, if_pos hmany]
      rfl
    rw [countFrom_of_head (by decide) hhead]
    exact hrun

lemma runComments_of_not (h : ¬StartsRun text i) : runComments text i = runComments text (i + 1) := by
  unfold runComments runsFrom
  rcases Nat.lt_or_ge i text.length with hi | hi
  · have hlen : text.length - i = text.length - (i + 1) + 1 := by omega
    rw [hlen, List.range'_succ, List.filter_cons_of_neg (by simpa using h)]
  · have hlen : text.length - i = 0 ∧ text.length - (i + 1) = 0 := by omega
    rw [hlen.1, hlen.2]
    rfl

lemma runComments_of_starts (h : StartsRun text i) :
    runComments text i = (runAt text i).comments + runComments text (i + 1) := by
  have hi := (List.getElem?_eq_some_iff.mp h.1).1
  have hlen : text.length - i = text.length - (i + 1) + 1 := by omega
  unfold runComments runsFrom
  rw [hlen, List.range'_succ, List.filter_cons_of_pos (by simpa using h), List.map_cons,
    List.map_cons, List.sum_cons]

lemma runComments_of_length_le (h : text.length ≤ i) : runComments text i = 0 := by
  have hempty : text.length - i = 0 := by omega
  simp [runComments, runsFrom, hempty]

/-- No run starts inside another. -/
lemma runComments_in_run {k : Nat} (h : (Site.ofText text k).before = some '/') :
    runComments text k = runComments text (k + slashesFrom text k) := by
  induction hn : slashesFrom text k generalizing k with
  | zero => rfl
  | succ n ih =>
    have hrun := slashesFrom_add text k 1 (by omega)
    have hbefore := before_in_run text k 1 (by omega) (by omega)
    rw [runComments_of_not fun hstarts => hstarts.2 h, ih hbefore (by omega)]
    congr 1
    omega

lemma runComments_run (h : (Site.ofText text i).before ≠ some '/') :
    runComments text i = (runAt text i).comments + runComments text (i + slashesFrom text i) := by
  rcases Nat.eq_zero_or_pos (slashesFrom text i) with hzero | hpos
  · have hcomments : (runAt text i).comments = 0 := by simp [runAt, SlashRun.comments, hzero]
    rw [hcomments, hzero]
    simp
  · have hrun := slashesFrom_add text i 1 hpos
    have hbefore := before_in_run text i 1 (by omega) hpos
    rw [runComments_of_starts ⟨slash_of_slashesFrom hpos, h⟩, runComments_in_run hbefore]
    congr 2
    omega

/-- From a place outside the runs on, the comments are those of the runs that follow. -/
lemma countFrom_eq_runComments (h : text[i]? ≠ some '/') :
    lineComment.countFrom text i = runComments text i := by
  induction hn : text.length - i using Nat.strongRecOn generalizing i with
  | ind n ih =>
    have hskip : runComments text i = runComments text (i + 1) :=
      runComments_of_not fun hstarts => h hstarts.1
    cases hc : text[i]? with
    | none =>
      have hlen := List.getElem?_eq_none_iff.mp hc
      rw [countFrom_of_length_le (by decide) hlen, runComments_of_length_le hlen]
    | some c =>
      have hslash : c ≠ '/' := by simpa [hc] using h
      have hlt := (List.getElem?_eq_some_iff.mp hc).1
      have hbefore : (Site.ofText text (i + 1)).before ≠ some '/' := by
        rwa [site_before_succ]
      rw [countFrom_before_run hc hslash, hskip, runComments_run hbefore,
        ih _ (by omega) (getElem?_behind_slashes text (i + 1)) rfl]

/-- The line comments are those of the runs of slashes. -/
theorem length_lineComment (text : List Char) :
    (lineComment.matchesIn text).length = ((slashRuns text).map (·.comments)).sum := by
  have hbefore : (Site.ofText text 0).before ≠ some '/' := by
    simp [Site.ofText]
  have hbehind := getElem?_behind_slashes text 0
  have hruns := runComments_run hbefore
  rw [Nat.zero_add] at hbehind hruns
  rw [length_matchesIn_eq, countFrom_first_run, countFrom_eq_runComments hbehind, ← hruns]
  rfl

/-!
## Joined texts

A run of slashes does not go beyond a character that is no slash, and what stands before a run
matters only if it is a colon.
-/

variable {a b : List Char}

lemma drop_join_right (a b : List Char) (c : Char) (i : Nat) :
    (a ++ c :: b).drop (a.length + 1 + i) = b.drop i := by
  rw [Nat.add_assoc, List.drop_length_add_append, Nat.add_comm 1 i, List.drop_succ_cons]

lemma getElem?_join_right (a b : List Char) (c : Char) (i : Nat) :
    (a ++ c :: b)[a.length + 1 + i]? = b[i]? := by
  rw [← List.head?_drop, drop_join_right, List.head?_drop]

lemma before_append_left (a b : List Char) (h : i ≤ a.length) :
    (Site.ofText (a ++ b) i).before = (Site.ofText a i).before := by
  cases i with
  | zero => rfl
  | succ i => rw [site_before_succ, site_before_succ, List.getElem?_append_left h]

lemma before_join_right (a b : List Char) (c : Char) (i : Nat) :
    (Site.ofText (a ++ c :: b) (a.length + 1 + i)).before =
      if i = 0 then some c else (Site.ofText b i).before := by
  cases i with
  | zero =>
    rw [Nat.add_zero, site_before_succ, if_pos rfl]
    simp
  | succ i =>
    rw [← Nat.add_assoc, site_before_succ, getElem?_join_right, if_neg (Nat.succ_ne_zero i),
      site_before_succ]

lemma slashesFrom_join_left (hc : c ≠ '/') (h : i ≤ a.length) :
    slashesFrom (a ++ c :: b) i = slashesFrom a i := by
  have hstop : (c :: b).takeWhile (· = '/') = [] :=
    List.takeWhile_cons_of_neg (by simpa using hc)
  unfold slashesFrom
  rw [List.drop_append_of_le_length h, List.takeWhile_append]
  split
  · rename_i hall
    rw [hstop, List.append_nil, hall]
  · rfl

lemma slashesFrom_join_right (a b : List Char) (c : Char) (i : Nat) :
    slashesFrom (a ++ c :: b) (a.length + 1 + i) = slashesFrom b i := by
  rw [slashesFrom, drop_join_right, slashesFrom]

/-- The line comments in the run that starts at `i`, if one does. -/
def commentsAt (text : List Char) (i : Nat) : Nat :=
  if StartsRun text i then (runAt text i).comments else 0

lemma runComments_succ (text : List Char) (i : Nat) :
    runComments text i = commentsAt text i + runComments text (i + 1) := by
  rw [commentsAt]
  split
  · exact runComments_of_starts ‹_›
  · rw [runComments_of_not ‹_›, Nat.zero_add]

lemma commentsAt_join_left (hc : c ≠ '/') (h : i < a.length) :
    commentsAt (a ++ c :: b) i = commentsAt a i := by
  have hbefore := before_append_left a (c :: b) (Nat.le_of_lt h)
  have hstarts : StartsRun (a ++ c :: b) i ↔ StartsRun a i := by
    rw [StartsRun, List.getElem?_append_left h, hbefore, StartsRun]
  have hrun : runAt (a ++ c :: b) i = runAt a i := by
    rw [runAt, hbefore, slashesFrom_join_left hc (Nat.le_of_lt h), runAt]
  rw [commentsAt, hrun, commentsAt]
  simp only [hstarts]

lemma commentsAt_join_right (hc : c ≠ '/') (hcolon : c ≠ ':') (i : Nat) :
    commentsAt (a ++ c :: b) (a.length + 1 + i) = commentsAt b i := by
  have hbefore := before_join_right a b c i
  have hslashes := slashesFrom_join_right a b c i
  cases i with
  | zero =>
    -- Neither the character before the second text nor the start of that text is a colon.
    rw [if_pos rfl] at hbefore
    have hstarts : StartsRun (a ++ c :: b) (a.length + 1 + 0) ↔ StartsRun b 0 := by
      rw [StartsRun, getElem?_join_right, hbefore, StartsRun]
      simp [Site.ofText, hc]
    have hcomments : (runAt (a ++ c :: b) (a.length + 1 + 0)).comments = (runAt b 0).comments := by
      rw [runAt, hbefore, hslashes, runAt]
      simp [SlashRun.comments, Site.ofText, hcolon]
    rw [commentsAt, hcomments, commentsAt]
    simp only [hstarts]
  | succ i =>
    rw [if_neg (Nat.succ_ne_zero i)] at hbefore
    have hstarts : StartsRun (a ++ c :: b) (a.length + 1 + (i + 1)) ↔ StartsRun b (i + 1) := by
      rw [StartsRun, getElem?_join_right, hbefore, StartsRun]
    have hrun : runAt (a ++ c :: b) (a.length + 1 + (i + 1)) = runAt b (i + 1) := by
      rw [runAt, hbefore, hslashes, runAt]
    rw [commentsAt, hrun, commentsAt]
    simp only [hstarts]

lemma runComments_join_right (hc : c ≠ '/') (hcolon : c ≠ ':') (i : Nat) :
    runComments (a ++ c :: b) (a.length + 1 + i) = runComments b i := by
  induction hn : b.length - i generalizing i with
  | zero =>
    have hlen : (a ++ c :: b).length ≤ a.length + 1 + i := by
      rw [List.length_append, List.length_cons]
      omega
    rw [runComments_of_length_le hlen, runComments_of_length_le (by omega)]
  | succ n ih =>
    have hrest := ih (i + 1) (by omega)
    rw [← Nat.add_assoc] at hrest
    rw [runComments_succ, runComments_succ b, commentsAt_join_right hc hcolon, hrest]

lemma runComments_join (hc : c ≠ '/') (hcolon : c ≠ ':') (h : i ≤ a.length) :
    runComments (a ++ c :: b) i = runComments a i + runComments b 0 := by
  induction hn : a.length - i generalizing i with
  | zero =>
    obtain rfl : i = a.length := by omega
    have hnot : ¬StartsRun (a ++ c :: b) a.length := by
      rintro ⟨hslash, -⟩
      simp [hc] at hslash
    rw [runComments_of_length_le (Nat.le_refl _), Nat.zero_add, runComments_of_not hnot]
    exact runComments_join_right hc hcolon 0
  | succ n ih =>
    rw [runComments_succ, runComments_succ a, commentsAt_join_left hc (by omega),
      ih (by omega) (by omega), Nat.add_assoc]

/-- A character between two texts that is neither a slash nor a colon keeps their line comments
apart. -/
theorem length_lineComment_join (a b : List Char) (hc : c ≠ '/') (hcolon : c ≠ ':') :
    (lineComment.matchesIn (a ++ c :: b)).length =
      (lineComment.matchesIn a).length + (lineComment.matchesIn b).length := by
  rw [length_lineComment, length_lineComment, length_lineComment]
  exact runComments_join hc hcolon (Nat.zero_le _)

end Checkup.Metrics
