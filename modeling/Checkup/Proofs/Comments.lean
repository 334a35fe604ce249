import Checkup.Proofs.LineComments
import Mathlib.Data.Nat.Find

/-!
# Comments

The comments of a text are counted as the line comments in its runs of slashes and the rounds of a
plain scanner, which goes from the sign that opens a block comment to the first sign behind it that
closes it.
-/

namespace Checkup.Metrics
open Pattern

/-- What stands behind the first place at which the sign stands. -/
def restBehind (sign : List Char) : List Char → Option (List Char)
  | [] => none
  | c :: text =>
    if sign.isPrefixOf (c :: text) then some ((c :: text).drop sign.length)
    else restBehind sign text

/-- What stands behind the first block comment: behind the first opening sign and the first closing
one that follows it. -/
def restBehindBlock (text : List Char) : Option (List Char) :=
  (restBehind "/*".toList text).bind (restBehind "*/".toList)

lemma length_restBehind_lt {sign text rest : List Char} (hsign : 0 < sign.length)
    (h : restBehind sign text = some rest) : rest.length < text.length := by
  induction text with
  | nil => exact absurd h (by simp [restBehind])
  | cons c text ih =>
    rw [restBehind] at h
    split at h
    · rw [← Option.some.inj h, List.length_drop, List.length_cons]
      omega
    · have := ih h
      rw [List.length_cons]
      omega

lemma length_restBehindBlock_lt {text rest : List Char} (h : restBehindBlock text = some rest) :
    rest.length < text.length := by
  obtain ⟨inner, hopen, hclose⟩ := Option.bind_eq_some_iff.mp h
  exact Nat.lt_trans (length_restBehind_lt (by decide) hclose)
    (length_restBehind_lt (by decide) hopen)

/-- The number of block comments that are found one behind the other. -/
def blockComments (text : List Char) : Nat :=
  match _ : restBehindBlock text with
  | none => 0
  | some rest => blockComments rest + 1
termination_by text.length
decreasing_by exact length_restBehindBlock_lt ‹_›

variable {text : List Char} {i j : Nat}

lemma blockComments_of_none (h : restBehindBlock text = none) : blockComments text = 0 := by
  rw [blockComments.eq_def]
  split
  · rfl
  · simp_all

lemma blockComments_of_some {rest : List Char} (h : restBehindBlock text = some rest) :
    blockComments text = blockComments rest + 1 := by
  rw [blockComments.eq_def]
  split
  · simp_all
  · simp_all

lemma blockComments_congr {text' : List Char} (h : restBehindBlock text = restBehindBlock text') :
    blockComments text = blockComments text' := by
  cases hrest : restBehindBlock text' with
  | none => rw [blockComments_of_none hrest, blockComments_of_none (h.trans hrest)]
  | some rest => rw [blockComments_of_some hrest, blockComments_of_some (h.trans hrest)]

lemma restBehind_append {sign : List Char} (rest : List Char) (hsign : 0 < sign.length) :
    restBehind sign (sign ++ rest) = some rest := by
  cases sign with
  | nil => exact absurd hsign (by decide)
  | cons c sign =>
    have hbegins : (c :: sign).isPrefixOf (c :: (sign ++ rest)) :=
      List.isPrefixOf_iff_prefix.mpr (List.prefix_append (c :: sign) rest)
    rw [List.cons_append, restBehind, if_pos hbegins, ← List.cons_append, List.drop_left]

lemma restBehind_drop_of_prefix {sign : List Char} (hsign : 0 < sign.length)
    (h : sign <+: text.drop i) :
    restBehind sign (text.drop i) = some (text.drop (i + sign.length)) := by
  obtain ⟨rest, hrest⟩ := h
  rw [← List.drop_drop, ← hrest, restBehind_append rest hsign, List.drop_left]

lemma restBehind_drop_of_not {sign : List Char} (h : ¬sign <+: text.drop i) :
    restBehind sign (text.drop i) = restBehind sign (text.drop (i + 1)) := by
  rcases Nat.lt_or_ge i text.length with hi | hi
  · rw [List.drop_eq_getElem_cons hi] at h ⊢
    rw [restBehind, if_neg (mt List.isPrefixOf_iff_prefix.mp h)]
  · rw [List.drop_eq_nil_of_le hi, List.drop_eq_nil_of_le (by omega)]

lemma stop_le_of_prefix_drop {sign : List Char} (hsign : 0 < sign.length)
    (h : sign <+: text.drop i) : i + sign.length ≤ text.length := by
  have hle := h.length_le
  rw [List.length_drop] at hle
  omega

/-- The sign stands at `k`, and nowhere from `i` on before that. -/
structure FirstAt (sign text : List Char) (i k : Nat) : Prop where
  le : i ≤ k
  stands : sign <+: text.drop k
  none_before : ∀ l, i ≤ l → l < k → ¬sign <+: text.drop l

lemma FirstAt.restBehind_eq {sign : List Char} {k : Nat} (hsign : 0 < sign.length)
    (h : FirstAt sign text i k) :
    restBehind sign (text.drop i) = some (text.drop (k + sign.length)) := by
  obtain ⟨hle, hstands, hbefore⟩ := h
  induction hn : k - i generalizing i with
  | zero =>
    obtain rfl : i = k := by omega
    exact restBehind_drop_of_prefix hsign hstands
  | succ n ih =>
    rw [restBehind_drop_of_not (hbefore i (Nat.le_refl i) (by omega))]
    exact ih (by omega) (fun l hl => hbefore l (by omega)) (by omega)

lemma exists_firstAt {sign : List Char} {k : Nat} (hik : i ≤ k) (h : sign <+: text.drop k) :
    ∃ l, FirstAt sign text i l := by
  classical
  have hex : ∃ l, i ≤ l ∧ sign <+: text.drop l := ⟨k, hik, h⟩
  obtain ⟨hle, hstands⟩ := Nat.find_spec hex
  exact ⟨Nat.find hex, hle, hstands, fun l hil hl hprefix => Nat.find_min hex hl ⟨hil, hprefix⟩⟩

lemma restBehind_eq_none {sign : List Char} (h : ∀ k, i ≤ k → ¬sign <+: text.drop k) :
    restBehind sign (text.drop i) = none := by
  induction hn : text.length - i generalizing i with
  | zero =>
    rw [List.drop_eq_nil_of_le (by omega)]
    rfl
  | succ n ih =>
    rw [restBehind_drop_of_not (h i (Nat.le_refl i))]
    exact ih (fun k hk => h k (by omega)) (by omega)

lemma holdsAt_everything (hi : i < text.length) : CharSet.everything.HoldsAt text i :=
  ⟨text[i], List.getElem?_eq_getElem hi, by simp [CharSet.everything, CharSet.nothing,
    CharSet.contains]⟩

lemma runStops_everything (hi : i ≤ text.length) :
    runStops text false .everything i = List.range' i (text.length + 1 - i) := by
  induction hn : text.length - i generalizing i with
  | zero =>
    obtain rfl : i = text.length := by omega
    have hnot : ¬CharSet.everything.HoldsAt text text.length := fun h => absurd h.lt (by omega)
    rw [runStops_of_not false hnot, Nat.add_sub_cancel_left]
    rfl
  | succ n ih =>
    have hlen : text.length + 1 - i = text.length + 1 - (i + 1) + 1 := by omega
    rw [runStops_of_holdsAt false (holdsAt_everything (by omega)), ih (by omega) (by omega), hlen,
      List.range'_succ]
    rfl

/-- Any number of characters, the fewest first. -/
lemma stops_few_everything (hi : i ≤ text.length) :
    (few (char .everything)).stops text i = List.range' i (text.length + 1 - i) := by
  have hempty : empty.stops text i = [i] := rfl
  rw [few, stops_alt, hempty, stops_plus_char, List.singleton_append]
  rcases Nat.eq_or_lt_of_le hi with rfl | hlt
  · simp
  · have hlen : text.length + 1 - i = text.length + 1 - (i + 1) + 1 := by omega
    rw [if_pos (CharSet.holdsAt_iff_any.mp (holdsAt_everything hlt)),
      runStops_everything (by omega), hlen, List.range'_succ]

lemma stops_text (t : String) (text : List Char) (i : Nat) :
    (Pattern.text t).stops text i = if t.toList <+: text.drop i then [i + t.length] else [] := by
  rw [stops, ways_text]
  split <;> rfl

/-- Of the places from `i` on the first one at which the text stands comes first. -/
lemma head?_flatMap_stops_text {t : String} {k : Nat} (hk : k ≤ text.length)
    (h : FirstAt t.toList text i k) :
    ((List.range' i (text.length + 1 - i)).flatMap ((Pattern.text t).stops text)).head? =
      some (k + t.length) := by
  obtain ⟨hle, hstands, hbefore⟩ := h
  have hlen : text.length + 1 - i = text.length + 1 - (i + 1) + 1 := by omega
  induction hn : k - i generalizing i with
  | zero =>
    obtain rfl : i = k := by omega
    rw [hlen, List.range'_succ, List.flatMap_cons, stops_text, if_pos hstands]
    rfl
  | succ n ih =>
    rw [hlen, List.range'_succ, List.flatMap_cons, stops_text,
      if_neg (hbefore i (Nat.le_refl i) (by omega)), List.nil_append]
    exact ih (by omega) (fun l hl => hbefore l (by omega)) (by omega) (by omega)

lemma stops_blockComment (hopen : "/*".toList <+: text.drop i) :
    blockComment.stops text i =
      (List.range' (i + 2) (text.length + 1 - (i + 2))).flatMap ((Pattern.text "*/").stops text) := by
  have hparts : blockComment =
      seq (seq (Pattern.text "/*") (few (char .everything))) (Pattern.text "*/") := rfl
  have hlen : i + 2 ≤ text.length := stop_le_of_prefix_drop (by decide) hopen
  have htwo : "/*".length = 2 := by decide
  rw [hparts, stops_seq, stops_seq, stops_text, if_pos hopen, List.flatMap_singleton, htwo,
    stops_few_everything hlen]

lemma stops_blockComment_of_not (h : ¬"/*".toList <+: text.drop i) :
    blockComment.stops text i = [] := by
  have hparts : blockComment =
      seq (seq (Pattern.text "/*") (few (char .everything))) (Pattern.text "*/") := rfl
  rw [hparts, stops_seq, stops_seq, stops_text, if_neg h]
  rfl

/-- A block comment ends at the first closing sign behind its opening one. -/
lemma head?_stops_blockComment (hopen : "/*".toList <+: text.drop i) {k : Nat}
    (h : FirstAt "*/".toList text (i + 2) k) :
    (blockComment.stops text i).head? = some (k + 2) := by
  have hlen : k + 2 ≤ text.length := stop_le_of_prefix_drop (by decide) h.stands
  rw [stops_blockComment hopen, head?_flatMap_stops_text (by omega) h]
  rfl

lemma stops_blockComment_of_open (h : ∀ k, i + 2 ≤ k → ¬"*/".toList <+: text.drop k) :
    blockComment.stops text i = [] := by
  by_cases hopen : "/*".toList <+: text.drop i
  · rw [stops_blockComment hopen, List.flatMap_eq_nil_iff]
    intro k hk
    rw [stops_text, if_neg (h k (List.mem_range'_1.mp hk).1)]
  · exact stops_blockComment_of_not hopen

/-- The search for block comments finds as many from a place on as the scanner. -/
lemma countFrom_blockComment (text : List Char) (i : Nat) :
    blockComment.countFrom text i = blockComments (text.drop i) := by
  induction hn : text.length - i using Nat.strongRecOn generalizing i with
  | ind n ih =>
    rcases Nat.lt_or_ge i text.length with hi | hi
    · by_cases hopen : "/*".toList <+: text.drop i
      · have hbehind := restBehind_drop_of_prefix (by decide) hopen
        have hblock : restBehindBlock (text.drop i) = restBehind "*/".toList (text.drop (i + 2)) := by
          rw [restBehindBlock, hbehind]
          rfl
        by_cases hclose : ∃ k, i + 2 ≤ k ∧ "*/".toList <+: text.drop k
        · obtain ⟨k, hik, hk⟩ := hclose
          obtain ⟨k, hk⟩ := exists_firstAt hik hk
          have hle := hk.le
          rw [blockComments_of_some (hblock.trans (hk.restBehind_eq (by decide))),
            countFrom_of_head (by decide) (head?_stops_blockComment hopen hk),
            ih (text.length - (k + 2)) (by omega) (k + 2) rfl]
          rfl
        · have hnone (k : Nat) (hk : i + 2 ≤ k) : ¬"*/".toList <+: text.drop k :=
            fun h => hclose ⟨k, hk, h⟩
          rw [blockComments_of_none (hblock.trans (restBehind_eq_none hnone))]
          apply countFrom_eq_zero
          intro k hk
          exact stops_blockComment_of_open fun l hl => hnone l (by omega)
      · have hblock : restBehindBlock (text.drop i) = restBehindBlock (text.drop (i + 1)) := by
          rw [restBehindBlock, restBehind_drop_of_not hopen]
          rfl
        rw [countFrom_of_nil (stops_blockComment_of_not hopen), blockComments_congr hblock]
        exact ih (text.length - (i + 1)) (by omega) (i + 1) rfl
    · have hnil : text.drop i = [] := List.drop_eq_nil_of_le hi
      rw [countFrom_of_length_le (by decide) hi, hnil, blockComments_of_none rfl]

lemma length_blockComment (text : List Char) :
    (blockComment.matchesIn text).length = blockComments text := by
  rw [length_matchesIn_eq, countFrom_blockComment, List.drop_zero]

lemma firstAt_close {body : List Char} (rest : List Char) (h : ¬"*/".toList <:+: body ++ ['*']) :
    FirstAt "*/".toList (body ++ "*/".toList ++ rest) 0 body.length where
  le := Nat.zero_le _
  stands := by
    rw [List.append_assoc, List.drop_left]
    exact List.prefix_append _ _
  none_before l _ hl hprefix := by
    apply h
    have hdrop : (body ++ "*/".toList ++ rest).drop l = body.drop l ++ ['*'] ++ '/' :: rest := by
      rw [List.append_assoc, List.drop_append_of_le_length (Nat.le_of_lt hl), List.append_assoc]
      rfl
    have hlen : "*/".toList.length ≤ (body.drop l ++ ['*']).length := by
      have htwo : "*/".toList.length = 2 := rfl
      rw [htwo, List.length_append, List.length_drop, List.length_singleton]
      omega
    have hinside := List.prefix_of_prefix_length_le (hdrop ▸ hprefix) (List.prefix_append _ _) hlen
    have hsuffix : body.drop l ++ ['*'] <:+ body ++ ['*'] :=
      ⟨body.take l, by rw [← List.append_assoc, List.take_append_drop]⟩
    exact hinside.isInfix.trans hsuffix.isInfix

/-- A comment that is closed counts once, whatever it has inside. -/
lemma blockComments_block {body : List Char} (rest : List Char)
    (h : ¬"*/".toList <:+: body ++ ['*']) :
    blockComments ("/*".toList ++ body ++ "*/".toList ++ rest) = blockComments rest + 1 := by
  have htext : "/*".toList ++ body ++ "*/".toList ++ rest =
      "/*".toList ++ (body ++ "*/".toList ++ rest) := by
    simp only [List.append_assoc]
  have hclose : restBehind "*/".toList (body ++ "*/".toList ++ rest) = some rest := by
    have hbegin := (firstAt_close rest h).restBehind_eq (by decide)
    rwa [List.drop_zero, ← List.length_append, List.drop_left] at hbegin
  apply blockComments_of_some
  rw [htext, restBehindBlock, restBehind_append _ (by decide)]
  exact hclose

/-- The comments of a text are those of its runs of slashes and those that the scanner finds. A run
of `n` slashes has `n / 3` line comments behind a colon and `(n + 1) / 3` elsewhere. A block comment
counts once, whatever it has inside, as long as no sign that closes it comes before its end. -/
theorem commentsIn_eq_runs_add_blocks (text : List Char) :
    commentsIn text = ((slashRuns text).map (·.comments)).sum + blockComments text ∧
      ∀ body rest, ¬"*/".toList <:+: body ++ ['*'] →
        blockComments ("/*".toList ++ body ++ "*/".toList ++ rest) = blockComments rest + 1 := by
  refine ⟨?_, fun body rest h => blockComments_block rest h⟩
  rw [commentsIn, length_lineComment, length_blockComment]

/-- A comment over two lines in which another one is opened, and one that does not close itself; of
the line comments one stands at the start of a line and one in a longer run behind a colon. -/
theorem commentsIn_eq_runs_add_blocks_nested :
    let body := " a\n/* b".toList
    let text := "/*".toList ++ body ++ "*/".toList ++ "\n//\nhttp:/// /*/".toList
    ¬"*/".toList <:+: body ++ ['*'] ∧
      slashRuns text = [⟨none, 1⟩, ⟨some '\n', 1⟩, ⟨some '*', 1⟩, ⟨some '\n', 2⟩, ⟨some ':', 3⟩,
        ⟨some ' ', 1⟩, ⟨some '*', 1⟩] ∧
      commentsIn text = 2 + 1 := by
  intro body text
  have hbody : ¬"*/".toList <:+: body ++ ['*'] := by decide +kernel
  have hruns : slashRuns text = [⟨none, 1⟩, ⟨some '\n', 1⟩, ⟨some '*', 1⟩, ⟨some '\n', 2⟩,
      ⟨some ':', 3⟩, ⟨some ' ', 1⟩, ⟨some '*', 1⟩] := by decide +kernel
  have hrest : blockComments "\n//\nhttp:/// /*/".toList = 0 := blockComments_of_none (by decide +kernel)
  obtain ⟨hcount, hblock⟩ := commentsIn_eq_runs_add_blocks text
  refine ⟨hbody, hruns, ?_⟩
  rw [hcount, hruns, hblock body _ hbody, hrest]
  rfl

end Checkup.Metrics
