import Checkup.Proofs.Comments
import Checkup.Proofs.Layout

/-!
# Comments and addresses

White space keeps the line comments of words apart. A word has a line comment exactly if two slashes
stand in it somewhere else than right behind a colon, so an address has none unless its own part,
behind the scheme, begins with a slash or has two slashes like that.
-/

namespace Checkup.Metrics
open Pattern Mention

/-- Two slashes stand one behind the other, and not right behind a colon. -/
def HasLooseSlashes (text : List Char) : Prop :=
  ∃ i, text[i]? = some '/' ∧ text[i + 1]? = some '/' ∧ (Site.ofText text i).before ≠ some ':'

/-- The text consists of addresses with white space between them. -/
def ListsAddresses (text : List Char) : Prop :=
  ∀ word ∈ text.splitOnP Unicode.isSpace, word = [] ∨ IsClean (String.ofList word)

variable {text : List Char} {i : Nat}

lemma comments_eq_zero_iff {run : SlashRun} :
    run.comments = 0 ↔ run.length ≤ 1 ∨ (run.before = some ':' ∧ run.length ≤ 2) := by
  rw [SlashRun.comments]
  split
  · rename_i hcolon
    simp only [hcolon, true_and]
    omega
  · rename_i hcolon
    simp only [hcolon, false_and, or_false]
    omega

lemma mem_slashRuns {run : SlashRun} :
    run ∈ slashRuns text ↔ ∃ i, StartsRun text i ∧ run = runAt text i := by
  simp only [slashRuns, runsFrom, List.mem_map, List.mem_filter, decide_eq_true_eq]
  constructor
  · rintro ⟨i, ⟨-, hstarts⟩, hrun⟩
    exact ⟨i, hstarts, hrun.symm⟩
  · rintro ⟨i, hstarts, hrun⟩
    have hlt := (List.getElem?_eq_some_iff.mp hstarts.1).1
    exact ⟨i, ⟨List.mem_range'_1.mpr ⟨Nat.zero_le i, by omega⟩, hstarts⟩, hrun.symm⟩

/-- Loose slashes belong to a run in which a comment is counted. -/
lemma exists_run_of_loose (hi : text[i]? = some '/') (hnext : text[i + 1]? = some '/')
    (hloose : (Site.ofText text i).before ≠ some ':') :
    ∃ k, StartsRun text k ∧ (runAt text k).comments ≠ 0 := by
  induction i with
  | zero =>
    have hslashes := slashesFrom_of_slash hi
    have hslashes' := slashesFrom_of_slash hnext
    refine ⟨0, ⟨hi, by simp [Site.ofText]⟩, ?_⟩
    rw [Ne, comments_eq_zero_iff, runAt]
    simp only [Site.ofText, if_true, reduceCtorEq, false_and, or_false]
    omega
  | succ i ih =>
    have hslashes := slashesFrom_of_slash hi
    have hslashes' := slashesFrom_of_slash hnext
    by_cases hbefore : text[i]? = some '/'
    · by_cases hcolon : (Site.ofText text i).before = some ':'
      · have hslashes'' := slashesFrom_of_slash hbefore
        refine ⟨i, ⟨hbefore, by simp [hcolon]⟩, ?_⟩
        rw [Ne, comments_eq_zero_iff, runAt]
        simp only [hcolon, true_and]
        omega
      · exact ih hbefore hi hcolon
    · refine ⟨i + 1, ⟨hi, by rwa [site_before_succ]⟩, ?_⟩
      rw [Ne, comments_eq_zero_iff, runAt]
      simp only [hloose, false_and, or_false]
      omega

/-- A text has no line comment exactly if no two slashes stand in it except right behind a colon. -/
theorem length_lineComment_eq_zero_iff (text : List Char) :
    (lineComment.matchesIn text).length = 0 ↔ ¬HasLooseSlashes text := by
  have hsum : (lineComment.matchesIn text).length = 0 ↔
      ∀ k, StartsRun text k → (runAt text k).comments = 0 := by
    rw [length_lineComment, List.sum_eq_zero_iff_forall_eq_nat]
    simp only [List.mem_map, mem_slashRuns]
    constructor
    · intro h k hk
      exact h _ ⟨runAt text k, ⟨k, hk, rfl⟩, rfl⟩
    · rintro h _ ⟨_, ⟨k, hk, rfl⟩, rfl⟩
      exact h k hk
  rw [hsum]
  constructor
  · rintro h ⟨i, hi, hnext, hloose⟩
    obtain ⟨k, hk, hne⟩ := exists_run_of_loose hi hnext hloose
    exact hne (h k hk)
  · intro h k hk
    by_contra hne
    rw [comments_eq_zero_iff, runAt, not_or, not_and, Nat.not_le, Nat.not_le] at hne
    dsimp only at hne
    by_cases hcolon : (Site.ofText text k).before = some ':'
    · -- The second and the third slash of the run are loose.
      have hmany := hne.2 hcolon
      have hsecond := slashesFrom_add text k 1 (by omega)
      have hthird := slashesFrom_add text k 2 (by omega)
      have htail : text[k + 2]? = some '/' := slash_of_slashesFrom (by omega)
      refine h ⟨k + 1, slash_of_slashesFrom (by omega), htail, ?_⟩
      simp [site_before_succ, hk.1]
    · have hsecond := slashesFrom_add text k 1 (by omega)
      exact h ⟨k, hk.1, slash_of_slashesFrom (by omega), hcolon⟩

/-- The line comments of a text are those of its words. -/
lemma length_lineComment_words (text : List Char) :
    (lineComment.matchesIn text).length =
      ((text.splitOnP Unicode.isSpace).map fun word => (lineComment.matchesIn word).length).sum := by
  induction hn : text.length using Nat.strongRecOn generalizing text with
  | ind n ih =>
    by_cases hspace : ∃ c ∈ text, Unicode.isSpace c
    · obtain ⟨c, hmem, hc⟩ := hspace
      obtain ⟨a, b, rfl⟩ := List.append_of_mem hmem
      have hslash : c ≠ '/' := by
        rintro rfl
        exact absurd hc (by decide)
      have hcolon : c ≠ ':' := by
        rintro rfl
        exact absurd hc (by decide)
      rw [List.length_append, List.length_cons] at hn
      rw [length_lineComment_join a b hslash hcolon, List.splitOnP_append_cons _ _ hc, List.map_append,
        List.sum_append, ih a.length (by omega) a rfl, ih b.length (by omega) b rfl]
    · have hnot : ∀ c ∈ text, Unicode.isSpace c = false := fun c hmem =>
        eq_false_of_ne_true fun hc => hspace ⟨c, hmem, hc⟩
      rw [List.splitOnP_eq_singleton hnot, List.map_singleton, List.sum_singleton]

/-- A scheme ends with two slashes, and these stand behind its colon. -/
lemma slashes_of_scheme {t : String} (ht : t ∈ schemes) :
    2 ≤ t.toList.length ∧ t.toList[t.toList.length - 2]? = some '/' ∧
      t.toList[t.toList.length - 1]? = some '/' ∧
      ∀ i, t.toList[i]? = some '/' → t.toList[i + 1]? = some '/' →
        (Site.ofText t.toList i).before = some ':' := by
  have hall : ∀ t ∈ schemes, 2 ≤ t.toList.length ∧ t.toList[t.toList.length - 2]? = some '/' ∧
      t.toList[t.toList.length - 1]? = some '/' ∧
      ∀ i < t.toList.length, t.toList[i]? = some '/' → t.toList[i + 1]? = some '/' →
        (Site.ofText t.toList i).before = some ':' := by
    decide
  obtain ⟨hlen, hfirst, hsecond, hcolon⟩ := hall t ht
  refine ⟨hlen, hfirst, hsecond, fun i hi => hcolon i (List.getElem?_eq_some_iff.mp hi).1 hi⟩

/-- Slashes of an address are loose if they stand in its own part, and not behind a colon there, or
if that part begins with one. -/
lemma hasLooseSlashes_address {t : String} (ht : t ∈ schemes) (rest : List Char) :
    HasLooseSlashes (t.toList ++ rest) ↔ rest.head? = some '/' ∨ HasLooseSlashes rest := by
  obtain ⟨hlen, hfirst, hsecond, hcolon⟩ := slashes_of_scheme ht
  have hright (k : Nat) : (t.toList ++ rest)[t.toList.length + k]? = rest[k]? := by
    rw [List.getElem?_append_right (Nat.le_add_right _ _), Nat.add_sub_cancel_left]
  have hhead : (t.toList ++ rest)[t.toList.length]? = rest.head? := by
    rw [List.head?_eq_getElem?]
    exact hright 0
  constructor
  · rintro ⟨i, hi, hnext, hloose⟩
    rcases Nat.lt_trichotomy (i + 1) t.toList.length with hlt | heq | hgt
    · rw [List.getElem?_append_left (by omega)] at hi hnext
      rw [before_append_left _ _ (by omega)] at hloose
      exact absurd (hcolon i hi hnext) hloose
    · rw [heq, hhead] at hnext
      exact .inl hnext
    · obtain ⟨k, rfl⟩ := Nat.exists_eq_add_of_le (Nat.le_of_lt_succ hgt)
      cases k with
      | zero =>
        rw [Nat.add_zero, hhead] at hi
        exact .inl hi
      | succ k =>
        rw [hright] at hi
        rw [Nat.add_assoc, hright] at hnext
        rw [← Nat.add_assoc, site_before_succ, hright, ← site_before_succ] at hloose
        exact .inr ⟨k + 1, hi, hnext, hloose⟩
  · have hof (h : rest.head? = some '/') : HasLooseSlashes (t.toList ++ rest) := by
      refine ⟨t.toList.length - 1, ?_, ?_, ?_⟩
      · rwa [List.getElem?_append_left (by omega)]
      · rwa [Nat.sub_add_cancel (by omega), hhead]
      · have hplace : t.toList.length - 1 = t.toList.length - 2 + 1 := by omega
        rw [hplace, site_before_succ, List.getElem?_append_left (by omega), hfirst]
        decide
    rintro (h | ⟨k, hi, hnext, hloose⟩)
    · exact hof h
    · cases k with
      | zero =>
        rw [List.head?_eq_getElem?] at hof
        exact hof hi
      | succ k =>
        refine ⟨t.toList.length + (k + 1), ?_, ?_, ?_⟩
        · rwa [hright]
        · rwa [Nat.add_assoc, hright]
        · rwa [← Nat.add_assoc, site_before_succ, hright, ← site_before_succ]

/-- In a text of addresses no line comment is counted exactly if none of them has, behind its
scheme, a slash at once or two slashes somewhere else than right behind a colon. -/
theorem lineComments_of_addresses (text : List Char) (h : ListsAddresses text) :
    (lineComment.matchesIn text).length = 0 ↔
      ∀ t ∈ schemes, ∀ rest, t.toList ++ rest ∈ text.splitOnP Unicode.isSpace →
        rest.head? ≠ some '/' ∧ ¬HasLooseSlashes rest := by
  have hwords : (lineComment.matchesIn text).length = 0 ↔
      ∀ word ∈ text.splitOnP Unicode.isSpace, ¬HasLooseSlashes word := by
    rw [length_lineComment_words, List.sum_eq_zero_iff_forall_eq_nat]
    simp only [List.forall_mem_map, length_lineComment_eq_zero_iff]
  rw [hwords]
  constructor
  · intro hall t ht rest hmem
    have hnot := hall _ hmem
    rwa [hasLooseSlashes_address ht, not_or] at hnot
  · intro hall word hword
    rcases h word hword with rfl | ⟨t, ht, rest, -, hurl, -⟩
    · rintro ⟨i, hi, -⟩
      simp at hi
    · rw [String.toList_ofList] at hurl
      rw [hurl, hasLooseSlashes_address ht, not_or]
      exact hall t ht rest (hurl ▸ hword)

/-- Addresses with a single slash in the path, and with a second scheme behind a colon. -/
theorem lineComments_of_addresses_plain :
    let text := "http://a.com/b?http://c.com\n https://d.com".toList
    ListsAddresses text ∧ ∀ t ∈ schemes, ∀ rest,
      t.toList ++ rest ∈ text.splitOnP Unicode.isSpace →
        rest.head? ≠ some '/' ∧ ¬HasLooseSlashes rest := by
  intro text
  have hwords : text.splitOnP Unicode.isSpace =
      ["http://a.com/b?http://c.com".toList, [], "https://d.com".toList] := by decide
  have hfirst : IsClean "http://a.com/b?http://c.com" :=
    isClean_of_all "http://" "a.com/b?http://c.com" (by decide) (by decide) rfl (by decide)
  have hsecond : IsClean "https://d.com" :=
    isClean_of_all "https://" "d.com" (by decide) (by decide) rfl (by decide)
  have haddresses : ListsAddresses text := by
    unfold ListsAddresses
    rw [hwords]
    simp only [List.forall_mem_cons, String.ofList_toList]
    exact ⟨.inr hfirst, .inl trivial, .inr hsecond, by simp⟩
  have hnone : (lineComment.matchesIn text).length = 0 := by decide
  exact ⟨haddresses, (lineComments_of_addresses text haddresses).mp hnone⟩

/-- Two slashes in the path of an address count as a comment. -/
theorem lineComments_of_addresses_path :
    ListsAddresses "https://a.com//b".toList ∧
      (lineComment.matchesIn "https://a.com//b".toList).length = 1 := by
  have hclean : IsClean "https://a.com//b" :=
    isClean_of_all "https://" "a.com//b" (by decide) (by decide) rfl (by decide)
  have hwords : "https://a.com//b".toList.splitOnP Unicode.isSpace =
      ["https://a.com//b".toList] := by decide
  refine ⟨?_, by decide⟩
  unfold ListsAddresses
  rw [hwords]
  simp only [List.forall_mem_cons, String.ofList_toList]
  exact ⟨.inr hclean, by simp⟩

end Checkup.Metrics
