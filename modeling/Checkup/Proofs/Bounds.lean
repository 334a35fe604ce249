import Checkup.Proofs.Scan
import Mathlib.Data.List.Nodup
import Mathlib.Data.List.Perm.Subperm

/-!
# Bounds on the findings of a rule

The search for matches goes on from the end of each match, which may be where it already stood. It
ends all the same: no two matches start at the same place, so a line has at most one for each of its
positions, the one at its end included. The findings of a rule in a line stand at such positions,
each within its match, and so they come in the order of their columns.
-/

namespace Checkup

namespace Pattern

/-- The search that stands at `free`, after a match that ended at `last`, comes to an end and finds
these matches. -/
inductive Finds (r : Pattern) (text : List Char) : Option Nat → Nat → List Match → Prop
  | done {last free} : r.nextMatch? text last free = none → Finds r text last free []
  | next {last free m ms} : r.nextMatch? text last free = some m →
      Finds r text (some m.stop) m.stop ms → Finds r text last free (m :: ms)

variable {r : Pattern} {text : List Char}

lemma finds_successive (last : Option Nat) (free : Nat) :
    r.Finds text last free (r.successive text last free) := by
  apply successive_induction
  · intro last free h
    exact .done h
  · intro last free m ms h hms
    exact .next h hms

/-- Different matches start at different positions, and there is one position more than
characters. -/
theorem length_matchesIn_le (r : Pattern) (text : List Char) :
    (r.matchesIn text).length ≤ text.length + 1 := by
  have hpairwise : (r.matchesIn text).Pairwise fun m k => m.start < k.start := by
    rw [matchesIn_eq]
    exact successive_pairwise_start none 0
  have hnodup : ((r.matchesIn text).map (·.start)).Nodup :=
    List.pairwise_map.mpr (hpairwise.imp Nat.ne_of_lt)
  have hsub : (r.matchesIn text).map (·.start) ⊆ List.range (text.length + 1) := by
    intro i hi
    obtain ⟨m, hm, rfl⟩ := List.mem_map.mp hi
    obtain ⟨-, -, -, hstop, hlen⟩ := mem_matchesIn hm
    exact List.mem_range.mpr (by omega)
  have hle := (hnodup.subperm hsub).length_le
  simpa using hle

end Pattern

/-- A match is reported within itself. -/
lemma Match.anchor_mem {r : Pattern} {text : List Char} {m : Match} (hm : m ∈ r.matchesIn text) :
    m.start ≤ m.anchor ∧ m.anchor ≤ m.stop ∧ m.stop ≤ text.length := by
  rw [Pattern.matchesIn_eq] at hm
  obtain ⟨heq, hshown⟩ := shownAt_le hm
  rwa [heq]

/-- There is a boundary between characters behind any number of them. -/
lemma exists_splits (line : String) {i : Nat} (hi : i ≤ line.length) :
    ∃ (p : line.Pos) (before after : String), p.Splits before after ∧ before.length = i := by
  have hsplit : line =
      String.ofList (line.toList.take i) ++ String.ofList (line.toList.drop i) := by
    rw [← String.ofList_append, List.take_append_drop, String.ofList_toList]
  have hvalid := String.Pos.Raw.isValid_iff_exists_append.mpr ⟨_, _, hsplit, rfl⟩
  have hlen : (String.ofList (line.toList.take i)).length = i := by
    rw [String.length_ofList, List.length_take, String.length_toList, Nat.min_eq_left hi]
  exact ⟨⟨_, hvalid⟩, _, _, ⟨hsplit, rfl⟩, hlen⟩

namespace Rule

variable (rule : Rule) (number : Nat) (line : List Char)

lemma exists_match_of_mem_findings {finding : Finding} (h : finding ∈ rule.findings number line) :
    ∃ m ∈ rule.pattern.matchesIn line, rule.report number m = finding := by
  rw [findings] at h
  split at h
  · simp at h
  · exact List.mem_map.mp h

lemma length_findings_le : (rule.findings number line).length ≤ line.length + 1 := by
  rw [findings]
  split
  · simp
  · rw [List.length_map]
    exact rule.pattern.length_matchesIn_le line

/-- A match is reported at its end at the latest, and the next one at its start at the earliest. -/
lemma columns_pairwise : ((rule.findings number line).map (·.column)).Pairwise (· ≤ ·) := by
  rw [findings]
  split
  · exact .nil
  · rw [List.map_map, List.pairwise_map]
    apply (rule.pattern.matchesIn_pairwise line).imp_of_mem
    intro m k hm hk hle
    have hmstop := (Match.anchor_mem hm).2.1
    have hkstart := (Match.anchor_mem hk).1
    simp only [Function.comp_apply, report]
    omega

/-- The search for a rule in a line ends. It makes at most one finding more than the line has
characters; the columns of these never decrease, and each counts the characters before a boundary in
the line at which a match lies. -/
theorem findings_bounded (rule : Rule) (number : Nat) (line : String) :
    (∃ ms, rule.pattern.Finds line.toList none 0 ms ∧ ms.length ≤ line.length + 1 ∧
      rule.findings number line.toList =
        if rule.excludes line.toList then [] else ms.map (rule.report number)) ∧
    (rule.findings number line.toList).length ≤ line.length + 1 ∧
    (∀ finding ∈ rule.findings number line.toList,
      1 ≤ finding.column ∧ finding.column ≤ line.length + 1 ∧
      ∃ m ∈ rule.pattern.matchesIn line.toList, ∃ (p : line.Pos) (before after : String),
        p.Splits before after ∧ m.start ≤ before.length ∧ before.length ≤ m.stop ∧
        finding.column = before.length + 1) ∧
    ((rule.findings number line.toList).map (·.column)).Pairwise (· ≤ ·) := by
  rw [← String.length_toList]
  refine ⟨⟨rule.pattern.matchesIn line.toList, ?_, rule.pattern.length_matchesIn_le _, rfl⟩,
    rule.length_findings_le number _, ?_, rule.columns_pairwise number _⟩
  · rw [Pattern.matchesIn_eq]
    exact Pattern.finds_successive none 0
  · intro finding hfinding
    obtain ⟨m, hm, rfl⟩ := rule.exists_match_of_mem_findings number _ hfinding
    obtain ⟨hstart, hstop, hlen⟩ := Match.anchor_mem hm
    have hanchor : m.anchor ≤ line.length := by
      rw [← String.length_toList]
      omega
    obtain ⟨p, before, after, hsplits, hbefore⟩ := exists_splits line hanchor
    simp only [report]
    refine ⟨by omega, by omega, m, hm, p, before, after, hsplits, ?_⟩
    rw [hbefore]
    exact ⟨hstart, hstop, rfl⟩

/-- A rule that matches a sign with the letter behind it, which it marks, and between other
characters the empty text. -/
def accent : Rule where
  id := "accent"
  pattern := (.text "+" ++ .mark (.text "é")) ||| .zeroOrMore (.text "x")
  message := "Accent"
  severity := .info
  exemption := some (.text "!")

/-- The letter is reported behind the sign, the last finding stands behind its two bytes, and there
is none at the end, where the match before it has ended. -/
theorem findings_bounded_accent :
    let line := "a+éx"
    let letter : Finding := ⟨1, 3, "Accent", .info, "accent"⟩
    (accent.findings 1 line.toList).map (·.column) = [1, 3, 4] ∧
      (accent.findings 1 line.toList).length ≤ line.length + 1 ∧
      letter ∈ accent.findings 1 line.toList ∧ letter.column ≤ line.length + 1 ∧
      ∃ m ∈ accent.pattern.matchesIn line.toList, ∃ (p : line.Pos) (before after : String),
        p.Splits before after ∧ m.start ≤ before.length ∧ before.length ≤ m.stop ∧
        letter.column = before.length + 1 := by
  intro line letter
  have hfound : (accent.findings 1 line.toList).map (·.column) = [1, 3, 4] ∧
      letter ∈ accent.findings 1 line.toList := by
    decide +kernel
  obtain ⟨-, hlength, hcolumns, -⟩ := findings_bounded accent 1 line
  obtain ⟨-, hcolumn, hmatch⟩ := hcolumns letter hfound.2
  exact ⟨hfound.1, hlength, hfound.2, hcolumn, hmatch⟩

end Rule

end Checkup
