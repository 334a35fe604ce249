import Checkup.Proofs.Blanks
import Checkup.Proofs.Columns
import Checkup.Proofs.Stops

/-!
# What findings point at

A match is shown at its mark, or else at its start. `Pattern.token?` is the part of a pattern that
begins there, so a finding points at the first character that this part takes. Most built-in rules
look for a word or a sign there. Five of them have white space in front of it in their patterns and
no mark behind that: two begin with one blank, and three with the start of the line and its
indentation.
-/

namespace Checkup

namespace Pattern

variable {text : List Char} {r t : Pattern} {check : CharSet → Bool} {i j : Nat}

/-- The part of a pattern that begins where its matches are shown: its mark and what stands behind
that, or the whole pattern if it has no mark. -/
def token? : Pattern → Option Pattern
  | seq (seq a (mark b)) c => if a.markFree && b.markFree && c.markFree then some (seq b c) else none
  | r => if r.markFree then some r else none

lemma spans_token (ht : r.token? = some t) {m : Match} (hm : m ∈ r.matchesIn text) :
    t.Spans text m.anchor m.stop := by
  -- Without a mark the match is shown at its start.
  have hwhole (hr : (if r.markFree then some r else none) = some t) :
      t.Spans text m.anchor m.stop := by
    split at hr
    · rename_i hfree
      rw [anchor_of_markFree hfree hm, ← Option.some.inj hr]
      exact spans_of_mem_matchesIn hm
    · exact absurd hr (by simp)
  unfold token? at ht
  split at ht
  · rename_i a b c
    split at ht
    · rename_i hfree
      simp only [Bool.and_eq_true] at hfree
      obtain ⟨s, e, hmarked, -, hb, hc⟩ := mem_matchesIn_around_mark hfree.1.1 hfree.1.2 hfree.2 hm
      have hanchor : m.anchor = s := by
        rw [Match.anchor, hmarked]
        rfl
      rw [hanchor, ← Option.some.inj ht]
      exact spans_seq.mpr ⟨e, hb, hc⟩
    · exact absurd ht (by simp)
  · exact hwhole ht

/-- The pattern takes no character. -/
def still : Pattern → Bool
  | empty => true
  | char _ => false
  | look _ => true
  | seq r s => r.still && s.still
  | alt r s => r.still && s.still
  | plus _ r => r.still
  | mark r => r.still

/-- The pattern takes a character, and the first one from a set that passes the check. -/
def opens (check : CharSet → Bool) : Pattern → Bool
  | empty => false
  | char s => check s
  | look _ => false
  | seq r s => r.opens check || (r.still && s.opens check)
  | alt r s => r.opens check && s.opens check
  | plus _ r => r.opens check
  | mark r => r.opens check

/-- The pattern looks first whether a line starts. -/
def atStart : Pattern → Bool
  | look a => a == .textStart || a == .lineStart
  | seq r _ => r.atStart
  | _ => false

lemma Spans.eq_of_still (h : r.Spans text i j) (hr : r.still) : j = i := by
  induction r generalizing i j with
  | empty => exact spans_empty.mp h
  | char s => simp [still] at hr
  | look a => exact (spans_look.mp h).2
  | seq r s ihr ihs =>
    rw [still, Bool.and_eq_true] at hr
    obtain ⟨k, hrk, hks⟩ := spans_seq.mp h
    rw [ihs hks hr.2, ihr hrk hr.1]
  | alt r s ihr ihs =>
    rw [still, Bool.and_eq_true] at hr
    rcases spans_alt.mp h with h | h
    · exact ihr h hr.1
    · exact ihs h hr.2
  | plus greedy r ih =>
    obtain ⟨k, hround, -, hempty⟩ := h.exists_round
    exact hempty (ih hround hr)
  | mark r ih => exact ih (spans_mark.mp h) hr

/-- Where a match starts stands a member of a set that passes the check. -/
lemma Spans.holdsAt_of_opens (h : r.Spans text i j) (hr : r.opens check) :
    ∃ s, check s ∧ s.HoldsAt text i := by
  induction r generalizing i j with
  | empty => simp [opens] at hr
  | char s => exact ⟨s, hr, (spans_char.mp h).1⟩
  | look a => simp [opens] at hr
  | seq r s ihr ihs =>
    rw [opens, Bool.or_eq_true, Bool.and_eq_true] at hr
    obtain ⟨k, hrk, hks⟩ := spans_seq.mp h
    rcases hr with hr | ⟨hstill, hs⟩
    · exact ihr hrk hr
    · obtain rfl := hrk.eq_of_still hstill
      exact ihs hks hs
  | alt r s ihr ihs =>
    rw [opens, Bool.and_eq_true] at hr
    rcases spans_alt.mp h with h | h
    · exact ihr h hr.1
    · exact ihs h hr.2
  | plus greedy r ih =>
    obtain ⟨k, hround, -⟩ := h.exists_round
    exact ih hround hr
  | mark r ih => exact ih (spans_mark.mp h) hr

/-- In a line there is one place only where a line starts. -/
lemma Spans.eq_zero_of_atStart (h : r.Spans text i j) (hr : r.atStart) (hline : '\n' ∉ text)
    (hi : i < text.length) : i = 0 := by
  induction r generalizing i j with
  | look a =>
    obtain ⟨hholds, -⟩ := spans_look.mp h
    by_contra hne
    have hbefore : (Site.ofText text i).before = text[i - 1]? := if_neg hne
    have hfeed : text[i - 1]? ≠ some '\n' := fun hget => hline (List.mem_of_getElem? hget)
    rw [atStart, Bool.or_eq_true, beq_iff_eq, beq_iff_eq] at hr
    rcases hr with rfl | rfl
    · simp [Assertion.holds, hbefore] at hholds
      omega
    · simp [Assertion.holds, hbefore, hfeed] at hholds
      omega
  | seq r s ihr ihs =>
    obtain ⟨k, hrk, -⟩ := spans_seq.mp h
    exact ihr hrk hr hi
  | _ => simp [atStart] at hr

end Pattern

namespace Text

variable {text line : List Char}

lemma notMem_of_mem_splitOn (h : line ∈ text.splitOn '\n') : '\n' ∉ line := by
  induction text generalizing line with
  | nil => simp_all
  | cons c text ih =>
    rw [List.splitOn_cons_eq_if_modifyHead] at h
    split at h
    · rcases List.mem_cons.mp h with rfl | h
      · simp
      · exact ih h
    · rename_i hc
      obtain ⟨piece, rest, hpieces⟩ := List.exists_cons_of_ne_nil (List.splitOn_ne_nil '\n' text)
      rw [hpieces, List.modifyHead_cons, List.mem_cons] at h
      rcases h with rfl | h
      · have hpiece : '\n' ∉ piece := ih (hpieces ▸ List.mem_cons_self)
        rw [List.mem_cons, not_or]
        exact ⟨fun heq => hc (beq_iff_eq.mpr heq.symm), hpiece⟩
      · exact ih (hpieces ▸ List.mem_cons_of_mem piece h)

/-- A line has no line feed. -/
lemma notMem_of_mem_strippedPieces (h : line ∈ strippedPieces text) : '\n' ∉ line := by
  obtain ⟨piece, hpiece, rfl⟩ := List.mem_map.mp h
  have hnot := notMem_of_mem_splitOn hpiece
  split
  · exact fun hmem => hnot (List.dropLast_subset piece hmem)
  · exact hnot

end Text

namespace Rule

/-- The rules whose patterns begin with a blank. -/
def afterBlank : List String := ["no-inline-handler", "no-inline-style"]

/-- The rules whose patterns begin with the start of a line and its indentation. -/
def afterIndentation : List String := ["no-wildcard-import", "no-print", "no-universal-selector"]

/-- What the pattern of the rule begins with where its matches are shown: a blank, the start of a
line, or no white space. -/
def tellsStart (rule : Rule) : Bool :=
  rule.pattern.token?.any fun t =>
    if rule.id ∈ afterBlank then t.opens (· == .space)
    else if rule.id ∈ afterIndentation then t.atStart && t.consumes
    else t.opens CharSet.sparesBlanks

lemma tellsStart_of_mem_all {rule : Rule} (h : rule ∈ all) : rule.tellsStart := by
  have hall : ∀ rule ∈ all, rule.tellsStart := by decide +kernel
  exact hall rule h

end Rule

namespace Finding

/-- The character stands at the line and column of the finding. -/
def PointsAt (finding : Finding) (code : String) (c : Char) : Prop :=
  ∃ k p row, finding.line = k + 1 ∧ finding.column = p + 1 ∧
    (Text.strippedPieces code.toList)[k]? = some row ∧ row[p]? = some c

/-- The line of the finding begins with white space. -/
def Indented (finding : Finding) (code : String) : Prop :=
  ∃ k row c, finding.line = k + 1 ∧ (Text.strippedPieces code.toList)[k]? = some row ∧
    row.head? = some c ∧ Unicode.isSpace c

variable {code : String} {finding : Finding} {row : List Char} {rule : Rule} {m : Match} {k : Nat}
  {c d : Char}

lemma PointsAt.unique (hc : finding.PointsAt code c) (hd : finding.PointsAt code d) : c = d := by
  obtain ⟨k, p, row, hk, hp, hrow, hc⟩ := hc
  obtain ⟨k', p', row', hk', hp', hrow', hd⟩ := hd
  obtain rfl : k = k' := by omega
  obtain rfl : p = p' := by omega
  obtain rfl : row = row' := Option.some.inj (hrow.symm.trans hrow')
  exact Option.some.inj (hc.symm.trans hd)

lemma pointsAt_report (hrow : (Text.strippedPieces code.toList)[k]? = some row)
    (hc : row[m.anchor]? = some c) : (rule.report (k + 1) m).PointsAt code c :=
  ⟨k, m.anchor, row, rfl, rfl, hrow, hc⟩

lemma indented_report_iff (hrow : (Text.strippedPieces code.toList)[k]? = some row) :
    (rule.report (k + 1) m).Indented code ↔ ∃ c, row.head? = some c ∧ Unicode.isSpace c := by
  constructor
  · rintro ⟨k', row', c, hk, hrow', hc⟩
    obtain rfl : k = k' := Nat.succ.inj hk
    obtain rfl : row = row' := Option.some.inj (hrow.symm.trans hrow')
    exact ⟨c, hc⟩
  · rintro ⟨c, hc⟩
    exact ⟨k, row, c, rfl, hrow, hc⟩

/-- A match of a rule that tells its start is shown at a character, which is white space only if
the rule begins with it. -/
lemma exists_pointsAt_report (hrule : rule.tellsStart)
    (hrow : (Text.strippedPieces code.toList)[k]? = some row)
    (hm : m ∈ rule.pattern.matchesIn row) :
    ∃ c, (rule.report (k + 1) m).PointsAt code c ∧
      (Unicode.isSpace c ↔ rule.id ∈ Rule.afterBlank ∨
        (rule.id ∈ Rule.afterIndentation ∧ (rule.report (k + 1) m).Indented code)) := by
  unfold Rule.tellsStart at hrule
  obtain ⟨t, ht, hstart⟩ := (Option.any_eq_true _ _).mp hrule
  have hspans := Pattern.spans_token ht hm
  rw [indented_report_iff hrow]
  split at hstart
  · rename_i hblank
    obtain ⟨s, hs, c, hc, hspace⟩ := hspans.holdsAt_of_opens hstart
    obtain rfl : s = .space := beq_iff_eq.mp hs
    exact ⟨c, pointsAt_report hrow hc, iff_of_true hspace (.inl hblank)⟩
  · rename_i hblank
    split at hstart
    · -- The match starts where the line does, so it is shown at the line's first character.
      rename_i hindentation
      rw [Bool.and_eq_true] at hstart
      obtain ⟨-, -, -, -, hstop⟩ := Pattern.mem_matchesIn hm
      have hlt := Nat.lt_of_lt_of_le (hspans.lt hstart.2) hstop
      have hfeed := Text.notMem_of_mem_strippedPieces (List.mem_of_getElem? hrow)
      have hzero := hspans.eq_zero_of_atStart hstart.1 hfeed hlt
      obtain ⟨c, hc⟩ : ∃ c, row[m.anchor]? = some c := ⟨_, List.getElem?_eq_getElem hlt⟩
      refine ⟨c, pointsAt_report hrow hc, ?_⟩
      rw [hzero, ← List.head?_eq_getElem?] at hc
      simp [hblank, hindentation, hc]
    · rename_i hindentation
      obtain ⟨s, hs, c, hc, hcontains⟩ := hspans.holdsAt_of_opens hstart
      have hspace := CharSet.not_isSpace_of_sparesBlanks hs hcontains
      refine ⟨c, pointsAt_report hrow hc, iff_of_false hspace ?_⟩
      exact not_or.mpr ⟨hblank, fun h => hindentation h.1⟩

/-- A finding of the built-in catalog points at a character of its line. That character is white
space exactly if the finding is one of the rules that begin with a blank, or one of those that
begin with the indentation of the line, and the line has one. -/
theorem pointsAt_isSpace_iff (code : String) (language : Language) (finding : Finding)
    (h : finding ∈ scan .builtin code language) :
    (∃ c, finding.PointsAt code c) ∧ ∀ c, finding.PointsAt code c →
      (Unicode.isSpace c ↔ finding.ruleId ∈ Rule.afterBlank ∨
        (finding.ruleId ∈ Rule.afterIndentation ∧ finding.Indented code)) := by
  obtain ⟨k, row, hrow, rule, hrule, -, m, hm, rfl⟩ := mem_scan_iff.mp h
  have htells := Rule.tellsStart_of_mem_all (Rule.mem_all_of_mem_builtin hrule)
  obtain ⟨c, hc, hiff⟩ := exists_pointsAt_report htells hrow hm
  refine ⟨⟨c, hc⟩, ?_⟩
  intro d hd
  rw [hd.unique hc]
  exact hiff

/-- A line of Python that is indented, and one that is not. -/
theorem pointsAt_isSpace_iff_print :
    let code := "def f():\r\n\tprint (x)\nprint(y)"
    let finding (line : Nat) : Finding :=
      ⟨line, 1, "Use logging instead of print()", .info, "no-print"⟩
    finding 2 ∈ scan .builtin code .python ∧ finding 3 ∈ scan .builtin code .python ∧
      (∃ c, (finding 2).PointsAt code c ∧ Unicode.isSpace c) ∧
      (∃ c, (finding 3).PointsAt code c) ∧
      ∀ c, (finding 3).PointsAt code c → ¬Unicode.isSpace c := by
  intro code finding
  have hscan : scan .builtin code .python = [finding 2, finding 3] := by
    rw [scan, sort_eq_append]
    decide +kernel
  have hsecond : finding 2 ∈ scan .builtin code .python := by simp [hscan]
  have hthird : finding 3 ∈ scan .builtin code .python := by simp [hscan]
  obtain ⟨⟨c, hc⟩, hiff⟩ := pointsAt_isSpace_iff code .python (finding 2) hsecond
  obtain ⟨hexists, hiff'⟩ := pointsAt_isSpace_iff code .python (finding 3) hthird
  have hindented : (finding 2).Indented code :=
    ⟨1, "\tprint (x)".toList, '\t', rfl, by decide +kernel, rfl, by decide⟩
  have hnot : ¬(finding 3).Indented code := by
    rintro ⟨k, row, d, hk, hrow, hd, hspace⟩
    obtain rfl : k = 2 := by simpa [finding] using hk.symm
    have hthird : (Text.strippedPieces code.toList)[2]? = some "print(y)".toList := by
      decide +kernel
    rw [← Option.some.inj (hthird.symm.trans hrow)] at hd
    obtain rfl : 'p' = d := Option.some.inj hd
    exact absurd hspace (by decide)
  refine ⟨hsecond, hthird, ⟨c, hc, (hiff c hc).mpr (.inr ⟨by decide, hindented⟩)⟩, hexists, ?_⟩
  intro d hd hspace
  rcases (hiff' d hd).mp hspace with hblank | hindent
  · exact absurd hblank (by decide)
  · exact hnot hindent.2

/-- An event handler is found at the blank in front of its name. -/
theorem pointsAt_blank_before_handler :
    let code := "<a onclick=\"f()\">"
    let finding : Finding :=
      ⟨1, 3, "Inline event handlers mix markup and behaviour", .warning, "no-inline-handler"⟩
    scan .builtin code .html = [finding] ∧ finding.PointsAt code ' ' ∧ Unicode.isSpace ' ' ∧
      ¬∃ c, finding.PointsAt code c ∧ ¬Unicode.isSpace c := by
  intro code finding
  have hscan : scan .builtin code .html = [finding] := by
    rw [scan, sort_eq_append]
    decide +kernel
  have hpoints : finding.PointsAt code ' ' :=
    ⟨0, 2, code.toList, rfl, rfl, by decide +kernel, by decide⟩
  refine ⟨hscan, hpoints, by decide, ?_⟩
  rintro ⟨c, hc, hspace⟩
  rw [hc.unique hpoints] at hspace
  exact hspace (by decide)

end Finding
end Checkup
