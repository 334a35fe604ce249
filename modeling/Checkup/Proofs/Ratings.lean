import Checkup.Proofs.Concatenation
import Mathlib.Algebra.GroupWithZero.Nat
import Mathlib.Algebra.Order.BigOperators.Group.List
import Mathlib.Tactic.Linarith

/-!
# Scores and ratings

Each finding costs some half points, an error ten, a warning four and a note one, and what is left
of two hundred is the score in halves. So a score depends on the sum of these costs alone, and the
laws of scores are laws of that sum: it does not change with the order of the findings, it does not
fall when findings are added and it does not rise when they become less severe. A rating compares
the score with three bounds.
-/

namespace Checkup

/-- What a finding costs, in half points. -/
def Severity.cost : Severity → Nat
  | error => 10
  | warning => 4
  | info => 1

/-- The place of a rating: the better, the earlier. -/
def Rating.rank : Rating → Nat
  | excellent => 0
  | good => 1
  | needsImprovement => 2
  | poor => 3

lemma Severity.cost_anti {s t : Severity} (h : s.rank ≤ t.rank) : t.cost ≤ s.cost := by
  revert h
  cases s <;> cases t <;> decide

lemma Severity.cost_pos (s : Severity) : 0 < s.cost := by
  cases s <;> decide

namespace Finding

/-- What some findings cost together. -/
def cost (findings : List Finding) : Nat := (findings.map (·.severity.cost)).sum

variable {findings findings' : List Finding}

lemma cost_eq (findings : List Finding) :
    cost findings = 10 * Summary.count findings .error + 4 * Summary.count findings .warning +
      Summary.count findings .info := by
  induction findings with
  | nil => rfl
  | cons finding findings ih =>
    simp only [cost, Summary.count, List.map_cons, List.sum_cons, List.countP_cons] at ih ⊢
    rw [ih]
    cases finding.severity <;> simp [Severity.cost] <;> omega

lemma cost_perm (h : findings.Perm findings') : cost findings = cost findings' :=
  (h.map _).sum_eq

lemma cost_le_of_sublist (h : findings.Sublist findings') : cost findings ≤ cost findings' :=
  (h.map _).sum_le_sum fun _ _ => Nat.zero_le _

/-- Findings that are less severe, one by one, cost less. -/
lemma cost_le_of_forall₂
    (h : List.Forall₂ (fun f f' => f.severity.rank ≤ f'.severity.rank) findings findings') :
    cost findings' ≤ cost findings := by
  induction h with
  | nil => exact Nat.le_refl _
  | cons hle _ ih => exact Nat.add_le_add (Severity.cost_anti hle) ih

lemma cost_eq_zero_iff : cost findings = 0 ↔ findings = [] := by
  cases findings with
  | nil => simp [cost]
  | cons finding findings =>
    have hpos := finding.severity.cost_pos
    simp only [cost, List.map_cons, List.sum_cons, reduceCtorEq, iff_false]
    omega

end Finding

namespace Double

/-- A ratio that is scaled by a power of two stands for the number without the scale. -/
lemma scale_div (n : Nat) (exponent : Int) :
    (((scale n 1 (-exponent)).1 : ℚ) / (scale n 1 (-exponent)).2 = n * 2 ^ exponent) ∧
      0 < (scale n 1 (-exponent)).2 := by
  unfold scale
  by_cases h : -exponent < 0
  · obtain ⟨k, rfl⟩ := Int.eq_ofNat_of_zero_le (by omega : 0 ≤ exponent)
    rw [if_pos h]
    simp
  · obtain ⟨k, hk⟩ := Int.eq_ofNat_of_zero_le (by omega : 0 ≤ -exponent)
    obtain rfl : exponent = -k := by omega
    rw [if_neg h]
    simp [div_eq_mul_inv]

/-- A double is at least a bound if the number that it stands for is. -/
lemma atLeast_iff {x : Double} {v : ℚ} (h : x.value? = some v) (bound : Nat) :
    x.atLeast bound ↔ (bound : ℚ) ≤ v := by
  cases x with
  | infinite negative => simp [value?] at h
  | notANumber => simp [value?] at h
  | finite negative significand exponent =>
    obtain ⟨hvalue, hpos⟩ := scale_div significand exponent
    simp only [value?, Option.some.injEq] at h
    cases negative with
    | false =>
      simp only [Bool.false_eq_true, if_false, one_mul] at h
      have hcast : (0 : ℚ) < (scale significand 1 (-exponent)).2 := Nat.cast_pos.mpr hpos
      rw [← h, ← hvalue, le_div_iff₀ hcast, atLeast]
      simp only [Bool.false_eq_true, if_false, decide_eq_true_eq]
      exact_mod_cast Iff.rfl
    | true =>
      have hpow : (0 : ℚ) < 2 ^ exponent := zpow_pos two_pos exponent
      simp only [if_true] at h
      simp only [atLeast, if_true, Bool.and_eq_true, beq_iff_eq]
      constructor
      · rintro ⟨rfl, rfl⟩
        simp [← h]
      · intro hle
        have hnonneg : (0 : ℚ) ≤ significand * 2 ^ exponent := by positivity
        have hbound : (0 : ℚ) ≤ bound := Nat.cast_nonneg bound
        have hboth : (bound : ℚ) = 0 ∧ (significand : ℚ) * 2 ^ exponent = 0 := by
          rw [neg_mul, one_mul, neg_mul] at h
          constructor <;> linarith
        refine ⟨by exact_mod_cast hboth.1, ?_⟩
        exact_mod_cast (mul_eq_zero.mp hboth.2).resolve_right hpow.ne'

end Double

namespace Rating

variable {x y : Double} {p q : ℚ}

/-- A rating by the number that the score stands for. -/
def ofNumber (v : ℚ) : Rating :=
  if 80 ≤ v then excellent else if 60 ≤ v then good else if 40 ≤ v then needsImprovement else poor

lemma ofScore_eq (h : x.value? = some p) : ofScore x = ofNumber p := by
  unfold ofScore ofNumber
  simp only [Double.atLeast_iff h]
  norm_num

lemma ofNumber_anti (h : p ≤ q) : (ofNumber q).rank ≤ (ofNumber p).rank := by
  grind [ofNumber, rank]

lemma ofNumber_eq_poor_iff : ofNumber p = poor ↔ p < 40 := by
  grind [ofNumber]

lemma ofNumber_eq_excellent_iff : ofNumber p = excellent ↔ 80 ≤ p := by
  grind [ofNumber]

/-- A higher score has no worse rating. -/
lemma ofScore_anti (h : x.Le y) : (ofScore y).rank ≤ (ofScore x).rank := by
  obtain ⟨p, hp, q, hq, hle⟩ := h
  rw [ofScore_eq hp, ofScore_eq hq]
  exact ofNumber_anti hle

lemma ofScore_eq_poor_iff (h : x.value? = some p) : ofScore x = poor ↔ p < 40 := by
  rw [ofScore_eq h, ofNumber_eq_poor_iff]

end Rating

namespace Summary

variable {findings findings' : List Finding} {links links' : List LinkResult}

/-- The score of a summary is a number of half points between nothing and a hundred points, and its
rating tells how high it is. -/
structure Scored (summary : Summary) (findings : List Finding) (score : ℚ) : Prop where
  value : summary.score.value? = some score
  eq_max : score = max (0 : ℚ) (200 - (10 * count findings .error + 4 * count findings .warning +
    count findings .info : ℚ)) / 2
  halves : ∃ halves : Nat, score = halves / 2
  nonneg : 0 ≤ score
  le_hundred : score ≤ 100
  eq_hundred_iff : score = 100 ↔ findings = []
  poor_iff : summary.rating = .poor ↔ score < 40
  excellent_iff : summary.rating = .excellent ↔
    10 * count findings .error + 4 * count findings .warning + count findings .info ≤ 40

/-- The score is what the findings cost less than two hundred half points. -/
lemma score_eq (findings : List Finding) (links : List LinkResult) :
    (of findings links).score = .ofRat (((200 - Finding.cost findings : Nat) : ℚ) / 2) := by
  rw [Finding.cost_eq]
  exact qualityScore_eq _ _ _

lemma value?_score (findings : List Finding) (links : List LinkResult) :
    (of findings links).score.value? = some (((200 - Finding.cost findings : Nat) : ℚ) / 2) := by
  rw [score_eq, Double.value?_ofRat_half (by omega)]

lemma score_le_of_cost_le (h : Finding.cost findings ≤ Finding.cost findings') :
    (of findings' links').score.Le (of findings links).score := by
  apply Double.le_of_halves (value?_score _ _) (value?_score _ _)
  exact Nat.sub_le_sub_left h 200

/-- What is left of two hundred half points, and of nothing if the cost is higher. -/
lemma cast_two_hundred_sub (cost : Nat) :
    ((200 - cost : Nat) : ℚ) = max (0 : ℚ) (200 - (cost : ℚ)) := by
  rcases Nat.le_total cost 200 with h | h
  · have hle : (cost : ℚ) ≤ 200 := by exact_mod_cast h
    rw [Nat.cast_sub h, max_eq_right (sub_nonneg.mpr hle), Nat.cast_ofNat]
  · have hle : (200 : ℚ) ≤ cost := by exact_mod_cast h
    rw [Nat.sub_eq_zero_of_le h, max_eq_left (sub_nonpos.mpr hle), Nat.cast_zero]

lemma scored_of (findings : List Finding) (links : List LinkResult) :
    ∃ score, (of findings links).Scored findings score := by
  obtain ⟨left, hleft⟩ : ∃ left, left = 200 - Finding.cost findings := ⟨_, rfl⟩
  have hvalue : (of findings links).score.value? = some ((left : ℚ) / 2) := by
    rw [hleft, value?_score]
  have hrating : (of findings links).rating = .ofNumber ((left : ℚ) / 2) := Rating.ofScore_eq hvalue
  have hhundred : (left : ℚ) / 2 = 100 ↔ left = 200 := by
    rw [div_eq_iff two_ne_zero]
    norm_num
    exact_mod_cast Iff.rfl
  have hexcellent : (80 : ℚ) ≤ left / 2 ↔ 160 ≤ left := by
    rw [le_div_iff₀ two_pos]
    norm_num
  refine ⟨(left : ℚ) / 2, ?_⟩
  constructor
  · exact hvalue
  · rw [hleft, cast_two_hundred_sub, Finding.cost_eq]
    push_cast
    rfl
  · exact ⟨left, rfl⟩
  · positivity
  · have hle : (left : ℚ) ≤ 200 := by exact_mod_cast hleft ▸ Nat.sub_le 200 _
    linarith
  · rw [hhundred, ← Finding.cost_eq_zero_iff]
    omega
  · rw [hrating, Rating.ofNumber_eq_poor_iff]
  · rw [hrating, Rating.ofNumber_eq_excellent_iff, hexcellent, ← Finding.cost_eq]
    omega

/-- The score of a summary is what the findings leave of two hundred half points, whatever the links
and the order of the findings are. With more findings neither it nor the rating gets better, and
with less severe ones it gets no worse. Ratings are in the order of the scores, and poor is what is
below forty. -/
theorem score_laws (findings : List Finding) (links : List LinkResult) :
    (∃ score, (of findings links).Scored findings score) ∧
    (∀ findings' links', findings.Perm findings' →
      (of findings' links').score = (of findings links).score) ∧
    (∀ findings' links', findings.Sublist findings' →
      (of findings' links').score.Le (of findings links).score ∧
        (of findings links).rating.rank ≤ (of findings' links').rating.rank) ∧
    (∀ findings' links',
      List.Forall₂ (fun f f' => f.severity.rank ≤ f'.severity.rank) findings findings' →
      (of findings links).score.Le (of findings' links').score) ∧
    (∀ x y : Double, x.Le y → (Rating.ofScore y).rank ≤ (Rating.ofScore x).rank) ∧
    ∀ (x : Double) (v : ℚ), x.value? = some v → (Rating.ofScore x = .poor ↔ v < 40) := by
  refine ⟨scored_of findings links, ?_, ?_, ?_, fun x y => Rating.ofScore_anti,
    fun x v => Rating.ofScore_eq_poor_iff⟩
  · intro findings' links' h
    rw [score_eq, score_eq, Finding.cost_perm h]
  · intro findings' links' h
    have hle : (of findings' links').score.Le (of findings links).score :=
      score_le_of_cost_le (Finding.cost_le_of_sublist h)
    exact ⟨hle, Rating.ofScore_anti hle⟩
  · intro findings' links' h
    exact score_le_of_cost_le (Finding.cost_le_of_forall₂ h)

theorem score_laws_error :
    let error : Finding := ⟨3, 1, "Avoid eval()", .error, "no-eval"⟩
    let warning : Finding := ⟨3, 1, "Avoid eval()", .warning, "no-eval"⟩
    let note : Finding := ⟨1, 9, "Unresolved TODO", .info, "todo-comment"⟩
    let broken : LinkResult := .failure "http://a.test" .timeout
    [error].Perm [error] ∧ (of [error] [broken]).score = (of [error] []).score ∧
      [error].Sublist [note, error] ∧
      (of [note, error] [broken]).score.Le (of [error] []).score ∧
      (of [error] []).rating.rank ≤ (of [note, error] [broken]).rating.rank ∧
      List.Forall₂ (fun f f' => f.severity.rank ≤ f'.severity.rank) [error] [warning] ∧
      (of [error] []).score.Le (of [warning] []).score ∧
      (Double.ofRat (79 / 2)).value? = some (79 / 2) ∧
      Rating.ofScore (.ofRat (79 / 2)) = .poor ∧
      (Double.ofRat (79 / 2)).Le (.ofRat (80 / 2)) ∧
      (Rating.ofScore (.ofRat (80 / 2))).rank ≤ (Rating.ofScore (.ofRat (79 / 2))).rank := by
  intro error warning note broken
  obtain ⟨-, hperm, hmore, hless, hrating, hpoor⟩ := score_laws [error] []
  have hsub : [error].Sublist [note, error] := List.sublist_cons_self note [error]
  have hlower : List.Forall₂ (fun f f' : Finding => f.severity.rank ≤ f'.severity.rank)
      [error] [warning] := .cons (by decide) .nil
  have hvalue : (Double.ofRat (79 / 2)).value? = some (79 / 2) :=
    Double.value?_ofRat_half (by decide)
  have hforty : (Double.ofRat (80 / 2)).value? = some (80 / 2) :=
    Double.value?_ofRat_half (by decide)
  have hle : (Double.ofRat (79 / 2)).Le (.ofRat (80 / 2)) :=
    ⟨_, hvalue, _, hforty, by norm_num⟩
  refine ⟨.refl _, hperm _ _ (.refl _), hsub, (hmore _ _ hsub).1, (hmore _ _ hsub).2, hlower,
    hless _ _ hlower, hvalue, (hpoor _ _ hvalue).mpr (by norm_num), hle, hrating _ _ hle⟩

end Summary
end Checkup
