import Mathlib.Data.List.Pairwise

/-!
# Sorting by a key

Sorting a list by a number puts the numbers in order. If they are different, no other list with the
same members has them in order.
-/

namespace Checkup

variable {α : Type} {l l' : List α}

lemma key_le_trans (key : α → Nat) (a b c : α) (hab : decide (key a ≤ key b))
    (hbc : decide (key b ≤ key c)) : decide (key a ≤ key c) := by
  simp only [decide_eq_true_eq] at hab hbc ⊢
  exact Nat.le_trans hab hbc

lemma key_le_total (key : α → Nat) (a b : α) : decide (key a ≤ key b) || decide (key b ≤ key a) := by
  simp only [Bool.or_eq_true, decide_eq_true_eq]
  exact Nat.le_total (key a) (key b)

lemma mergeSort_pairwise_le (key : α → Nat) (l : List α) :
    (l.mergeSort fun a b => key a ≤ key b).Pairwise fun a b => key a ≤ key b :=
  (List.pairwise_mergeSort (key_le_trans key) (key_le_total key) l).imp of_decide_eq_true

lemma mergeSort_pairwise_lt {key : α → Nat} (h : l.Pairwise fun a b => key a ≠ key b) :
    (l.mergeSort fun a b => key a ≤ key b).Pairwise fun a b => key a < key b := by
  have hperm := List.mergeSort_perm l fun a b => key a ≤ key b
  have hne := hperm.symm.pairwise h fun hab => hab.symm
  exact (mergeSort_pairwise_le key l).imp₂ (fun a b hle hab => Nat.lt_of_le_of_ne hle hab) hne

/-- Sorting puts elements with different keys into one order only. -/
lemma mergeSort_eq_of_perm {key : α → Nat} (hperm : l.Perm l')
    (hkeys : l'.Pairwise fun a b => key a < key b) :
    l.mergeSort (fun a b => key a ≤ key b) = l' := by
  have hmerge := (List.mergeSort_perm l fun a b => key a ≤ key b).trans hperm
  have hsymm : Std.Symm fun a b => key a ≠ key b := ⟨fun a b => Ne.symm⟩
  have hne : l'.Pairwise fun a b => key a ≠ key b := hkeys.imp Nat.ne_of_lt
  refine List.Perm.eq_of_pairwise ?_ (mergeSort_pairwise_le key l) (hkeys.imp Nat.le_of_lt) hmerge
  intro a b ha hb hab hba
  by_contra hdiff
  exact hne.forall (hmerge.mem_iff.mp ha) hb hdiff (Nat.le_antisymm hab hba)

/-- Of two members of a list in which each begins behind the end of the one before it, one begins
behind the end of the other. -/
lemma eq_or_apart {start stop : α → Nat} (h : l.Pairwise fun a b => stop a ≤ start b)
    {a b : α} (ha : a ∈ l) (hb : b ∈ l) :
    a = b ∨ stop a ≤ start b ∨ stop b ≤ start a := by
  have hsymm : Std.Symm fun a b => stop a ≤ start b ∨ stop b ≤ start a := ⟨fun a b => Or.symm⟩
  have hapart : l.Pairwise fun a b => stop a ≤ start b ∨ stop b ≤ start a := h.imp Or.inl
  by_cases heq : a = b
  · exact .inl heq
  · exact .inr (hapart.forall ha hb heq)

end Checkup
