import Checkup.Pattern.CharSet
import Mathlib.Tactic.Lemma

/-!
# White space in character sets

There are few characters of white space, so whether a set has one of them can be looked up. They have
no case, and none of them is a part of a word.
-/

namespace Checkup

namespace Unicode

/-- The code points of the white space. -/
def blankPoints : List Nat :=
  [9, 10, 11, 12, 13, 0x20, 0x85, 0xA0, 0x1680, 0x2000, 0x2001, 0x2002, 0x2003, 0x2004, 0x2005,
    0x2006, 0x2007, 0x2008, 0x2009, 0x200A, 0x2028, 0x2029, 0x202F, 0x205F, 0x3000]

lemma toNat_mem_blankPoints {c : Char} (h : isSpace c) : c.toNat ∈ blankPoints := by
  simp only [isSpace, Bool.or_eq_true, Bool.and_eq_true, decide_eq_true_eq, beq_iff_eq] at h
  simp only [blankPoints, List.mem_cons, List.not_mem_nil, or_false]
  omega

/-- White space has no case. -/
lemma fold_of_isSpace {c : Char} (h : isSpace c) : fold c = c ∧ unfold c = [] := by
  have hall : ∀ n ∈ blankPoints, fold (Char.ofNat n) = Char.ofNat n ∧ unfold (Char.ofNat n) = [] := by
    decide +kernel
  have hc := hall c.toNat (toNat_mem_blankPoints h)
  rwa [Char.ofNat_toNat] at hc

end Unicode

namespace CharSet

/-- The set has no white space. -/
def sparesBlanks : CharSet → Bool
  | caseless a => a.sparesBlanks
  | s => Unicode.blankPoints.all fun n => !s.contains (Char.ofNat n)

lemma contains_caseless_of_isSpace {a : CharSet} {c : Char} (h : Unicode.isSpace c) :
    (caseless a).contains c = a.contains c := by
  obtain ⟨hfold, hunfold⟩ := Unicode.fold_of_isSpace h
  rw [contains, hfold, hunfold, List.any_nil, Bool.or_self, Bool.or_false]

lemma not_isSpace_of_sparesBlanks {s : CharSet} {c : Char} (hs : s.sparesBlanks)
    (hc : s.contains c) : ¬Unicode.isSpace c := by
  intro hspace
  have hall {s : CharSet} (hc : s.contains c) :
      ¬Unicode.blankPoints.all fun n => !s.contains (Char.ofNat n) := by
    intro h
    have hnot := List.all_eq_true.mp h c.toNat (Unicode.toNat_mem_blankPoints hspace)
    rw [Char.ofNat_toNat, hc] at hnot
    exact absurd hnot (by decide)
  induction s with
  | caseless a ih => exact ih hs (contains_caseless_of_isSpace hspace ▸ hc)
  | _ => exact hall hc hs

lemma not_isSpace_of_isWord {c : Char} (h : Unicode.isWord c) : ¬Unicode.isSpace c :=
  not_isSpace_of_sparesBlanks (s := .word) (by decide +kernel) h

end CharSet

end Checkup
