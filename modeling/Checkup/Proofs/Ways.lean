import Checkup.Pattern.Match
import Mathlib.Data.List.Basic
import Mathlib.Tactic.Lemma

/-!
# Ways of matching

`Pattern.ways` lists how a pattern can match from a position of a text on, in the order in which a
search with backtracking would try: the left side of a choice before the right one, a greedy
repetition before its end, a lazy one after it. A round of a repetition after the first has to take
a character. The first way is the match that the pattern prefers.
-/

namespace Checkup

def Hit.stay (i : Nat) : Hit := ⟨i, none, none⟩

/-- One hit followed by another. The marked part is that of the later one, if it has one. -/
def Hit.andThen (h k : Hit) : Hit :=
  ⟨k.stop, k.markStart.or h.markStart, k.markStop.or h.markStop⟩

namespace Hit

@[simp] lemma stay_stop (i : Nat) : (stay i).stop = i := rfl

@[simp] lemma stay_markStart (i : Nat) : (stay i).markStart = none := rfl

@[simp] lemma stay_markStop (i : Nat) : (stay i).markStop = none := rfl

@[simp] lemma andThen_stop (h k : Hit) : (h.andThen k).stop = k.stop := rfl

@[simp] lemma andThen_markStart (h k : Hit) :
    (h.andThen k).markStart = k.markStart.or h.markStart := rfl

@[simp] lemma andThen_markStop (h k : Hit) :
    (h.andThen k).markStop = k.markStop.or h.markStop := rfl

@[simp] lemma openMark_stop (i : Nat) (h : Hit) : (h.openMark i).stop = h.stop := rfl

@[simp] lemma closeMark_stop (i : Nat) (h : Hit) : (h.closeMark i).stop = h.stop := rfl

@[simp] lemma stay_andThen (i : Nat) (h : Hit) : (stay i).andThen h = h := by
  simp [stay, andThen]

@[simp] lemma andThen_stay (h : Hit) : h.andThen (stay h.stop) = h := by
  simp [stay, andThen]

lemma andThen_assoc (h k l : Hit) : (h.andThen k).andThen l = h.andThen (k.andThen l) := by
  simp [andThen, Option.or_assoc]

/-- The marked part of a hit, if it has one, lies between `i` and the end of the hit. -/
def MarkedFrom (i : Nat) (h : Hit) : Prop :=
  (h.markStart = none ∧ h.markStop = none) ∨
    ∃ s e, h.markStart = some s ∧ h.markStop = some e ∧ i ≤ s ∧ s ≤ e ∧ e ≤ h.stop

lemma MarkedFrom.andThen {i : Nat} {h k : Hit} (hh : h.MarkedFrom i) (hi : i ≤ h.stop)
    (hstop : h.stop ≤ k.stop) (hk : k.MarkedFrom h.stop) : (h.andThen k).MarkedFrom i := by
  rcases hk with ⟨hs, he⟩ | ⟨s, e, hs, he, hle, hse, hek⟩
  · rcases hh with ⟨hs', he'⟩ | ⟨s, e, hs', he', his, hse, heh⟩
    · exact .inl ⟨by simp [hs, hs'], by simp [he, he']⟩
    · exact .inr ⟨s, e, by simp [hs, hs'], by simp [he, he'], his, hse, by
        simp only [andThen_stop]
        omega⟩
  · exact .inr ⟨s, e, by simp [hs], by simp [he], by omega, hse, hek⟩

end Hit

def Site.ofText (text : List Char) (i : Nat) : Site where
  position := i
  before := if i = 0 then none else text[i - 1]?
  after := text[i]?

namespace Pattern

/-- The ways to go on with a repetition whose rounds match in these ways. Another round has to take
a character, so there are at most `size` of them. -/
def rounds (size : Nat) (greedy : Bool) (ways : Nat → List Hit) (i : Nat) : List Hit :=
  let again := (ways i).flatMap fun h =>
    if _ : i < h.stop ∧ h.stop ≤ size then (rounds size greedy ways h.stop).map h.andThen else []
  if greedy then again ++ [.stay i] else .stay i :: again
termination_by size - i

/-- The ways to match from the position `i` on, the preferred ones first. -/
def ways (text : List Char) : Pattern → Nat → List Hit
  | empty, i => [.stay i]
  | char s, i => if text[i]?.any s.contains then [.stay (i + 1)] else []
  | look a, i =>
    if a.holds (Site.ofText text i).before (Site.ofText text i).after then [.stay i] else []
  | seq r s, i => (ways text r i).flatMap fun h => (ways text s h.stop).map h.andThen
  | alt r s, i => ways text r i ++ ways text s i
  | plus greedy r, i => (ways text r i).flatMap fun h =>
    if h.stop = i then [h] else (rounds text.length greedy (ways text r) h.stop).map h.andThen
  | mark r, i => (ways text r i).map fun h => { h.openMark i with markStop := some h.stop }

variable {text : List Char}

/-- A way through `rounds` ends where it starts, or goes through one more round. -/
lemma mem_rounds {size : Nat} {greedy : Bool} {ways : Nat → List Hit} {i : Nat} {h : Hit} :
    h ∈ rounds size greedy ways i ↔ h = .stay i ∨ ∃ k ∈ ways i, (i < k.stop ∧ k.stop ≤ size) ∧
      ∃ l ∈ rounds size greedy ways k.stop, h = k.andThen l := by
  have again : (∃ k ∈ ways i, h ∈ if _ : i < k.stop ∧ k.stop ≤ size then
        (rounds size greedy ways k.stop).map k.andThen else []) ↔
      ∃ k ∈ ways i, (i < k.stop ∧ k.stop ≤ size) ∧
        ∃ l ∈ rounds size greedy ways k.stop, h = k.andThen l := by
    refine exists_congr fun k => and_congr_right fun _ => ?_
    by_cases hk : i < k.stop ∧ k.stop ≤ size
    · simp [hk, eq_comm]
    · simp [hk]
  rw [rounds]
  cases greedy
  · simp only [Bool.false_eq_true, if_false, List.mem_cons, List.mem_flatMap, again]
  · simp only [if_true, List.mem_append, List.mem_flatMap, List.mem_singleton, again]
    exact or_comm

/-- Rounds keep what every single round keeps. -/
theorem rounds_induction {size : Nat} {greedy : Bool} {ways : Nat → List Hit}
    {P : Nat → Hit → Prop} (stay : ∀ i, P i (.stay i))
    (round : ∀ i, ∀ k ∈ ways i, i < k.stop → k.stop ≤ size → ∀ l, P k.stop l → P i (k.andThen l))
    {i : Nat} {h : Hit} (hh : h ∈ rounds size greedy ways i) : P i h := by
  induction hn : size - i using Nat.strongRecOn generalizing i h with
  | ind n ih =>
    rcases mem_rounds.mp hh with rfl | ⟨k, hk, ⟨hlt, hle⟩, l, hl, rfl⟩
    · exact stay i
    · exact round i k hk hlt hle l (ih (size - k.stop) (by omega) hl rfl)

lemma rounds_stop {size : Nat} {greedy : Bool} {ways : Nat → List Hit} {i : Nat} {h : Hit}
    (hh : h ∈ rounds size greedy ways i) : i ≤ h.stop ∧ h.stop ≤ max i size := by
  refine rounds_induction (P := fun i h => i ≤ h.stop ∧ h.stop ≤ max i size) ?_ ?_ hh
  · intro i
    simp only [Hit.stay_stop]
    omega
  · intro i k _ hlt hle l hl
    simp only [Hit.andThen_stop]
    omega

/-- A match ends in the text, and not before it starts. -/
theorem ways_stop (r : Pattern) {i : Nat} {h : Hit} (hh : h ∈ ways text r i) :
    i ≤ h.stop ∧ h.stop ≤ max i text.length := by
  induction r generalizing i h with
  | empty =>
    simp only [ways, List.mem_singleton] at hh
    simp only [hh, Hit.stay_stop]
    omega
  | char s =>
    simp only [ways] at hh
    split at hh
    · rename_i hc
      have hi : i < text.length := by
        by_contra hi
        simp [List.getElem?_eq_none (Nat.not_lt.mp hi)] at hc
      simp only [List.mem_singleton] at hh
      simp only [hh, Hit.stay_stop]
      omega
    · simp at hh
  | look a =>
    simp only [ways] at hh
    split at hh
    · simp only [List.mem_singleton] at hh
      simp only [hh, Hit.stay_stop]
      omega
    · simp at hh
  | seq r s ihr ihs =>
    simp only [ways, List.mem_flatMap, List.mem_map] at hh
    obtain ⟨k, hk, l, hl, rfl⟩ := hh
    have h₁ := ihr hk
    have h₂ := ihs hl
    simp only [Hit.andThen_stop]
    omega
  | alt r s ihr ihs =>
    simp only [ways, List.mem_append] at hh
    rcases hh with hh | hh
    · exact ihr hh
    · exact ihs hh
  | plus greedy r ih =>
    simp only [ways, List.mem_flatMap] at hh
    obtain ⟨k, hk, hh⟩ := hh
    have h₁ := ih hk
    split at hh
    · simp only [List.mem_singleton] at hh
      rw [hh]
      exact h₁
    · simp only [List.mem_map] at hh
      obtain ⟨l, hl, rfl⟩ := hh
      have h₂ := rounds_stop hl
      simp only [Hit.andThen_stop]
      omega
  | mark r ih =>
    simp only [ways, List.mem_map] at hh
    obtain ⟨k, hk, rfl⟩ := hh
    have h₁ := ih hk
    exact h₁

lemma rounds_marked {size : Nat} {greedy : Bool} {ways : Nat → List Hit} {i : Nat} {h : Hit}
    (hways : ∀ i, ∀ k ∈ ways i, k.MarkedFrom i) (hh : h ∈ rounds size greedy ways i) :
    h.MarkedFrom i := by
  refine (rounds_induction (P := fun i h => i ≤ h.stop ∧ h.MarkedFrom i) ?_ ?_ hh).2
  · intro i
    exact ⟨Nat.le_refl i, .inl ⟨rfl, rfl⟩⟩
  · intro i k hk hlt _ l hl
    exact ⟨by simp only [Hit.andThen_stop]; omega,
      (hways i k hk).andThen (Nat.le_of_lt hlt) hl.1 hl.2⟩

/-- The marked part of a match lies in the match. -/
theorem ways_marked (r : Pattern) {i : Nat} {h : Hit} (hh : h ∈ ways text r i) :
    h.MarkedFrom i := by
  induction r generalizing i h with
  | empty =>
    simp only [ways, List.mem_singleton] at hh
    exact .inl ⟨by rw [hh]; rfl, by rw [hh]; rfl⟩
  | char s =>
    simp only [ways] at hh
    split at hh
    · simp only [List.mem_singleton] at hh
      exact .inl ⟨by rw [hh]; rfl, by rw [hh]; rfl⟩
    · simp at hh
  | look a =>
    simp only [ways] at hh
    split at hh
    · simp only [List.mem_singleton] at hh
      exact .inl ⟨by rw [hh]; rfl, by rw [hh]; rfl⟩
    · simp at hh
  | seq r s ihr ihs =>
    simp only [ways, List.mem_flatMap, List.mem_map] at hh
    obtain ⟨k, hk, l, hl, rfl⟩ := hh
    exact (ihr hk).andThen (ways_stop r hk).1 (ways_stop s hl).1 (ihs hl)
  | alt r s ihr ihs =>
    simp only [ways, List.mem_append] at hh
    rcases hh with hh | hh
    · exact ihr hh
    · exact ihs hh
  | plus greedy r ih =>
    simp only [ways, List.mem_flatMap] at hh
    obtain ⟨k, hk, hh⟩ := hh
    split at hh
    · simp only [List.mem_singleton] at hh
      rw [hh]
      exact ih hk
    · simp only [List.mem_map] at hh
      obtain ⟨l, hl, rfl⟩ := hh
      exact (ih hk).andThen (ways_stop r hk).1 (rounds_stop hl).1
        (rounds_marked (fun _ _ => ih) hl)
  | mark r ih =>
    simp only [ways, List.mem_map] at hh
    obtain ⟨k, hk, rfl⟩ := hh
    have hstop := ways_stop r hk
    rcases ih hk with ⟨hs, _⟩ | ⟨s, e, hs, _, his, hse, hek⟩
    · exact .inr ⟨i, k.stop, by simp [Hit.openMark, hs], rfl, Nat.le_refl i, hstop.1,
        Nat.le_refl _⟩
    · exact .inr ⟨s, k.stop, by simp [Hit.openMark, hs], rfl, his, by omega, Nat.le_refl _⟩

end Pattern
end Checkup
