import Checkup.Proofs.Stops

/-!
# Counting matches

`Pattern.countFrom` is the number of matches that a search finds from a position on. For a pattern
without empty matches it depends on the preferred ends alone. If matches that start later do not end
earlier, no choice of matches that lie apart has more members than the search finds.
-/

namespace Checkup.Pattern

variable {text : List Char} {r : Pattern} {i j : Nat}

/-- The number of matches at `i` or later. -/
def countFrom (r : Pattern) (text : List Char) (i : Nat) : Nat := (r.successive text none i).length

lemma length_matchesIn_eq (r : Pattern) (text : List Char) :
    (r.matchesIn text).length = r.countFrom text 0 := by
  rw [matchesIn_eq, countFrom]

lemma matchAt?_of_consumes (hr : r.consumes) (last : Option Nat) :
    r.matchAt? text last i = r.matchAt? text none i := by
  cases hs : r.stops text i with
  | nil => rw [(matchAt?_eq_none_iff hr).mpr hs, (matchAt?_eq_none_iff hr).mpr hs]
  | cons j js =>
    rw [stops, List.map_eq_cons_iff] at hs
    obtain ⟨h, hs, hways, -, -⟩ := hs
    have hlt : i < h.stop := Spans.lt ⟨h, by rw [hways]; exact List.mem_cons_self, rfl⟩ hr
    have hhead : (r.ways text i).head? = some h := by rw [hways]; rfl
    rw [matchAt?_eq_some.mpr ⟨h, hhead, by omega, rfl⟩,
      matchAt?_eq_some.mpr ⟨h, hhead, by omega, rfl⟩]

/-- Without empty matches it does not matter where the previous match ended. -/
lemma successive_of_consumes (hr : r.consumes) (last : Option Nat) (i : Nat) :
    r.successive text last i = r.successive text none i := by
  have hnext : r.nextMatch? text last i = r.nextMatch? text none i := by
    unfold nextMatch?
    congr 1
    funext k
    exact matchAt?_of_consumes hr last
  cases hm : r.nextMatch? text none i with
  | none => rw [successive_of_none hm, successive_of_none (hnext.trans hm)]
  | some m => rw [successive_of_some hm, successive_of_some (hnext.trans hm)]

lemma stop_le_length (h : j ∈ r.stops text i) (hi : i ≤ text.length) : j ≤ text.length := by
  obtain ⟨k, hk, rfl⟩ := mem_stops.mp h
  have hstop := ways_stop r hk
  omega

lemma lt_length_of_mem_stops (hr : r.consumes) (h : j ∈ r.stops text i) : i < text.length := by
  have hlt := (mem_stops.mp h).lt hr
  obtain ⟨k, hk, rfl⟩ := mem_stops.mp h
  have hstop := ways_stop r hk
  omega

lemma countFrom_of_nil (h : r.stops text i = []) : r.countFrom text i = r.countFrom text (i + 1) := by
  have hnone : r.matchAt? text none i = none := by
    rw [stops, List.map_eq_nil_iff] at h
    rw [matchAt?, h]
    rfl
  rw [countFrom, countFrom, successive_succ hnone]

lemma countFrom_of_head (hr : r.consumes) (h : (r.stops text i).head? = some j) :
    r.countFrom text i = r.countFrom text j + 1 := by
  obtain ⟨js, hs⟩ := List.head?_eq_some_iff.mp h
  obtain ⟨m, hat, -, rfl⟩ := exists_matchAt? hr none hs
  have hi := lt_length_of_mem_stops hr (List.mem_of_mem_head? h)
  rw [countFrom, successive_of_matchAt? (Nat.le_of_lt hi) hat, List.length_cons,
    successive_of_consumes hr, countFrom]

lemma countFrom_eq_zero (h : ∀ k, i ≤ k → r.stops text k = []) : r.countFrom text i = 0 := by
  have hnone : r.nextMatch? text none i = none := by
    rw [nextMatch?_eq_none]
    intro k hk _
    have hnil := h k hk
    rw [stops, List.map_eq_nil_iff] at hnil
    rw [matchAt?, hnil]
    rfl
  rw [countFrom, successive_of_none hnone, List.length_nil]

lemma countFrom_of_length_le (hr : r.consumes) (hi : text.length ≤ i) : r.countFrom text i = 0 := by
  apply countFrom_eq_zero
  intro k hk
  rw [List.eq_nil_iff_forall_not_mem]
  intro j hj
  have := lt_length_of_mem_stops hr hj
  omega

/-- Of two matches the one that starts later does not end earlier. -/
def InOrder (r : Pattern) (text : List Char) : Prop :=
  ∀ i i' j j', (r.stops text i).head? = some j → (r.stops text i').head? = some j' → i ≤ i' → j ≤ j'

/-- Matches, as their starts and ends, that begin at `i` or later and lie apart. -/
structure Apart (r : Pattern) (text : List Char) (i : Nat) (ps : List (Nat × Nat)) : Prop where
  preferred : ∀ p ∈ ps, (r.stops text p.1).head? = some p.2
  start_le : ∀ p ∈ ps, i ≤ p.1
  pairwise : ps.Pairwise fun p q => p.2 ≤ q.1

lemma Apart.tail {p : Nat × Nat} {ps : List (Nat × Nat)} (h : r.Apart text i (p :: ps))
    (hj : j ≤ p.2) : r.Apart text j ps where
  preferred _ hq := h.preferred _ (List.mem_cons_of_mem p hq)
  start_le _ hq := Nat.le_trans hj (List.rel_of_pairwise_cons h.pairwise hq)
  pairwise := h.pairwise.tail

/-- A search finds as many matches as can lie apart: one that ends a search earlier leaves no less
to be found. -/
theorem Apart.length_le {ps : List (Nat × Nat)} (hr : r.consumes) (horder : r.InOrder text)
    (h : r.Apart text i ps) : ps.length ≤ r.countFrom text i := by
  induction hn : text.length - i using Nat.strongRecOn generalizing i ps with
  | ind n ih =>
    cases ps with
    | nil => exact Nat.zero_le _
    | cons p ps =>
      have hp := h.preferred p List.mem_cons_self
      have hip := h.start_le p List.mem_cons_self
      have hlt := lt_length_of_mem_stops hr (List.mem_of_mem_head? hp)
      cases hs : (r.stops text i).head? with
      | none =>
        have hne : i ≠ p.1 := by
          rintro rfl
          rw [hs] at hp
          exact absurd hp (by simp)
        have hple := (mem_stops.mp (List.mem_of_mem_head? hp)).le
        have hnext : r.Apart text (i + 1) (p :: ps) := by
          refine ⟨h.preferred, ?_, h.pairwise⟩
          intro q hq
          rcases List.mem_cons.mp hq with rfl | hq
          · omega
          · have hrest := (h.tail (Nat.le_refl p.2)).start_le q hq
            omega
        rw [countFrom_of_nil (List.head?_eq_none_iff.mp hs)]
        exact ih (text.length - (i + 1)) (by omega) hnext rfl
      | some j =>
        have hij := (mem_stops.mp (List.mem_of_mem_head? hs)).lt hr
        have hjp := horder i p.1 j p.2 hs hp hip
        rw [countFrom_of_head hr hs, List.length_cons]
        exact Nat.succ_le_succ (ih (text.length - j) (by omega) (h.tail hjp) rfl)

/-- The matches that a search finds lie apart. -/
lemma exists_apart (hr : r.consumes) (text : List Char) (i : Nat) :
    ∃ ps, r.Apart text i ps ∧ ps.length = r.countFrom text i := by
  induction hn : text.length - i using Nat.strongRecOn generalizing i with
  | ind n ih =>
    by_cases hi : text.length ≤ i
    · exact ⟨[], ⟨by simp, by simp, .nil⟩, (countFrom_of_length_le hr hi).symm⟩
    cases hs : (r.stops text i).head? with
    | none =>
      obtain ⟨ps, hps, hlen⟩ := ih (text.length - (i + 1)) (by omega) (i + 1) rfl
      rw [countFrom_of_nil (List.head?_eq_none_iff.mp hs)]
      exact ⟨ps, { hps with start_le := fun p hp => Nat.le_of_succ_le (hps.start_le p hp) }, hlen⟩
    | some j =>
      have hij := (mem_stops.mp (List.mem_of_mem_head? hs)).lt hr
      obtain ⟨ps, hps, hlen⟩ := ih (text.length - j) (by omega) j rfl
      refine ⟨(i, j) :: ps, ⟨?_, ?_, ?_⟩, ?_⟩
      · intro p hp
        rcases List.mem_cons.mp hp with rfl | hp
        · exact hs
        · exact hps.preferred p hp
      · intro p hp
        rcases List.mem_cons.mp hp with rfl | hp
        · exact Nat.le_refl i
        · exact Nat.le_trans (Nat.le_of_lt hij) (hps.start_le p hp)
      · exact List.pairwise_cons.mpr ⟨hps.start_le, hps.pairwise⟩
      · rw [countFrom_of_head hr hs, List.length_cons, hlen]

/-- The relation says of each text where the preferred matches of the pattern lie, and of two matches
the one that starts later does not end earlier. -/
structure Settled (r : Pattern) (At : List Char → Nat → Nat → Prop) : Prop where
  consumes : r.consumes
  of_head : ∀ {text i j}, (r.stops text i).head? = some j → At text i j
  spans : ∀ {text i j}, At text i j → ∃ k, r.Spans text i k
  ordered : ∀ {text i j i' j'}, At text i j → At text i' j' → i ≤ i' → j ≤ j'

namespace Settled

variable {At : List Char → Nat → Nat → Prop}

lemma head?_eq (h : r.Settled At) (hat : At text i j) : (r.stops text i).head? = some j := by
  obtain ⟨k, hk⟩ := h.spans hat
  cases hs : (r.stops text i).head? with
  | none =>
    rw [List.head?_eq_none_iff] at hs
    have hmem := mem_stops.mpr hk
    rw [hs] at hmem
    exact absurd hmem List.not_mem_nil
  | some l =>
    have hl := h.of_head hs
    have hjl := h.ordered hat hl (Nat.le_refl i)
    have hlj := h.ordered hl hat (Nat.le_refl i)
    rw [Nat.le_antisymm hlj hjl]

lemma inOrder (h : r.Settled At) (text : List Char) : r.InOrder text :=
  fun _ _ _ _ hs hs' hle => h.ordered (h.of_head hs) (h.of_head hs') hle

/-- If the matches in two texts are matches in a third one, those of the first before those of the
second, the third one has at least as many as both. -/
theorem countFrom_add_le (h : r.Settled At) {a b : List Char} {off : Nat} (hoff : a.length ≤ off)
    (hleft : ∀ i j, At a i j → At text i j)
    (hright : ∀ i j, At b i j → At text (off + i) (off + j)) :
    r.countFrom a 0 + r.countFrom b 0 ≤ r.countFrom text 0 := by
  obtain ⟨ps, hps, hplen⟩ := exists_apart h.consumes a 0
  obtain ⟨qs, hqs, hqlen⟩ := exists_apart h.consumes b 0
  have happart : r.Apart text 0 (ps ++ qs.map fun q => (off + q.1, off + q.2)) := by
    refine ⟨?_, fun p _ => Nat.zero_le _, ?_⟩
    · intro p hp
      rcases List.mem_append.mp hp with hp | hp
      · exact h.head?_eq (hleft _ _ (h.of_head (hps.preferred p hp)))
      · obtain ⟨q, hq, rfl⟩ := List.mem_map.mp hp
        exact h.head?_eq (hright _ _ (h.of_head (hqs.preferred q hq)))
    · rw [List.pairwise_append]
      refine ⟨hps.pairwise, ?_, ?_⟩
      · rw [List.pairwise_map]
        exact hqs.pairwise.imp fun hle => Nat.add_le_add_left hle off
      · intro p hp q hq
        obtain ⟨q, -, rfl⟩ := List.mem_map.mp hq
        have hmem := List.mem_of_mem_head? (hps.preferred p hp)
        have hstart := lt_length_of_mem_stops h.consumes hmem
        have hstop := stop_le_length hmem (Nat.le_of_lt hstart)
        dsimp only
        omega
  have hle := happart.length_le h.consumes (h.inOrder text)
  rwa [List.length_append, List.length_map, hplen, hqlen] at hle

end Settled

end Checkup.Pattern
