import Checkup.Proofs.Sweep
import Mathlib.Data.List.Range

/-!
# Successive matches

The matches of a pattern in a text, found one after another: the next match is the preferred one at
the first position at or after the end of the previous match, and an empty match right at that end
does not count. `Pattern.matchesIn` finds these.
-/

namespace Checkup.Pattern

variable {r : Pattern} {text : List Char}

/-- The match that starts at `i`, unless it is empty and the previous match ended there. -/
def matchAt? (r : Pattern) (text : List Char) (last : Option Nat) (i : Nat) : Option Match :=
  ((r.ways text i).head?.filter fun h => !(h.stop = i && last = some i)).map (·.toMatch i)

/-- The first match at `free` or later, after a match that ended at `last`. -/
def nextMatch? (r : Pattern) (text : List Char) (last : Option Nat) (free : Nat) : Option Match :=
  (List.range' free (text.length + 1 - free)).findSome? (r.matchAt? text last)

lemma matchAt?_eq_some {last : Option Nat} {i : Nat} {m : Match} :
    r.matchAt? text last i = some m ↔
      ∃ h, (r.ways text i).head? = some h ∧ ¬(h.stop = i ∧ last = some i) ∧ m = h.toMatch i := by
  rw [matchAt?]
  cases hw : (r.ways text i).head? with
  | none => simp
  | some h =>
    by_cases hempty : h.stop = i ∧ last = some i
    · simp [Option.filter, hempty]
    · rw [Option.filter_some, if_pos (by simpa using not_and_or.mp hempty), Option.map_some,
        Option.some.injEq]
      exact ⟨fun hm => ⟨h, rfl, hempty, hm.symm⟩, by rintro ⟨_, ⟨⟩, _, hm⟩; exact hm.symm⟩

/-- An empty match does not count where a match has just ended. -/
lemma matchAt?_of_stay {i : Nat} {h : Hit} (hh : (r.ways text i).head? = some h)
    (hstop : h.stop = i) : r.matchAt? text (some i) i = none := by
  rw [matchAt?, hh]
  simp [Option.filter, hstop]

lemma head?_ways_stop {i : Nat} {h : Hit} (hh : (r.ways text i).head? = some h) :
    i ≤ h.stop ∧ h.stop ≤ max i text.length :=
  ways_stop r (List.mem_of_mem_head? hh)

lemma nextMatch?_eq_none {last : Option Nat} {free : Nat} :
    r.nextMatch? text last free = none ↔
      ∀ i, free ≤ i → i ≤ text.length → r.matchAt? text last i = none := by
  rw [nextMatch?, List.findSome?_eq_none_iff]
  simp only [List.mem_range'_1]
  exact ⟨fun h i hf hi => h i ⟨hf, by omega⟩, fun h i hi => h i hi.1 (by omega)⟩

lemma nextMatch?_eq_or (last : Option Nat) {free : Nat} (hfree : free ≤ text.length) :
    r.nextMatch? text last free =
      (r.matchAt? text last free).or (r.nextMatch? text last (free + 1)) := by
  have hlen : text.length + 1 - free = (text.length + 1 - (free + 1)) + 1 := by omega
  rw [nextMatch?, hlen, List.range'_succ, List.findSome?_cons, nextMatch?]
  cases r.matchAt? text last free <;> rfl

lemma nextMatch?_eq_some {last : Option Nat} {free : Nat} {m : Match}
    (h : r.nextMatch? text last free = some m) :
    free ≤ m.start ∧ m.start ≤ text.length ∧ r.matchAt? text last m.start = some m ∧
      ∀ i, free ≤ i → i < m.start → r.matchAt? text last i = none := by
  induction hn : text.length + 1 - free generalizing free with
  | zero =>
    rw [nextMatch?, hn] at h
    simp at h
  | succ n ih =>
    have hfree : free ≤ text.length := by omega
    rw [nextMatch?_eq_or last hfree] at h
    cases hat : r.matchAt? text last free with
    | none =>
      rw [hat, Option.none_or] at h
      obtain ⟨hle, hstart, hm, hbefore⟩ := ih h (by omega)
      refine ⟨by omega, hstart, hm, fun i hi hlt => ?_⟩
      rcases Nat.eq_or_lt_of_le hi with rfl | hi
      · exact hat
      · exact hbefore i hi hlt
    | some k =>
      rw [hat, Option.some_or, Option.some.injEq] at h
      obtain ⟨_, _, _, hk⟩ := matchAt?_eq_some.mp hat
      have hstart : m.start = free := by rw [← h, hk]; rfl
      rw [hstart]
      exact ⟨Nat.le_refl _, hfree, h ▸ hat, fun i hi hlt => by omega⟩

/-- The next match ends further on, or right where the search stands, but then no match has ended
there before. -/
lemma nextMatch?_stop {last : Option Nat} {free : Nat} {m : Match}
    (h : r.nextMatch? text last free = some m) :
    m.start ≤ m.stop ∧ m.stop ≤ text.length ∧ (m.stop = free → last ≠ some free) := by
  obtain ⟨hfree, hstart, hm, -⟩ := nextMatch?_eq_some h
  obtain ⟨k, hk, hempty, hmk⟩ := matchAt?_eq_some.mp hm
  have hstop : m.stop = k.stop := by rw [hmk]; rfl
  have hways := head?_ways_stop hk
  refine ⟨by omega, by omega, fun hfree' hlast => hempty ⟨by omega, ?_⟩⟩
  rw [hlast]
  congr 1
  omega

/-- All matches at `free` or later, after a match that ended at `last`. -/
def successive (r : Pattern) (text : List Char) (last : Option Nat) (free : Nat) : List Match :=
  match _ : r.nextMatch? text last free with
  | none => []
  | some m => m :: successive r text (some m.stop) m.stop
termination_by 2 * (text.length + 1 - free) + if last = some free then 0 else 1
decreasing_by
  rename_i h
  have hstop := nextMatch?_stop h
  have hstart := nextMatch?_eq_some h
  simp only [if_true]
  by_cases hfree : m.stop = free
  · rw [if_neg (hstop.2.2 hfree)]
    omega
  · omega

lemma successive_of_none {last : Option Nat} {free : Nat}
    (h : r.nextMatch? text last free = none) : r.successive text last free = [] := by
  rw [successive.eq_def]
  split
  · rfl
  · simp_all

lemma successive_of_some {last : Option Nat} {free : Nat} {m : Match}
    (h : r.nextMatch? text last free = some m) :
    r.successive text last free = m :: r.successive text (some m.stop) m.stop := by
  rw [successive.eq_def]
  split
  · simp_all
  · simp_all

lemma successive_succ {last : Option Nat} {free : Nat}
    (h : r.matchAt? text last free = none) :
    r.successive text last free = r.successive text last (free + 1) := by
  have hnext : r.nextMatch? text last free = r.nextMatch? text last (free + 1) := by
    by_cases hfree : free ≤ text.length
    · rw [nextMatch?_eq_or last hfree, h, Option.none_or]
    · rw [nextMatch?_eq_none.mpr fun i _ _ => by omega,
        nextMatch?_eq_none.mpr fun i _ _ => by omega]
  cases hm : r.nextMatch? text last (free + 1) with
  | none => rw [successive_of_none (hnext.trans hm), successive_of_none hm]
  | some m => rw [successive_of_some (hnext.trans hm), successive_of_some hm]

lemma successive_of_matchAt? {last : Option Nat} {free : Nat} {m : Match}
    (hfree : free ≤ text.length) (h : r.matchAt? text last free = some m) :
    r.successive text last free = m :: r.successive text (some m.stop) m.stop := by
  refine successive_of_some ?_
  rw [nextMatch?_eq_or last hfree, h, Option.some_or]

/-- What holds of every next match, wherever the search stands, holds of all successive matches. -/
lemma successive_induction {P : Option Nat → Nat → List Match → Prop}
    (done : ∀ last free, r.nextMatch? text last free = none → P last free [])
    (next : ∀ last free m ms, r.nextMatch? text last free = some m → P (some m.stop) m.stop ms →
      P last free (m :: ms)) (last : Option Nat) (free : Nat) :
    P last free (r.successive text last free) := by
  induction last, free using successive.induct r text with
  | case1 last free h =>
    rw [successive_of_none h]
    exact done last free h
  | case2 last free m h ih =>
    rw [successive_of_some h]
    exact next last free m _ h ih

lemma mem_successive {last : Option Nat} {free : Nat} {m : Match}
    (hm : m ∈ r.successive text last free) :
    free ≤ m.start ∧ ∃ h, (r.ways text m.start).head? = some h ∧ m = h.toMatch m.start ∧
      m.start ≤ m.stop ∧ m.stop ≤ text.length := by
  revert hm
  refine successive_induction (P := fun _ free ms => m ∈ ms → free ≤ m.start ∧
    ∃ h, (r.ways text m.start).head? = some h ∧ m = h.toMatch m.start ∧
      m.start ≤ m.stop ∧ m.stop ≤ text.length) ?_ ?_ last free
  · intro last free _ hm
    simp at hm
  · intro last free k ms hk ih hm
    have hstop := nextMatch?_stop hk
    obtain ⟨hfree, hstart, hat, -⟩ := nextMatch?_eq_some hk
    rcases List.mem_cons.mp hm with rfl | hm
    · obtain ⟨h, hh, -, hmatch⟩ := matchAt?_eq_some.mp hat
      exact ⟨hfree, h, hh, hmatch, hstop.1, hstop.2.1⟩
    · obtain ⟨hle, hrest⟩ := ih hm
      exact ⟨by omega, hrest⟩

lemma marked_of_mem_successive {last : Option Nat} {free : Nat} {m : Match} {s e : Nat}
    (hm : m ∈ r.successive text last free) (h : m.marked = some (s, e)) :
    m.start ≤ s ∧ s ≤ e ∧ e ≤ m.stop := by
  obtain ⟨-, k, hk, hmatch, -⟩ := mem_successive hm
  have hstop : m.stop = k.stop := by
    rw [hmatch]
    rfl
  have hmarked : m.marked = k.markStart.bind fun i => k.markStop.map fun j => (i, j) := by
    rw [hmatch]
    rfl
  rw [hmarked] at h
  rcases ways_marked r (List.mem_of_mem_head? hk) with ⟨hs, -⟩ | ⟨s', e', hs, he, hle⟩
  · simp [hs] at h
  · simp only [hs, he, Option.bind_some, Option.map_some, Option.some.injEq, Prod.mk.injEq] at h
    omega

/-- No match starts before the one before it has ended. -/
theorem successive_pairwise (last : Option Nat) (free : Nat) :
    (r.successive text last free).Pairwise fun m m' => m.stop ≤ m'.start := by
  refine successive_induction (P := fun _ free ms =>
    (∀ m ∈ ms, free ≤ m.start) ∧ ms.Pairwise fun m m' => m.stop ≤ m'.start) ?_ ?_ last free |>.2
  · intro last free _
    simp
  · intro last free m ms hm ih
    obtain ⟨hfree, -, -, -⟩ := nextMatch?_eq_some hm
    have hstop := nextMatch?_stop hm
    refine ⟨fun k hk => ?_, List.pairwise_cons.mpr ih⟩
    rcases List.mem_cons.mp hk with rfl | hk
    · exact hfree
    · have := ih.1 k hk
      omega

/-- Where an empty match has been found, no other one starts. -/
lemma start_lt_of_mem_successive {last : Option Nat} {free : Nat} {m k : Match}
    (hm : r.nextMatch? text last free = some m)
    (hk : k ∈ r.successive text (some m.stop) m.stop) : m.start < k.start := by
  have hle := (mem_successive hk).1
  have hstop := (nextMatch?_stop hm).1
  by_cases hempty : m.stop = m.start
  · obtain ⟨-, -, hat, -⟩ := nextMatch?_eq_some hm
    obtain ⟨h, hh, -, hmatch⟩ := matchAt?_eq_some.mp hat
    have hstay : h.stop = m.start := by
      rw [← hempty, hmatch]
      rfl
    rw [hempty, successive_succ (matchAt?_of_stay hh hstay)] at hk
    have hlt := (mem_successive hk).1
    omega
  · omega

/-- No two matches start at the same place. -/
theorem successive_pairwise_start (last : Option Nat) (free : Nat) :
    (r.successive text last free).Pairwise fun m k => m.start < k.start := by
  induction last, free using successive.induct r text with
  | case1 last free h =>
    rw [successive_of_none h]
    exact .nil
  | case2 last free m h ih =>
    rw [successive_of_some h]
    apply List.pairwise_cons.mpr
    exact ⟨fun k hk => start_lt_of_mem_successive h hk, ih⟩

/-- Where a match could take a character, a match does. -/
theorem exists_mem_successive {last : Option Nat} {free i : Nat} {h : Hit} (hfree : free ≤ i)
    (hi : i ≤ text.length) (hh : (r.ways text i).head? = some h) (hstop : i < h.stop) :
    ∃ m ∈ r.successive text last free, m.start ≤ i ∧ i < m.stop := by
  revert hfree
  refine successive_induction (P := fun _ free ms => free ≤ i →
    ∃ m ∈ ms, m.start ≤ i ∧ i < m.stop) ?_ ?_ last free
  · intro last free hnone hfree
    have hat : r.matchAt? text last i = some (h.toMatch i) :=
      matchAt?_eq_some.mpr ⟨h, hh, by omega, rfl⟩
    rw [nextMatch?_eq_none.mp hnone i hfree hi] at hat
    exact absurd hat (by simp)
  · intro last free m ms hm ih hfree
    obtain ⟨-, -, -, hbefore⟩ := nextMatch?_eq_some hm
    have hstart : m.start ≤ i := by
      by_contra hlt
      have hat : r.matchAt? text last i = some (h.toMatch i) :=
        matchAt?_eq_some.mpr ⟨h, hh, by omega, rfl⟩
      rw [hbefore i hfree (by omega)] at hat
      exact absurd hat (by simp)
    by_cases hlt : i < m.stop
    · exact ⟨m, List.mem_cons_self, hstart, hlt⟩
    · obtain ⟨k, hk, hki⟩ := ih (by omega)
      exact ⟨k, List.mem_cons_of_mem m hk, hki⟩

/-- Taking the hits from `start` on adds the matches that are still to come. -/
lemma foldl_take (r : Pattern) (text : List Char) (n start : Nat) (search : Search)
    (hn : start + n = text.length + 1) :
    (((List.range' start n).map fun i => (r.ways text i).head?).foldl
        (fun (search, start) h => (Search.take search start h, start + 1)) (search, start)).1.found =
      (r.successive text search.last (max search.free start)).reverse ++ search.found := by
  induction n generalizing start search with
  | zero =>
    have hnone : r.nextMatch? text search.last (max search.free start) = none :=
      nextMatch?_eq_none.mpr fun i _ _ => by omega
    rw [successive_of_none hnone]
    rfl
  | succ n ih =>
    have hpass (h : r.matchAt? text search.last start = none ∨ start < search.free) :
        r.successive text search.last (max search.free (start + 1)) =
          r.successive text search.last (max search.free start) := by
      by_cases hfree : start < search.free
      · rw [Nat.max_eq_left (by omega), Nat.max_eq_left (by omega)]
      · rw [Nat.max_eq_right (by omega), Nat.max_eq_right (by omega)]
        exact (successive_succ (h.resolve_right hfree)).symm
    rw [List.range'_succ, List.map_cons, List.foldl_cons]
    dsimp only
    cases hw : (r.ways text start).head? with
    | none =>
      have hnone : r.matchAt? text search.last start = none := by rw [matchAt?, hw]; rfl
      rw [Search.take, ih (start + 1) search (by omega), hpass (.inl hnone)]
    | some h =>
      rw [Search.take]
      by_cases hfree : start < search.free
      · rw [if_pos (by simp [hfree]), ih (start + 1) search (by omega), hpass (.inr hfree)]
      by_cases hempty : h.stop = start ∧ search.last = some start
      · have hnone : r.matchAt? text search.last start = none := by
          rw [hempty.2]
          exact matchAt?_of_stay hw hempty.1
        rw [if_pos (by simp [hempty]), ih (start + 1) search (by omega), hpass (.inl hnone)]
      -- The hit is taken, and the search goes on at its end.
      have hat : r.matchAt? text search.last start = some (h.toMatch start) :=
        matchAt?_eq_some.mpr ⟨h, hw, hempty, rfl⟩
      have hstop := head?_ways_stop hw
      rw [if_neg (by simpa [hfree] using hempty), ih (start + 1) _ (by omega),
        Nat.max_eq_right (by omega : search.free ≤ start),
        successive_of_matchAt? (by omega) hat, List.reverse_cons, List.append_assoc]
      suffices hrest : r.successive text (some h.stop) (max h.stop (start + 1)) =
          r.successive text (some h.stop) h.stop by
        rw [hrest]
        rfl
      by_cases hmoved : h.stop = start
      · have hagain : r.matchAt? text (some h.stop) h.stop = none := by
          rw [hmoved]
          exact matchAt?_of_stay hw hmoved
        rw [successive_succ hagain, hmoved, Nat.max_eq_right (by omega)]
      · rw [Nat.max_eq_left (by omega)]

/-- `matchesIn` finds the successive matches. -/
theorem matchesIn_eq (r : Pattern) (text : List Char) :
    r.matchesIn text = r.successive text none 0 := by
  have hfold := foldl_take r text (text.length + 1) 0 ⟨0, none, []⟩ (by omega)
  rw [matchesIn, hits_eq, List.range_eq_range']
  dsimp only
  rw [hfold]
  simp

lemma mem_matchesIn {m : Match} (hm : m ∈ r.matchesIn text) :
    ∃ h, (r.ways text m.start).head? = some h ∧ m = h.toMatch m.start ∧
      m.start ≤ m.stop ∧ m.stop ≤ text.length := by
  rw [matchesIn_eq] at hm
  exact (mem_successive hm).2

lemma marked_of_mem_matchesIn {m : Match} {s e : Nat} (hm : m ∈ r.matchesIn text)
    (h : m.marked = some (s, e)) : m.start ≤ s ∧ s ≤ e ∧ e ≤ m.stop := by
  rw [matchesIn_eq] at hm
  exact marked_of_mem_successive hm h

lemma matchesIn_pairwise (r : Pattern) (text : List Char) :
    (r.matchesIn text).Pairwise fun m m' => m.stop ≤ m'.start := by
  rw [matchesIn_eq]
  exact successive_pairwise none 0

lemma exists_mem_matchesIn {i : Nat} {h : Hit} (hi : i ≤ text.length)
    (hh : (r.ways text i).head? = some h) (hstop : i < h.stop) :
    ∃ m ∈ r.matchesIn text, m.start ≤ i ∧ i < m.stop := by
  rw [matchesIn_eq]
  exact exists_mem_successive (Nat.zero_le i) hi hh hstop

/-- A pattern occurs where it matches from some position on. -/
theorem occursIn_eq (r : Pattern) (text : List Char) :
    r.occursIn text = (List.range (text.length + 1)).any fun i => !(r.ways text i).isEmpty := by
  rw [occursIn, hits_eq, List.any_map]
  refine congrArg (List.any _) (funext fun i => ?_)
  cases hw : r.ways text i <;> simp [hw]

end Checkup.Pattern
