import Checkup.Proofs.Spans
import Mathlib.Data.List.Forall2
import Mathlib.Order.Monotone.Basic

/-!
# Ends of matches

`Pattern.stops` lists where the matches from a position on can end, the preferred match first. That
is all that a search for successive matches needs to know, so two searches, in different texts, find
as many matches if they see the same ends: `Mirrors.length_matchesIn`.
-/

namespace Checkup.Pattern

variable {text text' : List Char} {r s : Pattern} {i j : Nat}

/-- The pattern cannot match an empty part of a text. -/
def consumes : Pattern → Bool
  | empty => false
  | char _ => true
  | look _ => false
  | seq r s => r.consumes || s.consumes
  | alt r s => r.consumes && s.consumes
  | plus _ r => r.consumes
  | mark r => r.consumes

lemma Spans.lt (h : r.Spans text i j) (hr : r.consumes) : i < j := by
  induction r generalizing i j with
  | empty => simp [consumes] at hr
  | char s =>
    obtain ⟨-, rfl⟩ := spans_char.mp h
    exact Nat.lt_succ_self i
  | look a => simp [consumes] at hr
  | seq r s ihr ihs =>
    rw [consumes, Bool.or_eq_true] at hr
    obtain ⟨k, hrk, hks⟩ := spans_seq.mp h
    rcases hr with hr | hr
    · exact Nat.lt_of_lt_of_le (ihr hrk hr) hks.le
    · exact Nat.lt_of_le_of_lt hrk.le (ihs hks hr)
  | alt r s ihr ihs =>
    rw [consumes, Bool.and_eq_true] at hr
    rcases spans_alt.mp h with h | h
    · exact ihr h hr.1
    · exact ihs h hr.2
  | plus greedy r ih =>
    obtain ⟨k, hround, hkj, -⟩ := h.exists_round
    exact Nat.lt_of_lt_of_le (ih hround hr) hkj
  | mark r ih => exact ih (spans_mark.mp h) hr

/-- Where the matches from `i` on can end, the end of the preferred one first. -/
def stops (text : List Char) (r : Pattern) (i : Nat) : List Nat := (r.ways text i).map (·.stop)

lemma mem_stops : j ∈ r.stops text i ↔ r.Spans text i j := List.mem_map

lemma stops_char (text : List Char) (s : CharSet) (i : Nat) :
    (char s).stops text i = if text[i]?.any s.contains then [i + 1] else [] := by
  rw [stops, ways]
  split <;> rfl

lemma stops_look (text : List Char) (a : Assertion) (i : Nat) :
    (look a).stops text i =
      if a.holds (Site.ofText text i).before (Site.ofText text i).after then [i] else [] := by
  rw [stops, ways]
  split <;> rfl

lemma stops_seq (text : List Char) (r s : Pattern) (i : Nat) :
    (seq r s).stops text i = (r.stops text i).flatMap (s.stops text) := by
  rw [stops, ways, List.map_flatMap, stops, List.flatMap_map]
  simp only [List.map_map]
  rfl

lemma stops_alt (text : List Char) (r s : Pattern) (i : Nat) :
    (alt r s).stops text i = r.stops text i ++ s.stops text i := List.map_append

lemma stops_mark (text : List Char) (r : Pattern) (i : Nat) :
    (mark r).stops text i = r.stops text i := by
  rw [stops, ways, List.map_map]
  rfl

/-- Where a repetition of a character can end that has gone on up to `i`. -/
def runStops (text : List Char) (greedy : Bool) (s : CharSet) (i : Nat) : List Nat :=
  (rounds text.length greedy ((char s).ways text) i).map (·.stop)

lemma runStops_of_holdsAt {s : CharSet} (greedy : Bool) (h : s.HoldsAt text i) :
    runStops text greedy s i =
      if greedy then runStops text greedy s (i + 1) ++ [i]
      else i :: runStops text greedy s (i + 1) := by
  have hround : i < (Hit.stay (i + 1)).stop ∧ (Hit.stay (i + 1)).stop ≤ text.length :=
    ⟨Nat.lt_succ_self i, h.lt⟩
  have hmap : (((rounds text.length greedy ((char s).ways text) (i + 1)).map
      (Hit.stay (i + 1)).andThen)).map (·.stop) = runStops text greedy s (i + 1) := by
    rw [List.map_map]
    rfl
  rw [runStops, rounds, ways, if_pos (CharSet.holdsAt_iff_any.mp h)]
  simp only [List.flatMap_cons, List.flatMap_nil, List.append_nil, dif_pos hround]
  cases greedy
  · simp only [Bool.false_eq_true, if_false, List.map_cons, ← hmap]
    rfl
  · simp only [if_true, List.map_append, ← hmap]
    rfl

lemma runStops_of_not {s : CharSet} (greedy : Bool) (h : ¬s.HoldsAt text i) :
    runStops text greedy s i = [i] := by
  rw [runStops, rounds, ways, if_neg fun hany => h (CharSet.holdsAt_iff_any.mpr hany)]
  cases greedy <;> rfl

lemma stops_plus_char (text : List Char) (greedy : Bool) (s : CharSet) (i : Nat) :
    (plus greedy (char s)).stops text i =
      if text[i]?.any s.contains then runStops text greedy s (i + 1) else [] := by
  rw [stops, ways, ways]
  split
  · rw [List.flatMap_cons, List.flatMap_nil, List.append_nil, Hit.stay_stop,
      if_neg (Nat.succ_ne_self i), List.map_map]
    rfl
  · rfl

/-- The end `j` in one text and the end `j'` in the other let the same matches follow. -/
def Meets (f : Nat → Nat) (j j' : Nat) : Prop := ∀ i, j' ≤ f i ↔ j ≤ i

lemma meets_apply {f : Nat → Nat} (hf : StrictMono f) (j : Nat) : Meets f j (f j) :=
  fun _ => hf.le_iff_le

/-- A search has a next match where there is one and none before it. -/
lemma nextMatch?_of_matchAt? {last : Option Nat} {free : Nat} {m : Match} (hfree : free ≤ i)
    (hi : i ≤ text.length) (hm : r.matchAt? text last i = some m)
    (hbefore : ∀ k, free ≤ k → k < i → r.matchAt? text last k = none) :
    r.nextMatch? text last free = some m := by
  cases hnext : r.nextMatch? text last free with
  | none =>
    rw [nextMatch?_eq_none.mp hnext i hfree hi] at hm
    exact absurd hm (by simp)
  | some k =>
    obtain ⟨hle, -, hk, hnone⟩ := nextMatch?_eq_some hnext
    rcases Nat.lt_trichotomy k.start i with hlt | heq | hlt
    · rw [hbefore k.start hle hlt] at hk
      exact absurd hk (by simp)
    · rw [← hm, ← heq, hk]
    · rw [hnone i hfree hlt] at hm
      exact absurd hm (by simp)

/-- Without empty matches only the preferred end counts. -/
lemma matchAt?_eq_none_iff (hr : r.consumes) {last : Option Nat} :
    r.matchAt? text last i = none ↔ r.stops text i = [] := by
  rw [stops, List.map_eq_nil_iff]
  constructor
  · intro hnone
    by_contra hne
    obtain ⟨h, hh⟩ := Option.isSome_iff_exists.mp (List.isSome_head?.mpr hne)
    have hlt : i < h.stop := Spans.lt ⟨h, List.mem_of_mem_head? hh, rfl⟩ hr
    rw [matchAt?_eq_some.mpr ⟨h, hh, by omega, rfl⟩] at hnone
    exact absurd hnone (by simp)
  · intro hnil
    rw [matchAt?, hnil]
    rfl

lemma exists_matchAt? (hr : r.consumes) (last : Option Nat) {js : List Nat}
    (h : r.stops text i = j :: js) :
    ∃ m, r.matchAt? text last i = some m ∧ m.start = i ∧ m.stop = j := by
  rw [stops, List.map_eq_cons_iff] at h
  obtain ⟨k, ks, hways, hk, -⟩ := h
  have hlt : i < k.stop := Spans.lt ⟨k, by rw [hways]; exact List.mem_cons_self, rfl⟩ hr
  exact ⟨k.toMatch i, matchAt?_eq_some.mpr ⟨k, by rw [hways]; rfl, by omega, rfl⟩, rfl, hk⟩

/-- The pattern matches in the second text as in the first one, where `f` says where the positions
of the first are in the second. The matches from a position on end, in the same order, at places
that meet, and no other position has any. -/
structure Mirrors (r : Pattern) (f : Nat → Nat) (text text' : List Char) : Prop where
  strictMono : StrictMono f
  le_length : ∀ i, f i ≤ text'.length ↔ i ≤ text.length
  stops : ∀ i, (r.stops text i).Forall₂ (Meets f) (r.stops text' (f i))
  nothingNew : ∀ j, (∀ i, j ≠ f i) → r.stops text' j = []

namespace Mirrors

variable {f : Nat → Nat}

lemma stops_eq_nil (h : r.Mirrors f text text') {j : Nat}
    (hj : ∀ i, j = f i → r.stops text i = []) : r.stops text' j = [] := by
  by_cases hold : ∃ i, j = f i
  · obtain ⟨i, rfl⟩ := hold
    have hrel := h.stops i
    rw [hj i rfl, List.forall₂_nil_left_iff] at hrel
    exact hrel
  · exact h.nothingNew j (not_exists.mp hold)

/-- From places that meet on, the two searches find as many matches. -/
lemma length_successive (h : r.Mirrors f text text') (hr : r.consumes) (last : Option Nat)
    (free : Nat) : ∀ last' free', Meets f free free' →
      (r.successive text' last' free').length = (r.successive text last free).length := by
  refine successive_induction (P := fun _ free ms => ∀ last' free', Meets f free free' →
    (r.successive text' last' free').length = ms.length) ?_ ?_ last free
  · intro last free hnone last' free' hmeets
    have hnone' : r.nextMatch? text' last' free' = none := by
      rw [nextMatch?_eq_none] at hnone ⊢
      intro j hfree hj
      rw [matchAt?_eq_none_iff hr]
      refine h.stops_eq_nil ?_
      rintro i rfl
      exact (matchAt?_eq_none_iff hr).mp (hnone i ((hmeets i).mp hfree) ((h.le_length i).mp hj))
    rw [successive_of_none hnone']
  · intro last free m ms hm ih last' free' hmeets
    obtain ⟨hfree, hstart, hat, hbefore⟩ := nextMatch?_eq_some hm
    cases hs : r.stops text m.start with
    | nil =>
      rw [(matchAt?_eq_none_iff hr).mpr hs] at hat
      exact absurd hat (by simp)
    | cons j js =>
      obtain ⟨m₀, hat₀, -, hstop⟩ := exists_matchAt? hr last hs
      obtain rfl : m = m₀ := Option.some.inj (hat.symm.trans hat₀)
      have hrel := h.stops m.start
      rw [hs] at hrel
      obtain ⟨j', js', hjj', -, hs'⟩ := List.forall₂_cons_left_iff.mp hrel
      obtain ⟨m', hat', -, hstop'⟩ := exists_matchAt? hr last' hs'
      -- The match has its image in the other text, and nothing matches there before it.
      have hnext : r.nextMatch? text' last' free' = some m' := by
        refine nextMatch?_of_matchAt? ((hmeets m.start).mpr hfree)
          ((h.le_length _).mpr hstart) hat' ?_
        intro k hk hkm
        rw [matchAt?_eq_none_iff hr]
        refine h.stops_eq_nil ?_
        rintro i rfl
        exact (matchAt?_eq_none_iff hr).mp
          (hbefore i ((hmeets i).mp hk) (h.strictMono.lt_iff_lt.mp hkm))
      rw [successive_of_some hnext, List.length_cons, List.length_cons,
        ih _ _ (by rw [hstop, hstop']; exact hjj')]

/-- The pattern has as many matches in one text as in the other. -/
theorem length_matchesIn (h : r.Mirrors f text text') (hr : r.consumes) :
    (r.matchesIn text').length = (r.matchesIn text).length := by
  rw [matchesIn_eq, matchesIn_eq]
  refine h.length_successive hr none 0 none 0 fun i => ?_
  exact iff_of_true (Nat.zero_le _) (Nat.zero_le _)

end Mirrors

end Checkup.Pattern
