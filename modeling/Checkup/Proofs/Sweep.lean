import Checkup.Proofs.Ways
import Mathlib.Logic.Function.Basic

/-!
# The sweep over a text

The pass of `Pattern.hits` over a text from its end to its start finds at each position the first
of the ways of `Pattern.ways`. What carries the proof is `Pattern.Fits`: the marks that the pass
has at a position say, for each character of the pattern, how matching goes on behind it.
-/

namespace Checkup.Pattern

variable {text : List Char}

/-- The first hit of a list that can be continued, with its continuation. -/
def firstThen (hits : List Hit) (next : Nat → Option Hit) : Option Hit :=
  hits.findSome? fun h => (next h.stop).map h.andThen

@[simp] lemma firstThen_nil (next : Nat → Option Hit) : firstThen [] next = none := rfl

@[simp] lemma firstThen_stay (i : Nat) (next : Nat → Option Hit) :
    firstThen [.stay i] next = next i := by
  cases h : next i <;> simp [firstThen, h]

lemma firstThen_append (hs ks : List Hit) (next : Nat → Option Hit) :
    firstThen (hs ++ ks) next = (firstThen hs next).or (firstThen ks next) :=
  List.findSome?_append

lemma firstThen_map_andThen (h : Hit) (ks : List Hit) (next : Nat → Option Hit) :
    firstThen (ks.map h.andThen) next = (firstThen ks next).map h.andThen := by
  induction ks with
  | nil => rfl
  | cons k ks ih =>
    simp only [firstThen, List.map_cons, List.findSome?_cons, Hit.andThen_stop] at ih ⊢
    cases next k.stop with
    | none => simpa using ih
    | some l => simp [Hit.andThen_assoc]

/-- Continuing each hit by hits of its own is continuing it by the first of them that goes on. -/
lemma firstThen_flatMap (hs : List Hit) (f : Hit → List Hit) (next rest : Nat → Option Hit)
    (hf : ∀ h ∈ hs, firstThen (f h) rest = (next h.stop).map h.andThen) :
    firstThen (hs.flatMap f) rest = firstThen hs next := by
  induction hs with
  | nil => rfl
  | cons h hs ih =>
    have hh := hf h List.mem_cons_self
    have hrest := ih fun k hk => hf k (List.mem_cons_of_mem h hk)
    rw [List.flatMap_cons, firstThen_append, hh, hrest]
    cases hn : next h.stop <;> simp [firstThen, hn]

lemma firstThen_congr {hs : List Hit} {next next' : Nat → Option Hit}
    (h : ∀ k ∈ hs, next k.stop = next' k.stop) : firstThen hs next = firstThen hs next' := by
  induction hs with
  | nil => rfl
  | cons k hs ih =>
    have hk := h k List.mem_cons_self
    have hrest := ih fun l hl => h l (List.mem_cons_of_mem k hl)
    simp only [firstThen, List.findSome?_cons, hk] at hrest ⊢
    rw [hrest]

lemma firstThen_eq_none {hs : List Hit} {next : Nat → Option Hit}
    (h : ∀ k ∈ hs, next k.stop = none) : firstThen hs next = none := by
  rw [firstThen, List.findSome?_eq_none_iff]
  intro k hk
  simp [h k hk]

/-- How a match of the pattern from `i` on goes on when `next` says how to go on behind it. -/
def best (text : List Char) (r : Pattern) (i : Nat) (next : Nat → Option Hit) : Option Hit :=
  firstThen (r.ways text i) next

/-- How a repetition goes on at the end of a round. -/
def goOn (text : List Char) (greedy : Bool) (r : Pattern) (next : Nat → Option Hit) (i : Nat) :
    Option Hit :=
  firstThen (rounds text.length greedy (r.ways text) i) next

lemma best_congr {r : Pattern} {i : Nat} {next next' : Nat → Option Hit}
    (h : ∀ j, i ≤ j → next j = next' j) : best text r i next = best text r i next' :=
  firstThen_congr fun _ hk => h _ (ways_stop r hk).1

lemma goOn_congr {greedy : Bool} {r : Pattern} {i : Nat} {next next' : Nat → Option Hit}
    (h : ∀ j, i ≤ j → next j = next' j) :
    goOn text greedy r next i = goOn text greedy r next' i :=
  firstThen_congr fun _ hk => h _ (rounds_stop hk).1

lemma best_seq (r s : Pattern) (i : Nat) (next : Nat → Option Hit) :
    best text (seq r s) i next = best text r i fun j => best text s j next :=
  firstThen_flatMap _ _ _ _ fun h _ => firstThen_map_andThen h _ next

lemma best_alt (r s : Pattern) (i : Nat) (next : Nat → Option Hit) :
    best text (alt r s) i next = (best text r i next).or (best text s i next) :=
  firstThen_append _ _ next

/-- A repetition goes on with another round or ends, in the order of its preference. The other
round may not end where it starts. -/
lemma goOn_eq (greedy : Bool) (r : Pattern) (next : Nat → Option Hit) (i : Nat) :
    goOn text greedy r next i =
      let again := best text r i (Function.update (goOn text greedy r next) i none)
      if greedy then again.or (next i) else (next i).or again := by
  have hagain : firstThen ((r.ways text i).flatMap fun h =>
        if _ : i < h.stop ∧ h.stop ≤ text.length then
          (rounds text.length greedy (r.ways text) h.stop).map h.andThen else []) next =
      best text r i (Function.update (goOn text greedy r next) i none) := by
    refine firstThen_flatMap _ _ _ _ fun h hh => ?_
    have hstop := ways_stop r hh
    by_cases hi : h.stop = i
    · rw [dif_neg (by omega), hi, Function.update_self]
      rfl
    · rw [dif_pos (by omega), Function.update_of_ne hi, firstThen_map_andThen]
      rfl
  have hstay (ks : List Hit) :
      firstThen (.stay i :: ks) next = (next i).or (firstThen ks next) := by
    rw [← List.singleton_append, firstThen_append, firstThen_stay]
  dsimp only
  rw [← hagain, goOn, rounds]
  cases greedy
  · exact hstay _
  · simp only [if_true, firstThen_append, firstThen_stay]

lemma best_plus (greedy : Bool) (r : Pattern) (i : Nat) (next : Nat → Option Hit) :
    best text (plus greedy r) i next =
      best text r i (Function.update (goOn text greedy r next) i (next i)) := by
  refine firstThen_flatMap _ _ _ _ fun h hh => ?_
  by_cases hi : h.stop = i
  · rw [if_pos hi, hi, Function.update_self]
    cases hn : next i <;> simp [firstThen, hi, hn]
  · rw [if_neg hi, Function.update_of_ne hi, firstThen_map_andThen]
    rfl

lemma best_mark (r : Pattern) (i : Nat) (next : Nat → Option Hit) :
    best text (mark r) i next =
      (best text r i fun j => (next j).map (·.closeMark j)).map (·.openMark i) := by
  unfold best firstThen
  simp only [ways, List.findSome?_map, Function.comp_def, Hit.openMark_stop]
  induction ways text r i with
  | nil => rfl
  | cons h hs ih =>
    simp only [List.findSome?_cons]
    cases next h.stop with
    | none => simpa using ih
    | some k =>
      simp [Hit.andThen, Hit.openMark, Hit.closeMark]

section Equations

variable (site : Site) (m : Marks) (next : Option Hit)

/-- Where nothing is known to go on, nothing matches. -/
@[simp] lemma first_blank (r : Pattern) : first site r .blank none = none := by
  cases r <;> rfl

@[simp] lemma step_blank (r : Pattern) : step site r .blank none = (none, .blank) := by
  cases r <;> rfl

lemma first_empty : first site empty m next = next := by
  cases m <;> cases next <;> rfl

lemma first_look (a : Assertion) :
    first site (look a) m next = if a.holds site.before site.after then next else none := by
  cases m with
  | blank =>
    cases next with
    | none => simp
    | some h => rfl
  | hit h => rfl
  | both l r => rfl

lemma first_char (s : CharSet) (k : Option Hit) :
    first site (char s) (.ofHit k) next = if site.after.any s.contains then k else none := by
  obtain ⟨position, before, after⟩ := site
  cases k with
  | none =>
    have hnone : first ⟨position, before, after⟩ (char s) (.ofHit none) next = none := by
      cases next <;> rfl
    rw [hnone, ite_self]
  | some h =>
    cases next <;> cases after <;> rfl

lemma first_seq (r s : Pattern) :
    first site (seq r s) m next = first site r m.left (first site s m.right next) := by
  cases m with
  | blank =>
    cases next with
    | none => simp [Marks.left, Marks.right]
    | some h => rfl
  | hit h => rfl
  | both l r => rfl

lemma first_alt (r s : Pattern) :
    first site (alt r s) m next = (first site r m.left next).or (first site s m.right next) := by
  cases m with
  | blank =>
    cases next with
    | none => simp [Marks.left, Marks.right]
    | some h => rfl
  | hit h => rfl
  | both l r => rfl

lemma first_plus (greedy : Bool) (r : Pattern) :
    first site (plus greedy r) m next = first site r m next := by
  cases m with
  | blank =>
    cases next with
    | none => simp
    | some h => rfl
  | hit h => rfl
  | both l r => rfl

lemma first_mark (r : Pattern) :
    first site (mark r) m next =
      (first site r m (next.map (·.closeMark site.position))).map (·.openMark site.position) := by
  cases m with
  | blank =>
    cases next with
    | none => simp
    | some h => rfl
  | hit h => rfl
  | both l r => rfl

lemma step_empty : step site empty m next = (next, .blank) := by
  cases m <;> cases next <;> rfl

lemma step_look (a : Assertion) :
    step site (look a) m next = (first site (look a) m next, .blank) := by
  cases m <;> cases next <;> rfl

lemma step_char (s : CharSet) :
    step site (char s) m next = (first site (char s) m next, .ofHit next) := by
  cases m <;> cases next <;> rfl

lemma step_seq (r s : Pattern) :
    step site (seq r s) m next =
      ((step site r m.left (step site s m.right next).1).1,
        .pair (step site r m.left (step site s m.right next).1).2
          (step site s m.right next).2) := by
  cases m with
  | blank =>
    cases next with
    | none => simp [Marks.left, Marks.right, Marks.pair]
    | some h => rfl
  | hit h => rfl
  | both l r => rfl

lemma step_alt (r s : Pattern) :
    step site (alt r s) m next =
      ((step site r m.left next).1.or (step site s m.right next).1,
        .pair (step site r m.left next).2 (step site s m.right next).2) := by
  cases m with
  | blank =>
    cases next with
    | none => simp [Marks.left, Marks.right, Marks.pair]
    | some h => rfl
  | hit h => rfl
  | both l r => rfl

lemma step_plus (greedy : Bool) (r : Pattern) :
    step site (plus greedy r) m next =
      (first site r m next, (step site r m
        (if greedy then (first site r m none).or next
          else next.or (first site r m none))).2) := by
  cases m with
  | blank =>
    cases next with
    | none => simp
    | some h => rfl
  | hit h => rfl
  | both l r => rfl

lemma step_mark (r : Pattern) :
    step site (mark r) m next =
      ((step site r m (next.map (·.closeMark site.position))).1.map
          (·.openMark site.position),
        (step site r m (next.map (·.closeMark site.position))).2) := by
  cases m with
  | blank =>
    cases next with
    | none => simp
    | some h => rfl
  | hit h => rfl
  | both l r => rfl

lemma step_fst (r : Pattern) : (step site r m next).1 = first site r m next := by
  induction r generalizing m next with
  | empty => rw [step_empty, first_empty]
  | char s => rw [step_char]
  | look a => rw [step_look]
  | seq r s ihr ihs => rw [step_seq, first_seq, ihr, ihs]
  | alt r s ihr ihs => rw [step_alt, first_alt, ihr, ihs]
  | plus greedy r ih => rw [step_plus, first_plus]
  | mark r ih => rw [step_mark, first_mark, ih]

end Equations

/-- The marks say how matching goes on behind each character of the pattern when that character
ends at `i` and `next` says how to go on behind the pattern. -/
def Fits (text : List Char) : Pattern → Marks → Nat → (Nat → Option Hit) → Prop
  | empty, _, _, _ => True
  | char _, m, i, next => m = .ofHit (next i)
  | look _, _, _, _ => True
  | seq r s, m, i, next =>
    Fits text r m.left i (fun j => best text s j next) ∧ Fits text s m.right i next
  | alt r s, m, i, next => Fits text r m.left i next ∧ Fits text s m.right i next
  | plus greedy r, m, i, next => Fits text r m i (goOn text greedy r next)
  | mark r, m, i, next => Fits text r m i fun j => (next j).map (·.closeMark j)

@[simp] lemma left_pair (l r : Marks) : (Marks.pair l r).left = l := by
  cases l <;> cases r <;> rfl

@[simp] lemma right_pair (l r : Marks) : (Marks.pair l r).right = r := by
  cases l <;> cases r <;> rfl

lemma Fits.congr {r : Pattern} {m : Marks} {i : Nat} {next next' : Nat → Option Hit}
    (h : ∀ j, i ≤ j → next j = next' j) (hm : Fits text r m i next) : Fits text r m i next' := by
  induction r generalizing m next next' with
  | empty => trivial
  | char s => simpa only [Fits, h i (Nat.le_refl i)] using hm
  | look a => trivial
  | seq r s ihr ihs =>
    refine ⟨ihr (fun j hj => ?_) hm.1, ihs h hm.2⟩
    exact best_congr fun k hk => h k (Nat.le_trans hj hk)
  | alt r s ihr ihs => exact ⟨ihr h hm.1, ihs h hm.2⟩
  | plus greedy r ih => exact ih (fun j hj => goOn_congr fun k hk => h k (Nat.le_trans hj hk)) hm
  | mark r ih => exact ih (fun j hj => by rw [h j hj]) hm

lemma fits_blank (r : Pattern) {i : Nat} {next : Nat → Option Hit}
    (h : ∀ j, i ≤ j → next j = none) : Fits text r .blank i next := by
  induction r generalizing next with
  | empty => trivial
  | char s => simp [Fits, h i (Nat.le_refl i), Marks.ofHit]
  | look a => trivial
  | seq r s ihr ihs =>
    refine ⟨ihr fun j hj => ?_, ihs h⟩
    exact firstThen_eq_none fun k hk => h _ (Nat.le_trans hj (ways_stop s hk).1)
  | alt r s ihr ihs => exact ⟨ihr h, ihs h⟩
  | plus greedy r ih =>
    exact ih fun j hj => firstThen_eq_none fun k hk => h _ (Nat.le_trans hj (rounds_stop hk).1)
  | mark r ih => exact ih fun j hj => by rw [h j hj, Option.map_none]

/-- With marks that fit, `first` finds the first way that goes on. -/
theorem first_eq_best {r : Pattern} {m : Marks} {i : Nat} {next : Nat → Option Hit}
    (hm : Fits text r m (i + 1) next) (here : Option Hit) :
    first (.ofText text i) r m here = best text r i (Function.update next i here) := by
  -- The marks speak of the ends behind `i`, and `here` of an end at `i` itself.
  induction r generalizing m next here with
  | empty => simp [first_empty, best, ways]
  | char s =>
    rw [Fits] at hm
    rw [hm, first_char]
    by_cases hc : text[i]?.any s.contains
    · simp [Site.ofText, best, ways, hc]
    · simp [Site.ofText, best, ways, hc]
  | look a =>
    rw [first_look]
    by_cases ha : a.holds (Site.ofText text i).before (Site.ofText text i).after
    · simp [best, ways, ha]
    · simp [best, ways, ha]
  | seq r s ihr ihs =>
    rw [first_seq, ihs hm.2, ihr hm.1, best_seq]
    refine best_congr fun j hj => ?_
    by_cases hji : j = i
    · subst hji
      simp
    · rw [Function.update_of_ne hji]
      refine best_congr fun k hk => ?_
      rw [Function.update_of_ne (by omega)]
  | alt r s ihr ihs => rw [first_alt, ihr hm.1, ihs hm.2, best_alt]
  | plus greedy r ih =>
    rw [first_plus, ih hm, best_plus, Function.update_self]
    refine best_congr fun j hj => ?_
    by_cases hji : j = i
    · simp [hji]
    · rw [Function.update_of_ne hji, Function.update_of_ne hji]
      refine goOn_congr fun k hk => ?_
      rw [Function.update_of_ne (by omega)]
  | mark r ih =>
    rw [first_mark, ih hm, best_mark]
    congr 1
    refine best_congr fun j hj => ?_
    by_cases hji : j = i
    · simp [hji, Site.ofText]
    · simp [hji]

/-- A step of the sweep makes marks that fit one position earlier. -/
theorem step_fits {r : Pattern} {m : Marks} {i : Nat} {next : Nat → Option Hit}
    (hm : Fits text r m (i + 1) next) (here : Option Hit) :
    Fits text r (step (.ofText text i) r m here).2 i (Function.update next i here) := by
  induction r generalizing m next here with
  | empty => trivial
  | char s => simp [step_char, Fits]
  | look a => trivial
  | seq r s ihr ihs =>
    rw [step_seq]
    refine ⟨?_, by simpa using ihs hm.2 here⟩
    rw [left_pair]
    refine (ihr hm.1 _).congr fun j hj => ?_
    by_cases hji : j = i
    · subst hji
      rw [Function.update_self, step_fst, first_eq_best hm.2]
    · rw [Function.update_of_ne hji]
      refine best_congr fun k hk => ?_
      rw [Function.update_of_ne (by omega)]
  | alt r s ihr ihs =>
    rw [step_alt]
    exact ⟨by simpa using ihr hm.1 here, by simpa using ihs hm.2 here⟩
  | plus greedy r ih =>
    rw [step_plus]
    refine Fits.congr (r := r) (fun j hj => ?_) (ih hm _)
    have hlater (k : Nat) (hk : i < k) :
        goOn text greedy r next k = goOn text greedy r (Function.update next i here) k :=
      goOn_congr fun l hl => by rw [Function.update_of_ne (by omega)]
    by_cases hji : j = i
    · subst hji
      have hround := first_eq_best (r := r) hm none
      rw [Function.update_self, goOn_eq, hround, Function.update_self]
      have hagain : best text r j (Function.update (goOn text greedy r next) j none) =
          best text r j (Function.update
            (goOn text greedy r (Function.update next j here)) j none) := by
        refine best_congr fun k hk => ?_
        by_cases hkj : k = j
        · simp [hkj]
        · rw [Function.update_of_ne hkj, Function.update_of_ne hkj, hlater k (by omega)]
      rw [hagain]
    · rw [Function.update_of_ne hji, hlater j (by omega)]
  | mark r ih =>
    rw [step_mark]
    refine Fits.congr (r := r) (fun j hj => ?_) (ih hm _)
    by_cases hji : j = i
    · simp [hji, Site.ofText]
    · simp [hji]

/-- Ending a match, at the end of the text or before it. -/
def finish (text : List Char) (i : Nat) : Option Hit :=
  if i ≤ text.length then some (.stay i) else none

lemma best_finish (r : Pattern) {i : Nat} (hi : i ≤ text.length) :
    best text r i (finish text) = (r.ways text i).head? := by
  have hall : ∀ h ∈ r.ways text i, (finish text h.stop).map h.andThen = some h := by
    intro h hh
    have hstop := ways_stop r hh
    rw [finish, if_pos (by omega), Option.map_some, Hit.andThen_stay]
  unfold best firstThen
  cases hw : r.ways text i with
  | nil => rfl
  | cons h hs => rw [List.findSome?_cons, hall h (by simp [hw]), List.head?_cons]

lemma sweep_eq (r : Pattern) {i : Nat} (hi : i ≤ text.length) {m : Marks}
    (hm : Fits text r m (i + 1) (finish text)) (found : List (Option Hit)) :
    sweep r (text.take i).reverse i text[i]? m found =
      (List.range (i + 1)).map (fun j => (r.ways text j).head?) ++ found := by
  have hsame (j : Nat) (hj : j ≤ text.length) :
      Function.update (finish text) j (some ⟨j, none, none⟩) = finish text := by
    have hfinish : finish text j = some ⟨j, none, none⟩ := if_pos hj
    rw [← hfinish, Function.update_eq_self]
  induction i generalizing m found with
  | zero =>
    simp only [List.take_zero, List.reverse_nil, sweep]
    have hfirst := first_eq_best hm (some ⟨0, none, none⟩)
    rw [hsame 0 hi, best_finish r hi] at hfirst
    rw [step_fst]
    exact congrArg (· :: found) hfirst
  | succ i ih =>
    have hlt : i < text.length := hi
    have htake : (text.take (i + 1)).reverse = text[i] :: (text.take i).reverse := by
      rw [List.take_succ_eq_append_getElem hlt, List.reverse_append]
      rfl
    have hsite : (⟨i + 1, some text[i], text[i + 1]?⟩ : Site) = .ofText text (i + 1) := by
      simp [Site.ofText, hlt]
    have hfirst := first_eq_best hm (some ⟨i + 1, none, none⟩)
    have hfits := step_fits hm (some ⟨i + 1, none, none⟩)
    rw [hsame (i + 1) hi] at hfirst hfits
    rw [best_finish r hi] at hfirst
    rw [htake, sweep, hsite]
    dsimp only
    rw [step_fst, hfirst]
    have hget : some text[i] = text[i]? := (List.getElem?_eq_getElem hlt).symm
    rw [Nat.add_sub_cancel, hget, ih (by omega) hfits, List.range_succ (n := i + 1), List.map_append,
      List.append_assoc]
    rfl

/-- The sweep finds the first way at each position of the text. -/
theorem hits_eq (r : Pattern) (text : List Char) :
    r.hits text = (List.range (text.length + 1)).map fun i => (r.ways text i).head? := by
  have hblank : Fits text r .blank (text.length + 1) (finish text) :=
    fits_blank r fun j hj => if_neg (by omega)
  have hsweep := sweep_eq r (Nat.le_refl _) hblank []
  rw [List.take_length, List.getElem?_eq_none (Nat.le_refl _), List.append_nil] at hsweep
  exact hsweep

end Checkup.Pattern
