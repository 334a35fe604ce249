import Checkup.Proofs.Successive

/-!
# Spans

A pattern spans the part of a text from `i` to `j` if it can match it. For each way to build a
pattern a lemma says what it spans; texts and runs of characters also have their exact ways.
-/

namespace Checkup

/-- A member of the set stands at the position `i`. -/
def CharSet.HoldsAt (s : CharSet) (text : List Char) (i : Nat) : Prop :=
  ∃ c, text[i]? = some c ∧ s.contains c

lemma CharSet.HoldsAt.lt {s : CharSet} {text : List Char} {i : Nat} (h : s.HoldsAt text i) :
    i < text.length := by
  obtain ⟨c, hc, -⟩ := h
  exact (List.getElem?_eq_some_iff.mp hc).1

lemma CharSet.HoldsAt.contains {s : CharSet} {text : List Char} {i : Nat} {c : Char}
    (h : s.HoldsAt text i) (hc : text[i]? = some c) : s.contains c := by
  obtain ⟨d, hd, hs⟩ := h
  rw [hc, Option.some.injEq] at hd
  exact hd ▸ hs

lemma CharSet.holdsAt_iff_any {s : CharSet} {text : List Char} {i : Nat} :
    s.HoldsAt text i ↔ text[i]?.any s.contains := by
  cases h : text[i]? <;> simp [HoldsAt, h]

lemma CharSet.holdsAt_one {text : List Char} {i : Nat} {c : Char} :
    (CharSet.one c).HoldsAt text i ↔ text[i]? = some c := by
  simp only [CharSet.HoldsAt, CharSet.contains, beq_iff_eq, exists_eq_right]

lemma CharSet.holdsAt_compl {s : CharSet} {text : List Char} {i : Nat} {c : Char}
    (hc : text[i]? = some c) (hs : ¬s.contains c) : (CharSet.compl s).HoldsAt text i := by
  refine ⟨c, hc, ?_⟩
  rw [CharSet.contains, Bool.not_eq_true']
  exact eq_false_of_ne_true hs

lemma CharSet.HoldsAt.not_compl {s : CharSet} {text : List Char} {i : Nat} (h : s.HoldsAt text i) :
    ¬(CharSet.compl s).HoldsAt text i := by
  rintro ⟨c, hc, hcompl⟩
  obtain ⟨d, hd, hs⟩ := h
  rw [hc, Option.some.injEq] at hd
  rw [CharSet.contains, hd, hs] at hcompl
  exact absurd hcompl (by decide)

namespace Pattern

variable {text : List Char} {r s : Pattern} {i j : Nat}

@[simp] lemma append_eq_seq (r s : Pattern) : r ++ s = seq r s := rfl

/-- The pattern can match the part of the text from `i` to `j`. -/
def Spans (text : List Char) (r : Pattern) (i j : Nat) : Prop :=
  ∃ h ∈ r.ways text i, h.stop = j

lemma Spans.le (h : r.Spans text i j) : i ≤ j := by
  obtain ⟨k, hk, rfl⟩ := h
  exact (ways_stop r hk).1

lemma spans_empty : empty.Spans text i j ↔ j = i := by
  simp [Spans, ways, eq_comm]

lemma spans_char {c : CharSet} : (char c).Spans text i j ↔ c.HoldsAt text i ∧ j = i + 1 := by
  rw [Spans, ways, CharSet.holdsAt_iff_any]
  split
  · rename_i h
    simp [h, eq_comm]
  · rename_i h
    simp [h]

lemma spans_look {a : Assertion} : (look a).Spans text i j ↔
    a.holds (Site.ofText text i).before (Site.ofText text i).after ∧ j = i := by
  rw [Spans, ways]
  split
  · rename_i h
    simp [h, eq_comm]
  · rename_i h
    simp [h]

lemma spans_seq : (seq r s).Spans text i j ↔ ∃ k, r.Spans text i k ∧ s.Spans text k j := by
  simp only [Spans, ways, List.mem_flatMap, List.mem_map]
  constructor
  · rintro ⟨_, ⟨h, hh, k, hk, rfl⟩, rfl⟩
    exact ⟨h.stop, ⟨h, hh, rfl⟩, k, hk, rfl⟩
  · rintro ⟨_, ⟨h, hh, rfl⟩, k, hk, rfl⟩
    exact ⟨h.andThen k, ⟨h, hh, k, hk, rfl⟩, rfl⟩

lemma spans_alt : (alt r s).Spans text i j ↔ r.Spans text i j ∨ s.Spans text i j := by
  simp only [Spans, ways, List.mem_append]
  constructor
  · rintro ⟨h, hh | hh, hj⟩
    · exact .inl ⟨h, hh, hj⟩
    · exact .inr ⟨h, hh, hj⟩
  · rintro (⟨h, hh, hj⟩ | ⟨h, hh, hj⟩)
    · exact ⟨h, .inl hh, hj⟩
    · exact ⟨h, .inr hh, hj⟩

lemma spans_choice (rs : List Pattern) :
    (choice rs).Spans text i j ↔ ∃ r ∈ rs, r.Spans text i j := by
  induction rs with
  | nil => simp [choice, spans_char, CharSet.HoldsAt, CharSet.nothing, CharSet.contains]
  | cons r rs ih =>
    cases rs with
    | nil => simp [choice]
    | cons s rs =>
      have hchoice : choice (r :: s :: rs) = alt r (choice (s :: rs)) := rfl
      simp only [hchoice, spans_alt, ih, List.exists_mem_cons_iff]

lemma spans_mark : (mark r).Spans text i j ↔ r.Spans text i j := by
  simp [Spans, ways]

/-- A repetition starts with a round, and ends there if that round is empty. -/
lemma Spans.exists_round {greedy : Bool} (h : (plus greedy r).Spans text i j) :
    ∃ k, r.Spans text i k ∧ k ≤ j ∧ (k = i → j = i) := by
  obtain ⟨h, hh, rfl⟩ := h
  rw [ways, List.mem_flatMap] at hh
  obtain ⟨k, hk, hh⟩ := hh
  refine ⟨k.stop, ⟨k, hk, rfl⟩, ?_⟩
  split at hh
  · rename_i hempty
    rw [List.mem_singleton.mp hh]
    exact ⟨Nat.le_refl _, fun _ => hempty⟩
  · rename_i hmoved
    obtain ⟨l, hl, rfl⟩ := List.mem_map.mp hh
    exact ⟨(rounds_stop hl).1, fun heq => absurd heq hmoved⟩

lemma spans_optional : (optional r).Spans text i j ↔ r.Spans text i j ∨ j = i := by
  rw [optional, spans_alt, spans_empty]

/-- The rounds of a repetition of one character run over members of its set. -/
lemma mem_rounds_char {greedy : Bool} {c : CharSet} :
    (∃ h ∈ rounds text.length greedy ((char c).ways text) i, h.stop = j) ↔
      i ≤ j ∧ ∀ k, i ≤ k → k < j → c.HoldsAt text k := by
  constructor
  · rintro ⟨h, hh, rfl⟩
    refine rounds_induction (P := fun i h => i ≤ h.stop ∧ ∀ k, i ≤ k → k < h.stop →
      c.HoldsAt text k) ?_ ?_ hh
    · intro i
      refine ⟨Nat.le_refl i, fun k hik hki => ?_⟩
      simp only [Hit.stay_stop] at hki
      omega
    · intro i k hk hlt _ l hl
      have hchar : (char c).Spans text i k.stop := ⟨k, hk, rfl⟩
      obtain ⟨hc, hstop⟩ := spans_char.mp hchar
      simp only [Hit.andThen_stop]
      refine ⟨by omega, fun m him hml => ?_⟩
      rcases Nat.eq_or_lt_of_le him with rfl | him
      · exact hc
      · exact hl.2 m (by omega) hml
  · rintro ⟨hij, hrun⟩
    induction hn : j - i generalizing i with
    | zero =>
      obtain rfl : i = j := by omega
      exact ⟨.stay i, mem_rounds.mpr (.inl rfl), rfl⟩
    | succ n ih =>
      have hi := hrun i (Nat.le_refl i) (by omega)
      have hlt := hi.lt
      have hround : Hit.stay (i + 1) ∈ (char c).ways text i := by
        rw [ways, if_pos (CharSet.holdsAt_iff_any.mp hi)]
        exact List.mem_singleton_self _
      obtain ⟨h, hh, hstop⟩ := ih (i := i + 1) (by omega) (fun k hk hkj => hrun k (by omega) hkj) (by omega)
      refine ⟨(Hit.stay (i + 1)).andThen h, mem_rounds.mpr (.inr ?_), hstop⟩
      exact ⟨.stay (i + 1), hround, by simp only [Hit.stay_stop]; omega, h, hh, rfl⟩

lemma spans_plus_char {greedy : Bool} {c : CharSet} :
    (plus greedy (char c)).Spans text i j ↔ i < j ∧ ∀ k, i ≤ k → k < j → c.HoldsAt text k := by
  have hsplit : (plus greedy (char c)).Spans text i j ↔ c.HoldsAt text i ∧
      ∃ h ∈ rounds text.length greedy ((char c).ways text) (i + 1), h.stop = j := by
    rw [Spans, ways, ways, CharSet.holdsAt_iff_any]
    split
    · rename_i hc
      simp [hc]
    · rename_i hc
      simp [hc]
  rw [hsplit, mem_rounds_char]
  constructor
  · rintro ⟨hi, hij, hrun⟩
    refine ⟨by omega, fun k hik hkj => ?_⟩
    rcases Nat.eq_or_lt_of_le hik with rfl | hik
    · exact hi
    · exact hrun k hik hkj
  · rintro ⟨hij, hrun⟩
    exact ⟨hrun i (Nat.le_refl i) hij, hij, fun k hik hkj => hrun k (by omega) hkj⟩

lemma spans_oneOrMore_char {c : CharSet} :
    (oneOrMore (char c)).Spans text i j ↔ i < j ∧ ∀ k, i ≤ k → k < j → c.HoldsAt text k :=
  spans_plus_char

lemma spans_zeroOrMore_char {c : CharSet} :
    (zeroOrMore (char c)).Spans text i j ↔ i ≤ j ∧ ∀ k, i ≤ k → k < j → c.HoldsAt text k := by
  rw [zeroOrMore, spans_alt, spans_plus_char, spans_empty]
  constructor
  · rintro (⟨hij, hrun⟩ | rfl)
    · exact ⟨by omega, hrun⟩
    · exact ⟨Nat.le_refl _, fun k hik hki => by omega⟩
  · rintro ⟨hij, hrun⟩
    rcases Nat.eq_or_lt_of_le hij with rfl | hij
    · exact .inr rfl
    · exact .inl ⟨hij, hrun⟩

/-- The text begins with a member of each of the sets in turn. -/
def beginsWith : List CharSet → List Char → Bool
  | [], _ => true
  | _ :: _, [] => false
  | c :: cs, d :: ds => c.contains d && beginsWith cs ds

lemma beginsWith_one (cs ds : List Char) :
    beginsWith (cs.map .one) ds = true ↔ cs <+: ds := by
  induction cs generalizing ds with
  | nil => simp [beginsWith]
  | cons c cs ih =>
    cases ds with
    | nil => simp [beginsWith]
    | cons d ds =>
      simp only [List.map_cons, beginsWith, CharSet.contains, Bool.and_eq_true, beq_iff_eq, ih,
        List.cons_prefix_cons]
      exact and_congr_left fun _ => eq_comm

lemma beginsWith_cons_drop (c : CharSet) (cs : List CharSet) (text : List Char) (i : Nat) :
    beginsWith (c :: cs) (text.drop i) =
      (text[i]?.any c.contains && beginsWith cs (text.drop (i + 1))) := by
  by_cases hi : i < text.length
  · rw [List.drop_eq_getElem_cons hi, List.getElem?_eq_getElem hi]
    rfl
  · have hnil : text.drop i = [] := List.drop_eq_nil_of_le (Nat.not_lt.mp hi)
    rw [hnil, List.getElem?_eq_none (Nat.not_lt.mp hi)]
    rfl

lemma ways_foldl_char (r : Pattern) (cs : List CharSet) (i : Nat) :
    ((cs.map char).foldl seq r).ways text i = (r.ways text i).flatMap fun h =>
      if beginsWith cs (text.drop h.stop) then [h.andThen (.stay (h.stop + cs.length))] else [] := by
  induction cs generalizing r with
  | nil => simp [beginsWith]
  | cons c cs ih =>
    rw [List.map_cons, List.foldl_cons, ih, ways, List.flatMap_assoc]
    congr 1
    funext h
    rw [beginsWith_cons_drop, ways]
    cases hc : text[h.stop]?.any c.contains with
    | false => simp
    | true =>
      have hstop : h.stop + 1 + cs.length = h.stop + (cs.length + 1) := by omega
      by_cases hcs : beginsWith cs (text.drop (h.stop + 1))
      · simp [hcs, Hit.andThen, hstop]
      · simp [hcs]

lemma ways_sequence_char (cs : List CharSet) (i : Nat) :
    (sequence (cs.map char)).ways text i =
      if beginsWith cs (text.drop i) then [.stay (i + cs.length)] else [] := by
  cases cs with
  | nil => simp [sequence, ways, beginsWith]
  | cons c cs =>
    rw [List.map_cons, sequence, ways_foldl_char, beginsWith_cons_drop, ways]
    cases hc : text[i]?.any c.contains with
    | false => simp
    | true =>
      have hstop : i + 1 + cs.length = i + (cs.length + 1) := by omega
      by_cases hcs : beginsWith cs (text.drop (i + 1))
      · simp [hcs, hstop]
      · simp [hcs]

lemma ways_text (t : String) (i : Nat) :
    (Pattern.text t).ways text i =
      if t.toList <+: text.drop i then [.stay (i + t.length)] else [] := by
  have hchars : Pattern.text t = sequence ((t.toList.map CharSet.one).map char) := by
    rw [Pattern.text, List.map_map]
    rfl
  rw [hchars, ways_sequence_char]
  simp only [beginsWith_one, List.length_map, String.length_toList]

lemma spans_text {t : String} :
    (Pattern.text t).Spans text i j ↔ t.toList <+: text.drop i ∧ j = i + t.length := by
  rw [Spans, ways_text]
  split
  · rename_i h
    simp [h, eq_comm]
  · rename_i h
    simp [h]

lemma prefix_append_drop {a b : List Char} {i : Nat} :
    a ++ b <+: text.drop i ↔ a <+: text.drop i ∧ b <+: text.drop (i + a.length) := by
  rw [← List.drop_drop]
  constructor
  · intro h
    refine ⟨(List.prefix_append a b).trans h, ?_⟩
    obtain ⟨rest, hrest⟩ := h
    rw [← hrest, List.append_assoc, List.drop_left]
    exact List.prefix_append b rest
  · rintro ⟨⟨rest, hrest⟩, hb⟩
    rw [← hrest, List.drop_left] at hb
    rw [← hrest, List.prefix_append_right_inj]
    exact hb

lemma getElem?_of_prefix_drop {t : List Char} {i k : Nat} (h : t <+: text.drop i)
    (hik : i ≤ k) (hk : k < i + t.length) : text[k]? = t[k - i]? := by
  obtain ⟨rest, hrest⟩ := h
  have hget : (text.drop i)[k - i]? = t[k - i]? := by
    rw [← hrest, List.getElem?_append_left (by omega)]
  rw [← hget, List.getElem?_drop]
  congr 1
  omega

/-- The pattern marks no part of its matches. -/
def markFree : Pattern → Bool
  | empty => true
  | char _ => true
  | look _ => true
  | seq r s => r.markFree && s.markFree
  | alt r s => r.markFree && s.markFree
  | plus _ r => r.markFree
  | mark _ => false

/-- Without a mark a hit is its end only. -/
lemma eq_stay_of_markFree (hr : r.markFree) {h : Hit} (hh : h ∈ r.ways text i) :
    h = .stay h.stop := by
  have hand (k l : Hit) (hl : l = .stay l.stop) (hk : k = .stay k.stop) :
      k.andThen l = .stay (k.andThen l).stop := by
    rw [hl, hk]
    rfl
  induction r generalizing i h with
  | empty =>
    simp only [ways, List.mem_singleton] at hh
    rw [hh, Hit.stay_stop]
  | char c =>
    simp only [ways] at hh
    split at hh
    · simp only [List.mem_singleton] at hh
      rw [hh, Hit.stay_stop]
    · simp at hh
  | look a =>
    simp only [ways] at hh
    split at hh
    · simp only [List.mem_singleton] at hh
      rw [hh, Hit.stay_stop]
    · simp at hh
  | seq r s ihr ihs =>
    simp only [markFree, Bool.and_eq_true] at hr
    simp only [ways, List.mem_flatMap, List.mem_map] at hh
    obtain ⟨k, hk, l, hl, rfl⟩ := hh
    exact hand k l (ihs hr.2 hl) (ihr hr.1 hk)
  | alt r s ihr ihs =>
    simp only [markFree, Bool.and_eq_true] at hr
    simp only [ways, List.mem_append] at hh
    rcases hh with hh | hh
    · exact ihr hr.1 hh
    · exact ihs hr.2 hh
  | plus greedy r ih =>
    simp only [ways, List.mem_flatMap] at hh
    obtain ⟨k, hk, hh⟩ := hh
    split at hh
    · simp only [List.mem_singleton] at hh
      rw [hh]
      exact ih hr hk
    · simp only [List.mem_map] at hh
      obtain ⟨l, hl, rfl⟩ := hh
      refine hand k l (rounds_induction (P := fun _ l => l = .stay l.stop) ?_ ?_ hl) (ih hr hk)
      · intro i
        rfl
      · intro i m hm _ _ l hl
        exact hand m l hl (ih hr hm)
  | mark r ih => simp [markFree] at hr

/-- A match with one marked part consists of what stands before it, of that part and of what stands
behind it. -/
lemma mem_ways_around_mark {a b c : Pattern} (ha : a.markFree) (hb : b.markFree) (hc : c.markFree)
    {h : Hit} (hh : h ∈ (a ++ mark b ++ c).ways text i) :
    ∃ s e, h.markStart = some s ∧ h.markStop = some e ∧ a.Spans text i s ∧ b.Spans text s e ∧
      c.Spans text e h.stop := by
  simp only [append_eq_seq, ways, List.mem_flatMap, List.mem_map] at hh
  obtain ⟨_, ⟨k, hk, _, ⟨l, hl, rfl⟩, rfl⟩, m, hm, rfl⟩ := hh
  have hk' := eq_stay_of_markFree ha hk
  have hl' := eq_stay_of_markFree hb hl
  have hm' := eq_stay_of_markFree hc hm
  refine ⟨k.stop, l.stop, ?_, ?_, ⟨k, hk, rfl⟩, ⟨l, hl, rfl⟩, ⟨m, hm, rfl⟩⟩
  · rw [hm', hl', hk']
    rfl
  · rw [hm', hl', hk']
    rfl

lemma mem_matchesIn_around_mark {a b c : Pattern} (ha : a.markFree) (hb : b.markFree)
    (hc : c.markFree) {m : Match} (hm : m ∈ (a ++ mark b ++ c).matchesIn text) :
    ∃ s e, m.marked = some (s, e) ∧ a.Spans text m.start s ∧ b.Spans text s e ∧
      c.Spans text e m.stop := by
  obtain ⟨h, hh, hmatch, -⟩ := mem_matchesIn hm
  obtain ⟨s, e, hs, he, has, hbs, hcs⟩ :=
    mem_ways_around_mark ha hb hc (List.mem_of_mem_head? hh)
  have hstop : m.stop = h.stop := by
    rw [hmatch]
    rfl
  refine ⟨s, e, ?_, has, hbs, hstop ▸ hcs⟩
  rw [hmatch]
  simp [Hit.toMatch, hs, he]

lemma spans_of_mem_matchesIn {m : Match} (hm : m ∈ r.matchesIn text) :
    r.Spans text m.start m.stop := by
  obtain ⟨h, hh, hmatch, -⟩ := mem_matchesIn hm
  refine ⟨h, List.mem_of_mem_head? hh, ?_⟩
  rw [hmatch]
  rfl

/-- A pattern occurs where it spans a part of the text. -/
lemma occursIn_iff : r.occursIn text ↔ ∃ i j, i ≤ text.length ∧ r.Spans text i j := by
  rw [occursIn_eq, List.any_eq_true]
  simp only [List.mem_range, Bool.not_eq_true', List.isEmpty_eq_false_iff_exists_mem, Spans]
  constructor
  · rintro ⟨i, hi, h, hh⟩
    exact ⟨i, h.stop, by omega, h, hh, rfl⟩
  · rintro ⟨i, -, hi, h, hh, -⟩
    exact ⟨i, by omega, h, hh⟩

/-- Wherever a pattern that takes characters can match, one of its matches is. -/
lemma Spans.exists_mem_matchesIn (hij : r.Spans text i j) (hi : i < text.length)
    (hr : ¬r.Spans text i i) : ∃ m ∈ r.matchesIn text, m.start ≤ i ∧ i < m.stop := by
  obtain ⟨h, hh, -⟩ := hij
  cases hw : r.ways text i with
  | nil => simp [hw] at hh
  | cons k ks =>
    have hk : k ∈ r.ways text i := by simp [hw]
    have hle := (ways_stop r hk).1
    have hne : k.stop ≠ i := fun heq => hr ⟨k, hk, heq⟩
    exact Pattern.exists_mem_matchesIn (by omega) (by rw [hw]; rfl : (r.ways text i).head? = some k)
      (by omega)

/-- The first way through a sequence goes the first way through its last part. -/
lemma head?_ways_seq {h : Hit} (hh : ((seq r s).ways text i).head? = some h) :
    ∃ k ∈ r.ways text i, ∃ l, (s.ways text k.stop).head? = some l ∧ h = k.andThen l := by
  rw [ways] at hh
  generalize r.ways text i = hits at hh ⊢
  induction hits with
  | nil => simp at hh
  | cons k ks ih =>
    rw [List.flatMap_cons, List.head?_append] at hh
    cases hw : (s.ways text k.stop).head? with
    | none =>
      rw [List.head?_map, hw, Option.map_none, Option.none_or] at hh
      obtain ⟨k', hk', hrest⟩ := ih hh
      exact ⟨k', List.mem_cons_of_mem k hk', hrest⟩
    | some l =>
      rw [List.head?_map, hw, Option.map_some, Option.some_or, Option.some.injEq] at hh
      exact ⟨k, List.mem_cons_self, l, hw, hh.symm⟩

lemma head?_rounds_char {c : CharSet} {h : Hit}
    (hh : (rounds text.length true ((char c).ways text) i).head? = some h) :
    ¬c.HoldsAt text h.stop := by
  induction hn : text.length - i using Nat.strongRecOn generalizing i h with
  | ind n ih =>
    rw [rounds, ways] at hh
    by_cases hc : text[i]?.any c.contains
    · have hlt := (CharSet.holdsAt_iff_any.mpr hc).lt
      let next := Hit.stay (i + 1)
      have hround : i < next.stop ∧ next.stop ≤ text.length := ⟨Nat.lt_succ_self i, hlt⟩
      cases hw : (rounds text.length true ((char c).ways text) next.stop).head? with
      | none =>
        have hstay : Hit.stay next.stop ∈ rounds text.length true ((char c).ways text) next.stop :=
          mem_rounds.mpr (.inl rfl)
        rw [List.head?_eq_none_iff.mp hw] at hstay
        simp at hstay
      | some k =>
        simp only [hc, if_true, List.flatMap_cons, List.flatMap_nil, List.append_nil,
          List.head?_append] at hh
        rw [dif_pos hround, List.head?_map, hw, Option.map_some, Option.some_or,
          Option.some.injEq] at hh
        rw [← hh, Hit.andThen_stop]
        exact ih (text.length - next.stop) (by omega) hw rfl
    · simp only [hc, if_false, List.flatMap_nil, List.nil_append, if_true, List.head?_cons,
        Option.some.injEq, Bool.false_eq_true] at hh
      rw [← hh, CharSet.holdsAt_iff_any]
      exact hc

/-- A greedy run of characters stops only where no further member of the set stands. -/
lemma head?_oneOrMore_char {c : CharSet} {h : Hit}
    (hh : ((oneOrMore (char c)).ways text i).head? = some h) : ¬c.HoldsAt text h.stop := by
  rw [oneOrMore, ways] at hh
  by_cases hc : text[i]?.any c.contains
  · have hways : (char c).ways text i = [.stay (i + 1)] := by rw [ways, if_pos hc]
    rw [hways, List.flatMap_cons, if_neg (by simp), List.flatMap_nil, List.append_nil,
      List.head?_map, Option.map_eq_some_iff] at hh
    obtain ⟨k, hk, rfl⟩ := hh
    rw [Hit.andThen_stop]
    exact head?_rounds_char hk
  · have hways : (char c).ways text i = [] := by rw [ways, if_neg hc]
    simp [hways] at hh

end Pattern
end Checkup
