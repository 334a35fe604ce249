import Checkup.Proofs.Absolute
import Checkup.Proofs.Order

/-!
# Layouts of addresses

A text in which addresses are laid out: each stands between two borders, and between the addresses
nothing begins that could be taken for one. Whatever the patterns pair up across such a text, it
mentions the addresses that are laid out in it, in order and no others.
-/

namespace Checkup.Mention
open Pattern

/-- A scheme and one or more characters that do not end a bare address. -/
def IsClean (url : String) : Prop :=
  ∃ t ∈ schemes, ∃ rest, rest ≠ [] ∧ url.toList = t.toList ++ rest ∧ ∀ c ∈ rest, ¬fence.contains c

/-- The characters before and behind an address. -/
def borders : List (Char × Char) := [('"', '"'), ('(', ')'), (' ', ' ')]

/-- Neither a scheme nor a value with white space in front of it begins with the two characters. -/
def calm (c d : Char) : Bool :=
  !(c == 'h' && d == 't') && !(quotes.contains c && Unicode.isSpace d)

/-- The address of the mention stands at its place, between two borders. -/
def PlacedIn (text : List Char) (m : Mention) : Prop :=
  ∃ before behind, ∃ b ∈ borders, text = before ++ b.1 :: (m.url.toList ++ b.2 :: behind) ∧
    m.start = before.length + 1 ∧ m.stop = m.start + m.url.length

/-- The mentions are all places of the text at which an address stands. -/
structure Layout (text : List Char) (ms : List Mention) : Prop where
  clean : ∀ m ∈ ms, IsClean m.url
  placed : ∀ m ∈ ms, PlacedIn text m
  apart : ms.Pairwise fun m m' => m.stop ≤ m'.start
  calm_outside : ∀ i c d, text[i]? = some c → text[i + 1]? = some d → ¬calm c d →
    ∃ m ∈ ms, m.start ≤ i ∧ i < m.stop

variable {text : List Char} {ms : List Mention} {m d : Mention}

lemma isClean_of_all {url : String} (t rest : String) (ht : t ∈ schemes)
    (hrest : rest.toList ≠ []) (hurl : url.toList = t.toList ++ rest.toList)
    (hopen : rest.toList.all fun c => !fence.contains c) : IsClean url := by
  refine ⟨t, ht, rest.toList, hrest, hurl, fun c hc => ?_⟩
  have hnot := List.all_eq_true.mp hopen c hc
  rw [Bool.not_eq_true'] at hnot
  exact Bool.eq_false_iff.mp hnot

lemma IsClean.not_fence {url : String} (h : IsClean url) : ∀ c ∈ url.toList, ¬fence.contains c := by
  obtain ⟨t, ht, rest, -, hurl, hrest⟩ := h
  have hscheme : schemes.all fun t => t.toList.all fun c => !fence.contains c := by decide
  intro c hc
  rw [hurl, List.mem_append] at hc
  rcases hc with hc | hc
  · have hall := List.all_eq_true.mp (List.all_eq_true.mp hscheme t ht) c hc
    rw [Bool.not_eq_true'] at hall
    exact Bool.eq_false_iff.mp hall
  · exact hrest c hc

lemma IsClean.toList_eq_cons {url : String} (h : IsClean url) : ∃ rest, url.toList = 'h' :: rest := by
  obtain ⟨t, ht, rest, -, hurl, -⟩ := h
  have hscheme : ∀ t ∈ schemes, t.toList = 'h' :: t.toList.tail := by decide
  refine ⟨t.toList.tail ++ rest, ?_⟩
  rw [hurl, ← List.cons_append, ← hscheme t ht]

lemma IsClean.spans_bare {url : String} (h : IsClean url) {i : Nat}
    (hbegin : url.toList <+: text.drop i) : bare.Spans text i (i + url.length) := by
  have hfence := h.not_fence
  obtain ⟨t, ht, rest, hne, hurl, -⟩ := h
  have hlen : url.length = t.length + rest.length := by
    rw [← String.length_toList, hurl, List.length_append, String.length_toList]
  have hpos : 0 < rest.length := List.length_pos_iff.mpr hne
  have hscheme : t.toList <+: text.drop i :=
    (List.prefix_append t.toList rest).trans (hurl ▸ hbegin)
  apply Mention.spans_bare ht hscheme (by omega)
  intro k hk hkj
  have hlt : k - i < url.toList.length := by
    rw [String.length_toList]
    omega
  have hget := getElem?_of_prefix_drop hbegin (by omega : i ≤ k) (by omega)
  rw [List.getElem?_eq_getElem hlt] at hget
  exact CharSet.holdsAt_compl hget (hfence _ (List.getElem_mem hlt))

lemma PlacedIn.start_pos (h : PlacedIn text m) : 0 < m.start := by
  obtain ⟨before, behind, b, hb, htext, hstart, hstop⟩ := h
  omega

lemma PlacedIn.prefix_drop (h : PlacedIn text m) : m.url.toList <+: text.drop m.start := by
  obtain ⟨before, behind, b, hb, htext, hstart, hstop⟩ := h
  have hdrop : text.drop m.start = m.url.toList ++ b.2 :: behind := by
    rw [htext, hstart, ← List.drop_drop, List.drop_left]
    rfl
  rw [hdrop]
  exact List.prefix_append _ _

lemma PlacedIn.bordered (h : PlacedIn text m) :
    ∃ b ∈ borders, text[m.start - 1]? = some b.1 ∧ text[m.stop]? = some b.2 := by
  obtain ⟨before, behind, b, hb, htext, hstart, hstop⟩ := h
  refine ⟨b, hb, ?_, ?_⟩
  · rw [htext, hstart, Nat.add_sub_cancel]
    simp
  · have hplace : m.stop = (before ++ b.1 :: m.url.toList).length := by
      rw [List.length_append, List.length_cons, String.length_toList]
      omega
    have hsplit : text = (before ++ b.1 :: m.url.toList) ++ b.2 :: behind := by
      rw [htext, List.append_assoc, List.cons_append]
    rw [hplace, hsplit, List.getElem?_append_right (Nat.le_refl _), Nat.sub_self]
    rfl

lemma PlacedIn.stop_lt (h : PlacedIn text m) : m.stop < text.length := by
  obtain ⟨b, -, -, hstop⟩ := h.bordered
  exact (List.getElem?_eq_some_iff.mp hstop).1

lemma PlacedIn.eq_ofRange (h : PlacedIn text m) : m = ofRange text.toArray m.start m.stop := by
  have hbegin := h.prefix_drop
  obtain ⟨before, behind, b, hb, htext, hstart, hstop⟩ := h
  have hlen : m.stop - m.start = m.url.toList.length := by
    rw [String.length_toList]
    omega
  have hurl : m.url = (ofRange text.toArray m.start m.stop).url := by
    apply String.toList_inj.mp
    rw [ofRange_url, hlen]
    exact List.prefix_iff_eq_take.mp hbegin
  cases m
  simp only [ofRange] at hurl ⊢
  rw [← hurl]

lemma PlacedIn.fence_before (h : PlacedIn text m) : fence.HoldsAt text (m.start - 1) := by
  have hfence : ∀ b ∈ borders, fence.contains b.1 := by decide
  obtain ⟨b, hb, hbefore, -⟩ := h.bordered
  exact ⟨b.1, hbefore, hfence b hb⟩

lemma PlacedIn.fence_behind (h : PlacedIn text m) : fence.HoldsAt text m.stop := by
  have hfence : ∀ b ∈ borders, fence.contains b.2 := by decide
  obtain ⟨b, hb, -, hbehind⟩ := h.bordered
  exact ⟨b.2, hbehind, hfence b hb⟩

namespace Layout

lemma spans_bare (hl : Layout text ms) (hm : m ∈ ms) : bare.Spans text m.start m.stop := by
  have hspans := (hl.clean m hm).spans_bare (hl.placed m hm).prefix_drop
  obtain ⟨before, behind, b, hb, htext, hstart, hstop⟩ := hl.placed m hm
  rw [hstop]
  exact hspans

lemma start_lt (hl : Layout text ms) (hm : m ∈ ms) : m.start < m.stop := bare_lt (hl.spans_bare hm)

lemma not_fence (hl : Layout text ms) (hm : m ∈ ms) {k : Nat} (hk : m.start ≤ k) (hkm : k < m.stop) :
    ¬fence.HoldsAt text k := by
  intro hfence
  exact hfence.not_compl ((bare_spans (hl.spans_bare hm)).2 k hk hkm)

lemma exists_of_scheme (hl : Layout text ms) {i j : Nat} (h : scheme.Spans text i j) :
    ∃ m ∈ ms, m.start ≤ i ∧ i < m.stop := by
  obtain ⟨t, ht, hbegin, -⟩ := spans_scheme.mp h
  have hscheme : ∀ t ∈ schemes, 1 < t.toList.length ∧ t.toList[0]? = some 'h' ∧
      t.toList[1]? = some 't' := by decide
  obtain ⟨hlen, hfirst, hsecond⟩ := hscheme t ht
  have hget := getElem?_of_prefix_drop hbegin (Nat.le_refl i) (by omega)
  have hnext := getElem?_of_prefix_drop hbegin (by omega : i ≤ i + 1) (by omega)
  rw [Nat.sub_self, hfirst] at hget
  rw [Nat.add_sub_cancel_left, hsecond] at hnext
  exact hl.calm_outside i 'h' 't' hget hnext (by decide)

lemma exists_start_eq (hl : Layout text ms) {i j : Nat} (h : scheme.Spans text i j) (hi : 0 < i)
    (hbefore : fence.HoldsAt text (i - 1)) : ∃ m ∈ ms, m.start = i := by
  obtain ⟨m, hm, hle, hlt⟩ := hl.exists_of_scheme h
  refine ⟨m, hm, ?_⟩
  by_contra hne
  exact hl.not_fence hm (by omega) (by omega) hbefore

lemma bare_stop_eq (hl : Layout text ms) (hm : m ∈ ms) {k : Match} (hk : k ∈ bare.matchesIn text)
    (hle : m.start ≤ k.start) (hlt : k.start < m.stop) : k.stop = m.stop := by
  have hopen := (bare_spans (hl.spans_bare hm)).2
  have hkopen := (bare_spans (spans_of_mem_matchesIn hk)).2
  have hklt := bare_start_lt hk
  rcases Nat.lt_trichotomy k.stop m.stop with hless | heq | hmore
  · exact absurd (hopen k.stop (by omega) hless) (bare_stop hk)
  · exact heq
  · exact absurd (hkopen m.stop (by omega) hmore) (hl.placed m hm).fence_behind.not_compl

lemma exists_bare (hl : Layout text ms) (hm : m ∈ ms) :
    ∃ k ∈ bare.matchesIn text, k.start = m.start ∧ k.stop = m.stop := by
  have hplaced := hl.placed m hm
  have hlt := hl.start_lt hm
  have hlen := hplaced.stop_lt
  have hpos := hplaced.start_pos
  have hempty : ¬bare.Spans text m.start m.start := fun h => Nat.lt_irrefl _ (bare_lt h)
  obtain ⟨k, hk, hle, hkstop⟩ := (hl.spans_bare hm).exists_mem_matchesIn (by omega) hempty
  have hkopen := (bare_spans (spans_of_mem_matchesIn hk)).2
  have hstart : k.start = m.start := by
    by_contra hne
    exact hplaced.fence_before.not_compl (hkopen (m.start - 1) (by omega) (by omega))
  exact ⟨k, hk, hstart, hl.bare_stop_eq hm hk (by omega) (by omega)⟩

lemma mem_of_bare (hl : Layout text ms) {k : Match} (hk : k ∈ bare.matchesIn text) :
    ofRange text.toArray k.start k.stop ∈ ms := by
  have hspans := spans_of_mem_matchesIn hk
  obtain ⟨⟨j, hj, -⟩, -⟩ := bare_spans hspans
  obtain ⟨m, hm, hle, hlt⟩ := hl.exists_of_scheme hj
  obtain ⟨k', hk', hstart, hstop⟩ := hl.exists_bare hm
  have hstopk := hl.bare_stop_eq hm hk hle hlt
  have hklt := bare_start_lt hk
  rcases eq_or_apart (matchesIn_pairwise bare text) hk hk' with rfl | hapart | hapart
  · rw [hstart, hstop, ← (hl.placed m hm).eq_ofRange]
    exact hm
  · omega
  · omega

/-- A part between delimiters that begins with a scheme is one of the addresses: the characters
around it pair up with the borders of the address. -/
lemma mem_of_enclosed (hl : Layout text ms) {border inner : CharSet}
    (hd : Enclosed text.toArray border inner d) {j : Nat} (hscheme : scheme.Spans text d.start j)
    (hborder : ∀ c, border.contains c → fence.contains c)
    (hpair : ∀ b ∈ borders, border.contains b.1 → ¬inner.contains b.2) : d ∈ ms := by
  have hbefore : fence.HoldsAt text (d.start - 1) := HoldsAt_mono hborder hd.before
  have hbehind : fence.HoldsAt text d.stop := HoldsAt_mono hborder hd.behind
  have hlt := hd.start_lt
  obtain ⟨m, hm, hstart⟩ := hl.exists_start_eq hscheme hd.start_pos hbefore
  obtain ⟨b, hb, hfirst, hlast⟩ := (hl.placed m hm).bordered
  have hinner : ¬inner.contains b.2 := by
    obtain ⟨c, hc, hcborder⟩ := hd.before
    have hsame : some c = some b.1 := by
      rw [← hc, ← hfirst, hstart]
    exact hpair b hb (Option.some.inj hsame ▸ hcborder)
  -- The closing border of `m` cannot stand in `d`, and the one of `d` is a fence, so not in `m`.
  have hstop : m.stop = d.stop := by
    rcases Nat.lt_trichotomy m.stop d.stop with hless | heq | hmore
    · obtain ⟨c, hc, hcinner⟩ := hd.inside m.stop (by have := hl.start_lt hm; omega) hless
      have hsame : some c = some b.2 := by
        rw [← hc, ← hlast]
      exact absurd (Option.some.inj hsame ▸ hcinner) hinner
    · exact heq
    · exact absurd hbehind (hl.not_fence hm (by omega) hmore)
  have hsame : d = m := by
    calc d = ofRange text.toArray d.start d.stop := hd.url_eq
      _ = ofRange text.toArray m.start m.stop := by rw [hstart, hstop]
      _ = m := (hl.placed m hm).eq_ofRange.symm
  rw [hsame]
  exact hm

/-- No white space stands in front of the value of an attribute, so it begins with its scheme. -/
lemma scheme_of_attributeValue (hl : Layout text ms) (hd : d ∈ marked attributeValue text.toArray)
    (habs : isAbsolute d) : ∃ j, scheme.Spans text d.start j := by
  have henclosed := (enclosed_attributeValue hd).1
  have hpos := henclosed.start_pos
  have hfence : fence.HoldsAt text (d.start - 1) :=
    HoldsAt_mono (fence_contains_of (by decide)) henclosed.before
  have hurl : d.url.toList = (text.drop d.start).take (d.stop - d.start) := by
    rw [henclosed.url_eq]
    exact ofRange_url _ _ _
  have hfirst : ∀ c, d.url.toList.head? = some c → ¬Unicode.isSpace c := by
    intro c hc hspace
    obtain ⟨q, hq, hquote⟩ := henclosed.before
    have hlt := henclosed.start_lt
    have hnext : text[d.start - 1 + 1]? = some c := by
      rw [hurl, List.head?_take, if_neg (by omega), List.head?_drop] at hc
      rw [Nat.sub_add_cancel hpos]
      exact hc
    have hcalm : ¬calm q c := by
      simp [calm, hquote, hspace]
    obtain ⟨m, hm, hle, hmlt⟩ := hl.calm_outside _ q c hq hnext hcalm
    exact hl.not_fence hm hle hmlt hfence
  obtain ⟨t, ht, hbegin⟩ := (isAbsolute_iff d).mp habs
  have hvalue := hbegin.trans (prefix_trim d.url.toList)
  rw [dropWhile_of_head?_not hfirst, hurl, List.prefix_take_iff] at hvalue
  exact ⟨_, spans_scheme.mpr ⟨t, ht, hvalue.1, rfl⟩⟩

lemma mem_of_delimited (hl : Layout text ms) (hd : d ∈ delimited text.toArray) : d ∈ ms := by
  rcases mem_delimited.mp hd with ⟨hd, habs⟩ | hd | hd
  · obtain ⟨j, hscheme⟩ := hl.scheme_of_attributeValue hd habs
    have henclosed := (enclosed_attributeValue hd).1
    exact hl.mem_of_enclosed henclosed hscheme (fence_contains_of (by decide)) (by decide)
  · obtain ⟨henclosed, j, hscheme, -⟩ := enclosed_labelled hd
    exact hl.mem_of_enclosed henclosed hscheme (fence_contains_of (by decide)) (by decide)
  · obtain ⟨henclosed, ⟨j, hscheme, -⟩, -⟩ := enclosed_argument hd
    exact hl.mem_of_enclosed henclosed hscheme (fence_contains_of (by decide)) (by decide)

/-- What a text mentions in any of the four ways is what is laid out in it: an address that is not
found between delimiters is found bare. -/
lemma mem_found (hl : Layout text ms) :
    d ∈ delimited text.toArray ++ undelimited text.toArray (delimited text.toArray) ↔ d ∈ ms := by
  constructor
  · intro hd
    rcases List.mem_append.mp hd with hd | hd
    · exact hl.mem_of_delimited hd
    · obtain ⟨k, hk, -, rfl⟩ := mem_undelimited.mp hd
      exact hl.mem_of_bare hk
  · intro hd
    obtain ⟨k, hk, hstart, hstop⟩ := hl.exists_bare hd
    have heq := (hl.placed d hd).eq_ofRange
    by_cases hin : ∃ o ∈ delimited text.toArray, o.start ≤ k.start ∧ k.start < o.stop
    · -- The part that has the bare address is one of the addresses, so it is `d`.
      obtain ⟨o, ho, hle, hlt⟩ := hin
      have hdlt := hl.start_lt hd
      rcases eq_or_apart hl.apart (hl.mem_of_delimited ho) hd with rfl | hapart | hapart
      · exact List.mem_append_left _ ho
      · omega
      · omega
    · have hout : ∀ o ∈ delimited text.toArray, ¬(o.start ≤ k.start ∧ k.start < o.stop) :=
        fun o ho hko => hin ⟨o, ho, hko⟩
      rw [heq, ← hstart, ← hstop]
      exact List.mem_append_right _ (mem_undelimited.mpr ⟨k, hk, hout, rfl⟩)

/-- The mentions of a text in which addresses are laid out are these, in the order in which they
stand. -/
theorem all_eq (hl : Layout text ms) : all text.toArray = ms := by
  have hstarts : ms.Pairwise fun a b => a.start < b.start :=
    hl.apart.imp_of_mem fun ha _ hab => by
      have := hl.start_lt ha
      omega
  have hnodup := (found_pairwise_start_ne text.toArray).imp fun hne heq =>
    hne (congrArg Mention.start heq)
  have hmsNodup : ms.Nodup := hstarts.imp fun hlt heq => by
    rw [heq] at hlt
    omega
  have hperm := (List.perm_ext_iff_of_nodup hnodup hmsNodup).mpr fun d => hl.mem_found
  exact mergeSort_eq_of_perm hperm hstarts

end Layout
end Checkup.Mention
