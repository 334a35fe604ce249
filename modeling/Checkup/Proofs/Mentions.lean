import Checkup.Link.Mention
import Checkup.Proofs.Spans

/-!
# Mentions between delimiters

What stands around the addresses that a text mentions, and in them. Each delimiter of the first
three kinds of mention is a character that a bare address cannot have, so no bare address crosses
the border of one of these, and no two mentions start at the same place.
-/

namespace Checkup.Mention
open Pattern

variable {code : Array Char} {text : List Char}

/-- The characters that end a bare address. -/
def fence : CharSet := .space ||| .of "\"'`<>()"

/-- The starts of an absolute web address. -/
def schemes : List String := ["http://", "https://"]

lemma ofRange_url (code : Array Char) (i j : Nat) :
    (ofRange code i j).url.toList = (code.toList.drop i).take (j - i) := by
  simp [ofRange, List.extract_eq_take_drop]

lemma spans_scheme {i j : Nat} :
    scheme.Spans text i j ↔ ∃ t ∈ schemes, t.toList <+: text.drop i ∧ j = i + t.length := by
  simp only [scheme, append_eq_seq, spans_seq, spans_optional, spans_text, schemes, List.mem_cons,
    List.not_mem_nil, or_false, exists_eq_or_imp, exists_eq_left]
  constructor
  · rintro ⟨k, ⟨l, ⟨hhttp, rfl⟩, ⟨hs, rfl⟩ | rfl⟩, hsigns, rfl⟩
    · refine .inr ⟨?_, rfl⟩
      have happ := prefix_append_drop.mpr ⟨prefix_append_drop.mpr ⟨hhttp, hs⟩, hsigns⟩
      exact happ
    · exact .inl ⟨prefix_append_drop.mpr ⟨hhttp, hsigns⟩, rfl⟩
  · rintro (⟨h, rfl⟩ | ⟨h, rfl⟩)
    · obtain ⟨hhttp, hsigns⟩ :=
        (prefix_append_drop (a := "http".toList) (b := "://".toList)).mp h
      exact ⟨_, ⟨_, ⟨hhttp, rfl⟩, .inr rfl⟩, hsigns, rfl⟩
    · obtain ⟨hhttps, hsigns⟩ :=
        (prefix_append_drop (a := "https".toList) (b := "://".toList)).mp h
      obtain ⟨hhttp, hs⟩ := (prefix_append_drop (a := "http".toList) (b := "s".toList)).mp hhttps
      exact ⟨_, ⟨_, ⟨hhttp, rfl⟩, .inl ⟨hs, rfl⟩⟩, hsigns, rfl⟩

lemma holdsAt_of_scheme {s : CharSet} (hs : schemes.all fun t => t.toList.all s.contains)
    {i j k : Nat} (h : scheme.Spans text i j) (hik : i ≤ k) (hkj : k < j) : s.HoldsAt text k := by
  obtain ⟨t, ht, hbegin, rfl⟩ := spans_scheme.mp h
  have hlt : k - i < t.toList.length := by
    rw [String.length_toList]
    omega
  have hget := getElem?_of_prefix_drop hbegin hik (by rw [String.length_toList]; omega)
  rw [List.getElem?_eq_getElem hlt] at hget
  have hall := List.all_eq_true.mp hs t ht
  exact ⟨_, hget, List.all_eq_true.mp hall _ (List.getElem_mem hlt)⟩

/-- A scheme and a run of characters have only members of a set that has those of the schemes. -/
lemma spans_scheme_run {s : CharSet} (hs : schemes.all fun t => t.toList.all s.contains)
    {i j : Nat} (h : (scheme ++ oneOrMore (char s)).Spans text i j) :
    (∃ k, scheme.Spans text i k ∧ k < j) ∧ ∀ k, i ≤ k → k < j → s.HoldsAt text k := by
  rw [append_eq_seq, spans_seq] at h
  obtain ⟨l, hscheme, hrun⟩ := h
  rw [spans_oneOrMore_char] at hrun
  refine ⟨⟨l, hscheme, hrun.1⟩, fun k hik hkj => ?_⟩
  by_cases hkl : k < l
  · exact holdsAt_of_scheme hs hscheme hik hkl
  · exact hrun.2 k (by omega) hkj

/-- A bare address has no fence in it. -/
lemma bare_spans {i j : Nat} (h : bare.Spans text i j) :
    (∃ k, scheme.Spans text i k ∧ k < j) ∧ ∀ k, i ≤ k → k < j → (CharSet.compl fence).HoldsAt text k :=
  spans_scheme_run (by decide) h

lemma scheme_lt {i j : Nat} (h : scheme.Spans text i j) : i < j := by
  obtain ⟨t, ht, -, rfl⟩ := spans_scheme.mp h
  have hpos : ∀ t ∈ schemes, 0 < t.length := by decide
  have := hpos t ht
  omega

lemma bare_lt {i j : Nat} (h : bare.Spans text i j) : i < j := by
  obtain ⟨⟨k, hk, hkj⟩, -⟩ := bare_spans h
  have := scheme_lt hk
  omega

lemma spans_bare {t : String} (ht : t ∈ schemes) {i j : Nat} (hbegin : t.toList <+: text.drop i)
    (hlt : i + t.length < j)
    (hrun : ∀ k, i + t.length ≤ k → k < j → (CharSet.compl fence).HoldsAt text k) :
    bare.Spans text i j := by
  have hscheme : scheme.Spans text i (i + t.length) := spans_scheme.mpr ⟨t, ht, hbegin, rfl⟩
  exact spans_seq.mpr ⟨i + t.length, hscheme, spans_oneOrMore_char.mpr ⟨hlt, hrun⟩⟩

/-- The mention stands between two characters of a set, and its own characters are in another. -/
structure Enclosed (code : Array Char) (border inner : CharSet) (d : Mention) : Prop where
  start_pos : 0 < d.start
  before : border.HoldsAt code.toList (d.start - 1)
  start_lt : d.start < d.stop
  inside : ∀ k, d.start ≤ k → k < d.stop → inner.HoldsAt code.toList k
  behind : border.HoldsAt code.toList d.stop
  url_eq : d = ofRange code d.start d.stop

def quotes : CharSet := .of "\"'"

def ticks : CharSet := .of "\"'`"

def parens : CharSet := .of "()"

/-- Before `i` stands a member of the set, with nothing but white space behind it. -/
def Follows (s : CharSet) (text : List Char) (i : Nat) : Prop :=
  ∃ k, k < i ∧ s.HoldsAt text k ∧ ∀ j, k < j → j < i → CharSet.space.HoldsAt text j

lemma follows_of_spans {r : Pattern} {c : Char} {a : String} (hca : c ∈ a.toList) {i j : Nat}
    (h : (r ++ char (.one c) ++ spaces).Spans text i j) : Follows (.of a) text j := by
  simp only [append_eq_seq, spans_seq, spans_char, spaces, spans_zeroOrMore_char] at h
  obtain ⟨k, ⟨l, -, ⟨d, hd, hdc⟩, rfl⟩, hle, hrun⟩ := h
  refine ⟨l, by omega, ⟨d, hd, ?_⟩, fun m hlm hmj => hrun m (by omega) hmj⟩
  rw [eq_of_beq hdc, CharSet.of, CharSet.contains, List.contains_iff_mem]
  exact hca

lemma mem_of_holdsAt {a : String} {i : Nat} (h : (CharSet.of a).HoldsAt text i) :
    ∃ c ∈ a.toList, text[i]? = some c := by
  obtain ⟨c, hc, hca⟩ := h
  rw [CharSet.of, CharSet.contains, List.contains_iff_mem] at hca
  exact ⟨c, hca, hc⟩

lemma holdsAt_disjoint {a b : String} {i : Nat} (ha : (CharSet.of a).HoldsAt text i)
    (hb : (CharSet.of b).HoldsAt text i) (hab : a.toList.all fun c => !b.toList.contains c) :
    False := by
  obtain ⟨c, hca, hc⟩ := mem_of_holdsAt ha
  obtain ⟨d, hdb, hd⟩ := mem_of_holdsAt hb
  rw [hc, Option.some.injEq] at hd
  have hout := List.all_eq_true.mp hab c hca
  rw [Bool.not_eq_true', List.contains_eq_mem, decide_eq_false_iff_not] at hout
  exact hout (hd ▸ hdb)

lemma Follows.disjoint {a b : String} {i : Nat} (ha : Follows (.of a) text i)
    (hb : Follows (.of b) text i)
    (hspace : (a.toList ++ b.toList).all fun c => !Unicode.isSpace c)
    (hab : a.toList.all fun c => !b.toList.contains c) : False := by
  have hspaceAt {l : Nat} {c : Char} (hc : text[l]? = some c) (hmem : c ∈ a.toList ++ b.toList)
      (h : CharSet.space.HoldsAt text l) : False := by
    obtain ⟨d, hd, hds⟩ := h
    rw [hc, Option.some.injEq] at hd
    have hout := List.all_eq_true.mp hspace c hmem
    rw [hd, Bool.not_eq_true'] at hout
    exact Bool.false_ne_true (hout.symm.trans hds)
  obtain ⟨k, hki, hka, hk⟩ := ha
  obtain ⟨l, hli, hlb, hl⟩ := hb
  rcases Nat.lt_trichotomy k l with hkl | rfl | hlk
  · obtain ⟨c, hcb, hc⟩ := mem_of_holdsAt hlb
    exact hspaceAt hc (List.mem_append_right _ hcb) (hk l hkl hli)
  · exact holdsAt_disjoint hka hlb hab
  · obtain ⟨c, hca, hc⟩ := mem_of_holdsAt hka
    exact hspaceAt hc (List.mem_append_left _ hca) (hl k hlk hki)

lemma mem_marked {r : Pattern} {d : Mention} :
    d ∈ marked r code ↔
      ∃ m ∈ r.matchesIn code.toList, ∃ s e, m.marked = some (s, e) ∧ d = ofRange code s e := by
  simp only [marked, List.mem_filterMap, Option.map_eq_some_iff, Prod.exists]
  refine exists_congr fun m => and_congr_right fun _ => ?_
  exact exists_congr fun s => exists_congr fun e => and_congr_right fun _ => eq_comm

/-- The parts before and behind the mark of a pattern decide what stands around a mention. -/
lemma mem_marked_around {a b c : Pattern} (ha : a.markFree) (hb : b.markFree) (hc : c.markFree)
    {d : Mention} (h : d ∈ marked (a ++ mark b ++ c) code) :
    ∃ i j, a.Spans code.toList i d.start ∧ b.Spans code.toList d.start d.stop ∧
      c.Spans code.toList d.stop j ∧ d = ofRange code d.start d.stop := by
  obtain ⟨m, hm, s, e, hmarked, rfl⟩ := mem_marked.mp h
  obtain ⟨s', e', hmarked', has, hbs, hcs⟩ := mem_matchesIn_around_mark ha hb hc hm
  rw [hmarked, Option.some.injEq, Prod.mk.injEq] at hmarked'
  obtain ⟨rfl, rfl⟩ := hmarked'
  exact ⟨m.start, m.stop, has, hbs, hcs, rfl⟩

lemma enclosed_attributeValue {d : Mention} (h : d ∈ marked attributeValue code) :
    Enclosed code quotes (.compl quotes) d ∧ Follows (.of "=") code.toList (d.start - 1) := by
  rw [attributeValue] at h
  obtain ⟨i, j, ha, hb, hc, hd⟩ := mem_marked_around (by decide) (by decide) (by decide) h
  rw [append_eq_seq, spans_seq] at ha
  obtain ⟨k, hequals, hquote⟩ := ha
  obtain ⟨hquote, hstart⟩ := spans_char.mp hquote
  obtain ⟨hlt, hinside⟩ := spans_oneOrMore_char.mp hb
  have hk : d.start - 1 = k := by omega
  refine ⟨⟨by omega, hk ▸ hquote, hlt, hinside, (spans_char.mp hc).1, hd⟩, ?_⟩
  rw [hk]
  exact follows_of_spans (c := '=') (by decide) hequals

lemma enclosed_labelled {d : Mention} (h : d ∈ marked labelled code) :
    Enclosed code parens (.compl (.one ')' ||| .space)) d ∧
      ∃ k, scheme.Spans code.toList d.start k ∧ k < d.stop := by
  rw [labelled] at h
  obtain ⟨i, j, ha, hb, hc, hd⟩ := mem_marked_around (by decide) (by decide) (by decide) h
  obtain ⟨k, -, hsigns⟩ := spans_seq.mp ha
  have hopen : (seq (char (.one ']')) (char (.one '('))).Spans code.toList k d.start := hsigns
  obtain ⟨l, -, hparen⟩ := spans_seq.mp hopen
  obtain ⟨⟨c, hc₁, hc₂⟩, hstart⟩ := spans_char.mp hparen
  have hclose : (char (.one ')')).Spans code.toList d.stop j := hc
  obtain ⟨⟨e, he₁, he₂⟩, -⟩ := spans_char.mp hclose
  obtain ⟨hscheme, hinside⟩ := spans_scheme_run (by decide) hb
  have hl : d.start - 1 = l := by omega
  refine ⟨⟨by omega, ?_, ?_, hinside, ?_, hd⟩, hscheme⟩
  · rw [hl]
    exact ⟨c, hc₁, by rw [eq_of_beq hc₂]; decide⟩
  · obtain ⟨k, hk, hkd⟩ := hscheme
    have := scheme_lt hk
    omega
  · exact ⟨e, he₁, by rw [eq_of_beq he₂]; decide⟩

lemma enclosed_argument {d : Mention} (h : d ∈ marked argument code) :
    Enclosed code ticks (.compl (ticks ||| .space)) d ∧
      (∃ k, scheme.Spans code.toList d.start k ∧ k < d.stop) ∧
      Follows (.of "(,") code.toList (d.start - 1) := by
  rw [argument] at h
  obtain ⟨i, j, ha, hb, hc, hd⟩ := mem_marked_around (by decide) (by decide) (by decide) h
  rw [append_eq_seq, spans_seq] at ha
  obtain ⟨k, hbefore, hquote⟩ := ha
  obtain ⟨hquote, hstart⟩ := spans_char.mp hquote
  obtain ⟨hscheme, hinside⟩ := spans_scheme_run (by decide) hb
  have hk : d.start - 1 = k := by omega
  refine ⟨⟨by omega, hk ▸ hquote, ?_, hinside, (spans_char.mp hc).1, hd⟩, hscheme, ?_⟩
  · obtain ⟨l, hl, hld⟩ := hscheme
    have := scheme_lt hl
    omega
  · rw [hk]
    rw [append_eq_seq, spans_seq] at hbefore
    obtain ⟨l, hcaller, hmethod⟩ := hbefore
    rcases spans_optional.mp hmethod with hmethod | rfl
    · exact follows_of_spans (c := ',') (by decide) hmethod
    · exact follows_of_spans (c := '(') (by decide) hcaller

/-- All parts of a text that one of the patterns with delimiters marks, also those that are no
absolute address. -/
def betweenDelimiters (code : Array Char) : List Mention :=
  marked attributeValue code ++ marked labelled code ++ marked argument code

lemma delimited_subset {d : Mention} (h : d ∈ delimited code) : d ∈ betweenDelimiters code := by
  simp only [delimited, betweenDelimiters, List.mem_append, List.mem_filter] at h ⊢
  rcases h with (h | h) | h
  · exact .inl (.inl h.1)
  · exact .inl (.inr h)
  · exact .inr h

lemma HoldsAt_mono {s t : CharSet} {i : Nat} (hst : ∀ c, s.contains c → t.contains c)
    (h : s.HoldsAt text i) : t.HoldsAt text i := by
  obtain ⟨c, hc, hs⟩ := h
  exact ⟨c, hc, hst c hs⟩

/-- Around each part between delimiters stand fences. -/
lemma Enclosed.fenced {border inner : CharSet} {d : Mention}
    (hborder : ∀ c, border.contains c → fence.contains c) (h : Enclosed code border inner d) :
    Enclosed code fence .everything d where
  start_pos := h.start_pos
  before := HoldsAt_mono hborder h.before
  start_lt := h.start_lt
  inside k hk hkd := HoldsAt_mono (fun _ _ => rfl) (h.inside k hk hkd)
  behind := HoldsAt_mono hborder h.behind
  url_eq := h.url_eq

lemma fence_contains_of {a : String} (ha : a.toList.all fence.contains) (c : Char)
    (h : (CharSet.of a).contains c) : fence.contains c := by
  rw [CharSet.of, CharSet.contains, List.contains_iff_mem] at h
  exact List.all_eq_true.mp ha c h

lemma fenced_of_mem {d : Mention} (h : d ∈ betweenDelimiters code) :
    Enclosed code fence .everything d := by
  simp only [betweenDelimiters, List.mem_append] at h
  rcases h with (h | h) | h
  · exact (enclosed_attributeValue h).1.fenced (fence_contains_of (by decide))
  · exact (enclosed_labelled h).1.fenced (fence_contains_of (by decide))
  · exact (enclosed_argument h).1.fenced (fence_contains_of (by decide))

lemma marked_pairwise (r : Pattern) (code : Array Char) :
    (marked r code).Pairwise fun d d' => d.stop ≤ d'.start := by
  refine List.pairwise_filterMap.mpr ((matchesIn_pairwise r code.toList).imp_of_mem ?_)
  intro m m' hm hm' hle d hd d' hd'
  obtain ⟨⟨s, e⟩, hse, rfl⟩ := Option.map_eq_some_iff.mp hd
  obtain ⟨⟨s', e'⟩, hse', rfl⟩ := Option.map_eq_some_iff.mp hd'
  have h₁ := marked_of_mem_matchesIn hm hse
  have h₂ := marked_of_mem_matchesIn hm' hse'
  simp only [ofRange]
  omega

lemma marked_pairwise_start_ne {r : Pattern} (h : ∀ d ∈ marked r code, d.start < d.stop) :
    (marked r code).Pairwise fun d d' => d.start ≠ d'.start :=
  (marked_pairwise r code).imp_of_mem fun hd _ hle => by
    have := h _ hd
    omega

/-- No two mentions between delimiters start at the same place: before it stands a quotation mark
or a parenthesis, and before a quotation mark an equals sign or the beginning of an argument. -/
theorem betweenDelimiters_pairwise_start_ne (code : Array Char) :
    (betweenDelimiters code).Pairwise fun d d' => d.start ≠ d'.start := by
  have hlt {r : Pattern} (hr : ∀ d ∈ marked r code, d ∈ betweenDelimiters code) :
      ∀ d ∈ marked r code, d.start < d.stop := fun d hd => (fenced_of_mem (hr d hd)).start_lt
  rw [betweenDelimiters, List.pairwise_append, List.pairwise_append]
  refine ⟨⟨marked_pairwise_start_ne (hlt fun d hd => ?_),
    marked_pairwise_start_ne (hlt fun d hd => ?_), fun d hd d' hd' heq => ?_⟩,
    marked_pairwise_start_ne (hlt fun d hd => ?_), fun d hd d' hd' heq => ?_⟩
  · simp [betweenDelimiters, hd]
  · simp [betweenDelimiters, hd]
  · have h₁ := (enclosed_attributeValue hd).1.before
    have h₂ := (enclosed_labelled hd').1.before
    rw [heq] at h₁
    exact holdsAt_disjoint h₁ h₂ (by decide)
  · simp [betweenDelimiters, hd]
  · have h₂ := enclosed_argument hd'
    rcases List.mem_append.mp hd with hd | hd
    · have h₁ := (enclosed_attributeValue hd).2
      rw [heq] at h₁
      exact h₁.disjoint h₂.2.2 (by decide) (by decide)
    · have h₁ := (enclosed_labelled hd).1.before
      rw [heq] at h₁
      exact holdsAt_disjoint h₁ h₂.1.before (by decide)

lemma mem_undelimited {others : List Mention} {d : Mention} :
    d ∈ undelimited code others ↔ ∃ m ∈ bare.matchesIn code.toList,
      (∀ o ∈ others, ¬(o.start ≤ m.start ∧ m.start < o.stop)) ∧ d = ofRange code m.start m.stop := by
  simp only [undelimited, List.mem_map, List.mem_filter, Bool.not_eq_true', List.any_eq_false,
    Bool.and_eq_true, decide_eq_true_eq]
  constructor
  · rintro ⟨m, ⟨hm, hall⟩, rfl⟩
    exact ⟨m, hm, hall, rfl⟩
  · rintro ⟨m, hm, hall, rfl⟩
    exact ⟨m, ⟨hm, hall⟩, rfl⟩

lemma mem_urls {code : String} {u : String} :
    u ∈ urls code ↔
      (∃ d ∈ delimited code.toList.toArray, d.url = u) ∨
        ∃ d ∈ undelimited code.toList.toArray (delimited code.toList.toArray), d.url = u := by
  simp only [urls, all, List.mem_eraseDups, List.mem_map, List.mem_mergeSort, List.mem_append,
    or_and_right, exists_or]

/-- A bare address goes on up to a fence or the end of the text. -/
lemma bare_stop {m : Match} (hm : m ∈ bare.matchesIn text) :
    ¬(CharSet.compl fence).HoldsAt text m.stop := by
  obtain ⟨h, hh, hmatch, -⟩ := mem_matchesIn hm
  obtain ⟨k, -, l, hl, rfl⟩ := head?_ways_seq hh
  have hstop : m.stop = l.stop := by
    rw [hmatch]
    rfl
  rw [hstop]
  exact head?_oneOrMore_char hl

lemma bare_start_lt {m : Match} (hm : m ∈ bare.matchesIn text) : m.start < m.stop :=
  bare_lt (spans_of_mem_matchesIn hm)

/-- No two mentions start at the same place. -/
theorem found_pairwise_start_ne (code : Array Char) :
    (delimited code ++ undelimited code (delimited code)).Pairwise
      fun d d' => d.start ≠ d'.start := by
  have hsub : (delimited code).Sublist (betweenDelimiters code) :=
    (List.filter_sublist.append (List.Sublist.refl _)).append (List.Sublist.refl _)
  refine List.pairwise_append.mpr
    ⟨(betweenDelimiters_pairwise_start_ne code).sublist hsub, ?_, fun d hd d' hd' heq => ?_⟩
  · have hmatches := (matchesIn_pairwise bare code.toList).imp_of_mem
      (S := fun m m' => m.start ≠ m'.start) fun hm _ hle => by
        have := bare_start_lt hm
        omega
    exact List.pairwise_map.mpr (hmatches.sublist List.filter_sublist)
  · obtain ⟨m, -, hout, rfl⟩ := mem_undelimited.mp hd'
    have hlt := (fenced_of_mem (delimited_subset hd)).start_lt
    have heq' : d.start = m.start := heq
    exact hout d hd ⟨by omega, by omega⟩

/-- A bare address and a part between delimiters lie apart, or the part contains the address. -/
theorem bare_apart_or_inside (code : Array Char) {m : Match} (hm : m ∈ bare.matchesIn code.toList)
    {d : Mention} (hd : d ∈ betweenDelimiters code) :
    (m.stop ≤ d.start ∨ d.stop ≤ m.start) ∨ (d.start ≤ m.start ∧ m.stop ≤ d.stop) := by
  have hfence := fenced_of_mem hd
  obtain ⟨-, hopen⟩ := bare_spans (spans_of_mem_matchesIn hm)
  have hout (k : Nat) (hk : fence.HoldsAt code.toList k) : k < m.start ∨ m.stop ≤ k := by
    by_contra hin
    exact hk.not_compl (hopen k (by omega) (by omega))
  have h₁ := hout _ hfence.before
  have h₂ := hout _ hfence.behind
  have := hfence.start_pos
  have := hfence.start_lt
  have := bare_start_lt hm
  omega

end Checkup.Mention
