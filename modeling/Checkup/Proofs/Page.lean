import Checkup.Proofs.Layout
import Mathlib.Data.List.Induction

/-!
# Pages of addresses

A page has a line for each of its addresses, written as the value of an attribute, the target of a
link, the argument of a call or by itself. From a page the addresses come back, whatever the lines
around them look like.
-/

namespace Checkup.Mention

/-- The ways in which a line has its address. -/
inductive Surface
  | element
  | link
  | call
  | plain
deriving DecidableEq, Repr

namespace Surface

/-- The line up to the address. -/
def opening : Surface → String
  | element => "<a href=\""
  | link => "[x]("
  | call => "fetch(\""
  | plain => " "

/-- The line behind the address. -/
def closing : Surface → String
  | element => "\">x</a>"
  | link => ")"
  | call => "\")"
  | plain => " "

def render (s : Surface) (url : String) : String := s.opening ++ url ++ s.closing

lemma bordered (s : Surface) : ∃ b ∈ borders, s.opening.toList.getLast? = some b.1 ∧
    ∃ rest, s.closing.toList = b.2 :: rest := by
  cases s
  · exact ⟨('"', '"'), by decide, rfl, _, rfl⟩
  · exact ⟨('(', ')'), by decide, rfl, _, rfl⟩
  · exact ⟨('"', '"'), by decide, rfl, _, rfl⟩
  · exact ⟨(' ', ' '), by decide, rfl, _, rfl⟩

lemma opening_calm (s : Surface) : ('\n' :: s.opening.toList).IsChain fun c d => calm c d := by
  cases s <;> decide

lemma closing_calm (s : Surface) : s.closing.toList.IsChain fun c d => calm c d := by
  cases s <;> decide

lemma closing_getLast? (s : Surface) :
    ∃ c, s.closing.toList.getLast? = some c ∧ ¬quotes.contains c := by
  cases s
  · exact ⟨'>', rfl, by decide⟩
  · exact ⟨')', rfl, by decide⟩
  · exact ⟨')', rfl, by decide⟩
  · exact ⟨' ', rfl, by decide⟩

end Surface

/-- The lines, with a line feed between any two. -/
def page (lines : List (String × Surface)) : String :=
  "\n".intercalate (lines.map fun p => p.2.render p.1)

variable {text : List Char} {ms : List Mention} {m : Mention}

lemma PlacedIn.append (h : PlacedIn text m) (more : List Char) : PlacedIn (text ++ more) m := by
  obtain ⟨before, behind, b, hb, htext, hstart, hstop⟩ := h
  refine ⟨before, behind ++ more, b, hb, ?_, hstart, hstop⟩
  rw [htext]
  simp only [List.append_assoc, List.cons_append]

/-- Two characters in a row stand in the first part, at the seam or in the second part. -/
lemma getElem?_append_pair {as bs : List Char} {i : Nat} {c d : Char}
    (hc : (as ++ bs)[i]? = some c) (hd : (as ++ bs)[i + 1]? = some d) :
    (as[i]? = some c ∧ as[i + 1]? = some d) ∨ (as.getLast? = some c ∧ bs.head? = some d) ∨
      (as.length ≤ i ∧ bs[i - as.length]? = some c ∧ bs[i - as.length + 1]? = some d) := by
  rcases Nat.lt_trichotomy (i + 1) as.length with hlt | heq | hgt
  · rw [List.getElem?_append_left (by omega)] at hc
    rw [List.getElem?_append_left hlt] at hd
    exact .inl ⟨hc, hd⟩
  · have hi : i = as.length - 1 := by omega
    rw [List.getElem?_append_left (by omega), hi, ← List.getLast?_eq_getElem?] at hc
    rw [heq, List.getElem?_append_right (Nat.le_refl _), Nat.sub_self, ← List.head?_eq_getElem?] at hd
    exact .inr (.inl ⟨hc, hd⟩)
  · have hnext : i + 1 - as.length = i - as.length + 1 := by omega
    rw [List.getElem?_append_right (by omega)] at hc
    rw [List.getElem?_append_right (by omega), hnext] at hd
    exact .inr (.inr ⟨by omega, hc, hd⟩)

namespace Layout

lemma nil : Layout [] [] where
  clean := by simp
  placed := by simp
  apart := List.Pairwise.nil
  calm_outside := by simp

lemma append_calm (hl : Layout text ms) {more : List Char} (hmore : more.IsChain fun c d => calm c d)
    (hjoin : ∀ c, text.getLast? = some c → ∀ d, more.head? = some d → calm c d) :
    Layout (text ++ more) ms where
  clean := hl.clean
  placed := fun m hm => (hl.placed m hm).append more
  apart := hl.apart
  calm_outside := by
    intro i c d hc hd hcalm
    rcases getElem?_append_pair hc hd with ⟨hc, hd⟩ | ⟨hc, hd⟩ | ⟨hle, hc, hd⟩
    · exact hl.calm_outside i c d hc hd hcalm
    · exact absurd (hjoin c hc d hd) hcalm
    · obtain ⟨hlt, hget⟩ := List.getElem?_eq_some_iff.mp hd
      obtain ⟨hlt', hget'⟩ := List.getElem?_eq_some_iff.mp hc
      have hchain := List.isChain_iff_getElem.mp hmore (i - text.length) hlt
      rw [hget, hget'] at hchain
      exact absurd hchain hcalm

lemma append_address (hl : Layout text ms) {url : String} (hurl : IsClean url) {b : Char × Char}
    (hb : b ∈ borders) (hlast : text.getLast? = some b.1) :
    Layout (text ++ (url.toList ++ [b.2]))
      (ms ++ [⟨text.length, text.length + url.length, url⟩]) where
  clean := by
    intro m hm
    rcases List.mem_append.mp hm with hm | hm
    · exact hl.clean m hm
    · rw [List.mem_singleton.mp hm]
      exact hurl
  placed := by
    intro m hm
    rcases List.mem_append.mp hm with hm | hm
    · exact (hl.placed m hm).append _
    · rw [List.mem_singleton.mp hm]
      have htext : text = text.dropLast ++ [b.1] := (List.dropLast_append_getLast? b.1 hlast).symm
      have hlen : text.length = text.dropLast.length + 1 := by
        conv_lhs => rw [htext]
        exact List.length_append
      refine ⟨text.dropLast, [], b, hb, ?_, hlen, rfl⟩
      conv_lhs => rw [htext]
      rw [List.append_assoc, List.singleton_append]
  apart := by
    rw [List.pairwise_append]
    refine ⟨hl.apart, List.pairwise_singleton _ _, ?_⟩
    intro m hm m' hm'
    rw [List.mem_singleton.mp hm']
    exact Nat.le_of_lt (hl.placed m hm).stop_lt
  calm_outside := by
    intro i c d hc hd hcalm
    rcases getElem?_append_pair hc hd with ⟨hc, hd⟩ | ⟨hc, hd⟩ | ⟨hle, hc, hd⟩
    · obtain ⟨m, hm, hrange⟩ := hl.calm_outside i c d hc hd hcalm
      exact ⟨m, List.mem_append_left _ hm, hrange⟩
    · have hborder : ∀ b ∈ borders, calm b.1 'h' := by decide
      obtain ⟨rest, hrest⟩ := hurl.toList_eq_cons
      rw [hlast, Option.some.injEq] at hc
      rw [hrest, List.cons_append, List.head?_cons, Option.some.injEq] at hd
      rw [← hc, ← hd] at hcalm
      exact absurd (hborder b hb) hcalm
    · obtain ⟨hlen, -⟩ := List.getElem?_eq_some_iff.mp hd
      rw [List.length_append, String.length_toList, List.length_singleton] at hlen
      have hlt : i < text.length + url.length := by omega
      exact ⟨_, List.mem_append_right _ (List.mem_singleton_self _), hle, hlt⟩

/-- Behind the opening of a line its address and its closing can follow. -/
lemma append_line (hl : Layout text ms) {url : String} (hurl : IsClean url) (s : Surface)
    (hlast : text.getLast? = s.opening.toList.getLast?) :
    Layout (text ++ (url.toList ++ s.closing.toList))
      (ms ++ [⟨text.length, text.length + url.length, url⟩]) := by
  obtain ⟨b, hb, hopening, rest, hclosing⟩ := s.bordered
  have hfilled := hl.append_address hurl hb (hlast.trans hopening)
  have hclosed := s.closing_calm
  rw [hclosing, List.isChain_cons] at hclosed
  obtain ⟨hfirst, hrest⟩ := hclosed
  have hdone := hfilled.append_calm hrest fun c hc d hd => by
    rw [← List.append_assoc, List.getLast?_concat, Option.some.injEq] at hc
    rw [← hc]
    exact hfirst d hd
  have hsplit : url.toList ++ s.closing.toList = url.toList ++ [b.2] ++ rest := by
    rw [hclosing, List.append_assoc, List.singleton_append]
  rw [hsplit, ← List.append_assoc]
  exact hdone

end Layout

lemma page_append_singleton (lines : List (String × Surface)) (url : String) (s : Surface) :
    ∃ gap, (gap = s.opening.toList ∧ lines = [] ∨ gap = '\n' :: s.opening.toList) ∧
      (page (lines ++ [(url, s)])).toList =
        (page lines).toList ++ gap ++ (url.toList ++ s.closing.toList) := by
  by_cases hnil : lines = []
  · refine ⟨s.opening.toList, .inl ⟨rfl, hnil⟩, ?_⟩
    rw [hnil]
    simp [page, Surface.render]
  · refine ⟨'\n' :: s.opening.toList, .inr rfl, ?_⟩
    have hmap : lines.map (fun p => p.2.render p.1) ≠ [] := by simpa using hnil
    rw [page, List.map_append, String.intercalate_append_of_ne_nil hmap (by simp)]
    simp [page, Surface.render]

/-- The addresses are laid out in their page. -/
theorem exists_layout (lines : List (String × Surface)) (h : ∀ p ∈ lines, IsClean p.1) :
    ∃ ms, Layout (page lines).toList ms ∧ ms.map (·.url) = lines.map Prod.fst ∧
      ∀ c, (page lines).toList.getLast? = some c → ¬quotes.contains c := by
  -- A line is added at the end, which leaves the places of those before it as they are.
  induction lines using List.reverseRecOn with
  | nil => exact ⟨[], Layout.nil, rfl, by simp [page]⟩
  | append_singleton lines p ih =>
    obtain ⟨url, s⟩ := p
    obtain ⟨ms, hl, hurls, hend⟩ := ih fun p hp => h p (List.mem_append_left _ hp)
    have hurl : IsClean url := h (url, s) (by simp)
    obtain ⟨gap, hgap, htext⟩ := page_append_singleton lines url s
    have hcalm := s.opening_calm
    have hlast : ((page lines).toList ++ gap).getLast? = s.opening.toList.getLast? := by
      obtain ⟨b, -, hopening, -⟩ := s.bordered
      rcases hgap with ⟨rfl, -⟩ | rfl
      · rw [List.getLast?_append, hopening, Option.some_or]
      · rw [List.getLast?_append, List.getLast?_cons, hopening]
        rfl
    have hopened : Layout ((page lines).toList ++ gap) ms := by
      rcases hgap with ⟨rfl, rfl⟩ | rfl
      · exact hl.append_calm hcalm.tail (by simp [page])
      · refine hl.append_calm hcalm fun c hc d hd => ?_
        have hquote := hend c hc
        obtain rfl : '\n' = d := by simpa using hd
        simp [calm, hquote]
    refine ⟨_, htext ▸ hopened.append_line hurl s hlast, ?_, ?_⟩
    · rw [List.map_append, List.map_append, hurls]
      rfl
    · intro c hc
      obtain ⟨c', hc', hquote⟩ := s.closing_getLast?
      rw [htext, List.getLast?_append, List.getLast?_append, hc', Option.some_or, Option.some_or,
        Option.some.injEq] at hc
      exact hc ▸ hquote

/-- The addresses of a page are found again, each once and in their order. -/
theorem urls_page (lines : List (String × Surface)) (h : ∀ p ∈ lines, IsClean p.1) :
    urls (page lines) = (lines.map Prod.fst).eraseDups := by
  obtain ⟨ms, hl, hurls, -⟩ := exists_layout lines h
  rw [urls, hl.all_eq, hurls]

theorem urls_page_paired :
    (∀ p ∈ [("https://a.com/href=", Surface.plain), ("https://b.com/[http://c.com", .link),
      ("https://a.com/href=", .element)], IsClean p.1) ∧
    urls (page [("https://a.com/href=", .plain), ("https://b.com/[http://c.com", .link),
      ("https://a.com/href=", .element)]) = ["https://a.com/href=", "https://b.com/[http://c.com"] := by
  have hopen {rest : String} (h : rest.toList.all fun c => !fence.contains c) :
      ∀ c ∈ rest.toList, ¬fence.contains c := by
    intro c hc
    simpa using List.all_eq_true.mp h c hc
  have ha : IsClean "https://a.com/href=" :=
    ⟨"https://", by decide, "a.com/href=".toList, by decide, rfl, hopen (by decide)⟩
  have hb : IsClean "https://b.com/[http://c.com" :=
    ⟨"https://", by decide, "b.com/[http://c.com".toList, by decide, rfl, hopen (by decide)⟩
  have hclean : ∀ p ∈ [("https://a.com/href=", Surface.plain), ("https://b.com/[http://c.com", .link),
      ("https://a.com/href=", .element)], IsClean p.1 := by
    simp only [List.forall_mem_cons]
    exact ⟨ha, hb, ha, fun p hp => by simp at hp⟩
  exact ⟨hclean, (urls_page _ hclean).trans (by decide)⟩

end Checkup.Mention
