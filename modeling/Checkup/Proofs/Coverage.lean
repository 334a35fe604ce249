import Checkup.Proofs.Mentions

/-!
# No address is lost

Every place of a text at which an address stands lies in the range of an address that the text
mentions. A bare address is left out only if it lies in a part between delimiters, which then has
all of it.
-/

namespace Checkup.Mention
open Pattern

variable {text : List Char}

/-- A scheme stands at `p`, and a character of an address behind it. -/
def AddressAt (text : List Char) (p : Nat) : Prop :=
  ∃ t ∈ schemes, t.toList <+: text.drop p ∧ ∃ c, text[p + t.length]? = some c ∧ ¬fence.contains c

def part (text : List Char) (i j : Nat) : List Char := (text.drop i).take (j - i)

/-- Where an address stands, a bare address is found or has been found before. -/
lemma AddressAt.exists_bare {p : Nat} (h : AddressAt text p) :
    ∃ m ∈ bare.matchesIn text, m.start ≤ p ∧ p < m.stop := by
  obtain ⟨t, ht, hbegin, c, hc, hfence⟩ := h
  have hlt : p + t.length < text.length := (List.getElem?_eq_some_iff.mp hc).1
  have hspans : bare.Spans text p (p + t.length + 1) := by
    apply spans_bare ht hbegin (by omega)
    intro k hk hkt
    obtain rfl : k = p + t.length := by omega
    exact CharSet.holdsAt_compl hc hfence
  exact hspans.exists_mem_matchesIn (by omega) fun hempty => Nat.lt_irrefl p (bare_lt hempty)

lemma exists_mem_urls_of_bare {code : String} {m : Match} (hm : m ∈ bare.matchesIn code.toList) :
    ∃ u ∈ urls code, ∃ i j, i ≤ m.start ∧ m.stop ≤ j ∧ j ≤ code.length ∧
      u.toList = part code.toList i j := by
  by_cases hin : ∃ d ∈ delimited code.toList.toArray, d.start ≤ m.start ∧ m.start < d.stop
  · obtain ⟨d, hd, hstart, hstop⟩ := hin
    have hfence := fenced_of_mem (delimited_subset hd)
    have hinside := bare_apart_or_inside code.toList.toArray hm (delimited_subset hd)
    have hlt := bare_start_lt hm
    have hlen : d.stop < code.toList.length := hfence.behind.lt
    rw [String.length_toList] at hlen
    refine ⟨d.url, mem_urls.mpr (.inl ⟨d, hd, rfl⟩), d.start, d.stop, hstart, by omega, by omega, ?_⟩
    rw [hfence.url_eq]
    exact ofRange_url _ _ _
  · have hmem : ofRange code.toList.toArray m.start m.stop ∈
        undelimited code.toList.toArray (delimited code.toList.toArray) :=
      mem_undelimited.mpr ⟨m, hm, fun d hd hdm => hin ⟨d, hd, hdm⟩, rfl⟩
    obtain ⟨-, -, -, -, hlen⟩ := mem_matchesIn hm
    rw [String.length_toList] at hlen
    exact ⟨_, mem_urls.mpr (.inr ⟨_, hmem, rfl⟩), m.start, m.stop, Nat.le_refl _, Nat.le_refl _,
      hlen, ofRange_url _ _ _⟩

/-- A part inside another is an infix of it, and a prefix if both start at the same place. -/
lemma infix_part {i j i' j' : Nat} (hi : i ≤ i') (hj : j' ≤ j) :
    part text i' j' <:+: part text i j ∧ (i = i' → part text i' j' <+: part text i j) := by
  have hbegin (k : Nat) (hjk : j' ≤ k) : part text i' j' <+: part text i' k := by
    rw [part, part]
    exact List.take_prefix_take_left (by omega)
  refine ⟨?_, ?_⟩
  · have hdrop : part text i' j = (part text i j).drop (i' - i) := by
      have hstart : i + (i' - i) = i' := by omega
      have hlen : j - i - (i' - i) = j - i' := by omega
      rw [part, part, List.drop_take, List.drop_drop, hstart, hlen]
    have hsuffix : part text i' j <:+ part text i j := hdrop ▸ List.drop_suffix _ _
    exact (hbegin j hj).isInfix.trans hsuffix.isInfix
  · rintro rfl
    exact hbegin j hj

/-- Every address that stands in a text is covered by one that the text mentions, and a bare address
that starts inside a part between delimiters is a piece of that part. -/
theorem urls_cover (code : String) :
    (∀ p, AddressAt code.toList p → ∃ u ∈ urls code, ∃ i j, i ≤ p ∧ p < j ∧ j ≤ code.length ∧
        u.toList = part code.toList i j) ∧
      ∀ m ∈ bare.matchesIn code.toList, ∀ d ∈ betweenDelimiters code.toList.toArray,
        ((m.stop ≤ d.start ∨ d.stop ≤ m.start) ∨ (d.start ≤ m.start ∧ m.stop ≤ d.stop)) ∧
        (d.start = m.start → part code.toList m.start m.stop <+: d.url.toList) ∧
        (d.start ≤ m.start → m.start < d.stop →
          part code.toList m.start m.stop <:+: d.url.toList) := by
  refine ⟨fun p hp => ?_, fun m hm d hd => ?_⟩
  · obtain ⟨m, hm, hstart, hstop⟩ := hp.exists_bare
    obtain ⟨u, hu, i, j, hi, hj, hlen, htext⟩ := exists_mem_urls_of_bare hm
    exact ⟨u, hu, i, j, by omega, by omega, hlen, htext⟩
  · have hcases := bare_apart_or_inside code.toList.toArray hm hd
    have hfence := fenced_of_mem hd
    have hdm := bare_start_lt hm
    have hurl : d.url.toList = part code.toList d.start d.stop := by
      rw [hfence.url_eq]
      exact ofRange_url _ _ _
    refine ⟨hcases, fun heq => ?_, fun hle hlt => ?_⟩
    · have := hfence.start_lt
      rw [hurl]
      exact (infix_part (by omega) (by omega)).2 heq
    · rw [hurl]
      exact (infix_part hle (by omega)).1

theorem urls_cover_nested :
    AddressAt "fetch(\"https://a.com/(x)\") https://b.com".toList 7 ∧
      ∃ u ∈ urls "fetch(\"https://a.com/(x)\") https://b.com", ∃ i j, i ≤ 7 ∧ 7 < j ∧
        j ≤ "fetch(\"https://a.com/(x)\") https://b.com".length ∧
        u.toList = part "fetch(\"https://a.com/(x)\") https://b.com".toList i j := by
  have haddress : AddressAt "fetch(\"https://a.com/(x)\") https://b.com".toList 7 :=
    ⟨"https://", by decide, by decide, 'a', rfl, by decide⟩
  exact ⟨haddress, (urls_cover _).1 7 haddress⟩

end Checkup.Mention
