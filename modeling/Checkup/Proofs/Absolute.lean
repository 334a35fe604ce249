import Checkup.Proofs.Mentions

/-!
# Absolute addresses

An address that a text mentions starts with a scheme, unless it is the value of an attribute with
white space in front of it: such a value is taken as it stands, although it is tested without the
white space around it.
-/

namespace Checkup.Mention
open Pattern

def StartsWithScheme (url : List Char) : Prop := ∃ t ∈ schemes, t.toList <+: url

lemma isAbsolute_iff (d : Mention) : isAbsolute d ↔ StartsWithScheme (Text.trim d.url.toList) := by
  simp only [isAbsolute, StartsWithScheme, schemes, List.mem_cons, List.not_mem_nil, or_false,
    exists_eq_or_imp, exists_eq_left, Bool.or_eq_true, List.isPrefixOf_iff_prefix]

/-- No scheme starts with white space. -/
lemma StartsWithScheme.head?_not_isSpace {url : List Char} (h : StartsWithScheme url) {c : Char}
    (hc : url.head? = some c) : ¬Unicode.isSpace c := by
  obtain ⟨t, ht, rest, rfl⟩ := h
  have hscheme : ∀ t ∈ schemes, ∃ c, t.toList.head? = some c ∧ ¬Unicode.isSpace c := by
    simp only [schemes, List.forall_mem_cons]
    exact ⟨⟨'h', rfl, by decide⟩, ⟨'h', rfl, by decide⟩, fun t ht => by simp at ht⟩
  obtain ⟨d, hd, hspace⟩ := hscheme t ht
  rw [List.head?_append, hd, Option.some_or, Option.some.injEq] at hc
  exact hc ▸ hspace

lemma dropWhile_of_head?_not {url : List Char} (h : ∀ c, url.head? = some c → ¬Unicode.isSpace c) :
    url.dropWhile Unicode.isSpace = url := by
  cases url with
  | nil => rfl
  | cons c url => exact List.dropWhile_cons_of_neg (h c rfl)

lemma prefix_trim (url : List Char) : Text.trim url <+: url.dropWhile Unicode.isSpace := by
  rw [Text.trim, ← List.reverse_suffix, List.reverse_reverse]
  exact List.dropWhile_suffix _

lemma startsWithScheme_ofRange {code : Array Char} {i j k : Nat}
    (h : scheme.Spans code.toList i k) (hkj : k ≤ j) :
    StartsWithScheme (ofRange code i j).url.toList := by
  obtain ⟨t, ht, hbegin, rfl⟩ := spans_scheme.mp h
  refine ⟨t, ht, ?_⟩
  rw [ofRange_url, List.prefix_take_iff, String.length_toList]
  exact ⟨hbegin, by omega⟩

variable {code : Array Char}

/-- Only the values of attributes can start otherwise. -/
lemma startsWithScheme_of_mem {d : Mention}
    (h : d ∈ marked labelled code ∨ d ∈ marked argument code ∨
      d ∈ undelimited code (delimited code)) : StartsWithScheme d.url.toList := by
  rcases h with h | h | h
  · obtain ⟨henclosed, k, hk, hkd⟩ := enclosed_labelled h
    rw [henclosed.url_eq]
    exact startsWithScheme_ofRange hk (Nat.le_of_lt hkd)
  · obtain ⟨henclosed, ⟨k, hk, hkd⟩, -⟩ := enclosed_argument h
    rw [henclosed.url_eq]
    exact startsWithScheme_ofRange hk (Nat.le_of_lt hkd)
  · obtain ⟨m, hm, -, rfl⟩ := mem_undelimited.mp h
    obtain ⟨⟨k, hk, hkm⟩, -⟩ := bare_spans (spans_of_mem_matchesIn hm)
    exact startsWithScheme_ofRange hk (Nat.le_of_lt hkm)

lemma mem_delimited {d : Mention} :
    d ∈ delimited code ↔ (d ∈ marked attributeValue code ∧ isAbsolute d) ∨
      d ∈ marked labelled code ∨ d ∈ marked argument code := by
  simp only [delimited, List.mem_append, List.mem_filter, or_assoc]

lemma mem_urls_iff {code : String} {u : String} :
    u ∈ urls code ↔ ∃ d, d.url = u ∧
      ((d ∈ marked attributeValue code.toList.toArray ∧ isAbsolute d) ∨
        d ∈ marked labelled code.toList.toArray ∨ d ∈ marked argument code.toList.toArray ∨
        d ∈ undelimited code.toList.toArray (delimited code.toList.toArray)) := by
  simp only [mem_urls, mem_delimited]
  constructor
  · rintro (⟨d, hd | hd | hd, hu⟩ | ⟨d, hd, hu⟩)
    · exact ⟨d, hu, .inl hd⟩
    · exact ⟨d, hu, .inr (.inl hd)⟩
    · exact ⟨d, hu, .inr (.inr (.inl hd))⟩
    · exact ⟨d, hu, .inr (.inr (.inr hd))⟩
  · rintro ⟨d, hu, hd | hd | hd | hd⟩
    · exact .inl ⟨d, .inl hd, hu⟩
    · exact .inl ⟨d, .inr (.inl hd), hu⟩
    · exact .inl ⟨d, .inr (.inr hd), hu⟩
    · exact .inr ⟨d, hd, hu⟩

/-- An address starts with a scheme behind the white space at its start. All addresses start with
their schemes exactly if no absolute value of an attribute starts with white space. -/
theorem urls_startsWithScheme_iff (code : String) :
    (∀ u ∈ urls code, StartsWithScheme (u.toList.dropWhile Unicode.isSpace)) ∧
      ((∀ u ∈ urls code, StartsWithScheme u.toList) ↔
        ∀ d ∈ marked attributeValue code.toList.toArray, isAbsolute d →
          ∀ c, d.url.toList.head? = some c → ¬Unicode.isSpace c) := by
  have htrim {d : Mention} (h : isAbsolute d) :
      StartsWithScheme (d.url.toList.dropWhile Unicode.isSpace) := by
    obtain ⟨t, ht, hbegin⟩ := (isAbsolute_iff d).mp h
    exact ⟨t, ht, hbegin.trans (prefix_trim _)⟩
  refine ⟨fun u hu => ?_, fun h d hd habs c hc => ?_, fun h u hu => ?_⟩
  · obtain ⟨d, rfl, hd⟩ := mem_urls_iff.mp hu
    rcases hd with ⟨-, habs⟩ | hd
    · exact htrim habs
    · have hscheme := startsWithScheme_of_mem hd
      rw [dropWhile_of_head?_not fun c => hscheme.head?_not_isSpace]
      exact hscheme
  · have hmem : d.url ∈ urls code := mem_urls_iff.mpr ⟨d, rfl, .inl ⟨hd, habs⟩⟩
    exact (h d.url hmem).head?_not_isSpace hc
  · obtain ⟨d, rfl, hd⟩ := mem_urls_iff.mp hu
    rcases hd with ⟨hd, habs⟩ | hd
    · have hscheme := htrim habs
      rw [dropWhile_of_head?_not (h d hd habs)] at hscheme
      exact hscheme
    · exact startsWithScheme_of_mem hd

/-- A blank in front of the value of an attribute stays in front of the address, so the same address
behind it counts as another one. -/
theorem urls_keep_leading_blank :
    urls "<a href=\" https://a.com\">x</a> https://a.com" = [" https://a.com", "https://a.com"] ∧
      ¬StartsWithScheme " https://a.com".toList := by
  have hdelimited : delimited "<a href=\" https://a.com\">x</a> https://a.com".toList.toArray =
      [⟨9, 23, " https://a.com"⟩] := by decide +kernel
  have hundelimited : undelimited "<a href=\" https://a.com\">x</a> https://a.com".toList.toArray
      [⟨9, 23, " https://a.com"⟩] = [⟨31, 44, "https://a.com"⟩] := by decide +kernel
  refine ⟨?_, fun h => ?_⟩
  · rw [urls, all, hdelimited, hundelimited, List.mergeSort_of_pairwise (by decide)]
    decide
  · exact absurd (h.head?_not_isSpace rfl) (by decide)

end Checkup.Mention
