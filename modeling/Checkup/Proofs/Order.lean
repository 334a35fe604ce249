import Checkup.Proofs.Mentions
import Checkup.Proofs.Sorting
import Mathlib.Data.List.Induction

/-!
# The order of mentions

No two mentions start at the same place, so their starts put them into one order only, in whatever
order they were gathered. The addresses of a text are those of the first mentions: the mentions
before which the same address is not mentioned.
-/

namespace Checkup.Mention

/-- The mentions of a text in the order in which they are gathered. -/
def gathered (code : String) : List Mention :=
  let text := code.toList.toArray
  delimited text ++ undelimited text (delimited text)

/-- The four kinds of mention. The bare ones do not start inside those that were captured. -/
def kinds (code : String) (captured : List Mention) : List (List Mention) :=
  let text := code.toList.toArray
  [(marked attributeValue text).filter isAbsolute, marked labelled text, marked argument text,
    undelimited text captured]

/-- The addresses of mentions, each once, in the order of the starts. -/
def listed (ms : List Mention) : List String :=
  ((ms.mergeSort fun a b => a.start ≤ b.start).map (·.url)).eraseDups

/-- No mention of the same address starts before this one. -/
def IsFirst (ms : List Mention) (d : Mention) : Prop :=
  ∀ e ∈ ms, e.url = d.url → d.start ≤ e.start

instance (ms : List Mention) (d : Mention) : Decidable (IsFirst ms d) :=
  inferInstanceAs (Decidable (∀ e ∈ ms, e.url = d.url → d.start ≤ e.start))

variable {ms found : List Mention} {d e : Mention}

lemma listed_of_perm (h : ms.Pairwise fun a b => a.start ≠ b.start) (hperm : found.Perm ms) :
    listed found = listed ms := by
  have hsorted := List.mergeSort_perm ms fun a b => a.start ≤ b.start
  rw [listed, listed, mergeSort_eq_of_perm (hperm.trans hsorted.symm) (mergeSort_pairwise_lt h)]

/-- A later mention does not take from one before it that it is the first. -/
lemma isFirst_append_singleton_of_mem (hlt : ∀ e ∈ ms, e.start < d.start) (he : e ∈ ms) :
    IsFirst (ms ++ [d]) e ↔ IsFirst ms e := by
  have hed := hlt e he
  simp only [IsFirst, List.forall_mem_append, List.forall_mem_singleton, and_iff_left_iff_imp]
  exact fun _ _ => Nat.le_of_lt hed

lemma isFirst_append_singleton_self (hlt : ∀ e ∈ ms, e.start < d.start) :
    IsFirst (ms ++ [d]) d ↔ d.url ∉ ms.map (·.url) := by
  constructor
  · intro hfirst hmem
    obtain ⟨e, he, hurl⟩ := List.mem_map.mp hmem
    have hle := hfirst e (List.mem_append_left _ he) hurl
    exact Nat.not_le_of_lt (hlt e he) hle
  · intro hnew e he hurl
    rcases List.mem_append.mp he with he | he
    · exact absurd (List.mem_map.mpr ⟨e, he, hurl⟩) hnew
    · rw [List.mem_singleton.mp he]

lemma eraseDups_append_singleton (urls : List String) (url : String) :
    (urls ++ [url]).eraseDups = urls.eraseDups ++ if url ∈ urls then [] else [url] := by
  rw [List.eraseDups_append]
  by_cases h : url ∈ urls <;> simp [List.removeAll, List.eraseDups_cons, h]

/-- Of mentions in the order of their starts, the first ones are those whose addresses are kept. -/
lemma eraseDups_map_url (h : ms.Pairwise fun a b => a.start < b.start) :
    (ms.map (·.url)).eraseDups = (ms.filter (IsFirst ms ·)).map (·.url) := by
  induction ms using List.reverseRecOn with
  | nil => rfl
  | append_singleton ms d ih =>
    obtain ⟨hms, -, hlt⟩ := List.pairwise_append.mp h
    have hbefore : ∀ e ∈ ms, e.start < d.start := fun e he => hlt e he d List.mem_cons_self
    have hkept : ms.filter (IsFirst (ms ++ [d]) ·) = ms.filter (IsFirst ms ·) :=
      List.filter_congr fun e he =>
        decide_eq_decide.mpr (isFirst_append_singleton_of_mem hbefore he)
    rw [List.map_append, List.map_singleton, eraseDups_append_singleton, ih hms,
      List.filter_append, hkept, List.map_append]
    congr 1
    by_cases hnew : d.url ∈ ms.map (·.url)
    · have hnot : ¬IsFirst (ms ++ [d]) d := fun hfirst =>
        (isFirst_append_singleton_self hbefore).mp hfirst hnew
      rw [if_pos hnew]
      simp [hnot]
    · have hfirst := (isFirst_append_singleton_self hbefore).mpr hnew
      rw [if_neg hnew]
      simp [hfirst]

/-- First mentions that start at different places have different addresses. -/
lemma url_ne_of_isFirst (hd : d ∈ ms) (hfirst : IsFirst ms e) (hlt : d.start < e.start) :
    d.url ≠ e.url := fun hurl => Nat.not_le_of_lt hlt (hfirst d hd hurl)

/-- Of two first mentions the one that starts earlier has the earlier address. -/
lemma idxOf_url_lt_iff (h : ms.Pairwise fun a b => a.start < b.start)
    (hnodup : (ms.map (·.url)).Nodup) (hd : d ∈ ms) (he : e ∈ ms) :
    (ms.map (·.url)).idxOf d.url < (ms.map (·.url)).idxOf e.url ↔ d.start < e.start := by
  obtain ⟨i, hi, rfl⟩ := List.getElem_of_mem hd
  obtain ⟨j, hj, rfl⟩ := List.getElem_of_mem he
  have hidx (k : Nat) (hk : k < ms.length) : (ms.map (·.url)).idxOf ms[k].url = k := by
    have hget := hnodup.idxOf_getElem k (by rwa [List.length_map])
    rwa [List.getElem_map] at hget
  have hlt (k l : Nat) (hk : k < ms.length) (hl : l < ms.length) (hkl : k < l) :
      ms[k].start < ms[l].start := List.pairwise_iff_getElem.mp h k l hk hl hkl
  rw [hidx i hi, hidx j hj]
  constructor
  · exact hlt i j hi hj
  · intro hstart
    rcases Nat.lt_trichotomy i j with hij | rfl | hji
    · exact hij
    · omega
    · have := hlt j i hj hi hji
      omega

/-- The captured mentions decide where no bare mention starts, in whatever order they are. -/
lemma undelimited_of_perm {code : Array Char} {captured captured' : List Mention}
    (hperm : captured.Perm captured') : undelimited code captured = undelimited code captured' := by
  rw [undelimited, undelimited]
  congr 1
  exact List.filter_congr fun m _ => by rw [hperm.any_eq]

lemma kinds_of_perm {code : String} {captured : List Mention}
    (hperm : captured.Perm (delimited code.toList.toArray)) :
    (kinds code captured).flatten = gathered code := by
  simp only [kinds, undelimited_of_perm hperm, gathered, delimited, List.flatten_cons,
    List.flatten_nil, List.append_nil, List.append_assoc]

lemma gathered_pairwise_start_ne (code : String) :
    (gathered code).Pairwise fun d e => d.start ≠ e.start :=
  found_pairwise_start_ne code.toList.toArray

/-- The addresses of a text are those of its first mentions, in the order of their starts. -/
lemma exists_firsts (code : String) :
    ∃ firsts : List Mention, urls code = firsts.map (·.url) ∧
      firsts.Pairwise (fun d e => d.start < e.start) ∧
      ∀ d, d ∈ firsts ↔ d ∈ gathered code ∧ IsFirst (gathered code) d := by
  have hlt : (all code.toList.toArray).Pairwise fun d e => d.start < e.start :=
    mergeSort_pairwise_lt (gathered_pairwise_start_ne code)
  have hmem (d : Mention) : d ∈ all code.toList.toArray ↔ d ∈ gathered code := List.mem_mergeSort
  refine ⟨_, eraseDups_map_url hlt, hlt.sublist List.filter_sublist, fun d => ?_⟩
  simp only [List.mem_filter, decide_eq_true_eq, IsFirst, hmem]

lemma urls_nodup (code : String) : (urls code).Nodup := by
  obtain ⟨firsts, hurls, hlt, hmem⟩ := exists_firsts code
  rw [hurls]
  refine List.pairwise_map.mpr (hlt.imp_of_mem fun hd he hde => ?_)
  exact url_ne_of_isFirst ((hmem _).mp hd).1 ((hmem _).mp he).2 hde

/-- The addresses of a text are pairwise different and come in the order of their first mentions.
No two mentions start at the same place, so it does not matter in which order the kinds of mention
are gathered. -/
theorem urls_first_mentions (code : String) :
    (urls code).Nodup ∧
      (gathered code).Pairwise (fun d e => d.start ≠ e.start) ∧
      (∃ firsts : List Mention, urls code = firsts.map (·.url) ∧
        firsts.Pairwise (fun d e => d.start < e.start) ∧
        ∀ d, d ∈ firsts ↔ d ∈ gathered code ∧ IsFirst (gathered code) d) ∧
      (∀ d ∈ gathered code, ∀ e ∈ gathered code, IsFirst (gathered code) d →
        IsFirst (gathered code) e →
        ((urls code).idxOf d.url < (urls code).idxOf e.url ↔ d.start < e.start)) ∧
      ∀ captured : List Mention, captured.Perm (delimited code.toList.toArray) →
        ∀ order : List (List Mention), order.Perm (kinds code captured) →
          listed order.flatten = urls code := by
  obtain ⟨firsts, hurls, hlt, hmem⟩ := exists_firsts code
  have hnodup := urls_nodup code
  refine ⟨hnodup, gathered_pairwise_start_ne code, ⟨firsts, hurls, hlt, hmem⟩, ?_, ?_⟩
  · intro d hd e he hdfirst hefirst
    rw [hurls] at hnodup ⊢
    exact idxOf_url_lt_iff hlt hnodup ((hmem d).mpr ⟨hd, hdfirst⟩) ((hmem e).mpr ⟨he, hefirst⟩)
  · intro captured hcaptured order horder
    have hperm : order.flatten.Perm (gathered code) := by
      rw [← kinds_of_perm hcaptured]
      exact horder.flatten
    exact listed_of_perm (gathered_pairwise_start_ne code) hperm

theorem urls_first_mentions_repeated :
    (⟨7, 20, "https://b.com"⟩ ∈ gathered "fetch(\"https://b.com\") https://a.com https://b.com" ∧
      ⟨23, 36, "https://a.com"⟩ ∈ gathered "fetch(\"https://b.com\") https://a.com https://b.com") ∧
    ((urls "fetch(\"https://b.com\") https://a.com https://b.com").idxOf "https://b.com" <
      (urls "fetch(\"https://b.com\") https://a.com https://b.com").idxOf "https://a.com" ↔ 7 < 23) ∧
    listed (kinds "fetch(\"https://b.com\") https://a.com https://b.com"
        [⟨7, 20, "https://b.com"⟩]).reverse.flatten =
      urls "fetch(\"https://b.com\") https://a.com https://b.com" := by
  have hdelimited : delimited "fetch(\"https://b.com\") https://a.com https://b.com".toList.toArray =
      [⟨7, 20, "https://b.com"⟩] := by decide +kernel
  have hgathered : gathered "fetch(\"https://b.com\") https://a.com https://b.com" =
      [⟨7, 20, "https://b.com"⟩, ⟨23, 36, "https://a.com"⟩, ⟨37, 50, "https://b.com"⟩] := by
    decide +kernel
  obtain ⟨-, -, -, horder, hkinds⟩ :=
    urls_first_mentions "fetch(\"https://b.com\") https://a.com https://b.com"
  rw [hgathered] at horder ⊢
  refine ⟨by decide, horder ⟨7, 20, "https://b.com"⟩ (by decide) ⟨23, 36, "https://a.com"⟩ (by decide)
    (by decide) (by decide), hkinds _ ?_ _ (List.reverse_perm _)⟩
  rw [hdelimited]

end Checkup.Mention
