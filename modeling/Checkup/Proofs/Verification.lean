import Checkup.Link.Probe
import Mathlib.Data.List.Basic
import Mathlib.Tactic.Lemma
import Mathlib.Tactic.SplitIfs

/-!
# Verification of links

Links are verified in batches, but each result is that of a single probe of its link. A probe
depends on the answers to the addresses of its own trail only, so what becomes of the other links
does not change it.
-/

namespace Checkup

/-- The reasons that a result can give. -/
def Failure.reasons : List String :=
  ["timeout", "invalid_url", "dns_error", "connection_refused", "connection_failed", "ssl_error",
    "too_many_redirects", "request_failed"]

lemma Failure.reason_mem_reasons (failure : Failure) : failure.reason ∈ reasons := by
  cases failure <;> decide

lemma Failure.reason_eq_invalidUrl_iff {failure : Failure} :
    failure.reason = "invalid_url" ↔ failure = invalidUrl := by
  cases failure <;> decide

/-- Either a status or a reason is there, and the link works if the status is below 400. -/
structure LinkResult.WellFormed (result : LinkResult) : Prop where
  status_iff : result.status.isSome ↔ result.error = none
  ok_iff : result.ok ↔ ∃ status, result.status = some status ∧ status < 400
  error_mem : ∀ reason, result.error = some reason → reason ∈ Failure.reasons

lemma LinkResult.wellFormed_response (url : String) (status : Nat) :
    (response url status).WellFormed where
  status_iff := by simp [response]
  ok_iff := by simp [response]
  error_mem := by simp [response]

lemma LinkResult.wellFormed_failure (url : String) (failure : Failure) :
    (LinkResult.failure url failure).WellFormed where
  status_iff := by simp [LinkResult.failure]
  ok_iff := by simp [LinkResult.failure]
  error_mem reason h := by
    obtain rfl : failure.reason = reason := by simpa [LinkResult.failure] using h
    exact failure.reason_mem_reasons

/-- The text is an absolute web address with a host. -/
def IsProbeable (url : String) : Prop :=
  ∃ u, Url.read url = some u ∧ u.scheme ∈ ["http", "https"] ∧ u.host.isSome

lemma Url.isWeb_iff (u : Url) : u.isWeb ↔ u.scheme ∈ ["http", "https"] ∧ u.host.isSome := by
  simp [isWeb]

lemma isProbeable_iff {url : String} : IsProbeable url ↔ (Url.read url).filter Url.isWeb ≠ none := by
  simp only [IsProbeable, ← Url.isWeb_iff, ne_eq, Option.filter_eq_none_iff, not_forall, not_not,
    exists_prop]

/-- What an answer leads to: a verdict, or the next address and the time that is left for it. -/
inductive Turn
  | verdict (verdict : Verdict)
  | onward (next : Url) (timeLeft : Nat)
deriving DecidableEq, Repr

namespace Network

variable {network network' : Network} {hops timeLeft : Nat} {u : Url} {config : Config}
  {url : String}

/-- What the answer to the address leads to within the time. -/
def turn (network : Network) (timeLeft : Nat) (u : Url) : Turn :=
  let answer := network.answer u
  if timeLeft ≤ answer.delay then .verdict (.failure .timeout)
  else match answer.reply with
    | none => .verdict (.failure .timeout)
    | some (.failure reason) => .verdict (.failure reason)
    | some (.response status location) =>
      match redirection u status location with
      | none => .verdict (.response status)
      | some next => .onward next (timeLeft - answer.delay)

/-- A request takes one turn after the other, as long as it is sent onward and may go. -/
lemma request_eq (network : Network) (hops timeLeft : Nat) (u : Url) :
    network.request hops timeLeft u =
      match network.turn timeLeft u, hops with
      | .verdict verdict, _ => verdict
      | .onward _ _, 0 => .failure .tooManyRedirects
      | .onward next timeLeft, hops + 1 => network.request hops timeLeft next := by
  rw [request.eq_def, turn]
  dsimp only
  split
  · rfl
  · cases hreply : (network.answer u).reply with
    | none => rfl
    | some reply =>
      cases reply with
      | failure reason => rfl
      | response status location =>
        dsimp only
        cases redirection u status location with
        | none => rfl
        | some next => cases hops <;> rfl

/-- The addresses that a request asks for, one after the other. -/
def trail (network : Network) : (hops timeLeft : Nat) → Url → List Url
  | 0, _, u => [u]
  | hops + 1, timeLeft, u =>
    u :: match network.turn timeLeft u with
      | .verdict _ => []
      | .onward next timeLeft => network.trail hops timeLeft next

/-- The addresses that a probe of a link asks for. -/
def probeTrail (network : Network) (config : Config) (url : String) : List Url :=
  match (Url.read url).filter Url.isWeb with
  | none => []
  | some u => network.trail (config.maxRedirects - 1) config.probeTimeout u

lemma mem_trail_self : u ∈ network.trail hops timeLeft u := by
  cases hops <;> simp [trail]

lemma turn_congr (h : network'.answer u = network.answer u) :
    network'.turn timeLeft u = network.turn timeLeft u := by
  rw [turn, turn, h]

/-- Networks that answer alike along the trail of a request give it the same verdict. -/
lemma request_congr (h : ∀ a ∈ network.trail hops timeLeft u, network'.answer a = network.answer a) :
    network'.request hops timeLeft u = network.request hops timeLeft u := by
  induction hops generalizing timeLeft u with
  | zero =>
    rw [request_eq, request_eq network, turn_congr (h u mem_trail_self)]
    cases network.turn timeLeft u <;> rfl
  | succ hops ih =>
    rw [request_eq, request_eq network, turn_congr (h u mem_trail_self)]
    cases hturn : network.turn timeLeft u with
    | verdict verdict => rfl
    | onward next left =>
      refine ih fun a ha => h a ?_
      rw [trail, hturn]
      exact List.mem_cons_of_mem u ha

lemma probe_congr (h : ∀ a ∈ network.probeTrail config url, network'.answer a = network.answer a) :
    network'.probe config url = network.probe config url := by
  rw [probe, probe]
  cases hread : (Url.read url).filter Url.isWeb with
  | none => rfl
  | some u =>
    simp only [probeTrail, hread] at h
    dsimp only
    rw [request_congr h]

lemma turn_ne_invalidUrl (h : ∀ a, (network.answer a).reply ≠ some (.failure .invalidUrl)) :
    network.turn timeLeft u ≠ .verdict (.failure .invalidUrl) := by
  rw [turn]
  split
  · simp
  · cases hreply : (network.answer u).reply with
    | none => simp
    | some reply =>
      cases reply with
      | failure reason =>
        rintro ⟨⟩
        exact h u hreply
      | response status location =>
        dsimp only
        cases redirection u status location <;> simp

/-- A request ends with the verdict of one of its turns, or with too many of them. -/
lemma request_induction {P : Verdict → Prop} (hmany : P (.failure .tooManyRedirects))
    (hturn : ∀ timeLeft u verdict, network.turn timeLeft u = .verdict verdict → P verdict) :
    P (network.request hops timeLeft u) := by
  induction hops generalizing timeLeft u with
  | zero =>
    rw [request_eq]
    cases hfirst : network.turn timeLeft u with
    | verdict verdict => exact hturn _ _ _ hfirst
    | onward next left => exact hmany
  | succ hops ih =>
    rw [request_eq]
    cases hfirst : network.turn timeLeft u with
    | verdict verdict => exact hturn _ _ _ hfirst
    | onward next left => exact ih

/-- Only a text that is no address fails as one. -/
lemma request_ne_invalidUrl (h : ∀ a, (network.answer a).reply ≠ some (.failure .invalidUrl)) :
    network.request hops timeLeft u ≠ .failure .invalidUrl := by
  refine request_induction (P := fun verdict => verdict ≠ .failure .invalidUrl) (by simp) ?_
  rintro timeLeft u verdict hturn rfl
  exact turn_ne_invalidUrl h hturn

lemma probe_url (network : Network) (config : Config) (url : String) :
    (network.probe config url).url = url := by
  rw [probe]
  split
  · rfl
  · split <;> rfl

lemma probe_wellFormed (network : Network) (config : Config) (url : String) :
    (network.probe config url).WellFormed := by
  rw [probe]
  split
  · exact LinkResult.wellFormed_failure url .invalidUrl
  · split
    · exact LinkResult.wellFormed_response url _
    · exact LinkResult.wellFormed_failure url _

lemma probe_of_not_isProbeable (network : Network) (config : Config) (h : ¬IsProbeable url) :
    network.probe config url = .failure url .invalidUrl := by
  rw [isProbeable_iff, not_not] at h
  rw [probe, h]

lemma probe_error_eq_invalidUrl_iff
    (h : ∀ a, (network.answer a).reply ≠ some (.failure .invalidUrl)) :
    (network.probe config url).error = some "invalid_url" ↔ ¬IsProbeable url := by
  constructor
  · intro herror hprobeable
    obtain ⟨u, hu⟩ := Option.ne_none_iff_exists'.mp (isProbeable_iff.mp hprobeable)
    rw [probe, hu] at herror
    dsimp only at herror
    split at herror
    · simp [LinkResult.response] at herror
    · rename_i reason hrequest
      have hreason : reason = .invalidUrl :=
        Failure.reason_eq_invalidUrl_iff.mp (Option.some.inj herror)
      exact request_ne_invalidUrl h (hreason ▸ hrequest)
  · intro hnot
    rw [probe_of_not_isProbeable network config hnot]
    rfl

end Network

lemma Script.reply_ne_invalidUrl (script : Script) (u : Url) :
    script.reply u ≠ some (.failure .invalidUrl) := by
  have hplain (b : Behaviour) : b.plainReply ≠ some (.failure .invalidUrl) := by
    cases b <;> simp [Behaviour.plainReply]
  have hsecure (b : Behaviour) : b.secureReply ≠ some (.failure .invalidUrl) := by
    rw [Behaviour.secureReply.eq_def]
    split <;> simp
  rw [reply]
  split_ifs <;> simp [hplain, hsecure]

lemma flatten_batches {α : Type} (size fuel : Nat) (xs : List α) :
    (batches size fuel xs).flatten = xs := by
  induction fuel generalizing xs with
  | zero => cases xs <;> simp [batches]
  | succ fuel ih =>
    cases xs with
    | nil => rfl
    | cons x xs => rw [batches, List.flatten_cons, ih, List.take_append_drop]; simp

/-- To go over a list in batches is to go over the list. -/
lemma flatMap_map_batches {α β : Type} (f : α → β) (size fuel : Nat) (xs : List α) :
    (batches size fuel xs).flatMap (·.map f) = xs.map f := by
  rw [List.flatMap_def, ← List.map_flatten, flatten_batches]

lemma Network.verify_eq_map (network : Network) (config : Config) (urls : List String) :
    network.verify config urls = urls.map (network.probe config) :=
  flatMap_map_batches (network.probe config) config.batchSize urls.length urls

/-- Whatever the size of the batches, the results are those of single probes, one for each link and
in the order of the links. A result has a status or a reason, and is the same in all lists and
networks in which the addresses of its own trail are answered alike. -/
theorem Network.verify_isolated (network : Network) (config : Config) (size : Nat)
    (urls : List String) :
    let results := network.verify { config with batchSize := size } urls
    results = urls.map (network.probe config) ∧
      results.length = urls.length ∧
      (∀ i : Nat, results[i]?.map (·.url) = urls[i]?) ∧
      (∀ result ∈ results, result.WellFormed) ∧
      (∀ (i : Nat) (url : String), urls[i]? = some url → ¬IsProbeable url →
        results[i]? = some ⟨url, none, false, some "invalid_url"⟩) ∧
      (∀ script : Script, network = script.network → ∀ result ∈ results,
        (result.error = some "invalid_url" ↔ ¬IsProbeable result.url)) ∧
      ∀ (network' : Network) (size' : Nat) (urls' : List String) (i j : Nat) (url : String),
        urls[i]? = some url → urls'[j]? = some url →
        (∀ a ∈ network.probeTrail config url, network'.answer a = network.answer a) →
        (network'.verify { config with batchSize := size' } urls')[j]? = results[i]? := by
  intro results
  have hmap (network : Network) (size : Nat) (urls : List String) :
      network.verify { config with batchSize := size } urls = urls.map (network.probe config) :=
    network.verify_eq_map { config with batchSize := size } urls
  have hresults : results = urls.map (network.probe config) := hmap network size urls
  have hprobe {result : LinkResult} (h : result ∈ results) :
      ∃ url ∈ urls, network.probe config url = result := by
    rw [hresults] at h
    exact List.mem_map.mp h
  refine ⟨hresults, ?_, ?_, ?_, ?_, ?_, ?_⟩
  · rw [hresults, List.length_map]
  · intro i
    rw [hresults, List.getElem?_map]
    cases urls[i]? with
    | none => rfl
    | some url => exact congrArg some (network.probe_url config url)
  · intro result h
    obtain ⟨url, -, rfl⟩ := hprobe h
    exact network.probe_wellFormed config url
  · intro i url hurl hnot
    rw [hresults, List.getElem?_map, hurl, Option.map_some,
      network.probe_of_not_isProbeable config hnot]
    rfl
  · rintro script rfl result h
    obtain ⟨url, -, rfl⟩ := hprobe h
    rw [Network.probe_url]
    exact Network.probe_error_eq_invalidUrl_iff script.reply_ne_invalidUrl
  · intro network' size' urls' i j url hurl hurl' htrail
    rw [hmap, hresults, List.getElem?_map, List.getElem?_map, hurl, hurl', Option.map_some,
      Option.map_some, Network.probe_congr htrail]

theorem Network.verify_isolated_failing :
    (¬IsProbeable "not a link" ∧
      ((Script.network ⟨[("a.test", .status 404)]⟩).verify { batchSize := 0 }
        ["http://a.test", "not a link", "http://b.test"])[1]? =
          some ⟨"not a link", none, false, some "invalid_url"⟩) ∧
    (∀ u ∈ (Script.network ⟨[("a.test", .status 404)]⟩).probeTrail {} "http://b.test",
      (Script.network ⟨[("a.test", .hang)]⟩).answer u =
        (Script.network ⟨[("a.test", .status 404)]⟩).answer u) ∧
    ((Script.network ⟨[("a.test", .hang)]⟩).verify { batchSize := 7 }
        ["http://b.test", "http://a.test"])[0]? =
      ((Script.network ⟨[("a.test", .status 404)]⟩).verify { batchSize := 0 }
        ["http://a.test", "not a link", "http://b.test"])[2]? := by
  have hnot : ¬IsProbeable "not a link" := by
    have hread : Url.read "not a link" = none := by decide +kernel
    rintro ⟨u, hu, -⟩
    simp [hread] at hu
  have htrail : ∀ u ∈ (Script.network ⟨[("a.test", .status 404)]⟩).probeTrail {} "http://b.test",
      (Script.network ⟨[("a.test", .hang)]⟩).answer u =
        (Script.network ⟨[("a.test", .status 404)]⟩).answer u := by decide +kernel
  obtain ⟨-, -, -, -, hinvalid, -, hsame⟩ :=
    Network.verify_isolated (Script.network ⟨[("a.test", .status 404)]⟩) {} 0
      ["http://a.test", "not a link", "http://b.test"]
  exact ⟨⟨hnot, hinvalid 1 _ rfl hnot⟩, htrail, hsame _ 7 _ 2 0 "http://b.test" rfl rfl htrail⟩

end Checkup
