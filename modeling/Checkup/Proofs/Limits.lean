import Checkup.Proofs.Verification

/-!
# Limits of a probe

A probe has a time for all of its answers and a number of redirections that it may follow. Each
limit only cuts a probe off, so a limit that is raised changes no result but the failure that it
stands for: what has come in time comes in more time, and a chain of redirections that has ended
needs no more of them. `Network.course` is the request without a deadline. A deadline cuts it off,
and a second one around it finds nothing left to cut off, which is why one deadline stands for both
(`Network.request_eq_cutOff_cutOff`).
-/

namespace Checkup

/-- What a request comes to, and after how many milliseconds. -/
structure Ending where
  time : Nat
  verdict : Verdict
deriving DecidableEq, Repr

namespace Ending

/-- The ending of a request that starts after a delay. -/
def after (delay : Nat) (ending : Ending) : Ending := { ending with time := delay + ending.time }

/-- The ending of a request that is given up at the limit, also if it would never end. -/
def cutOff (limit : Nat) : Option Ending → Ending
  | some ending => if ending.time < limit then ending else ⟨limit, .failure .timeout⟩
  | none => ⟨limit, .failure .timeout⟩

variable {limit limit' delay : Nat} {ending : Ending} {course : Option Ending}

lemma cutOff_of_lt (h : ending.time < limit) : cutOff limit (some ending) = ending := if_pos h

lemma cutOff_of_le (h : limit ≤ ending.time) :
    cutOff limit (some ending) = ⟨limit, .failure .timeout⟩ := if_neg (Nat.not_lt.mpr h)

lemma verdict_cutOff_atOnce (h : 0 < limit) (verdict : Verdict) :
    (cutOff limit (some ⟨0, verdict⟩)).verdict = verdict := by
  rw [cutOff_of_lt h]

/-- A request that starts after a delay has that much less time. -/
lemma verdict_cutOff_after (h : delay < limit) (course : Option Ending) :
    (cutOff limit (course.map (after delay))).verdict =
      (cutOff (limit - delay) course).verdict := by
  cases course with
  | none => rfl
  | some ending =>
    rw [Option.map_some]
    by_cases htime : ending.time < limit - delay
    · rw [cutOff_of_lt htime, cutOff_of_lt (by simp only [after]; omega)]
      rfl
    · rw [cutOff_of_le (Nat.not_lt.mp htime), cutOff_of_le (by simp only [after]; omega)]

lemma verdict_cutOff_after_of_le (h : limit ≤ delay) (course : Option Ending) :
    (cutOff limit (course.map (after delay))).verdict = .failure .timeout := by
  cases course with
  | none => rfl
  | some ending =>
    rw [Option.map_some, cutOff_of_le]
    exact Nat.le_trans h (Nat.le_add_right delay ending.time)

lemma cutOff_cutOff (limit : Nat) (course : Option Ending) :
    cutOff limit (some (cutOff limit course)) = cutOff limit course := by
  cases course with
  | none => exact cutOff_of_le (Nat.le_refl limit)
  | some ending =>
    by_cases htime : ending.time < limit
    · rw [cutOff_of_lt htime, cutOff_of_lt htime]
    · rw [cutOff_of_le (Nat.not_lt.mp htime), cutOff_of_le (Nat.le_refl limit)]

/-- What comes within a limit comes within a later one. -/
lemma cutOff_mono (hle : limit ≤ limit') (h : (cutOff limit course).verdict ≠ .failure .timeout) :
    cutOff limit' course = cutOff limit course := by
  cases course with
  | none => exact absurd rfl h
  | some ending =>
    by_cases htime : ending.time < limit
    · rw [cutOff_of_lt htime, cutOff_of_lt (Nat.lt_of_lt_of_le htime hle)]
    · rw [cutOff_of_le (Nat.not_lt.mp htime)] at h
      exact absurd rfl h

end Ending

namespace Network
open Ending

variable {network : Network} {hops hops' timeLeft timeLeft' : Nat} {u : Url} {config : Config}
  {url : String} {ending : Ending}

/-- How a request ends that has all the time it needs, unless it waits for an answer forever. -/
def course (network : Network) : (hops : Nat) → Url → Option Ending
  | hops, u =>
    let answer := network.answer u
    let rest : Option Ending := match answer.reply with
      | none => none
      | some (.failure reason) => some ⟨0, .failure reason⟩
      | some (.response status location) =>
        match redirection u status location, hops with
        | none, _ => some ⟨0, .response status⟩
        | some _, 0 => some ⟨0, .failure .tooManyRedirects⟩
        | some next, hops + 1 => network.course hops next
    rest.map (after answer.delay)

/-- A deadline for all answers together cuts off the request as a whole. -/
theorem request_eq_cutOff (network : Network) (hops timeLeft : Nat) (u : Url) :
    network.request hops timeLeft u = (cutOff timeLeft (network.course hops u)).verdict := by
  fun_induction network.request hops timeLeft u with
  | case1 hops timeLeft u answer hlate =>
    rw [course.eq_def]
    exact (verdict_cutOff_after_of_le hlate _).symm
  | case2 hops timeLeft u answer hearly hreply =>
    rw [course.eq_def, verdict_cutOff_after (Nat.not_le.mp hearly), hreply]
    rfl
  | case3 hops timeLeft u answer hearly reason hreply =>
    rw [course.eq_def, verdict_cutOff_after (Nat.not_le.mp hearly), hreply]
    exact (verdict_cutOff_atOnce (Nat.sub_pos_of_lt (Nat.not_le.mp hearly)) _).symm
  | case4 hops timeLeft u answer hearly status location hreply hstay =>
    rw [course.eq_def, verdict_cutOff_after (Nat.not_le.mp hearly), hreply]
    dsimp only
    rw [hstay]
    exact (verdict_cutOff_atOnce (Nat.sub_pos_of_lt (Nat.not_le.mp hearly)) _).symm
  | case5 timeLeft u answer hearly status location hreply next honward =>
    rw [course.eq_def, verdict_cutOff_after (Nat.not_le.mp hearly), hreply]
    dsimp only
    rw [honward]
    exact (verdict_cutOff_atOnce (Nat.sub_pos_of_lt (Nat.not_le.mp hearly)) _).symm
  | case6 timeLeft u answer hearly status location hreply next hops honward ih =>
    rw [course.eq_def, verdict_cutOff_after (Nat.not_le.mp hearly), hreply]
    dsimp only
    rw [honward]
    exact ih

/-- Each of the answers is waited for under a deadline, and so is the request as a whole: a second
deadline of the same length changes nothing. -/
theorem request_eq_cutOff_cutOff (network : Network) (hops timeLeft : Nat) (u : Url) :
    network.request hops timeLeft u =
      (cutOff timeLeft (some (cutOff timeLeft (network.course hops u)))).verdict := by
  rw [cutOff_cutOff, request_eq_cutOff]

/-- An answer that came in time comes with more time, too. -/
lemma request_of_more_time (hle : timeLeft ≤ timeLeft')
    (h : network.request hops timeLeft u ≠ .failure .timeout) :
    network.request hops timeLeft' u = network.request hops timeLeft u := by
  rw [request_eq_cutOff] at h
  rw [request_eq_cutOff, request_eq_cutOff, cutOff_mono hle h]

/-- A chain of redirections that ended within a number of them ends within more. -/
lemma request_of_more_hops (hle : hops ≤ hops')
    (h : network.request hops timeLeft u ≠ .failure .tooManyRedirects) :
    network.request hops' timeLeft u = network.request hops timeLeft u := by
  induction hops generalizing hops' timeLeft u with
  | zero =>
    rw [request_eq] at h
    rw [request_eq, request_eq network 0]
    cases hturn : network.turn timeLeft u with
    | verdict verdict => rfl
    | onward next left =>
      rw [hturn] at h
      exact absurd rfl h
  | succ hops ih =>
    obtain ⟨more, rfl⟩ := Nat.exists_eq_add_of_le' hle
    rw [request_eq] at h
    rw [request_eq, request_eq network (hops + 1), ← Nat.add_assoc]
    cases hturn : network.turn timeLeft u with
    | verdict verdict => rfl
    | onward next left =>
      rw [hturn] at h
      exact ih (Nat.le_add_left hops more) h

/-- Configurations under which requests come to the same give the same results. -/
lemma probe_eq_of_request {raised : Config}
    (h : ∀ u, (Url.read url).filter Url.isWeb = some u →
      network.request (raised.maxRedirects - 1) raised.probeTimeout u =
        network.request (config.maxRedirects - 1) config.probeTimeout u) :
    network.probe raised url = network.probe config url := by
  unfold probe
  cases hread : (Url.read url).filter Url.isWeb with
  | none => rfl
  | some u => simp only [h u hread]

lemma probe_error_of_request {reason : Failure} (hread : (Url.read url).filter Url.isWeb = some u)
    (h : network.request (config.maxRedirects - 1) config.probeTimeout u = .failure reason) :
    (network.probe config url).error = some reason.reason := by
  unfold probe
  simp only [hread, h]
  rfl

lemma probe_of_more_time (config : Config) {time : Nat} (hle : config.probeTimeout ≤ time)
    (h : (network.probe config url).error ≠ some Failure.timeout.reason) :
    network.probe { config with probeTimeout := time } url = network.probe config url := by
  apply probe_eq_of_request
  intro u hread
  apply request_of_more_time hle
  intro hfailed
  exact h (probe_error_of_request hread hfailed)

lemma probe_of_more_redirects (config : Config) {count : Nat} (hle : config.maxRedirects ≤ count)
    (h : (network.probe config url).error ≠ some Failure.tooManyRedirects.reason) :
    network.probe { config with maxRedirects := count } url = network.probe config url := by
  apply probe_eq_of_request
  intro u hread
  apply request_of_more_hops (Nat.sub_le_sub_right hle 1)
  intro hfailed
  exact h (probe_error_of_request hread hfailed)

/-- A response that was received is received under higher limits, too. -/
lemma probe_of_more_of_status {time count status : Nat} (htime : config.probeTimeout ≤ time)
    (hcount : config.maxRedirects ≤ count) (h : (network.probe config url).status = some status) :
    network.probe { config with probeTimeout := time, maxRedirects := count } url =
      network.probe config url := by
  have herror : (network.probe config url).error = none := by
    rw [← (network.probe_wellFormed config url).status_iff, h]
    rfl
  have hmore := probe_of_more_time config htime (by simp [herror] :
    (network.probe config url).error ≠ some Failure.timeout.reason)
  rw [← hmore]
  apply probe_of_more_redirects { config with probeTimeout := time } hcount
  simp [hmore, herror]

/-- With a later deadline a probe has the same result, unless it ran out of time, and with a higher
limit on redirections, unless it ran out of them. So higher limits break no working link and change
no status, in a list of links as for a single one. -/
theorem probe_of_raised_limits (network : Network) (config : Config) (url : String) :
    (∀ time, config.probeTimeout ≤ time → (network.probe config url).error ≠ some "timeout" →
      network.probe { config with probeTimeout := time } url = network.probe config url) ∧
    (∀ count, config.maxRedirects ≤ count →
      (network.probe config url).error ≠ some "too_many_redirects" →
      network.probe { config with maxRedirects := count } url = network.probe config url) ∧
    ∀ time count, config.probeTimeout ≤ time → config.maxRedirects ≤ count →
      let raised := { config with probeTimeout := time, maxRedirects := count }
      ((network.probe config url).ok → (network.probe raised url).ok) ∧
      (∀ status, (network.probe config url).status = some status →
        (network.probe raised url).status = some status) ∧
      ∀ (urls : List String) (i : Nat), urls[i]? = some url →
        (network.probe config url).status.isSome →
        (network.verify raised urls)[i]? = (network.verify config urls)[i]? := by
  refine ⟨fun time => probe_of_more_time config, fun count => probe_of_more_redirects config, ?_⟩
  intro time count htime hcount raised
  have hsame (status : Nat) (h : (network.probe config url).status = some status) :
      network.probe raised url = network.probe config url :=
    probe_of_more_of_status htime hcount h
  refine ⟨?_, ?_, ?_⟩
  · intro hok
    obtain ⟨status, hstatus, -⟩ := (network.probe_wellFormed config url).ok_iff.mp hok
    rw [hsame status hstatus]
    exact hok
  · intro status hstatus
    rw [hsame status hstatus]
    exact hstatus
  · intro urls i hurl hsome
    obtain ⟨status, hstatus⟩ := Option.isSome_iff_exists.mp hsome
    rw [verify_eq_map, verify_eq_map, List.getElem?_map, List.getElem?_map, hurl, Option.map_some,
      Option.map_some, hsame status hstatus]

/-- A network in which every address but one sends on to that one, and answers take their time. -/
def relay : Network where
  answer u :=
    if u.path = .segments ["new"] then ⟨40, some (.response 200 none)⟩
    else ⟨30, some (.response 302 (some "/new"))⟩

theorem probe_of_raised_limits_relay :
    let config : Config := { probeTimeout := 71, maxRedirects := 2 }
    let url := "http://a.test/old"
    (relay.probe config url).error ≠ some "timeout" ∧
      relay.probe { config with probeTimeout := 5000 } url = relay.probe config url ∧
      (relay.probe config url).error ≠ some "too_many_redirects" ∧
      relay.probe { config with maxRedirects := 9 } url = relay.probe config url ∧
      (relay.probe config url).ok ∧ (relay.probe config url).status = some 200 ∧
      (relay.probe { config with probeTimeout := 5000, maxRedirects := 9 } url).ok ∧
      (relay.probe { config with probeTimeout := 5000, maxRedirects := 9 } url).status = some 200 ∧
      (relay.verify { config with probeTimeout := 5000, maxRedirects := 9 } ["", url])[1]? =
        (relay.verify config ["", url])[1]? := by
  intro config url
  have hresult : relay.probe config url = .response url 200 := by decide +kernel
  have htimeout : (relay.probe config url).error ≠ some "timeout" := by
    simp [hresult, LinkResult.response]
  have hmany : (relay.probe config url).error ≠ some "too_many_redirects" := by
    simp [hresult, LinkResult.response]
  have hok : (relay.probe config url).ok := by rw [hresult]; rfl
  have hstatus : (relay.probe config url).status = some 200 := by rw [hresult]; rfl
  obtain ⟨htime, hcount, hboth⟩ := relay.probe_of_raised_limits config url
  obtain ⟨hworks, hsame, hlist⟩ := hboth 5000 9 (by decide) (by decide)
  exact ⟨htimeout, htime 5000 (by decide) htimeout, hmany, hcount 9 (by decide) hmany, hok, hstatus,
    hworks hok, hsame 200 hstatus, hlist ["", url] 1 rfl (by rw [hstatus]; rfl)⟩

end Network
end Checkup
