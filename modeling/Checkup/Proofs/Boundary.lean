import Checkup.Proofs.Guarded

/-!
# Outcomes

A request is refused if its text is empty or too long, a list of links if it is empty or has too
many of them; all else has a report. Nothing goes wrong inside, not even if every operation that
could fail is guarded.
-/

namespace Checkup

/-- The outcome is an error of the one who asks exactly if the request is refused. Otherwise it is a
value, and in no case an error from inside. -/
structure Outcome.Decides {α : Type} (outcome : Outcome α) (refused : Prop) : Prop where
  clientError_iff : (∃ message, outcome = .clientError message) ↔ refused
  ok_iff : (∃ value, outcome = .ok value) ↔ ¬refused
  ne_serverError : ∀ message, outcome ≠ .serverError message

/-- The text of the request is empty or longer than the limit. -/
def Request.Refused (request : Request) (config : Config) : Prop :=
  request.code = "" ∨ config.maxCodeChars < request.code.length

/-- The list of links is empty or longer than the limit. -/
def LinksRefused (urls : List String) (config : Config) : Prop :=
  urls = [] ∨ config.maxVerifyUrls < urls.length

variable {α : Type} {engine : Engine} {request : Request} {urls : List String}

/-- A result decides if it refuses what is refused, with an error of the one who asks, and nothing
else. -/
lemma Outcome.decides_of {result : Except Refusal α} {refused : Prop}
    (herror : refused → ∃ refusal : Refusal, result = .error refusal ∧ refusal.isClientError)
    (hok : ¬refused → ∃ value, result = .ok value) : (Outcome.of result).Decides refused := by
  by_cases h : refused
  · obtain ⟨refusal, rfl, hclient⟩ := herror h
    rw [Outcome.of, if_pos hclient]
    exact ⟨by simp [h], by simp [h], by simp⟩
  · obtain ⟨value, rfl⟩ := hok h
    exact ⟨by simp [Outcome.of, h], by simp [Outcome.of, h], by simp [Outcome.of]⟩

namespace Engine

/-- An empty text is refused as empty, whatever the limit is. -/
lemma analyze_of_empty (h : request.code = "") : engine.analyze request = .error .emptyCode := by
  rw [analyze, Request.validate, h]
  rfl

lemma analyze_of_long (hne : request.code ≠ "")
    (hlong : engine.config.maxCodeChars < request.code.length) :
    engine.analyze request =
      .error (.codeTooLong request.code.length engine.config.maxCodeChars) := by
  have hpos : request.code.length ≠ 0 := fun h => hne (String.length_eq_zero_iff.mp h)
  rw [analyze, Request.validate]
  simp only [hpos, hlong, if_true, if_false]
  rfl

lemma analyze_of_not_refused (h : ¬request.Refused engine.config) :
    engine.analyze request = .ok (engine.report request) := by
  obtain ⟨hne, hlimit⟩ := not_or.mp h
  have hpos : request.code.length ≠ 0 := fun h => hne (String.length_eq_zero_iff.mp h)
  rw [analyze, Request.validate]
  simp only [hpos, hlimit, if_false]
  rfl

lemma verifyLinks_of_empty (h : urls = []) : engine.verifyLinks urls = .error .noUrls := by
  rw [verifyLinks, validateUrls, h]
  rfl

lemma verifyLinks_of_long (hne : urls ≠ []) (hlong : engine.config.maxVerifyUrls < urls.length) :
    engine.verifyLinks urls = .error (.tooManyUrls urls.length engine.config.maxVerifyUrls) := by
  rw [verifyLinks, validateUrls, if_neg hne, if_pos hlong]
  rfl

lemma verifyLinks_of_not_refused (h : ¬LinksRefused urls engine.config) :
    engine.verifyLinks urls = .ok (.of (engine.network.verify engine.config urls)) := by
  obtain ⟨hne, hlimit⟩ := not_or.mp h
  rw [verifyLinks, validateUrls, if_neg hne, if_neg hlimit]
  rfl

lemma analyzeOutcome_decides (engine : Engine) (request : Request) :
    (engine.analyzeOutcome request).Decides (request.Refused engine.config) := by
  refine Outcome.decides_of (fun h => ?_) fun h => ⟨_, analyze_of_not_refused h⟩
  by_cases hempty : request.code = ""
  · exact ⟨_, analyze_of_empty hempty, rfl⟩
  · exact ⟨_, analyze_of_long hempty (h.resolve_left hempty), rfl⟩

lemma verifyOutcome_decides (engine : Engine) (urls : List String) :
    (engine.verifyOutcome urls).Decides (LinksRefused urls engine.config) := by
  refine Outcome.decides_of (fun h => ?_) fun h => ⟨_, verifyLinks_of_not_refused h⟩
  by_cases hempty : urls = []
  · exact ⟨_, verifyLinks_of_empty hempty, rfl⟩
  · exact ⟨_, verifyLinks_of_long hempty (h.resolve_left hempty), rfl⟩

/-- A refusal tells no more than the limit and the length of the text. -/
lemma analyze_congr_of_refused {engine' : Engine} {request' : Request}
    (h : request.Refused engine.config)
    (hlimit : engine'.config.maxCodeChars = engine.config.maxCodeChars)
    (hlength : request'.code.length = request.code.length) :
    engine'.analyze request' = engine.analyze request := by
  have hempty : request'.code = "" ↔ request.code = "" := by
    rw [← String.length_eq_zero_iff, ← String.length_eq_zero_iff, hlength]
  by_cases hcode : request.code = ""
  · rw [analyze_of_empty hcode, analyze_of_empty (hempty.mpr hcode)]
  · have hlong := h.resolve_left hcode
    have hlong' : engine'.config.maxCodeChars < request'.code.length := by
      rw [hlimit, hlength]
      exact hlong
    rw [analyze_of_long hcode hlong, analyze_of_long (fun h => hcode (hempty.mp h)) hlong', hlimit,
      hlength]

lemma verifyLinks_congr_of_refused {engine' : Engine} {urls' : List String}
    (h : LinksRefused urls engine.config)
    (hlimit : engine'.config.maxVerifyUrls = engine.config.maxVerifyUrls)
    (hlength : urls'.length = urls.length) :
    engine'.verifyLinks urls' = engine.verifyLinks urls := by
  have hempty : urls' = [] ↔ urls = [] := by
    rw [← List.length_eq_zero_iff, ← List.length_eq_zero_iff, hlength]
  by_cases hurls : urls = []
  · rw [verifyLinks_of_empty hurls, verifyLinks_of_empty (hempty.mpr hurls)]
  · have hlong := h.resolve_left hurls
    have hlong' : engine'.config.maxVerifyUrls < urls'.length := by
      rw [hlimit, hlength]
      exact hlong
    rw [verifyLinks_of_long hurls hlong, verifyLinks_of_long (fun h => hurls (hempty.mp h)) hlong',
      hlimit, hlength]

/-- Requests and lists of links are refused exactly if they are empty or too long, and all others
are answered. That holds also if each operation that could fail is guarded. A refusal does not
depend on the network or on the rest of the request, and what goes wrong inside is not told. -/
theorem outcomes_decided (engine : Engine) (request : Request) (urls : List String) :
    (engine.analyzeOutcome request).Decides (request.Refused engine.config) ∧
      (engine.verifyOutcome urls).Decides (LinksRefused urls engine.config) ∧
      Outcome.of (Guarded.analyze engine request) = engine.analyzeOutcome request ∧
      Outcome.of (Guarded.verifyLinks engine urls) = engine.verifyOutcome urls ∧
      (request.code = "" → engine.analyze request = .error .emptyCode) ∧
      (request.code ≠ "" → engine.config.maxCodeChars < request.code.length →
        engine.analyze request =
          .error (.codeTooLong request.code.length engine.config.maxCodeChars)) ∧
      (∀ refusal, engine.analyze request = .error refusal →
        engine.analyzeOutcome request = .clientError refusal.message) ∧
      (request.Refused engine.config → ∀ (engine' : Engine) (request' : Request),
        engine'.config.maxCodeChars = engine.config.maxCodeChars →
        request'.code.length = request.code.length →
        engine'.analyzeOutcome request' = engine.analyzeOutcome request) ∧
      (LinksRefused urls engine.config → ∀ (engine' : Engine) (urls' : List String),
        engine'.config.maxVerifyUrls = engine.config.maxVerifyUrls →
        urls'.length = urls.length →
        engine'.verifyOutcome urls' = engine.verifyOutcome urls) ∧
      ∀ (α : Type) (refusal : Refusal), ¬refusal.isClientError →
        (Outcome.of (.error refusal) : Outcome α) = .serverError genericMessage := by
  have hanalyze := analyzeOutcome_decides engine request
  have hverify := verifyOutcome_decides engine urls
  refine ⟨hanalyze, hverify, ?_, ?_, analyze_of_empty, analyze_of_long, ?_, ?_, ?_, ?_⟩
  · rw [Guarded.analyze_eq, analyzeOutcome]
  · rw [Guarded.verifyLinks_eq, verifyOutcome]
  · intro refusal herror
    have hinside := hanalyze.ne_serverError genericMessage
    rw [analyzeOutcome, herror, Outcome.of] at hinside ⊢
    by_cases hclient : refusal.isClientError
    · rw [if_pos hclient]
    · rw [if_neg hclient] at hinside
      exact absurd rfl hinside
  · intro hrefused engine' request' hlimit hlength
    rw [analyzeOutcome, analyzeOutcome, analyze_congr_of_refused hrefused hlimit hlength]
  · intro hrefused engine' urls' hlimit hlength
    rw [verifyOutcome, verifyOutcome, verifyLinks_congr_of_refused hrefused hlimit hlength]
  · intro α refusal hinside
    rw [Outcome.of, if_neg hinside]

theorem outcomes_decided_at_limits :
    (Engine.analyze { config := { maxCodeChars := 0 }, network := .unreachable } { code := "" } =
      .error .emptyCode) ∧
    (2 < "äöü".length ∧
      Engine.analyzeOutcome { config := { maxCodeChars := 2 }, network := .unreachable }
        { code := "äöü" } = .clientError "Code is too long: 3 characters (maximum is 2)" ∧
      Engine.analyzeOutcome { catalog := .ofTables [], config := { maxCodeChars := 2 }
                              network := Script.network ⟨[("a.test", .hang)]⟩ }
        { code := "abc", filename := some "a.py", verifyLinks := true } =
          .clientError "Code is too long: 3 characters (maximum is 2)") ∧
    (Engine.verifyOutcome { network := Script.network ⟨[("a.test", .hang)]⟩ } [] =
      Engine.verifyOutcome { network := .unreachable } []) ∧
    (Outcome.of (.error (.invalidRule "no-var")) : Outcome Report) = .serverError genericMessage := by
  have hempty := outcomes_decided { config := { maxCodeChars := 0 }, network := .unreachable }
    { code := "" } []
  have hlong := outcomes_decided { config := { maxCodeChars := 2 }, network := .unreachable }
    { code := "äöü" } []
  obtain ⟨-, -, -, -, -, htooLong, hmessage, hsame, -⟩ := hlong
  obtain ⟨-, -, -, -, hemptyCode, -, -, -, hsameUrls, hgeneric⟩ := hempty
  have hthree : 2 < "äöü".length := by decide
  have htext : (Refusal.codeTooLong "äöü".length 2).message =
      "Code is too long: 3 characters (maximum is 2)" := by decide
  have hrefusal := htext ▸ hmessage _ (htooLong (by decide) hthree)
  have hother := hsame (.inr hthree)
    { catalog := .ofTables [], config := { maxCodeChars := 2 }
      network := Script.network ⟨[("a.test", .hang)]⟩ }
    { code := "abc", filename := some "a.py", verifyLinks := true } rfl (by decide)
  exact ⟨hemptyCode rfl, ⟨hthree, hrefusal, hother.trans hrefusal⟩,
    hsameUrls (.inl rfl) _ [] rfl rfl, hgeneric Report _ (by decide)⟩

end Engine
end Checkup
