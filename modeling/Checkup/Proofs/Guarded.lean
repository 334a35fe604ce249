import Checkup.Proofs.Mentions
import Checkup.Proofs.Results
import Checkup.Proofs.Scan
import Checkup.Proofs.Verification
import Checkup.Report

/-!
# Guarded steps

The steps that lead to a report, with each operation that has no result everywhere made explicit: a
part of a text has to lie in the text, a difference is not below zero, and a list is not cut into
parts of size zero. None of these operations fails on the way to a report, so the guarded steps come
to the same results as the plain ones. The language, the metrics and the summary need no such
operation.
-/

namespace Checkup.Guarded

variable {α : Type}

/-- A step that cannot be carried out. It is not for the one who asks to mend. -/
def broken : Refusal := .internal "analysis task failed"

/-- The part of a list between two positions in it. -/
def slice (xs : List α) (start stop : Nat) : Except Refusal (List α) :=
  if start ≤ stop ∧ stop ≤ xs.length then .ok ((xs.drop start).take (stop - start))
  else .error broken

def difference (a b : Nat) : Except Refusal Nat := if b ≤ a then .ok (a - b) else .error broken

/-- A list cut into parts of a size above zero. -/
def parts (size : Nat) (xs : List α) : Except Refusal (List (List α)) :=
  if size = 0 then .error broken else .ok (batches size xs.length xs)

def report (rule : Rule) (number : Nat) (line : List Char) (m : Match) : Except Refusal Finding := do
  let before ← slice line 0 m.anchor
  return { line := number
           column := before.length + 1
           message := rule.message
           severity := rule.severity
           ruleId := rule.id }

def findings (rule : Rule) (number : Nat) (line : List Char) : Except Refusal (List Finding) :=
  if rule.excludes line then .ok [] else (rule.pattern.matchesIn line).mapM (report rule number line)

def inLine (rules : List Rule) (line : List Char × Nat) : Except Refusal (List Finding) := do
  return (← rules.mapM fun rule => findings rule line.2 line.1).flatten

def scan (catalog : Catalog) (code : String) (language : Language) :
    Except Refusal (List Finding) := do
  let found ← ((Text.lines code.toList).zipIdx 1).mapM (inLine (catalog.rulesFor language))
  return Finding.sort found.flatten

def mention (code : List Char) (place : Nat × Nat) : Except Refusal Mention := do
  return ⟨place.1, place.2, String.ofList (← slice code place.1 place.2)⟩

def marked (pattern : Pattern) (code : List Char) : Except Refusal (List Mention) :=
  ((pattern.matchesIn code).filterMap (·.marked)).mapM (mention code)

def undelimited (code : List Char) (others : List Mention) : Except Refusal (List Mention) :=
  ((Mention.bare.matchesIn code).filter fun m =>
      !others.any fun other => other.start ≤ m.start && m.start < other.stop).mapM
    fun m => mention code (m.start, m.stop)

def urls (code : String) : Except Refusal (List String) := do
  let attributes ← marked Mention.attributeValue code.toList
  let links ← marked Mention.labelled code.toList
  let arguments ← marked Mention.argument code.toList
  let captured := attributes.filter Mention.isAbsolute ++ links ++ arguments
  let others ← undelimited code.toList captured
  return (((captured ++ others).mergeSort fun a b => a.start ≤ b.start).map (·.url)).eraseDups

def verify (network : Network) (config : Config) (urls : List String) :
    Except Refusal (List LinkResult) := do
  let batch ← parts (max config.batchSize 1) urls
  return batch.flatMap (·.map (network.probe config))

def linkReport (results : List LinkResult) : Except Refusal LinkReport := do
  let working := results.countP (·.ok)
  let notWorking ← difference results.length working
  return { results, summary := { total := results.length, working, broken := notWorking } }

def links (engine : Engine) (request : Request) : Except Refusal (List LinkResult) := do
  if request.verifyLinks then verify engine.network engine.config (← urls request.code)
  else return []

def analyze (engine : Engine) (request : Request) : Except Refusal Report := do
  request.validate engine.config.maxCodeChars
  let language := request.resolvedLanguage
  let issues ← scan engine.catalog request.code language
  let results ← links engine request
  return { language, issues, metrics := .measure request.code, links := results
           summary := .of issues results }

def verifyLinks (engine : Engine) (urls : List String) : Except Refusal LinkReport := do
  validateUrls urls engine.config.maxVerifyUrls
  linkReport (← verify engine.network engine.config urls)

lemma slice_eq {xs : List α} {start stop : Nat} (hle : start ≤ stop) (hlen : stop ≤ xs.length) :
    slice xs start stop = .ok ((xs.drop start).take (stop - start)) := by
  rw [slice, if_pos ⟨hle, hlen⟩]

/-- A match is reported at a place in its line. -/
lemma report_eq {rule : Rule} {line : List Char} {m : Match} (number : Nat)
    (hm : m ∈ rule.pattern.matchesIn line) : report rule number line m = .ok (rule.report number m) := by
  rw [Pattern.matchesIn_eq] at hm
  obtain ⟨heq, -, hstop, hlen⟩ := Match.shownAt_le hm
  have hanchor : m.anchor ≤ line.length := by omega
  rw [report, slice_eq (Nat.zero_le _) hanchor]
  simp [Rule.report, bind, Except.bind, pure, Except.pure, hanchor]

lemma findings_eq (rule : Rule) (number : Nat) (line : List Char) :
    findings rule number line = .ok (rule.findings number line) := by
  rw [findings, Rule.findings]
  split
  · rfl
  · exact mapM_eq_ok fun m hm => report_eq number hm

lemma scan_eq (catalog : Catalog) (code : String) (language : Language) :
    scan catalog code language = .ok (Finding.scan catalog code language) := by
  have hline (line : List Char × Nat) : inLine (catalog.rulesFor language) line =
      .ok ((catalog.rulesFor language).flatMap fun rule => rule.findings line.2 line.1) := by
    rw [inLine, mapM_eq_ok fun rule _ => findings_eq rule line.2 line.1]
    rfl
  rw [scan, mapM_eq_ok fun line _ => hline line]
  rfl

lemma mention_eq {code : Array Char} {start stop : Nat} (hle : start ≤ stop)
    (hlen : stop ≤ code.toList.length) :
    mention code.toList (start, stop) = .ok (Mention.ofRange code start stop) := by
  rw [mention, slice_eq hle hlen, Mention.ofRange, Array.toList_extract, List.extract_eq_take_drop]
  rfl

/-- The marked part of a match lies in the text. -/
lemma marked_eq (pattern : Pattern) (code : Array Char) :
    marked pattern code.toList = .ok (Mention.marked pattern code) := by
  have hmention : ∀ place ∈ (pattern.matchesIn code.toList).filterMap (·.marked),
      mention code.toList place = .ok (Mention.ofRange code place.1 place.2) := by
    intro place hplace
    obtain ⟨m, hm, hmarked⟩ := List.mem_filterMap.mp hplace
    obtain ⟨-, -, -, -, hlen⟩ := Pattern.mem_matchesIn hm
    have hbounds := Pattern.marked_of_mem_matchesIn hm hmarked
    exact mention_eq hbounds.2.1 (Nat.le_trans hbounds.2.2 hlen)
  rw [marked, mapM_eq_ok hmention, List.map_filterMap]
  rfl

lemma undelimited_eq (code : Array Char) (others : List Mention) :
    undelimited code.toList others = .ok (Mention.undelimited code others) := by
  refine mapM_eq_ok fun m hm => ?_
  obtain ⟨-, -, -, hstop, hlen⟩ := Pattern.mem_matchesIn (List.mem_filter.mp hm).1
  exact mention_eq hstop hlen

lemma urls_eq (code : String) : urls code = .ok (Mention.urls code) := by
  have hmarked (pattern : Pattern) := marked_eq pattern code.toList.toArray
  have hundelimited (others : List Mention) := undelimited_eq code.toList.toArray others
  rw [urls, hmarked, hmarked, hmarked]
  simp only [bind, Except.bind]
  rw [hundelimited]
  rfl

lemma verify_eq (network : Network) (config : Config) (urls : List String) :
    verify network config urls = .ok (network.verify config urls) := by
  have hsize : max config.batchSize 1 ≠ 0 := by omega
  rw [verify, parts, if_neg hsize, network.verify_eq_map]
  exact congrArg Except.ok (flatMap_map_batches (network.probe config) _ _ urls)

lemma linkReport_eq (results : List LinkResult) : linkReport results = .ok (.of results) := by
  have hle : results.countP (·.ok) ≤ results.length := List.countP_le_length
  rw [linkReport, difference, if_pos hle]
  rfl

lemma links_eq (engine : Engine) (request : Request) :
    links engine request = .ok (engine.links request) := by
  rw [links, Engine.links]
  split
  · rw [urls_eq]
    exact verify_eq engine.network engine.config _
  · rfl

/-- No step on the way to a report fails. -/
theorem analyze_eq (engine : Engine) (request : Request) :
    analyze engine request = engine.analyze request := by
  rw [analyze, Engine.analyze]
  cases request.validate engine.config.maxCodeChars with
  | error refusal => rfl
  | ok _ =>
    simp only [bind, Except.bind]
    rw [scan_eq, links_eq]
    rfl

theorem verifyLinks_eq (engine : Engine) (urls : List String) :
    verifyLinks engine urls = engine.verifyLinks urls := by
  rw [verifyLinks, Engine.verifyLinks]
  cases validateUrls urls engine.config.maxVerifyUrls with
  | error refusal => rfl
  | ok _ =>
    simp only [bind, Except.bind]
    rw [verify_eq]
    exact linkReport_eq _

end Checkup.Guarded
