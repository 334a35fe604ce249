import Checkup.Cli.Run
import Checkup.Proofs.Commands
import Checkup.Proofs.Consistency

/-!
# Runs

A run tells by its exit code how its command ended: with an error, with findings or without. Whether
it shows the outcome as JSON or as lines is told by one option, which changes nothing else of the
command and not the exit code.
-/

namespace Checkup

def Outcome.IsError {α : Type} (outcome : Outcome α) : Prop :=
  ∃ message, outcome = .clientError message ∨ outcome = .serverError message

lemma Outcome.of_eq_ok {α : Type} {result : Except Refusal α} {value : α} :
    Outcome.of result = .ok value ↔ result = .ok value := by
  cases result with
  | error refusal =>
    simp only [Outcome.of]
    split_ifs <;> simp
  | ok value' => simp [Outcome.of]

/-- A finding is an error, or a link does not work. -/
def Report.HasFindings (report : Report) : Prop :=
  (∃ issue ∈ report.issues, issue.severity = .error) ∨ ∃ link ∈ report.links, link.ok = false

def LinkReport.HasFindings (report : LinkReport) : Prop :=
  ∃ result ∈ report.results, result.ok = false

lemma Summary.Counts.hasFindings_iff {report : Report}
    (h : report.summary.Counts report.issues report.links) :
    (0 < report.summary.errors || 0 < report.summary.brokenLinks) ↔ report.HasFindings := by
  rw [Bool.or_eq_true, decide_eq_true_eq, decide_eq_true_eq, h.errors, h.brokenLinks,
    List.length_pos_iff_exists_mem, List.length_pos_iff_exists_mem]
  simp only [List.mem_filter, decide_eq_true_eq, Report.HasFindings]

lemma LinkReport.hasFindings_iff (results : List LinkResult) :
    0 < (LinkReport.of results).summary.broken ↔ (LinkReport.of results).HasFindings := by
  rw [(LinkReport.of_agreesWith [] results).broken, (Summary.counts_of [] results).brokenLinks,
    List.length_pos_iff_exists_mem]
  simp only [List.mem_filter, decide_eq_true_eq, LinkReport.HasFindings]
  rfl

namespace Cli

/-- The source is this text in UTF-8. A path is left out for the standard input. -/
def Surroundings.Holds (around : Surroundings) (path : Option String) (code : String) : Prop :=
  match path with
  | none => around.standardInput = code.toUTF8
  | some path =>
    if isStandardInput path then around.standardInput = code.toUTF8
    else around.contentsAt path = .ok code.toUTF8

/-- The last name in a path, if a file can have it. -/
def lastName? (path : String) : Option String :=
  ((pathNames path).filter (· ≠ ".")).getLast?.filter (· ≠ "..")

/-- The name that a request has: the given one, or else the last in the path of its file. -/
def requestName : (path filename : Option String) → Option String
  | _, some filename => some filename
  | some path, none => if isStandardInput path then none else lastName? path
  | none, none => none

/-- The run ends with the exit code for the outcome, and shows all of it if JSON is asked for. -/
structure Run.Shows {α : Type} (run : Run) (outcome : Outcome α) (fields : α → List (String × Json))
    (json : Bool) (found : α → Prop) : Prop where
  error_iff : run.exitCode = 2 ↔ outcome.IsError
  findings_iff : ∀ value, outcome = .ok value → (run.exitCode = 1 ↔ found value)
  clean_iff : ∀ value, outcome = .ok value → (run.exitCode = 0 ↔ ¬found value)
  output : json → run.output = (outcome.toJson fields).pretty ++ "\n"
  errors : json → run.errors = []

def Command.engine (around : Surroundings) (limits : ProbeLimits) : Engine :=
  { config := limits.config, network := around.network }

/-- The run ends as it should for the command. -/
def Command.EndsIn (around : Surroundings) (run : Run) : Command → Prop
  | analyze path filename language verifyLinks json limits =>
    let outcome (code : String) : Outcome Report :=
      (engine around limits).analyzeOutcome
        { code, filename := requestName path filename, verifyLinks, language }
    (run.exitCode = 2 ↔ (∀ code, ¬around.Holds path code) ∨
      ∃ code, around.Holds path code ∧ (outcome code).IsError) ∧
    ∀ code, around.Holds path code →
      run.Shows (outcome code) Report.fields json Report.HasFindings
  | verify urls json limits =>
    run.Shows ((engine around limits).verifyOutcome urls) LinkReport.fields json
      LinkReport.HasFindings

variable {around : Surroundings} {path filename : Option String} {code : String}

lemma fromUTF8?_eq_some_iff {bytes : ByteArray} :
    String.fromUTF8? bytes = some code ↔ bytes = code.toUTF8 := by
  constructor
  · intro h
    unfold String.fromUTF8? at h
    split_ifs at h with hvalid
    obtain rfl := Option.some.inj h
    rfl
  · rintro rfl
    have hvalid : code.toUTF8.IsValidUTF8 := code.isValidUTF8
    unfold String.fromUTF8?
    rw [dif_pos hvalid]
    rfl

lemma readSource_none (around : Surroundings) :
    readSource around none = .ok code ↔ around.Holds none code := by
  rw [readSource, Surroundings.Holds, ← fromUTF8?_eq_some_iff]
  cases hdecoded : String.fromUTF8? around.standardInput with
  | none => simp [pure_eq_ok, ok_bind, hdecoded, throw, throwThe, MonadExceptOf.throw]
  | some text => simp [pure_eq_ok, ok_bind, hdecoded]

lemma readSource_eq_ok_iff : readSource around path = .ok code ↔ around.Holds path code := by
  cases path with
  | none => exact readSource_none around
  | some path =>
    by_cases hinput : isStandardInput path
    · rw [Surroundings.Holds, if_pos hinput, readSource, if_pos hinput]
      exact readSource_none around
    · rw [Surroundings.Holds, if_neg hinput, readSource, if_neg hinput, bind_eq_ok]
      constructor
      · rintro ⟨bytes, hbytes, hcode⟩
        have hholds := (readSource_none { around with standardInput := bytes }).mp hcode
        exact hholds ▸ hbytes
      · intro hbytes
        refine ⟨_, hbytes, ?_⟩
        exact (readSource_none { around with standardInput := code.toUTF8 }).mpr rfl

/-- The parts of a path are its names besides single dots, but for one at the start. -/
lemma pathParts_cases (path : String) :
    pathParts path = (pathNames path).filter (· ≠ ".") ∨
      pathParts path = "." :: (pathNames path).filter (· ≠ ".") := by
  unfold pathParts
  cases pathNames path with
  | nil => exact .inl rfl
  | cons name names =>
    by_cases hname : name = "."
    · subst hname
      rw [List.filter_cons_of_neg (by simp)]
      by_cases hroot : path.startsWith "/"
      · exact .inl (by simp [hroot])
      · exact .inr (by simp [hroot])
    · rw [List.filter_cons_of_pos (by simpa using hname)]
      exact .inl (by simp [hname])

lemma fileName?_eq (path : String) : fileName? path = lastName? path := by
  have hlast : (pathParts path).getLast? = ((pathNames path).filter (· ≠ ".")).getLast? ∨
      ((pathNames path).filter (· ≠ ".")).getLast? = none ∧
        (pathParts path).getLast? = some "." := by
    rcases pathParts_cases path with hparts | hparts
    · exact .inl (by rw [hparts])
    · -- The dot at the start is the last part only if no name follows it.
      cases hnames : (pathNames path).filter (· ≠ ".") with
      | nil => exact .inr ⟨rfl, by rw [hparts, hnames]; rfl⟩
      | cons name names => exact .inl (by rw [hparts, hnames, List.getLast?_cons_cons])
  unfold fileName? lastName?
  rcases hlast with hlast | ⟨hnone, hdot⟩
  · rw [hlast]
    cases hname : ((pathNames path).filter (· ≠ ".")).getLast? with
    | none => rfl
    | some name =>
      have hne : name ≠ "." := by
        simpa using (List.mem_filter.mp (List.mem_of_getLast? hname)).2
      by_cases hup : name = ".."
      · simp [hup, Option.filter]
      · simp [hup, hne, Option.filter]
  · rw [hnone, hdot]
    rfl

lemma pathNames_append {directory name : String} (hname : name ≠ "") (hslash : '/' ∉ name.toList) :
    pathNames (directory ++ "/" ++ name) = pathNames directory ++ [name] := by
  have htext : (directory ++ "/" ++ name).toList = directory.toList ++ '/' :: name.toList := by
    simp
  unfold pathNames
  rw [htext, List.splitOn_append_cons_self, List.splitOn_eq_singleton hslash, List.map_append,
    List.filter_append]
  simp [hname]

/-- The last name in a path is what follows its last slash, or else all of it. -/
theorem lastName?_append (directory : String) {name : String} (hslash : '/' ∉ name.toList)
    (hname : name ∉ ["", ".", ".."]) :
    lastName? (directory ++ "/" ++ name) = some name ∧ lastName? name = some name := by
  simp only [List.mem_cons, List.not_mem_nil, or_false, not_or] at hname
  obtain ⟨hne, hdot, hup⟩ := hname
  have halone : pathNames name = [name] := by
    unfold pathNames
    rw [List.splitOn_eq_singleton hslash]
    simp [hne]
  unfold lastName?
  rw [pathNames_append hne hslash, halone]
  simp [hdot, hup, Option.filter]

lemma filenameHint_eq : filenameHint path filename = requestName path filename := by
  cases filename with
  | some filename => rfl
  | none =>
    cases path with
    | none => rfl
    | some path =>
      by_cases hinput : isStandardInput path
      · simp [filenameHint, requestName, hinput]
      · simp [filenameHint, requestName, hinput, fileName?_eq, Option.filter]

lemma shows_showOutcome {α : Type} {outcome : Outcome α} {fields : α → List (String × Json)}
    {lines : α → List String} {hasFindings : α → Bool} {found : α → Prop} {json : Bool}
    (hfound : ∀ value, outcome = .ok value → (hasFindings value ↔ found value)) :
    (showOutcome json fields lines hasFindings outcome).Shows outcome fields json found := by
  have houtput (hjson : json = true) :
      (showOutcome json fields lines hasFindings outcome).output =
        (outcome.toJson fields).pretty ++ "\n" := by
    cases outcome <;> simp [showOutcome, hjson]
  have herrors (hjson : json = true) :
      (showOutcome json fields lines hasFindings outcome).errors = [] := by
    cases outcome <;> simp [showOutcome, hjson]
  cases outcome with
  | ok value =>
    by_cases hfindings : hasFindings value
    · have hcode : (showOutcome json fields lines hasFindings (.ok value)).exitCode = 1 := by
        simp [showOutcome, hfindings, exitFindings]
      have hvalue := (hfound value rfl).mp hfindings
      refine ⟨?_, ?_, ?_, houtput, herrors⟩
      · simp [hcode, Outcome.IsError]
      · simp [hcode, hvalue]
      · simp [hcode, hvalue]
    · have hcode : (showOutcome json fields lines hasFindings (.ok value)).exitCode = 0 := by
        simp [showOutcome, hfindings, exitClean]
      have hvalue := mt (hfound value rfl).mpr hfindings
      refine ⟨?_, ?_, ?_, houtput, herrors⟩
      · simp [hcode, Outcome.IsError]
      · simp [hcode, hvalue]
      · simp [hcode, hvalue]
  | clientError message =>
    exact ⟨by simp [showOutcome, exitError, Outcome.IsError], by simp, by simp, houtput, herrors⟩
  | serverError message =>
    exact ⟨by simp [showOutcome, exitError, Outcome.IsError], by simp, by simp, houtput, herrors⟩

lemma analyzeOutcome_hasFindings {engine : Engine} {request : Request} {report : Report}
    (h : engine.analyzeOutcome request = .ok report) :
    (0 < report.summary.errors || 0 < report.summary.brokenLinks) ↔ report.HasFindings := by
  obtain rfl := Engine.eq_report_of_analyze (Outcome.of_eq_ok.mp h)
  exact (Summary.counts_of _ _).hasFindings_iff

lemma verifyOutcome_hasFindings {engine : Engine} {urls : List String} {report : LinkReport}
    (h : engine.verifyOutcome urls = .ok report) :
    0 < report.summary.broken ↔ report.HasFindings := by
  have haccepted := Outcome.of_eq_ok.mp h
  rw [Engine.verifyLinks, bind_eq_ok] at haccepted
  obtain ⟨_, -, hreport⟩ := haccepted
  obtain rfl := Except.ok.inj hreport
  exact LinkReport.hasFindings_iff _

lemma shows_run_analyze {language : Option Language} {verifyLinks json : Bool}
    {limits : ProbeLimits} (h : around.Holds path code) :
    ((Command.analyze path filename language verifyLinks json limits).run around).Shows
      ((Command.engine around limits).analyzeOutcome
        { code, filename := requestName path filename, verifyLinks, language })
      Report.fields json Report.HasFindings := by
  rw [Command.run, readSource_eq_ok_iff.mpr h, filenameHint_eq]
  exact shows_showOutcome fun report hreport => analyzeOutcome_hasFindings hreport

lemma endsIn_run (command : Command) : command.EndsIn around (command.run around) := by
  cases command with
  | analyze path filename language verifyLinks json limits =>
    refine ⟨?_, fun code hcode => shows_run_analyze hcode⟩
    by_cases hheld : ∃ code, around.Holds path code
    · obtain ⟨code, hcode⟩ := hheld
      rw [(shows_run_analyze hcode).error_iff]
      constructor
      · exact fun herror => .inr ⟨code, hcode, herror⟩
      · rintro (hnot | ⟨other, hother, herror⟩)
        · exact absurd hcode (hnot code)
        · have hsame :=
            (readSource_eq_ok_iff.mpr hother).symm.trans (readSource_eq_ok_iff.mpr hcode)
          exact Except.ok.inj hsame ▸ herror
    · rw [not_exists] at hheld
      cases hsource : readSource around path with
      | error fault =>
        simp only [Command.run, hsource]
        exact ⟨fun _ => .inl hheld, fun _ => rfl⟩
      | ok code => exact absurd (readSource_eq_ok_iff.mp hsource) (hheld code)
  | verify urls json limits =>
    exact shows_showOutcome fun report h => by
      rw [decide_eq_true_eq]
      exact verifyOutcome_hasFindings h

lemma exitCode_showOutcome {α : Type} {outcome : Outcome α} {fields : α → List (String × Json)}
    {lines : α → List String} {hasFindings : α → Bool} (json json' : Bool) :
    (showOutcome json fields lines hasFindings outcome).exitCode =
      (showOutcome json' fields lines hasFindings outcome).exitCode := by
  cases outcome <;> rfl

lemma exitCode_setJson (command : Command) (json : Bool) :
    ((command.setJson json).run around).exitCode = (command.run around).exitCode := by
  cases command with
  | analyze path filename language verifyLinks json' limits =>
    simp only [Command.setJson, Command.run]
    cases readSource around path with
    | error fault => rfl
    | ok code => exact exitCode_showOutcome json json'
  | verify urls json' limits => exact exitCode_showOutcome json json'

lemma run_of_readArguments {args : List String} {command : Command}
    (h : readArguments around.environment false args = .ok command) :
    run around args = command.run around := by
  rw [run, h]

/-- The exit code of an accepted command line tells whether the source can be read and how the
outcome is, and with the option for JSON all that is shown is the outcome. To put that option among
the arguments or to take it away changes neither what else they ask for nor the exit code. -/
theorem run_modes_agree (around : Surroundings) (args : List String) (command : Command)
    (h : readArguments around.environment false args = .ok command) :
    command.GivenBy around.environment args ∧ command.EndsIn around (run around args) ∧
      (∀ front back, "--" ∉ front → args = front ++ "--json" :: back →
        ∃ plain, readArguments around.environment false (front ++ back) = .ok plain ∧
          plain.json = false ∧ command = plain.setJson true ∧
          (run around (front ++ back)).exitCode = (run around args).exitCode) ∧
      (∀ front back command', "--" ∉ front → args = front ++ back →
        readArguments around.environment false (front ++ "--json" :: back) = .ok command' →
          command.json = false ∧ command' = command.setJson true ∧
          (run around (front ++ "--json" :: back)).exitCode = (run around args).exitCode) ∧
      (command.json = false → ∃ front back, "--" ∉ front ∧ args = front ++ back ∧
        readArguments around.environment false (front ++ "--json" :: back) =
          .ok (command.setJson true)) := by
  refine ⟨givenBy_of_readArguments h, ?_, ?_, ?_, readArguments_insert h⟩
  · rw [run_of_readArguments h]
    exact endsIn_run command
  · rintro front back hfront rfl
    obtain ⟨plain, hplain, hjson, rfl⟩ := readArguments_remove hfront h
    refine ⟨plain, hplain, hjson, rfl, ?_⟩
    rw [run_of_readArguments h, run_of_readArguments hplain, exitCode_setJson]
  · rintro front back command' hfront rfl h'
    obtain ⟨plain, hplain, hjson, rfl⟩ := readArguments_remove hfront h'
    obtain rfl := Except.ok.inj (h.symm.trans hplain)
    refine ⟨hjson, rfl, ?_⟩
    rw [run_of_readArguments h, run_of_readArguments h', exitCode_setJson]

theorem run_modes_agree_input :
    let around : Surroundings :=
      { contentsAt := fun _ => .error .missing, standardInput := "eval(x)".toUTF8
        environment := [(batchSizeVariable, "2")], network := .unreachable }
    let args := ["analyze", "--filename=a.py", "--json"]
    let request : Request := { code := "eval(x)", filename := some "a.py" }
    readArguments around.environment false args =
        .ok (.analyze none (some "a.py") none false true ⟨5, 2⟩) ∧
      around.Holds none "eval(x)" ∧
      (run around args).Shows ((Command.engine around ⟨5, 2⟩).analyzeOutcome request) Report.fields
        true Report.HasFindings ∧
      HasFlag args "json" ∧
      (run around ["analyze", "--filename=a.py"]).exitCode = (run around args).exitCode ∧
      (run around args).exitCode = 1 := by
  intro around args request
  have haccepted : readArguments around.environment false args =
      .ok (.analyze none (some "a.py") none false true ⟨5, 2⟩) := rfl
  have hholds : around.Holds none "eval(x)" := rfl
  obtain ⟨hgiven, ⟨-, hshows⟩, hremove, -⟩ := run_modes_agree around args _ haccepted
  obtain ⟨-, -, -, -, hcode⟩ := hremove ["analyze", "--filename=a.py"] [] (by decide) rfl
  exact ⟨haccepted, hholds, hshows _ hholds, hgiven.2.2.2.2.1.mp rfl, hcode, by decide +kernel⟩

end Cli
end Checkup
