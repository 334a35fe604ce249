import Checkup.Proofs.Options

/-!
# Commands

A command line consists of options that lead it, the name of a command, and the arguments of that
command, and the command asks for what these say. The option for JSON can be put among them or taken
away, and the command stays the same but for how it shows what comes out.
-/

namespace Checkup.Cli

namespace Command

def json : Command → Bool
  | analyze _ _ _ _ json _ => json
  | verify _ json _ => json

/-- The same command with another way to show what comes out. -/
def setJson (json : Bool) : Command → Command
  | analyze path filename language verifyLinks _ limits =>
    analyze path filename language verifyLinks json limits
  | verify urls _ limits => verify urls json limits

end Command

/-- The limit is what its option says, or else its variable in the environment, or else five. -/
structure LimitGivenBy (environment : List (String × String)) (args : List String)
    (option fromEnvironment : String) (limit : Nat) : Prop where
  of_option : ∀ text, HasValue args option text → readNumber? text = some limit
  of_environment : (∀ text, ¬HasValue args option text) →
    ∀ text, environment.lookup fromEnvironment = some text → readNumber? text = some limit
  of_neither : (∀ text, ¬HasValue args option text) →
    environment.lookup fromEnvironment = none → limit = 5

def ProbeLimits.GivenBy (environment : List (String × String)) (args : List String)
    (limits : ProbeLimits) : Prop :=
  LimitGivenBy environment args "timeout-secs" timeoutVariable limits.timeoutSeconds ∧
    LimitGivenBy environment args "batch-size" batchSizeVariable limits.batchSize

/-- The command asks for what the arguments say. -/
def Command.GivenBy (environment : List (String × String)) (args : List String) : Command → Prop
  | analyze path filename language verifyLinks json limits =>
    otherArguments ["filename", "language", "timeout-secs", "batch-size"] false args =
        "analyze" :: path.toList ∧
      (∀ name, filename = some name ↔ HasValue args "filename" name) ∧
      (∀ tag, language = some tag ↔
        ∃ text, HasValue args "language" text ∧ Language.parse? text = some tag) ∧
      (verifyLinks ↔ HasFlag args "verify-links") ∧ (json ↔ HasFlag args "json") ∧
      limits.GivenBy environment args
  | verify urls json limits =>
    otherArguments ["timeout-secs", "batch-size"] false args = "verify" :: urls ∧ urls ≠ [] ∧
      (json ↔ HasFlag args "json") ∧ limits.GivenBy environment args

/-- What is read of the arguments of the one command. -/
def Given.analyze (given : Given) (limits : ProbeLimits) : Command :=
  .analyze given.others.head? (given.values.lookup "filename")
    ((given.values.lookup "language").bind Language.parse?)
    (given.flags.contains "verify-links") (given.flags.contains "json") limits

/-- What is read of the arguments of the other command. -/
def Given.verify (given : Given) (limits : ProbeLimits) : Command :=
  .verify given.others.reverse (given.flags.contains "json") limits

/-- The argument is no option of a command, with a value or without. -/
def Leads (arg : String) : Prop :=
  (∀ name, name ≠ "verbose" → arg ≠ optionText name) ∧ ∀ name value, arg ≠ attachedText name value

/-- A command line consists of what leads it, the name of a command, and the arguments of that
command, whatever they are. -/
structure Parts (environment : List (String × String)) (verbose : Bool) (args lead : List String)
    (name : String) (rest : List String) : Prop where
  args_eq : args = (lead ++ [name]) ++ rest
  leads : ∀ arg ∈ lead ++ [name], Leads arg
  lead_option : ∀ arg ∈ lead, Given.looksLikeOption arg
  name_other : ¬Given.looksLikeOption name
  read_eq : ∀ rest', readArguments environment verbose ((lead ++ [name]) ++ rest') =
    readCommand environment name rest'

variable {environment : List (String × String)} {name value arg : String}
  {args lead rest : List String} {command plain : Command} {given : Given} {limits : ProbeLimits}
  {verbose verbose' : Bool}

lemma optionText_json : optionText "json" = "--json" := by decide

lemma optionText_verbose : optionText "verbose" = "--verbose" := by decide

lemma isName_json : IsName "json" := ⟨by decide, by decide⟩

lemma Leads.ne_hyphens (h : Leads arg) : arg ≠ "--" := h.1 "" (by decide)

lemma leads_of_toList (h : ∀ cs, arg.toList ≠ '-' :: '-' :: cs) : Leads arg := by
  refine ⟨fun name _ harg => ?_, fun name value harg => ?_⟩
  · exact h _ (harg ▸ toList_optionText)
  · exact h _ (harg ▸ toList_attachedText)

lemma leads_verbose : Leads (optionText "verbose") := by
  refine ⟨fun name hname harg => hname (optionText_inj.mp harg).symm, fun name value harg => ?_⟩
  exact attachedText_ne_optionText (by decide) harg.symm

lemma leads_of_not_looksLikeOption (h : ¬Given.looksLikeOption arg) : Leads arg := by
  refine ⟨fun name _ harg => ?_, fun name value harg => ?_⟩
  · exact h (harg ▸ Given.looksLikeOption_optionText name)
  · exact h (harg ▸ Given.looksLikeOption_attachedText name value)

lemma commandName_other (h : commandNames.contains name) : ¬Given.looksLikeOption name := by
  intro hlooks
  obtain ⟨c, cs, hname⟩ := Given.looksLikeOption_iff.mp hlooks
  have hmem : name ∈ commandNames := List.contains_iff_mem.mp h
  simp only [commandNames, List.mem_cons, List.not_mem_nil, or_false] at hmem
  rcases hmem with rfl | rfl | rfl <;> simp at hname

lemma Parts.cons (h : Parts environment verbose' args lead name rest) (harg : Leads arg)
    (hoption : Given.looksLikeOption arg)
    (hread : ∀ rest, readArguments environment verbose (arg :: rest) =
      readArguments environment verbose' rest) :
    Parts environment verbose (arg :: args) (arg :: lead) name rest := by
  refine ⟨by rw [h.args_eq]; rfl, ?_, ?_, h.name_other, fun rest' => ?_⟩
  · exact List.forall_mem_cons.mpr ⟨harg, h.leads⟩
  · exact List.forall_mem_cons.mpr ⟨hoption, h.lead_option⟩
  · rw [List.cons_append, List.cons_append, hread, h.read_eq]

/-- A command line that is accepted has its parts. -/
lemma exists_parts (h : readArguments environment verbose args = .ok command) :
    ∃ lead name rest, Parts environment verbose args lead name rest := by
  induction args generalizing verbose with
  | nil => simp [readArguments] at h
  | cons arg args ih =>
    by_cases hname : commandNames.contains arg
    · have hother := commandName_other hname
      refine ⟨[], arg, args, rfl, ?_, by simp, hother, fun rest' => ?_⟩
      · simpa using leads_of_not_looksLikeOption hother
      · rw [List.nil_append, List.singleton_append, readArguments, if_pos hname]
    · rw [readArguments, if_neg hname] at h
      split_ifs at h with hverbose hgiven hhelp hversion
      · obtain ⟨lead, name, rest, hparts⟩ := ih h
        have harg : arg = optionText "verbose" :=
          (beq_iff_eq.mp hverbose).trans optionText_verbose.symm
        refine ⟨arg :: lead, name, rest, hparts.cons (harg ▸ leads_verbose) ?_ fun rest => ?_⟩
        · exact harg ▸ Given.looksLikeOption_optionText "verbose"
        · rw [readArguments, if_neg hname, if_pos hverbose, if_neg hgiven]
      · split at h
        · next c letters hletters =>
          split_ifs at h with hc
          rw [bind_eq_ok] at h
          obtain ⟨verbose', hverbose', hrest⟩ := h
          obtain ⟨lead, name, rest, hparts⟩ := ih hrest
          have harg : Leads arg := by
            apply leads_of_toList
            intro cs hcs
            rw [hletters] at hcs
            exact hc (by simpa using (List.cons.inj (List.cons.inj hcs).2).1)
          have hoption := Given.looksLikeOption_iff.mpr ⟨c, letters, hletters⟩
          refine ⟨arg :: lead, name, rest, hparts.cons harg hoption fun rest => ?_⟩
          rw [readArguments, if_neg hname, if_neg hverbose, if_neg hhelp, if_neg hversion, hletters]
          simp only [if_neg hc, hverbose', ok_bind]
        · cases h

section Parts

variable (h : Parts environment verbose args lead name rest)
include h

lemma Parts.hyphens_notMem : "--" ∉ lead ++ [name] :=
  fun hmem => (h.leads _ hmem).ne_hyphens rfl

/-- An option of a command stands behind the name of the command. -/
lemma Parts.exists_append {front back : List String} (harg : ¬Leads arg)
    (hargs : args = front ++ arg :: back) :
    ∃ mid, front = (lead ++ [name]) ++ mid ∧ rest = mid ++ arg :: back :=
  exists_append_of_notMem (fun hmem => harg (h.leads _ hmem)) (h.args_eq.symm.trans hargs)

lemma Parts.hasFlag_iff {flag : String} (hflag : flag ≠ "verbose") :
    HasFlag args flag ↔ HasFlag rest flag := by
  constructor
  · rintro ⟨front, back, hfront, hargs⟩
    obtain ⟨mid, rfl, hrest⟩ := h.exists_append (fun hleads => hleads.1 flag hflag rfl) hargs
    exact ⟨mid, back, fun hmem => hfront (List.mem_append_right _ hmem), hrest⟩
  · intro hrest
    rw [h.args_eq]
    exact hrest.append h.hyphens_notMem

lemma Parts.hasValue_iff {option : String} (hoption : option ≠ "verbose") :
    HasValue args option value ↔ HasValue rest option value := by
  constructor
  · rintro ⟨front, back, hfront, hargs | hargs⟩
    · obtain ⟨mid, rfl, hrest⟩ := h.exists_append (fun hleads => hleads.1 option hoption rfl) hargs
      exact ⟨mid, back, fun hmem => hfront (List.mem_append_right _ hmem), .inl hrest⟩
    · obtain ⟨mid, rfl, hrest⟩ := h.exists_append (fun hleads => hleads.2 option value rfl) hargs
      exact ⟨mid, back, fun hmem => hfront (List.mem_append_right _ hmem), .inr hrest⟩
  · intro hrest
    rw [h.args_eq]
    exact hrest.append h.hyphens_notMem

/-- The name of the command is the first argument that is neither an option nor a value. -/
lemma Parts.otherArguments_eq {valued : List String} (hvalued : "verbose" ∉ valued) :
    otherArguments valued false args = name :: otherArguments valued false rest := by
  have hlead {lead : List String} (hleads : ∀ arg ∈ lead, Leads arg)
      (hoptions : ∀ arg ∈ lead, Given.looksLikeOption arg) (args : List String) :
      otherArguments valued false (lead ++ args) = otherArguments valued false args := by
    induction lead with
    | nil => rfl
    | cons arg lead ih =>
      obtain ⟨harg, hleads⟩ := List.forall_mem_cons.mp hleads
      obtain ⟨hoption, hoptions⟩ := List.forall_mem_cons.mp hoptions
      rw [List.cons_append, Given.otherArguments_option hoption harg.ne_hyphens, ih hleads hoptions]
      exact fun name hname => harg.1 name (fun heq => hvalued (heq ▸ hname))
  have hname : name ≠ "--" := (h.leads name (by simp)).ne_hyphens
  have hleads : ∀ arg ∈ lead, Leads arg := fun arg harg => h.leads arg (List.mem_append_left _ harg)
  rw [h.args_eq, List.append_assoc, hlead hleads h.lead_option, List.singleton_append,
    otherArguments, if_neg hname, if_neg h.name_other]

lemma Parts.limitGivenBy {options : Options} {option fromEnvironment : String} {limit : Nat}
    (hreads : Given.Reads options {} rest given)
    (hlimit : given.number environment option fromEnvironment 5 = .ok limit)
    (hoption : IsName option) (hne : option ≠ "verbose")
    (hvalued : (options.valued.lookup option).isSome) :
    LimitGivenBy environment args option fromEnvironment limit := by
  have hvalue (text : String) :
      given.values.lookup option = some text ↔ HasValue args option text := by
    rw [hreads.lookup_values_iff hoption hvalued, h.hasValue_iff hne]
  have hnone (hnot : ∀ text, ¬HasValue args option text) : given.values.lookup option = none := by
    rw [Option.eq_none_iff_forall_ne_some]
    exact fun text htext => hnot text ((hvalue text).mp htext)
  have hread {text : String}
      (htext : (given.values.lookup option).or (environment.lookup fromEnvironment) = some text) :
      readNumber? text = some limit := by
    rw [Given.number, htext] at hlimit
    cases hnumber : readNumber? text with
    | none => simp [hnumber] at hlimit
    | some n => simpa [hnumber] using hlimit
  constructor
  · intro text htext
    exact hread (by rw [(hvalue text).mpr htext, Option.some_or])
  · intro hnot text htext
    exact hread (by rw [hnone hnot, Option.none_or, htext])
  · intro hnot henvironment
    rw [Given.number, hnone hnot, henvironment] at hlimit
    exact (Except.ok.inj hlimit).symm

lemma Parts.limits_givenBy {options : Options} (hreads : Given.Reads options {} rest given)
    (hlimits : given.limits environment = .ok limits)
    (htimeout : (options.valued.lookup "timeout-secs").isSome)
    (hbatch : (options.valued.lookup "batch-size").isSome) :
    limits.GivenBy environment args := by
  unfold Given.limits at hlimits
  rw [bind_eq_ok] at hlimits
  obtain ⟨timeoutSeconds, htimeoutSeconds, hlimits⟩ := hlimits
  rw [bind_eq_ok] at hlimits
  obtain ⟨batchSize, hbatchSize, hlimits⟩ := hlimits
  obtain rfl := Except.ok.inj hlimits
  constructor
  · exact h.limitGivenBy hreads htimeoutSeconds ⟨by decide, by decide⟩ (by decide) htimeout
  · exact h.limitGivenBy hreads hbatchSize ⟨by decide, by decide⟩ (by decide) hbatch

end Parts

lemma Parts.analyze_givenBy (h : Parts environment verbose args lead "analyze" rest)
    (hreads : Given.Reads analyzeOptions {} rest given)
    (hlimits : given.limits environment = .ok limits) :
    (given.analyze limits).GivenBy environment args := by
  refine ⟨?_, fun name => ?_, fun tag => ?_, ?_, ?_, h.limits_givenBy hreads hlimits rfl rfl⟩
  · have hlength := hreads.length_others rfl (Nat.zero_le 1)
    have hone : given.others.reverse = given.others.head?.toList := by
      match given.others, hlength with
      | [], _ => rfl
      | [file], _ => rfl
    rw [h.otherArguments_eq (by decide), ← hone, hreads.others_eq (by decide), List.append_nil,
      List.reverse_reverse]
    rfl
  · rw [h.hasValue_iff (by decide)]
    exact hreads.lookup_values_iff ⟨by decide, by decide⟩ rfl
  · rw [Option.bind_eq_some_iff]
    refine exists_congr fun text => and_congr_left fun _ => ?_
    rw [h.hasValue_iff (by decide)]
    exact hreads.lookup_values_iff ⟨by decide, by decide⟩ rfl
  · rw [h.hasFlag_iff (by decide), List.contains_iff_mem]
    exact hreads.mem_flags_iff ⟨by decide, by decide⟩ rfl (by decide)
  · rw [h.hasFlag_iff (by decide), List.contains_iff_mem]
    exact hreads.mem_flags_iff isName_json rfl (by decide)

lemma Parts.verify_givenBy (h : Parts environment verbose args lead "verify" rest)
    (hreads : Given.Reads verifyOptions {} rest given) (hothers : given.others ≠ [])
    (hlimits : given.limits environment = .ok limits) :
    (given.verify limits).GivenBy environment args := by
  refine ⟨?_, by simpa using hothers, ?_, h.limits_givenBy hreads hlimits rfl rfl⟩
  · have hurls := hreads.others_eq (by decide)
    rw [List.append_nil] at hurls
    rw [h.otherArguments_eq (by decide), hurls, List.reverse_reverse]
    rfl
  · rw [h.hasFlag_iff (by decide), List.contains_iff_mem]
    exact hreads.mem_flags_iff isName_json rfl (by decide)

lemma readCommand_analyze : readCommand environment "analyze" args = .ok command ↔
    ∃ given limits, Given.Reads analyzeOptions {} args given ∧
      given.limits environment = .ok limits ∧ given.analyze limits = command := by
  unfold readCommand
  rw [if_pos (by rfl), bind_eq_ok]
  simp only [bind_eq_ok, pure_eq_ok, Except.ok.injEq, Given.read_eq_ok_iff, exists_and_left]
  rfl

lemma readCommand_verify : readCommand environment "verify" args = .ok command ↔
    ∃ given limits, Given.Reads verifyOptions {} args given ∧ given.others ≠ [] ∧
      given.limits environment = .ok limits ∧ given.verify limits = command := by
  have hrest (given : Given) : (if given.others = [] then do
        throw .usage
        let limits ← given.limits environment
        return given.verify limits
      else do
        let limits ← given.limits environment
        return given.verify limits) = .ok command ↔
      given.others ≠ [] ∧ ∃ limits, given.limits environment = .ok limits ∧
        given.verify limits = command := by
    split_ifs with hothers
    · simp [hothers, bind_eq_ok, throw, throwThe, MonadExceptOf.throw]
    · simp [hothers, bind_eq_ok, pure_eq_ok]
  unfold readCommand
  rw [if_neg (by decide), if_pos (by rfl), bind_eq_ok]
  simp only [Given.read_eq_ok_iff, exists_and_left]
  exact exists_congr fun given => and_congr_right fun _ => hrest given

lemma readCommand_cases (h : readCommand environment name args = .ok command) :
    name = "analyze" ∨ name = "verify" := by
  unfold readCommand at h
  split_ifs at h with hanalyze hverify
  · exact .inl (beq_iff_eq.mp hanalyze)
  · exact .inr (beq_iff_eq.mp hverify)

theorem givenBy_of_readArguments (h : readArguments environment false args = .ok command) :
    command.GivenBy environment args := by
  obtain ⟨lead, name, rest, hparts⟩ := exists_parts h
  rw [hparts.args_eq, hparts.read_eq] at h
  rcases readCommand_cases h with rfl | rfl
  · obtain ⟨given, limits, hreads, hlimits, rfl⟩ := readCommand_analyze.mp h
    exact hparts.analyze_givenBy hreads hlimits
  · obtain ⟨given, limits, hreads, hothers, hlimits, rfl⟩ := readCommand_verify.mp h
    exact hparts.verify_givenBy hreads hothers hlimits

namespace Given

variable {plain : Given}

lemma AddsFlag.contains_eq (h : AddsFlag "json" plain given) (hname : name ≠ "json") :
    given.flags.contains name = plain.flags.contains name := by
  rw [Bool.eq_iff_iff, List.contains_iff_mem, List.contains_iff_mem, h.mem_flags]
  exact or_iff_right hname

lemma AddsFlag.contains_json (h : AddsFlag "json" plain given) :
    given.flags.contains "json" = true ∧ plain.flags.contains "json" = false := by
  refine ⟨List.contains_iff_mem.mpr ((h.mem_flags "json").mpr (.inl rfl)), ?_⟩
  rw [Bool.eq_false_iff]
  exact mt List.contains_iff_mem.mp h.notMem

lemma AddsFlag.analyze_eq (h : AddsFlag "json" plain given) (limits : ProbeLimits) :
    given.analyze limits = (plain.analyze limits).setJson true ∧
      (plain.analyze limits).json = false := by
  obtain ⟨hjson, hplain⟩ := h.contains_json
  refine ⟨?_, hplain⟩
  rw [analyze, hjson, h.values, h.others, h.contains_eq (by decide)]
  rfl

lemma AddsFlag.verify_eq (h : AddsFlag "json" plain given) (limits : ProbeLimits) :
    given.verify limits = (plain.verify limits).setJson true ∧
      (plain.verify limits).json = false := by
  obtain ⟨hjson, hplain⟩ := h.contains_json
  refine ⟨?_, hplain⟩
  rw [verify, hjson, h.others]
  rfl

lemma AddsFlag.limits_eq (h : AddsFlag "json" plain given) :
    given.limits environment = plain.limits environment := by
  simp only [Given.limits, Given.number, h.values]

end Given

/-- Without the option for JSON a command is read as with it. -/
lemma readCommand_remove {front back : List String} (hfront : "--" ∉ front)
    (h : readCommand environment name (front ++ "--json" :: back) = .ok command) :
    ∃ plain, readCommand environment name (front ++ back) = .ok plain ∧
      plain.json = false ∧ command = plain.setJson true := by
  rw [← optionText_json] at h
  rcases readCommand_cases h with rfl | rfl
  · obtain ⟨given, limits, hreads, hlimits, rfl⟩ := readCommand_analyze.mp h
    obtain ⟨plain, hplain, hadds⟩ := hreads.remove_flag hfront isName_json rfl
    obtain ⟨hcommand, hjson⟩ := hadds.analyze_eq limits
    have hlimits' := hadds.limits_eq.symm.trans hlimits
    exact ⟨_, readCommand_analyze.mpr ⟨plain, limits, hplain, hlimits', rfl⟩, hjson, hcommand⟩
  · obtain ⟨given, limits, hreads, hothers, hlimits, rfl⟩ := readCommand_verify.mp h
    obtain ⟨plain, hplain, hadds⟩ := hreads.remove_flag hfront isName_json rfl
    obtain ⟨hcommand, hjson⟩ := hadds.verify_eq limits
    have hlimits' := hadds.limits_eq.symm.trans hlimits
    have hothers' : plain.others ≠ [] := hadds.others ▸ hothers
    exact ⟨_, readCommand_verify.mpr ⟨plain, limits, hplain, hothers', hlimits', rfl⟩, hjson,
      hcommand⟩

/-- The option for JSON can be put behind the name of a command. -/
lemma readCommand_insert (h : readCommand environment name args = .ok plain)
    (hjson : plain.json = false) :
    readCommand environment name ("--json" :: args) = .ok (plain.setJson true) := by
  have hnotMem {given : Given} (hcontains : given.flags.contains "json" = false) :
      "json" ∉ given.flags := by
    rw [← List.contains_iff_mem, hcontains]
    exact Bool.false_ne_true
  rw [← optionText_json]
  rcases readCommand_cases h with rfl | rfl
  · obtain ⟨given, limits, hreads, hlimits, rfl⟩ := readCommand_analyze.mp h
    obtain ⟨result, hresult, hadds⟩ :=
      hreads.insert_flag (hnotMem hjson) isName_json rfl (by decide) (by decide)
    rw [← (hadds.analyze_eq limits).1]
    exact readCommand_analyze.mpr ⟨result, limits, hresult, hadds.limits_eq.trans hlimits, rfl⟩
  · obtain ⟨given, limits, hreads, hothers, hlimits, rfl⟩ := readCommand_verify.mp h
    obtain ⟨result, hresult, hadds⟩ :=
      hreads.insert_flag (hnotMem hjson) isName_json rfl (by decide) (by decide)
    have hothers' : result.others ≠ [] := hadds.others ▸ hothers
    rw [← (hadds.verify_eq limits).1]
    exact readCommand_verify.mpr
      ⟨result, limits, hresult, hothers', hadds.limits_eq.trans hlimits, rfl⟩

/-- Without the option for JSON a command line is read as with it. -/
theorem readArguments_remove {front back : List String} (hfront : "--" ∉ front)
    (h : readArguments environment false (front ++ "--json" :: back) = .ok command) :
    ∃ plain, readArguments environment false (front ++ back) = .ok plain ∧
      plain.json = false ∧ command = plain.setJson true := by
  obtain ⟨lead, name, rest, hparts⟩ := exists_parts h
  have hoption : ¬Leads "--json" := fun hleads => hleads.1 "json" (by decide) optionText_json.symm
  obtain ⟨mid, rfl, rfl⟩ := hparts.exists_append hoption rfl
  rw [hparts.args_eq, hparts.read_eq] at h
  rw [List.append_assoc, hparts.read_eq]
  exact readCommand_remove (fun hmem => hfront (List.mem_append_right _ hmem)) h

/-- There is a place for the option for JSON among the arguments of any command. -/
theorem readArguments_insert (h : readArguments environment false args = .ok plain)
    (hjson : plain.json = false) :
    ∃ front back, "--" ∉ front ∧ args = front ++ back ∧
      readArguments environment false (front ++ "--json" :: back) = .ok (plain.setJson true) := by
  obtain ⟨lead, name, rest, hparts⟩ := exists_parts h
  refine ⟨lead ++ [name], rest, hparts.hyphens_notMem, hparts.args_eq, ?_⟩
  rw [hparts.args_eq, hparts.read_eq] at h
  rw [hparts.read_eq]
  exact readCommand_insert h hjson

end Checkup.Cli
