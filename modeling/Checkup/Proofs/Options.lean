import Checkup.Proofs.Arguments

/-!
# What options come to

An option is in effect if it stands among the arguments, in front of two hyphens alone. One that has
no value can be put there or taken away without a change to how the rest is read.
-/

namespace Checkup.Cli

/-- The option stands among the arguments. -/
def HasFlag (args : List String) (name : String) : Prop :=
  ∃ front back, "--" ∉ front ∧ args = front ++ optionText name :: back

/-- The option stands among the arguments, with the value behind it or attached to it. -/
def HasValue (args : List String) (name value : String) : Prop :=
  ∃ front back, "--" ∉ front ∧ (args = front ++ optionText name :: value :: back ∨
    args = front ++ attachedText name value :: back)

lemma HasFlag.append {args lead : List String} {name : String} (h : HasFlag args name)
    (hlead : "--" ∉ lead) : HasFlag (lead ++ args) name := by
  obtain ⟨front, back, hfront, rfl⟩ := h
  exact ⟨lead ++ front, back, List.not_mem_append hlead hfront, by rw [List.append_assoc]⟩

lemma HasValue.append {args lead : List String} {name value : String} (h : HasValue args name value)
    (hlead : "--" ∉ lead) : HasValue (lead ++ args) name value := by
  obtain ⟨front, back, hfront, rfl | rfl⟩ := h
  · exact ⟨lead ++ front, back, List.not_mem_append hlead hfront, .inl (by rw [List.append_assoc])⟩
  · exact ⟨lead ++ front, back, List.not_mem_append hlead hfront, .inr (by rw [List.append_assoc])⟩

/-- The arguments that are neither options nor their values; `awaiting` tells whether the value of
an option comes next. -/
def otherArguments (valued : List String) : (awaiting : Bool) → List String → List String
  | _, [] => []
  | true, _ :: args => otherArguments valued false args
  | false, arg :: args =>
    if arg = "--" then args
    else if Given.looksLikeOption arg then
      otherArguments valued (valued.any (arg = optionText ·)) args
    else arg :: otherArguments valued false args

namespace Given

/-- The same has been read, and one option without a value besides. -/
structure AddsFlag (flag : String) (plain given : Given) : Prop where
  values : given.values = plain.values
  others : given.others = plain.others
  mem_flags : ∀ name, name ∈ given.flags ↔ name = flag ∨ name ∈ plain.flags
  notMem : flag ∉ plain.flags

variable {options : Options} {given next result : Given} {piece args : List String}
  {add : Given → Except Stop Given} {name value : String}

lemma addValue_eq_ok : given.addValue options name value = .ok next ↔
    given.values.lookup name = none ∧ (options.valued.lookup name).any (· value) ∧
      next = { given with values := (name, value) :: given.values } := by
  unfold addValue
  split_ifs with hgiven hvalue
  · have hsome := Option.isSome_iff_ne_none.mp hgiven
    simp [hsome]
  · have hnone := Option.not_isSome_iff_eq_none.mp hgiven
    simp [hnone, hvalue, eq_comm]
  · simp [hvalue]

lemma addFlag_eq_ok : given.addFlag name = .ok next ↔
    name ∉ given.flags ∧ next = { given with flags := name :: given.flags } := by
  unfold addFlag
  split_ifs with hgiven
  · have hmem := List.contains_iff_mem.mp hgiven
    simp [hmem]
  · have hnot := mt List.contains_iff_mem.mpr hgiven
    simp [hnot, eq_comm]

lemma addOther_eq_ok {text : String} : given.addOther options text = .ok next ↔
    ¬options.most.any (· ≤ given.others.length) ∧ options.accepts text ∧
      next = { given with others := text :: given.others } := by
  unfold addOther
  split_ifs with hmany
  · rw [Bool.or_eq_true, Bool.not_eq_true'] at hmany
    rcases hmany with hmany | hrejected
    · simp [hmany]
    · simp [hrejected]
  · rw [Bool.or_eq_true, Bool.not_eq_true', not_or, Bool.not_eq_false] at hmany
    simp [hmany.1, hmany.2, eq_comm]

lemma addLetters_ne_ok {c : Char} {cs : List Char} (hc : c ≠ 'v') :
    given.addLetters (c :: cs) ≠ .ok next := by
  unfold addLetters
  split
  · next heq => cases heq
  · next heq => exact absurd (List.cons.inj heq).1 hc
  · simp
  · simp

/-- Only one letter can be added, and only once. -/
lemma addLetters_eq_ok {c : Char} {cs : List Char} : given.addLetters (c :: cs) = .ok next ↔
    c :: cs = ['v'] ∧ given.addFlag "verbose" = .ok next := by
  constructor
  · intro h
    by_cases hc : c = 'v'
    · subst hc
      rw [addLetters, bind_eq_ok] at h
      obtain ⟨mid, hmid, hrest⟩ := h
      cases cs with
      | nil =>
        rw [addLetters, Except.ok.injEq] at hrest
        exact ⟨rfl, hrest ▸ hmid⟩
      | cons d ds =>
        have hd : d = 'v' := by
          by_contra hne
          exact addLetters_ne_ok hne hrest
        subst hd
        rw [addLetters, bind_eq_ok] at hrest
        -- The second letter would give the same option again.
        obtain ⟨_, hagain, -⟩ := hrest
        obtain ⟨-, rfl⟩ := addFlag_eq_ok.mp hmid
        exact absurd List.mem_cons_self (addFlag_eq_ok.mp hagain).1
    · exact absurd h (addLetters_ne_ok hc)
  · rintro ⟨hletters, hadd⟩
    rw [hletters, addLetters, hadd, ok_bind, addLetters]

/-- What a piece that is read adds. -/
lemma Piece.cases_of_ok (hpiece : Piece options piece add) (hadd : add given = .ok next) :
    (∃ name value, (piece = [optionText name, value] ∨ piece = [attachedText name value]) ∧
      given.values.lookup name = none ∧
      next = { given with values := (name, value) :: given.values }) ∨
    (∃ name, (piece = [optionText name] ∨ name = "verbose") ∧
      next = { given with flags := name :: given.flags }) ∨
    ∃ text, given.addOther options text = .ok next ∧
      next = { given with others := text :: given.others } := by
  cases hpiece with
  | @value name text _ _ _ =>
    obtain ⟨hnone, -, hnext⟩ := addValue_eq_ok.mp hadd
    exact .inl ⟨name, text, .inl rfl, hnone, hnext⟩
  | @attached name text _ _ =>
    obtain ⟨hnone, -, hnext⟩ := addValue_eq_ok.mp hadd
    exact .inl ⟨name, text, .inr rfl, hnone, hnext⟩
  | @flag name _ _ _ _ =>
    obtain ⟨-, hnext⟩ := addFlag_eq_ok.mp hadd
    exact .inr (.inl ⟨name, .inl rfl, hnext⟩)
  | letters _ =>
    obtain ⟨-, hverbose⟩ := addLetters_eq_ok.mp hadd
    obtain ⟨-, hnext⟩ := addFlag_eq_ok.mp hverbose
    exact .inr (.inl ⟨"verbose", .inr rfl, hnext⟩)
  | @other text _ =>
    obtain ⟨-, -, hnext⟩ := addOther_eq_ok.mp hadd
    exact .inr (.inr ⟨text, hadd, hnext⟩)

/-- Behind two hyphens there are neither options nor values. -/
lemma foldlM_addOther {others : List String}
    (h : others.foldlM (fun given text => given.addOther options text) given = .ok result) :
    result.values = given.values ∧ result.flags = given.flags ∧
      result.others = others.reverse ++ given.others := by
  induction others generalizing given with
  | nil =>
    obtain rfl := Except.ok.inj h
    exact ⟨rfl, rfl, rfl⟩
  | cons text others ih =>
    rw [List.foldlM_cons, bind_eq_ok] at h
    obtain ⟨next, hnext, hrest⟩ := h
    obtain ⟨-, -, rfl⟩ := addOther_eq_ok.mp hnext
    obtain ⟨hvalues, hflags, hothers⟩ := ih hrest
    exact ⟨hvalues, hflags, by simp [hothers]⟩

lemma Reads.flags_subset (h : Reads options given args result) : given.flags ⊆ result.flags := by
  induction h with
  | nil given => exact List.Subset.refl _
  | hyphens hothers => exact (foldlM_addOther hothers).2.1 ▸ List.Subset.refl _
  | piece hpiece hadd _ ih =>
    refine List.Subset.trans ?_ ih
    obtain ⟨_, _, -, -, rfl⟩ | ⟨name, -, rfl⟩ | ⟨_, -, rfl⟩ := hpiece.cases_of_ok hadd
    · exact List.Subset.refl _
    · exact List.subset_cons_self name _
    · exact List.Subset.refl _

lemma Reads.lookup_values (h : Reads options given args result)
    (hvalue : given.values.lookup name = some value) :
    result.values.lookup name = some value := by
  induction h with
  | nil given => exact hvalue
  | hyphens hothers => exact (foldlM_addOther hothers).1 ▸ hvalue
  | piece hpiece hadd _ ih =>
    apply ih
    obtain ⟨other, _, -, hnone, rfl⟩ | ⟨_, -, rfl⟩ | ⟨_, -, rfl⟩ := hpiece.cases_of_ok hadd
    · have hne : name ≠ other := by
        rintro rfl
        rw [hnone] at hvalue
        cases hvalue
      rw [List.lookup_cons, beq_eq_false_iff_ne.mpr hne]
      exact hvalue
    · exact hvalue
    · exact hvalue

lemma otherArguments_option {valued : List String} {arg : String} (hoption : looksLikeOption arg)
    (harg : arg ≠ "--") (hnot : ∀ name ∈ valued, arg ≠ optionText name) :
    otherArguments valued false (arg :: args) = otherArguments valued false args := by
  have hany : valued.any (arg = optionText ·) = false := by simpa using hnot
  rw [otherArguments, if_neg harg, if_pos hoption, hany]

lemma otherArguments_value {valued : List String} (hname : name ∈ valued)
    (harg : optionText name ≠ "--") :
    otherArguments valued false (optionText name :: value :: args) =
      otherArguments valued false args := by
  have hany : valued.any (optionText name = optionText ·) := by
    simp only [List.any_eq_true, decide_eq_true_eq]
    exact ⟨name, hname, rfl⟩
  rw [otherArguments, if_neg harg, if_pos (looksLikeOption_optionText name), hany, otherArguments]

/-- A piece that is read adds the other argument in it, if it has one. -/
lemma Piece.others_eq (hpiece : Piece options piece add) (hadd : add given = .ok next)
    (hnames : ∀ option ∈ options.valued, '=' ∉ option.1.toList) :
    (otherArguments (options.valued.map (·.1)) false (piece ++ args)).reverse ++ given.others =
      (otherArguments (options.valued.map (·.1)) false args).reverse ++ next.others := by
  have hhyphens := hpiece.hyphens_notMem
  cases hpiece with
  | @value name text hname hvalued htext =>
    obtain ⟨-, -, rfl⟩ := addValue_eq_ok.mp hadd
    obtain ⟨option, hoption, hsame⟩ := List.lookup_isSome_iff.mp hvalued
    have hmem : name ∈ options.valued.map (·.1) :=
      List.mem_map.mpr ⟨option, hoption, (beq_iff_eq.mp hsame).symm⟩
    have harg : optionText name ≠ "--" := fun heq => hhyphens (heq ▸ List.mem_cons_self)
    rw [List.cons_append, List.singleton_append, otherArguments_value hmem harg]
  | @attached name text hname hvalued =>
    obtain ⟨-, -, rfl⟩ := addValue_eq_ok.mp hadd
    have harg : attachedText name text ≠ "--" := fun heq => hhyphens (heq ▸ List.mem_cons_self)
    rw [List.singleton_append, otherArguments_option (looksLikeOption_attachedText name text) harg]
    intro other hother
    obtain ⟨option, hoption, rfl⟩ := List.mem_map.mp hother
    exact attachedText_ne_optionText (hnames option hoption)
  | @flag name hname hvalued hhelp hflag =>
    obtain ⟨-, rfl⟩ := addFlag_eq_ok.mp hadd
    have harg : optionText name ≠ "--" := fun heq => hhyphens (heq ▸ List.mem_cons_self)
    rw [List.singleton_append, otherArguments_option (looksLikeOption_optionText name) harg]
    intro other hother heq
    obtain ⟨option, hoption, rfl⟩ := List.mem_map.mp hother
    have hne := List.lookup_eq_none_iff.mp hvalued option hoption
    exact absurd (optionText_inj.mp heq) (by simpa using hne)
  | @letters c cs hc =>
    obtain ⟨-, hverbose⟩ := addLetters_eq_ok.mp hadd
    obtain ⟨-, rfl⟩ := addFlag_eq_ok.mp hverbose
    have harg : String.ofList ('-' :: c :: cs) ≠ "--" :=
      fun heq => hhyphens (heq ▸ List.mem_cons_self)
    have hlooks : looksLikeOption (String.ofList ('-' :: c :: cs)) :=
      looksLikeOption_iff.mpr ⟨c, cs, String.toList_ofList⟩
    rw [List.singleton_append, otherArguments_option hlooks harg]
    intro other _ heq
    have hlist := congrArg String.toList heq
    rw [String.toList_ofList, toList_optionText] at hlist
    exact hc (List.cons.inj (List.cons.inj hlist).2).1
  | @other text htext =>
    obtain ⟨-, -, rfl⟩ := addOther_eq_ok.mp hadd
    have harg : text ≠ "--" := fun heq => hhyphens (heq ▸ List.mem_cons_self)
    rw [List.singleton_append, otherArguments, if_neg harg, if_neg htext, List.reverse_cons,
      List.append_assoc, List.singleton_append]

/-- The other arguments are those that are neither options nor their values, in their order. -/
theorem Reads.others_eq (h : Reads options given args result)
    (hnames : ∀ option ∈ options.valued, '=' ∉ option.1.toList) :
    result.others =
      (otherArguments (options.valued.map (·.1)) false args).reverse ++ given.others := by
  induction h with
  | nil given => rfl
  | hyphens hothers => rw [(foldlM_addOther hothers).2.2, otherArguments, if_pos rfl]
  | piece hpiece hadd _ ih => rw [ih, hpiece.others_eq hadd hnames]

lemma length_addOther {text : String} {most : Nat} (hmost : options.most = some most)
    (h : given.addOther options text = .ok next) : next.others.length ≤ most := by
  obtain ⟨hany, -, rfl⟩ := addOther_eq_ok.mp h
  rw [hmost, Option.any_some, decide_eq_true_eq, Nat.not_le] at hany
  exact hany

/-- There are at most as many other arguments as there can be. -/
lemma Reads.length_others (h : Reads options given args result) {most : Nat}
    (hmost : options.most = some most) (hgiven : given.others.length ≤ most) :
    result.others.length ≤ most := by
  induction h with
  | nil given => exact hgiven
  | @hyphens given result others hothers =>
    induction others generalizing given with
    | nil => exact Except.ok.inj hothers ▸ hgiven
    | cons text others ih =>
      rw [List.foldlM_cons, bind_eq_ok] at hothers
      obtain ⟨next, hnext, hrest⟩ := hothers
      exact ih hrest (length_addOther hmost hnext)
  | piece hpiece hadd _ ih =>
    apply ih
    obtain ⟨_, _, -, -, rfl⟩ | ⟨_, -, rfl⟩ | ⟨text, hother, -⟩ := hpiece.cases_of_ok hadd
    · exact hgiven
    · exact hgiven
    · exact length_addOther hmost hother

lemma Reads.hasFlag (h : Reads options given args result) (hverbose : name ≠ "verbose")
    (hname : name ∈ result.flags) : name ∈ given.flags ∨ HasFlag args name := by
  induction h with
  | nil given => exact .inl hname
  | hyphens hothers => exact .inl ((foldlM_addOther hothers).2.1 ▸ hname)
  | piece hpiece hadd _ ih =>
    rcases ih hname with hnext | hargs
    · obtain ⟨_, _, -, -, rfl⟩ | ⟨other, hform, rfl⟩ | ⟨_, -, rfl⟩ := hpiece.cases_of_ok hadd
      · exact .inl hnext
      · rcases List.mem_cons.mp hnext with rfl | hgiven
        · exact .inr ⟨[], _, by simp, by rw [hform.resolve_right hverbose]; rfl⟩
        · exact .inl hgiven
      · exact .inl hnext
    · exact .inr (hargs.append hpiece.hyphens_notMem)

lemma Reads.hasValue (h : Reads options given args result)
    (hvalue : result.values.lookup name = some value) :
    given.values.lookup name = some value ∨ HasValue args name value := by
  induction h with
  | nil given => exact .inl hvalue
  | hyphens hothers => exact .inl ((foldlM_addOther hothers).1 ▸ hvalue)
  | piece hpiece hadd _ ih =>
    rcases ih hvalue with hnext | hargs
    · obtain ⟨other, text, hform, -, rfl⟩ | ⟨_, -, rfl⟩ | ⟨_, -, rfl⟩ := hpiece.cases_of_ok hadd
      · by_cases hname : name = other
        · subst hname
          rw [List.lookup_cons_self, Option.some.injEq] at hnext
          subst hnext
          rcases hform with rfl | rfl
          · exact .inr ⟨[], _, by simp, .inl rfl⟩
          · exact .inr ⟨[], _, by simp, .inr rfl⟩
        · rw [List.lookup_cons, beq_eq_false_iff_ne.mpr hname] at hnext
          exact .inl hnext
      · exact .inl hnext
      · exact .inl hnext
    · exact .inr (hargs.append hpiece.hyphens_notMem)

/-- An option without a value is read where it stands. -/
lemma reads_optionText_flag (h : Reads options given (optionText name :: args) result)
    (hname : IsName name) (hvalued : options.valued.lookup name = none) :
    name ≠ "help" ∧ options.flags.contains name ∧
      ∃ next, given.addFlag name = .ok next ∧ Reads options next args result := by
  rw [← read_eq_ok_iff, read_optionText hname, hvalued, if_neg (by simp)] at h
  split_ifs at h with hhelp hflag
  rw [bind_eq_ok] at h
  obtain ⟨next, hnext, hrest⟩ := h
  exact ⟨hhelp, hflag, next, hnext, read_eq_ok_iff.mp hrest⟩

lemma reads_optionText_value (h : Reads options given (optionText name :: value :: args) result)
    (hname : IsName name) (hvalued : (options.valued.lookup name).isSome) :
    ∃ next, given.addValue options name value = .ok next ∧ Reads options next args result := by
  rw [← read_eq_ok_iff, read_optionText hname, if_pos hvalued, read] at h
  split_ifs at h with hlooks
  rw [bind_eq_ok] at h
  obtain ⟨next, hnext, hrest⟩ := h
  exact ⟨next, hnext, read_eq_ok_iff.mp hrest⟩

lemma reads_attachedText (h : Reads options given (attachedText name value :: args) result)
    (hname : IsName name) (hvalued : (options.valued.lookup name).isSome) :
    ∃ next, given.addValue options name value = .ok next ∧ Reads options next args result := by
  rw [← read_eq_ok_iff, read_attachedText hname.2, if_pos hvalued, bind_eq_ok] at h
  obtain ⟨next, hnext, hrest⟩ := h
  exact ⟨next, hnext, read_eq_ok_iff.mp hrest⟩

/-- An option without a value is in effect exactly if it stands among the arguments. -/
theorem Reads.mem_flags_iff (h : Reads options {} args result) (hname : IsName name)
    (hvalued : options.valued.lookup name = none) (hverbose : name ≠ "verbose") :
    name ∈ result.flags ↔ HasFlag args name := by
  constructor
  · intro hmem
    exact (h.hasFlag hverbose hmem).resolve_left (by simp)
  · rintro ⟨front, back, hfront, rfl⟩
    obtain ⟨mid, -, hback⟩ := h.cut (looksLikeOption_optionText name) hfront
    obtain ⟨-, -, next, hnext, hrest⟩ := reads_optionText_flag hback hname hvalued
    obtain ⟨-, rfl⟩ := addFlag_eq_ok.mp hnext
    exact hrest.flags_subset List.mem_cons_self

/-- An option has a value exactly if it stands among the arguments with it. -/
theorem Reads.lookup_values_iff (h : Reads options {} args result) (hname : IsName name)
    (hvalued : (options.valued.lookup name).isSome) :
    result.values.lookup name = some value ↔ HasValue args name value := by
  constructor
  · intro hvalue
    exact (h.hasValue hvalue).resolve_left (by simp)
  · rintro ⟨front, back, hfront, rfl | rfl⟩
    · obtain ⟨mid, -, hback⟩ := h.cut (looksLikeOption_optionText name) hfront
      obtain ⟨next, hnext, hrest⟩ := reads_optionText_value hback hname hvalued
      obtain ⟨-, -, rfl⟩ := addValue_eq_ok.mp hnext
      exact hrest.lookup_values List.lookup_cons_self
    · obtain ⟨mid, -, hback⟩ := h.cut (looksLikeOption_attachedText name value) hfront
      obtain ⟨next, hnext, hrest⟩ := reads_attachedText hback hname hvalued
      obtain ⟨-, -, rfl⟩ := addValue_eq_ok.mp hnext
      exact hrest.lookup_values List.lookup_cons_self

/-- The addition is the same whether or not the flag has been given, unless it adds the flag. -/
structure Commutes (flag : String) (add : Given → Except Stop Given) : Prop where
  removed {plain given next : Given} : AddsFlag flag plain given → add given = .ok next →
    ∃ next', add plain = .ok next' ∧ AddsFlag flag next' next
  inserted {plain given next' : Given} : AddsFlag flag plain given → add plain = .ok next' →
    flag ∉ next'.flags → ∃ next, add given = .ok next ∧ AddsFlag flag next' next

variable {flag : String}

lemma AddsFlag.of_notMem (h : flag ∉ given.flags) :
    AddsFlag flag given { given with flags := flag :: given.flags } :=
  ⟨rfl, rfl, fun _ => List.mem_cons, h⟩

/-- An addition that neither asks for flags nor changes them. -/
lemma commutes_of_guard {guard : Given → Prop} {change : Given → Given}
    (hadd : ∀ given next, add given = .ok next ↔ guard given ∧ next = change given)
    (hguard : ∀ plain given, AddsFlag flag plain given → (guard given ↔ guard plain))
    (hchange : ∀ plain given, AddsFlag flag plain given →
      AddsFlag flag (change plain) (change given)) : Commutes flag add := by
  constructor
  · intro plain given next h hgiven
    obtain ⟨hmay, rfl⟩ := (hadd given next).mp hgiven
    exact ⟨_, (hadd plain _).mpr ⟨(hguard plain given h).mp hmay, rfl⟩, hchange plain given h⟩
  · intro plain given next' h hplain _
    obtain ⟨hmay, rfl⟩ := (hadd plain next').mp hplain
    exact ⟨_, (hadd given _).mpr ⟨(hguard plain given h).mpr hmay, rfl⟩, hchange plain given h⟩

lemma commutes_addValue : Commutes flag (·.addValue options name value) := by
  refine commutes_of_guard (fun _ _ => addValue_eq_ok.trans and_assoc.symm) ?_ ?_
  · intro plain given h
    rw [h.values]
  · exact fun _ _ h => ⟨congrArg (_ :: ·) h.values, h.others, h.mem_flags, h.notMem⟩

lemma commutes_addOther {text : String} : Commutes flag (·.addOther options text) := by
  refine commutes_of_guard (fun _ _ => addOther_eq_ok.trans and_assoc.symm) ?_ ?_
  · intro plain given h
    rw [h.others]
  · exact fun _ _ h => ⟨h.values, congrArg (_ :: ·) h.others, h.mem_flags, h.notMem⟩

lemma AddsFlag.cons {plain : Given} (h : AddsFlag flag plain given) (hname : name ≠ flag) :
    AddsFlag flag { plain with flags := name :: plain.flags }
      { given with flags := name :: given.flags } := by
  refine ⟨h.values, h.others, fun other => ?_, ?_⟩
  · rw [List.mem_cons, List.mem_cons, h.mem_flags]
    exact or_left_comm
  · exact List.not_mem_cons_of_ne_of_not_mem hname.symm h.notMem

lemma commutes_addFlag : Commutes flag (·.addFlag name) := by
  constructor
  · intro plain given next h hadd
    obtain ⟨hnot, rfl⟩ := addFlag_eq_ok.mp hadd
    obtain ⟨hname, hplain⟩ := not_or.mp (mt (h.mem_flags name).mpr hnot)
    exact ⟨_, addFlag_eq_ok.mpr ⟨hplain, rfl⟩, h.cons hname⟩
  · intro plain given next' h hadd hflag
    obtain ⟨hnot, rfl⟩ := addFlag_eq_ok.mp hadd
    have hname : name ≠ flag := fun heq => hflag (heq ▸ List.mem_cons_self)
    have hgiven := mt (h.mem_flags name).mp (not_or.mpr ⟨hname, hnot⟩)
    exact ⟨_, addFlag_eq_ok.mpr ⟨hgiven, rfl⟩, h.cons hname⟩

lemma commutes_addLetters {c : Char} {cs : List Char} : Commutes flag (·.addLetters (c :: cs)) := by
  constructor
  · intro plain given next h hadd
    obtain ⟨hletters, hverbose⟩ := addLetters_eq_ok.mp hadd
    obtain ⟨next', hnext, hadds⟩ := commutes_addFlag.removed h hverbose
    exact ⟨next', addLetters_eq_ok.mpr ⟨hletters, hnext⟩, hadds⟩
  · intro plain given next' h hadd hflag
    obtain ⟨hletters, hverbose⟩ := addLetters_eq_ok.mp hadd
    obtain ⟨next, hnext, hadds⟩ := commutes_addFlag.inserted h hverbose hflag
    exact ⟨next, addLetters_eq_ok.mpr ⟨hletters, hnext⟩, hadds⟩

lemma Piece.commutes (hpiece : Piece options piece add) : Commutes flag add := by
  cases hpiece with
  | value _ _ _ => exact commutes_addValue
  | attached _ _ => exact commutes_addValue
  | flag _ _ _ _ => exact commutes_addFlag
  | letters _ => exact commutes_addLetters
  | other _ => exact commutes_addOther

lemma commutes_foldlM (others : List String) :
    Commutes flag (others.foldlM fun given text => given.addOther options text) := by
  induction others with
  | nil =>
    constructor
    · intro plain given next h hadd
      obtain rfl := Except.ok.inj hadd
      exact ⟨plain, rfl, h⟩
    · intro plain given next' h hadd _
      obtain rfl := Except.ok.inj hadd
      exact ⟨given, rfl, h⟩
  | cons text others ih =>
    constructor
    · intro plain given next h hadd
      rw [List.foldlM_cons, bind_eq_ok] at hadd
      obtain ⟨mid, hmid, hrest⟩ := hadd
      obtain ⟨mid', hmid', hadds⟩ := commutes_addOther.removed h hmid
      obtain ⟨next', hnext', hresult⟩ := ih.removed hadds hrest
      exact ⟨next', by rw [List.foldlM_cons, hmid', ok_bind, hnext'], hresult⟩
    · intro plain given next' h hadd hflag
      rw [List.foldlM_cons, bind_eq_ok] at hadd
      obtain ⟨mid', hmid', hrest⟩ := hadd
      have hmid : flag ∉ mid'.flags := (foldlM_addOther hrest).2.1 ▸ hflag
      obtain ⟨mid, hmid, hadds⟩ := commutes_addOther.inserted h hmid' hmid
      obtain ⟨next, hnext, hresult⟩ := ih.inserted hadds hrest hflag
      exact ⟨next, by rw [List.foldlM_cons, hmid, ok_bind, hnext], hresult⟩

lemma Reads.removed {plain : Given} (h : Reads options given args result)
    (hadds : AddsFlag flag plain given) :
    ∃ result', Reads options plain args result' ∧ AddsFlag flag result' result := by
  induction h generalizing plain with
  | nil given => exact ⟨plain, .nil plain, hadds⟩
  | @hyphens _ _ others hothers =>
    obtain ⟨result', hresult, hadds⟩ := (commutes_foldlM others).removed hadds hothers
    exact ⟨result', .hyphens hresult, hadds⟩
  | piece hpiece hadd _ ih =>
    obtain ⟨next', hnext, hadds⟩ := hpiece.commutes.removed hadds hadd
    obtain ⟨result', hrest, hadds⟩ := ih hadds
    exact ⟨result', .piece hpiece hnext hrest, hadds⟩

lemma Reads.inserted {plain result' : Given} (h : Reads options plain args result')
    (hflag : flag ∉ result'.flags) (hadds : AddsFlag flag plain given) :
    ∃ result, Reads options given args result ∧ AddsFlag flag result' result := by
  induction h generalizing given with
  | nil plain => exact ⟨given, .nil given, hadds⟩
  | @hyphens _ _ others hothers =>
    obtain ⟨result, hresult, hadds⟩ := (commutes_foldlM others).inserted hadds hothers hflag
    exact ⟨result, .hyphens hresult, hadds⟩
  | piece hpiece hadd hrest ih =>
    -- What is read stays read, so the flag is not added on the way either.
    have hnext := fun hmem => hflag (hrest.flags_subset hmem)
    obtain ⟨next, hnext, hadds⟩ := hpiece.commutes.inserted hadds hadd hnext
    obtain ⟨result, hrest, hadds⟩ := ih hflag hadds
    exact ⟨result, .piece hpiece hnext hrest, hadds⟩

/-- Without an option that has no value the rest is read as with it. -/
theorem Reads.remove_flag {front back : List String}
    (h : Reads options given (front ++ optionText flag :: back) result) (hfront : "--" ∉ front)
    (hname : IsName flag) (hvalued : options.valued.lookup flag = none) :
    ∃ result', Reads options given (front ++ back) result' ∧ AddsFlag flag result' result := by
  obtain ⟨mid, hmid, hback⟩ := h.cut (looksLikeOption_optionText flag) hfront
  obtain ⟨-, -, next, hnext, hrest⟩ := reads_optionText_flag hback hname hvalued
  obtain ⟨hnot, rfl⟩ := addFlag_eq_ok.mp hnext
  obtain ⟨result', hresult, hadds⟩ := hrest.removed (.of_notMem hnot)
  exact ⟨result', hmid.append hfront hresult, hadds⟩

/-- An option that has no value and is not given yet can be put in front of the rest. -/
theorem Reads.insert_flag (h : Reads options given args result) (hflag : flag ∉ result.flags)
    (hname : IsName flag) (hvalued : options.valued.lookup flag = none) (hhelp : flag ≠ "help")
    (hknown : options.flags.contains flag) :
    ∃ result', Reads options given (optionText flag :: args) result' ∧
      AddsFlag flag result result' := by
  have hgiven : flag ∉ given.flags := fun hmem => hflag (h.flags_subset hmem)
  obtain ⟨result', hresult, hadds⟩ := h.inserted hflag (.of_notMem hgiven)
  have hadd := addFlag_eq_ok.mpr ⟨hgiven, rfl⟩
  exact ⟨result', .piece (.flag hname hvalued hhelp hknown) hadd hresult, hadds⟩

end Given
end Checkup.Cli
