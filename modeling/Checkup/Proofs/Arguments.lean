import Checkup.Cli.Arguments
import Checkup.Proofs.Results
import Mathlib.Data.List.TakeWhile

/-!
# Reading arguments

The arguments of a command are read piece by piece: an option with what belongs to it, or another
argument. So a reading can be cut in front of an option, and what it comes to can be told from the
options that stand in the arguments, whatever stands around them.
-/

namespace Checkup.Cli

/-- An option as an argument. -/
def optionText (name : String) : String := "--" ++ name

/-- An option and its value as one argument. -/
def attachedText (name value : String) : String := "--" ++ name ++ "=" ++ value

/-- A name that an option can have. -/
def IsName (name : String) : Prop := name ≠ "" ∧ '=' ∉ name.toList

lemma exists_append_of_notMem {α : Type} {x : α} {lead rest front back : List α} (hx : x ∉ lead)
    (h : lead ++ rest = front ++ x :: back) :
    ∃ mid, front = lead ++ mid ∧ rest = mid ++ x :: back := by
  rcases List.append_eq_append_iff.mp h with ⟨mid, hfront, hrest⟩ | ⟨mid, hlead, hback⟩
  · exact ⟨mid, hfront, hrest⟩
  · cases mid with
    | nil => exact ⟨[], by simpa using hlead.symm, hback.symm⟩
    | cons y mid =>
      obtain ⟨rfl, -⟩ := List.cons.inj hback
      exact absurd (hlead ▸ by simp) hx

section Texts

variable {name value : String}

lemma toList_optionText : (optionText name).toList = '-' :: '-' :: name.toList := by
  rw [optionText, String.toList_append]
  rfl

lemma toList_attachedText :
    (attachedText name value).toList = '-' :: '-' :: (name.toList ++ '=' :: value.toList) := by
  simp only [attachedText, String.toList_append, List.append_assoc]
  rfl

lemma optionText_inj {other : String} : optionText name = optionText other ↔ name = other := by
  rw [← String.toList_inj, toList_optionText, toList_optionText, List.cons.injEq, List.cons.injEq,
    String.toList_inj]
  simp only [true_and]

lemma attachedText_ne_optionText {other : String} (hother : '=' ∉ other.toList) :
    attachedText name value ≠ optionText other := by
  intro h
  have hlist := congrArg String.toList h
  rw [toList_attachedText, toList_optionText, List.cons.injEq, List.cons.injEq] at hlist
  apply hother
  rw [← hlist.2.2]
  simp

lemma takeWhile_ne_eq {cs : List Char} (hcs : '=' ∉ cs) (ds : List Char) :
    (cs ++ '=' :: ds).takeWhile (· ≠ '=') = cs := by
  rw [List.takeWhile_append_of_pos, List.takeWhile_cons_of_neg (by simp), List.append_nil]
  intro c hc
  have hne : c ≠ '=' := fun heq => hcs (heq ▸ hc)
  simpa using hne

lemma dropWhile_ne_eq {cs : List Char} (hcs : '=' ∉ cs) (ds : List Char) :
    (cs ++ '=' :: ds).dropWhile (· ≠ '=') = '=' :: ds := by
  rw [List.dropWhile_append_of_pos, List.dropWhile_cons_of_neg (by simp)]
  intro c hc
  have hne : c ≠ '=' := fun heq => hcs (heq ▸ hc)
  simpa using hne

end Texts

namespace Given

lemma looksLikeOption_iff {text : String} :
    looksLikeOption text ↔ ∃ c cs, text.toList = '-' :: c :: cs := by
  rw [looksLikeOption, Bool.and_eq_true, String.startsWith_string_iff, decide_eq_true_eq]
  constructor
  · rintro ⟨⟨cs, hcs⟩, hne⟩
    cases cs with
    | nil => exact absurd (String.toList_inj.mp hcs.symm) hne
    | cons c cs => exact ⟨c, cs, hcs.symm⟩
  · rintro ⟨c, cs, htext⟩
    refine ⟨⟨c :: cs, htext.symm⟩, ?_⟩
    rintro rfl
    simp at htext

lemma looksLikeOption_optionText (name : String) : looksLikeOption (optionText name) :=
  looksLikeOption_iff.mpr ⟨_, _, toList_optionText⟩

lemma looksLikeOption_attachedText (name value : String) :
    looksLikeOption (attachedText name value) :=
  looksLikeOption_iff.mpr ⟨_, _, toList_attachedText⟩

/-- The forms that an argument can have. -/
inductive Form : String → Prop
  | hyphens : Form "--"
  | option {name : String} : IsName name → Form (optionText name)
  | attached {name value : String} : '=' ∉ name.toList → Form (attachedText name value)
  | letters {c : Char} {cs : List Char} : c ≠ '-' → Form (String.ofList ('-' :: c :: cs))
  | other {arg : String} : ¬looksLikeOption arg → Form arg

lemma form (arg : String) : Form arg := by
  by_cases hoption : looksLikeOption arg
  · obtain ⟨c, cs, harg⟩ := looksLikeOption_iff.mp hoption
    have htext : arg = String.ofList ('-' :: c :: cs) := by rw [← harg, String.ofList_toList]
    by_cases hc : c = '-'
    · subst hc
      by_cases heq : '=' ∈ cs
      · -- The name ends at the first equals sign; others belong to the value.
        obtain ⟨as, bs, rfl, has⟩ := List.eq_append_cons_of_mem heq
        have hattached : arg = attachedText (String.ofList as) (String.ofList bs) := by
          rw [← String.toList_inj, toList_attachedText, String.toList_ofList, String.toList_ofList,
            harg]
        rw [hattached]
        exact .attached (by simpa using has)
      · cases cs with
        | nil =>
          rw [htext]
          exact .hyphens
        | cons d ds =>
          have hname : arg = optionText (String.ofList (d :: ds)) := by
            rw [← String.toList_inj, toList_optionText, String.toList_ofList, harg]
          rw [hname]
          refine .option ⟨?_, by simpa using heq⟩
          intro hempty
          have hlist := congrArg String.toList hempty
          simp at hlist
    · rw [htext]
      exact .letters hc
  · exact .other hoption

/-- How a piece of the arguments is read: an option with what belongs to it, or another argument. -/
inductive Piece (options : Options) : List String → (Given → Except Stop Given) → Prop
  | value {name text : String} : IsName name → (options.valued.lookup name).isSome →
      ¬looksLikeOption text → Piece options [optionText name, text] (·.addValue options name text)
  | attached {name text : String} : '=' ∉ name.toList → (options.valued.lookup name).isSome →
      Piece options [attachedText name text] (·.addValue options name text)
  | flag {name : String} : IsName name → options.valued.lookup name = none → name ≠ "help" →
      options.flags.contains name → Piece options [optionText name] (·.addFlag name)
  | letters {c : Char} {cs : List Char} : c ≠ '-' →
      Piece options [String.ofList ('-' :: c :: cs)] (·.addLetters (c :: cs))
  | other {text : String} : ¬looksLikeOption text →
      Piece options [text] (·.addOther options text)

/-- The arguments are read from what has been read to what has been read then. -/
inductive Reads (options : Options) : Given → List String → Given → Prop
  | nil (given : Given) : Reads options given [] given
  | hyphens {given result : Given} {others : List String} :
      others.foldlM (fun given text => given.addOther options text) given = .ok result →
      Reads options given ("--" :: others) result
  | piece {given next result : Given} {piece args : List String}
      {add : Given → Except Stop Given} : Piece options piece add → add given = .ok next →
      Reads options next args result → Reads options given (piece ++ args) result

variable {options : Options} {given next result : Given} {piece args : List String}
  {add : Given → Except Stop Given} {name value arg : String}

lemma read_long {long : List Char} (harg : arg.toList = '-' :: '-' :: long) (hlong : long ≠ []) :
    read options none given (arg :: args) =
      let name := String.ofList (long.takeWhile (· ≠ '='))
      let attached := (long.dropWhile (· ≠ '=')).tail?.map String.ofList
      if (options.valued.lookup name).isSome then
        match attached with
        | some value =>
          given.addValue options name value >>= fun next => read options none next args
        | none => read options (some name) given args
      else if attached.isSome then .error .usage
      else if name == "help" then .error .help
      else if options.flags.contains name then
        given.addFlag name >>= fun next => read options none next args
      else .error .usage := by
  obtain ⟨c, cs, rfl⟩ := List.exists_cons_of_ne_nil hlong
  rw [read, harg]
  rfl

lemma read_optionText (hname : IsName name) :
    read options none given (optionText name :: args) =
      if (options.valued.lookup name).isSome then read options (some name) given args
      else if name = "help" then .error .help
      else if options.flags.contains name then
        given.addFlag name >>= fun next => read options none next args
      else .error .usage := by
  have hne : name.toList ≠ [] := mt String.toList_eq_nil_iff.mp hname.1
  have hall : ∀ c ∈ name.toList, decide (c ≠ '=') = true := by
    intro c hc
    have hne : c ≠ '=' := fun heq => hname.2 (heq ▸ hc)
    simpa using hne
  have htake : name.toList.takeWhile (fun c => decide (c ≠ '=')) = name.toList :=
    List.takeWhile_eq_self_iff.mpr hall
  have hdrop := List.dropWhile_eq_nil_iff.mpr hall
  rw [read_long toList_optionText hne]
  simp only [htake, hdrop, String.ofList_toList, List.tail?_nil, Option.map_none,
    Option.isSome_none, Bool.false_eq_true, if_false, beq_iff_eq]

lemma read_attachedText (hname : '=' ∉ name.toList) :
    read options none given (attachedText name value :: args) =
      if (options.valued.lookup name).isSome then
        given.addValue options name value >>= fun next => read options none next args
      else .error .usage := by
  rw [read_long toList_attachedText (by simp)]
  simp only [takeWhile_ne_eq hname, dropWhile_ne_eq hname, String.ofList_toList, List.tail?_cons,
    Option.map_some, Option.isSome_some, if_true]

lemma read_letters {c : Char} {cs : List Char} (hc : c ≠ '-') :
    read options none given (String.ofList ('-' :: c :: cs) :: args) =
      given.addLetters (c :: cs) >>= fun next => read options none next args := by
  rw [read, String.toList_ofList]
  split
  · next heq => exact absurd (List.cons.inj (List.cons.inj heq).2).1 hc
  · next heq => exact absurd (List.cons.inj (List.cons.inj heq).2).1 hc
  · next heq =>
    obtain ⟨rfl, rfl⟩ := List.cons.inj (List.cons.inj heq).2
    rfl
  · next hnot => exact absurd rfl (hnot _ _)

lemma read_other (harg : ¬looksLikeOption arg) :
    read options none given (arg :: args) =
      given.addOther options arg >>= fun next => read options none next args := by
  rw [read]
  split
  · next heq => exact absurd (looksLikeOption_iff.mpr ⟨_, _, heq⟩) harg
  · next heq => exact absurd (looksLikeOption_iff.mpr ⟨_, _, heq⟩) harg
  · next heq => exact absurd (looksLikeOption_iff.mpr ⟨_, _, heq⟩) harg
  · rfl

lemma read_hyphens : read options none given ("--" :: args) =
    args.foldlM (fun given text => given.addOther options text) given := by
  rw [read]
  rfl

lemma read_value (hname : IsName name) (hvalued : (options.valued.lookup name).isSome)
    (hvalue : ¬looksLikeOption value) :
    read options none given (optionText name :: value :: args) =
      given.addValue options name value >>= fun next => read options none next args := by
  rw [read_optionText hname, if_pos hvalued, read, if_neg hvalue]

lemma read_piece (hpiece : Piece options piece add) :
    read options none given (piece ++ args) =
      add given >>= fun next => read options none next args := by
  cases hpiece with
  | value hname hvalued htext => exact read_value hname hvalued htext
  | attached hname hvalued =>
    rw [List.singleton_append, read_attachedText hname, if_pos hvalued]
  | flag hname hvalued hhelp hflag =>
    rw [List.singleton_append, read_optionText hname, hvalued, if_neg (by simp), if_neg hhelp,
      if_pos hflag]
  | letters hc => exact read_letters hc
  | other htext => exact read_other htext

/-- What is read without an error begins with a piece. -/
lemma exists_piece_of_read (h : read options none given (arg :: args) = .ok result)
    (harg : arg ≠ "--") :
    ∃ piece add rest, Piece options piece add ∧ arg :: args = piece ++ rest := by
  cases form arg with
  | hyphens => exact absurd rfl harg
  | option hname =>
    rw [read_optionText hname] at h
    split_ifs at h with hvalued hhelp hflag
    · cases args with
      | nil => simp [read] at h
      | cons value args =>
        by_cases hvalue : looksLikeOption value
        · rw [read, if_pos hvalue] at h
          cases h
        · exact ⟨_, _, args, .value hname hvalued hvalue, rfl⟩
    · have hnone := Option.not_isSome_iff_eq_none.mp hvalued
      exact ⟨_, _, args, .flag hname hnone hhelp hflag, rfl⟩
  | attached hname =>
    rw [read_attachedText hname] at h
    split_ifs at h with hvalued
    exact ⟨_, _, args, .attached hname hvalued, rfl⟩
  | letters hc => exact ⟨_, _, args, .letters hc, rfl⟩
  | other hother => exact ⟨_, _, args, .other hother, rfl⟩

/-- No piece begins with two hyphens alone, and what follows in it is no option. -/
lemma Piece.shape (hpiece : Piece options piece add) :
    ∃ head tail, piece = head :: tail ∧ head ≠ "--" ∧ ∀ text ∈ tail, ¬looksLikeOption text := by
  have hoption {name : String} (hname : IsName name) : optionText name ≠ "--" := by
    intro h
    have hlist := congrArg String.toList h
    rw [toList_optionText] at hlist
    simp [hname.1] at hlist
  cases hpiece with
  | value hname _ htext => exact ⟨_, _, rfl, hoption hname, by simpa using htext⟩
  | attached _ _ =>
    refine ⟨_, [], rfl, ?_, by simp⟩
    intro h
    have hlist := congrArg String.toList h
    rw [toList_attachedText] at hlist
    simp at hlist
  | flag hname _ _ _ => exact ⟨_, [], rfl, hoption hname, by simp⟩
  | letters hc =>
    refine ⟨_, [], rfl, ?_, by simp⟩
    intro h
    have hlist := congrArg String.toList h
    rw [String.toList_ofList] at hlist
    simp [hc] at hlist
  | other htext =>
    refine ⟨_, [], rfl, ?_, by simp⟩
    rintro rfl
    exact htext (looksLikeOption_optionText "")

lemma Piece.ne_nil (hpiece : Piece options piece add) : piece ≠ [] := by
  obtain ⟨head, tail, rfl, -, -⟩ := hpiece.shape
  exact List.cons_ne_nil head tail

lemma Piece.hyphens_notMem (hpiece : Piece options piece add) : "--" ∉ piece := by
  obtain ⟨head, tail, rfl, hhead, htail⟩ := hpiece.shape
  intro h
  rcases List.mem_cons.mp h with h | h
  · exact hhead h.symm
  · exact htail _ h (looksLikeOption_optionText "")

/-- An option inside of the arguments does not stand inside of a piece. -/
lemma Piece.cut (hpiece : Piece options piece add) (harg : looksLikeOption arg)
    {front back : List String} (h : piece ++ args = front ++ arg :: back) :
    front = [] ∨ ∃ rest, front = piece ++ rest ∧ args = rest ++ arg :: back := by
  obtain ⟨head, tail, rfl, -, htail⟩ := hpiece.shape
  cases front with
  | nil => exact .inl rfl
  | cons first front =>
    rw [List.cons_append, List.cons_append, List.cons.injEq] at h
    obtain ⟨rfl, htails⟩ := h
    obtain ⟨mid, rfl, hargs⟩ := exists_append_of_notMem (fun hmem => htail _ hmem harg) htails
    exact .inr ⟨mid, rfl, hargs⟩

theorem read_eq_ok_iff :
    read options none given args = .ok result ↔ Reads options given args result := by
  constructor
  · intro h
    -- The induction is on the number of arguments, as a piece takes one or two of them.
    induction hlength : args.length using Nat.strong_induction_on generalizing given args with
    | _ n ih =>
      subst hlength
      cases args with
      | nil =>
        rw [read, Except.ok.injEq] at h
        exact h ▸ .nil given
      | cons arg args =>
        by_cases harg : arg = "--"
        · subst harg
          exact .hyphens (read_hyphens.symm.trans h)
        · obtain ⟨piece, add, rest, hpiece, hsplit⟩ := exists_piece_of_read h harg
          rw [hsplit, read_piece hpiece, bind_eq_ok] at h
          obtain ⟨next, hnext, hrest⟩ := h
          have hpos := List.length_pos_iff.mpr hpiece.ne_nil
          have hshorter : rest.length < (arg :: args).length := by
            rw [hsplit, List.length_append]
            omega
          rw [hsplit]
          exact .piece hpiece hnext (ih _ hshorter hrest rfl)
  · intro h
    induction h with
    | nil given => rw [read]
    | hyphens hothers => rw [read_hyphens, hothers]
    | piece hpiece hadd _ ih => rw [read_piece hpiece, hadd, ok_bind, ih]

/-- A reading can be cut in front of an option. -/
lemma Reads.cut {front back : List String} (h : Reads options given (front ++ arg :: back) result)
    (harg : looksLikeOption arg) (hfront : "--" ∉ front) :
    ∃ mid, Reads options given front mid ∧ Reads options mid (arg :: back) result := by
  generalize hargs : front ++ arg :: back = args at h
  induction h generalizing front with
  | nil given => simp at hargs
  | hyphens hothers =>
    cases front with
    | nil =>
      rw [List.nil_append] at hargs
      exact ⟨_, .nil _, hargs ▸ .hyphens hothers⟩
    | cons first front =>
      obtain ⟨rfl, -⟩ := List.cons.inj hargs
      simp at hfront
  | piece hpiece hadd hrest ih =>
    rcases hpiece.cut harg hargs.symm with rfl | ⟨rest, rfl, hrests⟩
    · rw [List.nil_append] at hargs
      exact ⟨_, .nil _, hargs ▸ .piece hpiece hadd hrest⟩
    · obtain ⟨mid, hmid, hback⟩ := ih (fun h => hfront (List.mem_append_right _ h)) hrests.symm
      exact ⟨mid, .piece hpiece hadd hmid, hback⟩

lemma Reads.append {front back : List String} {mid : Given} (hfront : Reads options given front mid)
    (hnot : "--" ∉ front) (hback : Reads options mid back result) :
    Reads options given (front ++ back) result := by
  induction hfront with
  | nil given => exact hback
  | hyphens _ => simp at hnot
  | piece hpiece hadd _ ih =>
    rw [List.append_assoc]
    exact .piece hpiece hadd (ih (fun h => hnot (List.mem_append_right _ h)) hback)

end Given
end Checkup.Cli
