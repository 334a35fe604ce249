import Checkup.Proofs.JsonTokens

/-!
# The text of JSON values

A value is written as a text that spells the tokens of the value, whether it is on one line or
indented, so the two texts differ in white space only. No other value has these tokens, but for real
numbers that are written alike. So a value can be told from either of its texts.
-/

namespace Checkup.Json

/-- A value, with the text of each real number in place of the number. -/
inductive Outline
  | word (w : Word)
  | string (s : String)
  | array (items : List Outline)
  | object (fields : List (String × Outline))

mutual

def outline : Json → Outline
  | null => .word .null
  | bool b => .word (.bool b)
  | integer n => .word (.integer n)
  | real x => .word ((x.render.map .real).getD .null)
  | string s => .string s
  | array items => .array (outlines items)
  | object fields => .object (fieldOutlines fields)

def outlines : List Json → List Outline
  | [] => []
  | item :: items => outline item :: outlines items

def fieldOutlines : List (String × Json) → List (String × Outline)
  | [] => []
  | (name, value) :: fields => (name, outline value) :: fieldOutlines fields

end

namespace Outline

mutual

def tokens : Outline → List Token
  | word w => [.word w]
  | string s => [.string s]
  | array items => .sign '[' :: (itemTokens items).tail ++ [.sign ']']
  | object fields => .sign '\x7b' :: (fieldTokens fields).tail ++ [.sign '\x7d']

/-- The tokens of the items of an array, with a comma before each. -/
def itemTokens : List Outline → List Token
  | [] => []
  | item :: items => .sign ',' :: item.tokens ++ itemTokens items

/-- The tokens of the fields of an object, with a comma before each. -/
def fieldTokens : List (String × Outline) → List Token
  | [] => []
  | (name, value) :: fields =>
    .sign ',' :: .string name :: .sign ':' :: value.tokens ++ fieldTokens fields

end

end Outline

/-! ## A list of tokens has one value -/

namespace Outline

variable {rest rest' : List Token} {items items' : List Outline}
  {fields fields' : List (String × Outline)}

/-- The token that a value starts with. -/
def first : Outline → Token
  | word w => .word w
  | string s => .string s
  | array _ => .sign '['
  | object _ => .sign '\x7b'

lemma head?_tokens (o : Outline) (rest : List Token) : (o.tokens ++ rest).head? = some o.first := by
  cases o <;> simp [tokens, first]

lemma first_eq {o o' : Outline} (h : o.tokens ++ rest = o'.tokens ++ rest') :
    o.first = o'.first := by
  have hhead := congrArg List.head? h
  rw [head?_tokens, head?_tokens] at hhead
  exact Option.some.inj hhead

/-- A value does not start with the bracket that closes an array. -/
lemma tokens_ne_sign (o : Outline) (rest rest' : List Token) :
    o.tokens ++ rest ≠ .sign ']' :: rest' := by
  intro h
  have hhead := congrArg List.head? h
  rw [head?_tokens] at hhead
  cases o <;> simp [first] at hhead

lemma itemTokens_eq_of_tail (h : (itemTokens items).tail ++ .sign ']' :: rest =
    (itemTokens items').tail ++ .sign ']' :: rest') :
    itemTokens items ++ .sign ']' :: rest = itemTokens items' ++ .sign ']' :: rest' := by
  cases items with
  | nil =>
    cases items' with
    | nil => exact h
    | cons item' items' =>
      simp only [itemTokens, List.cons_append, List.tail_cons, List.append_assoc] at h
      exact absurd h.symm (item'.tokens_ne_sign _ _)
  | cons item items =>
    cases items' with
    | nil =>
      simp only [itemTokens, List.cons_append, List.tail_cons, List.append_assoc] at h
      exact absurd h (item.tokens_ne_sign _ _)
    | cons item' items' => exact congrArg (List.cons (.sign ',')) h

lemma fieldTokens_eq_of_tail (h : (fieldTokens fields).tail ++ .sign '\x7d' :: rest =
    (fieldTokens fields').tail ++ .sign '\x7d' :: rest') :
    fieldTokens fields ++ .sign '\x7d' :: rest = fieldTokens fields' ++ .sign '\x7d' :: rest' := by
  cases fields with
  | nil =>
    cases fields' with
    | nil => exact h
    | cons field' fields' => simp [fieldTokens] at h
  | cons field fields =>
    cases fields' with
    | nil => simp [fieldTokens] at h
    | cons field' fields' => exact congrArg (List.cons (.sign ',')) h

mutual

theorem eq_of_tokens (o o' : Outline) {rest rest' : List Token}
    (h : o.tokens ++ rest = o'.tokens ++ rest') : o = o' ∧ rest = rest' := by
  -- values of two kinds differ in their first tokens
  have hfirst := first_eq h
  cases o <;> cases o' <;> simp [first] at hfirst
  case word.word w w' =>
    subst hfirst
    exact ⟨rfl, List.append_cancel_left h⟩
  case string.string s s' =>
    subst hfirst
    exact ⟨rfl, List.append_cancel_left h⟩
  case array.array items items' =>
    simp only [tokens, List.cons_append, List.append_assoc, List.cons.injEq, true_and] at h
    obtain ⟨rfl, hrest⟩ := eq_of_itemTokens items items' (itemTokens_eq_of_tail h)
    exact ⟨rfl, hrest⟩
  case object.object fields fields' =>
    simp only [tokens, List.cons_append, List.append_assoc, List.cons.injEq, true_and] at h
    obtain ⟨rfl, hrest⟩ := eq_of_fieldTokens fields fields' (fieldTokens_eq_of_tail h)
    exact ⟨rfl, hrest⟩
termination_by structural o

theorem eq_of_itemTokens (items items' : List Outline) {rest rest' : List Token}
    (h : itemTokens items ++ .sign ']' :: rest = itemTokens items' ++ .sign ']' :: rest') :
    items = items' ∧ rest = rest' := by
  cases items <;> cases items'
  case nil.nil => exact ⟨rfl, (List.cons.inj h).2⟩
  case nil.cons => simp [itemTokens] at h
  case cons.nil => simp [itemTokens] at h
  case cons.cons item items item' items' =>
    simp only [itemTokens, List.cons_append, List.append_assoc, List.cons.injEq, true_and] at h
    obtain ⟨rfl, hitems⟩ := eq_of_tokens item item' h
    obtain ⟨rfl, hrest⟩ := eq_of_itemTokens items items' hitems
    exact ⟨rfl, hrest⟩
termination_by structural items

theorem eq_of_fieldTokens (fields fields' : List (String × Outline)) {rest rest' : List Token}
    (h : fieldTokens fields ++ .sign '\x7d' :: rest =
      fieldTokens fields' ++ .sign '\x7d' :: rest') : fields = fields' ∧ rest = rest' := by
  cases fields <;> cases fields'
  case nil.nil => exact ⟨rfl, (List.cons.inj h).2⟩
  case nil.cons => simp [fieldTokens] at h
  case cons.nil => simp [fieldTokens] at h
  case cons.cons field fields field' fields' =>
    obtain ⟨name, value⟩ := field
    obtain ⟨name', value'⟩ := field'
    simp only [fieldTokens, List.cons_append, List.append_assoc, List.cons.injEq, true_and,
      Token.string.injEq] at h
    obtain ⟨hvalue, hfields⟩ := eq_of_tokens value value' h.2
    obtain ⟨hfields, hrest⟩ := eq_of_fieldTokens fields fields' hfields
    exact ⟨by rw [h.1, hvalue, hfields], hrest⟩
termination_by structural fields

end

end Outline

/-! ## Signs stand between the words of a value -/

namespace Outline

mutual

theorem apart_tokens (o : Outline) : Apart o.tokens := by
  cases o with
  | word w => exact .singleton _
  | string s => exact .singleton _
  | array items =>
    have hitems : Apart (itemTokens items).tail := (apart_itemTokens items).tail
    exact (hitems.append (.singleton _) (by simp [Token.isWord])).sign '['
  | object fields =>
    have hfields : Apart (fieldTokens fields).tail := (apart_fieldTokens fields).tail
    exact (hfields.append (.singleton _) (by simp [Token.isWord])).sign '\x7b'
termination_by structural o

theorem apart_itemTokens (items : List Outline) : Apart (itemTokens items) := by
  cases items with
  | nil => exact .nil
  | cons item items =>
    have hitem := apart_tokens item
    have hitems := apart_itemTokens items
    refine (hitem.append hitems ?_).sign ','
    cases items <;> simp [itemTokens, Token.isWord]
termination_by structural items

theorem apart_fieldTokens (fields : List (String × Outline)) : Apart (fieldTokens fields) := by
  cases fields with
  | nil => exact .nil
  | cons field fields =>
    obtain ⟨name, value⟩ := field
    have hvalue := apart_tokens value
    have hfields := apart_fieldTokens fields
    refine (((hvalue.append hfields ?_).sign ':').string name).sign ','
    cases fields <;> simp [fieldTokens, Token.isWord]
termination_by structural fields

end

end Outline

/-! ## What is written spells the tokens of the value -/

/-- A layout has white space only beside the signs. -/
structure Layout.Proper (layout : Layout) : Prop where
  separator : ∀ depth, (layout.separator depth).toList.all isGap
  afterName : ∃ gap, layout.afterName = ":" ++ gap ∧ gap.toList.all isGap

lemma oneLine_proper : oneLine.Proper := by
  constructor
  · intro depth
    rfl
  · exact ⟨"", rfl, rfl⟩

lemma indented_proper : indented.Proper := by
  constructor
  · intro depth
    simp [indented, isGap]
  · exact ⟨" ", rfl, rfl⟩

lemma proper_writeDecimal (digits : Nat) (exponent : Int) :
    (Word.real (Double.writeDecimal digits exponent)).Proper := by
  obtain ⟨ds, hds⟩ : ∃ ds, ds = (toString digits).toList := ⟨_, rfl⟩
  have hall : ds.all isNumberChar := hds ▸ all_isNumberChar_toString digits
  have hpart {cs : List Char} (h : cs ⊆ ds) : cs.all isNumberChar := by
    apply List.all_eq_true.mpr
    intro c hc
    exact List.all_eq_true.mp hall c (h hc)
  have htake (n : Nat) : (ds.take n).all isNumberChar := hpart (List.take_subset n ds)
  have hdrop (n : Nat) : (ds.drop n).all isNumberChar := hpart (List.drop_subset n ds)
  have hzeros (n : Nat) : (List.replicate n '0').all isNumberChar := by
    apply List.all_eq_true.mpr
    intro c hc
    rw [List.eq_of_mem_replicate hc]
    decide
  have hexponent (n : Int) : (toString n).toList.all isNumberChar :=
    Word.all_isNumberChar (w := .integer n) trivial
  have hsigns : isNumberChar '0' ∧ isNumberChar '.' ∧ isNumberChar 'e' := by decide
  unfold Double.writeDecimal Word.Proper
  simp only [← hds, String.toList_ofList]
  constructor
  · split_ifs <;> simp only [List.all_append, List.all_cons, List.all_nil, Bool.and_self, hall,
      htake, hdrop, hzeros, hexponent, hsigns]
  · split_ifs <;> simp [isRealChar]

lemma proper_append {s text : String} (h : (Word.real text).Proper)
    (hs : s.toList.all isNumberChar) : (Word.real (s ++ text)).Proper := by
  constructor
  · rw [String.toList_append, List.all_append, hs, h.1]
    rfl
  · rw [String.toList_append, List.any_append, h.2, Bool.or_true]

lemma proper_render {x : Double} {text : String} (h : x.render = some text) :
    (Word.real text).Proper := by
  cases x with
  | infinite negative => cases h
  | notANumber => cases h
  | finite negative significand exponent =>
    obtain ⟨digits, e10, hrender⟩ : ∃ digits e10,
        (Double.finite negative significand exponent).render =
          some ((if negative then "-" else "") ++ Double.writeDecimal digits e10) := ⟨_, _, rfl⟩
    rw [hrender] at h
    obtain rfl := Option.some.inj h
    apply proper_append (proper_writeDecimal digits e10)
    cases negative <;> decide

namespace Spells

variable {tokens : List Token} {done : String}

lemma real (h : Spells tokens done.toList) (x : Double) :
    Spells (tokens ++ (outline (real x)).tokens) (done ++ x.render.getD "null").toList := by
  cases hrender : x.render with
  | none =>
    rw [outline, hrender]
    exact h.word .null rfl trivial
  | some text =>
    rw [outline, hrender]
    exact h.word (.real text) rfl (proper_render hrender)

lemma afterName {layout : Layout} (h : Spells tokens done.toList) (hlayout : layout.Proper) :
    Spells (tokens ++ [.sign ':']) (done ++ layout.afterName).toList := by
  obtain ⟨gap, hafter, hgap⟩ := hlayout.afterName
  rw [hafter, ← String.append_assoc]
  exact (h.sign ":" ':' rfl rfl).white hgap

end Spells

variable {layout : Layout}

mutual

theorem spells_write (hlayout : layout.Proper) (depth : Nat) (v : Json) {done : String}
    {tokens : List Token} (h : Spells tokens done.toList) :
    Spells (tokens ++ v.outline.tokens) (write layout depth done v).toList := by
  cases v with
  | null => exact h.word .null rfl trivial
  | bool b => exact h.word (.bool b) rfl trivial
  | integer n => exact h.word (.integer n) rfl trivial
  | real x => exact h.real x
  | string s => exact h.string s
  | array items =>
    have hopen := h.sign "[" '[' rfl rfl
    cases items with
    | nil =>
      have hclose := hopen.sign "]" ']' rfl rfl
      simpa [write, outline, outlines, Outline.tokens, Outline.itemTokens] using hclose
    | cons item items =>
      have hgap := hopen.white (hlayout.separator (depth + 1))
      have hitem := spells_write hlayout (depth + 1) item hgap
      have hitems := spells_writeItems hlayout (depth + 1) items hitem
      have hclose := (hitems.white (hlayout.separator depth)).sign "]" ']' rfl rfl
      simpa [write, outline, outlines, Outline.tokens, Outline.itemTokens] using hclose
  | object fields =>
    have hopen := h.sign "\x7b" '\x7b' rfl rfl
    cases fields with
    | nil =>
      have hclose := hopen.sign "\x7d" '\x7d' rfl rfl
      simpa [write, outline, fieldOutlines, Outline.tokens, Outline.fieldTokens] using hclose
    | cons field fields =>
      obtain ⟨name, value⟩ := field
      have hname := (hopen.white (hlayout.separator (depth + 1))).string name
      have hvalue := spells_write hlayout (depth + 1) value (hname.afterName hlayout)
      have hfields := spells_writeFields hlayout (depth + 1) fields hvalue
      have hclose := (hfields.white (hlayout.separator depth)).sign "\x7d" '\x7d' rfl rfl
      simpa [write, outline, fieldOutlines, Outline.tokens, Outline.fieldTokens] using hclose
termination_by structural v

theorem spells_writeItems (hlayout : layout.Proper) (depth : Nat) (items : List Json)
    {done : String} {tokens : List Token} (h : Spells tokens done.toList) :
    Spells (tokens ++ Outline.itemTokens (outlines items))
      (writeItems layout depth done items).toList := by
  cases items with
  | nil => simpa [writeItems, outlines, Outline.itemTokens] using h
  | cons item items =>
    have hcomma := (h.sign "," ',' rfl rfl).white (hlayout.separator depth)
    have hitem := spells_write hlayout depth item hcomma
    have hitems := spells_writeItems hlayout depth items hitem
    simpa [writeItems, outlines, Outline.itemTokens] using hitems
termination_by structural items

theorem spells_writeFields (hlayout : layout.Proper) (depth : Nat) (fields : List (String × Json))
    {done : String} {tokens : List Token} (h : Spells tokens done.toList) :
    Spells (tokens ++ Outline.fieldTokens (fieldOutlines fields))
      (writeFields layout depth done fields).toList := by
  cases fields with
  | nil => simpa [writeFields, fieldOutlines, Outline.fieldTokens] using h
  | cons field fields =>
    obtain ⟨name, value⟩ := field
    have hcomma := (h.sign "," ',' rfl rfl).white (hlayout.separator depth)
    have hvalue := spells_write hlayout depth value ((hcomma.string name).afterName hlayout)
    have hfields := spells_writeFields hlayout depth fields hvalue
    simpa [writeFields, fieldOutlines, Outline.fieldTokens] using hfields
termination_by structural fields

end

/-- The indented text spells the tokens of the value. -/
theorem spells_pretty (v : Json) : Spells v.outline.tokens v.pretty.toList :=
  spells_write indented_proper 0 v (.gap rfl)

/-- The text on one line spells the tokens of the value, as the indented one does. -/
theorem spells_compact (v : Json) : Spells v.outline.tokens v.compact.toList :=
  spells_write oneLine_proper 0 v (.gap rfl)

/-- A text spells one value at most, up to real numbers that are written alike. -/
theorem outline_eq_of_spells {v w : Json} {text : List Char} (hv : Spells v.outline.tokens text)
    (hw : Spells w.outline.tokens text) : v.outline = w.outline := by
  have htokens := hv.unique hw v.outline.apart_tokens w.outline.apart_tokens
  exact (Outline.eq_of_tokens _ _ (congrArg (· ++ []) htokens)).1

theorem outline_eq_of_pretty_eq {v w : Json} (h : v.pretty = w.pretty) : v.outline = w.outline :=
  outline_eq_of_spells (spells_pretty v) (h ▸ spells_pretty w)

end Checkup.Json
