import Checkup.Json.Decode
import Checkup.Proofs.Results
import Mathlib.Algebra.Group.Nat.Defs

/-!
# Reading what was written

A reader undoes a writer if it gives back each value that is written. What a reader gives lies in a
range of its own, such as the numbers below a bound. For readers of plain values, of options, of
lists and of the fields of a record both are shown here.
-/

namespace Checkup.Json

variable {α : Type} {write : α → Json} {read : Reader α} {good : α → Prop}

/-- The values of the kind `good` are read back as they were written. -/
def Undoes (read : Reader α) (write : α → Json) (good : α → Prop) : Prop :=
  ∀ x, good x → read (write x) = .ok x

/-- Every value that is read is of the kind `good`. -/
def Yields (read : Reader α) (good : α → Prop) : Prop := ∀ json x, read json = .ok x → good x

lemma readString_string (s : String) : readString (.string s) = .ok s := rfl

lemma readBool_bool (b : Bool) : readBool (.bool b) = .ok b := rfl

lemma readNat_count {bound n : Nat} (expected : String) (h : n < bound) :
    readNat bound expected (count n) = .ok n := by
  have hrange : ((0 : Int) ≤ n && (n : Int) < bound) = true := by
    simp [h]
  rw [count, readNat, if_pos hrange, Int.toNat_natCast]

lemma undoes_readCount : Undoes readCount count (· < 2 ^ 64) :=
  fun _ h => readNat_count "usize" h

lemma undoes_readStatus : Undoes readStatus count (· < 2 ^ 16) :=
  fun _ h => readNat_count "u16" h

lemma readDouble_number {x : Double} (h : x.isFinite) : readDouble (number x) = .ok x := by
  rw [number, if_pos h]
  rfl

lemma undoes_readOption (h : Undoes read write good) (hnull : ∀ x, write x ≠ null) :
    Undoes (readOption read) (nullable write) (∀ x ∈ ·, good x) := by
  intro o hgood
  cases o with
  | none => rfl
  | some x =>
    have hread : read (write x) = .ok x := h x (hgood x rfl)
    have hsome : readOption read (write x) = (read (write x)).map some := by
      have hne := hnull x
      cases hw : write x with
      | null => exact absurd hw hne
      | _ => rfl
    rw [nullable, hsome, hread]
    rfl

lemma undoes_readList (h : Undoes read write good) :
    Undoes (readList read) (fun xs => .array (xs.map write)) (∀ x ∈ ·, good x) := by
  intro xs hgood
  have heach : ∀ x ∈ xs, (read ∘ write) x = .ok (id x) := fun x hx => h x (hgood x hx)
  rw [readList, List.mapM_map]
  exact (mapM_eq_ok heach).trans (by rw [List.map_id])

/-- A value is read back from its name if no value before it in the list has that name. -/
lemma undoes_readName {values : List α} {name : α → String}
    (h : ∀ x, values.find? (name · == name x) = some x) :
    Undoes (readName values name) (fun x => .string (name x)) fun _ => True := by
  intro x _
  simp only [readName, readVariant, h x]

lemma yields_readNat (bound : Nat) (expected : String) :
    Yields (readNat bound expected) (· < bound) := by
  intro json n h
  cases json with
  | integer k =>
    rw [readNat] at h
    split at h
    · rename_i hrange
      simp only [Bool.and_eq_true, decide_eq_true_eq] at hrange
      rw [Except.ok.injEq] at h
      omega
    · simp at h
  | _ => simp [readNat] at h

lemma yields_readCount : Yields readCount (· < 2 ^ 64) := yields_readNat _ _

lemma yields_readStatus : Yields readStatus (· < 2 ^ 16) := yields_readNat _ _

lemma yields_readOption (h : Yields read good) : Yields (readOption read) (∀ x ∈ ·, good x) := by
  intro json o ho x hx
  rw [Option.mem_def] at hx
  unfold readOption at ho
  split at ho
  · rw [Except.ok.injEq] at ho
    rw [← ho] at hx
    simp at hx
  · obtain ⟨y, hy, rfl⟩ := map_eq_ok.mp ho
    obtain rfl := Option.some.inj hx
    exact h json y hy

lemma yields_readList (h : Yields read good) : Yields (readList read) (∀ x ∈ ·, good x) := by
  intro json xs hxs x hx
  cases json with
  | array items =>
    have hmapped : items.mapM read = .ok xs := hxs
    obtain ⟨item, -, hitem⟩ := exists_of_mem_mapM hmapped hx
    exact h item x hitem
  | _ => simp [readList] at hxs

/-- The value of the field passes what the record asks of it, if the record has such a field. -/
def Shape.Accepts (shape : Shape) (field : String × Json) : Prop :=
  ∀ test, shape.checks.lookup field.1 = some test → test field.2 = .ok ()

lemma check_eq_ok {json : Json} {x : α} (h : read json = .ok x) : check read json = .ok () := by
  rw [check, h]
  rfl

/-- An object can be opened as a record if its known fields pass; others are left alone. -/
lemma Shape.open_object {shape : Shape} {fields : List (String × Json)}
    (h : ∀ field ∈ fields, shape.Accepts field) :
    shape.open (.object fields) = .ok (.named fields) := by
  unfold Shape.open
  dsimp only
  rw [forIn_eq_ok]
  · rfl
  · rintro ⟨name, json⟩ hfield
    have haccept := h _ (List.mem_mergeSort.mp hfield)
    dsimp only
    cases htest : shape.checks.lookup name with
    | none => rfl
    | some test =>
      have hpass : test json = .ok () := haccept test htest
      dsimp only
      rw [hpass]
      rfl

lemma Fields.get_named {fields : List (String × Json)} {shape : Shape} {place : Nat} {name : String}
    {json : Json} (h : fields.lookup name = some json) :
    (Fields.named fields).get shape place name read = read json := by
  rw [Fields.get, h]

lemma Fields.getD_named {fields : List (String × Json)} {shape : Shape} {place : Nat}
    {name : String} {json : Json} {default : α} {anywhere : Bool}
    (h : fields.lookup name = some json) :
    (Fields.named fields).getD shape place name read default anywhere = read json := by
  rw [Fields.getD, h]

lemma Yields.get (hread : Yields read good) {fields : Fields} {shape : Shape} {place : Nat}
    {name : String} {x : α} (h : fields.get shape place name read = .ok x) : good x := by
  unfold Fields.get at h
  split at h
  · split at h
    · exact hread _ x h
    · simp at h
  · split at h
    · exact hread _ x h
    · simp at h

lemma Yields.getD (hread : Yields read good) {fields : Fields} {shape : Shape} {place : Nat}
    {name : String} {x default : α} {anywhere : Bool} (hdefault : good default)
    (h : fields.getD shape place name read default anywhere = .ok x) : good x := by
  unfold Fields.getD at h
  split at h
  · split at h
    · exact hread _ x h
    · rw [Except.ok.injEq] at h
      exact h ▸ hdefault
  · split at h
    · exact hread _ x h
    · split at h
      · rw [Except.ok.injEq] at h
        exact h ▸ hdefault
      · exact hread.get h

end Checkup.Json
