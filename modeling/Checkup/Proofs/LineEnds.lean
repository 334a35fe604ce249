import Checkup.Metrics
import Checkup.Proofs.Concatenation
import Mathlib.Data.List.Count
import Mathlib.Order.Monotone.Basic

/-!
# Line ends

A text as Windows writes it has a carriage return before each line feed. `Text.moved` says where
the positions of the text are in that form of it: a position before a line feed is moved before the
carriage return, and only the places between a carriage return and its line feed are new. The lines
and the words of the text stay what they were.
-/

namespace Checkup

namespace Text

/-- The text with a carriage return before each line feed. -/
def windows (text : List Char) : List Char :=
  text.flatMap fun c => if c = '\n' then ['\r', '\n'] else [c]

/-- Where the position `i` of a text is when the text has carriage returns. -/
def moved (text : List Char) (i : Nat) : Nat := i + (text.take i).count '\n'

variable {text : List Char} {i j k : Nat}

lemma windows_cons (c : Char) (text : List Char) :
    windows (c :: text) = (if c = '\n' then ['\r', '\n'] else [c]) ++ windows text := by
  rw [windows, List.flatMap_cons, ← windows]

lemma windows_append (a b : List Char) : windows (a ++ b) = windows a ++ windows b :=
  List.flatMap_append

lemma windows_of_notMem (h : '\n' ∉ text) : windows text = text := by
  induction text with
  | nil => rfl
  | cons c text ih =>
    rw [List.mem_cons, not_or] at h
    rw [windows_cons, if_neg fun hc => h.1 hc.symm, ih h.2, List.singleton_append]

lemma length_windows (text : List Char) :
    (windows text).length = text.length + text.count '\n' := by
  induction text with
  | nil => rfl
  | cons c text ih =>
    rw [windows_cons, List.length_append, ih, List.count_cons, List.length_cons]
    by_cases hc : c = '\n'
    · simp only [hc, if_true, beq_self_eq_true, List.length_cons, List.length_nil]
      omega
    · simp only [hc, if_false, beq_iff_eq, List.length_cons, List.length_nil]
      omega

@[simp] lemma moved_zero (text : List Char) : moved text 0 = 0 := rfl

lemma moved_succ (text : List Char) (i : Nat) :
    moved text (i + 1) = moved text i + if text[i]? = some '\n' then 2 else 1 := by
  rw [moved, moved, List.take_add_one, List.count_append]
  cases text[i]? with
  | none =>
    simp
    omega
  | some c =>
    by_cases hc : c = '\n'
    · simp [hc]
      omega
    · simp [hc]
      omega

lemma moved_succ_of_ne (h : text[i]? ≠ some '\n') : moved text (i + 1) = moved text i + 1 := by
  rw [moved_succ, if_neg h]

lemma moved_succ_of_break (h : text[i]? = some '\n') : moved text (i + 1) = moved text i + 2 := by
  rw [moved_succ, if_pos h]

lemma moved_strictMono (text : List Char) : StrictMono (moved text) := by
  refine strictMono_nat_of_lt_succ fun i => ?_
  rw [moved_succ]
  split <;> omega

lemma moved_length (text : List Char) : moved text text.length = (windows text).length := by
  rw [moved, List.take_length, length_windows]

/-- From a moved position on stands what stood there before, with its carriage returns. -/
lemma getElem?_windows_moved_add (text : List Char) (i k : Nat) :
    (windows text)[moved text i + k]? = (windows (text.drop i))[k]? := by
  by_cases hi : i ≤ text.length
  · have hsplit : windows text = windows (text.take i) ++ windows (text.drop i) := by
      rw [← windows_append, List.take_append_drop]
    have hlen : (windows (text.take i)).length = moved text i := by
      rw [length_windows, List.length_take_of_le hi, moved]
    rw [hsplit, List.getElem?_append_right (by omega), hlen, Nat.add_sub_cancel_left]
  · have hmoved := (moved_strictMono text).monotone (Nat.le_of_not_le hi)
    rw [moved_length] at hmoved
    rw [List.getElem?_eq_none (by omega), List.drop_eq_nil_of_le (by omega)]
    rfl

lemma windows_drop_of_some {c : Char} (h : text[i]? = some c) :
    windows (text.drop i) =
      (if c = '\n' then ['\r', '\n'] else [c]) ++ windows (text.drop (i + 1)) := by
  obtain ⟨hi, rfl⟩ := List.getElem?_eq_some_iff.mp h
  rw [List.drop_eq_getElem_cons hi, windows_cons]

lemma getElem?_windows_of_ne (h : text[i]? ≠ some '\n') :
    (windows text)[moved text i]? = text[i]? := by
  rw [← Nat.add_zero (moved text i), getElem?_windows_moved_add]
  cases hc : text[i]? with
  | none =>
    rw [List.drop_eq_nil_of_le (List.getElem?_eq_none_iff.mp hc)]
    rfl
  | some c =>
    rw [windows_drop_of_some hc, if_neg fun heq : c = '\n' => h (by rw [hc, heq])]
    rfl

lemma getElem?_windows_of_break (h : text[i]? = some '\n') :
    (windows text)[moved text i]? = some '\r' := by
  rw [← Nat.add_zero (moved text i), getElem?_windows_moved_add, windows_drop_of_some h]
  rfl

/-- Behind the carriage return stands the line feed. -/
lemma getElem?_windows_break (h : text[i]? = some '\n') :
    (windows text)[moved text i + 1]? = some '\n' := by
  rw [getElem?_windows_moved_add, windows_drop_of_some h]
  rfl

/-- The place between the carriage return and the line feed that end a line. -/
def InBreak (text : List Char) (j : Nat) : Prop :=
  ∃ i, text[i]? = some '\n' ∧ j = moved text i + 1

lemma not_inBreak_moved (text : List Char) (i : Nat) : ¬InBreak text (moved text i) := by
  rintro ⟨k, hk, hik⟩
  have hstep := moved_succ_of_break hk
  rcases Nat.lt_or_ge k i with hlt | hle
  · have := (moved_strictMono text).monotone (show k + 1 ≤ i from hlt)
    omega
  · have := (moved_strictMono text).monotone hle
    omega

/-- Every position of the text with carriage returns is a moved one or lies in a line break. -/
lemma eq_moved_or_inBreak (text : List Char) (j : Nat) :
    (∃ i, j = moved text i) ∨ InBreak text j := by
  induction j with
  | zero => exact .inl ⟨0, (moved_zero text).symm⟩
  | succ j ih =>
    rcases ih with ⟨i, rfl⟩ | ⟨i, hi, rfl⟩
    · by_cases hi : text[i]? = some '\n'
      · exact .inr ⟨i, hi, rfl⟩
      · exact .inl ⟨i + 1, (moved_succ_of_ne hi).symm⟩
    · exact .inl ⟨i + 1, (moved_succ_of_break hi).symm⟩

/-- A line loses the carriage return that its line feed got, and has no other. -/
lemma strippedPieces_line {line : List Char} (h : '\n' ∉ line) (hr : '\r' ∉ line) :
    strippedPieces line = [line] ∧ strippedPieces (line ++ ['\r']) = [line] := by
  have hsuffix : ¬['\r'] <:+ line := fun h => hr (h.subset List.mem_cons_self)
  have hmem : '\n' ∉ line ++ ['\r'] := by simp [h]
  refine ⟨?_, ?_⟩
  · rw [strippedPieces, List.splitOn_eq_singleton h, List.map_singleton, if_neg hsuffix]
  · rw [strippedPieces, List.splitOn_eq_singleton hmem, List.map_singleton,
      if_pos (List.suffix_append line ['\r']), List.dropLast_concat]

lemma strippedPieces_windows (h : '\r' ∉ text) :
    strippedPieces (windows text) = strippedPieces text := by
  induction hn : text.length using Nat.strongRecOn generalizing text with
  | ind n ih =>
    by_cases hbreak : '\n' ∈ text
    · obtain ⟨line, rest, rfl, hline⟩ := List.eq_append_cons_of_mem hbreak
      simp only [List.mem_append, List.mem_cons, not_or] at h
      have hrest := ih rest.length (by simp [← hn]; omega) h.2.2 rfl
      have htext : windows (line ++ '\n' :: rest) = (line ++ ['\r']) ++ '\n' :: windows rest := by
        rw [windows_append, windows_of_notMem hline, windows_cons, if_pos rfl]
        simp
      have hpieces := strippedPieces_line hline h.1
      rw [htext, strippedPieces_append, strippedPieces_append, hrest, hpieces.1, hpieces.2]
    · rw [windows_of_notMem hbreak]

lemma lines_windows (h : '\r' ∉ text) : lines (windows text) = lines text := by
  rw [lines_eq, lines_eq, strippedPieces_windows h]

lemma count_windows (text : List Char) : (windows text).count '\n' = text.count '\n' := by
  induction text with
  | nil => rfl
  | cons c text ih =>
    rw [windows_cons, List.count_append, ih, List.count_cons]
    by_cases hc : c = '\n'
    · simp [hc, Nat.add_comm]
    · simp [hc]

lemma length_pieces (text : List Char) : (pieces text).length = text.count '\n' + 1 := by
  rw [pieces_eq_splitOn]
  induction text with
  | nil => rfl
  | cons c text ih =>
    rw [List.splitOn_cons_eq_if_modifyHead, List.count_cons]
    split
    · rw [List.length_cons, ih]
    · rw [List.length_modifyHead, ih, Nat.add_zero]

lemma wordCount_windows (text : List Char) : wordCount (windows text) = wordCount text := by
  unfold wordCount
  generalize (false, 0) = state
  induction text generalizing state with
  | nil => rfl
  | cons c text ih =>
    rw [windows_cons, List.foldl_append, ih, List.foldl_cons]
    by_cases hc : c = '\n'
    · -- Each of the two characters of a line break ends a word, if there is one.
      have hspace : Unicode.isSpace '\r' ∧ Unicode.isSpace '\n' := by decide
      simp [hc, hspace]
    · simp [hc]

lemma firstLine_windows (h : '\r' ∉ text) : firstLine (windows text) = firstLine text := by
  by_cases hbreak : '\n' ∈ text
  · obtain ⟨line, rest, rfl, hline⟩ := List.eq_append_cons_of_mem hbreak
    have hr : '\r' ∉ line := fun hmem => h (List.mem_append_left _ hmem)
    have hne (l : List Char) (hl : '\n' ∉ l) (r : List Char) :
        (l ++ '\n' :: r).takeWhile (· ≠ '\n') = l := by
      rw [List.takeWhile_append_of_pos fun c hc => by
        simpa using fun heq : c = '\n' => hl (heq ▸ hc)]
      simp
    have htext : windows (line ++ '\n' :: rest) = (line ++ ['\r']) ++ '\n' :: windows rest := by
      rw [windows_append, windows_of_notMem hline, windows_cons, if_pos rfl]
      simp
    have hlast : line.getLast? ≠ some '\r' := fun hl => hr (List.mem_of_getLast? hl)
    rw [htext, firstLine, firstLine, hne line hline, hne (line ++ ['\r']) (by simp [hline])]
    simp [dropReturn, hlast]
  · rw [windows_of_notMem hbreak]

end Text

/-- The text as Windows writes it, with a carriage return before each line feed. -/
def windowsText (code : String) : String := String.ofList (Text.windows code.toList)

@[simp] lemma toList_windowsText (code : String) :
    (windowsText code).toList = Text.windows code.toList := String.toList_ofList

end Checkup
