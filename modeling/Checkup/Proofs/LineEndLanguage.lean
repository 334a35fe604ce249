import Checkup.Language.Classify
import Checkup.Proofs.LineEndSpans

/-!
# Languages and line ends

The language of a text can change when its lines end in carriage returns. Two tests of its content
look for a word and a later one with something in between that is not a line feed, and take a
carriage return for that: where only white space stands between `import` and `from`, or between
`select` and `from`, and a line feed follows other white space there, the test fires with carriage
returns and not without them. `Language.classify_windows_iff` says when this changes the language;
every other test fires for both texts or for neither.
-/

namespace Checkup
open Text

lemma Text.contains_iff {part text : List Char} :
    Text.contains part text ↔ ∃ i ≤ text.length, part <+: text.drop i := by
  induction text with
  | nil => simp [Text.contains]
  | cons c text ih =>
    rw [Text.contains, Bool.or_eq_true, List.isPrefixOf_iff_prefix, ih]
    constructor
    · rintro (h | ⟨i, hi, h⟩)
      · exact ⟨0, Nat.zero_le _, h⟩
      · exact ⟨i + 1, Nat.succ_le_succ hi, h⟩
    · rintro ⟨_ | i, hi, h⟩
      · exact .inl h
      · exact .inr ⟨i, Nat.le_of_succ_le_succ hi, h⟩

namespace Pattern

variable {text : List Char} {i j : Nat} {r s head tail : Pattern}

lemma occursIn_text (t : String) (text : List Char) :
    (Pattern.text t).occursIn text = Text.contains t.toList text := by
  rw [Bool.eq_iff_iff, occursIn_iff, Text.contains_iff]
  refine exists_congr fun i => ?_
  simp only [spans_text, exists_and_left, exists_eq, and_true]

lemma occursIn_eq_or {t : Pattern}
    (h : ∀ i j, r.Spans text i j ↔ s.Spans text i j ∨ t.Spans text i j) :
    r.occursIn text = (s.occursIn text || t.occursIn text) := by
  rw [Bool.eq_iff_iff, Bool.or_eq_true]
  simp only [occursIn_iff, h, and_or_left, exists_or]

/-- Some part of a line and a later word behind the head, with white space around that part. -/
def between (head tail : Pattern) : Pattern :=
  head ++ spaces₁ ++ oneOrMore notNewline ++ spaces₁ ++ tail

/-- Nothing but white space between the head and the later word, with a line feed in it that is not
its first character. -/
def gap (head tail : Pattern) : Pattern :=
  head ++ spaces₁ ++ char (.one '\n') ++ spaces ++ tail

lemma spans_between : (between head tail).Spans text i j ↔ ∃ a b c d, head.Spans text i a ∧
    spaces₁.Spans text a b ∧ (oneOrMore notNewline).Spans text b c ∧ spaces₁.Spans text c d ∧
    tail.Spans text d j := by
  simp only [between, append_eq_seq, spans_seq]
  constructor
  · rintro ⟨d, ⟨c, ⟨b, ⟨a, ha, hb⟩, hc⟩, hd⟩, hj⟩
    exact ⟨a, b, c, d, ha, hb, hc, hd, hj⟩
  · rintro ⟨a, b, c, d, ha, hb, hc, hd, hj⟩
    exact ⟨d, ⟨c, ⟨b, ⟨a, ha, hb⟩, hc⟩, hd⟩, hj⟩

lemma spans_gap : (gap head tail).Spans text i j ↔ ∃ a b d, head.Spans text i a ∧
    spaces₁.Spans text a b ∧ text[b]? = some '\n' ∧ spaces.Spans text (b + 1) d ∧
    tail.Spans text d j := by
  simp only [gap, append_eq_seq, spans_seq, spans_char, CharSet.holdsAt_one]
  constructor
  · rintro ⟨d, ⟨_, ⟨b, ⟨a, ha, hb⟩, hc, rfl⟩, hd⟩, hj⟩
    exact ⟨a, b, d, ha, hb, hc, hd, hj⟩
  · rintro ⟨a, b, d, ha, hb, hc, hd, hj⟩
    exact ⟨d, ⟨_, ⟨b, ⟨a, ha, hb⟩, hc, rfl⟩, hd⟩, hj⟩

/-- A text has a part between the two words with carriage returns if it has one without them, or if
there is a gap: then the carriage return of the line feed in it is taken for such a part. -/
theorem between_windows (hw : head.widens) (hn : head.narrows) (hs : head.settles)
    (ht : tail.ignoresReturns) (hstart : tail.startsOutside) (text : List Char) :
    (between head tail).occursIn (windows text) =
      ((between head tail).occursIn text || (gap head tail).occursIn text) := by
  rw [Bool.eq_iff_iff, Bool.or_eq_true, occursIn_iff, occursIn_iff, occursIn_iff]
  constructor
  · rintro ⟨i', j', hlen, h⟩
    obtain ⟨a', b', c', d', ha', hb', hc', hd', hj'⟩ := spans_between.mp h
    obtain ⟨i, hi⟩ := exists_origin text i'
    obtain ⟨a, ha⟩ := exists_origin text a'
    obtain ⟨b, hb⟩ := exists_origin text b'
    obtain ⟨c, hc⟩ := exists_origin text c'
    obtain ⟨d, hd⟩ := exists_origin text d'
    have hhead := ha'.narrow hn hi ha (.inl hs)
    have hbefore := hb'.narrow rfl ha hb (.inr (hc'.not_inBreak (by decide)))
    have hbehind := hd'.narrow rfl hc hd (.inr (hj'.not_inBreak hstart))
    obtain ⟨j, htail⟩ := (spans_windows ht hd).1 j' hj'
    obtain ⟨hbc', hpart'⟩ := spans_oneOrMore_char.mp hc'
    obtain ⟨hlt | ⟨rfl, hbreak, -⟩, hpart⟩ := run_narrow hbc' hpart' hb hc
    · exact .inl ⟨i, j, hi.le_length hlen, spans_between.mpr
        ⟨a, b, c, d, hhead, hbefore, spans_oneOrMore_char.mpr ⟨hlt, hpart⟩, hbehind, htail⟩⟩
    · -- The part was the carriage return, and the line feed belongs to the white space behind it.
      obtain ⟨k, hk, hck⟩ := hbreak
      obtain rfl : b = k := hc.unique (.inr ⟨hk, hck⟩)
      obtain ⟨hlt, hrun⟩ := spans_oneOrMore_char.mp hbehind
      exact .inr ⟨i, j, hi.le_length hlen, spans_gap.mpr ⟨a, b, d, hhead, hbefore, hk,
        spans_zeroOrMore_char.mpr ⟨hlt, fun l hl => hrun l (by omega)⟩, htail⟩⟩
  · have hlen {i : Nat} (h : i ≤ text.length) : Text.moved text i ≤ (windows text).length := by
      rw [← moved_length]
      exact (moved_strictMono text).monotone h
    rintro (⟨i, j, hi, h⟩ | ⟨i, j, hi, h⟩)
    · obtain ⟨a, b, c, d, ha, hb, hc, hd, hj⟩ := spans_between.mp h
      obtain ⟨j', hj'⟩ := (spans_windows ht (.inl rfl)).2 rfl j hj
      exact ⟨_, j', hlen hi, spans_between.mpr ⟨_, _, _, _, ha.moved hw, hb.moved (by decide),
        hc.moved (by decide), hd.moved (by decide), hj'⟩⟩
    · obtain ⟨a, b, d, ha, hb, hk, hd, hj⟩ := spans_gap.mp h
      obtain ⟨j', hj'⟩ := (spans_windows ht (.inl rfl)).2 rfl j hj
      obtain ⟨hle, hrun⟩ := spans_zeroOrMore_char.mp hd
      have hpart : (oneOrMore notNewline).Spans (windows text) (Text.moved text b)
          (Text.moved text b + 1) := by
        refine spans_oneOrMore_char.mpr ⟨Nat.lt_succ_self _, fun k hbk hkb => ?_⟩
        obtain rfl : k = Text.moved text b := by omega
        exact ⟨'\r', getElem?_windows_of_break hk, by decide⟩
      have hbehind : spaces₁.Spans (windows text) (Text.moved text b + 1) (Text.moved text d) := by
        have hmoved := (moved_strictMono text).monotone hle
        rw [moved_succ_of_break hk] at hmoved
        refine spans_oneOrMore_char.mpr ⟨by omega, fun k hbk hkd => ?_⟩
        rcases Nat.eq_or_lt_of_le hbk with rfl | hlt
        · exact ⟨'\n', getElem?_windows_break hk, by decide⟩
        · refine CharSet.run_moved hrun (by decide) k ?_ hkd
          rw [moved_succ_of_break hk]
          omega
      exact ⟨_, j', hlen hi, spans_between.mpr ⟨_, _, _, _, ha.moved hw, hb.moved (by decide),
        hpart, hbehind, hj'⟩⟩

/-- A match in front of a line feed can take the carriage return that comes before it. -/
def TakesReturn (r : Pattern) : Prop := ∀ text i j, text[j]? = some '\n' → r.Spans text i j →
  r.Spans (windows text) (Text.moved text i) (Text.moved text j + 1)

lemma TakesReturn.of_run {c : CharSet} (hc : c.contains '\r') :
    TakesReturn (zeroOrMore (char c)) := by
  intro text i j hj h
  obtain ⟨hij, hrun⟩ := spans_zeroOrMore_char.mp h
  have hmoved := (moved_strictMono text).monotone hij
  refine spans_zeroOrMore_char.mpr ⟨by omega, fun k hik hkj => ?_⟩
  by_cases hk : k = Text.moved text j
  · exact ⟨'\r', hk ▸ getElem?_windows_of_break hj, hc⟩
  · exact CharSet.run_moved hrun (fun _ => hc) k hik (by omega)

lemma TakesReturn.seq (hr : r.widens) (hs : TakesReturn s) : TakesReturn (r ++ s) := by
  intro text i j hj h
  obtain ⟨k, hrk, hks⟩ := spans_seq.mp h
  exact spans_seq.mpr ⟨_, hrk.moved hr, hs text k j hj hks⟩

lemma TakesReturn.seq_optional (hw : r.widens) (hr : TakesReturn r) (hs : TakesReturn s) :
    TakesReturn (r ++ optional s) := by
  intro text i j hj h
  obtain ⟨k, hrk, hks⟩ := spans_seq.mp h
  rcases spans_optional.mp hks with hks | rfl
  · exact spans_seq.mpr ⟨_, hrk.moved hw, spans_optional.mpr (.inl (hs text k j hj hks))⟩
  · exact spans_seq.mpr ⟨_, hr text i j hj hrk, spans_optional.mpr (.inr rfl)⟩

/-- A pattern that ends with a line occurs in both texts or in neither, if it can take the carriage
return at the end of the line. -/
lemma occursIn_lineEnd_windows (hw : r.widens) (hn : r.narrows) (hs : r.settles)
    (hret : TakesReturn r) (text : List Char) :
    (r ++ look .lineEnd).occursIn (windows text) = (r ++ look .lineEnd).occursIn text := by
  rw [Bool.eq_iff_iff, occursIn_iff, occursIn_iff]
  constructor
  · rintro ⟨i', j', hlen, h⟩
    obtain ⟨i, hi⟩ := exists_origin text i'
    obtain ⟨j, hj⟩ := exists_origin text j'
    have hnarrows : (r ++ look .lineEnd).narrows := by simp [narrows, hn, hs]
    exact ⟨i, j, hi.le_length hlen, h.narrow hnarrows hi hj (.inl rfl)⟩
  · rintro ⟨i, j, hlen, h⟩
    have hmoved := (moved_strictMono text).monotone hlen
    rw [moved_length] at hmoved
    obtain ⟨k, hrk, hlook⟩ := spans_seq.mp h
    obtain ⟨hend, rfl⟩ := spans_look.mp hlook
    by_cases hj : text[j]? = some '\n'
    · refine ⟨_, _, hmoved, spans_seq.mpr ⟨_, hret text i j hj hrk, spans_look.mpr ⟨?_, rfl⟩⟩⟩
      rw [(site_inBreak ⟨j, hj, rfl⟩).2]
      rfl
    · refine ⟨_, _, hmoved, spans_seq.mpr ⟨_, hrk.moved hw, spans_look.mpr ⟨?_, rfl⟩⟩⟩
      obtain ⟨hbefore, hafter⟩ := site_moved text j
      rw [hbefore, hafter, if_neg hj]
      exact hend

end Pattern

namespace Heuristic
open Pattern

/-- The head of a line that imports names, and what has to come behind the names. -/
def importHead : Pattern := look .lineStart ++ spaces ++ text "import"

def importTail : Pattern := text "from" ++ spaces₁ ++ char quote

/-- A line that imports or exports, without names between the words of an import. -/
def plainModuleLine : Pattern :=
  look .lineStart ++ spaces ++
    (text "import" ++ spaces₁ ++ char quote |||
      text "export" ++ spaces₁ ++
        texts ["default", "const", "let", "function", "class", "async", "\x7b"])

/-- The head of a query, and what has to come behind its columns. -/
def selectHead : Pattern := look .lineStart ++ spaces ++ caselessText "select"

def selectTail : Pattern := caselessText "from" ++ char .space

/-- A statement that is no query. -/
def plainStatement : Pattern :=
  look .lineStart ++ spaces ++
    choice [
      caselessText "insert" ++ spaces₁ ++ caselessText "into" ++ char .space,
      caselessText "update" ++ spaces₁ ++ word ++ spaces₁ ++ caselessText "set" ++ char .space,
      caselessText "delete" ++ spaces₁ ++ caselessText "from" ++ char .space,
      caselessText "create" ++ spaces₁ ++ caselessTexts ["table", "index", "view"] ++ char .space]

lemma moduleLine_occursIn (code : List Char) : moduleLine.occursIn code =
    (plainModuleLine.occursIn code || (between importHead importTail).occursIn code) := by
  refine occursIn_eq_or fun i j => ⟨fun h => ?_, ?_⟩
  · obtain ⟨k, hk, h⟩ := spans_seq.mp h
    rcases spans_alt.mp h with h | h
    · obtain ⟨d, h, hquote⟩ := spans_seq.mp h
      obtain ⟨b, h, hnames⟩ := spans_seq.mp h
      obtain ⟨a, hword, hblank⟩ := spans_seq.mp h
      rcases spans_optional.mp hnames with hnames | rfl
      · obtain ⟨f, hnames, hlast⟩ := spans_seq.mp hnames
        obtain ⟨e, hnames, hfrom⟩ := spans_seq.mp hnames
        obtain ⟨c, hpart, hbehind⟩ := spans_seq.mp hnames
        have htail : importTail.Spans code e j :=
          spans_seq.mpr ⟨d, spans_seq.mpr ⟨f, hfrom, hlast⟩, hquote⟩
        exact .inr (spans_between.mpr
          ⟨a, b, c, e, spans_seq.mpr ⟨k, hk, hword⟩, hblank, hpart, hbehind, htail⟩)
      · have hline := spans_seq.mpr ⟨d, spans_seq.mpr ⟨a, hword, hblank⟩, hquote⟩
        exact .inl (spans_seq.mpr ⟨k, hk, spans_alt.mpr (.inl hline)⟩)
    · exact .inl (spans_seq.mpr ⟨k, hk, spans_alt.mpr (.inr h)⟩)
  · rintro (h | h)
    · obtain ⟨k, hk, h⟩ := spans_seq.mp h
      rcases spans_alt.mp h with h | h
      · obtain ⟨d, h, hquote⟩ := spans_seq.mp h
        exact spans_seq.mpr ⟨k, hk, spans_alt.mpr (.inl (spans_seq.mpr
          ⟨d, spans_seq.mpr ⟨d, h, spans_optional.mpr (.inr rfl)⟩, hquote⟩))⟩
      · exact spans_seq.mpr ⟨k, hk, spans_alt.mpr (.inr h)⟩
    · obtain ⟨a, b, c, e, hhead, hblank, hpart, hbehind, htail⟩ := spans_between.mp h
      obtain ⟨k, hk, hword⟩ := spans_seq.mp hhead
      obtain ⟨d, htail, hquote⟩ := spans_seq.mp htail
      obtain ⟨f, hfrom, hlast⟩ := spans_seq.mp htail
      have hnames := spans_seq.mpr ⟨f, spans_seq.mpr ⟨e, spans_seq.mpr ⟨c, hpart, hbehind⟩, hfrom⟩,
        hlast⟩
      have hline := spans_seq.mpr ⟨d, spans_seq.mpr ⟨b, spans_seq.mpr ⟨a, hword, hblank⟩,
        spans_optional.mpr (.inl hnames)⟩, hquote⟩
      exact spans_seq.mpr ⟨k, hk, spans_alt.mpr (.inl hline)⟩

lemma statement_occursIn (code : List Char) : statement.occursIn code =
    (plainStatement.occursIn code || (between selectHead selectTail).occursIn code) := by
  refine occursIn_eq_or fun i j => ⟨fun h => ?_, ?_⟩
  · obtain ⟨k, hk, h⟩ := spans_seq.mp h
    rcases spans_alt.mp h with h | h
    · obtain ⟨f, h, hlast⟩ := spans_seq.mp h
      obtain ⟨d, h, hfrom⟩ := spans_seq.mp h
      obtain ⟨c, h, hbehind⟩ := spans_seq.mp h
      obtain ⟨b, h, hpart⟩ := spans_seq.mp h
      obtain ⟨a, hword, hblank⟩ := spans_seq.mp h
      exact .inr (spans_between.mpr ⟨a, b, c, d, spans_seq.mpr ⟨k, hk, hword⟩, hblank, hpart,
        hbehind, spans_seq.mpr ⟨f, hfrom, hlast⟩⟩)
    · exact .inl (spans_seq.mpr ⟨k, hk, h⟩)
  · rintro (h | h)
    · obtain ⟨k, hk, h⟩ := spans_seq.mp h
      exact spans_seq.mpr ⟨k, hk, spans_alt.mpr (.inr h)⟩
    · obtain ⟨a, b, c, d, hhead, hblank, hpart, hbehind, htail⟩ := spans_between.mp h
      obtain ⟨k, hk, hword⟩ := spans_seq.mp hhead
      obtain ⟨f, hfrom, hlast⟩ := spans_seq.mp htail
      have hquery := spans_seq.mpr ⟨f, spans_seq.mpr ⟨d, spans_seq.mpr ⟨c, spans_seq.mpr ⟨b,
        spans_seq.mpr ⟨a, hword, hblank⟩, hpart⟩, hbehind⟩, hfrom⟩, hlast⟩
      exact spans_seq.mpr ⟨k, hk, spans_alt.mpr (.inl hquery)⟩

lemma moduleLine_windows (code : List Char) : moduleLine.occursIn (windows code) =
    (moduleLine.occursIn code || (gap importHead importTail).occursIn code) := by
  rw [moduleLine_occursIn, moduleLine_occursIn, occursIn_windows (by decide),
    between_windows (by decide) (by decide) (by decide) (by decide) (by decide), Bool.or_assoc]

lemma statement_windows (code : List Char) : statement.occursIn (windows code) =
    (statement.occursIn code || (gap selectHead selectTail).occursIn code) := by
  rw [statement_occursIn, statement_occursIn, occursIn_windows (by decide),
    between_windows (by decide) (by decide) (by decide) (by decide) (by decide), Bool.or_assoc]

lemma indentedClass_windows (code : List Char) :
    indentedClass.occursIn (windows code) = indentedClass.occursIn code :=
  occursIn_lineEnd_windows (by decide) (by decide) (by decide)
    (.seq (by decide) (.of_run (by decide))) code

lemma indentedFunction_windows (code : List Char) :
    indentedFunction.occursIn (windows code) = indentedFunction.occursIn code :=
  occursIn_lineEnd_windows (by decide) (by decide) (by decide)
    (.seq_optional (by decide) (.seq (by decide) (.of_run (by decide)))
      (.seq (by decide) (.of_run (by decide)))) code

/-- The language of the first test that fires, or another one if none does. -/
def firstOf (tests : List Heuristic) (otherwise : Language) (code : List Char) : Language :=
  ((tests.find? (·.fires code)).map (·.language)).getD otherwise

lemma firstOf_nil (otherwise : Language) (code : List Char) :
    firstOf [] otherwise code = otherwise := rfl

lemma firstOf_cons (test : Heuristic) (tests : List Heuristic) (otherwise : Language)
    (code : List Char) : firstOf (test :: tests) otherwise code =
      if test.fires code then test.language else firstOf tests otherwise code := by
  cases h : test.fires code <;> simp [firstOf, h]

/-- Tests that fire for both texts or for neither find the same language. -/
lemma firstOf_congr {tests : List Heuristic} {otherwise : Language} {code code' : List Char}
    (h : ∀ test ∈ tests, test.fires code' = test.fires code) :
    firstOf tests otherwise code' = firstOf tests otherwise code := by
  induction tests with
  | nil => rfl
  | cons test tests ih =>
    rw [firstOf_cons, firstOf_cons, h test List.mem_cons_self,
      ih fun test' hmem => h test' (List.mem_cons_of_mem _ hmem)]

lemma firstOf_append (tests tests' : List Heuristic) (otherwise : Language) (code : List Char) :
    firstOf (tests ++ tests') otherwise code =
      firstOf tests (firstOf tests' otherwise code) code := by
  induction tests with
  | nil => rfl
  | cons test tests ih => rw [List.cons_append, firstOf_cons, firstOf_cons, ih]

lemma firstOf_of_none {tests : List Heuristic} {otherwise : Language} {code : List Char}
    (h : ∀ test ∈ tests, ¬test.fires code) : firstOf tests otherwise code = otherwise := by
  rw [firstOf, List.find?_eq_none.mpr h]
  rfl

lemma firstOf_of_exists {tests : List Heuristic} {code : List Char}
    (h : ¬∀ test ∈ tests, ¬test.fires code) (otherwise otherwise' : Language) :
    firstOf tests otherwise code = firstOf tests otherwise' code := by
  cases hfind : tests.find? (·.fires code) with
  | none => exact absurd (List.find?_eq_none.mp hfind) h
  | some test => rw [firstOf, firstOf, hfind]; rfl

/-- The language of a text with a module line in it. -/
def moduleLanguage (code : List Char) : Language :=
  if !Text.contains "require(".toList code &&
      (typeImport.occursIn code || typedParameter.occursIn code || resultType.occursIn code) then
    .typescript
  else .javascript

lemma hasTypes_windows (code : List Char) : hasTypes (windows code) = hasTypes code := by
  rw [hasTypes, hasTypes, occursIn_windows (by decide), occursIn_windows (by decide)]

lemma contains_windows {part : String} (h : (Pattern.text part).ignoresReturns) (code : List Char) :
    Text.contains part.toList (windows code) = Text.contains part.toList code := by
  rw [← occursIn_text, ← occursIn_text, occursIn_windows h]

lemma moduleLanguage_windows (code : List Char) :
    moduleLanguage (windows code) = moduleLanguage code := by
  rw [moduleLanguage, moduleLanguage, contains_windows (by decide), occursIn_windows (by decide),
    occursIn_windows (by decide), occursIn_windows (by decide)]

/-- The tests between those for module lines and the one for statements, and those behind it. -/
def middleTests : List Heuristic := (table.drop 3).take 4

def lastTests : List Heuristic := table.drop 8

lemma fires_windows {test : Heuristic} (h : test ∈ middleTests ++ lastTests) (code : List Char) :
    test.fires (windows code) = test.fires code := by
  simp only [middleTests, lastTests, table, List.drop_succ_cons, List.drop_zero,
    List.take_succ_cons, List.take_zero, List.cons_append, List.nil_append, List.mem_cons,
    List.not_mem_nil, or_false] at h
  rcases h with rfl | rfl | rfl | rfl | rfl | rfl
  · dsimp only
    rw [indentedFunction_windows, indentedClass_windows]
  · dsimp only
    rw [occursIn_windows (by decide), contains_windows (by decide)]
  · dsimp only
    rw [occursIn_windows (by decide), occursIn_windows (by decide)]
  · exact occursIn_windows (by decide) code
  · exact occursIn_windows (by decide) code
  · exact occursIn_windows (by decide) code

end Heuristic

namespace Language
open Pattern Heuristic

/-- The language that the content of a text tells, or else the fallback. -/
def ofContent (code : List Char) : Language := firstOf table fallback code

lemma classify_eq (code : String) (filename : Option String) : classify code filename =
    ((filename.bind ofFilename?).or (ofDirective? code)).getD (ofContent code.toList) := by
  rw [classify, ofContent, firstOf, ofContent?]
  cases (filename.bind ofFilename?).or (ofDirective? code) <;> rfl

lemma ofContent_eq (code : List Char) : ofContent code =
    if hasTypes code then .typescript
    else if moduleLine.occursIn code then moduleLanguage code
    else firstOf middleTests
      (if statement.occursIn code then .sql else firstOf lastTests fallback code) code := by
  have htable : table = table.take 3 ++ (middleTests ++ (table.drop 7).take 1 ++ lastTests) := rfl
  rw [ofContent, htable, firstOf_append, firstOf_append, firstOf_append]
  simp only [table, List.take_succ_cons, List.take_zero, List.drop_succ_cons, List.drop_zero,
    firstOf_cons]
  cases hasTypes code with
  | true => rfl
  | false =>
    rw [isTypedModule, moduleLanguage]
    cases hmodule : moduleLine.occursIn code with
    | true => rw [Bool.true_and]; rfl
    | false => rw [Bool.false_and, Bool.false_and]; rfl

/-- With carriage returns a gap makes a test fire that none of the earlier ones forestalls, and that
tells another language. -/
def Misled (code : List Char) : Prop :=
  (∀ test ∈ table.take 3, ¬test.fires code) ∧ (gap importHead importTail).occursIn code ∧
      ofContent code ≠ moduleLanguage code ∨
    (∀ test ∈ table.take 8, ¬test.fires code) ∧ ¬(gap importHead importTail).occursIn code ∧
      (gap selectHead selectTail).occursIn code

lemma take_three_iff {code : List Char} : (∀ test ∈ table.take 3, ¬test.fires code) ↔
    ¬hasTypes code ∧ ¬moduleLine.occursIn code := by
  simp only [table, List.take_succ_cons, List.take_zero, List.forall_mem_cons, List.not_mem_nil,
    isTypedModule, Bool.and_eq_true]
  tauto

lemma take_eight_iff {code : List Char} : (∀ test ∈ table.take 8, ¬test.fires code) ↔
    (∀ test ∈ table.take 3, ¬test.fires code) ∧ (∀ test ∈ middleTests, ¬test.fires code) ∧
      ¬statement.occursIn code := by
  have htable : table.take 8 = table.take 3 ++ (middleTests ++ (table.drop 7).take 1) := rfl
  rw [htable, List.forall_mem_append, List.forall_mem_append]
  simp only [table, List.take_succ_cons, List.take_zero, List.drop_succ_cons, List.drop_zero,
    List.forall_mem_singleton]

lemma firstOf_lastTests_ne_sql (code : List Char) : firstOf lastTests fallback code ≠ .sql := by
  simp only [lastTests, table, List.drop_succ_cons, List.drop_zero, firstOf_cons,
    firstOf_nil]
  split_ifs <;> decide

lemma ofContent_windows_iff (code : List Char) :
    ofContent (windows code) = ofContent code ↔ ¬Misled code := by
  have hmiddle (otherwise : Language) : firstOf middleTests otherwise (windows code) =
      firstOf middleTests otherwise code :=
    firstOf_congr fun test h => fires_windows (List.mem_append_left _ h) code
  have hlast : firstOf lastTests fallback (windows code) = firstOf lastTests fallback code :=
    firstOf_congr fun test h => fires_windows (List.mem_append_right _ h) code
  have hwindows := ofContent_eq (windows code)
  rw [hasTypes_windows, moduleLine_windows, moduleLanguage_windows, statement_windows, hmiddle,
    hlast] at hwindows
  rw [hwindows, Misled, take_eight_iff, take_three_iff, ofContent_eq code]
  by_cases hearly : ¬hasTypes code ∧ ¬moduleLine.occursIn code
  · have ⟨htypes, hmodule⟩ := hearly
    simp only [htypes, hmodule, if_false, Bool.false_eq_true, Bool.false_or, and_true, true_and,
      not_false_eq_true]
    by_cases himport : (gap importHead importTail).occursIn code
    · simp only [himport, if_true, not_true, false_and, and_false, or_false, true_and, ne_eq,
        not_not]
      exact eq_comm
    by_cases hquery : ¬statement.occursIn code ∧ (gap selectHead selectTail).occursIn code
    · -- The gap decides, unless one of the tests before it fires.
      simp only [himport, hquery, if_false, if_true, Bool.false_eq_true, Bool.false_or,
        false_and, false_or, and_true, not_false_eq_true]
      by_cases hnone : ∀ test ∈ middleTests, ¬test.fires code
      · rw [firstOf_of_none hnone, firstOf_of_none hnone]
        exact iff_of_false (firstOf_lastTests_ne_sql code).symm (not_not_intro hnone)
      · exact iff_of_true (firstOf_of_exists hnone _ _) hnone
    · have hsame : (statement.occursIn code || (gap selectHead selectTail).occursIn code) =
          statement.occursIn code := by
        cases hst : statement.occursIn code with
        | true => rfl
        | false => simpa [hst] using hquery
      rw [hsame]
      refine iff_of_true (by simp [himport]) ?_
      rintro (⟨h, -⟩ | ⟨⟨-, h⟩, -, hselect⟩)
      · exact himport h
      · exact hquery ⟨h, hselect⟩
  · -- One of the first tests fires for both texts.
    refine iff_of_true ?_ ?_
    · cases htypes : hasTypes code with
      | true => rfl
      | false =>
        have hmodule : moduleLine.occursIn code = true := by simpa [htypes] using hearly
        simp [hmodule]
    · rintro (⟨h, -⟩ | ⟨⟨h, -⟩, -⟩)
      · exact hearly h
      · exact hearly h

lemma ofDirective?_windows {code : String} (h : '\r' ∉ code.toList) :
    ofDirective? (windowsText code) = ofDirective? code := by
  rw [ofDirective?, ofDirective?, toList_windowsText, firstLine_windows h]

/-- A text keeps its language with carriage returns at its line ends exactly if its filename or its
first line tells the language, or no gap misleads the tests of its content. -/
theorem classify_windows_iff (code : String) (filename : Option String) (h : '\r' ∉ code.toList) :
    classify (windowsText code) filename = classify code filename ↔
      (filename.bind ofFilename?).isSome ∨ (ofDirective? code).isSome ∨ ¬Misled code.toList := by
  rw [classify_eq, classify_eq, ofDirective?_windows h, toList_windowsText]
  cases filename.bind ofFilename? with
  | some language => simp
  | none =>
    cases ofDirective? code with
    | some language => simp
    | none => simp [ofContent_windows_iff]

theorem classify_windows_iff_directive :
    let code := "#!/usr/bin/env python\nselect\n\nfrom\n"
    '\r' ∉ code.toList ∧ (ofDirective? code).isSome ∧
      classify (windowsText code) none = classify code none := by
  intro code
  have hreturns : '\r' ∉ code.toList := by decide
  have hdirective : (ofDirective? code).isSome := by decide +kernel
  exact ⟨hreturns, hdirective,
    (classify_windows_iff code none hreturns).mpr (.inr (.inl hdirective))⟩

/-- Nothing but white space with a line feed in it stands between `select` and `from`: with carriage
returns that is a query, and without them it is not. -/
theorem classify_windows_differs :
    '\r' ∉ "# Verbs\nselect\n\nfrom\n".toList ∧
      classify "# Verbs\nselect\n\nfrom\n" none = .markdown ∧
      classify (windowsText "# Verbs\nselect\n\nfrom\n") none = .sql := by
  decide +kernel

end Language
end Checkup
