import Checkup.Language.Filename
import Checkup.Proofs.Spans
import Mathlib.Data.List.Find

/-!
# Extensions of filenames

Each language looks for its extensions in any case, behind a dot, at the end of the name. No
extension has a dot, so what is found is the part behind the last dot, and no two languages share an
extension. So one lookup of that part tells the same as the search for one extension after another.
-/

namespace Checkup
open Pattern

variable {c d : Char}

/-- The set of a character in any case has the characters that fold to it, if it is folded. -/
lemma CharSet.contains_caseless_one (hd : Unicode.fold d = d) :
    (caseless (one d)).contains c ↔ Unicode.fold c = d := by
  simp only [contains, Bool.or_eq_true, beq_iff_eq, List.any_eq_true]
  constructor
  · rintro ((h | rfl) | ⟨e, he, rfl⟩)
    · exact h
    · exact hd
    · rw [Unicode.unfold, List.mem_filter, Bool.and_eq_true] at he
      obtain ⟨-, hfold, -⟩ := he
      exact (beq_iff_eq.mp hfold).symm.trans hd
  · exact fun h => .inl (.inl h)

namespace Pattern

variable {text : List Char} {t : String} {i j : Nat}

/-- The text is its own folding. -/
def isFolded (t : String) : Bool := t.toList.all fun c => Unicode.fold c == c

lemma beginsWith_caseless (cs ds : List Char) (hcs : ∀ c ∈ cs, Unicode.fold c = c) :
    beginsWith (cs.map fun c => .caseless (.one c)) ds ↔ cs <+: ds.map Unicode.fold := by
  induction cs generalizing ds with
  | nil => simp [beginsWith]
  | cons c cs ih =>
    cases ds with
    | nil => simp [beginsWith]
    | cons d ds =>
      have hc := CharSet.contains_caseless_one (c := d) (hcs c List.mem_cons_self)
      rw [List.map_cons, List.map_cons, beginsWith, Bool.and_eq_true, hc,
        ih ds fun e he => hcs e (List.mem_cons_of_mem c he), List.cons_prefix_cons, eq_comm]

lemma spans_caselessText (ht : isFolded t) : (caselessText t).Spans text i j ↔
    t.toList <+: (text.drop i).map Unicode.fold ∧ j = i + t.length := by
  have hchars : caselessText t =
      sequence ((t.toList.map fun c => CharSet.caseless (.one c)).map char) := by
    rw [caselessText, List.map_map]
    rfl
  have hfold : ∀ c ∈ t.toList, Unicode.fold c = c := fun c hc =>
    beq_iff_eq.mp (List.all_eq_true.mp ht c hc)
  rw [Spans, hchars, ways_sequence_char, ← beginsWith_caseless _ _ hfold, List.length_map,
    String.length_toList]
  split
  · rename_i h
    simp [h, eq_comm]
  · rename_i h
    simp [h]

lemma spans_textEnd : (look .textEnd).Spans text i j ↔ text.length ≤ i ∧ j = i := by
  simp only [spans_look, Assertion.holds, Site.ofText, Option.isNone_iff_eq_none,
    List.getElem?_eq_none_iff]

end Pattern

namespace Language

variable {name before ext : List Char} {names : List String} {t u : Language} {e : String}

def endings : Language → List String
  | javascript => ["js", "jsx", "mjs", "cjs"]
  | typescript => ["ts", "tsx", "mts", "cts"]
  | python => ["py", "pyw", "pyi"]
  | html => ["html", "htm", "xhtml"]
  | css => ["css", "scss", "sass", "less"]
  | json => ["json", "jsonc", "babelrc", "eslintrc"]
  | sql => ["sql", "psql"]
  | markdown => ["md", "markdown", "mdx"]

/-- What stands behind the last dot, if there is a dot. -/
def extension? (name : List Char) : Option (List Char) :=
  if '.' ∈ name then some (name.reverse.takeWhile (· ≠ '.')).reverse else none

lemma extensions_eq : extensions = all.map fun t => (t, t.endings) := rfl

lemma mem_all (t : Language) : t ∈ all := by
  cases t <;> decide

/-- The extensions are in lower case, and none has a dot. -/
lemma endings_plain (h : e ∈ t.endings) : isFolded e ∧ '.' ∉ e.toList := by
  have hall : ∀ t ∈ all, ∀ e ∈ t.endings, isFolded e ∧ '.' ∉ e.toList := by decide
  exact hall t (mem_all t) e h

/-- No two languages share an extension. -/
lemma endings_disjoint (ht : e ∈ t.endings) (hu : e ∈ u.endings) : t = u := by
  have hall : ∀ t ∈ all, ∀ u ∈ all, ∀ e ∈ t.endings, e ∈ u.endings → t = u := by decide
  exact hall t (mem_all t) u (mem_all u) e ht hu

lemma extension?_of_append (hext : '.' ∉ ext) : extension? (before ++ '.' :: ext) = some ext := by
  have hreverse : (before ++ '.' :: ext).reverse = ext.reverse ++ '.' :: before.reverse := by
    simp
  have htake : (ext.reverse ++ '.' :: before.reverse).takeWhile (· ≠ '.') = ext.reverse := by
    rw [List.takeWhile_append_of_pos fun c hc => ?_, List.takeWhile_cons_of_neg (by decide),
      List.append_nil]
    exact decide_eq_true fun heq => hext (heq ▸ List.mem_reverse.mp hc)
  rw [extension?, if_pos (by simp), hreverse, htake, List.reverse_reverse]

/-- The part behind the last dot is one without a dot that stands behind a dot. -/
theorem extension?_eq_some_iff :
    extension? name = some ext ↔ ∃ before, name = before ++ '.' :: ext ∧ '.' ∉ ext := by
  constructor
  · intro h
    by_cases hdot : '.' ∈ name
    · obtain ⟨back, front, hsplit, hback⟩ :=
        List.eq_append_cons_of_mem (List.mem_reverse.mpr hdot)
      have hname : name = front.reverse ++ '.' :: back.reverse := by
        rw [← List.reverse_reverse name, hsplit]
        simp
      have hplain : '.' ∉ back.reverse := fun hmem => hback (List.mem_reverse.mp hmem)
      rw [hname, extension?_of_append hplain] at h
      obtain rfl := Option.some.inj h
      exact ⟨front.reverse, hname, hplain⟩
    · rw [extension?, if_neg hdot] at h
      exact absurd h (by simp)
  · rintro ⟨before, rfl, hext⟩
    exact extension?_of_append hext

/-- A row is found in the names that have one of its extensions behind the last dot. -/
lemma occursIn_extensionPattern (hnames : ∀ e ∈ names, isFolded e ∧ '.' ∉ e.toList) :
    (extensionPattern names).occursIn name ↔
      ∃ ext, extension? name = some ext ∧ String.ofList (ext.map Unicode.fold) ∈ names := by
  have hparts : extensionPattern names =
      seq (seq (Pattern.text ".") (choice (names.map caselessText))) (look .textEnd) := rfl
  have hdot : ".".toList = ['.'] ∧ ".".length = 1 := by decide
  simp only [occursIn_iff, hparts, spans_seq, spans_text, spans_choice, List.mem_map,
    exists_exists_and_eq_and, spans_textEnd, hdot]
  constructor
  · rintro ⟨i, _, -, _, ⟨_, ⟨⟨ext, hext⟩, rfl⟩, e, he, hspans⟩, hend, rfl⟩
    obtain ⟨hbegin, rfl⟩ := (spans_caselessText (hnames e he).1).mp hspans
    have hdrop : name.drop (i + 1) = ext := by
      rw [← List.drop_drop, ← hext]
      rfl
    have hname : name = name.take i ++ '.' :: ext := by
      rw [← List.singleton_append, hext, List.take_append_drop]
    -- The name ends with the extension, so that is all that stands behind the dot.
    have hfold : e.toList = ext.map Unicode.fold := by
      rw [hdrop] at hbegin
      refine hbegin.eq_of_length_le ?_
      rw [List.length_map, ← hdrop, List.length_drop, String.length_toList]
      omega
    have hplain : '.' ∉ ext := by
      intro hmem
      have hmap : Unicode.fold '.' ∈ ext.map Unicode.fold := List.mem_map_of_mem hmem
      rw [← hfold] at hmap
      exact (hnames e he).2 hmap
    refine ⟨ext, extension?_eq_some_iff.mpr ⟨name.take i, hname, hplain⟩, ?_⟩
    rwa [← hfold, String.ofList_toList]
  · rintro ⟨ext, hext, hmem⟩
    obtain ⟨before, rfl, -⟩ := extension?_eq_some_iff.mp hext
    have hdrop : (before ++ '.' :: ext).drop (before.length + 1) = ext := by
      rw [← List.drop_drop, List.drop_left]
      rfl
    refine ⟨before.length, _, by simp, _, ⟨_, ⟨⟨ext, ?_⟩, rfl⟩, _, hmem,
      (spans_caselessText (hnames _ hmem).1).mpr ⟨?_, rfl⟩⟩, ?_, rfl⟩
    · rw [List.drop_left]
      rfl
    · simp only [hdrop, String.toList_ofList, List.prefix_rfl]
    · rw [String.length_ofList, List.length_map, List.length_append, List.length_cons]
      omega

lemma occursIn_endings (t : Language) : (extensionPattern t.endings).occursIn name ↔
    ∃ ext, extension? name = some ext ∧ String.ofList (ext.map Unicode.fold) ∈ t.endings :=
  occursIn_extensionPattern fun _ he => endings_plain he

lemma mem_extensions {row : Language × List String} :
    row ∈ extensions ↔ row.2 = row.1.endings := by
  rw [extensions_eq, List.mem_map]
  constructor
  · rintro ⟨t, -, rfl⟩
    rfl
  · intro h
    exact ⟨row.1, mem_all row.1, by rw [← h]⟩

/-- No two rows are found in one name. -/
lemma row_unique {row row' : Language × List String} (hrow : row ∈ extensions)
    (hrow' : row' ∈ extensions) (h : (extensionPattern row.2).occursIn name)
    (h' : (extensionPattern row'.2).occursIn name) : row = row' := by
  rw [mem_extensions] at hrow hrow'
  rw [hrow, occursIn_endings] at h
  rw [hrow', occursIn_endings] at h'
  obtain ⟨ext, hext, hmem⟩ := h
  obtain ⟨ext', hext', hmem'⟩ := h'
  obtain rfl := Option.some.inj (hext.symm.trans hext')
  have hlanguage := endings_disjoint hmem hmem'
  exact Prod.ext hlanguage (by rw [hrow, hrow', hlanguage])

lemma ofFilename?_eq_some_iff {filename : String} : ofFilename? filename = some t ↔
    (extensionPattern t.endings).occursIn (Text.trim filename.toList) := by
  let found (row : Language × List String) : Bool :=
    (extensionPattern row.2).occursIn (Text.trim filename.toList)
  have hfind : ofFilename? filename = (extensions.find? found).map (·.1) := rfl
  rw [hfind, Option.map_eq_some_iff]
  constructor
  · rintro ⟨row, hrow, rfl⟩
    have hfound := List.find?_some hrow
    rwa [← mem_extensions.mp (List.mem_of_find?_eq_some hrow)]
  · intro h
    have hmem : (t, t.endings) ∈ extensions := mem_extensions.mpr rfl
    have hsome : (extensions.find? found).isSome := List.find?_isSome.mpr ⟨_, hmem, h⟩
    obtain ⟨row, hrow⟩ := Option.isSome_iff_exists.mp hsome
    have hfound := List.find?_some hrow
    refine ⟨row, hrow, ?_⟩
    rw [row_unique (List.mem_of_find?_eq_some hrow) hmem hfound h]

/-- The long s and the Kelvin sign fold to the letters that they stand for. -/
lemma fold_letters : Unicode.fold '\u017F' = 's' ∧ Unicode.fold '\u212A' = 'k' := by
  decide +kernel

/-- A filename tells the language that has its extension, which is the part behind the last dot, in
any case. No two rows of the table are found in one filename, so their order does not matter, and
nothing before the last dot does. The long s and the Kelvin sign have the letters s and k as their
folding. -/
theorem ofFilename_iff_extension (filename : String) :
    (∀ t, ofFilename? filename = some t ↔
      ∃ ext, extension? (Text.trim filename.toList) = some ext ∧
        String.ofList (ext.map Unicode.fold) ∈ t.endings) ∧
      extensions.Pairwise (fun row row' =>
        ¬((extensionPattern row.2).occursIn (Text.trim filename.toList) ∧
          (extensionPattern row'.2).occursIn (Text.trim filename.toList))) ∧
      (∀ rows : List (Language × List String), rows.Perm extensions →
        (rows.find? fun row =>
          (extensionPattern row.2).occursIn (Text.trim filename.toList)).map (·.1) =
            ofFilename? filename) ∧
      (∀ other : String,
        extension? (Text.trim other.toList) = extension? (Text.trim filename.toList) →
          ofFilename? other = ofFilename? filename) ∧
      Unicode.fold '\u017F' = 's' ∧ Unicode.fold '\u212A' = 'k' := by
  have hreads (filename : String) (t : Language) : ofFilename? filename = some t ↔ ∃ ext,
      extension? (Text.trim filename.toList) = some ext ∧
        String.ofList (ext.map Unicode.fold) ∈ t.endings := by
    rw [ofFilename?_eq_some_iff, occursIn_endings]
  refine ⟨hreads filename, ?_, ?_, ?_, fold_letters⟩
  · have hnodup : extensions.Nodup := by decide
    exact hnodup.imp_of_mem fun hrow hrow' hne h => hne (row_unique hrow hrow' h.1 h.2)
  · intro rows hperm
    rw [ofFilename?]
    congr 1
    refine List.find?_eq_find?_of_perm hperm fun row hrow row' hrow' => ?_
    exact row_unique (hperm.mem_iff.mp hrow.1) (hperm.mem_iff.mp hrow'.1) hrow.2 hrow'.2
  · intro other hother
    apply Option.ext
    intro t
    rw [hreads, hreads, hother]

/-- A directory with a dot, a line break at the end, and an extension in two cases with a long s; the
table from its end. -/
theorem ofFilename_iff_extension_folded :
    let filename := "lib.py/a.T\u017F\n"
    let name := Text.trim filename.toList
    let other := "b.html.T\u017F"
    extension? name = some ['T', '\u017F'] ∧
      String.ofList (['T', '\u017F'].map Unicode.fold) ∈ typescript.endings ∧
      ofFilename? filename = some typescript ∧
      extensions.reverse.Perm extensions ∧
      (extensions.reverse.find? fun row => (extensionPattern row.2).occursIn name).map (·.1) =
        some typescript ∧
      extension? (Text.trim other.toList) = extension? name ∧
      ofFilename? other = some typescript := by
  intro filename name other
  obtain ⟨hreads, -, hperm, hother, -⟩ := ofFilename_iff_extension filename
  have hext : extension? name = some ['T', '\u017F'] := by decide
  have hmem : String.ofList (['T', '\u017F'].map Unicode.fold) ∈ typescript.endings := by
    simp only [List.map_cons, List.map_nil, fold_letters]
    decide
  have htells : ofFilename? filename = some typescript := (hreads typescript).mpr ⟨_, hext, hmem⟩
  have hsame : extension? (Text.trim other.toList) = extension? name := by decide
  have hreverse : extensions.reverse.Perm extensions := List.reverse_perm extensions
  exact ⟨hext, hmem, htells, hreverse, (hperm _ hreverse).trans htells, hsame,
    (hother _ hsame).trans htells⟩

end Language
end Checkup
