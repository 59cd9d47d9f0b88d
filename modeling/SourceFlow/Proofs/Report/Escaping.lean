import SourceFlow.Number.Numeral
import SourceFlow.Report.Html
import SourceFlow.Text.Split

/-!
# Pages cannot be broken out of

The markup of a page is the work of the library alone: whatever texts a
report holds, they add no character that opens or closes a tag or an
attribute. And they are not garbled: what stands in the two elements for
the report and its diagram reads as the texts themselves once references
are resolved.
-/

namespace SourceFlow

/-- The diagram that a page shows; an empty one is left out. -/
def Report.shownDiagram (r : Report) : Option String :=
  r.diagram.filter fun diagram => !diagram.isEmpty

namespace Html

/-! ## Marks -/

/-- Whether a character opens or closes a tag, or an attribute in one. -/
def isMark (c : Char) : Bool :=
  c == '<' || c == '>' || c == '"'

def marks (s : String) : List Char :=
  s.toList.filter isMark

@[simp] theorem marks_append (s t : String) : marks (s ++ t) = marks s ++ marks t := by
  rw [marks, String.toList_append, List.filter_append]
  rfl

theorem marks_eq_nil {s : String} (h : ∀ c ∈ s.toList, isMark c = false) : marks s = [] := by
  apply List.filter_eq_nil_iff.mpr
  intro c hc
  rw [h c hc]
  exact Bool.false_ne_true

/-- No character is written with a mark. -/
theorem isMark_of_mem_escapeChar {c d : Char} (h : d ∈ escapeChar c) : isMark d = false := by
  by_cases hspecial : c ∈ ['&', '<', '>', '"', '\'']
  · -- none of the five references has a mark in it
    have hall : ['&', '<', '>', '"', '\''].all
        (fun c => (escapeChar c).all fun d => !isMark d) = true := by decide
    have hchar := List.all_eq_true.mp (List.all_eq_true.mp hall c hspecial) d h
    simpa using hchar
  · simp only [List.mem_cons, List.not_mem_nil, or_false, not_or] at hspecial
    rcases hspecial with ⟨hamp, hlt, hgt, hquot, happos⟩
    simp only [escapeChar, hamp, hlt, hgt, hquot, happos, if_false, List.mem_singleton] at h
    subst h
    simp [isMark, hlt, hgt, hquot]

theorem isMark_of_mem_escape {s : String} {c : Char} (h : c ∈ (escape s).toList) :
    isMark c = false := by
  rw [escape, Text.flatMapChars, String.toList_ofList] at h
  rcases List.mem_flatMap.mp h with ⟨d, _, hc⟩
  exact isMark_of_mem_escapeChar hc

/-- So escaped texts have no marks. -/
@[simp] theorem marks_escape (s : String) : marks (escape s) = [] :=
  marks_eq_nil fun _ h => isMark_of_mem_escape h

theorem isMark_of_isDigit {c : Char} (h : c.isDigit = true) : isMark c = false := by
  cases hmark : isMark c with
  | false => rfl
  | true =>
    simp only [isMark, Bool.or_eq_true, beq_iff_eq] at hmark
    rcases hmark with (rfl | rfl) | rfl <;> cases h

theorem isMark_of_mem_decimal {n : Int} {c : Char} (h : c ∈ (Text.decimal n).toList) :
    isMark c = false := by
  have hrepr : ∀ (n : Nat), ∀ c ∈ n.repr.toList, isMark c = false := by
    intro n c hc
    rw [Nat.toList_repr] at hc
    exact isMark_of_isDigit (Nat.isDigit_of_mem_toDigits (by decide) (by decide) hc)
  cases n with
  | ofNat n => exact hrepr n c h
  | negSucc n =>
    rw [Text.decimal, String.toList_append, List.mem_append] at h
    rcases h with hminus | hdigit
    · rw [List.mem_singleton.mp hminus]
      rfl
    · exact hrepr (n + 1) c hdigit

@[simp] theorem marks_decimal (n : Int) : marks (Text.decimal n) = [] :=
  marks_eq_nil fun _ h => isMark_of_mem_decimal h

/-- Line breaks are no marks. -/
theorem marks_joinLines (lines : List String) :
    marks (Text.joinLines lines) = lines.flatMap marks := by
  rw [marks, Text.joinLines, String.toList_intercalate]
  induction lines with
  | nil => rfl
  | cons line rest ih =>
    cases rest with
    | nil => simp [marks]
    | cons next rest =>
      have hbreak : "\n".toList.filter isMark = [] := rfl
      rw [List.map_cons, List.map_cons, List.intercalate_cons_cons, List.filter_append,
        List.filter_append, hbreak, List.append_nil, ← List.map_cons, ih, List.flatMap_cons]
      rfl

/-- Of lines with the same marks each, all that counts is how many there are. -/
theorem marks_joinLines_map {α : Type} {f : α → String} (h : ∀ a b, marks (f a) = marks (f b))
    {row row' : List α} (hlength : row.length = row'.length) :
    marks (Text.joinLines (row.map f)) = marks (Text.joinLines (row'.map f)) := by
  rw [marks_joinLines, marks_joinLines]
  induction row generalizing row' with
  | nil =>
    rw [List.length_nil] at hlength
    rw [List.length_eq_zero_iff.mp hlength.symm]
  | cons a rest ih =>
    cases row' with
    | nil => cases hlength
    | cons b rest' =>
      rw [List.map_cons, List.map_cons, List.flatMap_cons, List.flatMap_cons, h a b,
        ih (Nat.succ.inj hlength)]

/-- The marks of a row do not depend on what it shows. -/
theorem marks_statisticsRow (row row' : String × Int) :
    marks (statisticsRow row) = marks (statisticsRow row') := by
  -- `delta` and not `unfold`: the equation lemma would compare the texts character by character
  delta statisticsRow
  simp only [marks_append, marks_escape, marks_decimal]

/-- Nor do those of an issue. -/
theorem marks_issueItem (i j : Issue) : marks (issueItem i) = marks (issueItem j) := by
  delta issueItem
  simp only [marks_append, marks_escape]

/-- The marks of a list of issues depend on how many there are. -/
theorem marks_issueItems {issues issues' : List Issue} (h : issues.length = issues'.length) :
    marks (issueItems issues) = marks (issueItems issues') := by
  cases issues with
  | nil => rw [List.length_eq_zero_iff.mp h.symm]
  | cons i rest =>
    cases issues' with
    | nil => cases h
    | cons i' rest' =>
      show marks (Text.joinLines ((i :: rest).map issueItem)) =
        marks (Text.joinLines ((i' :: rest').map issueItem))
      exact marks_joinLines_map marks_issueItem h

/-- The panel of a diagram, or nothing. -/
theorem diagramPanel_eq (r : Report) :
    diagramPanel r.diagram =
      match r.shownDiagram with
      | none => ""
      | some diagram =>
        "  <div class=\"panel\">\n    <h2>Flow Diagram</h2>\n    <pre class=\"mermaid\">" ++
          escape diagram ++ "</pre>\n  </div>\n" := by
  unfold Report.shownDiagram
  cases r.diagram with
  | none => rfl
  | some diagram =>
    rw [Option.filter_some, diagramPanel]
    cases diagram.isEmpty <;> rfl

/-- Those of a panel depend on whether there is one. -/
theorem marks_diagramPanel {r r' : Report} (h : r.shownDiagram.isSome = r'.shownDiagram.isSome) :
    marks (diagramPanel r.diagram) = marks (diagramPanel r'.diagram) := by
  rw [diagramPanel_eq, diagramPanel_eq]
  cases hr : r.shownDiagram with
  | none =>
    cases hr' : r'.shownDiagram with
    | none => rfl
    | some _ => rw [hr, hr'] at h; cases h
  | some _ =>
    cases hr' : r'.shownDiagram with
    | none => rw [hr, hr'] at h; cases h
    | some _ => simp only [marks_append, marks_escape]

/-- The marks of a page depend on how many issues it lists and on whether it shows a diagram. -/
theorem marks_page {r r' : Report} (hissues : r.issues.length = r'.issues.length)
    (hdiagram : r.shownDiagram.isSome = r'.shownDiagram.isSome) :
    marks (page r) = marks (page r') := by
  -- there are as many rows in every report
  have hrows : marks (Text.joinLines (r.statistics.rows.map statisticsRow)) =
      marks (Text.joinLines (r'.statistics.rows.map statisticsRow)) :=
    marks_joinLines_map marks_statisticsRow rfl
  delta page
  simp only [marks_append, marks_escape, hrows, marks_issueItems hissues,
    marks_diagramPanel hdiagram]

/-! ## References -/

/-- What references by name stand for. Any table will do that knows the four names in escaped
texts. -/
structure References where
  value? : List Char → Option (List Char)
  amp : value? "amp".toList = some ['&']
  lt : value? "lt".toList = some ['<']
  gt : value? "gt".toList = some ['>']
  quot : value? "quot".toList = some ['"']

/-- What a reference stands for: a character by its number, or what has its name. -/
def References.resolve? (refs : References) : List Char → Option (List Char)
  | '#' :: 'x' :: digits => (Numeral.natIn? 16 digits).map fun n => [Char.ofNat n]
  | '#' :: digits => (Numeral.natIn? 10 digits).map fun n => [Char.ofNat n]
  | name => refs.value? name

/-- Whether a character can be part of a reference. -/
def isReferenceChar (c : Char) : Bool :=
  c.isAlphanum || c == '#'

/-- Resolves the reference after an ampersand: its name or number ends with a semicolon. -/
def References.read? (refs : References) (cs : List Char) : Option (List Char × List Char) :=
  let name := cs.takeWhile isReferenceChar
  match cs.drop name.length with
  | ';' :: rest => (refs.resolve? name).map fun value => (value, rest)
  | _ => none

/-- A reference takes at least one character, its semicolon. -/
theorem References.length_of_read? {refs : References} {cs value rest : List Char}
    (h : refs.read? cs = some (value, rest)) : rest.length < cs.length := by
  unfold References.read? at h
  dsimp only at h
  split at h
  · rename_i hdrop
    rcases Option.map_eq_some_iff.mp h with ⟨_, _, heq⟩
    cases heq
    -- what is dropped is the name, and the semicolon is one more
    have hlength := congrArg List.length hdrop
    rw [List.length_drop, List.length_cons] at hlength
    omega
  · cases h

/-- The text with its references resolved; what is no reference stays as it is. -/
def References.unescape (refs : References) : List Char → List Char
  | [] => []
  | c :: rest =>
    if c = '&' then
      match _h : refs.read? rest with
      | some (value, rest') => value ++ refs.unescape rest'
      | none => c :: refs.unescape rest
    else c :: refs.unescape rest
termination_by cs => cs.length
decreasing_by
  · have hlength := References.length_of_read? _h
    rw [List.length_cons]
    omega
  · simp
  · simp

variable (refs : References)

/-- A reference is read up to its semicolon. -/
theorem read?_reference {name value : List Char} (hname : name.all isReferenceChar = true)
    (hvalue : refs.resolve? name = some value) (cs : List Char) :
    refs.read? (name ++ ';' :: cs) = some (value, cs) := by
  have htake : (name ++ ';' :: cs).takeWhile isReferenceChar = name := by
    rw [List.takeWhile_append_of_pos (List.all_eq_true.mp hname)]
    have hstop : (';' :: cs).takeWhile isReferenceChar = [] := rfl
    rw [hstop, List.append_nil]
  have hdrop : (name ++ ';' :: cs).drop name.length = ';' :: cs := List.drop_left
  simp only [References.read?, htake, hdrop, hvalue, Option.map_some]

/-- A reference to a character, in front of any text. -/
theorem unescape_reference (name : List Char) {c : Char}
    (hname : name.all isReferenceChar = true) (hvalue : refs.resolve? name = some [c])
    (cs : List Char) :
    refs.unescape ('&' :: (name ++ ';' :: cs)) = c :: refs.unescape cs := by
  have hread := read?_reference refs hname hvalue cs
  rw [References.unescape, if_pos rfl]
  split
  · rename_i heq
    rw [hread] at heq
    cases heq
    rfl
  · rename_i heq
    rw [hread] at heq
    cases heq

/-- Only an ampersand begins a reference. -/
theorem unescape_cons {c : Char} (h : c ≠ '&') (cs : List Char) :
    refs.unescape (c :: cs) = c :: refs.unescape cs := by
  rw [References.unescape, if_neg h]

/-- Each character is told from what is written for it. -/
theorem unescape_escapeChar (c : Char) (cs : List Char) :
    refs.unescape (escapeChar c ++ cs) = c :: refs.unescape cs := by
  -- five characters have references, four by name and the apostrophe by number
  by_cases hspecial : c ∈ ['&', '<', '>', '"', '\'']
  · simp only [List.mem_cons, List.not_mem_nil, or_false] at hspecial
    rcases hspecial with rfl | rfl | rfl | rfl | rfl
    · exact unescape_reference refs "amp".toList rfl refs.amp cs
    · exact unescape_reference refs "lt".toList rfl refs.lt cs
    · exact unescape_reference refs "gt".toList rfl refs.gt cs
    · exact unescape_reference refs "quot".toList rfl refs.quot cs
    · exact unescape_reference refs "#x27".toList rfl rfl cs
  · simp only [List.mem_cons, List.not_mem_nil, or_false, not_or] at hspecial
    rcases hspecial with ⟨hamp, hlt, hgt, hquot, happos⟩
    simp only [escapeChar, hamp, hlt, hgt, hquot, happos, if_false]
    exact unescape_cons refs hamp cs

/-- Resolving the references of an escaped text gives the text. -/
theorem unescape_escape (s : String) : refs.unescape (escape s).toList = s.toList := by
  rw [escape, Text.flatMapChars, String.toList_ofList]
  induction s.toList with
  | nil => rw [List.flatMap_nil, References.unescape]
  | cons c rest ih => rw [List.flatMap_cons, unescape_escapeChar, ih]

/-! ## Elements -/

/-- What stands between the first opening tag and the closing tag after it. -/
def contents? (opening closing page : String) : Option (List Char) :=
  match Text.splitOnce? opening.toList page.toList with
  | none => none
  | some (_, rest) => (Text.splitOnce? closing.toList rest).map (·.1)

/-- A text in which a tag does not begin, whatever follows the text. -/
def Skips (tag cs : List Char) : Prop :=
  ∀ rest, Text.splitOnce? tag (cs ++ rest) =
    (Text.splitOnce? tag rest).map fun r => (cs ++ r.1, r.2)

theorem skips_nil (tag : List Char) : Skips tag [] := by
  intro rest
  simp

/-- A tag does not begin with the first character, nor later. -/
theorem skips_cons {tag cs : List Char} {c : Char}
    (h : ∀ rest, tag.isPrefixOf (c :: (cs ++ rest)) = false) (hcs : Skips tag cs) :
    Skips tag (c :: cs) := by
  intro rest
  rw [List.cons_append, Text.splitOnce?, h rest, hcs rest, Option.map_map]
  rfl

/-- If a tag begins in neither of two texts whatever follows, it does not in both together. -/
theorem Skips.append {tag cs ds : List Char} (hcs : Skips tag cs) (hds : Skips tag ds) :
    Skips tag (cs ++ ds) := by
  intro rest
  rw [List.append_assoc, hcs, hds, Option.map_map]
  congr 1
  funext r
  simp

/-- A text without the character that opens tags. -/
theorem skips_of_not_mem {tag cs : List Char} (h : '<' ∉ cs) : Skips ('<' :: tag) cs := by
  induction cs with
  | nil => exact skips_nil _
  | cons c rest ih =>
    rw [List.mem_cons, not_or] at h
    refine skips_cons ?_ (ih h.2)
    intro more
    simp [List.isPrefixOf, h.1]

/-- Whether neither a text nor what begins in it can turn out to begin with `start`. -/
def clear (start : List Char) : List Char → Bool
  | [] => true
  | c :: rest => !start.isPrefixOf (c :: rest) && !(c :: rest).isPrefixOf start && clear start rest

/-- A look at the text itself is enough. -/
theorem skips_of_clear {start tag cs : List Char} (hstart : start <+: tag)
    (h : clear start cs = true) : Skips tag cs := by
  induction cs with
  | nil => exact skips_nil _
  | cons c rest ih =>
    simp only [clear, Bool.and_eq_true, Bool.not_eq_true'] at h
    rcases h with ⟨⟨hlong, hshort⟩, hrest⟩
    refine skips_cons ?_ (ih hrest)
    intro more
    rw [Bool.eq_false_iff]
    intro htag
    -- then one of the text and the beginning of the tag begins with the other
    have hboth : start <+: c :: rest ++ more := hstart.trans (List.isPrefixOf_iff_prefix.mp htag)
    rcases List.prefix_or_prefix_of_prefix hboth (List.prefix_append (c :: rest) more) with hp | hp
    · rw [List.isPrefixOf_iff_prefix.mpr hp] at hlong
      cases hlong
    · rw [List.isPrefixOf_iff_prefix.mpr hp] at hshort
      cases hshort

/-- A text that begins with the tag is split there. -/
theorem splitOnce?_append_self {tag : List Char} (htag : tag ≠ []) (rest : List Char) :
    Text.splitOnce? tag (tag ++ rest) = some ([], rest) := by
  cases tag with
  | nil => exact absurd rfl htag
  | cons c tail =>
    have hbegins : (c :: tail).isPrefixOf (c :: tail ++ rest) = true :=
      List.isPrefixOf_iff_prefix.mpr (List.prefix_append _ _)
    rw [List.cons_append] at hbegins ⊢
    rw [Text.splitOnce?, if_pos hbegins]
    simp

/-- The first tag is the one behind a text that skips it. -/
theorem splitOnce?_of_skips {tag cs : List Char} (h : Skips tag cs) (htag : tag ≠ [])
    (rest : List Char) : Text.splitOnce? tag (cs ++ (tag ++ rest)) = some (cs, rest) := by
  rw [h, splitOnce?_append_self htag]
  simp

/-- A text in which no element for preformatted text is opened. -/
def NoPre (s : String) : Prop :=
  ∀ tag, "<pre".toList <+: tag → Skips tag s.toList

theorem NoPre.append {s t : String} (hs : NoPre s) (ht : NoPre t) : NoPre (s ++ t) := by
  intro tag htag
  rw [String.toList_append]
  exact (hs tag htag).append (ht tag htag)

theorem noPre_of_clear {s : String} (h : clear "<pre".toList s.toList = true) : NoPre s :=
  fun _ htag => skips_of_clear htag h

theorem noPre_of_not_mem {s : String} (h : '<' ∉ s.toList) : NoPre s := by
  intro tag htag
  rcases htag with ⟨rest, rfl⟩
  exact skips_of_not_mem h

theorem not_mem_of_isMark {cs : List Char} (h : ∀ c ∈ cs, isMark c = false) : '<' ∉ cs := by
  intro hmem
  cases h '<' hmem

/-- Escaped texts open no element. -/
theorem noPre_escape (s : String) : NoPre (escape s) :=
  noPre_of_not_mem (not_mem_of_isMark fun _ h => isMark_of_mem_escape h)

theorem noPre_decimal (n : Int) : NoPre (Text.decimal n) :=
  noPre_of_not_mem (not_mem_of_isMark fun _ h => isMark_of_mem_decimal h)

/-- Lines that open no element do not when they are joined. -/
theorem noPre_joinLines {lines : List String} (h : ∀ line ∈ lines, NoPre line) :
    NoPre (Text.joinLines lines) := by
  intro tag htag
  rw [Text.joinLines, String.toList_intercalate]
  induction lines with
  | nil => exact skips_nil tag
  | cons line rest ih =>
    have hline : Skips tag line.toList := h line List.mem_cons_self tag htag
    cases rest with
    | nil => simpa using hline
    | cons next rest =>
      have hbreak : Skips tag "\n".toList := skips_of_clear htag (by decide)
      have hrest := ih fun line hmem => h line (List.mem_cons_of_mem _ hmem)
      rw [List.map_cons] at hrest ⊢
      rw [List.map_cons, List.intercalate_cons_cons]
      exact (hline.append hbreak).append hrest

theorem noPre_head : NoPre head := by
  -- one literal after the other: a long text is slow to look through
  delta head
  refine .append (.append (.append (.append (.append (.append (.append (.append (.append
    (.append ?_ ?_) ?_) ?_) ?_) ?_) ?_) ?_) ?_) ?_) ?_
  all_goals exact noPre_of_clear (by decide +kernel)

theorem noPre_statisticsRow (row : String × Int) : NoPre (statisticsRow row) := by
  delta statisticsRow
  refine .append (.append (.append (.append ?_ (noPre_escape row.1)) ?_) (noPre_decimal row.2)) ?_
  all_goals exact noPre_of_clear (by decide +kernel)

theorem noPre_issueItem (i : Issue) : NoPre (issueItem i) := by
  delta issueItem
  refine .append (.append (.append (.append (.append (.append ?_ (noPre_escape _)) ?_)
    (noPre_escape _)) ?_) (noPre_escape _)) ?_
  all_goals exact noPre_of_clear (by decide +kernel)

theorem noPre_issueItems (issues : List Issue) : NoPre (issueItems issues) := by
  cases issues with
  | nil => exact noPre_of_clear (by decide +kernel)
  | cons i rest =>
    show NoPre (Text.joinLines ((i :: rest).map issueItem))
    apply noPre_joinLines
    intro line hline
    rcases List.mem_map.mp hline with ⟨issue, _, rfl⟩
    exact noPre_issueItem issue

/-- A page up to the element with the report. -/
def beforeReport (r : Report) : String :=
  head ++ escape r.time.iso ++
  "</p>\n  <div class=\"panel\">\n    <h2>Statistics</h2>\n    <table>\n" ++
  Text.joinLines (r.statistics.rows.map statisticsRow) ++
  "\n    </table>\n  </div>\n  <div class=\"panel\">\n    <h2>Detected Issues</h2>\n    <ul>\n" ++
  issueItems r.issues ++
  "\n    </ul>\n  </div>\n  <div class=\"panel\">\n    <h2>Report</h2>\n    "

/-- Before the report no element for preformatted text is opened. -/
theorem noPre_beforeReport (r : Report) : NoPre (beforeReport r) := by
  have hrows : NoPre (Text.joinLines (r.statistics.rows.map statisticsRow)) := by
    apply noPre_joinLines
    intro line hline
    rcases List.mem_map.mp hline with ⟨row, _, rfl⟩
    exact noPre_statisticsRow row
  -- texts of the report are escaped, and the literals are looked through
  delta beforeReport
  refine .append (.append (.append (.append (.append (.append noPre_head (noPre_escape _)) ?_)
    hrows) ?_) (noPre_issueItems _)) ?_
  all_goals exact noPre_of_clear (by decide +kernel)

/-- A page after the element with the report. -/
def afterReport (r : Report) : String :=
  "\n  </div>\n" ++ diagramPanel r.diagram ++ "</body>\n</html>\n"

/-- A page is what stands before the report, the report in its element, and what stands after it. -/
theorem toList_page (r : Report) :
    (page r).toList = (beforeReport r).toList ++ ("<pre>".toList ++
      ((escape r.text).toList ++ ("</pre>".toList ++ (afterReport r).toList))) := by
  have hopen : "\n    </ul>\n  </div>\n  <div class=\"panel\">\n    <h2>Report</h2>\n    <pre>" =
      "\n    </ul>\n  </div>\n  <div class=\"panel\">\n    <h2>Report</h2>\n    " ++ "<pre>" := rfl
  have hclose : "</pre>\n  </div>\n" = "</pre>" ++ "\n  </div>\n" := rfl
  have hpage : page r =
      beforeReport r ++ ("<pre>" ++ (escape r.text ++ ("</pre>" ++ afterReport r))) := by
    delta page beforeReport afterReport
    rw [hopen, hclose]
    simp only [String.append_assoc]
  rw [hpage, String.toList_append, String.toList_append, String.toList_append,
    String.toList_append]

theorem splitOnce?_eq_none_of_skips {tag cs : List Char} (h : Skips tag cs) :
    Text.splitOnce? tag cs = none := by
  have hnil := h []
  rw [List.append_nil, Text.splitOnce?] at hnil
  exact hnil

/-- An element that holds an escaped text and stands behind texts that do not open it. -/
theorem contents?_of_skips {opening page : String} {before rest : List Char} {s : String}
    (hopening : opening.toList ≠ []) (hbefore : Skips opening.toList before)
    (hpage : page.toList =
      before ++ (opening.toList ++ ((escape s).toList ++ ("</pre>".toList ++ rest)))) :
    contents? opening "</pre>" page = some (escape s).toList := by
  have htext : Skips "</pre>".toList (escape s).toList :=
    skips_of_not_mem (not_mem_of_isMark fun _ h => isMark_of_mem_escape h)
  rw [contents?, hpage, splitOnce?_of_skips hbefore hopening]
  show (Text.splitOnce? "</pre>".toList ((escape s).toList ++ ("</pre>".toList ++ rest))).map _ = _
  rw [splitOnce?_of_skips htext (by decide)]
  rfl

/-- The first element for preformatted text holds the escaped report. -/
theorem contents?_report (r : Report) :
    contents? "<pre>" "</pre>" (page r) = some (escape r.text).toList := by
  have hbefore : Skips "<pre>".toList (beforeReport r).toList :=
    noPre_beforeReport r _ (by decide)
  exact contents?_of_skips (by decide) hbefore (toList_page r)

/-- What stands between the report and the diagram, tags of elements for text left out. -/
def beforeDiagram : String :=
  "\n  </div>\n  <div class=\"panel\">\n    <h2>Flow Diagram</h2>\n    "

/-- After the report stands the diagram in its element, if there is one. -/
theorem toList_afterReport {r : Report} {diagram : String} (h : r.shownDiagram = some diagram) :
    (afterReport r).toList = beforeDiagram.toList ++ ("<pre class=\"mermaid\">".toList ++
      ((escape diagram).toList ++
        ("</pre>".toList ++ "\n  </div>\n</body>\n</html>\n".toList))) := by
  have hopen : "  <div class=\"panel\">\n    <h2>Flow Diagram</h2>\n    <pre class=\"mermaid\">" =
      "  <div class=\"panel\">\n    <h2>Flow Diagram</h2>\n    " ++ "<pre class=\"mermaid\">" := rfl
  have hbetween : beforeDiagram =
      "\n  </div>\n" ++ "  <div class=\"panel\">\n    <h2>Flow Diagram</h2>\n    " := rfl
  have hclose : "</pre>\n  </div>\n" = "</pre>" ++ "\n  </div>\n" := rfl
  have hend : "\n  </div>\n</body>\n</html>\n" = "\n  </div>\n" ++ "</body>\n</html>\n" := rfl
  delta afterReport
  rw [diagramPanel_eq, h, hbetween, hend]
  show ("\n  </div>\n" ++ (_ ++ escape diagram ++ _) ++ "</body>\n</html>\n").toList = _
  rw [hopen, hclose]
  simp only [String.toList_append, List.append_assoc]

/-- Up to the diagram its tag does not begin. -/
theorem skips_untilDiagram (r : Report) :
    Skips "<pre class=\"mermaid\">".toList ((beforeReport r).toList ++ ("<pre>".toList ++
      ((escape r.text).toList ++ "</pre>".toList))) := by
  have hpre : "<pre".toList <+: "<pre class=\"mermaid\">".toList := by decide
  have hbefore := noPre_beforeReport r _ hpre
  have htext := noPre_escape r.text _ hpre
  -- the tag of the report goes on differently
  have hopen : Skips "<pre class=\"mermaid\">".toList "<pre>".toList :=
    skips_of_clear (List.prefix_refl _) (by decide)
  have hclose : Skips "<pre class=\"mermaid\">".toList "</pre>".toList :=
    skips_of_clear hpre (by decide)
  exact hbefore.append (hopen.append (htext.append hclose))

/-- The element for the diagram holds the escaped diagram, and there is none without one. -/
theorem contents?_diagram (r : Report) :
    contents? "<pre class=\"mermaid\">" "</pre>" (page r) =
      r.shownDiagram.map fun diagram => (escape diagram).toList := by
  have hpre : "<pre".toList <+: "<pre class=\"mermaid\">".toList := by decide
  have huntil := skips_untilDiagram r
  cases hdiagram : r.shownDiagram with
  -- without a diagram no tag opens the element anywhere on the page
  | none =>
    have hafter : NoPre (afterReport r) := by
      delta afterReport
      rw [diagramPanel_eq, hdiagram]
      refine .append (.append ?_ ?_) ?_
      all_goals exact noPre_of_clear (by decide +kernel)
    have hskips := huntil.append (hafter _ hpre)
    simp only [List.append_assoc] at hskips
    rw [contents?, toList_page, splitOnce?_eq_none_of_skips hskips]
    rfl
  | some diagram =>
    have hbetween : NoPre beforeDiagram := noPre_of_clear (by decide +kernel)
    have hskips := huntil.append (hbetween _ hpre)
    have hpage : (page r).toList = (beforeReport r).toList ++ ("<pre>".toList ++
        ((escape r.text).toList ++ "</pre>".toList)) ++ beforeDiagram.toList ++
          ("<pre class=\"mermaid\">".toList ++ ((escape diagram).toList ++
            ("</pre>".toList ++ "\n  </div>\n</body>\n</html>\n".toList))) := by
      rw [toList_page, toList_afterReport hdiagram]
      simp only [List.append_assoc]
    exact contents?_of_skips (by decide) hskips hpage

/-- The marks of a page depend on nothing but the number of issues and whether there is a diagram,
and the texts of the report and of the diagram can be read off it. -/
theorem page_sealed :
    (∀ r r' : Report, r.issues.length = r'.issues.length →
      r.shownDiagram.isSome = r'.shownDiagram.isSome → marks (page r) = marks (page r')) ∧
    ∀ (refs : References) (r : Report),
      (contents? "<pre>" "</pre>" (page r)).map refs.unescape = some r.text.toList ∧
      (contents? "<pre class=\"mermaid\">" "</pre>" (page r)).map refs.unescape =
        r.shownDiagram.map String.toList := by
  refine ⟨fun r r' hissues hdiagram => marks_page hissues hdiagram, ?_⟩
  intro refs r
  constructor
  · rw [contents?_report, Option.map_some, unescape_escape]
  -- the diagram is escaped in the same way
  · rw [contents?_diagram, Option.map_map]
    congr 1
    funext diagram
    exact unescape_escape refs diagram

/-- The names in escaped texts and no others. -/
def References.basic : References where
  value? name :=
    [("amp".toList, ['&']), ("lt".toList, ['<']), ("gt".toList, ['>']),
     ("quot".toList, ['"'])].lookup name
  amp := by decide
  lt := by decide
  gt := by decide
  quot := by decide

/-- A report with one issue and a diagram. -/
def sampleReport (severity message text diagram : String) : Report :=
  { roots := []
    issues := [{ id := "i", type := .orphan, severity := ⟨severity⟩, message }]
    statistics := { files := 1, nodes := 1 }
    text
    filename := "report.html"
    time := { year := 2024, month := 1, day := 1, hour := 0, minute := 0, second := 0 }
    diagram := some diagram }

/-- Markup in all texts of a report changes no mark of its page, and the report is read off
unchanged. -/
theorem page_sealed_sample :
    marks (page (sampleReport "x\"><img>" "<script>" "a < b && c &lt; d" "A-->\"B\"")) =
        marks (page (sampleReport "info" "none" "" "A")) ∧
      (contents? "<pre>" "</pre>"
          (page (sampleReport "x\"><img>" "<script>" "a < b && c &lt; d" "A-->\"B\""))).map
        References.basic.unescape = some "a < b && c &lt; d".toList :=
  ⟨page_sealed.1 _ _ rfl rfl, (page_sealed.2 .basic _).1⟩

end Html

end SourceFlow
