import SourceFlow.Json.Writer
import SourceFlow.Number.Numeral
import SourceFlow.Ordered

/-!
# The grammar of JSON documents

Which texts are documents of a value, said apart from the writer: blanks
may stand around every part, a character of a text may be written in any of
its escapes, and the names in an object differ. Numbers are integers.

Main statements: what is written for a value is one of its documents, in
either charset and on every level of indentation (`spells_write`), and what
is written for readers of ASCII holds no other character (`ascii_document`).
-/

namespace SourceFlow.JsonValue

/-! ## Blanks and numbers -/

/-- Whether a character may stand between the parts of a document. -/
def isBlank (c : Char) : Bool :=
  c == ' ' || c == '\t' || c == '\n' || c == '\r'

/-- A run of blanks. -/
def Blank (cs : List Char) : Prop :=
  ∀ c ∈ cs, isBlank c = true

/-- The digits of a natural number; only zero begins with a zero. -/
structure SpellsNat (n : Nat) (cs : List Char) : Prop where
  digits : ∀ c ∈ cs, c.isDigit = true
  lead : cs = ['0'] ∨ ∃ c rest, cs = c :: rest ∧ c ≠ '0'
  value : Nat.ofDigitChars 10 cs 0 = n

/-- The digits of an integer, after a minus sign or without one. -/
inductive SpellsInt : Int → List Char → Prop
  | plain {n : Nat} {cs : List Char} (h : SpellsNat n cs) : SpellsInt n cs
  | minus {n : Nat} {cs : List Char} (h : SpellsNat n cs) : SpellsInt (-n) ('-' :: cs)

/-! ## Texts -/

/-- Four hexadecimal digits of a number. -/
def SpellsUnit (n : Nat) (cs : List Char) : Prop :=
  cs.length = 4 ∧ Numeral.natIn? 16 cs = some n

/-- The letters that make an escape after a backslash, and what they stand for. -/
def shortEscapes : List (Char × Char) :=
  [('"', '"'), ('\\', '\\'), ('/', '/'), ('b', '\x08'), ('f', '\x0c'), ('n', '\n'), ('r', '\r'),
   ('t', '\t')]

/-- The ways to write a character in a text. -/
inductive SpellsChar : Char → List Char → Prop
  | plain {c : Char} (hquote : c ≠ '"') (hslash : c ≠ '\\') (hcontrol : 0x20 ≤ c.toNat) :
    SpellsChar c [c]
  | short {letter c : Char} (h : (letter, c) ∈ shortEscapes) : SpellsChar c ['\\', letter]
  | unit {c : Char} {cs : List Char} (h : SpellsUnit c.toNat cs) :
    SpellsChar c ('\\' :: 'u' :: cs)
  | surrogates {c : Char} {high low : Nat} {hs ls : List Char}
    (hhigh : SpellsUnit (0xD800 + high) hs) (hlow : SpellsUnit (0xDC00 + low) ls)
    (hhigh_lt : high < 0x400) (hlow_lt : low < 0x400)
    (hc : c.toNat = 0x10000 + high * 0x400 + low) :
    SpellsChar c ('\\' :: 'u' :: hs ++ '\\' :: 'u' :: ls)

/-- The ways to write characters one after the other. -/
inductive SpellsChars : List Char → List Char → Prop
  | nil : SpellsChars [] []
  | cons {c : Char} {s cs ds : List Char} (hc : SpellsChar c cs) (hs : SpellsChars s ds) :
    SpellsChars (c :: s) (cs ++ ds)

/-- The ways to write a text in quotes. -/
def SpellsText (s : String) (cs : List Char) : Prop :=
  ∃ body, SpellsChars s.toList body ∧ cs = '"' :: body ++ ['"']

/-! ## Values -/

/-- A part of a document with the blanks around it. -/
structure Piece (α : Type) where
  value : α
  before : List Char
  body : List Char
  after : List Char

def Piece.text {α : Type} (p : Piece α) : List Char :=
  p.before ++ p.body ++ p.after

/-- Only blanks stand around a piece. -/
def Piece.Padded {α : Type} (p : Piece α) : Prop :=
  Blank p.before ∧ Blank p.after

/-- A member of an object: its name, a colon and its value. -/
def memberText (m : Piece String × Piece JsonValue) : List Char :=
  m.1.text ++ ':' :: m.2.text

/-- `Spells v cs`: the text `cs` is a document of `v`. -/
inductive Spells : JsonValue → List Char → Prop
  | null : Spells .null "null".toList
  | true : Spells (.bool Bool.true) "true".toList
  | false : Spells (.bool Bool.false) "false".toList
  | int {n : Int} {cs : List Char} (h : SpellsInt n cs) : Spells (.int n) cs
  | text {s : String} {cs : List Char} (h : SpellsText s cs) : Spells (.text s) cs
  | array (items : List (Piece JsonValue)) (blanks : List Char)
    (hpadded : ∀ p ∈ items, p.Padded) (hblanks : Blank blanks)
    (hitems : ∀ p ∈ items, Spells p.value p.body) :
    Spells (.array (items.map (·.value)))
      ('[' :: [','].intercalate (items.map Piece.text) ++ blanks ++ [']'])
  | object (members : List (Piece String × Piece JsonValue)) (blanks : List Char)
    (hpadded : ∀ m ∈ members, m.1.Padded ∧ m.2.Padded) (hblanks : Blank blanks)
    (hdistinct : (members.map (·.1.value)).Nodup)
    (hnames : ∀ m ∈ members, SpellsText m.1.value m.1.body)
    (hvalues : ∀ m ∈ members, Spells m.2.value m.2.body) :
    Spells (.object (members.map fun m => (m.1.value, m.2.value)))
      ('\x7b' :: [','].intercalate (members.map memberText) ++ blanks ++ ['\x7d'])

/-- A text that holds a document of `v` and nothing else but blanks. -/
def IsDocument (v : JsonValue) (s : String) : Prop :=
  ∃ p : Piece JsonValue, p.Padded ∧ p.value = v ∧ Spells v p.body ∧ s.toList = p.text

/-- In every object inside a value the names differ. -/
inductive DistinctNames : JsonValue → Prop
  | null : DistinctNames .null
  | bool (b : Bool) : DistinctNames (.bool b)
  | int (n : Int) : DistinctNames (.int n)
  | text (s : String) : DistinctNames (.text s)
  | array {vs : List JsonValue} (h : ∀ v ∈ vs, DistinctNames v) : DistinctNames (.array vs)
  | object {ms : List (String × JsonValue)} (hnames : (Ordered.names ms).Nodup)
    (h : ∀ m ∈ ms, DistinctNames m.2) : DistinctNames (.object ms)

/-! ## What is written for numbers and texts -/

/-- Decimal digits begin with a zero only if there is no other digit. -/
theorem toDigits_lead (n : Nat) :
    Nat.toDigits 10 n = ['0'] ∨ ∃ c rest, Nat.toDigits 10 n = c :: rest ∧ c ≠ '0' := by
  induction n using Nat.strongRecOn with
  | ind n ih =>
    by_cases hlt : n < 10
    · rw [Nat.toDigits_of_lt_base hlt]
      have hdigits : ∀ n < 10, n = 0 ∨ n.digitChar ≠ '0' := by decide
      rcases hdigits n hlt with rfl | hne
      · exact .inl rfl
      · exact .inr ⟨n.digitChar, [], rfl, hne⟩
    · have hge : 10 ≤ n := Nat.le_of_not_lt hlt
      rw [Nat.toDigits_of_base_le (by decide) hge]
      rcases ih (n / 10) (by omega) with hzero | ⟨c, rest, hcons, hne⟩
      · -- the digits before the last would be those of zero
        have hvalue : Nat.ofDigitChars 10 (Nat.toDigits 10 (n / 10)) 0 = n / 10 :=
          Nat.ofDigitChars_ten_toDigits
        rw [hzero] at hvalue
        have hzero' : Nat.ofDigitChars 10 ['0'] 0 = 0 := rfl
        omega
      · rw [hcons]
        exact .inr ⟨c, _, rfl, hne⟩

/-- The decimal digits of a number are those of the grammar. -/
theorem spellsNat_repr (n : Nat) : SpellsNat n n.repr.toList := by
  rw [Nat.toList_repr]
  exact
    { digits := fun c hc => Nat.isDigit_of_mem_toDigits (by decide) (by decide) hc
      lead := toDigits_lead n
      value := Nat.ofDigitChars_ten_toDigits }

/-- So are those of an integer, with the sign before them. -/
theorem spellsInt_decimal (n : Int) : SpellsInt n (Text.decimal n).toList := by
  cases n with
  | ofNat n => exact .plain (spellsNat_repr n)
  | negSucc n =>
    have htext : (Text.decimal (.negSucc n)).toList = '-' :: (n + 1).repr.toList := by
      simp [Text.decimal]
    rw [htext, Int.negSucc_eq]
    exact_mod_cast SpellsInt.minus (spellsNat_repr (n + 1))

theorem digitIn?_hexDigit {d : Nat} (h : d < 16) :
    Numeral.digitIn? 16 (Text.hexDigit d) = some d := by
  have hall : ∀ d < 16, Numeral.digitIn? 16 (Text.hexDigit d) = some d := by decide
  exact hall d h

/-- Four hexadecimal digits are enough for a number of sixteen bits. -/
theorem spellsUnit_hexDigits {n : Nat} (h : n < 0x10000) :
    SpellsUnit n (Text.hexDigits 4 n) := by
  refine ⟨by simp [Text.hexDigits], ?_⟩
  have hdigit (m : Nat) : Numeral.digitIn? 16 (Text.hexDigit (m % 16)) = some (m % 16) :=
    digitIn?_hexDigit (Nat.mod_lt _ (by decide))
  simp only [Text.hexDigits, Numeral.natIn?, List.nil_append, List.cons_append, List.isEmpty_cons,
    List.mapM_cons, List.mapM_nil, hdigit]
  -- the digits put together again are the number
  show some ((((0 * 16 + n / 16 / 16 / 16 % 16) * 16 + n / 16 / 16 % 16) * 16 + n / 16 % 16) * 16 +
    n % 16) = some n
  congr 1
  omega

/-- Characters beyond sixteen bits take two surrogates. -/
theorem spellsChar_wideEscape (c : Char) : SpellsChar c (wideEscape c) := by
  have hvalid : c.toNat < 0x110000 := by
    have h := c.valid
    simp only [UInt32.isValidChar, Nat.isValidChar] at h
    show c.val.toNat < 0x110000
    omega
  by_cases hlt : c.toNat < 0x10000
  · rw [wideEscape, if_pos hlt]
    exact .unit (spellsUnit_hexDigits hlt)
  · rw [wideEscape, if_neg hlt]
    exact .surrogates (spellsUnit_hexDigits (by omega)) (spellsUnit_hexDigits (by omega))
      (by omega) (by omega) (by omega)

/-- A character is written with a letter, by its number, or as it is. -/
theorem writeChar_cases (charset : Charset) (c : Char) :
    (∃ letter, (letter, c) ∈ shortEscapes ∧ writeChar charset c = ['\\', letter]) ∨
      (c.toNat < 0x20 ∧ writeChar charset c = unicodeEscape c.toNat) ∨
      writeChar charset c = wideEscape c ∨
      (c ≠ '"' ∧ c ≠ '\\' ∧ 0x20 ≤ c.toNat ∧ ¬ (charset = .ascii ∧ 0x7F ≤ c.toNat) ∧
        writeChar charset c = [c]) := by
  -- seven characters have a letter of their own; the rest goes by number
  by_cases hshort : c ∈ ['"', '\\', '\n', '\r', '\t', '\x08', '\x0c']
  · left
    simp only [List.mem_cons, List.not_mem_nil, or_false] at hshort
    rcases hshort with rfl | rfl | rfl | rfl | rfl | rfl | rfl <;> exact ⟨_, by decide, rfl⟩
  · right
    simp only [List.mem_cons, List.not_mem_nil, or_false, not_or] at hshort
    rcases hshort with ⟨hquote, hslash, hrest⟩
    simp only [writeChar, hquote, hslash, hrest, if_false]
    by_cases hcontrol : c.toNat < 0x20
    · rw [if_pos hcontrol]
      exact .inl ⟨hcontrol, rfl⟩
    · right
      rw [if_neg hcontrol]
      by_cases hwide : charset = .ascii ∧ 0x7F ≤ c.toNat
      · rw [if_pos hwide]
        exact .inl rfl
      · rw [if_neg hwide]
        exact .inr ⟨hquote, hslash, Nat.le_of_not_lt hcontrol, hwide, rfl⟩

/-- However a character is written, it is one of the ways to write it. -/
theorem spellsChar_writeChar (charset : Charset) (c : Char) :
    SpellsChar c (writeChar charset c) := by
  rcases writeChar_cases charset c with
    ⟨letter, hletter, heq⟩ | ⟨hcontrol, heq⟩ | heq | ⟨hquote, hslash, hcontrol, _, heq⟩ <;> rw [heq]
  · exact .short hletter
  · exact .unit (spellsUnit_hexDigits (Nat.lt_trans hcontrol (by decide)))
  · exact spellsChar_wideEscape c
  · exact .plain hquote hslash hcontrol

/-- A written text is a text of the grammar. -/
theorem spellsText_writeText (charset : Charset) (s : String) :
    SpellsText s (writeText charset s) := by
  refine ⟨s.toList.flatMap (writeChar charset), ?_, rfl⟩
  induction s.toList with
  | nil => exact .nil
  | cons c rest ih => exact .cons (spellsChar_writeChar charset c) ih

/-! ## What is written for a value -/

variable {charset : Charset} {level : Nat}

/-- The first part stands alone, and every other has a comma before it. -/
theorem intercalate_comma (t : List Char) (ts : List (List Char)) :
    [','].intercalate (t :: ts) = t ++ ts.flatMap (',' :: ·) := by
  induction ts generalizing t with
  | nil => simp
  | cons u ts ih => rw [List.intercalate_cons_cons, ih]; simp

theorem blank_nil : Blank [] := by
  intro c hc
  cases hc

theorem blank_space : Blank [' '] := by
  intro c hc
  rw [List.mem_singleton.mp hc]
  rfl

theorem blank_newline (level : Nat) : Blank (newline level) := by
  intro c hc
  rcases List.mem_cons.mp hc with rfl | hc
  · rfl
  · rw [List.eq_of_mem_replicate hc]
    rfl

/-- An item of an array as it is written. -/
def writtenItem (charset : Charset) (level : Nat) (v : JsonValue) : Piece JsonValue :=
  ⟨v, newline level, write charset level v, []⟩

/-- A member of an object as it is written. -/
def writtenMember (charset : Charset) (level : Nat) (m : String × JsonValue) :
    Piece String × Piece JsonValue :=
  (⟨m.1, newline level, writeText charset m.1, []⟩, ⟨m.2, [' '], write charset level m.2, []⟩)

/-- What stands before the bracket that closes a row. -/
def writtenEnd {α : Type} (level : Nat) : List α → List Char
  | [] => []
  | _ :: _ => newline level

theorem writeItems_eq (vs : List JsonValue) :
    writeItems charset level vs =
      (vs.map fun v => (writtenItem charset level v).text).flatMap (',' :: ·) := by
  induction vs with
  | nil => simp [writeItems]
  | cons v rest ih => simp [writeItems, ih, writtenItem, Piece.text]

theorem writeMembers_eq (ms : List (String × JsonValue)) :
    writeMembers charset level ms =
      (ms.map fun m => memberText (writtenMember charset level m)).flatMap (',' :: ·) := by
  induction ms with
  | nil => simp [writeMembers]
  | cons m rest ih => simp [writeMembers, ih, writtenMember, memberText, Piece.text]

/-- An array is written as its items, with commas between them and the end of the row. -/
theorem write_array (vs : List JsonValue) :
    write charset level (.array vs) =
      '[' :: [','].intercalate ((vs.map (writtenItem charset (level + 1))).map Piece.text) ++
        writtenEnd level vs ++ [']'] := by
  cases vs with
  | nil => simp [write, writtenEnd]
  | cons v rest =>
    rw [List.map_map, List.map_cons, intercalate_comma]
    simp [write, writeItems_eq, writtenItem, writtenEnd, Piece.text, Function.comp_def]

/-- An object is written as its members, with commas between them and the end of the row. -/
theorem write_object (ms : List (String × JsonValue)) :
    write charset level (.object ms) =
      '\x7b' :: [','].intercalate ((ms.map (writtenMember charset (level + 1))).map memberText) ++
        writtenEnd level ms ++ ['\x7d'] := by
  cases ms with
  | nil => simp [write, writtenEnd]
  | cons m rest =>
    rw [List.map_map, List.map_cons, intercalate_comma]
    simp [write, writeMembers_eq, writtenMember, memberText, writtenEnd, Piece.text,
      Function.comp_def]

/-- Before a closing bracket only a new line is written. -/
theorem blank_writtenEnd {α : Type} (level : Nat) (row : List α) :
    Blank (writtenEnd level row) := by
  cases row with
  | nil => exact blank_nil
  | cons _ _ => exact blank_newline level

/-- What is written for a value is a document of it. -/
theorem spells_write {v : JsonValue} (h : v.DistinctNames) (charset : Charset) (level : Nat) :
    Spells v (write charset level v) := by
  induction h generalizing level with
  | null => exact .null
  | bool b =>
    cases b with
    | true => exact .true
    | false => exact .false
  | int n => exact .int (spellsInt_decimal n)
  | text s => exact .text (spellsText_writeText charset s)
  -- each item is a piece with a new line before it and nothing behind
  | @array vs _ ih =>
    have hspells := Spells.array (vs.map (writtenItem charset (level + 1))) (writtenEnd level vs)
      (by
        intro p hp
        obtain ⟨v, _, rfl⟩ := List.mem_map.mp hp
        exact ⟨blank_newline _, blank_nil⟩)
      (blank_writtenEnd level vs)
      (by
        intro p hp
        obtain ⟨v, hv, rfl⟩ := List.mem_map.mp hp
        exact ih v hv (level + 1))
    rw [← write_array] at hspells
    simpa [writtenItem, Function.comp_def] using hspells
  -- a member is a name on a new line, and after the colon a blank and the value
  | @object ms hnames _ ih =>
    have hspells := Spells.object (ms.map (writtenMember charset (level + 1)))
      (writtenEnd level ms)
      (by
        intro p hp
        obtain ⟨m, _, rfl⟩ := List.mem_map.mp hp
        exact ⟨⟨blank_newline _, blank_nil⟩, ⟨blank_space, blank_nil⟩⟩)
      (blank_writtenEnd level ms)
      (by simpa [writtenMember, Ordered.names, Function.comp_def] using hnames)
      (by
        intro p hp
        obtain ⟨m, _, rfl⟩ := List.mem_map.mp hp
        exact spellsText_writeText charset m.1)
      (by
        intro p hp
        obtain ⟨m, hm, rfl⟩ := List.mem_map.mp hp
        exact ih m hm (level + 1))
    rw [← write_object] at hspells
    simpa [writtenMember, Function.comp_def] using hspells

/-- What is written for a value, with a line break after it, is a document of it. -/
theorem isDocument_document {v : JsonValue} (h : v.DistinctNames) (charset : Charset) :
    IsDocument v (v.document charset ++ "\n") := by
  refine ⟨⟨v, [], write charset 0 v, ['\n']⟩, ⟨blank_nil, ?_⟩, rfl, spells_write h charset 0, ?_⟩
  · intro c hc
    rw [List.mem_singleton.mp hc]
    rfl
  · simp [document, Piece.text]

/-! ## Documents for readers of ASCII -/

def Ascii (cs : List Char) : Prop :=
  ∀ c ∈ cs, c.toNat < 0x80

@[simp] theorem ascii_nil : Ascii [] := by
  intro c hc
  cases hc

@[simp] theorem ascii_cons {c : Char} {cs : List Char} :
    Ascii (c :: cs) ↔ c.toNat < 0x80 ∧ Ascii cs :=
  List.forall_mem_cons

@[simp] theorem ascii_append {cs ds : List Char} : Ascii (cs ++ ds) ↔ Ascii cs ∧ Ascii ds :=
  List.forall_mem_append

theorem ascii_digits {cs : List Char} (h : ∀ c ∈ cs, c.isDigit = true) : Ascii cs := by
  intro c hc
  have hdigit := h c hc
  simp only [Char.isDigit, Bool.and_eq_true, decide_eq_true_eq] at hdigit
  have hle : c.val.toNat ≤ 57 := hdigit.2
  show c.val.toNat < 0x80
  omega

theorem ascii_decimal (n : Int) : Ascii (Text.decimal n).toList := by
  have h := spellsInt_decimal n
  generalize (Text.decimal n).toList = cs at h ⊢
  cases h with
  | plain h => exact ascii_digits h.digits
  | minus h => exact ascii_cons.mpr ⟨by decide, ascii_digits h.digits⟩

theorem ascii_hexDigits (width n : Nat) : Ascii (Text.hexDigits width n) := by
  induction width generalizing n with
  | zero => exact ascii_nil
  | succ width ih =>
    have hdigit : ∀ d < 16, (Text.hexDigit d).toNat < 0x80 := by decide
    rw [Text.hexDigits, ascii_append]
    exact ⟨ih _, ascii_cons.mpr ⟨hdigit _ (Nat.mod_lt _ (by decide)), ascii_nil⟩⟩

theorem ascii_unicodeEscape (n : Nat) : Ascii (unicodeEscape n) := by
  simp [unicodeEscape, ascii_hexDigits]

/-- With the charset ASCII, any other character is escaped. -/
theorem ascii_writeChar (c : Char) : Ascii (writeChar .ascii c) := by
  rcases writeChar_cases .ascii c with
    ⟨letter, hletter, heq⟩ | ⟨_, heq⟩ | heq | ⟨_, _, _, hnarrow, heq⟩ <;> rw [heq]
  · have hletters : ∀ e ∈ shortEscapes, e.1.toNat < 0x80 := by decide
    have hlt := hletters _ hletter
    simp [hlt]
  · exact ascii_unicodeEscape c.toNat
  -- one escape or two, each made of hexadecimal digits
  · by_cases hlt : c.toNat < 0x10000
    · rw [wideEscape, if_pos hlt]
      exact ascii_unicodeEscape c.toNat
    · rw [wideEscape, if_neg hlt, ascii_append]
      exact ⟨ascii_unicodeEscape _, ascii_unicodeEscape _⟩
  · have hlt : c.toNat < 0x80 := by
      simp only [true_and] at hnarrow
      omega
    simp [hlt]

theorem ascii_writeText (s : String) : Ascii (writeText .ascii s) := by
  have hbody : Ascii (s.toList.flatMap (writeChar .ascii)) := by
    intro c hc
    rcases List.mem_flatMap.mp hc with ⟨d, _, hc⟩
    exact ascii_writeChar d c hc
  simp [writeText, hbody]

theorem ascii_newline (level : Nat) : Ascii (newline level) := by
  intro c hc
  rcases List.mem_cons.mp hc with rfl | hc
  · decide
  · rw [List.eq_of_mem_replicate hc]
    decide

mutual

/-- Nothing that is written for a value on any level leaves ASCII. -/
theorem ascii_write : ∀ (level : Nat) (v : JsonValue), Ascii (write .ascii level v)
  | _, .null => by simp [write]
  | _, .bool b => by cases b <;> simp [write]
  | _, .int n => by rw [write]; exact ascii_decimal n
  | _, .text s => by rw [write]; exact ascii_writeText s
  | _, .array [] => by simp [write]
  | level, .array (v :: rest) => by
    simp [write, ascii_newline, ascii_write (level + 1) v, ascii_writeItems (level + 1) rest]
  | _, .object [] => by simp [write]
  | level, .object ((name, v) :: rest) => by
    simp [write, ascii_newline, ascii_writeText, ascii_write (level + 1) v,
      ascii_writeMembers (level + 1) rest]

theorem ascii_writeItems :
    ∀ (level : Nat) (vs : List JsonValue), Ascii (writeItems .ascii level vs)
  | _, [] => by simp [writeItems]
  | level, v :: rest => by
    simp [writeItems, ascii_newline, ascii_write level v, ascii_writeItems level rest]

theorem ascii_writeMembers :
    ∀ (level : Nat) (ms : List (String × JsonValue)), Ascii (writeMembers .ascii level ms)
  | _, [] => by simp [writeMembers]
  | level, (name, v) :: rest => by
    simp [writeMembers, ascii_newline, ascii_writeText, ascii_write level v,
      ascii_writeMembers level rest]

end

/-- A document for readers of ASCII holds no other character. -/
theorem ascii_document (v : JsonValue) : Ascii (v.document .ascii ++ "\n").toList := by
  simp [document, ascii_write]

end SourceFlow.JsonValue
