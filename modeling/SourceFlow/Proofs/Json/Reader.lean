import SourceFlow.Proofs.Json.Grammar
import SourceFlow.Proofs.Ordered

/-!
# Reading JSON documents

A reader for the grammar: it looks at one character to choose the kind of a
value, and a later member of an object takes the place of an earlier one
with its name.

Main statement: every document of a value is read as this value
(`read_of_isDocument`), so a text is a document of at most one value.
-/

namespace SourceFlow.JsonValue

/-! ## The reader -/

def skipBlanks (cs : List Char) : List Char :=
  cs.dropWhile isBlank

/-- Reads the digits of a natural number. -/
def readNat (cs : List Char) : Option (Nat × List Char) :=
  let digits := cs.takeWhile Char.isDigit
  if digits = [] ∨ (digits.head? = some '0' ∧ digits ≠ ['0']) then none
  else some (Nat.ofDigitChars 10 digits 0, cs.dropWhile Char.isDigit)

def readInt : List Char → Option (Int × List Char)
  | '-' :: rest => (readNat rest).map fun p => (-(p.1 : Int), p.2)
  | cs => (readNat cs).map fun p => ((p.1 : Int), p.2)

/-- Reads four hexadecimal digits. -/
def readUnit (cs : List Char) : Option (Nat × List Char) :=
  if cs.length < 4 then none
  else (Numeral.natIn? 16 (cs.take 4)).map fun n => (n, cs.drop 4)

/-- Reads the escape by number of a character; two surrogates make one character. -/
def readEscape (cs : List Char) : Option (Char × List Char) := do
  let (n, rest) ← readUnit cs
  if n < 0xD800 ∨ 0xE000 ≤ n then some (Char.ofNat n, rest)
  else
    match rest with
    | '\\' :: 'u' :: rest =>
      let (m, rest) ← readUnit rest
      if n < 0xDC00 ∧ 0xDC00 ≤ m ∧ m < 0xE000 then
        some (Char.ofNat (0x10000 + (n - 0xD800) * 0x400 + (m - 0xDC00)), rest)
      else none
    | _ => none

/-- Reads a character of a text. -/
def readChar : List Char → Option (Char × List Char)
  | '\\' :: 'u' :: rest => readEscape rest
  | '\\' :: letter :: rest => (shortEscapes.lookup letter).map fun c => (c, rest)
  | c :: rest => if c = '"' ∨ c = '\\' ∨ c.toNat < 0x20 then none else some (c, rest)
  | [] => none

/-- Reads the characters of a text up to the quote that ends it. -/
def readChars : Nat → List Char → Option (List Char × List Char)
  | _, '"' :: rest => some ([], rest)
  -- each character takes at least one, so the length of the text is bound enough
  | 0, _ => none
  | bound + 1, cs => do
    let (c, rest) ← readChar cs
    let (s, rest) ← readChars bound rest
    some (c :: s, rest)

/-- Reads a text in quotes. -/
def readText : List Char → Option (String × List Char)
  | '"' :: rest => (readChars rest.length rest).map fun p => (String.ofList p.1, p.2)
  | _ => none

/-- Reads a row of items, each after a comma, up to the bracket that closes it. -/
def readRow {α : Type} (item : List Char → Option (α × List Char)) (closing : Char) :
    Nat → List Char → Option (List α × List Char)
  | bound + 1, ',' :: rest => do
    let (a, rest) ← item (skipBlanks rest)
    let (row, rest) ← readRow item closing bound (skipBlanks rest)
    some (a :: row, rest)
  | _, c :: rest => if c = closing then some ([], rest) else none
  | _, [] => none

/-- Reads a row with commas between its items, up to the bracket that closes it. -/
def readItems {α : Type} (item : List Char → Option (α × List Char)) (closing : Char)
    (cs : List Char) : Option (List α × List Char) :=
  match skipBlanks cs with
  | [] => none
  | c :: rest =>
    if c = closing then some ([], rest) else readRow item closing (cs.length + 1) (',' :: cs)

/-- Reads a member of an object. -/
def readMember (value : List Char → Option (JsonValue × List Char)) (cs : List Char) :
    Option ((String × JsonValue) × List Char) := do
  let (name, rest) ← readText cs
  match skipBlanks rest with
  | ':' :: rest =>
    let (v, rest) ← value (skipBlanks rest)
    some ((name, v), rest)
  | _ => none

/-- Reads a value no longer than a bound. -/
def readValue : Nat → List Char → Option (JsonValue × List Char)
  | 0, _ => none
  | bound + 1, cs =>
    match cs with
    | 'n' :: 'u' :: 'l' :: 'l' :: rest => some (.null, rest)
    | 't' :: 'r' :: 'u' :: 'e' :: rest => some (.bool true, rest)
    | 'f' :: 'a' :: 'l' :: 's' :: 'e' :: rest => some (.bool false, rest)
    | '"' :: _ => (readText cs).map fun p => (.text p.1, p.2)
    | '[' :: rest => (readItems (readValue bound) ']' rest).map fun p => (.array p.1, p.2)
    | '\x7b' :: rest =>
      (readItems (readMember (readValue bound)) '\x7d' rest).map fun p =>
        (.object (Ordered.ofPairs p.1), p.2)
    | cs => (readInt cs).map fun p => (.int p.1, p.2)

def read (s : String) : Option JsonValue :=
  match readValue s.toList.length (skipBlanks s.toList) with
  | some (v, rest) => if skipBlanks rest = [] then some v else none
  | none => none

/-! ## Blanks -/

variable {cs rest : List Char}

theorem skipBlanks_append {blanks : List Char} (h : Blank blanks) :
    skipBlanks (blanks ++ cs) = skipBlanks cs :=
  List.dropWhile_append_of_pos h

theorem skipBlanks_cons {c : Char} (h : isBlank c = false) : skipBlanks (c :: cs) = c :: cs := by
  simp [skipBlanks, h]

theorem isDigit_of_isBlank {c : Char} (h : isBlank c = true) : c.isDigit = false := by
  simp only [isBlank, Bool.or_eq_true, beq_iff_eq] at h
  rcases h with ((rfl | rfl) | rfl) | rfl <;> rfl

/-- A text that does not go on with a digit, so that a number ends before it. -/
def NoDigit (cs : List Char) : Prop :=
  ∀ c ∈ cs.head?, c.isDigit = false

theorem noDigit_cons {c : Char} (h : c.isDigit = false) : NoDigit (c :: cs) := by
  intro d hd
  rw [← Option.some.inj hd]
  exact h

theorem noDigit_append {blanks : List Char} (hblanks : Blank blanks) (h : NoDigit cs) :
    NoDigit (blanks ++ cs) := by
  cases blanks with
  | nil => exact h
  | cons c _ => exact noDigit_cons (isDigit_of_isBlank (hblanks c List.mem_cons_self))

/-- A text that begins a value: with neither a blank nor a bracket that closes. -/
def Begins (cs : List Char) : Prop :=
  ∃ c rest, cs = c :: rest ∧ isBlank c = false ∧ c ≠ ']' ∧ c ≠ '\x7d'

theorem skipBlanks_of_begins (h : Begins cs) : skipBlanks (cs ++ rest) = cs ++ rest := by
  obtain ⟨c, tail, rfl, hc, _⟩ := h
  exact skipBlanks_cons hc

/-! ## Numbers -/

theorem SpellsNat.begins {n : Nat} (h : SpellsNat n cs) :
    ∃ c tail, cs = c :: tail ∧ c.isDigit = true := by
  rcases h.lead with rfl | ⟨c, tail, rfl, _⟩
  · exact ⟨'0', [], rfl, rfl⟩
  · exact ⟨c, tail, rfl, h.digits c List.mem_cons_self⟩

/-- The digits of a number are read up to where they end. -/
theorem readNat_of_spells {n : Nat} (h : SpellsNat n cs) (hrest : NoDigit rest) :
    readNat (cs ++ rest) = some (n, rest) := by
  have hstop : rest.takeWhile Char.isDigit = [] ∧ rest.dropWhile Char.isDigit = rest := by
    cases rest with
    | nil => exact ⟨rfl, rfl⟩
    | cons c _ => simp [hrest c rfl]
  have htake : (cs ++ rest).takeWhile Char.isDigit = cs := by
    rw [List.takeWhile_append_of_pos h.digits, hstop.1, List.append_nil]
  have hdrop : (cs ++ rest).dropWhile Char.isDigit = rest := by
    rw [List.dropWhile_append_of_pos h.digits, hstop.2]
  have hlead : ¬ (cs = [] ∨ (cs.head? = some '0' ∧ cs ≠ ['0'])) := by
    rcases h.lead with rfl | ⟨c, tail, rfl, hne⟩
    · decide
    · simp [hne]
  rw [readNat, htake, hdrop, if_neg hlead, h.value]

/-- An integer is read with its sign. -/
theorem readInt_of_spells {n : Int} (h : SpellsInt n cs) (hrest : NoDigit rest) :
    readInt (cs ++ rest) = some (n, rest) := by
  cases h with
  | plain h =>
    obtain ⟨c, tail, hcons, hdigit⟩ := h.begins
    -- a digit is no minus sign, so the number is read as it stands
    have hminus : c ≠ '-' := by
      rintro rfl
      cases hdigit
    have hread := readNat_of_spells h hrest
    subst hcons
    rw [List.cons_append] at hread ⊢
    unfold readInt
    split
    · rename_i heq
      exact absurd (List.cons.inj heq).1 hminus
    · rw [hread]
      rfl
  | minus h =>
    rw [List.cons_append, readInt, readNat_of_spells h hrest]
    rfl

theorem SpellsInt.begins {n : Int} (h : SpellsInt n cs) :
    ∃ c tail, cs = c :: tail ∧ (c = '-' ∨ c.isDigit = true) := by
  cases h with
  | plain h =>
    obtain ⟨c, tail, hcons, hdigit⟩ := h.begins
    exact ⟨c, tail, hcons, .inr hdigit⟩
  | minus _ => exact ⟨'-', _, rfl, .inl rfl⟩

/-! ## Texts -/

/-- Four hexadecimal digits are read as their number, whatever follows. -/
theorem readUnit_of_spells {n : Nat} (h : SpellsUnit n cs) :
    readUnit (cs ++ rest) = some (n, rest) := by
  obtain ⟨hlength, hvalue⟩ := h
  have htake : (cs ++ rest).take 4 = cs := by
    rw [← hlength, List.take_left]
  have hdrop : (cs ++ rest).drop 4 = rest := by
    rw [← hlength, List.drop_left]
  have hlong : ¬ (cs ++ rest).length < 4 := by
    rw [List.length_append]
    omega
  rw [readUnit, if_neg hlong, htake, hdrop, hvalue]
  rfl

/-- The number of a character is not that of a surrogate. -/
theorem toNat_not_surrogate (c : Char) : c.toNat < 0xD800 ∨ 0xE000 ≤ c.toNat := by
  have h := c.valid
  simp only [UInt32.isValidChar, Nat.isValidChar] at h
  show c.val.toNat < 0xD800 ∨ 0xE000 ≤ c.val.toNat
  omega

/-- A character is read back from any way to write it. -/
theorem readChar_of_spells {c : Char} (h : SpellsChar c cs) :
    readChar (cs ++ rest) = some (c, rest) := by
  cases h with
  | plain hquote hslash hcontrol =>
    have hplain : ¬ (c = '"' ∨ c = '\\' ∨ c.toNat < 0x20) := by
      simp only [hquote, hslash, false_or]
      omega
    rw [List.cons_append, List.nil_append]
    unfold readChar
    split
    · rename_i heq
      exact absurd (List.cons.inj heq).1 hslash
    · rename_i heq
      exact absurd (List.cons.inj heq).1 hslash
    · rename_i heq
      obtain ⟨rfl, rfl⟩ := List.cons.inj heq
      rw [if_neg hplain]
    · rename_i heq
      cases heq
  | short h =>
    simp only [shortEscapes, List.mem_cons, Prod.mk.injEq, List.not_mem_nil, or_false] at h
    rcases h with ⟨rfl, rfl⟩ | ⟨rfl, rfl⟩ | ⟨rfl, rfl⟩ | ⟨rfl, rfl⟩ | ⟨rfl, rfl⟩ | ⟨rfl, rfl⟩ |
      ⟨rfl, rfl⟩ | ⟨rfl, rfl⟩ <;> rfl
  | unit h =>
    show readEscape (_ ++ rest) = some (c, rest)
    rw [readEscape, readUnit_of_spells h]
    show (if c.toNat < 0xD800 ∨ 0xE000 ≤ c.toNat then some (Char.ofNat c.toNat, rest) else _) = _
    rw [if_pos (toNat_not_surrogate c), Char.ofNat_toNat]
  | @surrogates _ high low hs ls hhigh hlow hhigh_lt hlow_lt hc =>
    -- the first number is that of a surrogate, so a second escape has to follow
    have hnot : ¬ (0xD800 + high < 0xD800 ∨ 0xE000 ≤ 0xD800 + high) := by omega
    have hpair : 0xD800 + high < 0xDC00 ∧ 0xDC00 ≤ 0xDC00 + low ∧ 0xDC00 + low < 0xE000 := by
      omega
    have htext : '\\' :: 'u' :: hs ++ '\\' :: 'u' :: ls ++ rest =
        '\\' :: 'u' :: (hs ++ '\\' :: 'u' :: (ls ++ rest)) := by simp
    rw [htext, readChar, readEscape, readUnit_of_spells hhigh]
    simp only [bind, Option.bind, if_neg hnot, readUnit_of_spells hlow, if_pos hpair]
    rw [Nat.add_sub_cancel_left, Nat.add_sub_cancel_left, ← hc, Char.ofNat_toNat]

/-- No way to write a character begins with a quote, so the end of a text is seen. -/
theorem SpellsChar.begins {c : Char} (h : SpellsChar c cs) :
    ∃ d tail, cs = d :: tail ∧ d ≠ '"' := by
  cases h with
  | plain hquote _ _ => exact ⟨c, [], rfl, hquote⟩
  | short _ => exact ⟨'\\', _, rfl, by decide⟩
  | unit _ => exact ⟨'\\', _, rfl, by decide⟩
  | surrogates _ _ _ _ _ => exact ⟨'\\', _, rfl, by decide⟩

/-- Characters are read up to the closing quote, if the bound is not below their length. -/
theorem readChars_of_spells {s body : List Char} (h : SpellsChars s body) {bound : Nat}
    (hbound : body.length ≤ bound) :
    readChars bound (body ++ '"' :: rest) = some (s, rest) := by
  induction h generalizing bound with
  | nil => simp [readChars]
  | @cons c s cs ds hc _ ih =>
    -- the first character is no quote, so the text does not end here
    obtain ⟨d, tail, rfl, hquote⟩ := hc.begins
    rw [List.length_append, List.length_cons] at hbound
    obtain ⟨bound, rfl⟩ : ∃ b, bound = b + 1 := ⟨bound - 1, by omega⟩
    have hchar : readChar (d :: (tail ++ (ds ++ '"' :: rest))) = some (c, ds ++ '"' :: rest) :=
      readChar_of_spells hc
    have hchars : readChars bound (ds ++ '"' :: rest) = some (s, rest) := ih (by omega)
    rw [List.append_assoc, List.cons_append]
    unfold readChars
    split
    · rename_i heq
      exact absurd (List.cons.inj heq).1 hquote
    · omega
    · rename_i heq _
      cases heq
      rw [hchar]
      simp only [bind, Option.bind, hchars]

/-- A text is read back from any way to write it. -/
theorem readText_of_spells {s : String} (h : SpellsText s cs) :
    readText (cs ++ rest) = some (s, rest) := by
  obtain ⟨body, hbody, rfl⟩ := h
  have htext : '"' :: body ++ ['"'] ++ rest = '"' :: (body ++ '"' :: rest) := by simp
  have hbound : body.length ≤ (body ++ '"' :: rest).length := by simp
  rw [htext, readText, readChars_of_spells hbody hbound]
  simp

theorem SpellsText.begins {s : String} (h : SpellsText s cs) : ∃ tail, cs = '"' :: tail := by
  obtain ⟨body, _, rfl⟩ := h
  exact ⟨body ++ ['"'], rfl⟩

/-! ## Rows -/

section Rows

variable {α : Type} {item : List Char → Option (α × List Char)} {closing : Char}
  {pieces : List (Piece α)} {blanks : List Char}

/-- A piece is read as its value. -/
structure Piece.ReadBy (item : List Char → Option (α × List Char)) (p : Piece α) : Prop where
  padded : p.Padded
  begins : Begins p.body
  read : ∀ rest, NoDigit rest → item (p.body ++ rest) = some (p.value, rest)

/-- The pieces of a row, each after a comma, and what closes it. -/
def commaRow (pieces : List (Piece α)) (blanks : List Char) (closing : Char) (rest : List Char) :
    List Char :=
  (pieces.map Piece.text).flatMap (',' :: ·) ++ (blanks ++ closing :: rest)

/-- A number before a comma or a closing bracket ends there. -/
theorem noDigit_commaRow (hblanks : Blank blanks) (hclosing : closing.isDigit = false) :
    NoDigit (commaRow pieces blanks closing rest) := by
  cases pieces with
  | nil =>
    show NoDigit (blanks ++ closing :: rest)
    exact noDigit_append hblanks (noDigit_cons hclosing)
  | cons p ps => exact noDigit_cons rfl

/-- A row of pieces, each after a comma, is read as the values of the pieces. -/
theorem readRow_commaRow (hblanks : Blank blanks) (hblank : isBlank closing = false)
    (hdigit : closing.isDigit = false) (hcomma : closing ≠ ',')
    (hpieces : ∀ p ∈ pieces, p.ReadBy item) {bound : Nat} (hbound : pieces.length ≤ bound) :
    readRow item closing bound (skipBlanks (commaRow pieces blanks closing rest)) =
      some (pieces.map (·.value), rest) := by
  induction pieces generalizing bound with
  | nil =>
    have hskip : skipBlanks (commaRow ([] : List (Piece α)) blanks closing rest) =
        closing :: rest := by
      show skipBlanks (blanks ++ closing :: rest) = closing :: rest
      rw [skipBlanks_append hblanks, skipBlanks_cons hblank]
    rw [hskip]
    cases bound <;> simp [readRow, hcomma]
  | cons p ps ih =>
    rw [List.length_cons] at hbound
    obtain ⟨bound, rfl⟩ : ∃ b, bound = b + 1 := ⟨bound - 1, by omega⟩
    have hp := hpieces p List.mem_cons_self
    have hrow : commaRow (p :: ps) blanks closing rest =
        ',' :: (p.before ++ (p.body ++ (p.after ++ commaRow ps blanks closing rest))) := by
      simp [commaRow, Piece.text]
    -- behind the piece comes a blank, a comma or the bracket, and none is a digit
    have hitem : item (p.body ++ (p.after ++ commaRow ps blanks closing rest)) =
        some (p.value, p.after ++ commaRow ps blanks closing rest) :=
      hp.read _ (noDigit_append hp.padded.2 (noDigit_commaRow hblanks hdigit))
    have hrest : readRow item closing bound (skipBlanks (commaRow ps blanks closing rest)) =
        some (ps.map (·.value), rest) :=
      ih (fun q hq => hpieces q (List.mem_cons_of_mem _ hq)) (Nat.le_of_succ_le_succ hbound)
    rw [hrow, skipBlanks_cons rfl, readRow, skipBlanks_append hp.padded.1,
      skipBlanks_of_begins hp.begins, hitem]
    simp only [bind, Option.bind, skipBlanks_append hp.padded.2, hrest, List.map_cons]

/-- A row has more characters than pieces, so its length bounds their number. -/
theorem length_le_commaRow : pieces.length ≤ (commaRow pieces blanks closing rest).length := by
  induction pieces with
  | nil => exact Nat.zero_le _
  | cons p ps ih =>
    simp only [commaRow, List.map_cons, List.flatMap_cons, List.length_append, List.length_cons]
      at ih ⊢
    omega

/-- A row with commas between its pieces is read as their values. -/
theorem readItems_row (hblanks : Blank blanks) (hclosing : closing = ']' ∨ closing = '\x7d')
    (hpieces : ∀ p ∈ pieces, p.ReadBy item) :
    readItems item closing
        ([','].intercalate (pieces.map Piece.text) ++ (blanks ++ closing :: rest)) =
      some (pieces.map (·.value), rest) := by
  have hmarks : isBlank closing = false ∧ closing.isDigit = false ∧ closing ≠ ',' := by
    rcases hclosing with rfl | rfl <;> decide
  obtain ⟨hblank, hdigit, hcomma⟩ := hmarks
  cases pieces with
  | nil =>
    have hskip : skipBlanks (blanks ++ closing :: rest) = closing :: rest := by
      rw [skipBlanks_append hblanks, skipBlanks_cons hblank]
    show readItems item closing (blanks ++ closing :: rest) = _
    simp [readItems, hskip]
  | cons p ps =>
    -- what begins a piece closes no row, so the row is read as one with a comma in front
    have hp := hpieces p List.mem_cons_self
    have hrow : ',' :: ([','].intercalate ((p :: ps).map Piece.text) ++
        (blanks ++ closing :: rest)) = commaRow (p :: ps) blanks closing rest := by
      rw [List.map_cons, intercalate_comma]
      simp [commaRow]
    generalize hcs : [','].intercalate ((p :: ps).map Piece.text) ++
      (blanks ++ closing :: rest) = cs at hrow ⊢
    obtain ⟨c, tail, hbody, hc, hsquare, hbrace⟩ := hp.begins
    have hskip : ∃ tail, skipBlanks cs = c :: tail := by
      rw [← hcs, List.map_cons, intercalate_comma, Piece.text, hbody]
      simp only [List.append_assoc, List.cons_append]
      rw [skipBlanks_append hp.padded.1, skipBlanks_cons hc]
      exact ⟨_, rfl⟩
    obtain ⟨tail', hskip⟩ := hskip
    have hopen : c ≠ closing := by
      rcases hclosing with rfl | rfl
      · exact hsquare
      · exact hbrace
    have hlength : (p :: ps).length ≤ cs.length + 1 := by
      rw [← List.length_cons, hrow]
      exact length_le_commaRow
    have hread : readRow item closing (cs.length + 1)
        (skipBlanks (commaRow (p :: ps) blanks closing rest)) =
          some ((p :: ps).map (·.value), rest) :=
      readRow_commaRow hblanks hblank hdigit hcomma hpieces hlength
    rw [← hrow, skipBlanks_cons rfl] at hread
    simp only [readItems, hskip, if_neg hopen, hread]

end Rows

/-! ## Values -/

/-- Every document begins a value. -/
theorem Spells.begins {v : JsonValue} (h : Spells v cs) : Begins cs := by
  cases h with
  | null => exact ⟨'n', _, rfl, by decide⟩
  | true => exact ⟨'t', _, rfl, by decide⟩
  | false => exact ⟨'f', _, rfl, by decide⟩
  | int h =>
    obtain ⟨c, tail, rfl, rfl | hdigit⟩ := h.begins
    · exact ⟨'-', tail, rfl, by decide⟩
    -- a digit is neither a blank nor a bracket
    · refine ⟨c, tail, rfl, ?_, ?_, ?_⟩
      · cases hblank : isBlank c with
        | false => rfl
        | true => rw [isDigit_of_isBlank hblank] at hdigit; cases hdigit
      · rintro rfl
        cases hdigit
      · rintro rfl
        cases hdigit
  | text h =>
    obtain ⟨tail, rfl⟩ := h.begins
    exact ⟨'"', tail, rfl, by decide⟩
  | array _ _ _ _ _ => exact ⟨'[', _, rfl, by decide⟩
  | object _ _ _ _ _ _ _ => exact ⟨'\x7b', _, rfl, by decide⟩

/-- An integer is read as such on any bound, since its first character is that of no other value. -/
theorem readValue_int {n : Int} (h : SpellsInt n cs) (hrest : NoDigit rest) (bound : Nat) :
    readValue (bound + 1) (cs ++ rest) = some (.int n, rest) := by
  have hread := readInt_of_spells h hrest
  obtain ⟨c, tail, rfl, rfl | hdigit⟩ := h.begins
  · show (readInt ('-' :: tail ++ rest)).map _ = _
    rw [hread]
    rfl
  · -- no other kind of value begins with a digit
    rw [List.cons_append] at hread ⊢
    unfold readValue
    split <;> first
      | rename_i heq
        obtain rfl := (List.cons.inj heq).1
        cases hdigit
      | rw [hread]
        rfl

/-- A member of an object as one piece. -/
def memberPiece (m : Piece String × Piece JsonValue) : Piece (String × JsonValue) :=
  { value := (m.1.value, m.2.value)
    before := m.1.before
    body := m.1.body ++ (m.1.after ++ ':' :: (m.2.before ++ m.2.body))
    after := m.2.after }

theorem text_memberPiece (m : Piece String × Piece JsonValue) :
    (memberPiece m).text = memberText m := by
  simp [memberPiece, memberText, Piece.text]

/-- A member is read as its name and its value. -/
theorem readBy_memberPiece {m : Piece String × Piece JsonValue}
    {value : List Char → Option (JsonValue × List Char)} (hpadded : m.1.Padded ∧ m.2.Padded)
    (hname : SpellsText m.1.value m.1.body) (hbegins : Begins m.2.body)
    (hvalue : ∀ rest, NoDigit rest → value (m.2.body ++ rest) = some (m.2.value, rest)) :
    (memberPiece m).ReadBy (readMember value) := by
  obtain ⟨hkey, hbody⟩ := hpadded
  refine ⟨⟨hkey.1, hbody.2⟩, ?_, ?_⟩
  · obtain ⟨tail, htail⟩ := hname.begins
    exact ⟨'"', _, by rw [memberPiece, htail]; rfl, by decide⟩
  · intro rest hrest
    have htext : (memberPiece m).body ++ rest =
        m.1.body ++ (m.1.after ++ ':' :: (m.2.before ++ (m.2.body ++ rest))) := by
      simp [memberPiece]
    have hcolon : skipBlanks (m.1.after ++ ':' :: (m.2.before ++ (m.2.body ++ rest))) =
        ':' :: (m.2.before ++ (m.2.body ++ rest)) := by
      rw [skipBlanks_append hkey.2, skipBlanks_cons rfl]
    have hskip : skipBlanks (m.2.before ++ (m.2.body ++ rest)) = m.2.body ++ rest := by
      rw [skipBlanks_append hbody.1, skipBlanks_of_begins hbegins]
    rw [htext, readMember, readText_of_spells hname]
    simp only [bind, Option.bind, hcolon, hskip, hvalue rest hrest]
    rfl

theorem length_le_intercalate {t : List Char} {ts : List (List Char)} (h : t ∈ ts) :
    t.length ≤ ([','].intercalate ts).length := by
  induction ts with
  | nil => cases h
  | cons u us ih =>
    cases us with
    | nil =>
      rw [List.mem_singleton.mp h]
      simp
    | cons w ws =>
      rw [List.intercalate_cons_cons, List.length_append, List.length_append]
      rcases List.mem_cons.mp h with rfl | hmem
      · omega
      · have hle := ih hmem
        omega

/-- A piece is not longer than the row it stands in, so a smaller bound is enough for it. -/
theorem length_body_le {α : Type} {p : Piece α} {pieces : List (Piece α)} (h : p ∈ pieces) :
    p.body.length ≤ ([','].intercalate (pieces.map Piece.text)).length := by
  have hle := length_le_intercalate (List.mem_map_of_mem (f := Piece.text) h)
  simp only [Piece.text, List.length_append] at hle ⊢
  omega

/-- Every document of a value, with anything after it that is no digit, is read as this value. -/
theorem readValue_of_spells {v : JsonValue} (h : Spells v cs) {bound : Nat}
    (hbound : cs.length ≤ bound) (hrest : NoDigit rest) :
    readValue bound (cs ++ rest) = some (v, rest) := by
  -- the induction follows the reader, which reads the parts of a value with a smaller bound
  induction bound generalizing v cs rest with
  | zero =>
    obtain ⟨c, tail, rfl, _⟩ := h.begins
    cases hbound
  | succ bound ih =>
    cases h with
    | null => rfl
    | true => rfl
    | false => rfl
    | int h => exact readValue_int h hrest bound
    | text h =>
      have hread : readText (cs ++ rest) = some (_, rest) := readText_of_spells h
      obtain ⟨tail, rfl⟩ := h.begins
      show (readText ('"' :: tail ++ rest)).map _ = _
      rw [hread]
      rfl
    | array items blanks hpadded hblanks hitems =>
      have hread : ∀ p ∈ items, p.ReadBy (readValue bound) := by
        intro p hp
        refine ⟨hpadded p hp, (hitems p hp).begins, ?_⟩
        intro rest hrest
        have hle := length_body_le hp
        simp only [List.length_append, List.length_cons] at hbound
        exact ih (hitems p hp) (by omega) hrest
      have hrow : readItems (readValue bound) ']'
          ([','].intercalate (items.map Piece.text) ++ (blanks ++ ']' :: rest)) =
            some (items.map (·.value), rest) :=
        readItems_row hblanks (.inl rfl) hread
      have htext : '[' :: [','].intercalate (items.map Piece.text) ++ blanks ++ [']'] ++ rest =
          '[' :: ([','].intercalate (items.map Piece.text) ++ (blanks ++ ']' :: rest)) := by simp
      rw [htext, readValue, hrow]
      rfl
    | object members blanks hpadded hblanks hdistinct hnames hvalues =>
      have hmembers : members.map memberText = (members.map memberPiece).map Piece.text := by
        simp [text_memberPiece]
      have hread : ∀ p ∈ members.map memberPiece, p.ReadBy (readMember (readValue bound)) := by
        intro p hp
        have hle := length_body_le hp
        obtain ⟨m, hm, rfl⟩ := List.mem_map.mp hp
        refine readBy_memberPiece (hpadded m hm) (hnames m hm) (hvalues m hm).begins ?_
        intro rest hrest
        rw [← hmembers] at hle
        simp only [memberPiece, List.length_append, List.length_cons] at hbound hle
        exact ih (hvalues m hm) (by omega) hrest
      have hrow : readItems (readMember (readValue bound)) '\x7d'
          ([','].intercalate (members.map memberText) ++ (blanks ++ '\x7d' :: rest)) =
            some (members.map fun m => (m.1.value, m.2.value), rest) := by
        rw [hmembers, readItems_row hblanks (.inr rfl) hread]
        simp [memberPiece]
      -- names differ, so no member takes the place of another
      have hpairs : Ordered.ofPairs (members.map fun m => (m.1.value, m.2.value)) =
          members.map fun m => (m.1.value, m.2.value) := by
        apply Ordered.ofPairs_of_nodup
        simpa [Ordered.names, Function.comp_def] using hdistinct
      have htext : '\x7b' :: [','].intercalate (members.map memberText) ++ blanks ++ ['\x7d'] ++
          rest = '\x7b' :: ([','].intercalate (members.map memberText) ++
            (blanks ++ '\x7d' :: rest)) := by simp
      rw [htext, readValue, hrow]
      simp [hpairs]

/-- Every document of a value is read as this value. -/
theorem read_of_isDocument {v : JsonValue} {s : String} (h : IsDocument v s) :
    read s = some v := by
  obtain ⟨p, ⟨hbefore, hafter⟩, rfl, hspells, htext⟩ := h
  have hskip : skipBlanks s.toList = p.body ++ p.after := by
    rw [htext, Piece.text, List.append_assoc, skipBlanks_append hbefore,
      skipBlanks_of_begins hspells.begins]
  have hend : skipBlanks p.after = [] := by
    have hnil : skipBlanks (p.after ++ []) = [] := skipBlanks_append hafter
    rwa [List.append_nil] at hnil
  have hdigit : NoDigit p.after := by
    have happend : NoDigit (p.after ++ []) := noDigit_append hafter (by intro c hc; cases hc)
    rwa [List.append_nil] at happend
  have hbound : p.body.length ≤ s.toList.length := by
    rw [htext, Piece.text, List.length_append, List.length_append]
    omega
  rw [read, hskip, readValue_of_spells hspells hbound hdigit]
  simp [hend]

end SourceFlow.JsonValue
