import Condition.Json.Basic

/-!
# Reading JSON

The grammar of JSON leaves two things to who reads it: the number that a numeral becomes, if it is
in range, and how deep arrays and objects may stand in one another. A `Dialect` settles both, and
`Dialect.read?` reads a whole text as one value in it. Of two members with one name the later one
counts.

Each part is read from the front of the text. A `Reader` comes with the proof that it takes
something away, and the readers of elements and members, which call a reader of values again and
again, end because of it.
-/

namespace Condition.Json

/-- Takes a value from the front of a text and leaves less of it. -/
structure Reader (α : Type) where
  run : Text → Option (α × Text)
  shortens : ∀ {text value rest}, run text = some (value, rest) → rest.length < text.length

/-- Whether a character may stand between the parts of a JSON text. -/
def isSpace (c : Char) : Bool := c == ' ' || c == '\t' || c == '\n' || c == '\r'

/-- The text without the spaces at its front. -/
def skipSpace (text : Text) : Text := text.dropWhile isSpace

theorem length_skipSpace_le (text : Text) : (skipSpace text).length ≤ text.length :=
  (List.dropWhile_sublist isSpace).length_le

/-! ### Strings -/

/-- The code unit that four hexadecimal digits spell, and what follows them. -/
def readUnit : Text → Option (Nat × Text)
  | a :: b :: c :: d :: rest => do
    let a ← Text.hexDigit? a
    let b ← Text.hexDigit? b
    let c ← Text.hexDigit? c
    let d ← Text.hexDigit? d
    return (((a * 16 + b) * 16 + c) * 16 + d, rest)
  | _ => none

/-- The character that a leading surrogate stands for together with the trailing one that follows
it. -/
def readPair (leading : Nat) : Text → Option (Char × Text)
  | '\\' :: 'u' :: text =>
    match readUnit text with
    | none => none
    | some (trailing, rest) =>
      if 0xdc00 ≤ trailing ∧ trailing < 0xe000 then
        some (Char.ofNat (0x10000 + (leading - 0xd800) * 0x400 + (trailing - 0xdc00)), rest)
      else none
  | _ => none

/-- The character that one code unit, or a pair of surrogates, stands for; behind `\u`. -/
def readCodePoint (text : Text) : Option (Char × Text) :=
  match readUnit text with
  | none => none
  | some (unit, rest) =>
    if unit < 0xd800 ∨ 0xe000 ≤ unit then some (Char.ofNat unit, rest)
    else if unit < 0xdc00 then readPair unit rest
    else none

/-- The character that an escape stands for, and what follows; behind the backslash. -/
def readEscape : Text → Option (Char × Text)
  | '"' :: rest => some ('"', rest)
  | '\\' :: rest => some ('\\', rest)
  | '/' :: rest => some ('/', rest)
  | 'b' :: rest => some ('\x08', rest)
  | 'f' :: rest => some ('\x0c', rest)
  | 'n' :: rest => some ('\n', rest)
  | 'r' :: rest => some ('\r', rest)
  | 't' :: rest => some ('\t', rest)
  | 'u' :: rest => readCodePoint rest
  | _ => none

theorem readUnit_shortens {text rest : Text} {unit : Nat} (h : readUnit text = some (unit, rest)) :
    rest.length < text.length := by
  unfold readUnit at h
  split at h
  · simp only [bind, Option.bind_eq_some_iff, pure, Option.some.injEq, Prod.mk.injEq] at h
    obtain ⟨-, -, -, -, -, -, -, -, -, rfl⟩ := h
    simp only [List.length_cons]
    omega
  · cases h

theorem readPair_shortens {leading : Nat} {text rest : Text} {c : Char}
    (h : readPair leading text = some (c, rest)) : rest.length < text.length := by
  unfold readPair at h
  split at h
  · split at h
    · cases h
    · rename_i hu
      have := readUnit_shortens hu
      split at h
      · simp only [Option.some.injEq, Prod.mk.injEq] at h
        rw [← h.2]
        simp only [List.length_cons]
        omega
      · cases h
  · cases h

theorem readCodePoint_shortens {text rest : Text} {c : Char}
    (h : readCodePoint text = some (c, rest)) : rest.length < text.length := by
  unfold readCodePoint at h
  split at h
  · cases h
  · rename_i hu
    have := readUnit_shortens hu
    split at h
    · simp only [Option.some.injEq, Prod.mk.injEq] at h
      rw [← h.2]
      exact this
    · split at h
      · have := readPair_shortens h
        omega
      · cases h

theorem readEscape_shortens {text rest : Text} {c : Char} (h : readEscape text = some (c, rest)) :
    rest.length < text.length := by
  unfold readEscape at h
  split at h
  case h_9 =>
    have := readCodePoint_shortens h
    simp only [List.length_cons]
    omega
  case h_10 => cases h
  all_goals
    simp only [Option.some.injEq, Prod.mk.injEq] at h
    obtain ⟨-, rfl⟩ := h
    simp

/-- The content of a string, and what follows its closing quote; behind the opening quote. -/
def readString (text : Text) : Option (Text × Text) :=
  match text with
  | [] => none
  | c :: rest =>
    if c = '"' then some ([], rest)
    else if c = '\\' then
      match _h : readEscape rest with
      | none => none
      | some (d, more) => (readString more).map fun found => (d :: found.1, found.2)
    else if c.toNat < 0x20 then none
    else (readString rest).map fun found => (c :: found.1, found.2)
termination_by text.length
decreasing_by
  · have := readEscape_shortens _h
    simp only [List.length_cons]
    omega
  · simp

theorem readString_shortens {text rest content : Text}
    (h : readString text = some (content, rest)) : rest.length < text.length := by
  fun_induction readString text generalizing content with
  | case1 => cases h
  | case2 rest' =>
    simp only [Option.some.injEq, Prod.mk.injEq] at h
    simp [← h.2]
  | case3 => cases h
  | case4 behind d more he _ ih =>
    simp only [Option.map_eq_some_iff, Prod.mk.injEq] at h
    obtain ⟨found, hr, -, rfl⟩ := h
    have := ih hr
    have := readEscape_shortens he
    simp only [List.length_cons]
    omega
  | case5 => cases h
  | case6 c behind hq hb hs ih =>
    simp only [Option.map_eq_some_iff, Prod.mk.injEq] at h
    obtain ⟨found, hr, -, rfl⟩ := h
    have := ih hr
    simp only [List.length_cons]
    omega

/-! ### Numbers -/

/-- The number that a numeral becomes, with or without a minus sign in front, if it is in range. -/
abbrev Conversion := (negative : Bool) → Numeral → Option Number

/-- The number at the front of a text, and what follows: a sign, then digits without a needless zero
in front, a fraction and an exponent. -/
def readNumber (convert : Conversion) (text : Text) : Option (Number × Text) :=
  let negative := text.head? == some '-'
  let (n, rest) := Numeral.read (if negative then text.tail else text)
  match n.whole with
  | [] => none
  | '0' :: _ :: _ => none
  | _ => (convert negative n).map (·, rest)

theorem readNumber_shortens {convert : Conversion} {text rest : Text} {n : Number}
    (h : readNumber convert text = some (n, rest)) : rest.length < text.length := by
  unfold readNumber at h
  dsimp only at h
  have key : ∀ body : Text, (Numeral.read body).1.whole ≠ [] →
      (Numeral.read body).2.length < body.length := by
    intro body hne
    have hs := congrArg List.length (Numeral.read_spelling body)
    have : 0 < (Numeral.read body).1.whole.length := List.length_pos_iff.2 hne
    simp only [Numeral.spelling, List.length_append] at hs
    omega
  have htail : (if text.head? == some '-' then text.tail else text).length ≤ text.length := by
    split <;> simp
  split at h
  · cases h
  · cases h
  · rename_i hne _
    simp only [Option.map_eq_some_iff, Prod.mk.injEq] at h
    obtain ⟨-, -, -, rfl⟩ := h
    have := key _ hne
    omega

/-! ### Arrays and objects -/

/-- The elements from the front of a text to the closing bracket, at least one, and what follows. -/
def readElements (item : Reader Json) (text : Text) : Option (List Json × Text) :=
  match _h : item.run text with
  | none => none
  | some (value, rest) =>
    match _hs : skipSpace rest with
    | ',' :: more => (readElements item more).map fun found => (value :: found.1, found.2)
    | ']' :: more => some ([value], more)
    | _ => none
termination_by text.length
decreasing_by
  have := item.shortens _h
  have hle := length_skipSpace_le rest
  simp only [_hs, List.length_cons] at hle
  omega

/-- A name and its colon at the front of a text, and what follows. -/
def readName (text : Text) : Option (Text × Text) :=
  match skipSpace text with
  | '"' :: rest => do
    let (name, behind) ← readString rest
    match skipSpace behind with
    | ':' :: more => return (name, more)
    | _ => none
  | _ => none

theorem readName_shortens {text rest name : Text} (h : readName text = some (name, rest)) :
    rest.length < text.length := by
  have hle := length_skipSpace_le text
  unfold readName at h
  split at h
  · rename_i behind hq
    simp only [bind, Option.bind_eq_some_iff] at h
    obtain ⟨⟨content, after⟩, hr, h⟩ := h
    have hlt := readString_shortens hr
    have hle' := length_skipSpace_le after
    dsimp only at h
    split at h
    · rename_i more hc
      simp only [pure, Option.some.injEq, Prod.mk.injEq] at h
      obtain ⟨-, rfl⟩ := h
      simp only [hq, hc, List.length_cons] at hle hle'
      omega
    · cases h
  · cases h

/-- The members from the front of a text to the closing brace, at least one, and what follows. -/
def readMembers (item : Reader Json) (text : Text) : Option (List (Text × Json) × Text) :=
  match _hn : readName text with
  | none => none
  | some (name, behind) =>
    match _h : item.run behind with
    | none => none
    | some (value, rest) =>
      match _hs : skipSpace rest with
      | ',' :: more => (readMembers item more).map fun found => ((name, value) :: found.1, found.2)
      | '\x7d' :: more => some ([(name, value)], more)
      | _ => none
termination_by text.length
decreasing_by
  have := readName_shortens _hn
  have := item.shortens _h
  have hle := length_skipSpace_le rest
  simp only [_hs, List.length_cons] at hle
  omega

theorem readElements_shortens {item : Reader Json} {text rest : Text} {items : List Json}
    (h : readElements item text = some (items, rest)) : rest.length < text.length := by
  fun_induction readElements item text generalizing items with
  | case1 => cases h
  | case2 text value behind hr more hs ih =>
    simp only [Option.map_eq_some_iff, Prod.mk.injEq] at h
    obtain ⟨found, hi, -, rfl⟩ := h
    have := ih hi
    have := item.shortens hr
    have hle := length_skipSpace_le behind
    simp only [hs, List.length_cons] at hle
    omega
  | case3 text value behind hr more hs =>
    simp only [Option.some.injEq, Prod.mk.injEq] at h
    obtain ⟨-, rfl⟩ := h
    have := item.shortens hr
    have hle := length_skipSpace_le behind
    simp only [hs, List.length_cons] at hle
    omega
  | case4 => cases h

theorem readMembers_shortens {item : Reader Json} {text rest : Text}
    {members : List (Text × Json)} (h : readMembers item text = some (members, rest)) :
    rest.length < text.length := by
  fun_induction readMembers item text generalizing members with
  | case1 => cases h
  | case2 => cases h
  | case3 text name behind hn value after hr more hs ih =>
    simp only [Option.map_eq_some_iff, Prod.mk.injEq] at h
    obtain ⟨found, hi, -, rfl⟩ := h
    have := ih hi
    have := readName_shortens hn
    have := item.shortens hr
    have hle := length_skipSpace_le after
    simp only [hs, List.length_cons] at hle
    omega
  | case4 text name behind hn value after hr more hs =>
    simp only [Option.some.injEq, Prod.mk.injEq] at h
    obtain ⟨-, rfl⟩ := h
    have := readName_shortens hn
    have := item.shortens hr
    have hle := length_skipSpace_le after
    simp only [hs, List.length_cons] at hle
    omega
  | case5 => cases h

/-! ### Values -/

/-- A word at the front of a text, and what follows. -/
def readWord (word : Text) (value : Json) (text : Text) : Option (Json × Text) :=
  if word.isPrefixOf text then some (value, text.drop word.length) else none

/-- An array behind its opening bracket. -/
def readArray (item : Reader Json) (text : Text) : Option (Json × Text) :=
  match skipSpace text with
  | ']' :: rest => some (.array [], rest)
  | _ => (readElements item text).map fun found => (.array found.1, found.2)

/-- An object behind its opening brace. -/
def readObject (item : Reader Json) (text : Text) : Option (Json × Text) :=
  match skipSpace text with
  | '\x7d' :: rest => some (.object [], rest)
  | _ => (readMembers item text).map fun found => (.object (Record.ofList found.1), found.2)

/-- A value at the front of a text, with the reader for the values inside it; without one it is not
an array or object. -/
def readValue (convert : Conversion) (item? : Option (Reader Json)) (text : Text) :
    Option (Json × Text) :=
  match skipSpace text with
  | '[' :: rest => item?.bind fun item => readArray item rest
  | '\x7b' :: rest => item?.bind fun item => readObject item rest
  | '"' :: rest => (readString rest).map fun found => (.string found.1, found.2)
  | 'n' :: rest => readWord ['u', 'l', 'l'] .null rest
  | 't' :: rest => readWord ['r', 'u', 'e'] (.boolean true) rest
  | 'f' :: rest => readWord ['a', 'l', 's', 'e'] (.boolean false) rest
  | rest => (readNumber convert rest).map fun found => (.number found.1, found.2)

theorem readWord_length_le {word text rest : Text} {value found : Json}
    (h : readWord word value text = some (found, rest)) : rest.length ≤ text.length := by
  unfold readWord at h
  split at h
  · simp only [Option.some.injEq, Prod.mk.injEq] at h
    simp [← h.2]
  · cases h

theorem readArray_shortens {item : Reader Json} {text rest : Text} {value : Json}
    (h : readArray item text = some (value, rest)) : rest.length < text.length := by
  unfold readArray at h
  split at h
  · rename_i hs
    simp only [Option.some.injEq, Prod.mk.injEq] at h
    have hle := length_skipSpace_le text
    simp only [hs, List.length_cons] at hle
    rw [← h.2]
    omega
  · simp only [Option.map_eq_some_iff, Prod.mk.injEq] at h
    obtain ⟨⟨items, rest'⟩, hi, -, rfl⟩ := h
    exact readElements_shortens hi

theorem readObject_shortens {item : Reader Json} {text rest : Text} {value : Json}
    (h : readObject item text = some (value, rest)) : rest.length < text.length := by
  unfold readObject at h
  split at h
  · rename_i hs
    simp only [Option.some.injEq, Prod.mk.injEq] at h
    have hle := length_skipSpace_le text
    simp only [hs, List.length_cons] at hle
    rw [← h.2]
    omega
  · simp only [Option.map_eq_some_iff, Prod.mk.injEq] at h
    obtain ⟨⟨members, rest'⟩, hi, -, rfl⟩ := h
    exact readMembers_shortens hi

theorem readValue_shortens {convert : Conversion} {item? : Option (Reader Json)} {text rest : Text}
    {value : Json} (h : readValue convert item? text = some (value, rest)) :
    rest.length < text.length := by
  have hle := length_skipSpace_le text
  unfold readValue at h
  split at h
  case h_1 hs =>
    obtain ⟨item, -, h⟩ := Option.bind_eq_some_iff.1 h
    have := readArray_shortens h
    simp only [hs, List.length_cons] at hle
    omega
  case h_2 hs =>
    obtain ⟨item, -, h⟩ := Option.bind_eq_some_iff.1 h
    have := readObject_shortens h
    simp only [hs, List.length_cons] at hle
    omega
  case h_3 hs =>
    simp only [Option.map_eq_some_iff, Prod.mk.injEq] at h
    obtain ⟨found, hr, -, rfl⟩ := h
    have := readString_shortens hr
    simp only [hs, List.length_cons] at hle
    omega
  case h_7 =>
    simp only [Option.map_eq_some_iff, Prod.mk.injEq] at h
    obtain ⟨found, hr, -, rfl⟩ := h
    have := readNumber_shortens hr
    omega
  all_goals
    rename_i hs
    have := readWord_length_le h
    simp only [hs, List.length_cons] at hle
    omega

/-- The reader of values in which arrays and objects stand in one another up to a depth. -/
def reader (convert : Conversion) : (depth : Nat) → Reader Json
  | 0 => ⟨readValue convert none, readValue_shortens⟩
  | depth + 1 => ⟨readValue convert (some (reader convert depth)), readValue_shortens⟩

/-- What the grammar leaves open: the numbers that numerals become, and how deep arrays and objects
may stand in one another. -/
structure Dialect where
  convert : Conversion
  depth : Nat

/-- The value that a whole text spells in a dialect. -/
def Dialect.read? (dialect : Dialect) (text : Text) : Option Json :=
  match (reader dialect.convert dialect.depth).run text with
  | some (value, rest) => if (skipSpace rest).isEmpty then some value else none
  | none => none

end Condition.Json
