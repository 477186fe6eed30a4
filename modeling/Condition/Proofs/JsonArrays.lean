import Condition.Json.Reading
import Condition.Proofs.Numerals
import Condition.Text.Class

/-! # The front of a JSON array

Spaces in front of a value make no difference to reading it, but a blank that is no space is refused
(`skipSpace_of_blanks`), and behind digits that nothing continues comes a comma or the end of the
array.

* `readArray_append_spaces`, `readArray_of_blank`: blanks in front of the first element.
* `readElements_digits`: an element that is an integer, and what follows it.
* `kind_of_readArray_word`: an array that starts with a word starts with no string and no number. -/

namespace Condition.Json

open Numeral

/-! ### Spaces and blanks -/

theorem skipSpace_append {spaces : Text} (h : ∀ c ∈ spaces, isSpace c = true) (text : Text) :
    skipSpace (spaces ++ text) = skipSpace text :=
  List.dropWhile_append_of_pos h

theorem skipSpace_cons {c : Char} (h : isSpace c = false) (text : Text) :
    skipSpace (c :: text) = c :: text := by
  simp [skipSpace, h]

theorem isBlank_of_isSpace {c : Char} (h : isSpace c = true) : Text.isBlank c = true := by
  simp only [isSpace, Bool.or_eq_true, beq_iff_eq] at h
  rcases h with ((rfl | rfl) | rfl) | rfl <;> decide

theorem isSpace_of_isBlank_false {c : Char} (h : Text.isBlank c = false) : isSpace c = false := by
  cases hs : isSpace c with
  | false => rfl
  | true =>
    rw [isBlank_of_isSpace hs] at h
    cases h

/-- Among blanks that are not all spaces, one that is none comes first behind the spaces. -/
theorem skipSpace_of_blanks {blanks : Text} (hb : ∀ c ∈ blanks, Text.isBlank c = true)
    (h : ¬ ∀ c ∈ blanks, isSpace c = true) (text : Text) :
    ∃ c rest, skipSpace (blanks ++ text) = c :: rest ∧ Text.isBlank c = true ∧
      isSpace c = false := by
  induction blanks with
  | nil => exact absurd (by rintro c ⟨⟩) h
  | cons c blanks ih =>
    cases hs : isSpace c with
    | false => exact ⟨c, blanks ++ text, skipSpace_cons hs _, hb c List.mem_cons_self, hs⟩
    | true =>
      have hn : ¬ ∀ d ∈ blanks, isSpace d = true := by
        intro hall
        refine h fun d hd => ?_
        rcases List.mem_cons.1 hd with rfl | hd
        · exact hs
        · exact hall d hd
      have hskip : skipSpace (c :: (blanks ++ text)) = skipSpace (blanks ++ text) :=
        List.dropWhile_cons_of_pos hs
      rw [List.cons_append, hskip]
      exact ih (fun d hd => hb d (List.mem_cons_of_mem c hd)) hn

theorem isDigit_of_isBlank {c : Char} (h : Text.isBlank c = true) : c.isDigit = false := by
  cases hd : c.isDigit with
  | false => rfl
  | true =>
    have hd : 48 ≤ c.toNat ∧ c.toNat ≤ 57 := Char.isDigit_iff_toNat.1 hd
    simp only [Text.isBlank, Bool.or_eq_true, Bool.and_eq_true, decide_eq_true_eq, beq_iff_eq] at h
    omega

theorem isBlank_of_isDigit {c : Char} (h : c.isDigit = true) : Text.isBlank c = false := by
  cases hb : Text.isBlank c with
  | false => rfl
  | true =>
    rw [isDigit_of_isBlank hb] at h
    cases h

/-- No number goes on with a blank. -/
theorem stops_of_isBlank {c : Char} (h : Text.isBlank c = true) (text : Text) :
    Stops (c :: text) := by
  rintro d ⟨rfl⟩
  refine ⟨isDigit_of_isBlank h, ?_, ?_, ?_⟩ <;> rintro rfl <;> exact absurd h (by decide)

theorem toNat_of_isAlpha {c : Char} (h : c.isAlpha = true) :
    (65 ≤ c.toNat ∧ c.toNat ≤ 90) ∨ (97 ≤ c.toNat ∧ c.toNat ≤ 122) := by
  change (decide (65 ≤ c.val ∧ c.val ≤ 90) || (decide (97 ≤ c.val) && decide (c.val ≤ 122))) =
    true at h
  simp only [Bool.or_eq_true, Bool.and_eq_true, decide_eq_true_eq, UInt32.le_iff_toNat_le] at h
  exact h

theorem isDigit_of_startsWord {c : Char} (h : Text.startsWord c = true) : c.isDigit = false := by
  cases hd : c.isDigit with
  | false => rfl
  | true =>
    have hd : 48 ≤ c.toNat ∧ c.toNat ≤ 57 := Char.isDigit_iff_toNat.1 hd
    have hlt : c.toNat < 0x80 := by omega
    simp only [Text.startsWord, Text.isAlphabetic, if_pos hlt, Bool.or_eq_true, beq_iff_eq] at h
    rcases h with h | rfl
    · have := toNat_of_isAlpha h
      omega
    · exact absurd hd (by decide)

theorem isSpace_of_isDigit {c : Char} (h : c.isDigit = true) : isSpace c = false := by
  cases hs : isSpace c with
  | false => rfl
  | true =>
    rw [isDigit_of_isBlank (isBlank_of_isSpace hs)] at h
    cases h

theorem isSpace_of_startsWord {c : Char} (h : Text.startsWord c = true) : isSpace c = false := by
  cases hs : isSpace c with
  | false => rfl
  | true =>
    simp only [isSpace, Bool.or_eq_true, beq_iff_eq] at hs
    rcases hs with ((rfl | rfl) | rfl) | rfl <;> exact absurd h (by decide)

/-- A class of characters is apart from characters that are not in it. -/
theorem notMem_of_class {f : Char → Bool} {chars : List Char} {c : Char} (h : f c = true)
    (hf : chars.any f = false) : c ∉ chars := by
  intro hc
  exact List.any_eq_false.1 hf c hc h

/-! ### Values -/

variable {convert : Conversion}

/-- The characters that start another value than a number. -/
def structural : List Char := ['[', '\x7b', '"', 'n', 't', 'f']

theorem skipSpace_skipSpace (text : Text) : skipSpace (skipSpace text) = skipSpace text := by
  have hn := List.head?_dropWhile_not isSpace text
  cases h : skipSpace text with
  | nil => rfl
  | cons c rest =>
    have h : text.dropWhile isSpace = c :: rest := h
    rw [h] at hn
    exact skipSpace_cons hn rest

theorem run_reader (convert : Conversion) (depth : Nat) :
    ∃ item?, (reader convert depth).run = readValue convert item? := by
  cases depth with
  | zero => exact ⟨none, rfl⟩
  | succ depth => exact ⟨some (reader convert depth), rfl⟩

theorem readValue_skipSpace (item? : Option (Reader Json)) (text : Text) :
    readValue convert item? (skipSpace text) = readValue convert item? text := by
  unfold readValue
  rw [skipSpace_skipSpace]

/-- What starts with neither a digit nor a minus sign is no number. -/
theorem readNumber_eq_none {c : Char} (hd : c.isDigit = false) (hm : c ≠ '-') (text : Text) :
    readNumber convert (c :: text) = none := by
  have hw : (Numeral.read (c :: text)).1.whole = [] := by simp [Numeral.read, hd]
  have hn : ((c :: text).head? == some '-') = false := by simp [hm]
  simp only [readNumber, hn, Bool.false_eq_true, if_false, hw]

/-- A character that starts no word and no structure starts a number. -/
theorem readValue_number (item? : Option (Reader Json)) {c : Char} (hs : isSpace c = false)
    (hc : c ∉ structural) (text : Text) : readValue convert item? (c :: text) =
      (readNumber convert (c :: text)).map fun found => (.number found.1, found.2) := by
  unfold readValue
  rw [skipSpace_cons hs]
  split
  case h_7 => rfl
  all_goals
    rename_i he
    exact absurd (by rw [(List.cons.inj he).1]; decide) hc

theorem eq_of_readWord {word text rest : Text} {value found : Json}
    (h : readWord word value text = some (found, rest)) : found = value := by
  unfold readWord at h
  split at h <;> cases h
  rfl

/-- A value that starts with a word is null or a truth value. -/
theorem kind_of_readValue_word {item? : Option (Reader Json)} {c : Char} {text rest : Text}
    {value : Json} (hw : Text.startsWord c = true)
    (h : readValue convert item? (c :: text) = some (value, rest)) :
    value.kind = .null ∨ value.kind = .boolean := by
  have hs := isSpace_of_startsWord hw
  by_cases hn : c = 'n'
  · subst hn
    exact .inl (congrArg kind (eq_of_readWord h))
  by_cases ht : c = 't'
  · subst ht
    exact .inr (congrArg kind (eq_of_readWord h))
  by_cases hf : c = 'f'
  · subst hf
    exact .inr (congrArg kind (eq_of_readWord h))
  have hc : c ∉ structural := by
    have hb : c ∉ ['[', '\x7b', '"'] := notMem_of_class hw (by decide)
    simp only [structural, List.mem_cons, List.not_mem_nil, or_false, not_or] at hb ⊢
    exact ⟨hb.1, hb.2.1, hb.2.2, hn, ht, hf⟩
  have hm : c ≠ '-' := by
    rintro rfl
    exact absurd hw (by decide)
  rw [readValue_number item? hs hc, readNumber_eq_none (isDigit_of_startsWord hw) hm] at h
  cases h

theorem readValue_of_blank (item? : Option (Reader Json)) {c : Char} (hb : Text.isBlank c = true)
    (hs : isSpace c = false) (text : Text) : readValue convert item? (c :: text) = none := by
  have hc : c ∉ structural := notMem_of_class hb (by decide)
  have hm : c ≠ '-' := by
    rintro rfl
    exact absurd hb (by decide)
  rw [readValue_number item? hs hc, readNumber_eq_none (isDigit_of_isBlank hb) hm]
  rfl

/-- The number that digits spell, if they are a JSON number. -/
def wholeNumber? (convert : Conversion) (digits : Text) : Option Number :=
  match digits with
  | [] => none
  | '0' :: _ :: _ => none
  | _ => convert false ⟨digits, none, none⟩

/-- In front of what does not go on with them, digits are a value by themselves. -/
theorem readValue_digits (item? : Option (Reader Json)) {digits rest : Text}
    (hd : IsDigits digits) (hr : Stops rest) : readValue convert item? (digits ++ rest) =
      (wholeNumber? convert digits).map fun n => (.number n, rest) := by
  obtain ⟨c, more, rfl⟩ := List.exists_cons_of_ne_nil hd.1
  have hc := hd.2 c List.mem_cons_self
  have hread : Numeral.read (c :: (more ++ rest)) = (⟨c :: more, none, none⟩, rest) := by
    have hn : WellFormed ⟨c :: more, none, none⟩ :=
      ⟨hd.2, by rintro digits ⟨⟩, by rintro e ⟨⟩⟩
    have := read_append hn hr
    simpa [spelling] using this
  have hstart : c ∉ structural := notMem_of_class hc (by decide)
  have hminus : ((c :: (more ++ rest)).head? == some '-') = false := by
    simp only [List.head?_cons, beq_eq_false_iff_ne, ne_eq, Option.some.injEq]
    rintro rfl
    exact absurd hc (by decide)
  rw [List.cons_append, readValue_number item? (isSpace_of_isDigit hc) hstart]
  simp only [readNumber, hminus, Bool.false_eq_true, if_false, hread, wholeNumber?]
  split <;> simp_all [Option.map_map, Function.comp_def]

/-! ### Elements -/

theorem readElements_eq (item : Reader Json) (text : Text) : readElements item text =
    match item.run text with
    | none => none
    | some (value, rest) =>
      match skipSpace rest with
      | ',' :: more => (readElements item more).map fun found => (value :: found.1, found.2)
      | ']' :: more => some ([value], more)
      | _ => none := by
  rw [readElements]
  split
  · rename_i h
    simp only [h]
  · rename_i h
    simp only [h]
    split
    · rename_i hs
      simp only [hs]
    · rename_i hs
      simp only [hs]
    · rename_i hc hb
      split
      · rename_i more hs
        exact absurd hs (hc more)
      · rename_i more hs
        exact absurd hs (hb more)
      · rfl

theorem readElements_congr {item : Reader Json} {text text' : Text}
    (h : item.run text = item.run text') : readElements item text = readElements item text' := by
  rw [readElements_eq, readElements_eq, h]

/-- The first element is the value at the front. -/
theorem head?_of_readElements {item : Reader Json} {text rest : Text} {items : List Json}
    (h : readElements item text = some (items, rest)) :
    ∃ value behind, items.head? = some value ∧ item.run text = some (value, behind) := by
  rw [readElements_eq] at h
  split at h
  · cases h
  · rename_i value behind hr
    refine ⟨value, behind, ?_, hr⟩
    split at h
    · obtain ⟨found, -, he⟩ := Option.map_eq_some_iff.1 h
      cases he
      rfl
    · cases h
      rfl
    · cases h

variable (depth : Nat) {digits rest rest' : Text}

theorem run_digits (hd : IsDigits digits) (hr : Stops rest) :
    (reader convert depth).run (digits ++ rest) =
    (wholeNumber? convert digits).map fun n => (.number n, rest) := by
  obtain ⟨item?, hi⟩ := run_reader convert depth
  rw [hi]
  exact readValue_digits item? hd hr

/-- Behind an integer it counts only what follows the spaces. -/
theorem readElements_digits (hd : IsDigits digits) (hr : Stops rest) (hr' : Stops rest')
    (h : skipSpace rest = skipSpace rest') :
    readElements (reader convert depth) (digits ++ rest) =
      readElements (reader convert depth) (digits ++ rest') := by
  rw [readElements_eq, readElements_eq, run_digits depth hd hr, run_digits depth hd hr']
  cases wholeNumber? convert digits with
  | none => rfl
  | some n => simp only [Option.map_some, h]

/-- Behind an integer nothing but a comma or the end of the array may follow. -/
theorem readElements_digits_eq_none (hd : IsDigits digits) (hr : Stops rest) {c : Char}
    {more : Text} (h : skipSpace rest = c :: more) (hc : c ≠ ',') (hb : c ≠ ']') :
    readElements (reader convert depth) (digits ++ rest) = none := by
  rw [readElements_eq, run_digits depth hd hr]
  cases wholeNumber? convert digits with
  | none => rfl
  | some n =>
    simp only [Option.map_some, h]
    split
    · rename_i he
      exact absurd (List.cons.inj he).1 hc
    · rename_i he
      exact absurd (List.cons.inj he).1 hb
    · rfl

/-! ### Arrays -/

/-- Spaces in front of the first element make no difference. -/
theorem readArray_congr {text text' : Text} (h : skipSpace text = skipSpace text') :
    readArray (reader convert depth) text = readArray (reader convert depth) text' := by
  have hrun : (reader convert depth).run text = (reader convert depth).run text' := by
    obtain ⟨item?, hi⟩ := run_reader convert depth
    rw [hi, ← readValue_skipSpace, h, readValue_skipSpace]
  unfold readArray
  rw [h, readElements_congr hrun]

/-- An array whose content starts with another character than the closing bracket has elements. -/
theorem readArray_of_head {text : Text} {c : Char} {more : Text} (h : skipSpace text = c :: more)
    (hc : c ≠ ']') : readArray (reader convert depth) text =
      (readElements (reader convert depth) text).map fun found => (.array found.1, found.2) := by
  unfold readArray
  split
  · rename_i he
    rw [h] at he
    exact absurd (List.cons.inj he).1 hc
  · rfl

/-- A blank that is no space starts no element. -/
theorem readArray_of_blank {text : Text} {c : Char} {more : Text} (h : skipSpace text = c :: more)
    (hb : Text.isBlank c = true) (hs : isSpace c = false) :
    readArray (reader convert depth) text = none := by
  have hc : c ≠ ']' := by
    rintro rfl
    exact absurd hb (by decide)
  have hrun : (reader convert depth).run text = none := by
    obtain ⟨item?, hi⟩ := run_reader convert depth
    rw [hi, ← readValue_skipSpace, h]
    exact readValue_of_blank item? hb hs more
  rw [readArray_of_head depth h hc, readElements_eq, hrun]
  rfl

theorem readArray_digits (hd : IsDigits digits) :
    readArray (reader convert depth) (digits ++ rest) =
    (readElements (reader convert depth) (digits ++ rest)).map fun found =>
      (.array found.1, found.2) := by
  obtain ⟨c, more, rfl⟩ := List.exists_cons_of_ne_nil hd.1
  have hc := hd.2 c List.mem_cons_self
  refine readArray_of_head depth (skipSpace_cons (isSpace_of_isDigit hc) (more ++ rest)) ?_
  rintro rfl
  exact absurd hc (by decide)

/-- An array that starts with a word starts with null or a truth value. -/
theorem kind_of_readArray_word {c : Char} {text : Text} {items : List Json}
    (hw : Text.startsWord c = true)
    (h : readArray (reader convert depth) (c :: text) = some (.array items, rest)) :
    ∃ value, items.head? = some value ∧ (value.kind = .null ∨ value.kind = .boolean) := by
  have hs := isSpace_of_startsWord hw
  have hc : c ≠ ']' := by
    rintro rfl
    exact absurd hw (by decide)
  rw [readArray_of_head depth (skipSpace_cons hs text) hc] at h
  obtain ⟨found, he, hf⟩ := Option.map_eq_some_iff.1 h
  cases hf
  obtain ⟨value, behind, hv, hr⟩ := head?_of_readElements he
  obtain ⟨item?, hi⟩ := run_reader convert depth
  rw [hi] at hr
  exact ⟨value, hv, kind_of_readValue_word hw hr⟩

/-! ### Whole texts -/

/-- The value of a whole text, as its reading came to an end. -/
def whole? : Option (Json × Text) → Option Json
  | some (value, rest) => if (skipSpace rest).isEmpty then some value else none
  | none => none

theorem exists_of_whole? {found : Option (Json × Text)} {value : Json}
    (h : whole? found = some value) : ∃ rest, found = some (value, rest) := by
  cases found with
  | none => cases h
  | some found =>
    obtain ⟨value', rest⟩ := found
    unfold whole? at h
    dsimp only at h
    split at h
    · cases h
      exact ⟨rest, rfl⟩
    · cases h

namespace Dialect

variable {dialect : Dialect}

/-- **A text that starts with a bracket** is an array of values one level deeper, where there is
one. -/
theorem read?_bracket (h : dialect.depth = depth + 1) (text : Text) :
    dialect.read? ('[' :: text) = whole? (readArray (reader dialect.convert depth) text) := by
  unfold Dialect.read?
  rw [h]
  rfl

theorem read?_bracket_of_flat (h : dialect.depth = 0) (text : Text) :
    dialect.read? ('[' :: text) = none := by
  unfold Dialect.read?
  rw [h]
  rfl

/-- Brackets that are read alike at every level are the same JSON. -/
theorem read?_bracket_congr {text text' : Text}
    (h : ∀ depth, readArray (reader dialect.convert depth) text =
      readArray (reader dialect.convert depth) text') :
    dialect.read? ('[' :: text) = dialect.read? ('[' :: text') := by
  cases hd : dialect.depth with
  | zero => rw [read?_bracket_of_flat hd, read?_bracket_of_flat hd]
  | succ depth => rw [read?_bracket depth hd, read?_bracket depth hd, h depth]

/-- Brackets that are read at no level are no JSON. -/
theorem read?_bracket_eq_none {text : Text}
    (h : ∀ depth, readArray (reader dialect.convert depth) text = none) :
    dialect.read? ('[' :: text) = none := by
  cases hd : dialect.depth with
  | zero => exact read?_bracket_of_flat hd text
  | succ depth =>
    rw [read?_bracket depth hd, h depth]
    rfl

/-- A bracket that is read starts with an array. -/
theorem exists_readArray_of_read? {text : Text} {value : Json}
    (h : dialect.read? ('[' :: text) = some value) :
    ∃ depth rest, readArray (reader dialect.convert depth) text = some (value, rest) := by
  cases hd : dialect.depth with
  | zero =>
    rw [read?_bracket_of_flat hd] at h
    cases h
  | succ depth =>
    rw [read?_bracket depth hd] at h
    exact ⟨depth, exists_of_whole? h⟩

end Dialect
end Condition.Json
