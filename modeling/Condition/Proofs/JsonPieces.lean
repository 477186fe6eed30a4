import Condition.Proofs.JsonArrays
import Condition.Proofs.Passages

/-! # Pieces of JSON texts

A string or a number is read from a piece of the text, and from the same piece wherever it stands,
as long as nothing goes on with a number behind it (`TakesPiece`). A bracket in such a piece is part
of a string, so a passage between brackets passes over it.

* `readString_eq_some`: a string ends where a passage takes its quote to be closed.
* `readNumber_eq_some`: a number is a numeral with a sign. -/

namespace Condition

/-! ### Texts in a quoted string -/

namespace Source

/-- **A text in a string** between double quotes: it does not close the string. -/
def KeepsOpen (text : Text) : Prop :=
  ∀ rest, closeQuote '"' (text ++ rest) =
    (closeQuote '"' rest).map fun found => (text ++ found.1, found.2)

theorem keepsOpen_nil : KeepsOpen [] := by
  intro rest
  rw [List.nil_append]
  cases closeQuote '"' rest <;> rfl

theorem KeepsOpen.append {text more : Text} (h : KeepsOpen text) (hm : KeepsOpen more) :
    KeepsOpen (text ++ more) := by
  intro rest
  rw [List.append_assoc, h, hm, Option.map_map]
  simp only [Function.comp_def, List.append_assoc]

theorem keepsOpen_singleton {c : Char} (hq : c ≠ '"') (hb : c ≠ '\\') : KeepsOpen [c] := by
  intro rest
  cases rest with
  | nil => simp only [List.append_nil, closeQuote, if_neg hq, Option.map_none]
  | cons d rest => simp only [List.singleton_append, closeQuote, if_neg hq, if_neg hb]

theorem KeepsOpen.cons {c : Char} {text : Text} (h : KeepsOpen text) (hq : c ≠ '"')
    (hb : c ≠ '\\') : KeepsOpen (c :: text) :=
  (keepsOpen_singleton hq hb).append h

/-- A backslash takes the character behind it along. -/
theorem KeepsOpen.escape {text : Text} (h : KeepsOpen text) (c : Char) :
    KeepsOpen ('\\' :: c :: text) := by
  have hescape : KeepsOpen ['\\', c] := fun _ => rfl
  exact hescape.append h

/-- The quote behind such a text closes the string. -/
theorem KeepsOpen.closeQuote_eq {text : Text} (h : KeepsOpen text) :
    closeQuote '"' (text ++ ['"']) = some (text ++ ['"'], []) := by
  rw [h]
  rfl

end Source

namespace Json

open Numeral Source

/-! ### Strings -/

theorem keepsOpen_hexDigits {digits : Text} (h : ∀ c ∈ digits, (Text.hexDigit? c).isSome = true) :
    KeepsOpen digits := by
  induction digits with
  | nil => exact keepsOpen_nil
  | cons c digits ih =>
    obtain ⟨hc, hd⟩ := List.forall_mem_cons.1 h
    refine (ih hd).cons ?_ ?_ <;> rintro rfl <;> exact absurd hc (by decide)

theorem readUnit_eq_some {text rest : Text} {unit : Nat} (h : readUnit text = some (unit, rest)) :
    ∃ piece, text = piece ++ rest ∧ KeepsOpen piece ∧
      ∀ more, readUnit (piece ++ more) = some (unit, more) := by
  unfold readUnit at h
  split at h
  · rename_i a b c d behind
    simp only [bind, Option.bind_eq_some_iff, pure, Option.some.injEq, Prod.mk.injEq] at h
    obtain ⟨i, ha, j, hb, k, hc, l, hd, rfl, rfl⟩ := h
    refine ⟨[a, b, c, d], rfl, keepsOpen_hexDigits ?_, fun more => ?_⟩
    · simp only [List.forall_mem_cons, ha, hb, hc, hd, Option.isSome_some, List.not_mem_nil,
        false_implies, implies_true, and_self]
    · simp only [List.cons_append, List.nil_append, readUnit, ha, hb, hc, hd]
      rfl
  · cases h

theorem readPair_eq_some {leading : Nat} {text rest : Text} {c : Char}
    (h : readPair leading text = some (c, rest)) :
    ∃ piece, text = piece ++ rest ∧ KeepsOpen piece ∧
      ∀ more, readPair leading (piece ++ more) = some (c, more) := by
  unfold readPair at h
  split at h
  · split at h
    · cases h
    · rename_i hu
      split at h
      · rename_i hc
        simp only [Option.some.injEq, Prod.mk.injEq] at h
        obtain ⟨rfl, rfl⟩ := h
        obtain ⟨piece, rfl, hopen, hread⟩ := readUnit_eq_some hu
        refine ⟨'\\' :: 'u' :: piece, rfl, hopen.escape 'u', fun more => ?_⟩
        simp only [List.cons_append, readPair, hread, if_pos hc]
      · cases h
  · cases h

theorem readCodePoint_eq_some {text rest : Text} {c : Char}
    (h : readCodePoint text = some (c, rest)) :
    ∃ piece, text = piece ++ rest ∧ KeepsOpen piece ∧
      ∀ more, readCodePoint (piece ++ more) = some (c, more) := by
  unfold readCodePoint at h
  split at h
  · cases h
  · rename_i hu
    obtain ⟨piece, rfl, hopen, hread⟩ := readUnit_eq_some hu
    split at h
    · rename_i hc
      cases h
      refine ⟨piece, rfl, hopen, fun more => ?_⟩
      simp only [readCodePoint, hread, if_pos hc]
    · rename_i hc
      split at h
      · rename_i hlead
        obtain ⟨second, rfl, hsecond, hpair⟩ := readPair_eq_some h
        refine ⟨piece ++ second, (List.append_assoc _ _ _).symm, hopen.append hsecond,
          fun more => ?_⟩
        simp only [List.append_assoc, readCodePoint, hread, if_neg hc, if_pos hlead, hpair]
      · cases h

/-- The backslash in front of an escape belongs to it. -/
theorem readEscape_eq_some {text rest : Text} {c : Char} (h : readEscape text = some (c, rest)) :
    ∃ piece, text = piece ++ rest ∧ KeepsOpen ('\\' :: piece) ∧
      ∀ more, readEscape (piece ++ more) = some (c, more) := by
  unfold readEscape at h
  split at h
  case h_9 =>
    obtain ⟨piece, rfl, hopen, hread⟩ := readCodePoint_eq_some h
    exact ⟨'u' :: piece, rfl, hopen.escape 'u', hread⟩
  case h_10 => cases h
  all_goals
    cases h
    exact ⟨[_], rfl, keepsOpen_nil.escape _, fun more => rfl⟩

theorem readString_quote (rest : Text) : readString ('"' :: rest) = some ([], rest) := by
  rw [readString, if_pos rfl]

theorem readString_escape {text more : Text} {c : Char} (h : readEscape text = some (c, more)) :
    readString ('\\' :: text) = (readString more).map fun found => (c :: found.1, found.2) := by
  rw [readString, if_neg (by decide), if_pos rfl]
  split
  · rename_i hnone
    rw [h] at hnone
    cases hnone
  · rename_i hsome
    rw [h] at hsome
    cases hsome
    rfl

theorem readString_char {c : Char} (hq : c ≠ '"') (hb : c ≠ '\\') (hs : ¬ c.toNat < 0x20)
    (rest : Text) :
    readString (c :: rest) = (readString rest).map fun found => (c :: found.1, found.2) := by
  rw [readString, if_neg hq, if_neg hb, if_neg hs]

/-- **A string** is closed by the first quote that no backslash takes along. -/
theorem readString_eq_some {text rest content : Text} (h : readString text = some (content, rest)) :
    ∃ body, text = body ++ '"' :: rest ∧ KeepsOpen body ∧
      ∀ more, readString (body ++ '"' :: more) = some (content, more) := by
  fun_induction readString text generalizing content with
  | case1 => cases h
  | case2 behind =>
    cases h
    exact ⟨[], rfl, keepsOpen_nil, readString_quote⟩
  | case3 => cases h
  | case4 behind d more he _ ih =>
    obtain ⟨found, hr, hf⟩ := Option.map_eq_some_iff.1 h
    cases hf
    obtain ⟨piece, rfl, hescape, hread⟩ := readEscape_eq_some he
    obtain ⟨body, rfl, hopen, hbody⟩ := ih hr
    refine ⟨'\\' :: piece ++ body, ?_, hescape.append hopen, fun more => ?_⟩
    · simp only [List.cons_append, List.append_assoc]
    · rw [List.append_assoc, List.cons_append, readString_escape (hread _), hbody]
      rfl
  | case5 => cases h
  | case6 c behind hq hb hs ih =>
    obtain ⟨found, hr, hf⟩ := Option.map_eq_some_iff.1 h
    cases hf
    obtain ⟨body, rfl, hopen, hbody⟩ := ih hr
    refine ⟨c :: body, rfl, hopen.cons hq hb, fun more => ?_⟩
    rw [List.cons_append, readString_char hq hb hs, hbody]
    rfl

/-! ### Pieces of a text -/

/-- The brackets in a text are closed in it, but for those in strings. -/
abbrev IsPassage (text : Text) : Prop := PassesOver '[' ']' text

/-- **A piece is taken** from the front of a text, and taken again in front of anything that does
not go on with a number. -/
def TakesPiece {α : Type} (read : Text → Option (α × Text)) (text : Text) (value : α)
    (rest : Text) : Prop :=
  ∃ piece, text = piece ++ rest ∧ IsPassage piece ∧
    ∀ more, Stops more → read (piece ++ more) = some (value, more)

theorem exists_spaces (text : Text) :
    ∃ spaces, (∀ c ∈ spaces, isSpace c = true) ∧ text = spaces ++ skipSpace text :=
  ⟨text.takeWhile isSpace, fun _ => Text.mem_takeWhile, List.takeWhile_append_dropWhile.symm⟩

/-- A text of one class of characters is a passage, if no quote and no bracket is in the class. -/
theorem isPassage_of_class {f : Char → Bool} {text : Text} (h : ∀ c ∈ text, f c = true)
    (hf : ['"', '\'', '[', ']'].any f = false) : IsPassage text :=
  passesOver_plain fun c hc => isPlain_of_class (h c hc) hf

theorem isPassage_spaces {spaces : Text} (h : ∀ c ∈ spaces, isSpace c = true) : IsPassage spaces :=
  isPassage_of_class h (by decide)

theorem stops_spaces {spaces text : Text} (h : ∀ c ∈ spaces, isSpace c = true) (ht : Stops text) :
    Stops (spaces ++ text) := by
  cases spaces with
  | nil => exact ht
  | cons c spaces =>
    exact stops_of_isBlank (isBlank_of_isSpace (h c List.mem_cons_self)) (spaces ++ text)

theorem stops_cons {c : Char} (hc : c.isDigit = false ∧ c ≠ '.' ∧ c ≠ 'e' ∧ c ≠ 'E') (text : Text) :
    Stops (c :: text) := by
  rintro d ⟨rfl⟩
  exact hc

/-- A string is a passage whatever is in it. -/
theorem isPassage_quoted {body : Text} (h : KeepsOpen body) : IsPassage ('"' :: (body ++ ['"'])) :=
  passesOver_quoted h.closeQuote_eq

/-! ### Numbers -/

theorem isPassage_numeral {n : Numeral} (h : n.WellFormed) : IsPassage n.spelling :=
  isPassage_of_class (fun _ => isMark_of_mem h) (by decide)

/-- The number of a numeral that was read, with a minus sign or not. -/
def numberOf (convert : Conversion) (negative : Bool) (found : Numeral × Text) :
    Option (Number × Text) :=
  match found.1.whole with
  | [] => none
  | '0' :: _ :: _ => none
  | _ => (convert negative found.1).map (·, found.2)

variable {convert : Conversion}

theorem numberOf_eq_some {negative : Bool} {n : Numeral} {rest rest' : Text} {number : Number}
    (h : numberOf convert negative (n, rest) = some (number, rest')) :
    rest' = rest ∧ n.whole ≠ [] ∧ ∀ more,
      numberOf convert negative (n, more) = some (number, more) := by
  unfold numberOf at h ⊢
  dsimp only at h ⊢
  split at h
  · cases h
  · cases h
  · rename_i hne hzero
    obtain ⟨found, hfound, he⟩ := Option.map_eq_some_iff.1 h
    cases he
    refine ⟨rfl, hne, fun more => ?_⟩
    rw [hfound]
    rfl

theorem readNumber_minus (body : Text) :
    readNumber convert ('-' :: body) = numberOf convert true (Numeral.read body) :=
  rfl

theorem readNumber_of_head {body : Text} (h : body.head? ≠ some '-') :
    readNumber convert body = numberOf convert false (Numeral.read body) := by
  have hneg : (body.head? == some '-') = false := beq_eq_false_iff_ne.2 h
  unfold readNumber
  rw [hneg]
  rfl

/-- **A numeral with a sign** is well-formed, has digits in front, and stands behind a minus sign or
not. -/
structure IsSigned (sign : Text) (n : Numeral) : Prop where
  sign : sign = [] ∨ sign = ['-']
  formed : n.WellFormed
  whole : n.whole ≠ []

variable {sign : Text} {n : Numeral}

/-- A numeral that has digits in front starts with one. -/
theorem IsSigned.exists_digit (h : IsSigned sign n) :
    ∃ c more, n.spelling = c :: more ∧ c.isDigit = true := by
  obtain ⟨c, whole, hc⟩ := List.exists_cons_of_ne_nil h.whole
  refine ⟨c, whole ++ (n.fraction.elim [] ('.' :: ·) ++ n.exponent.elim [] Exponent.spelling), ?_,
    h.formed.whole c (by rw [hc]; exact List.mem_cons_self)⟩
  rw [spelling, hc]
  rfl

theorem IsSigned.isPassage (h : IsSigned sign n) : IsPassage (sign ++ n.spelling) := by
  have hsign : IsPassage sign := by
    rcases h.sign with rfl | rfl
    · exact passesOver_nil
    · exact passesOver_singleton (by decide)
  exact hsign.append (isPassage_numeral h.formed)

/-- A numeral with a sign is read as a number, if it is read as a value. -/
theorem IsSigned.readValue_eq (h : IsSigned sign n) (item? : Option (Reader Json)) (more : Text) :
    readValue convert item? (sign ++ (n.spelling ++ more)) =
      (readNumber convert (sign ++ (n.spelling ++ more))).map fun found =>
        (.number found.1, found.2) := by
  obtain ⟨c, tail, hc, hd⟩ := h.exists_digit
  rcases h.sign with rfl | rfl
  · rw [List.nil_append, hc, List.cons_append]
    exact readValue_number item? (isSpace_of_isDigit hd) (notMem_of_class hd (by decide)) _
  · exact readValue_number item? (by decide) (by decide) _

/-- **A number** is a numeral with a sign. -/
theorem readNumber_eq_some {text rest : Text} {number : Number}
    (h : readNumber convert text = some (number, rest)) :
    ∃ (sign : Text) (n : Numeral), IsSigned sign n ∧
      text = sign ++ (n.spelling ++ rest) ∧
      ∀ more, Stops more → readNumber convert (sign ++ (n.spelling ++ more)) =
        some (number, more) := by
  obtain ⟨sign, body, negative, hsign, rfl, hbody, hread⟩ : ∃ (sign body : Text) (negative : Bool),
      (sign = [] ∨ sign = ['-']) ∧ text = sign ++ body ∧
      numberOf convert negative (Numeral.read body) = some (number, rest) ∧
      ∀ c more, c.isDigit = true →
        readNumber convert (sign ++ c :: more) =
          numberOf convert negative (Numeral.read (c :: more)) := by
    by_cases hm : text.head? = some '-'
    · obtain ⟨body, rfl⟩ := List.head?_eq_some_iff.1 hm
      exact ⟨['-'], body, true, .inr rfl, rfl, h, fun c more _ => readNumber_minus (c :: more)⟩
    · refine ⟨[], text, false, .inl rfl, rfl, readNumber_of_head hm ▸ h, fun c more hc => ?_⟩
      refine readNumber_of_head ?_
      rintro ⟨rfl⟩
      exact absurd hc (by decide)
  obtain ⟨n, behind, hn⟩ : ∃ n behind, Numeral.read body = (n, behind) := ⟨_, _, rfl⟩
  rw [hn] at hbody
  obtain ⟨rfl, hwhole, hmore⟩ := numberOf_eq_some hbody
  have hformed : n.WellFormed := by
    have h := wellFormed_read body
    rwa [hn] at h
  have hspelling : n.spelling ++ rest = body := by
    have h := read_spelling body
    rwa [hn] at h
  have hsigned : IsSigned sign n := ⟨hsign, hformed, hwhole⟩
  obtain ⟨c, tail, hc, hd⟩ := hsigned.exists_digit
  refine ⟨sign, n, hsigned, by rw [hspelling], fun more hs => ?_⟩
  have hagain := read_append hformed hs
  rw [hc, List.cons_append] at hagain ⊢
  rw [hread c _ hd, hagain]
  exact hmore more

end Json
end Condition
