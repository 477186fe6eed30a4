import Condition.Double.Rounding

/-! # Numerals that are read again

A numeral that was read is well-formed (`wellFormed_read`), and its spelling reads as the same
numeral wherever what follows does not go on with it.

* `read_append`: the numeral in front of a text that stops it.
* `ofText?_isSome_of_isNumber`, `ofText?_ne_nan`: a number, maybe with a minus sign, spells a
  double. -/

namespace Condition

/-! ### Runs of characters -/

namespace Text

/-- A run of characters of a class ends where the class does. -/
theorem takeWhile_append_stop {f : Char → Bool} {run rest : Text} (h : ∀ c ∈ run, f c = true)
    (hr : ∀ c, rest.head? = some c → f c = false) :
    (run ++ rest).takeWhile f = run ∧ (run ++ rest).dropWhile f = rest := by
  rw [List.takeWhile_append_of_pos h, List.dropWhile_append_of_pos h]
  cases rest with
  | nil => simp
  | cons c rest => simp [hr c rfl]

theorem head?_dropWhile_eq_false {f : Char → Bool} {text : Text} {c : Char}
    (h : (text.dropWhile f).head? = some c) : f c = false := by
  have hn := List.head?_dropWhile_not f text
  rw [h] at hn
  simpa using hn

theorem mem_takeWhile {f : Char → Bool} {text : Text} {c : Char} (h : c ∈ text.takeWhile f) :
    f c = true :=
  List.all_eq_true.1 List.all_takeWhile c h

end Text

namespace Numeral

/-! ### Digits -/

/-- One digit or more, and nothing else. -/
def IsDigits (text : Text) : Prop := text ≠ [] ∧ ∀ c ∈ text, c.isDigit = true

theorem startsWithDigit_append {digits : Text} (h : IsDigits digits) (rest : Text) :
    startsWithDigit (digits ++ rest) = true := by
  obtain ⟨hne, hd⟩ := h
  cases digits with
  | nil => exact absurd rfl hne
  | cons c digits => exact hd c List.mem_cons_self

theorem isDigits_takeWhile {text : Text} (h : startsWithDigit text = true) :
    IsDigits (text.takeWhile Char.isDigit) := by
  refine ⟨?_, fun _ => Text.mem_takeWhile⟩
  cases text with
  | nil => cases h
  | cons c text => simp [show c.isDigit = true from h]

/-- Digits end where no digit follows. -/
theorem digits_append {digits rest : Text} (h : ∀ c ∈ digits, c.isDigit = true)
    (hr : startsWithDigit rest = false) : (digits ++ rest).takeWhile Char.isDigit = digits ∧
      (digits ++ rest).dropWhile Char.isDigit = rest := by
  refine Text.takeWhile_append_stop h fun c hc => ?_
  obtain ⟨more, rfl⟩ := List.head?_eq_some_iff.1 hc
  exact hr

/-! ### What is read is well-formed -/

/-- An exponent has its mark, a sign or none, and digits. -/
structure Exponent.WellFormed (e : Exponent) : Prop where
  mark : e.mark = 'e' ∨ e.mark = 'E'
  sign : e.sign = none ∨ e.sign = some '+' ∨ e.sign = some '-'
  digits : IsDigits e.digits

/-- A numeral has digits in its parts; only those in front of the point may be missing. -/
structure WellFormed (n : Numeral) : Prop where
  whole : ∀ c ∈ n.whole, c.isDigit = true
  fraction : ∀ digits, n.fraction = some digits → IsDigits digits
  exponent : ∀ e, n.exponent = some e → e.WellFormed

theorem isDigits_readFraction {text digits : Text} (h : (readFraction text).1 = some digits) :
    IsDigits digits := by
  unfold readFraction at h
  split at h
  · split at h
    · rename_i hd
      cases h
      exact isDigits_takeWhile hd
    · cases h
  · cases h

theorem readSign_cases (text : Text) :
    (readSign text).1 = none ∨ (readSign text).1 = some '+' ∨ (readSign text).1 = some '-' := by
  unfold readSign
  split
  · exact .inr (.inl rfl)
  · exact .inr (.inr rfl)
  · exact .inl rfl

theorem wellFormed_readExponent {text : Text} {e : Exponent} (h : (readExponent text).1 = some e) :
    e.WellFormed := by
  unfold readExponent at h
  split at h
  · cases h
  · rename_i mark rest
    split at h
    · rename_i hm
      dsimp only at h
      split at h
      · rename_i hd
        cases h
        exact ⟨hm, readSign_cases rest, isDigits_takeWhile hd⟩
      · cases h
    · cases h

theorem wellFormed_read (text : Text) : (read text).1.WellFormed :=
  ⟨fun _ => Text.mem_takeWhile, fun _ h => isDigits_readFraction h,
    fun _ h => wellFormed_readExponent h⟩

/-- The characters of numerals. -/
def isMark (c : Char) : Bool := c.isDigit || ['.', 'e', 'E', '+', '-'].contains c

theorem isMark_of_isDigit {c : Char} (h : c.isDigit = true) : isMark c = true := by
  rw [isMark, h, Bool.true_or]

theorem isMark_of_mem_exponent {e : Exponent} (h : e.WellFormed) {c : Char} (hc : c ∈ e.spelling) :
    isMark c = true := by
  simp only [Exponent.spelling, List.mem_cons, List.mem_append, Option.mem_toList] at hc
  rcases hc with rfl | hc | hc
  · rcases h.mark with hm | hm <;> rw [hm] <;> rfl
  · rcases h.sign with hs | hs | hs <;> rw [hs] at hc <;> cases hc <;> rfl
  · exact isMark_of_isDigit (h.digits.2 c hc)

theorem isMark_of_mem {n : Numeral} (h : n.WellFormed) {c : Char} (hc : c ∈ n.spelling) :
    isMark c = true := by
  simp only [spelling, List.mem_append] at hc
  rcases hc with hc | hc | hc
  · exact isMark_of_isDigit (h.whole c hc)
  · cases hf : n.fraction with
    | none =>
      rw [hf] at hc
      cases hc
    | some digits =>
      rw [hf] at hc
      rcases List.mem_cons.1 hc with rfl | hc
      · rfl
      · exact isMark_of_isDigit ((h.fraction digits hf).2 c hc)
  · cases he : n.exponent with
    | none =>
      rw [he] at hc
      cases hc
    | some e =>
      rw [he] at hc
      exact isMark_of_mem_exponent (h.exponent e he) hc

/-! ### Reading what was spelled -/

/-- A text that does not go on with a numeral. -/
def Stops (text : Text) : Prop :=
  ∀ c ∈ text.head?, c.isDigit = false ∧ c ≠ '.' ∧ c ≠ 'e' ∧ c ≠ 'E'

theorem stops_nil : Stops [] := by
  intro c hc
  cases hc

theorem Stops.startsWithDigit {text : Text} (h : Stops text) : startsWithDigit text = false := by
  cases text with
  | nil => rfl
  | cons c text => exact (h c rfl).1

theorem readSign_append {sign : Option Char} {digits : Text}
    (hs : sign = none ∨ sign = some '+' ∨ sign = some '-') (hd : IsDigits digits) (rest : Text) :
    readSign (sign.toList ++ (digits ++ rest)) = (sign, digits ++ rest) := by
  rcases hs with rfl | rfl | rfl
  · obtain ⟨d, more, rfl⟩ := List.exists_cons_of_ne_nil hd.1
    have hdigit := hd.2 d List.mem_cons_self
    unfold readSign
    split
    · rename_i he
      rw [(List.cons.inj he).1] at hdigit
      exact absurd hdigit (by decide)
    · rename_i he
      rw [(List.cons.inj he).1] at hdigit
      exact absurd hdigit (by decide)
    · rfl
  · rfl
  · rfl

theorem readExponent_append {exponent : Option Exponent} {rest : Text}
    (h : ∀ e, exponent = some e → e.WellFormed) (hr : Stops rest) :
    readExponent (exponent.elim [] Exponent.spelling ++ rest) = (exponent, rest) := by
  cases exponent with
  | none =>
    cases rest with
    | nil => rfl
    | cons c rest =>
      obtain ⟨-, -, he, hE⟩ := hr c rfl
      simp [readExponent, he, hE]
  | some e =>
    obtain ⟨mark, sign, digits⟩ := e
    obtain ⟨hm, hs, hd⟩ := h _ rfl
    dsimp only at hm hs hd
    have hsign := readSign_append hs hd rest
    simp only [Option.elim_some, Exponent.spelling, List.cons_append, List.append_assoc,
      readExponent, if_pos hm, hsign, startsWithDigit_append hd, if_true,
      digits_append hd.2 hr.startsWithDigit]

/-- In front of an exponent, and where there is none, a fraction ends. -/
theorem startsWithDigit_exponent {exponent : Option Exponent} {rest : Text}
    (h : ∀ e, exponent = some e → e.WellFormed) (hr : Stops rest) :
    startsWithDigit (exponent.elim [] Exponent.spelling ++ rest) = false := by
  cases exponent with
  | none => exact hr.startsWithDigit
  | some e =>
    rcases (h e rfl).mark with hm | hm <;>
      simp [Exponent.spelling, startsWithDigit, hm]

theorem readFraction_append {fraction : Option Text} {exponent : Option Exponent} {rest : Text}
    (hf : ∀ digits, fraction = some digits → IsDigits digits)
    (he : ∀ e, exponent = some e → e.WellFormed) (hr : Stops rest) :
    readFraction (fraction.elim [] ('.' :: ·) ++ (exponent.elim [] Exponent.spelling ++ rest)) =
      (fraction, exponent.elim [] Exponent.spelling ++ rest) := by
  have hd := startsWithDigit_exponent he hr
  cases fraction with
  | some digits =>
    have hdigits := hf digits rfl
    simp only [Option.elim_some, List.cons_append, readFraction, startsWithDigit_append hdigits,
      if_true, digits_append hdigits.2 hd]
  | none =>
    -- Without a fraction no point stands there.
    have hpoint : ∀ text, exponent.elim [] Exponent.spelling ++ rest ≠ '.' :: text := by
      intro text h
      cases exponent with
      | none =>
        have h : rest = '.' :: text := h
        subst h
        exact (hr '.' rfl).2.1 rfl
      | some e =>
        have hm : e.mark = '.' := (List.cons.inj h).1
        rcases (he e rfl).mark with h | h <;> rw [h] at hm <;> exact absurd hm (by decide)
    simp only [Option.elim_none, List.nil_append]
    unfold readFraction
    split
    · exact absurd (by assumption) (hpoint _)
    · rfl

theorem startsWithDigit_fraction {n : Numeral} {rest : Text} (h : n.WellFormed) (hr : Stops rest) :
    startsWithDigit (n.fraction.elim [] ('.' :: ·) ++
      (n.exponent.elim [] Exponent.spelling ++ rest)) = false := by
  cases hf : n.fraction with
  | none => exact startsWithDigit_exponent h.exponent hr
  | some digits => rfl

/-- **A numeral is read again** in front of a text that does not go on with it. -/
theorem read_append {n : Numeral} {rest : Text} (h : n.WellFormed) (hr : Stops rest) :
    read (n.spelling ++ rest) = (n, rest) := by
  have hd := startsWithDigit_fraction h hr
  simp only [read, spelling, List.append_assoc, digits_append h.whole hd,
    readFraction_append h.fraction h.exponent hr, readExponent_append h.exponent hr]

theorem read_spelling_eq {n : Numeral} (h : n.WellFormed) : read n.spelling = (n, []) := by
  have := read_append h stops_nil
  rwa [List.append_nil] at this

/-! ### The doubles of numerals -/

/-- The text of a numeral that starts with a digit. -/
def IsText (text : Text) : Prop := ∃ n : Numeral, n.WellFormed ∧ n.whole ≠ [] ∧ text = n.spelling

theorem isText_read {c : Char} {rest : Text} (h : c.isDigit = true) :
    IsText (read (c :: rest)).1.spelling :=
  ⟨_, wellFormed_read _, by simp [read, h], rfl⟩

theorem ofText?_isSome {text : Text} (h : IsText text) :
    (Double.ofText? text).isSome = true ∧ (Double.ofText? ('-' :: text)).isSome = true := by
  obtain ⟨n, hn, hne, rfl⟩ := h
  have hhead : n.spelling.head? ≠ some '-' := by
    obtain ⟨c, whole, hw⟩ := List.exists_cons_of_ne_nil hne
    have hc := hn.whole c (by rw [hw]; exact List.mem_cons_self)
    intro h
    simp only [spelling, hw, List.cons_append, List.head?_cons, Option.some.injEq] at h
    rw [h] at hc
    exact absurd hc (by decide)
  constructor
  · simp [Double.ofText?, hhead, read_spelling_eq hn, hne]
  · simp [Double.ofText?, read_spelling_eq hn, hne]

/-- **The texts of numbers**: a numeral that starts with a digit, or a minus sign and such a numeral
without another one in its exponent. -/
inductive IsNumber : Text → Prop where
  | unsigned {n : Numeral} (h : n.WellFormed) (hw : n.whole ≠ []) : IsNumber n.spelling
  | negative {n : Numeral} (h : n.WellFormed) (hw : n.whole ≠ [])
    (he : ∀ e, n.exponent = some e → e.sign ≠ some '-') : IsNumber ('-' :: n.spelling)

theorem ofText?_isSome_of_isNumber {text : Text} (h : IsNumber text) :
    (Double.ofText? text).isSome = true := by
  cases h with
  | unsigned h hw => exact (ofText?_isSome ⟨_, h, hw, rfl⟩).1
  | negative h hw => exact (ofText?_isSome ⟨_, h, hw, rfl⟩).2

theorem ofText?_ne_nan {text : Text} {d : Double} (h : Double.ofText? text = some d) :
    d ≠ .nan := by
  simp only [Double.ofText?, Option.ite_none_left_eq_some, Option.some.injEq] at h
  rw [← h.2]
  nofun

end Numeral
end Condition
