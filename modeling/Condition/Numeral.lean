import Condition.Text

/-!
# Numerals

A numeral is a run of digits, maybe a point with digits behind it, and maybe an exponent.
`Numeral.read` takes the longest numeral from the front of a text: a point or an `e` belongs to it
only where a digit follows as it must. `read_spelling` says that nothing is lost and nothing
altered.
-/

namespace Condition

/-- The exponent of a numeral as written: its mark `e` or `E`, a sign, and digits. -/
structure Numeral.Exponent where
  mark : Char
  sign : Option Char
  digits : Text
  deriving DecidableEq

/-- A numeral as written, without a sign in front. -/
structure Numeral where
  whole : Text
  fraction : Option Text
  exponent : Option Numeral.Exponent
  deriving DecidableEq

namespace Numeral

/-- The characters of an exponent. -/
def Exponent.spelling (e : Exponent) : Text := e.mark :: (e.sign.toList ++ e.digits)

/-- The characters of a numeral. -/
def spelling (n : Numeral) : Text :=
  n.whole ++ (n.fraction.elim [] ('.' :: ·) ++ n.exponent.elim [] Exponent.spelling)

/-- Whether the numeral is digits only. -/
def isWhole (n : Numeral) : Bool := n.fraction.isNone && n.exponent.isNone

/-- Whether a text begins with a digit. -/
def startsWithDigit : Text → Bool
  | [] => false
  | c :: _ => c.isDigit

/-- The fraction at the front, if a point and a digit stand there, and what follows. -/
def readFraction : Text → Option Text × Text
  | '.' :: rest =>
    if startsWithDigit rest then (some (rest.takeWhile Char.isDigit), rest.dropWhile Char.isDigit)
    else (none, '.' :: rest)
  | text => (none, text)

/-- The sign at the front, if there is one, and what follows. -/
def readSign : Text → Option Char × Text
  | '+' :: rest => (some '+', rest)
  | '-' :: rest => (some '-', rest)
  | text => (none, text)

/-- The exponent at the front, if its mark, maybe a sign, and a digit stand there, and what
follows. -/
def readExponent : Text → Option Exponent × Text
  | [] => (none, [])
  | mark :: rest =>
    if mark = 'e' ∨ mark = 'E' then
      let signed := readSign rest
      if startsWithDigit signed.2 then
        (some ⟨mark, signed.1, signed.2.takeWhile Char.isDigit⟩, signed.2.dropWhile Char.isDigit)
      else (none, mark :: rest)
    else (none, mark :: rest)

/-- The longest numeral at the front of a text, and what follows it. -/
def read (text : Text) : Numeral × Text :=
  let behindWhole := text.dropWhile Char.isDigit
  let fraction := readFraction behindWhole
  let exponent := readExponent fraction.2
  (⟨text.takeWhile Char.isDigit, fraction.1, exponent.1⟩, exponent.2)

theorem readFraction_spelling (text : Text) :
    (readFraction text).1.elim [] ('.' :: ·) ++ (readFraction text).2 = text := by
  unfold readFraction
  split
  · split <;> simp
  · simp

theorem readSign_spelling (text : Text) :
    (readSign text).1.toList ++ (readSign text).2 = text := by
  unfold readSign
  split <;> simp

theorem readExponent_spelling (text : Text) :
    (readExponent text).1.elim [] Exponent.spelling ++ (readExponent text).2 = text := by
  unfold readExponent
  split
  · simp
  · split
    · rename_i mark rest _
      have hs := readSign_spelling rest
      dsimp only
      split
      · simp only [Option.elim_some, Exponent.spelling, List.cons_append, List.append_assoc,
          List.takeWhile_append_dropWhile, hs]
      · simp
    · simp

theorem read_spelling (text : Text) : (read text).1.spelling ++ (read text).2 = text := by
  simp only [read, spelling, List.append_assoc, readExponent_spelling, readFraction_spelling,
    List.takeWhile_append_dropWhile]

/-- The digits of a numeral as one number, without the point. -/
def significand (n : Numeral) : Nat := Text.digitsValue (n.whole ++ n.fraction.getD [])

/-- The power of ten by which the significand counts. -/
def scale (n : Numeral) : Int :=
  let written : Int := match n.exponent with
    | none => 0
    | some e =>
      let size : Int := Text.digitsValue e.digits
      if e.sign = some '-' then -size else size
  written - (n.fraction.getD []).length

end Numeral
end Condition
