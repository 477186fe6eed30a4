import Condition.Double.Basic
import Condition.Numeral

/-!
# Rounding to doubles

A quotient of natural numbers is rounded to the nearest magnitude, to the even one of two that are
equally near. Integers and numerals get their double this way. A magnitude with the exponent field
`f ≥ 1` and the fraction `g` stands for `(2 ^ 52 + g) * 2 ^ (f - 1075)`; hence the magnitude of
`m * 2 ^ q` with `m < 2 ^ 53` is `(q + 1074) * 2 ^ 52 + m`, for `q = -1074` as well as above, and a
mantissa that rounds up to `2 ^ 53` moves to the next exponent by itself.
-/

namespace Condition.Double

-- Powers are those of core, whatever other instances are in scope.
attribute [local instance (high)] instPowNat instNatPowNat

/-- The quotient of two natural numbers, rounded to the nearest, a half to the even neighbour. -/
def roundQuotient (num den : Nat) : Nat :=
  let quotient := num / den
  let twice := 2 * (num % den)
  if twice < den then quotient
  else if den < twice then quotient + 1
  else quotient + quotient % 2

/-- The greatest `e` with `2 ^ e ≤ num / den`, for positive numbers. -/
def floorLog2 (num den : Nat) : Int :=
  let e : Int := (num.log2 : Int) - den.log2
  let reached := if 0 ≤ e then den * 2 ^ e.toNat ≤ num else den ≤ num * 2 ^ (-e).toNat
  if reached then e else e - 1

/-- The magnitude nearest to the quotient of two natural numbers. -/
def roundMagnitude (num den : Nat) : Nat :=
  if num = 0 then 0
  else
    let q : Int := max (-1074) (floorLog2 num den - 52)
    let mantissa :=
      if 0 ≤ q then roundQuotient num (den * 2 ^ q.toNat)
      else roundQuotient (num * 2 ^ (-q).toNat) den
    (q + 1074).toNat * 2 ^ (52 : Nat) + mantissa

/-- The double nearest to an integer. -/
def ofInt (n : Int) : Double := ofMagnitude (n < 0) (roundMagnitude n.natAbs 1)

/-- The magnitude nearest to `significand * 10 ^ scale`. A scale far outside the range of the
doubles decides at once, so that no huge power is computed. -/
def decimalMagnitude (significand : Nat) (scale : Int) : Nat :=
  if significand = 0 then 0
  else if 400 < scale then infinityPattern
  else if scale + (significand.log2 / 3 + 1 : Nat) < -400 then 0
  else if 0 ≤ scale then roundMagnitude (significand * 10 ^ scale.toNat) 1
  else roundMagnitude significand (10 ^ (-scale).toNat)

/-- The double nearest to a numeral, with a sign. -/
def ofNumeral (negative : Bool) (n : Numeral) : Double :=
  ofMagnitude negative (decimalMagnitude n.significand n.scale)

/-- The double that a text spells: maybe a minus sign, then one numeral and nothing behind it. -/
def ofText? (text : Text) : Option Double :=
  let negative := text.head? == some '-'
  let (numeral, rest) := Numeral.read (if negative then text.tail else text)
  if numeral.whole.isEmpty || !rest.isEmpty then none else some (ofNumeral negative numeral)

/-- The double with the value of a binary floating-point number of 32 bits, given by its pattern.
Every such value is a double. -/
def ofSingleBits (bits : Nat) : Double :=
  let negative : Bool := bits / 2 ^ (31 : Nat) % 2 == 1
  let field := bits / 2 ^ (23 : Nat) % 2 ^ (8 : Nat)
  let fraction := bits % 2 ^ (23 : Nat)
  if field = 255 then if fraction = 0 then ofMagnitude negative infinityPattern else .nan
  else if field = 0 then ofMagnitude negative (roundMagnitude fraction (2 ^ (149 : Nat)))
  else ofMagnitude negative (roundMagnitude ((2 ^ (23 : Nat) + fraction) * 2 ^ field)
    (2 ^ (150 : Nat)))

end Condition.Double
