import Condition.Double.Shortest
import Condition.Json.Parser

/-!
# The numbers of JSON texts

A dialect of JSON to run the library with. A number without a point and an exponent is an integer if
it fits 64 bits, `-0` excepted. Any other number is a double: the leading digits that fit 64 bits
are rounded to one, and that is multiplied or divided by a power of ten, which rounds a second time.
So the double need not be the one nearest to the number; a number whose product is infinite is out
of range.
-/

namespace Condition

-- Powers are those of core, whatever other instances are in scope.
attribute [local instance (high)] instPowNat instNatPowNat

namespace Double

/-- The value of a finite magnitude, as a quotient of natural numbers. -/
def fraction (magnitude : Nat) : Nat × Nat :=
  let q := exponent magnitude
  (mantissa magnitude * 2 ^ q.toNat, 2 ^ (-q).toNat)

/-- The magnitude of the product of two finite magnitudes. -/
def times (a b : Nat) : Nat :=
  roundMagnitude ((fraction a).1 * (fraction b).1) ((fraction a).2 * (fraction b).2)

/-- The magnitude of the quotient of two finite magnitudes, the second one not zero. -/
def dividedBy (a b : Nat) : Nat :=
  roundMagnitude ((fraction a).1 * (fraction b).2) ((fraction a).2 * (fraction b).1)

/-- The magnitude of a power of ten. -/
def tenTo (power : Nat) : Nat := roundMagnitude (10 ^ power) 1

/-- The finite magnitude that comes of a significand and a power of ten, if one does. Below the
least power that has a double, the quotient is taken in two steps, and below the second it is
zero. -/
def scaledMagnitude? (significand : Nat) (scale : Int) : Option Nat :=
  let start := roundMagnitude significand 1
  if start = 0 then some 0
  else if 308 < scale then none
  else if 0 ≤ scale then
    let product := times start (tenTo scale.toNat)
    if product < infinityPattern then some product else none
  else if -308 ≤ scale then some (dividedBy start (tenTo (-scale).toNat))
  else if -616 ≤ scale then
    some (dividedBy (dividedBy start (tenTo 308)) (tenTo (-scale - 308).toNat))
  else some 0

end Double

namespace Json

/-- Puts digits behind a significand as long as it fits 64 bits; with the number of those put
there. -/
def takeDigits (significand taken : Nat) : Text → Nat × Nat
  | [] => (significand, taken)
  | digit :: rest =>
    let next := 10 * significand + (digit.toNat - '0'.toNat)
    if next < 2 ^ (64 : Nat) then takeDigits next (taken + 1) rest else (significand, taken)

/-- The number that a numeral becomes, with or without a minus sign in front, if it is in range. -/
def Number.ofNumeral? : Conversion := fun negative n =>
  let (whole, taken) := takeDigits 0 0 n.whole
  let dropped : Int := (n.whole.length : Int) - taken
  let asDouble (significand : Nat) (scale : Int) : Option Number :=
    (Double.scaledMagnitude? significand scale).map fun magnitude =>
      .double (Double.ofMagnitude negative magnitude)
  if n.isWhole && dropped == 0 then
    if !negative then some (.int whole)
    else if 0 < whole ∧ whole ≤ 2 ^ (63 : Nat) then some (.int (-whole))
    else asDouble whole 0
  else
    let (significand, places) := takeDigits whole 0 (n.fraction.getD [])
    let written : Int := n.scale + (n.fraction.getD []).length
    asDouble significand (written + dropped - places)

/-- The value that a whole text spells, with a limit on its depth. -/
def readWithin (depth : Nat) (text : Text) : Option Json :=
  Dialect.read? ⟨Number.ofNumeral?, depth⟩ text

/-- The parser that reads numbers this way, with arrays and objects in one another up to a depth of
127. -/
instance Parser.rounding : Parser := ⟨readWithin 127⟩

instance Parser.standard_rounding : Parser.Standard := ⟨_, fun _ => rfl⟩

end Json
end Condition
