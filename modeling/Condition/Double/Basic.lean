/-!
# Doubles

A number of the language is a binary floating-point number of 64 bits. It is kept by its parts: a
sign and a magnitude, which is the bit pattern without the sign. Magnitudes are ordered as the
absolute values they stand for, so a comparison is one of integers (`Double.rank`): the two zeros
have the same rank, and what is not a number has none and compares with nothing.
-/

namespace Condition

/-- The magnitude of infinity. A finite magnitude is smaller. -/
def Double.infinityPattern : Nat := 0x7ff0000000000000

/-- A binary floating-point number of 64 bits; all patterns that are not a number are one. -/
inductive Double where
  | nan
  | signed (negative : Bool) (magnitude : Fin (Double.infinityPattern + 1))
  deriving DecidableEq, Repr

namespace Double

-- Powers are those of core, whatever other instances are in scope.
attribute [local instance (high)] instPowNat instNatPowNat

/-- The number with this magnitude, infinity if the magnitude lies beyond it. -/
def ofMagnitude (negative : Bool) (magnitude : Nat) : Double :=
  .signed negative ⟨min magnitude infinityPattern, by omega⟩

/-- Positive zero. -/
def zero : Double := ofMagnitude false 0

/-- The number with this bit pattern. -/
def ofBits (bits : Nat) : Double :=
  let magnitude := bits % 2 ^ (63 : Nat)
  if magnitude ≤ infinityPattern then ofMagnitude (bits ≥ 2 ^ (63 : Nat)) magnitude else .nan

/-- The bit pattern of a number, if it is one. -/
def bits? : Double → Option Nat
  | .nan => none
  | .signed negative magnitude =>
    some (if negative then 2 ^ (63 : Nat) + magnitude.val else magnitude.val)

/-- The place of a number among the numbers; `0` and `-0` share theirs. -/
def rank : Double → Option Int
  | .nan => none
  | .signed false magnitude => some magnitude.val
  | .signed true magnitude => some (-magnitude.val)

/-- Whether a number is neither infinite nor `nan`. -/
def isFinite : Double → Bool
  | .nan => false
  | .signed _ magnitude => magnitude.val < infinityPattern

/-- The same number with the other sign. -/
def negated : Double → Double
  | .nan => .nan
  | .signed negative magnitude => .signed (!negative) magnitude

/-- Whether two numbers have the same value. -/
def equals (a b : Double) : Bool :=
  match a.rank, b.rank with
  | some x, some y => x == y
  | _, _ => false

/-- Whether the first number is below the second. -/
def below (a b : Double) : Bool :=
  match a.rank, b.rank with
  | some x, some y => x < y
  | _, _ => false

/-- Whether the first number is below the second or has its value. -/
def atMost (a b : Double) : Bool :=
  match a.rank, b.rank with
  | some x, some y => x ≤ y
  | _, _ => false

end Double
end Condition
