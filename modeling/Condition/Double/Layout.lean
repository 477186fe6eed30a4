import Condition.Double.Shortest

/-!
# How a double is written

Two layouts of the shortest digits. `plain` never has an exponent and writes a whole number without
a point; it is used for a number that stands alone. `listed` keeps a zero behind the point of a
whole number and turns to an exponent from `10 ^ 16` on and below `10 ^ -4`; it is used inside a
list.
-/

namespace Condition.Double

/-- A decimal without an exponent. -/
def Decimal.positional (d : Decimal) : Text :=
  if d.point ≤ 0 then
    ['0', '.'] ++ List.replicate (-d.point).toNat '0' ++ d.digits
  else
    let places := d.point.toNat
    let whole := d.digits.take places ++ List.replicate (places - d.digits.length) '0'
    match d.digits.drop places with
    | [] => whole
    | fraction => whole ++ ['.'] ++ fraction

/-- A decimal with one digit in front of the point and an exponent. -/
def Decimal.scientific (d : Decimal) : Text :=
  let power := d.point - 1
  let exponent := (if power < 0 then ['-'] else []) ++ Text.ofNat power.natAbs
  match d.digits with
  | [] => ['0', 'e', '0']
  | [digit] => digit :: 'e' :: exponent
  | digit :: rest => digit :: '.' :: (rest ++ 'e' :: exponent)

/-- A double with its sign, the magnitude written by the given layout of positive finite values and
zero as given. -/
def layout (zeroForm : Text) (finite : Decimal → Text) : Double → Text
  | .nan => ['N', 'a', 'N']
  | .signed negative magnitude =>
    let size :=
      if magnitude.val = infinityPattern then ['i', 'n', 'f']
      else if magnitude.val = 0 then zeroForm
      else finite (shortest magnitude.val)
    if negative then '-' :: size else size

/-- A number that stands alone: `1`, `0.1`, `-0`, and `1` with twenty-one zeros for `10 ^ 21`. -/
def plain : Double → Text := layout ['0'] Decimal.positional

/-- A number in a list: `1.0`, `-0.0`, `1e16`, `1e-7`. -/
def listed : Double → Text :=
  layout ['0', '.', '0'] fun d =>
    if 16 < d.point ∨ d.point ≤ -4 then d.scientific
    else
      let text := d.positional
      if d.digits.length ≤ d.point.toNat then text ++ ['.', '0'] else text

end Condition.Double
