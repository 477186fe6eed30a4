/-!
# Text

Every reader of this library looks at the front of what is left and takes some of it away, so text
is a list of characters. A position counts characters, except where a rule counts bytes of the UTF-8
form; `utf8Length` converts.
-/

namespace Condition

/-- Text, read from the front. -/
abbrev Text := List Char

namespace Text

-- Sums are those of core, whatever other instances are in scope.
attribute [local instance (high)] Zero.ofOfNat0

/-- The number of bytes of the UTF-8 form. -/
def utf8Length (text : Text) : Nat := (text.map Char.utf8Size).sum

theorem utf8Length_append (a b : Text) : utf8Length (a ++ b) = utf8Length a + utf8Length b := by
  simp [utf8Length]

/-- The text with the letters `a` to `z` in upper case; no other character changes. -/
def upper (text : Text) : Text := text.map Char.toUpper

/-- The characters that spell a number in base ten. -/
def ofNat (n : Nat) : Text := Nat.toDigits 10 n

/-- The parts in order, with the separator between neighbours. -/
def joined (separator : Text) (parts : List Text) : Text := separator.intercalate parts

/-- The number that decimal digits spell; a character that is no digit counts as some digit. -/
def digitsValue (digits : Text) : Nat :=
  digits.foldl (fun value digit => 10 * value + (digit.toNat - '0'.toNat)) 0

/-- The value of a hexadecimal digit. -/
def hexDigit? (c : Char) : Option Nat :=
  if c.isDigit then some (c.toNat - '0'.toNat)
  else if 'a' ≤ c ∧ c ≤ 'f' then some (c.toNat - 'a'.toNat + 10)
  else if 'A' ≤ c ∧ c ≤ 'F' then some (c.toNat - 'A'.toNat + 10)
  else none

/-- The text without the characters of a class at its two ends. -/
def trimmed (p : Char → Bool) (text : Text) : Text :=
  ((text.dropWhile p).reverse.dropWhile p).reverse

end Text
end Condition
