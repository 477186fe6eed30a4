import Condition.Text.Class

/-!
# Quoted text

How text is shown between double quotes: the quote and the backslash behind a backslash, the usual
short escapes for tab, line feed, carriage return and NUL, the code point in braces for any other
character that does not show as itself, and every other character as it is.
-/

namespace Condition.Text

/-- One character as it stands in quoted text. -/
def escaped (c : Char) : Text :=
  if c = '"' then ['\\', '"']
  else if c = '\\' then ['\\', '\\']
  else if c = '\t' then ['\\', 't']
  else if c = '\n' then ['\\', 'n']
  else if c = '\r' then ['\\', 'r']
  else if c.toNat = 0 then ['\\', '0']
  else if isPrintable c then [c]
  else ['\\', 'u', '{'] ++ Nat.toDigits 16 c.toNat ++ ['}']

/-- Text between double quotes. -/
def quoted (text : Text) : Text := '"' :: (text.flatMap escaped ++ ['"'])

end Condition.Text
