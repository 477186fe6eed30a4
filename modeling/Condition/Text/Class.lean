import Condition.Text
import Condition.Unicode.Letter
import Condition.Unicode.Numeral
import Condition.Unicode.Mark
import Condition.Unicode.Printable

/-!
# Classes of characters

Blanks, letters and numerals are those of Unicode. Below U+0080 each class is a plain test, so
nothing about ASCII text depends on a table. A word (`startsWord`, `continuesWord`) is what an
identifier is made of: digits such as `²` and `٣` may continue a word, though only `0` to `9` are
digits of a number.
-/

namespace Condition.Text

/-- Whether a character has the property `White_Space`. -/
def isBlank (c : Char) : Bool :=
  let code := c.toNat
  (9 ≤ code && code ≤ 13) || code == 0x20 || code == 0x85 || code == 0xa0 || code == 0x1680 ||
    (0x2000 ≤ code && code ≤ 0x200a) || code == 0x2028 || code == 0x2029 || code == 0x202f ||
    code == 0x205f || code == 0x3000

/-- Whether a character has the property `Alphabetic`. -/
def isAlphabetic (c : Char) : Bool :=
  if c.toNat < 0x80 then c.isAlpha else Unicode.alphabeticRanges.covers c.toNat

/-- Whether a character is a numeral, of the general category `N`. -/
def isNumeral (c : Char) : Bool :=
  if c.toNat < 0x80 then c.isDigit else Unicode.numeralRanges.covers c.toNat

/-- Whether a character is alphabetic or a numeral. -/
def isAlphanumeric (c : Char) : Bool := isAlphabetic c || isNumeral c

/-- Whether a word may start with this character. -/
def startsWord (c : Char) : Bool := isAlphabetic c || c == '_'

/-- Whether this character may stand in a word behind its first character. -/
def continuesWord (c : Char) : Bool := isAlphanumeric c || c == '_'

theorem continuesWord_of_startsWord {c : Char} (h : startsWord c = true) :
    continuesWord c = true := by
  simp only [startsWord, continuesWord, isAlphanumeric, Bool.or_eq_true] at h ⊢
  rcases h with h | h <;> simp [h]

/-- Whether a character shows as itself in quoted text: it is no control, format, private,
unassigned or separating character and no filler, and does not attach to the character before it. -/
def isPrintable (c : Char) : Bool :=
  if c.toNat < 0x80 then 0x20 ≤ c.toNat && c.toNat < 0x7f
  else !(Unicode.attachingRanges.covers c.toNat || Unicode.unprintableRanges.covers c.toNat ||
    Unicode.fillerRanges.covers c.toNat)

end Condition.Text
