import Condition.Text
import Condition.Unicode.CaseVariant
import Condition.Unicode.Letter
import Condition.Unicode.Mark
import Condition.Unicode.Numeral
import Condition.Unicode.Recent

/-!
# Sets of characters

A set of characters is the ascending list of its ranges of code points, where neighbours are fused:
a set has one such list, so equal sets are equal lists. The operations walk along the ranges of both
sides. Surrogates are no characters: they may lie inside a range, but no range starts or ends at
one.

The named sets are the properties and classes that a pattern can ask for.
-/

namespace Condition

/-- A set of characters. -/
structure CharSet where
  ranges : Unicode.Ranges
  deriving DecidableEq, Repr

namespace CharSet

/-! ### Ranges -/

/-- The greatest code point. -/
def lastCode : Nat := 0x10ffff

/-- The code point of the next character. -/
def codeAfter (code : Nat) : Nat := if code = 0xd7ff then 0xe000 else code + 1

/-- The code point of the character before. -/
def codeBefore (code : Nat) : Nat := if code = 0xe000 then 0xd7ff else code - 1

/-- Ranges in the order of their first members, with those that overlap or touch made one. -/
def fused : Unicode.Ranges → Unicode.Ranges
  | [] => []
  | [range] => [range]
  | a :: b :: rest =>
    if b.1 ≤ a.2 + 1 then fused ((a.1, max a.2 b.2) :: rest) else a :: fused (b :: rest)
termination_by ranges => ranges.length

/-- What two ascending lists of ranges have in common. -/
def shared : Unicode.Ranges → Unicode.Ranges → Unicode.Ranges
  | [], _ => []
  | _, [] => []
  | a :: as, b :: bs =>
    let rest := if a.2 < b.2 then shared as (b :: bs) else shared (a :: as) bs
    if max a.1 b.1 ≤ min a.2 b.2 then (max a.1 b.1, min a.2 b.2) :: rest else rest
termination_by as bs => as.length + bs.length

/-- What is left of an ascending list of ranges without those of another one. -/
def without : Unicode.Ranges → Unicode.Ranges → Unicode.Ranges
  | [], _ => []
  | as, [] => as
  | a :: as, b :: bs =>
    if b.2 < a.1 then without (a :: as) bs
    else if a.2 < b.1 then a :: without as (b :: bs)
    else
      let rest :=
        if b.2 < a.2 then without ((codeAfter b.2, a.2) :: as) bs else without as (b :: bs)
      if a.1 < b.1 then (a.1, codeBefore b.1) :: rest else rest
termination_by as bs => as.length + bs.length

/-! ### Sets -/

/-- The set of the characters in some ranges, in any order. -/
def ofRanges (ranges : Unicode.Ranges) : CharSet := ⟨fused (ranges.mergeSort fun a b => a.1 ≤ b.1)⟩

/-- Whether a character is in a set. -/
def contains (set : CharSet) (c : Char) : Bool := set.ranges.covers c.toNat

/-- The set without members. -/
def empty : CharSet := ⟨[]⟩

/-- The characters from one code point to another. -/
def range (first last : Nat) : CharSet := ⟨[(first, last)]⟩

/-- One character. -/
def single (c : Char) : CharSet := range c.toNat c.toNat

/-- Every character. -/
def all : CharSet := range 0 lastCode

/-- The only member of a set, if the set has exactly one. -/
def only? (set : CharSet) : Option Char :=
  match set.ranges with
  | [(first, last)] => if first = last then some (Char.ofNat first) else none
  | _ => none

/-- Whether every member is a character of ASCII. -/
def isAscii (set : CharSet) : Bool := set.ranges.all fun range => range.2 < 0x80

/-- All sets together. -/
def unions (sets : List CharSet) : CharSet := ofRanges (sets.flatMap ranges)

/-- The members of at least one of two sets. -/
def union (a b : CharSet) : CharSet := unions [a, b]

/-- The members of both sets. -/
def intersection (a b : CharSet) : CharSet := ⟨shared a.ranges b.ranges⟩

/-- The members of the first set that are not in the second. -/
def difference (a b : CharSet) : CharSet := ⟨without a.ranges b.ranges⟩

/-- The members of exactly one of two sets. -/
def symmetricDifference (a b : CharSet) : CharSet := (a.union b).difference (a.intersection b)

/-- The characters that are not in a set. -/
def complement (set : CharSet) : CharSet := all.difference set

/-! ### Case -/

/-- The case variants that patterns know, for each code point that has some, in ascending order. -/
def caseVariants : List (Nat × List Nat) :=
  let known (code : Nat) : Bool := !Unicode.recentRanges.covers code
  (Unicode.caseVariants.filter fun entry => known entry.1).map fun entry =>
    (entry.1, entry.2.filter known)

/-- The case variants among the letters of ASCII. -/
def asciiCaseVariants : List (Nat × List Nat) :=
  (caseVariants.takeWhile fun entry => entry.1 < 0x80).map fun entry =>
    (entry.1, entry.2.filter (· < 0x80))

/-- The variants that a table gives for the members of some ranges. -/
def variantsIn : List (Nat × List Nat) → Unicode.Ranges → List Nat
  | [], _ => []
  | _, [] => []
  | (code, variants) :: table, range :: ranges =>
    if code < range.1 then variantsIn table (range :: ranges)
    else if range.2 < code then variantsIn ((code, variants) :: table) ranges
    else variants ++ variantsIn table (range :: ranges)
termination_by table ranges => table.length + ranges.length

/-- A set with all variants that a table gives for its members. -/
def withVariants (table : List (Nat × List Nat)) (set : CharSet) : CharSet :=
  ofRanges (set.ranges ++ (variantsIn table set.ranges).map fun code => (code, code))

/-! ### Named sets -/

/-- The digits of ASCII. -/
def asciiDigits : Unicode.Ranges := [(0x30, 0x39)]

/-- The letters of ASCII. -/
def asciiLetters : Unicode.Ranges := [(0x41, 0x5a), (0x61, 0x7a)]

/-- A property, from its code points in ASCII and those beyond, as far as patterns know them. -/
def ofProperty (ascii beyond : Unicode.Ranges) : CharSet :=
  ofRanges (ascii ++ without beyond Unicode.recentRanges)

/-- The property `Alphabetic`. -/
def alphabetic : CharSet := ofProperty asciiLetters Unicode.alphabeticRanges

/-- Letters, the general category `L`. -/
def letters : CharSet := ofProperty asciiLetters Unicode.letterRanges

/-- Marks, the general category `M`. -/
def marks : CharSet := ofProperty [] Unicode.markRanges

/-- Numerals, the general category `N`. -/
def numerals : CharSet := ofProperty asciiDigits Unicode.numeralRanges

/-- Digits of decimal systems, the general category `Nd`. -/
def decimalDigits : CharSet := ofProperty asciiDigits Unicode.decimalDigitRanges

/-- Blanks, the property `White_Space`. -/
def blanks : CharSet :=
  ⟨[(0x9, 0xd), (0x20, 0x20), (0x85, 0x85), (0xa0, 0xa0), (0x1680, 0x1680), (0x2000, 0x200a),
    (0x2028, 0x2029), (0x202f, 0x202f), (0x205f, 0x205f), (0x3000, 0x3000)]⟩

/-- What joins words: punctuation of the general category `Pc`, and joiners. -/
def connectors : CharSet :=
  ⟨[(0x5f, 0x5f), (0x200c, 0x200d), (0x203f, 0x2040), (0x2054, 0x2054), (0xfe33, 0xfe34),
    (0xfe4d, 0xfe4f), (0xff3f, 0xff3f)]⟩

/-- What words are made of. -/
def wordChars : CharSet := unions [alphabetic, marks, decimalDigits, connectors]

/-- What words of ASCII are made of. -/
def asciiWordChars : CharSet := ofRanges (asciiDigits ++ asciiLetters ++ [(0x5f, 0x5f)])

/-- The set of the characters of ASCII with one of the names for classes in brackets. -/
def ofClassName? (name : Text) : Option CharSet :=
  match String.ofList name with
  | "alnum" => some (ofRanges (asciiDigits ++ asciiLetters))
  | "alpha" => some ⟨asciiLetters⟩
  | "ascii" => some (range 0 0x7f)
  | "blank" => some ⟨[(0x9, 0x9), (0x20, 0x20)]⟩
  | "cntrl" => some ⟨[(0, 0x1f), (0x7f, 0x7f)]⟩
  | "digit" => some ⟨asciiDigits⟩
  | "graph" => some (range 0x21 0x7e)
  | "lower" => some (range 0x61 0x7a)
  | "print" => some (range 0x20 0x7e)
  | "punct" => some ⟨[(0x21, 0x2f), (0x3a, 0x40), (0x5b, 0x60), (0x7b, 0x7e)]⟩
  | "space" => some ⟨[(0x9, 0xd), (0x20, 0x20)]⟩
  | "upper" => some (range 0x41 0x5a)
  | "word" => some asciiWordChars
  | "xdigit" => some ⟨[(0x30, 0x39), (0x41, 0x46), (0x61, 0x66)]⟩
  | _ => none

/-- The set of the characters with a named property; names are compared without their case and
without spaces, underscores and hyphens. -/
def ofPropertyName? (name : Text) : Option CharSet :=
  let plain := (name.filter fun c => c ≠ ' ' ∧ c ≠ '_' ∧ c ≠ '-').map Char.toLower
  match String.ofList plain with
  | "l" | "letter" => some letters
  | "m" | "mark" | "combiningmark" => some marks
  | "n" | "number" => some numerals
  | "nd" | "decimalnumber" | "digit" => some decimalDigits
  | "alphabetic" | "alpha" => some alphabetic
  | "whitespace" | "wspace" | "space" => some blanks
  | "any" => some all
  | "ascii" => some (range 0 0x7f)
  | _ => none

end CharSet
end Condition
