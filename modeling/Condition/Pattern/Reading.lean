import Condition.Pattern.Regex
import Condition.Text.Class

/-!
# Reading regular expressions

Expressions are written in the usual way: `.` and classes in brackets (with ranges, nested classes,
the operations `&&`, `--` and `~~`, and names such as `[:alpha:]`), the anchors `^ $ \A \z \b \B`,
the classes `\d \s \w \pL` and their complements, groups with or without a name, flags,
alternatives, and repetitions with or without bounds. There are no look-around assertions and no
references to groups. A repetition needs something to repeat, and a backslash in front of a letter
or digit needs a meaning.

Parts that stand in one another are counted as they are written (`Part.depth`), and may be no deeper
than `depthLimit`.

Each round of a reading takes at least one character away, so the length of the text bounds the
number of rounds, and open groups and classes are kept on lists.
-/

namespace Condition.Regex

-- Powers are those of core, whatever other instances are in scope.
attribute [local instance (high)] instPowNat instNatPowNat

/-- The flags that change how an expression is read or what it matches. -/
structure Flags where
  anyCase : Bool := false
  multiLine : Bool := false
  dotAll : Bool := false
  carriage : Bool := false
  unicode : Bool := true
  verbose : Bool := false
  swapGreed : Bool := false
  deriving DecidableEq

/-- How deep the parts of an expression may stand in one another. -/
def depthLimit : Nat := 250

/-- The text without blanks and comments at its front. -/
def skipComments (inComment : Bool) : Text → Text
  | [] => []
  | c :: rest =>
    if inComment then skipComments (c ≠ '\n') rest
    else if Text.isBlank c then skipComments false rest
    else if c = '#' then skipComments true rest
    else c :: rest

/-- The text without what does not count at its front: nothing, unless expressions are verbose. -/
def Flags.skip (flags : Flags) (text : Text) : Text :=
  if flags.verbose then skipComments false text else text

/-! ### Sets -/

/-- A set that is read with some flags, apart from its complement. -/
def Flags.cased (flags : Flags) (set : CharSet) : CharSet :=
  if !flags.anyCase then set
  else if flags.unicode then set.withVariants CharSet.caseVariants
  else set.withVariants CharSet.asciiCaseVariants

/-- The complement of a set where `negated`. Without Unicode a complement has bytes in it that are
no characters, and none is let through. -/
def Flags.negatedIf (flags : Flags) (negated : Bool) (set : CharSet) : Option CharSet :=
  if negated then if flags.unicode then some set.complement else none else some set

/-- The digits, blanks or word characters that a letter names. -/
def Flags.namedSet? (flags : Flags) (letter : Char) : Option CharSet :=
  if flags.unicode then
    match letter with
    | 'd' => some .decimalDigits
    | 's' => some .blanks
    | 'w' => some .wordChars
    | _ => none
  else
    match letter with
    | 'd' => CharSet.ofClassName? ['d', 'i', 'g', 'i', 't']
    | 's' => CharSet.ofClassName? ['s', 'p', 'a', 'c', 'e']
    | 'w' => some .asciiWordChars
    | _ => none

/-- The set that a point stands for. -/
def Flags.anyChar (flags : Flags) : Option CharSet :=
  if !flags.unicode then none
  else if flags.dotAll then some .all
  else if flags.carriage then some (CharSet.complement ⟨[(0xa, 0xa), (0xd, 0xd)]⟩)
  else some (CharSet.single '\n').complement

/-! ### Escapes -/

/-- What one piece of an expression or of a class is. -/
inductive Piece where
  | char (c : Char)
  | set (s : CharSet)
  | assertion (a : Assertion)

/-- The character with a code point, if there is one. -/
def charOf? (code : Nat) : Option Char := if code.isValidChar then some (Char.ofNat code) else none

/-- Hexadecimal digits up to the closing brace. -/
def readHexBrace (flags : Flags) : (fuel : Nat) → (value : Option Nat) → Text → Option (Char × Text)
  | 0, _, _ => none
  | fuel + 1, value, text =>
    match flags.skip text with
    | [] => none
    | '\x7d' :: rest => do
      let code ← value
      return (← charOf? code, flags.skip rest)
    | c :: rest => do
      let digit ← Text.hexDigit? c
      readHexBrace flags fuel (some (value.getD 0 * 16 + digit)) rest

/-- A fixed number of hexadecimal digits. -/
def readHexDigits (flags : Flags) : (count : Nat) → (value : Nat) → Text → Option (Char × Text)
  | 0, value, text => (charOf? value).map (·, text)
  | count + 1, value, text =>
    match text with
    | [] => none
    | c :: rest => do
      let digit ← Text.hexDigit? c
      readHexDigits flags count (value * 16 + digit) (flags.skip rest)

/-- A code point behind `\x`, `\u` or `\U`, which stand for two, four and eight digits. -/
def readHex (flags : Flags) (count : Nat) (text : Text) : Option (Char × Text) :=
  match flags.skip text with
  | [] => none
  | '\x7b' :: rest => readHexBrace flags (rest.length + 1) none rest
  | text => readHexDigits flags count 0 text

/-- The name of a property behind `\p` or `\P`: one letter, or a name in braces. -/
def readPropertyName (flags : Flags) (text : Text) : Option (Text × Text) :=
  match flags.skip text with
  | [] => none
  | '\x7b' :: rest =>
    match rest.dropWhile (· ≠ '\x7d') with
    | [] => none
    | _ :: behind => some (rest.takeWhile (· ≠ '\x7d'), behind)
  | '\\' :: _ => none
  | c :: rest => some ([c], rest)

/-- Whether a character may stand in the name of a boundary. -/
def isBoundaryChar (c : Char) : Bool := c.isAlpha || c == '-'

/-- A boundary in braces behind `\b`: none if the braces can only be bounds of a repetition. -/
def readBoundary (flags : Flags) (text : Text) : Option (WordEdge × Text) :=
  match text with
  | '\x7b' :: rest =>
    match flags.skip rest with
    | [] => none
    | c :: behind =>
      if isBoundaryChar c then
        let name := (c :: behind).takeWhile isBoundaryChar
        match flags.skip ((c :: behind).dropWhile isBoundaryChar) with
        | '\x7d' :: rest =>
          match String.ofList name with
          | "start" => some (.start, rest)
          | "end" => some (.finish, rest)
          | "start-half" => some (.startHalf, rest)
          | "end-half" => some (.finishHalf, rest)
          | _ => none
        | _ => none
      else some (.boundary, text)
  | _ => some (.boundary, text)

/-- The control character that a letter stands for behind a backslash. -/
def controlChar? : Char → Option Char
  | 'a' => some '\x07'
  | 'f' => some '\x0c'
  | 't' => some '\t'
  | 'n' => some '\n'
  | 'r' => some '\r'
  | 'v' => some '\x0b'
  | _ => none

/-- Whether a character stands for itself behind a backslash: any of ASCII but letters, digits and
the angles. -/
def isEscapable (c : Char) : Bool :=
  c.toNat < 0x80 && !c.isAlphanum && c != '<' && c != '>'

/-- An assertion about words. -/
def Flags.wordEdge (flags : Flags) (edge : WordEdge) : Piece :=
  .assertion (.word edge !flags.unicode)

/-- The character that two hexadecimal digits behind `\x` stand for; without Unicode they stand for
a byte, and only the bytes of ASCII are characters. -/
def readShortHex (flags : Flags) (text : Text) : Option (Char × Text) := do
  let (c, rest) ← readHex flags 2 text
  let inBraces := (flags.skip text).head? == some '\x7b'
  if flags.unicode || inBraces || c.toNat < 0x80 then return (c, rest) else none

/-- What an escape stands for, behind the backslash. -/
def readEscape (flags : Flags) : Text → Option (Piece × Text)
  | [] => none
  | c :: rest =>
    if isEscapable c then some (.char c, rest)
    else match controlChar? c with
    | some control => some (.char control, rest)
    | none =>
      match c with
      | 'x' => (readShortHex flags rest).map fun found => (.char found.1, found.2)
      | 'u' => (readHex flags 4 rest).map fun found => (.char found.1, found.2)
      | 'U' => (readHex flags 8 rest).map fun found => (.char found.1, found.2)
      | 'd' | 's' | 'w' => (flags.namedSet? c).map fun set => (.set set, rest)
      | 'D' | 'S' | 'W' => do
        let set ← flags.namedSet? c.toLower
        return (.set (← flags.negatedIf true set), rest)
      | 'p' | 'P' => do
        let (name, behind) ← readPropertyName flags rest
        let set ← CharSet.ofPropertyName? name
        if flags.unicode then
          return (.set (← flags.negatedIf (c == 'P') (flags.cased set)), behind)
        else none
      | 'A' => some (.assertion .textStart, rest)
      | 'z' => some (.assertion .textEnd, rest)
      | 'b' => (readBoundary flags rest).map fun found => (flags.wordEdge found.1, found.2)
      | 'B' => some (flags.wordEdge .noBoundary, rest)
      | '<' => some (flags.wordEdge .start, rest)
      | '>' => some (flags.wordEdge .finish, rest)
      | _ => none

/-! ### Classes in brackets -/

/-- An operation between two classes. -/
inductive ClassOperation where
  | intersection
  | difference
  | symmetricDifference

/-- What an operation makes of two sets. -/
def ClassOperation.apply : ClassOperation → CharSet → CharSet → CharSet
  | .intersection, a, b => a.intersection b
  | .difference, a, b => a.difference b
  | .symmetricDifference, a, b => a.symmetricDifference b

/-- A part of a class, with how deep brackets, operations and lists of items stand in one
another. -/
structure ClassPart where
  set : CharSet
  depth : Nat

/-- A part if it is not too deep. -/
def ClassPart.checked (part : ClassPart) : Option ClassPart :=
  if part.depth ≤ depthLimit then some part else none

/-- The items of a class together; a list of items counts as one level. -/
def ClassPart.ofItems : List ClassPart → ClassPart
  | [] => ⟨.empty, 0⟩
  | [item] => item
  | items => ⟨.unions (items.map set), (items.map depth).foldl max 0 + 1⟩

/-- An open class: whether it is negated, the operation that waits for its right side with its left
side, and the items of the class around it. -/
structure OpenClass where
  negated : Bool
  pending : Option (ClassOperation × ClassPart)
  outer : List ClassPart

/-- What the items since the last operation complete. -/
def OpenClass.complete (flags : Flags) (cls : OpenClass) (items : List ClassPart) :
    Option ClassPart :=
  let right := ClassPart.ofItems items
  match cls.pending with
  | none => right.checked
  | some (operation, left) =>
    ClassPart.checked ⟨operation.apply (flags.cased left.set) (flags.cased right.set),
      max left.depth right.depth + 1⟩

/-- The class that a closing bracket ends. -/
def OpenClass.close (flags : Flags) (cls : OpenClass) (items : List ClassPart) :
    Option ClassPart := do
  let whole ← cls.complete flags items
  let set ← flags.negatedIf cls.negated (flags.cased whole.set)
  ClassPart.checked ⟨set, whole.depth + 1⟩

/-- An item of a class: a character or a set. Without Unicode, only characters of ASCII are let
through. -/
def readItem (flags : Flags) (text : Text) : Option (Piece × Text) := do
  let (piece, rest) ← match text with
    | [] => none
    | '\\' :: rest => readEscape flags rest
    | c :: rest => some (.char c, rest)
  match piece with
  | .char c => if flags.unicode || c.toNat < 0x80 then return (piece, rest) else none
  | _ => return (piece, rest)

/-- The character of a piece. -/
def Piece.char? : Piece → Option Char
  | .char c => some c
  | _ => none

/-- The set of a piece; an assertion is none. -/
def Piece.set? : Piece → Option CharSet
  | .char c => some (.single c)
  | .set s => some s
  | .assertion _ => none

/-- An item of a class or a range between two. A hyphen in front of the closing bracket or of
another hyphen makes no range. -/
def readRange (flags : Flags) (text : Text) : Option (CharSet × Text) := do
  let (first, rest) ← readItem flags text
  match flags.skip rest with
  | [] => none
  | '-' :: behind =>
    match flags.skip behind with
    | [] => none
    | c :: more =>
      if c = ']' ∨ c = '-' then return (← first.set?, '-' :: behind)
      else do
        let (last, rest) ← readItem flags (c :: more)
        let a ← first.char?
        let b ← last.char?
        if a ≤ b then return (CharSet.range a.toNat b.toNat, rest) else none
  | rest => return (← first.set?, rest)

/-- The class that has its name in a bracket, behind the bracket: `:alpha:]` and so on, with a sign
in front of the name where the class is negated. -/
def readClassName (text : Text) : Option ((Bool × CharSet) × Text) :=
  match text with
  | ':' :: rest =>
    let negated := rest.head? == some '^'
    let body := if negated then rest.tail else rest
    match body.dropWhile (· ≠ ':') with
    | ':' :: ']' :: behind =>
      (CharSet.ofClassName? (body.takeWhile (· ≠ ':'))).map fun named => ((negated, named), behind)
    | _ => none
  | _ => none

/-- The hyphens at the front of a class, which stand for themselves. -/
def readHyphens (flags : Flags) (fuel : Nat) (items : List ClassPart) (text : Text) :
    List ClassPart × Text :=
  match fuel, text with
  | fuel + 1, '-' :: rest => readHyphens flags fuel (⟨.single '-', 0⟩ :: items) (flags.skip rest)
  | _, text => (items, text)

/-- The start of a class behind its opening bracket: whether it is negated, and its first items. A
closing bracket at the very front stands for itself. -/
def readClassStart (flags : Flags) (fuel : Nat) (text : Text) : Bool × List ClassPart × Text :=
  let start := flags.skip text
  let negated := start.head? == some '^'
  let body := if negated then flags.skip start.tail else start
  match readHyphens flags fuel [] body with
  | ([], ']' :: rest) => (negated, [⟨.single ']', 0⟩], flags.skip rest)
  | (items, rest) => (negated, items, rest)

/-- The rest of a class: `items` were read since the last operation or bracket, and the classes
around it are open. -/
def readClass (flags : Flags) : (fuel : Nat) → OpenClass → List OpenClass → List ClassPart → Text →
    Option (ClassPart × Text)
  | 0, _, _, _, _ => none
  | fuel + 1, cls, outer, items, text =>
    let operate (operation : ClassOperation) (rest : Text) := do
      let left ← cls.complete flags items
      readClass flags fuel { cls with pending := some (operation, left) } outer [] rest
    match flags.skip text with
    | [] => none
    | '[' :: rest =>
      match readClassName rest with
      | some ((negated, named), behind) => do
        let chars ← flags.negatedIf negated (flags.cased named)
        readClass flags fuel cls outer (⟨chars, 0⟩ :: items) behind
      | none =>
        let (negated, first, behind) := readClassStart flags fuel rest
        if outer.length + 2 ≤ depthLimit then
          readClass flags fuel ⟨negated, none, items⟩ (cls :: outer) first behind
        else none
    | ']' :: rest => do
      let whole ← cls.close flags items
      match outer with
      | [] => return (whole, rest)
      | enclosing :: outer => readClass flags fuel enclosing outer (whole :: cls.outer) rest
    | '&' :: '&' :: rest => operate .intersection rest
    | '-' :: '-' :: rest => operate .difference rest
    | '~' :: '~' :: rest => operate .symmetricDifference rest
    | text => do
      let (chars, rest) ← readRange flags text
      readClass flags fuel cls outer (⟨chars, 0⟩ :: items) rest

/-- A class behind its opening bracket. -/
def readBracket (flags : Flags) (fuel : Nat) (text : Text) : Option (ClassPart × Text) :=
  let (negated, first, rest) := readClassStart flags fuel text
  readClass flags fuel ⟨negated, none, []⟩ [] first rest

/-! ### Repetitions -/

/-- Digits with nothing in between that counts, and the text behind them. -/
def readDigits (flags : Flags) : (fuel : Nat) → Text → Text × Text
  | fuel + 1, c :: rest =>
    if c.isDigit then
      let found := readDigits flags fuel (flags.skip rest)
      (c :: found.1, found.2)
    else ([], c :: rest)
  | _, rest => ([], rest)

/-- Digits with blanks around them. -/
def readCount (flags : Flags) (fuel : Nat) (text : Text) : Text × Text :=
  let found := readDigits flags fuel (text.dropWhile Text.isBlank)
  (found.1, found.2.dropWhile Text.isBlank)

/-- The number that a count spells, if it has digits and fits 32 bits. -/
def countOf? (digits : Text) : Option Nat :=
  let n := Text.digitsValue digits
  if digits.isEmpty ∨ 2 ^ (32 : Nat) ≤ n then none else some n

/-- The bounds of a repetition behind the opening brace. -/
def readBounds (flags : Flags) (fuel : Nat) (text : Text) : Option ((Nat × Option Nat) × Text) := do
  let (least, rest) := readCount flags fuel (flags.skip text)
  let least ← countOf? least
  match rest with
  | '\x7d' :: rest => return ((least, some least), flags.skip rest)
  | ',' :: rest =>
    match flags.skip rest with
    | '\x7d' :: rest => return ((least, none), flags.skip rest)
    | rest =>
      let (most, rest) := readCount flags fuel rest
      let most ← countOf? most
      match rest with
      | '\x7d' :: rest =>
        if least ≤ most then return ((least, some most), flags.skip rest) else none
      | _ => none
  | _ => none

/-- Whether a repetition is reluctant, and the text behind the mark that says so, if there is
one. -/
def readReluctance (flags : Flags) : Text → Bool × Text
  | '?' :: rest => (!flags.swapGreed, rest)
  | text => (flags.swapGreed, text)

/-! ### Groups -/

/-- The flags that a letter sets. -/
def Flags.withLetter? (flags : Flags) (on : Bool) : Char → Option Flags
  | 'i' => some { flags with anyCase := on }
  | 'm' => some { flags with multiLine := on }
  | 's' => some { flags with dotAll := on }
  | 'R' => some { flags with carriage := on }
  | 'u' => some { flags with unicode := on }
  | 'x' => some { flags with verbose := on }
  | 'U' => some { flags with swapGreed := on }
  | _ => none

/-- The letters of flags up to a colon or a closing parenthesis, which stays. No letter may come
twice, and a minus sign needs a letter behind it. -/
def readFlags (flags : Flags) (on : Bool) (seen : Text) : Text → Option (Flags × Text × Text)
  | [] => none
  | c :: rest =>
    if c = ':' ∨ c = ')' then if seen.head? = some '-' then none else some (flags, seen, c :: rest)
    else if seen.contains c then none
    else if c = '-' then readFlags flags false (c :: seen) rest
    else (flags.withLetter? on c).bind fun flags => readFlags flags on (c :: seen) rest

/-- Whether a character may stand in the name of a group. -/
def isNameChar (first : Bool) (c : Char) : Bool :=
  if first then Text.startsWord c
  else Text.isAlphanumeric c || c == '_' || c == '.' || c == '[' || c == ']'

/-- The name of a group up to its closing angle. -/
def readGroupName (text : Text) : Option (Text × Text) :=
  let name := text.takeWhile (· ≠ '>')
  match name, text.dropWhile (· ≠ '>') with
  | first :: others, _ :: rest =>
    if isNameChar true first && others.all (isNameChar false) then some (name, rest) else none
  | _, _ => none

/-- How a group starts. -/
inductive GroupStart where
  | plain
  | named (name : Text)
  | flagged (flags : Flags)
  | flagsOnly (flags : Flags)

/-- The start of a group behind its opening parenthesis. -/
def readGroupStart (flags : Flags) (text : Text) : Option (GroupStart × Text) :=
  match flags.skip text with
  | '?' :: '=' :: _ => none
  | '?' :: '!' :: _ => none
  | '?' :: '<' :: '=' :: _ => none
  | '?' :: '<' :: '!' :: _ => none
  | '?' :: 'P' :: '<' :: rest => (readGroupName rest).map fun found => (.named found.1, found.2)
  | '?' :: '<' :: rest => (readGroupName rest).map fun found => (.named found.1, found.2)
  | '?' :: rest => do
    let (flags, seen, behind) ← readFlags flags true [] rest
    match behind with
    | ')' :: rest => if seen.isEmpty then none else return (.flagsOnly flags, rest)
    | _ :: rest => return (.flagged flags, rest)
    | [] => none
  | rest => some (.plain, rest)

/-! ### Expressions -/

/-- A part of an expression, with how deep its parts stand in one another as they are written. -/
structure Part where
  regex : Regex
  depth : Nat

/-- Two or more parts count as one level. -/
def Part.combined (combine : List Regex → Regex) : List Part → Part
  | [] => ⟨.empty, 0⟩
  | [part] => part
  | parts => ⟨combine (parts.map regex), (parts.map depth).foldl max 0 + 1⟩

/-- What was read in the group at hand: the parts of the last branch, where `none` is a setting of
flags, and the branches in front of it; the last one comes first in both. -/
structure Level where
  parts : List (Option Part)
  branches : List Part

/-- A group in which nothing was read. -/
def Level.empty : Level := ⟨[], []⟩

/-- The last branch. A setting of flags is a part of it. -/
def Level.branch (level : Level) : Part :=
  Part.combined ofParts (level.parts.reverse.map fun part => part.getD ⟨.empty, 0⟩)

/-- The expression of a group. -/
def Level.whole (level : Level) : Part :=
  Part.combined ofBranches (level.branch :: level.branches).reverse

/-- The group with another part. -/
def Level.withPart (level : Level) (part : Part) : Level :=
  { level with parts := some part :: level.parts }

/-- The group with its last part repeated, if it ends in a part that is not too deep. -/
def Level.repeated? (level : Level) (least : Nat) (most : Option Nat) (reluctant : Bool) :
    Option Level :=
  match level.parts with
  | some part :: rest =>
    if part.depth < depthLimit then
      let repeated := part.regex.repeated least most reluctant
      some { level with parts := some ⟨repeated, part.depth + 1⟩ :: rest }
    else none
  | _ => none

/-- A group that is open: the flags around it, what was read around it, and its number, if it
captures. -/
structure OpenGroup where
  flags : Flags
  around : Level
  index : Option Nat

/-- What is read around a group once the group is closed. -/
def OpenGroup.close (group : OpenGroup) (inside : Level) : Level :=
  let whole := inside.whole
  let regex := match group.index with
    | some index => .capture index whole.regex
    | none => whole.regex
  group.around.withPart ⟨regex, whole.depth + 1⟩

/-- The expression of a piece. -/
def Flags.regexOf (flags : Flags) : Piece → Regex
  | .char c => ofSet (flags.cased (.single c))
  | .set s => ofSet s
  | .assertion a => .assertion a

/-- The start of a line or of the text. -/
def Flags.startAnchor (flags : Flags) : Assertion :=
  if !flags.multiLine then .textStart
  else if flags.carriage then .carriageLineStart
  else .lineStart

/-- The end of a line or of the text. -/
def Flags.endAnchor (flags : Flags) : Assertion :=
  if !flags.multiLine then .textEnd else if flags.carriage then .carriageLineEnd else .lineEnd

/-- The groups that were met: how many capture, and the names that were given. -/
structure Met where
  captures : Nat
  names : List Text

/-- The rest of an expression, inside open groups. -/
def readRest : (fuel : Nat) → Flags → Met → List OpenGroup → Level → Text → Option Part
  | 0, _, _, _, _, _ => none
  | fuel + 1, flags, met, outer, level, text =>
    let proceed (level : Level) (rest : Text) := readRest fuel flags met outer level rest
    let single (regex : Regex) (rest : Text) := proceed (level.withPart ⟨regex, 0⟩) rest
    let repeated (least : Nat) (most : Option Nat) (rest : Text) := do
      let (reluctant, rest) := readReluctance flags rest
      proceed (← level.repeated? least most reluctant) rest
    match flags.skip text with
    | [] => if outer.isEmpty then some level.whole else none
    | '(' :: rest => do
      let (start, behind) ← readGroupStart flags rest
      let enter (inner : Flags) (met : Met) (index : Option Nat) :=
        if outer.length < depthLimit then
          readRest fuel inner met (⟨flags, level, index⟩ :: outer) .empty behind
        else none
      let next := met.captures + 1
      match start with
      | .plain => enter flags { met with captures := next } (some next)
      | .named name =>
        if met.names.contains name then none else enter flags ⟨next, name :: met.names⟩ (some next)
      | .flagged inner => enter inner met none
      | .flagsOnly changed =>
        readRest fuel changed met outer { level with parts := none :: level.parts } behind
    | ')' :: rest =>
      match outer with
      | [] => none
      | group :: outer => readRest fuel group.flags met outer (group.close level) rest
    | '|' :: rest => proceed ⟨[], level.branch :: level.branches⟩ rest
    | '[' :: rest => do
      let (cls, behind) ← readBracket flags fuel rest
      proceed (level.withPart ⟨ofSet cls.set, cls.depth⟩) behind
    | '?' :: rest => repeated 0 (some 1) rest
    | '*' :: rest => repeated 0 none rest
    | '+' :: rest => repeated 1 none rest
    | '\x7b' :: rest => do
      let ((least, most), behind) ← readBounds flags fuel rest
      repeated least most behind
    | '.' :: rest => do single (ofSet (← flags.anyChar)) rest
    | '^' :: rest => single (.assertion flags.startAnchor) rest
    | '$' :: rest => single (.assertion flags.endAnchor) rest
    | '\\' :: rest => do
      let (piece, behind) ← readEscape flags rest
      single (flags.regexOf piece) behind
    | c :: rest => single (flags.regexOf (.char c)) rest

/-- The expression that a text spells. -/
def ofText? (text : Text) : Option Regex := do
  let whole ← readRest (text.length + 1) {} ⟨0, []⟩ [] .empty text
  if whole.depth ≤ depthLimit then return whole.regex else none

end Condition.Regex
