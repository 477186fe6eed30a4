import Condition.Json.Numbers
import Condition.Pattern.Automata
import Condition.Proofs.OpenGroups
import Condition.Proofs.TokenTexts
import Condition.Query.Path.Basic

/-! # Number tokens

A number token is a numeral, maybe behind a minus sign (`IsNumber`), so it always spells a double,
and no reading of a condition fails over one. And a numeral is never split: where a token starts,
the longest numeral that stands there is the token (`IsLongest`).

* `length_read_le`: no numeral at the front of a text is longer than the one that is read.
* `begins_number`: the longest numeral is a token.
* `rules_spelled`: what the readings of conditions know of numbers.
* `number_tokens`: every number token, every call on a text, and every longest numeral. -/

namespace Condition

/-! ### The longest numeral -/

namespace Numeral

/-- **The longest numeral** at the front of a text. -/
structure IsLongest (run text : Text) : Prop where
  isText : IsText run
  isPrefix : run <+: text
  longest : ∀ other, IsText other → other <+: text → other.length ≤ run.length

theorem length_readFraction_le (text : Text) : (readFraction text).2.length ≤ text.length := by
  have h := congrArg List.length (readFraction_spelling text)
  rw [List.length_append] at h
  omega

theorem length_readExponent_le (text : Text) : (readExponent text).2.length ≤ text.length := by
  have h := congrArg List.length (readExponent_spelling text)
  rw [List.length_append] at h
  omega

variable {n : Numeral} {rest : Text}

/-- Neither a digit nor a point starts an exponent. -/
theorem exponent_head {e : Exponent} (h : e.WellFormed) (rest : Text) :
    (e.spelling ++ rest).dropWhile Char.isDigit = e.spelling ++ rest ∧
      readFraction (e.spelling ++ rest) = (none, e.spelling ++ rest) := by
  rcases h.mark with hm | hm <;> simp [Exponent.spelling, readFraction, hm]

/-- An exponent at the front is read, and maybe digits behind it. -/
theorem length_readExponent_exponent {e : Exponent} (h : e.WellFormed) (rest : Text) :
    (readExponent (e.spelling ++ rest)).2.length ≤ rest.length := by
  have hsign := readSign_append h.sign h.digits rest
  simp only [Exponent.spelling, List.cons_append, List.append_assoc, readExponent,
    if_pos h.mark, hsign,
    startsWithDigit_append h.digits, if_true, List.dropWhile_append_of_pos h.digits.2]
  exact (List.dropWhile_sublist _).length_le

/-- Behind the digits of a numeral and its fraction its exponent is left, or no more than what
follows it. -/
theorem behind_fraction (h : n.WellFormed) (rest : Text) :
    (readFraction ((n.spelling ++ rest).dropWhile Char.isDigit)).2 =
        n.exponent.elim [] Exponent.spelling ++ rest ∨
      n.exponent = none ∧
        (readFraction ((n.spelling ++ rest).dropWhile Char.isDigit)).2.length ≤ rest.length := by
  obtain ⟨whole, fraction, exponent⟩ := n
  obtain ⟨hwhole, hfraction, hexponent⟩ := h
  dsimp only at hwhole hfraction hexponent
  simp only [spelling, List.append_assoc, List.dropWhile_append_of_pos hwhole]
  cases fraction with
  | none =>
    cases exponent with
    | none =>
      exact .inr ⟨rfl, Nat.le_trans (length_readFraction_le _) (List.dropWhile_sublist _).length_le⟩
    | some e =>
      obtain ⟨hdigits, hpoint⟩ := exponent_head (hexponent e rfl) rest
      refine .inl ?_
      simp only [Option.elim_none, Option.elim_some, List.nil_append, hdigits, hpoint]
  | some digits =>
    have hd := hfraction digits rfl
    have hpoint : ∀ behind, readFraction (('.' :: (digits ++ behind)).dropWhile Char.isDigit) =
        ((digits ++ behind).takeWhile Char.isDigit, behind.dropWhile Char.isDigit).map some id := by
      intro behind
      rw [List.dropWhile_cons_of_neg (by decide), readFraction,
        if_pos (startsWithDigit_append hd behind), List.dropWhile_append_of_pos hd.2]
      rfl
    simp only [Option.elim_some, List.cons_append, hpoint]
    cases exponent with
    | none => exact .inr ⟨rfl, (List.dropWhile_sublist _).length_le⟩
    | some e => exact .inl (exponent_head (hexponent e rfl) rest).1

/-- **No numeral at the front** is longer than the one that is read. -/
theorem length_read_le (h : n.WellFormed) (rest : Text) :
    (read (n.spelling ++ rest)).2.length ≤ rest.length := by
  change (readExponent (readFraction ((n.spelling ++ rest).dropWhile Char.isDigit)).2).2.length ≤ _
  rcases behind_fraction h rest with hb | ⟨-, hle⟩
  · rw [hb]
    cases he : n.exponent with
    | none => exact length_readExponent_le rest
    | some e => exact length_readExponent_exponent (h.exponent e he) rest
  · exact Nat.le_trans (length_readExponent_le _) hle

/-- What is read at a digit is the longest numeral there. -/
theorem isLongest_read {c : Char} {text : Text} (h : c.isDigit = true) :
    IsLongest (read (c :: text)).1.spelling (c :: text) := by
  refine ⟨isText_read h, ⟨_, read_spelling _⟩, ?_⟩
  rintro other ⟨n, hn, -, rfl⟩ ⟨rest, hrest⟩
  have hread := congrArg List.length (read_spelling (c :: text))
  have hother := congrArg List.length hrest
  have hle := length_read_le hn rest
  rw [hrest] at hle
  rw [List.length_append] at hread hother
  omega

/-- **The longest numeral** is what is read. -/
theorem IsLongest.eq_read {run text : Text} (h : IsLongest run text) :
    ∃ c behind, text = c :: behind ∧ c.isDigit = true ∧ run = (read text).1.spelling := by
  obtain ⟨n, hn, hne, rfl⟩ := h.isText
  obtain ⟨rest, rfl⟩ := h.isPrefix
  obtain ⟨c, whole, hw⟩ := List.exists_cons_of_ne_nil hne
  have hc : c.isDigit = true := hn.whole c (by rw [hw]; exact List.mem_cons_self)
  obtain ⟨behind, hs⟩ : ∃ behind, n.spelling = c :: behind := ⟨_, by rw [spelling, hw]; rfl⟩
  refine ⟨c, behind ++ rest, by rw [hs]; rfl, hc, ?_⟩
  -- two numerals in front of one text, neither of them longer than the other
  have hread : IsLongest (read (n.spelling ++ rest)).1.spelling (n.spelling ++ rest) := by
    rw [hs]
    exact isLongest_read hc
  have hlength : n.spelling.length = (read (n.spelling ++ rest)).1.spelling.length :=
    Nat.le_antisymm (hread.longest _ h.isText h.isPrefix) (h.longest _ hread.isText hread.isPrefix)
  exact (List.prefix_of_prefix_length_le h.isPrefix hread.isPrefix
    (Nat.le_of_eq hlength)).eq_of_length hlength

end Numeral

/-! ### Numerals are taken whole -/

open Numeral Lookahead

theorem Source.cut_of_isLongest {text run rest : Text} (h : IsLongest run text)
    (ht : text = run ++ rest) :
    ∃ kind, (kind = .integer ∨ kind = .decimal) ∧ Cut text kind run rest := by
  obtain ⟨c, behind, rfl, hc, hrun⟩ := h.eq_read
  have hrest : rest = (Numeral.read (c :: behind)).2 := by
    have hread := read_spelling (c :: behind)
    rw [← hrun] at hread
    exact List.append_cancel_left (ht.symm.trans hread.symm)
  rw [hrest, hrun]
  cases hw : (Numeral.read (c :: behind)).1.isWhole with
  | true => exact ⟨.integer, .inl rfl, .integer hc hw⟩
  | false => exact ⟨.decimal, .inr rfl, .decimal hc hw⟩

namespace Token

/-- The longest numeral behind blanks is a lexeme. -/
theorem take_longest {s : Lookahead} {text run rest : Text} (hs : StandsAt s text)
    (ht : text.dropWhile Text.isBlank = run ++ rest)
    (h : IsLongest run (text.dropWhile Text.isBlank)) :
    ∃ lexeme left, take s = .ok lexeme left ∧ lexeme.isNumber = true ∧ lexeme.text = run ∧
      StandsAt left rest := by
  obtain ⟨kind, hk, hc⟩ := Source.cut_of_isLongest h ht
  obtain ⟨lexeme, left, hl, rfl, htext, hleft⟩ := hs.exists_take hc
  refine ⟨lexeme, left, hl, ?_, htext, hleft⟩
  rcases hk with hk | hk <;> rw [Lexeme.isNumber, hk] <;> rfl

/-- **The longest numeral** behind blanks is a token. -/
theorem begins_number {text run rest : Text} (ht : text.dropWhile Text.isBlank = run ++ rest)
    (h : IsLongest run (text.dropWhile Text.isBlank)) : Begins text (.number run) rest := by
  obtain ⟨kind, hk, hc⟩ := Source.cut_of_isLongest h ht
  refine begins_of_piece hc fun first hkind htext => ?_
  rcases hk with rfl | rfl <;> simp only [startingWith, hkind, htext]

/-! ### Number tokens are numerals -/

/-- **A number token** has the text of one. -/
theorem isNumber_of_next {text number : Text} {s left : Lookahead} {position : Nat}
    (hs : Reached text s)
    (hn : next s = .ok (.number number, position) left) : IsNumber number := by
  have hholds : HoldsNumeral s := kept_holdsNumeral.of_reached (by rintro lexeme ⟨⟩) hs
  exact hholds.isNumber hn

end Token

/-! ### The numbers of a tree -/

namespace Expr

open Token

section

variable [Pattern.Engine] {Q : Type} {settings : Settings Q}

/-- The numbers that are operands in an expression. -/
def numberOperands : Expr Q → List Double
  | .binary _ left right => numberOperands left ++ numberOperands right
  | .group inner => numberOperands inner
  | .number d => [d]
  | _ => []

theorem numberOperands_insert (p : Precedence) (tree right : Expr Q) (op : Operator) :
    numberOperands (tree.insert p op right) = numberOperands tree ++ numberOperands right :=
  join_insert List.append_assoc (fun _ _ _ => rfl) p tree op right

theorem numberOperands_asRightOperand (op : Operator) (e : Expr Q) :
    numberOperands (asRightOperand op e) = numberOperands e :=
  eq_of_asRightOperand (fun _ => rfl) op e

/-- Only a number token stands for a number. -/
theorem IsLeaf.numberOperands_cases [Json.Parser] {token : Token} {e : Expr Q}
    (h : IsLeaf settings token e) :
    (∃ text d, token = .number text ∧ Double.ofText? text = some d ∧ numberOperands e = [d]) ∨
      numberOperands e = [] := by
  cases h with
  | number h => exact .inl ⟨_, _, rfl, h, rfl⟩
  | array h => rcases ofPayload_cases h with ⟨_, rfl⟩ | ⟨_, rfl⟩ <;> exact .inr rfl
  | _ => exact .inr rfl

/-- The numbers of an expression are doubles that numerals spell. -/
def Spelled (tree : Expr Q) : Prop :=
  ∀ d ∈ numberOperands tree, ∃ text, IsNumber text ∧ Double.ofText? text = some d

theorem Spelled.ne_nan {tree : Expr Q} (h : Spelled tree) :
    ∀ d ∈ numberOperands tree, d ≠ .nan := by
  intro d hd
  obtain ⟨text, -, ht⟩ := h d hd
  exact ofText?_ne_nan ht

variable [Json.Parser]

/-- **From one token to the trees**: a number token is no cause of an error, and the numbers of a
tree are those of number tokens. -/
theorem rules_spelled (text : Text) : Rules settings (Reached text) (Reached text) Spelled
    (fun cause => (∀ number, cause ≠ .invalidNumber number) ∧
      ∀ tree, cause.partialTree? = some tree → Spelled tree) where
  lexical hs hn := ⟨⟨nofun, nofun⟩, .failed hs hn⟩
  behind := fun ⟨_, _, hs, hn⟩ => .next hs hn
  takes := fun ⟨_, _, hs, hn⟩ _ => .next hs hn
  putsBack hs hn _ hp := .putBack (.next hs hn) hp
  operand := by
    rintro token left e ⟨s, position, hs, hn⟩ hl d hm
    rcases hl.numberOperands_cases with ⟨number, found, rfl, hd, he⟩ | he <;> rw [he] at hm
    · obtain rfl := List.mem_singleton.1 hm
      exact ⟨number, isNumber_of_next hs hn, hd⟩
    · cases hm
  noOperand := by
    rintro token left cause ⟨s, position, hs, hn⟩ h
    cases h with
    | number h =>
      -- a number token spells a double
      have hsome := ofText?_isSome_of_isNumber (isNumber_of_next hs hn)
      rw [h] at hsome
      cases hsome
    | array h => rcases ofPayload_eq_error h with rfl | rfl | ⟨_, rfl⟩ <;> exact ⟨nofun, nofun⟩
    | _ => exact ⟨nofun, nofun⟩
  group h := h
  insert := by
    intro tree right ht hr op d hm
    rw [numberOperands_insert, numberOperands_asRightOperand] at hm
    exact (List.mem_append.1 hm).elim (ht d) (hr d)
  trailingToken := by
    refine fun ht _ => ⟨nofun, ?_⟩
    rintro _ ⟨⟩
    exact ht
  trailingInput _ := ⟨nofun, nofun⟩
  missingParen _ := ⟨nofun, nofun⟩
  tooDeep _ := ⟨nofun, nofun⟩

/-- **Number tokens.** Every number token of a text has the text of a number: a numeral, maybe
behind a minus sign. Whatever calls are made on a text, no error is about a number, and the numbers
of each tree that is read, and of each that is left behind by an error, are doubles that such texts
spell, and none of them is NaN. And where a lexeme is next, the longest numeral there is the lexeme,
and the token. -/
theorem number_tokens (settings : Settings Q) :
    (∀ text s, Reached text s → ∀ number position left,
      next s = .ok (.number number, position) left → IsNumber number) ∧
    (∀ text entries answers, RunsAll settings entries ⟨ReadState.ofText text, 0⟩ answers →
      ∀ answer ∈ answers,
        (∀ tree, answer.tree? = some tree → Spelled tree ∧ ∀ d ∈ numberOperands tree, d ≠ .nan) ∧
        ∀ failure, answer.result = .error failure →
          ∀ number, failure.cause ≠ .invalidNumber number) ∧
    ∀ s text run rest, StandsAt s text → text.dropWhile Text.isBlank = run ++ rest →
      IsLongest run (text.dropWhile Text.isBlank) →
        (∃ lexeme left, take s = .ok lexeme left ∧ lexeme.isNumber = true ∧ lexeme.text = run ∧
          StandsAt left rest) ∧
        ∃ position left, next s = .ok (.number run, position) left ∧ StandsAt left rest := by
  refine ⟨fun text s hs number position left hn => isNumber_of_next hs hn,
    fun text entries answers h answer hm => ?_,
    fun s text run rest hs ht hrun => ⟨take_longest hs ht hrun, begins_number ht hrun s hs⟩⟩
  rw [runsAll_iff.1 h] at hm
  refine ⟨fun tree ht => ?_, fun failure hf => ?_⟩
  · have hspelled : Spelled tree :=
      tree_of_mem_readAll (rules_spelled text) (fun _ tree hc => hc.2 tree) .start hm ht
    exact ⟨hspelled, hspelled.ne_nan⟩
  · exact ((meets_of_mem_readAll (rules_spelled text) .start hm).2 failure hf).1

end

/-- The number token `-2e3`, whose double is the tree in front of a token too many, and the numeral
`1.5` in front of an `e` without digits behind it. -/
theorem number_tokens_of_exponent :
    let text : Text := "-2e3 1.5e+x".toList
    let behind : Text := [' ', '1', '.', '5', 'e', '+', 'x']
    IsNumber "-2e3".toList ∧
    (∃ answer ∈ readAll ({} : Settings Path) [.condition] (.ofText text), ∃ tree,
      answer.tree? = some tree ∧ Spelled tree ∧ numberOperands tree = [.ofInt (-2000)] ∧
        ∀ d ∈ numberOperands tree, d ≠ .nan) ∧
    ∃ position left, next (Lookahead.ofText behind) = .ok (.number ['1', '.', '5'], position) left ∧
      StandsAt left ['e', '+', 'x'] := by
  intro text behind
  obtain ⟨hnumber, hcalls, hlongest⟩ := number_tokens ({} : Settings Path)
  refine ⟨?_, ?_, ?_⟩
  · have htokens : (listOf "-2e3".toList).toOption = some [.number "-2e3".toList, .endOfInput] := by
      decide +kernel
    cases hl : listOf "-2e3".toList with
    | error e =>
      rw [hl] at htokens
      cases htokens
    | ok tokens =>
      rw [hl] at htokens
      obtain rfl := Option.some.inj htokens
      obtain ⟨position, left, hn, -⟩ := (streams_ofText hl).exists_next
      exact hnumber _ _ .start _ _ _ hn
  · have hleft : ((readAll ({} : Settings Path) [.condition] (.ofText text)).any fun answer =>
        answer.tree?.any fun tree => numberOperands tree == [.ofInt (-2000)]) = true := by
          decide +kernel
    obtain ⟨answer, hm, hanswer⟩ := List.any_eq_true.1 hleft
    obtain ⟨tree, ht, hd⟩ := (Option.any_eq_true ..).1 hanswer
    obtain ⟨hspelled, hnan⟩ := (hcalls text [.condition] _ (runsAll_iff.2 rfl) answer hm).1 tree ht
    exact ⟨answer, hm, tree, ht, hspelled, eq_of_beq hd, hnan⟩
  · have hread : (Numeral.read ("1.5e+x".toList)).1.spelling = ['1', '.', '5'] := by decide
    have hrun : IsLongest ['1', '.', '5'] (behind.dropWhile Text.isBlank) := by
      rw [← hread]
      exact isLongest_read (by decide)
    exact (hlongest _ behind _ ['e', '+', 'x'] (standsAt_ofText behind) (by decide) hrun).2

end Expr
end Condition
