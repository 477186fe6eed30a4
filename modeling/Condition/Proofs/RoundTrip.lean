import Condition.Json.Numbers
import Condition.Pattern.Automata
import Condition.Proofs.Conditions
import Condition.Proofs.Displays

/-! # Displays that are read back

The text of a plain expression is a condition again. What is read from it has a group around each
operator (`grouped`), as the text shows it, whatever the operators and however they stand in one
another. So it is the same tree but for its groups.

* `run_operandReader_display`: the tokens of a plain expression are read as one operand.
* `ofText_display`: the text of a plain expression is read as the same tree, groups aside. -/

namespace Condition.Expr

open Reading Token

theorem unwrapped?_quotes (text : Text) : unwrapped? ('"' :: (text ++ ['"'])) = some text := by
  simp [unwrapped?]

section

variable [Pattern.Engine] {Q : Type} {settings : Settings Q}

/-! ### Groups -/

/-- An expression with a group around each operator, in addition to its own groups. -/
def grouped : Expr Q → Expr Q
  | .binary op left right => .group (.binary op (grouped left) (grouped right))
  | .group inner => .group (grouped inner)
  | e => e

/-- An expression without its groups. -/
def ungrouped : Expr Q → Expr Q
  | .binary op left right => .binary op (ungrouped left) (ungrouped right)
  | .group inner => ungrouped inner
  | e => e

theorem ungrouped_grouped (e : Expr Q) : ungrouped (grouped e) = ungrouped e := by
  induction e with
  | binary op left right ihl ihr => rw [grouped, ungrouped, ungrouped, ungrouped, ihl, ihr]
  | group inner ih => rw [grouped, ungrouped, ungrouped, ih]
  | _ => rfl

theorem isBinary_grouped (e : Expr Q) : (grouped e).isBinary = false := by
  cases e <;> rfl

/-- The right operand of an operator is no bare string that the operator would take as a pattern. -/
theorem asRightOperand_grouped {op : Operator} {right : Expr Q}
    (h : op.takesPattern = false ∨ right.isString = false) :
    asRightOperand op (grouped right) = grouped right := by
  cases right with
  | string text =>
    rcases h with h | h
    · change (if op.takesPattern = true then _ else Expr.string text) = .string text
      rw [if_neg (Bool.eq_false_iff.1 h)]
    · cases h
  | _ => rfl

/-- An operator behind an operand makes one operator of the two. -/
theorem insertAll_single (p : Precedence) {first : Expr Q} (h : first.isBinary = false)
    (op : Operator) (right : Expr Q) :
    insertAll p first [(op, right)] = .binary op first right := by
  cases first with
  | binary => cases h
  | _ => rfl

/-! ### Reading the tokens of a plain expression -/

variable [Json.Parser]

/-- **The tokens of a plain expression** are read as one operand, if there is room for its
groups. -/
theorem run_operandReader_display {e : Expr Q} (h : e.isPlain = true) {room : Nat} {s : ReadState}
    {rest : List Token} (hd : depth e ≤ room) (hs : Streams s.tokens (tokens e ++ rest)) :
    ∃ left, (operandReader settings room).run s = .ok (grouped e) left ∧
      Streams left.tokens rest := by
  induction e generalizing room s rest with
  | binary op left right ihl ihr =>
    obtain ⟨hl, hr, hop⟩ := isPlain_binary h
    rw [depth] at hd
    obtain ⟨room, rfl⟩ : ∃ inner, room = inner + 1 := ⟨room - 1, by omega⟩
    have hleft : depth left ≤ room := by omega
    have hright : depth right ≤ room := by omega
    simp only [tokens, List.cons_append, List.append_assoc, List.nil_append] at hs
    obtain ⟨t, hopen, ht⟩ := takes_of_streams hs
    obtain ⟨u, hfirst, hu⟩ := ihl hl hleft (ht (by simp))
    obtain ⟨v, hn, hv⟩ := takes_of_streams hu
    obtain ⟨w, hlast, hw⟩ := ihr hr hright (hv (by simp))
    -- one operator only is read in this group, so insertion has no choice
    have hsteps : ReadsSteps (operandReader settings room) u [(op, grouped right)] w := by
      have hstep := ReadsSteps.step hn hlast (.stop w)
      rwa [asRightOperand_grouped hop] at hstep
    have hgroup := run_operandReader_group hopen ⟨u, hfirst, hsteps⟩ hw
    rwa [insertAll_single settings.precedence (isBinary_grouped left)] at hgroup
  | group inner ih =>
    rw [depth] at hd
    obtain ⟨room, rfl⟩ : ∃ inner, room = inner + 1 := ⟨room - 1, by omega⟩
    simp only [tokens, List.cons_append, List.append_assoc, List.nil_append] at hs
    obtain ⟨t, hopen, ht⟩ := takes_of_streams hs
    obtain ⟨u, hfirst, hu⟩ := ih h (Nat.le_of_succ_le_succ hd) (ht (by simp))
    exact run_operandReader_group hopen ⟨u, hfirst, .stop u⟩ hu
  | name text => exact run_operandReader_of_isLeaf (.name text) hs
  | boolean b => exact run_operandReader_of_isLeaf (.boolean b) hs
  | string text => exact run_operandReader_of_isLeaf (.string (unwrapped?_quotes text)) hs
  | _ => cases h

/-- The text of a plain expression is read with a group around each operator. -/
theorem result_ofText_display {e : Expr Q} (h : e.isPlain = true)
    (hn : Text.nesting (display e) ≤ settings.maxNesting) :
    (ofText settings (display e)).result = .ok (grouped e) := by
  have hlist : listOf (display e) = .ok (tokens e ++ [.endOfInput]) := by
    have hall := (consistsOf_display h Text.stopsWord_nil consistsOf_nil).listOf
    rwa [List.append_nil] at hall
  have hs : Streams (ReadState.ofText (display e)).tokens (tokens e ++ [.endOfInput]) :=
    streams_ofText hlist
  rw [nesting_display h] at hn
  obtain ⟨t, hfirst, ht⟩ := run_operandReader_display h hn hs
  exact result_ofText_of_readsChain ⟨t, hfirst, .stop t⟩ ht

/-- **The displayed grouping is the real one.** Where the parentheses in the text of a plain
expression are nested no deeper than the settings allow, the text is read as the same tree but for
groups, however levels are found. -/
theorem ofText_display (settings : Settings Q) (e : Expr Q) (h : e.isPlain = true)
    (hn : Text.nesting (display e) ≤ settings.maxNesting) :
    ∃ tree, (ofText settings (display e)).result = .ok tree ∧ ungrouped tree = ungrouped e :=
  ⟨grouped e, result_ofText_display h hn, ungrouped_grouped e⟩

end

/-- A disjunction as the right operand of a conjunction, behind a negated membership, with an
opening parenthesis in a string. -/
theorem ofText_display_of_loose_operand :
    (binary .and (binary .notMember (.name ['a']) (.name ['b']))
      (binary .or (.string ['(']) (.boolean true)) : Expr Empty).isPlain = true ∧
    Text.nesting ['(', '(', 'a', ' ', 'N', 'O', 'T', ' ', 'I', 'N', ' ', 'b', ')', ' ',
      'A', 'N', 'D', ' ',
      '(', '"', '(', '"', ' ', 'O', 'R', ' ', 'T', 'R', 'U', 'E', ')', ')'] ≤ 2 ∧
    ∃ tree : Expr Empty, (ofText { precedence := .tabled, maxNesting := 2 }
      ['(', '(', 'a', ' ', 'N', 'O', 'T', ' ', 'I', 'N', ' ', 'b', ')', ' ', 'A', 'N', 'D', ' ',
        '(', '"', '(', '"', ' ', 'O', 'R', ' ', 'T', 'R', 'U', 'E', ')', ')']).result = .ok tree ∧
      ungrouped tree = .binary .and (.binary .notMember (.name ['a']) (.name ['b']))
        (.binary .or (.string ['(']) (.boolean true)) := by
  have hdisplay : display (binary .and (binary .notMember (.name ['a']) (.name ['b']))
      (binary .or (.string ['(']) (.boolean true)) : Expr Empty) =
      ['(', '(', 'a', ' ', 'N', 'O', 'T', ' ', 'I', 'N', ' ', 'b', ')', ' ', 'A', 'N', 'D', ' ',
        '(', '"', '(', '"', ' ', 'O', 'R', ' ', 'T', 'R', 'U', 'E', ')', ')'] := by
    simp only [display_binary, display]
    decide
  have hplain : (binary .and (binary .notMember (.name ['a']) (.name ['b']))
      (binary .or (.string ['(']) (.boolean true)) : Expr Empty).isPlain = true := by decide
  have h := ofText_display { precedence := .tabled, maxNesting := 2 } _ hplain
    (by rw [hdisplay]; decide)
  rw [hdisplay] at h
  exact ⟨hplain, by decide, h⟩

end Condition.Expr
