import Condition.Json.Numbers
import Condition.Pattern.Automata
import Condition.Proofs.Brackets
import Condition.Proofs.OpenGroups
import Condition.Proofs.PatternOperands
import Condition.Proofs.TokenTexts

/-! # Literals and their bodies

The literal of a text is that text between quotes, if it may stand there, or between slashes, if it
has none in it (`IsLiteral`). It is one token wherever it stands (`begins_literal`), and what that
stands for is its body, character by character. The strings and the patterns of a tree that was read
are such bodies, and their literals stand in the text (`rules_hasLiteral`).

* `run_operandReader_of_begins`, `readOperators_of_begins`: an operand from its text, alone and
  behind an operator.
* `hasLiteral_of_next`: where the literal of a string token stands.
* `literal_bodies`: from literals to bodies and back. -/

namespace Condition

/-! ### Literals -/

/-- **The literals of a body**: it stands between two quotes or between two slashes. -/
inductive Text.IsLiteral : Text → Text → Prop where
  | quoted {quote : Char} {body : Text} (hq : quote = '"' ∨ quote = '\'')
    (hb : Quotable quote body) : IsLiteral (quote :: (body ++ [quote])) body
  | slashed {body : Text} (hb : '/' ∉ body) : IsLiteral ('/' :: (body ++ ['/'])) body

/-- A literal of the body stands in a text. -/
def Text.HasLiteral (text body : Text) : Prop :=
  ∃ literal, IsLiteral literal body ∧ literal <:+: text

open Text

variable {literal body rest : Text}

theorem Text.IsLiteral.unwrapped? (h : IsLiteral literal body) :
    Expr.unwrapped? literal = some body := by
  cases h <;> simp [Expr.unwrapped?]

/-! ### Literals are tokens -/

theorem Source.takeUntil_append {closing : Char} (h : closing ∉ body) (what : Passage)
    (start position : Nat) (rest : Text) :
    takeUntil closing what start ⟨body ++ closing :: rest, position⟩ =
      .ok body ⟨rest, position + (body ++ [closing]).length⟩ := by
  have hplain : ∀ c ∈ body, decide (c ≠ closing) = true := by
    intro c hc
    rw [decide_eq_true_eq]
    rintro rfl
    exact h hc
  obtain ⟨htake, hdrop⟩ : (body ++ closing :: rest).takeWhile (· ≠ closing) = body ∧
      (body ++ closing :: rest).dropWhile (· ≠ closing) = closing :: rest :=
    takeWhile_append_stop hplain (by simp)
  unfold takeUntil
  simp only [htake, hdrop, past]

namespace Token

open Lookahead Source

/-- A pattern between slashes is a token with them. -/
theorem begins_slashed (h : '/' ∉ body) (rest : Text) :
    Begins ('/' :: (body ++ '/' :: rest)) (.string ('/' :: body ++ ['/'])) rest := by
  intro s hs
  obtain ⟨first, t, ht, hk, -, hslot, hrest⟩ :=
    hs.exists_delivered (cut_single (by decide) _)
  obtain ⟨⟨found, position⟩, slot⟩ := t
  dsimp only at hslot hrest
  subst hslot hrest
  have huntil : Lookahead.takeUntil '/' .pattern first.position ⟨⟨body ++ '/' :: rest, position⟩,
      .delivered first⟩ = .ok body ⟨⟨rest, position + (body ++ ['/']).length⟩, .empty⟩ := by
    simp only [Lookahead.takeUntil, passage, onSource, takeUntil_append h]
  refine ⟨first.position, ⟨⟨rest, position + (body ++ ['/']).length⟩, .empty⟩,
    bind_eq_ok.2 ⟨first, _, ht, bind_eq_ok.2 ⟨_, _, ?_, rfl⟩⟩, _, rfl, by rintro lexeme ⟨⟩, rfl⟩
  simp only [startingWith, hk]
  exact bind_eq_ok.2 ⟨body, _, huntil, rfl⟩

/-- **A literal** is a token, whatever is in front of it and behind it. -/
theorem begins_literal (h : IsLiteral literal body) (rest : Text) :
    Begins (literal ++ rest) (.string literal) rest := by
  cases h with
  | quoted hq hb =>
    rw [List.cons_append, List.append_assoc]
    exact begins_quoted hq hb rest
  | slashed hb =>
    rw [List.cons_append, List.append_assoc]
    exact begins_slashed hb rest

/-- An operator for patterns is a token, whatever follows. -/
theorem begins_operator_of_takesPattern {op : Operator} (h : op.takesPattern = true) (rest : Text) :
    Begins (op.symbol ++ rest) (.operator op) rest := by
  cases op with
  | matching =>
    refine begins_of_cut (cut_single (by decide) _) fun first s hk _ hs => ?_
    simp only [startingWith, hk]
    exact equalOrTilde_tilde _ _ hs
  | notMatching =>
    refine begins_of_cut (cut_single (by decide) _) fun first s hk _ hs => ?_
    simp only [startingWith, hk]
    exact equalOrTilde_tilde _ _ hs
  | _ => cases h

end Token

/-! ### Literals are operands -/

namespace Expr

open Lookahead Token

section

variable [Pattern.Engine] [Json.Parser] {Q : Type} {settings : Settings Q} {room : Nat}
  {s : ReadState} {text : Text}

/-- A text that begins with a token that stands for an operand is read as one. -/
theorem run_operandReader_of_begins {token : Token} {e : Expr Q} (hb : Begins text token rest)
    (hl : IsLeaf settings token e) (room : Nat) (hs : StandsAt s.tokens text) :
    ∃ left, (operandReader settings room).run s = .ok e left ∧ StandsAt left.tokens rest := by
  obtain ⟨position, tokens, hn, hrest⟩ := hb s.tokens hs
  obtain ⟨left, hr, hleft⟩ := run_operandReader_leaf (t := ⟨tokens, _⟩) room ⟨position, hn, rfl⟩ hl
  exact ⟨left, hr, by rw [hleft]; exact hrest⟩

/-- Where an operator and such a token follow, the operand is inserted behind the operator. -/
theorem readOperators_of_begins {op : Operator} {behind : Text} {token : Token} {e : Expr Q}
    (ho : Begins text (.operator op) behind) (hb : Begins behind token rest)
    (hl : IsLeaf settings token e) (room : Nat) (tree : Expr Q) (hs : StandsAt s.tokens text) :
    ∃ left, readOperators settings (operandReader settings room) tree s =
        readOperators settings (operandReader settings room)
          (tree.insert settings.precedence op (asRightOperand op e)) left ∧
      StandsAt left.tokens rest := by
  obtain ⟨position, tokens, hn, hbehind⟩ := ho s.tokens hs
  obtain ⟨left, hr, hrest⟩ :=
    run_operandReader_of_begins (s := ⟨tokens, .token (.operator op) position :: s.journal⟩)
      hb hl room hbehind
  exact ⟨left, readOperators_step tree ⟨position, hn, rfl⟩ hr, hrest⟩

/-- A text that is one token is the condition that the token stands for. -/
theorem result_ofText_of_isLeaf {token : Token} {e : Expr Q} (hb : Begins text token [])
    (hl : IsLeaf settings token e) : (ofText settings text).result = .ok e := by
  have hlist : listOf text = .ok [token, .endOfInput] :=
    (consistsOf_nil.cons hb hl.ne_endOfInput).listOf
  obtain ⟨t, hf, ht⟩ := run_operandReader_of_isLeaf hl (s := ReadState.ofText text)
    (streams_ofText hlist)
  exact result_ofText_of_readsChain ⟨t, hf, .stop t⟩ ht

/-- A literal stands for its body. -/
theorem isLeaf_literal (h : IsLiteral literal body) :
    IsLeaf settings (.string literal) (.string body) :=
  .string h.unwrapped?

end

/-! ### The literals of a tree -/

variable [Pattern.Engine] {Q : Type} {settings : Settings Q}

/-- Behind an operator for patterns, a body is the pattern that it spells, if it spells one. -/
theorem asRightOperand_body [Pattern.Engine.Lawful] {op : Operator} (h : op.takesPattern = true)
    (body : Text) :
    (∃ p, asRightOperand op (.string body : Expr Q) = .pattern p ∧ p.source = body) ∨
      asRightOperand op (.string body : Expr Q) = .string body ∧ Pattern.ofText? body = none := by
  rw [asRightOperand, if_pos h]
  cases hp : Pattern.ofText? body with
  | some p => exact .inl ⟨p, rfl, Pattern.source_of_ofText? hp⟩
  | none => exact .inr ⟨rfl, rfl⟩

/-- The texts of the strings and the patterns of an expression. -/
def bodies : Expr Q → List Text
  | .binary _ left right => bodies left ++ bodies right
  | .group inner => bodies inner
  | .string text => [text]
  | .pattern p => [p.source]
  | _ => []

/-- The bodies of a right operand that is inserted come last. -/
theorem bodies_insert (p : Precedence) (tree right : Expr Q) (op : Operator) :
    bodies (tree.insert p op right) = bodies tree ++ bodies right :=
  join_insert List.append_assoc (fun _ _ _ => rfl) p tree op right

theorem bodies_asRightOperand [Pattern.Engine.Lawful] (op : Operator) (e : Expr Q) :
    bodies (asRightOperand op e) = bodies e :=
  eq_of_asRightOperand (fun h => congrArg ([·]) (Pattern.source_of_ofText? h)) op e

/-- A token that is no string has no body. -/
theorem IsLeaf.bodies_cases [Json.Parser] {token : Token} {e : Expr Q}
    (h : IsLeaf settings token e) :
    (∃ spelled body, token = .string spelled ∧ unwrapped? spelled = some body ∧ bodies e = [body]) ∨
      bodies e = [] := by
  cases h with
  | string h => exact .inl ⟨_, _, rfl, h, rfl⟩
  | array h => rcases ofPayload_cases h with ⟨_, rfl⟩ | ⟨_, rfl⟩ <;> exact .inr rfl
  | _ => exact .inr rfl

/-! ### Where literals stand -/

end Expr

/-- The lexeme taken last is a literal that stands in the text, if it is quoted. -/
def Lookahead.HoldsLiteral (text : Text) (s : Lookahead) : Prop :=
  s.source.rest <:+ text ∧ ∀ lexeme, s.slot.lexeme? = some lexeme → lexeme.kind = .quoted →
    lexeme.text <:+: text ∧ ∃ body, IsLiteral lexeme.text body

theorem Source.Cut.exists_isLiteral {text taken behind : Text} (h : Cut text .quoted taken behind) :
    ∃ body, IsLiteral taken body := by
  cases h with
  | quoted hq hc =>
    obtain ⟨body, hb, rfl, -⟩ := exists_quotable_of_closeQuote hc
    exact ⟨body, .quoted hq hb⟩

theorem Lookahead.kept_holdsLiteral (text : Text) : Kept (HoldsLiteral text) fun lexeme =>
    lexeme.kind = .quoted → lexeme.text <:+: text ∧ ∃ body, IsLiteral lexeme.text body := by
  refine kept_of_source (I := fun source held => source.rest <:+ text ∧
    ∀ lexeme, held = some lexeme → lexeme.kind = .quoted →
      lexeme.text <:+: text ∧ ∃ body, IsLiteral lexeme.text body) ?_ ?_ ?_ ?_ ?_
  · rintro source held found left ⟨hs, -⟩ h
    have hsuffix := (Source.suffix_of_next h).trans hs
    refine ⟨(List.suffix_append _ _).trans hsuffix, ?_⟩
    rintro lexeme ⟨rfl⟩ hk
    exact ⟨(List.prefix_append _ _).isInfix.trans hsuffix.isInfix,
      (hk ▸ (Source.cut_of_next h).1).exists_isLiteral⟩
  · intro source found h
    exact h.2 found rfl
  · rintro source held closing what start body left ⟨hs, -⟩ h
    exact ⟨(Source.suffix_of_takeUntil h).trans hs, by rintro lexeme ⟨⟩⟩
  · rintro source held opening closing depth what start body left ⟨hs, -⟩ h
    exact ⟨(Source.suffix_of_takeBalanced h).trans hs, by rintro lexeme ⟨⟩⟩
  · rintro source held ⟨-, hh⟩
    exact ⟨List.nil_suffix, hh⟩

namespace Token

open Lookahead

/-- A pattern is a slash, and a passage up to the next one. -/
theorem hasLiteral_of_slash {text spelled : Text} {s t left : Lookahead} {first : Lexeme}
    (hplaced : Placed text s) (ht : take s = .ok first t) (hk : first.kind = .single '/')
    (hc : startingWith first t = .ok (.string spelled) left)
    (hu : Expr.unwrapped? spelled = some body) : text.HasLiteral body := by
  unfold startingWith at hc
  rw [hk] at hc
  obtain ⟨passage, v, hb, hc⟩ := bind_eq_ok.1 hc
  cases hc
  obtain ⟨hr, hb, -⟩ := Source.takeUntil_spelling (source_takeUntil hb)
  have hne : t.source.rest ≠ [] := by
    rw [hr]
    exact List.append_ne_nil_of_right_ne_nil _ (List.cons_ne_nil _ _)
  obtain ⟨before, htext, -, -⟩ := exists_split_of_take hplaced ht hk hne
  have hliteral : IsLiteral ('/' :: (passage ++ ['/'])) passage := .slashed hb
  have hbody : Expr.unwrapped? ('/' :: passage ++ ['/']) = some passage := hliteral.unwrapped?
  rw [hbody] at hu
  cases hu
  exact ⟨_, hliteral, before, left.source.rest, by rw [htext, hr]; simp⟩

/-- **A string token** is a literal that stands in the text, unless it is a single character. -/
theorem hasLiteral_of_next {text spelled : Text} {s left : Lookahead} {position : Nat}
    (hs : Reached text s) (hn : next s = .ok (.string spelled, position) left)
    (hu : Expr.unwrapped? spelled = some body) : text.HasLiteral body := by
  have hplaced := placed_of_reached hs
  have hholds : HoldsLiteral text s :=
    (kept_holdsLiteral text).of_reached ⟨List.suffix_rfl, by rintro lexeme ⟨⟩⟩ hs
  obtain ⟨first, t, ht, hn⟩ := bind_eq_ok.1 hn
  obtain ⟨token, u, hc, hp⟩ := bind_eq_ok.1 hn
  cases hp
  rcases ((ensures_startingWith kept_true trivial).ok trivial hc).2 with
    ⟨rfl, hk | ⟨c, hk⟩⟩ | hk
  · -- a quoted string is one lexeme
    obtain ⟨hpart, found, hliteral⟩ := ((kept_holdsLiteral text).take.ok hholds ht).2 hk
    rw [hliteral.unwrapped?] at hu
    cases hu
    exact ⟨_, hliteral, hpart⟩
  · -- a single character has no two delimiters
    have htext : first.text = [c] := ((kept_placed text).take.ok hplaced ht).2 c hk
    rw [htext] at hu
    cases hu
  · exact hasLiteral_of_slash hplaced ht hk hc hu

end Token

namespace Expr

open Lookahead Token

section

variable [Pattern.Engine] [Pattern.Engine.Lawful] [Json.Parser] {Q : Type} {settings : Settings Q}

/-- **From one token to the trees**: the strings and patterns of a tree are bodies of literals that
stand in the text, and those of a tree that was left behind where an error occurred are too. -/
theorem rules_hasLiteral (text : Text) : Rules settings (Reached text) (Reached text)
    (fun tree => ∀ body ∈ bodies tree, text.HasLiteral body)
    (fun cause => ∀ tree, cause.partialTree? = some tree → ∀ body ∈ bodies tree,
      text.HasLiteral body) where
  lexical hs hn := ⟨nofun, .failed hs hn⟩
  behind := fun ⟨_, _, hs, hn⟩ => .next hs hn
  takes := fun ⟨_, _, hs, hn⟩ _ => .next hs hn
  putsBack hs hn _ hp := .putBack (.next hs hn) hp
  operand := by
    rintro token left e ⟨s, position, hs, hn⟩ hl body hm
    rcases hl.bodies_cases with ⟨spelled, found, rfl, hu, hb⟩ | hb <;> rw [hb] at hm
    · obtain rfl := List.mem_singleton.1 hm
      exact hasLiteral_of_next hs hn hu
    · cases hm
  noOperand := by
    rintro token left cause - h
    cases h with
    | array h => rcases ofPayload_eq_error h with rfl | rfl | ⟨_, rfl⟩ <;> exact nofun
    | _ => exact nofun
  group h := h
  insert := by
    intro tree right ht hr op body hm
    rw [bodies_insert, bodies_asRightOperand] at hm
    exact (List.mem_append.1 hm).elim (ht body) (hr body)
  trailingToken := by
    rintro tree ht token _ ⟨⟩
    exact ht
  trailingInput _ := nofun
  missingParen _ := nofun
  tooDeep _ := nofun

/-- **Literals and their bodies.** A literal is the condition that is its body, and the operand that
is its body wherever it stands. Behind an operator for patterns it is inserted as the pattern of
that body, if it spells one, and else as the string. And whatever calls are made on a text, the
strings and the patterns of each tree that is read, and of each that is left behind by an error, are
bodies of literals that stand in the text. -/
theorem literal_bodies (settings : Settings Q) :
    (∀ literal body, IsLiteral literal body →
      (ofText settings literal).result = .ok (.string body)) ∧
    (∀ literal body, IsLiteral literal body → ∀ blanks, (∀ c ∈ blanks, isBlank c = true) →
      ∀ room (s : ReadState) rest, StandsAt s.tokens (blanks ++ (literal ++ rest)) → ∃ left,
        (operandReader settings room).run s = .ok (.string body) left ∧ StandsAt left.tokens rest) ∧
    (∀ literal body, IsLiteral literal body → ∀ blanks, (∀ c ∈ blanks, isBlank c = true) →
      ∀ op : Operator, op.takesPattern = true → ∀ room (tree : Expr Q) (s : ReadState) rest,
        StandsAt s.tokens (op.symbol ++ (blanks ++ (literal ++ rest))) → ∃ right left,
          ((∃ p, right = .pattern p ∧ p.source = body) ∨
            right = .string body ∧ Pattern.ofText? body = none) ∧
          readOperators settings (operandReader settings room) tree s =
            readOperators settings (operandReader settings room)
              (tree.insert settings.precedence op right) left ∧
          StandsAt left.tokens rest) ∧
    ∀ text entries answers, RunsAll settings entries ⟨ReadState.ofText text, 0⟩ answers →
      ∀ answer ∈ answers, ∀ tree, answer.tree? = some tree → ∀ body ∈ bodies tree,
        text.HasLiteral body := by
  refine ⟨fun literal body h => ?_, fun literal body h blanks hb room s rest hs => ?_,
    fun literal body h blanks hb op hop room tree s rest hs => ?_,
    fun text entries answers h answer hm tree ht => ?_⟩
  · have hbegins := begins_literal h []
    rw [List.append_nil] at hbegins
    exact result_ofText_of_isLeaf hbegins (isLeaf_literal h)
  · exact run_operandReader_of_begins ((begins_literal h rest).of_blanks hb)
      (isLeaf_literal h) room hs
  · have hleaf : IsLeaf settings (.string literal) (.string body) := isLeaf_literal h
    obtain ⟨left, hr, hleft⟩ := readOperators_of_begins (begins_operator_of_takesPattern hop _)
      ((begins_literal h rest).of_blanks hb) hleaf room tree hs
    exact ⟨_, left, asRightOperand_body hop body, hr, hleft⟩
  · rw [runsAll_iff.1 h] at hm
    exact tree_of_mem_readAll (rules_hasLiteral text) (fun _ tree hc => hc tree) .start hm ht

end

/-- A pattern with a blank at its front and a backslash at its end, alone, as an operand, and behind
an operator; and a quoted string with a quote in it, in the tree in front of a token too many. -/
theorem literal_bodies_of_backslash :
    let literal : Text := ['/', ' ', 'b', '\\', '/']
    let body : Text := [' ', 'b', '\\']
    let text : Text := "x =~ 'a\\'b' 'c'".toList
    IsLiteral literal body ∧ (ofText ({} : Settings Path) literal).result = .ok (.string body) ∧
    (∃ left, (operandReader ({} : Settings Path) 0).run (.ofText (' ' :: (literal ++ [')']))) =
      .ok (.string body) left ∧ StandsAt left.tokens [')']) ∧
    (∃ left, readOperators ({} : Settings Path) (operandReader {} 0) (.name ['x'])
        (.ofText ('=' :: '~' :: ' ' :: (literal ++ [')']))) =
      readOperators {} (operandReader {} 0) (.binary .matching (.name ['x']) (.string body)) left ∧
      StandsAt left.tokens [')']) ∧
    text.HasLiteral "a\\'b".toList := by
  intro literal body text
  obtain ⟨halone, hoperand, hright, hall⟩ := literal_bodies ({} : Settings Path)
  have hslash : '/' ∉ body := by decide
  have hliteral : IsLiteral literal body := .slashed hslash
  have hblank : ∀ c ∈ [' '], isBlank c = true := List.forall_mem_singleton.2 rfl
  refine ⟨hliteral, halone _ _ hliteral, hoperand _ _ hliteral [' '] hblank 0 _ _
    (standsAt_ofText _), ?_, ?_⟩
  · obtain ⟨right, left, hbody, hr, hleft⟩ := hright _ _ hliteral [' '] hblank .matching rfl 0
      (.name ['x']) (.ofText ('=' :: '~' :: ' ' :: (literal ++ [')']))) [')'] (standsAt_ofText _)
    rcases hbody with ⟨p, -, hp⟩ | ⟨rfl, -⟩
    · have hnone : (Pattern.ofText? body).isSome = false := by decide +kernel
      rw [← hp, Pattern.ofText?_source] at hnone
      cases hnone
    · exact ⟨left, hr, hleft⟩
  · have hleft : ((readAll ({} : Settings Path) [.condition] (.ofText text)).any fun answer =>
        answer.tree?.any fun tree => bodies tree == ["a\\'b".toList]) = true := by decide +kernel
    obtain ⟨answer, hm, hanswer⟩ := List.any_eq_true.1 hleft
    obtain ⟨tree, ht, hbodies⟩ := (Option.any_eq_true ..).1 hanswer
    refine hall text [.condition] _ (runsAll_iff.2 rfl) answer hm tree ht _ ?_
    rw [eq_of_beq hbodies]
    exact List.mem_singleton_self _

end Expr
end Condition
