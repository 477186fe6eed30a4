import Condition.Json.Numbers
import Condition.Pattern.Automata
import Condition.Proofs.Chains
import Condition.Proofs.LexemeLists
import Condition.Proofs.TokenTexts
import Condition.Query.Path.Basic
import Mathlib.Data.List.Forall2

/-! # Layout and the case of keywords

Two texts with the same lexemes, in whatever places and with keywords in whatever case
(`Lexeme.Alike`), are read alike, as long as no passage is read as it stands: reading after reading
takes lexemes that are alike from sources that are alike, gives the same, and fails with errors that
differ in places and in the case of letters only.

* `RunAlike`: two readings side by side, with a rule for each way to put readings together.
* `Token.runAlike_next`, `Token.listFrom_alike`: tokens of texts that are alike.
* `Expr.layout_and_case`: their tokens and their conditions. -/

namespace Condition

/-! ### Two runs side by side -/

section

variable {ε σ α β : Type}

/-- **Outcomes that are alike**: values or errors, with the states that are left. -/
inductive OutcomesAlike (E : ε → ε → Prop) (S : σ → σ → Prop) (R : α → α → Prop) :
    EStateM.Result ε σ α → EStateM.Result ε σ α → Prop where
  | ok {a b : α} {s t : σ} (ha : R a b) (hs : S s t) : OutcomesAlike E S R (.ok a s) (.ok b t)
  | error {e e' : ε} {s t : σ} (he : E e e') (hs : S s t) :
    OutcomesAlike E S R (.error e s) (.error e' t)

/-- **Readings that run alike**: from states that are alike they come to outcomes that are. -/
def RunAlike (E : ε → ε → Prop) (S : σ → σ → Prop) (R : α → α → Prop)
    (read other : EStateM ε σ α) : Prop :=
  ∀ ⦃s t⦄, S s t → OutcomesAlike E S R (read s) (other t)

namespace RunAlike

variable {E : ε → ε → Prop} {S : σ → σ → Prop} {R : α → α → Prop} {R' : β → β → Prop}

theorem pure {a b : α} (h : R a b) : RunAlike E S R (Pure.pure a) (Pure.pure b) :=
  fun _ _ hs => .ok h hs

theorem throw {e e' : ε} (h : E e e') :
    RunAlike E S R (MonadExcept.throw e : EStateM ε σ α) (MonadExcept.throw e') :=
  fun _ _ hs => .error h hs

theorem bind {read other : EStateM ε σ α} {next next' : α → EStateM ε σ β}
    (hr : RunAlike E S R read other) (hn : ∀ a b, R a b → RunAlike E S R' (next a) (next' b)) :
    RunAlike E S R' (read >>= next) (other >>= next') := by
  intro s t hs
  have h := hr hs
  change OutcomesAlike E S R' (EStateM.bind read next s) (EStateM.bind other next' t)
  unfold EStateM.bind
  generalize read s = x, other t = y at h ⊢
  cases h with
  | ok ha hs => exact hn _ _ ha hs
  | error he hs => exact .error he hs

/-- The conditions of two choices agree where their grounds are alike. -/
theorem ite {p q : Prop} [Decidable p] [Decidable q] {a b a' b' : EStateM ε σ α} (h : p ↔ q)
    (ha : p → RunAlike E S R a a') (hb : ¬ p → RunAlike E S R b b') :
    RunAlike E S R (if p then a else b) (if q then a' else b') := by
  by_cases hp : p
  · rw [if_pos hp, if_pos (h.1 hp)]
    exact ha hp
  · rw [if_neg hp, if_neg fun hq => hp (h.2 hq)]
    exact hb hp

section

variable {read other : EStateM ε σ α} {s t left : σ}

theorem of_ok (h : RunAlike E S R read other) (hs : S s t) {a : α} (hr : read s = .ok a left) :
    ∃ b left', other t = .ok b left' ∧ R a b ∧ S left left' := by
  have ho := h hs
  rw [hr] at ho
  generalize other t = y at ho ⊢
  cases ho with
  | ok ha hs => exact ⟨_, _, rfl, ha, hs⟩

theorem of_error (h : RunAlike E S R read other) (hs : S s t) {e : ε}
    (hr : read s = .error e left) :
    ∃ e' left', other t = .error e' left' ∧ E e e' ∧ S left left' := by
  have ho := h hs
  rw [hr] at ho
  generalize other t = y at ho ⊢
  cases ho with
  | error he hs => exact ⟨_, _, rfl, he, hs⟩

end

end RunAlike

end

/-! ### Lexemes and errors -/

/-- Whether behind a character the text may be read as it stands, or as the segments of a path. -/
def Lexeme.Kind.opensPassage : Kind → Bool
  | .single c => c = '/' ∨ c = '[' ∨ c = '$'
  | _ => false

/-- **Lexemes that are alike**: they are of one kind and have one text, but for the case of the
letters of a keyword. -/
def Lexeme.Alike (a b : Lexeme) : Prop :=
  a.kind = b.kind ∧ (a.text = b.text ∨
    a.kind = .word ∧ Text.upper a.text = Text.upper b.text ∧ Text.upper a.text ∈ Token.keywords)

instance (a b : Lexeme) : Decidable (a.Alike b) :=
  inferInstanceAs (Decidable (_ ∧ (_ ∨ _ ∧ _ ∧ _)))

/-- An error without its place and without the case of the letters in it. -/
def Lexeme.Error.leveled : Error → Error
  | .illegal text _ => .illegal (Text.upper text) 0
  | .unterminated what _ => .unterminated what 0
  | .malformedSubQuery fault _ => .malformedSubQuery fault 0
  | e => e

namespace Lexeme

/-- Lexemes that are alike, and behind which the text is read lexeme by lexeme. -/
def Matches (a b : Lexeme) : Prop := a.kind.opensPassage = false ∧ a.Alike b

variable {a b : Lexeme}

theorem Alike.upper_eq (h : a.Alike b) : Text.upper a.text = Text.upper b.text := by
  rcases h.2 with ht | ⟨-, ht, -⟩
  · rw [ht]
  · exact ht

theorem Alike.text_eq (h : a.Alike b) (hk : a.kind = .word → Text.upper a.text ∉ Token.keywords) :
    a.text = b.text := by
  rcases h.2 with ht | ⟨hw, -, hm⟩
  · exact ht
  · exact absurd hm (hk hw)

theorem Alike.isSingle_iff (h : a.Alike b) (c : Char) :
    a.isSingle c = true ↔ b.isSingle c = true := by
  rw [isSingle, isSingle, h.1]

end Lexeme

/-! ### Sources -/

namespace Source

theorem lexemes_of_error {source left : Source} {e : Lexeme.Error}
    (h : next source = .error e left) : source.lexemes.1 = [] := by
  rw [lexemes]
  split
  · rfl
  · rename_i he
    rw [h] at he
    cases he

theorem lexemes_of_next {source left : Source} {lexeme : Lexeme}
    (h : next source = .ok lexeme left) :
    source.lexemes.1 = lexeme :: if lexeme.kind = .endOfText then [] else left.lexemes.1 := by
  rw [lexemes]
  split
  · rename_i he
    rw [h] at he
    cases he
  · rename_i he
    rw [h] at he
    cases he
    split <;> rfl

/-- **Sources that match**: their lexemes are alike, and behind none of them a passage is read. -/
def Matches (source other : Source) : Prop :=
  List.Forall₂ Lexeme.Matches source.lexemes.1 other.lexemes.1

variable {source other : Source}

theorem matches_of_nil (h : source.rest = []) (h' : other.rest = []) : Matches source other := by
  have hend : ∀ s : Source, s.rest = [] → ∃ lexeme, s.lexemes.1 = [lexeme] ∧
      lexeme.kind = .endOfText ∧ lexeme.text = [] := by
    rintro ⟨_, position⟩ rfl
    have hn : next ⟨[], position⟩ =
        .ok ⟨.endOfText, [], position, fun h => absurd rfl h⟩ ⟨[], position⟩ := rfl
    exact ⟨_, by rw [lexemes_of_next hn, if_pos rfl], rfl, rfl⟩
  obtain ⟨a, ha, hk, ht⟩ := hend source h
  obtain ⟨b, hb, hk', ht'⟩ := hend other h'
  rw [Matches, ha, hb]
  exact .cons ⟨by rw [hk]; rfl, by rw [hk, hk'], .inl (by rw [ht, ht'])⟩ .nil

/-- **The next lexemes** of sources that match are alike, and what is left of the sources
matches. -/
theorem runAlike_next :
    RunAlike (fun e e' => e.leveled = e'.leveled) Matches Lexeme.Matches next next := by
  intro s t hs
  rw [Matches] at hs
  -- a source whose next lexeme is an error has no lexemes, so that both have an error or neither
  -- has
  cases hn : next s with
  | error e left =>
    rw [lexemes_of_error hn] at hs
    cases hn' : next t with
    | error e' left' =>
      obtain ⟨_, _, -, -, -, rfl⟩ := exists_quote_of_next hn
      obtain ⟨_, _, -, -, -, rfl⟩ := exists_quote_of_next hn'
      obtain rfl := eq_atEnd_of_next hn
      obtain rfl := eq_atEnd_of_next hn'
      exact .error rfl (matches_of_nil rfl rfl)
    | ok b left' =>
      rw [lexemes_of_next hn'] at hs
      cases hs
  | ok a left =>
    rw [lexemes_of_next hn] at hs
    cases hn' : next t with
    | error e' left' =>
      rw [lexemes_of_error hn'] at hs
      cases hs
    | ok b left' =>
      rw [lexemes_of_next hn'] at hs
      cases hs with
      | cons hab hrest =>
        refine .ok hab ?_
        rw [← hab.2.1] at hrest
        split at hrest
        · rename_i hk
          have hleft := (hk ▸ (cut_of_next hn).1 : Cut _ .endOfText _ _).eq_nil.2
          have hk' := hab.2.1.symm.trans hk
          have hleft' := (hk' ▸ (cut_of_next hn').1 : Cut _ .endOfText _ _).eq_nil.2
          exact matches_of_nil hleft hleft'
        · exact hrest

end Source

/-! ### Lookaheads -/

namespace Lookahead

/-- Slots that match: the same became of lexemes that do. -/
inductive Slot.Matches : Slot → Slot → Prop where
  | empty : Matches .empty .empty
  | delivered {a b : Lexeme} (h : a.Matches b) : Matches (.delivered a) (.delivered b)
  | waiting {a b : Lexeme} (h : a.Matches b) : Matches (.waiting a) (.waiting b)

/-- **Lookaheads that match**, in their sources and their slots. -/
structure Matches (s t : Lookahead) : Prop where
  source : s.source.Matches t.source
  slot : s.slot.Matches t.slot

/-- Readings of lexemes that run alike. -/
abbrev Alike {α : Type} (R : α → α → Prop) (read other : Reading α) : Prop :=
  RunAlike (fun e e' => e.leveled = e'.leveled) Matches R read other

theorem alike_take : Alike Lexeme.Matches take take := by
  rintro ⟨source, slot⟩ ⟨source', slot'⟩ ⟨hsource, hslot⟩
  have hnext := Source.runAlike_next hsource
  dsimp only at hsource hslot hnext
  cases hslot with
  | waiting h => exact .ok h ⟨hsource, .delivered h⟩
  | empty =>
    simp only [take, onSource]
    generalize Source.next source = x, Source.next source' = y at hnext ⊢
    cases hnext with
    | ok ha hs => exact .ok ha ⟨hs, .delivered ha⟩
    | error he hs => exact .error he ⟨hs, .empty⟩
  | delivered h =>
    simp only [take, onSource]
    generalize Source.next source = x, Source.next source' = y at hnext ⊢
    cases hnext with
    | ok ha hs => exact .ok ha ⟨hs, .delivered ha⟩
    | error he hs => exact .error he ⟨hs, .delivered h⟩

theorem alike_putBack : Alike Eq putBack putBack := by
  rintro ⟨source, slot⟩ ⟨source', slot'⟩ ⟨hsource, hslot⟩
  dsimp only at hsource hslot
  cases hslot with
  | waiting h => exact .error rfl ⟨hsource, .waiting h⟩
  | empty => exact .error rfl ⟨hsource, .empty⟩
  | delivered h => exact .ok rfl ⟨hsource, .waiting h⟩

end Lookahead

/-! ### Tokens -/

namespace Token

open Lookahead

variable {a b : Lexeme}

theorem alike_refuse {α : Type} {R : α → α → Prop} (h : a.Matches b) :
    Lookahead.Alike R (refuse a) (refuse b) :=
  .throw (by simp only [Lexeme.Error.leveled, h.2.upper_eq])

theorem alike_comparison (alone withEqual : Operator) :
    Lookahead.Alike Eq (comparison alone withEqual) (comparison alone withEqual) :=
  alike_take.bind fun _ _ h => .ite (h.2.isSingle_iff _) (fun _ => .pure rfl) fun _ =>
    alike_putBack.bind fun _ _ _ => .pure rfl

theorem alike_equalOrTilde (withEqual withTilde : Operator) :
    Lookahead.Alike Eq (equalOrTilde withEqual withTilde) (equalOrTilde withEqual withTilde) :=
  alike_take.bind fun _ _ h => .ite (h.2.isSingle_iff _) (fun _ => .pure rfl) fun _ =>
    .ite (h.2.isSingle_iff _) (fun _ => .pure rfl) fun _ => alike_refuse h

/-- A number has no letters whose case may differ. -/
theorem text_eq_of_isNumber (h : a.Matches b) (hn : a.isNumber = true) : a.text = b.text := by
  refine h.2.text_eq fun hw => ?_
  rw [Lexeme.isNumber, hw] at hn
  cases hn

theorem alike_negativeNumber : Lookahead.Alike Eq negativeNumber negativeNumber := by
  refine alike_take.bind fun a b h => .ite ?_ (fun _ => alike_refuse h) fun hc => .pure ?_
  · have hnumber : b.isNumber = a.isNumber := by rw [Lexeme.isNumber, Lexeme.isNumber, h.2.1]
    rw [hnumber]
    cases hn : a.isNumber with
    | false => simp
    | true => rw [text_eq_of_isNumber h hn]
  · have hn : a.isNumber = true := by
      simp only [Bool.or_eq_true, Bool.not_eq_true', not_or, Bool.not_eq_false] at hc
      exact hc.2
    rw [text_eq_of_isNumber h hn]

theorem alike_behindNot (h : a.Matches b) : Lookahead.Alike Eq (behindNot a) (behindNot b) := by
  refine alike_take.bind fun x y hxy => ?_
  rw [hxy.2.upper_eq]
  split
  · exact .pure rfl
  · exact .pure rfl
  · exact .pure rfl
  · exact alike_putBack.bind fun _ _ _ => alike_refuse h

theorem alike_ofWord (h : a.Matches b) : Lookahead.Alike Eq (ofWord a) (ofWord b) := by
  by_cases hk : Text.upper a.text ∈ keywords
  · unfold ofWord
    rw [h.2.upper_eq]
    split
    case h_8 => exact alike_behindNot h
    case h_9 =>
      rw [h.2.upper_eq] at hk
      simp only [keywords, List.mem_cons, List.not_mem_nil, or_false] at hk
      rcases hk with hk | hk | hk | hk | hk | hk | hk | hk <;> contradiction
    all_goals exact .pure rfl
  · rw [ofWord_name hk, ofWord_name (h.2.upper_eq ▸ hk), h.2.text_eq fun _ => hk]
    exact .pure rfl

/-- **What starts with a lexeme** that opens no passage. -/
theorem alike_startingWith (h : a.Matches b) :
    Lookahead.Alike Eq (startingWith a) (startingWith b) := by
  obtain ⟨hopen, hk, -⟩ := id h
  have htext : a.kind ≠ .word → a.text = b.text := fun hw => h.2.text_eq fun hword =>
    absurd hword hw
  unfold startingWith
  rw [← hk]
  split
  case h_5 => exact alike_ofWord h
  case h_6 c hc =>
    rw [hc] at hopen htext
    rw [← htext nofun]
    split
    case h_3 => exact alike_negativeNumber
    case h_5 | h_6 => exact alike_equalOrTilde _ _
    case h_7 | h_8 => exact alike_comparison _ _
    case h_4 | h_9 | h_10 => cases hopen
    all_goals exact .pure rfl
  case h_1 => exact .pure rfl
  all_goals
    rename_i hc
    rw [← htext (by rw [hc]; nofun)]
    exact .pure rfl

/-- **The next tokens** of lookaheads that match are the same, maybe in other places. -/
theorem alike_next : Lookahead.Alike (fun found other => found.1 = other.1) next next :=
  alike_take.bind fun _ _ h => (alike_startingWith h).bind fun _ _ ht => .pure ht

/-- **The tokens** of lookaheads that match are the same, or both have an error. -/
theorem listFrom_alike {s t : Lookahead} (h : s.Matches t) :
    (listFrom s).mapError Lexeme.Error.leveled = (listFrom t).mapError Lexeme.Error.leveled := by
  fun_induction listFrom s generalizing t with
  | case1 s e left hn =>
    obtain ⟨e', left', hn', he, -⟩ := alike_next.of_error h hn
    rw [listFrom_eq t, hn']
    exact congrArg Except.error he
  | case2 s position left hn =>
    obtain ⟨⟨token, place⟩, left', hn', ha, -⟩ := alike_next.of_ok h hn
    obtain rfl : Token.endOfInput = token := ha
    rw [listFrom_of_endOfInput hn']
  | case3 s token position left hn hne ih =>
    obtain ⟨⟨token', place⟩, left', hn', ha, hs⟩ := alike_next.of_ok h hn
    obtain rfl : token = token' := ha
    have hswap : ∀ found : Except Lexeme.Error (List Token),
        (found.map (token :: ·)).mapError Lexeme.Error.leveled =
          (found.mapError Lexeme.Error.leveled).map (token :: ·) := by
      intro found
      cases found <;> rfl
    rw [listFrom_of_next hn' hne, hswap, hswap, ih hs]

end Token

/-! ### Conditions -/

namespace Expr

open Reading Token

section

variable [Pattern.Engine] {Q α : Type} {settings : Settings Q}

/-- An error without places and without the case of letters in the text of a lexeme. -/
def Error.leveled : Expr.Error Q → Expr.Error Q
  | .lex e => .lex e.leveled
  | e => e

/-- The failure of a reading without places, in the same contexts. -/
def leveled (failure : ReadFailure Q) : ReadFailure Q := ⟨failure.contexts, failure.cause.leveled⟩

/-- Readings of conditions that run alike, whatever they note in the journal. -/
abbrev RunsAlike (R : α → α → Prop) (read other : Reading Q α) : Prop :=
  RunAlike (fun failure failure' => leveled failure = leveled failure')
    (fun s t => s.tokens.Matches t.tokens) R read other

theorem runsAlike_onTokens {R : α → α → Prop} {read other : Lookahead.Reading α}
    (h : Lookahead.Alike R read other) :
    RunsAlike R (onTokens read : Reading Q α) (onTokens other) := by
  intro s t hs
  have hrun := h hs
  unfold onTokens
  generalize read s.tokens = x, other t.tokens = y at hrun ⊢
  cases hrun with
  | ok ha hs => exact .ok ha hs
  | error he hs =>
    refine .error ?_ hs
    simp only [leveled, Failure.ofCause, Error.leveled, he]

theorem runsAlike_record (event event' : Event) :
    RunsAlike Eq (record event : Reading Q Unit) (record event') :=
  fun _ _ hs => .ok rfl hs

theorem runsAlike_fail {R : α → α → Prop} (cause : Expr.Error Q) :
    RunsAlike R (fail cause : Reading Q α) (fail cause) :=
  .throw rfl

theorem RunsAlike.within {R : α → α → Prop} {read other : Reading Q α} (h : RunsAlike R read other)
    (context : Context) : RunsAlike R (within context read) (within context other) := by
  intro s t hs
  have hrun := h hs
  unfold Reading.within
  generalize read s = x, other t = y at hrun ⊢
  cases hrun with
  | ok ha hs => exact .ok ha hs
  | error he hs =>
    refine .error ?_ hs
    simp only [leveled, Failure.within, Failure.mk.injEq] at he ⊢
    rw [he.1, he.2]
    exact ⟨rfl, rfl⟩

theorem runsAlike_nextToken : RunsAlike Eq (nextToken : Reading Q Token) nextToken :=
  (runsAlike_onTokens alike_next).bind fun _ _ h => (runsAlike_record _ _).bind fun _ _ _ => .pure h

theorem runsAlike_putBack : RunsAlike Eq (putBack : Reading Q Unit) putBack :=
  runsAlike_onTokens Lookahead.alike_putBack

/-- **Operator by operator** what is read is the same. -/
theorem runsAlike_readOperators {operand : Reader Q (Expr Q)}
    (h : RunsAlike Eq operand.run operand.run) (tree : Expr Q) :
    RunsAlike Eq (readOperators settings operand tree) (readOperators settings operand tree) := by
  have hback : ∀ tree : Expr Q, RunsAlike Eq (do putBack; return tree : Reading Q (Expr Q))
      (do putBack; return tree) := fun tree => runsAlike_putBack.bind fun _ _ _ => .pure rfl
  have hnext : RunsAlike Eq (nextToken : Reading Q Token) nextToken := runsAlike_nextToken
  have hright := h.within .rightOperand
  intro s t hs
  -- one run carries the induction, and the other follows it step by step
  fun_induction readOperators settings operand tree s generalizing t with
  | case1 tree s failure left hn =>
    obtain ⟨failure', left', hn', he, hs⟩ := hnext.of_error hs hn
    rw [readOperators_eq tree t, hn']
    exact .error he hs
  | case2 tree s left hn | case3 tree s left hn | case4 tree s left hn =>
    obtain ⟨_, left', hn', rfl, hs⟩ := hnext.of_ok hs hn
    rw [readOperators_eq tree t, hn']
    exact hback tree hs
  | case5 tree s op left hn failure u hr =>
    obtain ⟨_, left', hn', rfl, hs⟩ := hnext.of_ok hs hn
    obtain ⟨failure', u', hr', he, hs⟩ := hright.of_error hs hr
    simp only [readOperators_eq tree t, hn', hr']
    exact .error he hs
  | case6 tree s op left hn right u hr ih =>
    obtain ⟨_, left', hn', rfl, hs⟩ := hnext.of_ok hs hn
    obtain ⟨_, u', hr', rfl, hs⟩ := hright.of_ok hs hr
    simp only [readOperators_eq tree t, hn', hr']
    exact ih hs
  | case7 tree s token left _ _ _ _ hn =>
    obtain ⟨_, left', hn', rfl, hs⟩ := hnext.of_ok hs hn
    have hother : readOperators settings operand tree t =
        fail (.trailingToken token tree) left' := by
      rw [readOperators_eq tree t]
      simp only [*]
    rw [hother]
    exact runsAlike_fail _ hs

theorem runsAlike_readExpression {operand : Reader Q (Expr Q)}
    (h : RunsAlike Eq operand.run operand.run) :
    RunsAlike Eq (readExpression settings operand) (readExpression settings operand) := by
  refine (h.within .operand).bind ?_
  rintro first _ rfl
  exact runsAlike_readOperators h first

variable [Json.Parser]

theorem runsAlike_readLeaf (token : Token) :
    RunsAlike Eq (readLeaf settings token) (readLeaf settings token) := by
  unfold readLeaf
  split
  case h_1 | h_4 => exact .pure rfl
  case h_7 => exact runsAlike_fail _
  case h_6 =>
    unfold compileQuery
    split
    · exact runsAlike_fail _
    · refine (runsAlike_record _ _).bind fun _ _ _ => ?_
      split
      · exact .pure rfl
      · exact runsAlike_fail _
  all_goals
    split
    · exact .pure rfl
    · exact runsAlike_fail _

theorem runsAlike_readOperand {inner? : Option (Reading Q (Expr Q))}
    (h : ∀ inner, inner? = some inner → RunsAlike Eq inner inner) :
    RunsAlike Eq (readOperand settings inner?) (readOperand settings inner?) := by
  refine runsAlike_nextToken.bind ?_
  rintro token _ rfl
  refine .ite Iff.rfl (fun _ => ?_) fun _ => runsAlike_readLeaf token
  cases inner? with
  | none => exact runsAlike_fail _
  | some inner =>
    refine ((h inner rfl).within .group).bind ?_
    rintro tree _ rfl
    refine runsAlike_nextToken.bind ?_
    rintro closing _ rfl
    exact .ite Iff.rfl (fun _ => .pure rfl) fun _ => runsAlike_fail _

theorem runsAlike_operandReader (room : Nat) :
    RunsAlike Eq (operandReader settings room).run (operandReader settings room).run := by
  induction room with
  | zero =>
    rw [run_operandReader_zero]
    exact runsAlike_readOperand (by rintro inner ⟨⟩)
  | succ room ih =>
    rw [run_operandReader_succ]
    refine runsAlike_readOperand ?_
    rintro inner ⟨rfl⟩
    exact runsAlike_readExpression ih

/-- **A condition** is read alike from texts that match. -/
theorem runsAlike_condition : RunsAlike Eq (condition settings) (condition settings) := by
  refine (runsAlike_readExpression (runsAlike_operandReader _)).bind ?_
  rintro tree _ rfl
  refine runsAlike_nextToken.bind ?_
  rintro token _ rfl
  exact .ite Iff.rfl (fun _ => (runsAlike_record _ _).bind fun _ _ _ => .pure rfl) fun _ =>
    runsAlike_fail _

/-- **Layout and the case of keywords do not matter.** Two texts whose lexemes are alike, and in
which no slash, opening bracket or dollar sign stands by itself, are lists of the same tokens, or
both are none, with the same error but for its place and the case of letters; and they spell the
same condition, or none, with the same error likewise. -/
theorem layout_and_case (settings : Settings Q) {text other : Text}
    (h : List.Forall₂ Lexeme.Alike (Source.ofText text).lexemes.1 (Source.ofText other).lexemes.1)
    (hp : ∀ lexeme ∈ (Source.ofText text).lexemes.1,
      lexeme.kind ≠ .single '/' ∧ lexeme.kind ≠ .single '[' ∧ lexeme.kind ≠ .single '$') :
    (listOf text).mapError Lexeme.Error.leveled = (listOf other).mapError Lexeme.Error.leveled ∧
    (ofText settings text).result.mapError leveled =
      (ofText settings other).result.mapError leveled := by
  have hopen : ∀ lexeme ∈ (Source.ofText text).lexemes.1, lexeme.kind.opensPassage = false := by
    intro lexeme hm
    obtain ⟨hslash, hbracket, hdollar⟩ := hp lexeme hm
    unfold Lexeme.Kind.opensPassage
    split
    · rename_i c hk
      simp only [hk, ne_eq, Lexeme.Kind.single.injEq] at hslash hbracket hdollar
      simpa using ⟨hslash, hbracket, hdollar⟩
    · rfl
  have hs : (Lookahead.ofText text).Matches (Lookahead.ofText other) :=
    ⟨(List.forall₂_and_left _ _).2 ⟨hopen, h⟩, .empty⟩
  refine ⟨listFrom_alike hs, ?_⟩
  have hrun : OutcomesAlike _ _ Eq (condition settings (ReadState.ofText text))
      (condition settings (ReadState.ofText other)) := runsAlike_condition hs
  unfold ofText
  generalize condition settings (ReadState.ofText text) = x,
    condition settings (ReadState.ofText other) = y at hrun ⊢
  cases hrun with
  | ok ha hs =>
    subst ha
    rfl
  | error he hs => exact congrArg Except.error he

end

/-- Operators of two pieces and a negative number with blanks inside and outside of them, and a
keyword in the wrong place. -/
theorem layout_and_case_of_operators :
    let text : Text := "x NOT IN y AND z >= -2".toList
    let other : Text := "x not\tin y  aNd z>\n=- 2 ".toList
    let wrong : Text := "x ! NOT".toList
    let wrong' : Text := "x!not".toList
    listOf text = .ok [.name ['x'], .operator .notMember, .name ['y'], .operator .and, .name ['z'],
      .operator .atLeast, .number ['-', '2'], .endOfInput] ∧
    (listOf text).mapError Lexeme.Error.leveled = (listOf other).mapError Lexeme.Error.leveled ∧
    (ofText ({} : Settings Path) text).result.mapError leveled =
      (ofText ({} : Settings Path) other).result.mapError leveled ∧
    listOf wrong = .error (.illegal ['N', 'O', 'T'] 4) ∧
    listOf wrong' = .error (.illegal ['n', 'o', 't'] 2) ∧
    (listOf wrong).mapError Lexeme.Error.leveled =
      (listOf wrong').mapError Lexeme.Error.leveled := by
  intro text other wrong wrong'
  have h : List.Forall₂ Lexeme.Alike (Source.ofText text).lexemes.1
      (Source.ofText other).lexemes.1 := by
    decide +kernel
  have h' : List.Forall₂ Lexeme.Alike (Source.ofText wrong).lexemes.1
      (Source.ofText wrong').lexemes.1 := by
    decide +kernel
  have hsame := layout_and_case ({} : Settings Path) h (by decide +kernel)
  have hwrong := layout_and_case ({} : Settings Path) h' (by decide +kernel)
  exact ⟨by decide +kernel, hsame.1, hsame.2, by decide +kernel, by decide +kernel, hwrong.1⟩

end Expr
end Condition
