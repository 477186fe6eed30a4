import Condition.Proofs.Lexemes
import Condition.Token.Reading

/-! # What the readings of tokens keep

A property of lookaheads that taking a lexeme, putting it back and reading a passage keep (`Kept`)
is kept by every reading of a token, and the token that is read is made of lexemes of which the same
is known (`MadeFrom`).

* `ErrorsAre`: the errors that a reading may have.
* `ensures_startingWith`, `ensures_next`: what the reading of a token keeps and gives.
* `eq_of_endsExpression`: a parenthesis or the end of the input is one lexeme. -/

namespace Condition

open Lookahead

theorem Lookahead.bind_eq_error {α β : Type} {read : Lookahead.Reading α}
    {next : α → Lookahead.Reading β} {s left : Lookahead} {e : Lexeme.Error} :
    (read >>= next) s = .error e left ↔
      read s = .error e left ∨ ∃ a t, read s = .ok a t ∧ next a t = .error e left := by
  change EStateM.bind read next s = .error e left ↔ _
  unfold EStateM.bind
  cases read s with
  | ok a t =>
    simp only [reduceCtorEq, EStateM.Result.ok.injEq, false_or]
    exact ⟨fun h => ⟨a, t, ⟨rfl, rfl⟩, h⟩, fun ⟨_, _, ⟨ha, ht⟩, h⟩ => by rw [ha, ht]; exact h⟩
  | error e' t => simp

/-! ### Errors of readings -/

/-- From certain states, the errors of a reading are of a certain sort. -/
def ErrorsAre {ε σ α : Type} (I : σ → Prop) (P : ε → Prop) (read : EStateM ε σ α) : Prop :=
  ∀ ⦃s left e⦄, I s → read s = .error e left → P e

namespace ErrorsAre

variable {ε σ α β : Type} {I J : σ → Prop} {P : ε → Prop}

theorem pure (a : α) : ErrorsAre I P (Pure.pure a : EStateM ε σ α) := by
  intro s left e _ h
  cases h

theorem throw {e : ε} (he : P e) : ErrorsAre I P (MonadExcept.throw e : EStateM ε σ α) := by
  intro s left e' _ h
  cases h
  exact he

theorem ite {p : Prop} [Decidable p] {a b : EStateM ε σ α} (ha : ErrorsAre I P a)
    (hb : ErrorsAre I P b) : ErrorsAre I P (if p then a else b) := by
  split <;> assumption

theorem bind_kept {read : EStateM ε σ α} {next : α → EStateM ε σ β} (hr : ErrorsAre I P read)
    (hk : ∀ ⦃s a left⦄, I s → read s = .ok a left → J left) (hn : ∀ a, ErrorsAre J P (next a)) :
    ErrorsAre I P (read >>= next) := by
  intro s left e hs h
  change EStateM.bind read next s = .error e left at h
  unfold EStateM.bind at h
  split at h
  · rename_i a t ha
    exact hn a (hk hs ha) h
  · rename_i e' t he
    cases h
    exact hr hs he

/-- Where what follows may start from any state, nothing is asked of the states in between. -/
theorem bind {read : EStateM ε σ α} {next : α → EStateM ε σ β} (hr : ErrorsAre I P read)
    (hn : ∀ a, ErrorsAre (fun _ => True) P (next a)) : ErrorsAre I P (read >>= next) :=
  hr.bind_kept (fun _ _ _ _ _ => trivial) hn

end ErrorsAre

/-! ### Readings that keep a property -/

/-- **Where the invariant holds** in front of a reading, it holds behind it, also after an error,
and what is read has the other property. -/
def Lookahead.Ensures {α : Type} (Inv : Lookahead → Prop) (read : Lookahead.Reading α)
    (Post : α → Prop) : Prop :=
  ∀ s, Inv s → (∀ left a, read s = .ok a left → Inv left ∧ Post a) ∧
    ∀ left e, read s = .error e left → Inv left

namespace Lookahead.Ensures

variable {α β : Type} {Inv : Lookahead → Prop} {Post : α → Prop} {Post' : β → Prop}

theorem ok {read : Lookahead.Reading α} (h : Ensures Inv read Post) {s left : Lookahead} {a : α}
    (hs : Inv s) (hr : read s = .ok a left) : Inv left ∧ Post a :=
  (h s hs).1 left a hr

theorem error {read : Lookahead.Reading α} (h : Ensures Inv read Post) {s left : Lookahead}
    {e : Lexeme.Error} (hs : Inv s) (hr : read s = .error e left) : Inv left :=
  (h s hs).2 left e hr

theorem pure {a : α} (h : Post a) : Ensures Inv (Pure.pure a) Post := by
  intro s hs
  refine ⟨fun left b hr => ?_, fun left e hr => ?_⟩
  · change EStateM.Result.ok a s = .ok b left at hr
    cases hr
    exact ⟨hs, h⟩
  · change EStateM.Result.ok a s = .error e left at hr
    cases hr

theorem throw (e : Lexeme.Error) : Ensures Inv (MonadExcept.throw e) Post := by
  intro s hs
  refine ⟨fun left b hr => ?_, fun left e' hr => ?_⟩
  · change EStateM.Result.error e s = .ok b left at hr
    cases hr
  · change EStateM.Result.error e s = .error e' left at hr
    cases hr
    exact hs

theorem bind {read : Lookahead.Reading α} {next : α → Lookahead.Reading β}
    (hr : Ensures Inv read Post) (hn : ∀ a, Post a → Ensures Inv (next a) Post') :
    Ensures Inv (read >>= next) Post' := by
  intro s hs
  refine ⟨fun left b h => ?_, fun left e h => ?_⟩
  · obtain ⟨a, t, ha, hb⟩ := bind_eq_ok.1 h
    obtain ⟨ht, hp⟩ := hr.ok hs ha
    exact (hn a hp).ok ht hb
  · rcases bind_eq_error.1 h with h | ⟨a, t, ha, hb⟩
    · exact hr.error hs h
    · obtain ⟨ht, hp⟩ := hr.ok hs ha
      exact (hn a hp).error ht hb

theorem ite {p : Prop} [Decidable p] {a b : Lookahead.Reading α} (ha : p → Ensures Inv a Post)
    (hb : ¬ p → Ensures Inv b Post) : Ensures Inv (if p then a else b) Post := by
  split
  · exact ha ‹_›
  · exact hb ‹_›

theorem refuse (lexeme : Lexeme) : Ensures Inv (Token.refuse lexeme) Post := throw _

end Lookahead.Ensures

/-- An invariant that the readings of the text keep, with a property of the lexemes they give. -/
structure Lookahead.Kept (Inv : Lookahead → Prop) (P : Lexeme → Prop) : Prop where
  take : Ensures Inv take P
  putBack : Ensures Inv putBack fun _ => True
  takeUntil : ∀ closing what start, Ensures Inv (takeUntil closing what start) fun _ => True
  takeBalanced : ∀ opening closing depth what start,
    Ensures Inv (takeBalanced opening closing depth what start) fun _ => True

/-- Every lookahead will do where nothing is asked. -/
theorem Lookahead.kept_true : Kept (fun _ => True) fun _ => True := by
  have key : ∀ {α : Type} (read : Lookahead.Reading α),
      Ensures (fun _ => True) read fun _ => True :=
    fun _ _ _ => ⟨fun _ _ _ => ⟨trivial, trivial⟩, fun _ _ _ => trivial⟩
  exact ⟨key _, key _, fun _ _ _ => key _, fun _ _ _ _ _ => key _⟩

/-! ### The source and the lexeme taken last -/

/-- The lexeme taken last, whether it was put back or not. -/
def Lookahead.Slot.lexeme? : Slot → Option Lexeme
  | .empty => none
  | .delivered lexeme | .waiting lexeme => some lexeme

theorem Lookahead.eq_of_onSource_eq_error {α : Type} {read : EStateM Lexeme.Error Source α}
    {slot : α → Slot} {s left : Lookahead} {e : Lexeme.Error}
    (h : onSource read slot s = .error e left) :
    ∃ source, read s.source = .error e source ∧ left = ⟨source, s.slot⟩ := by
  unfold onSource at h
  split at h
  · cases h
  · rename_i found source hr
    cases h
    exact ⟨source, hr, rfl⟩

section

variable {I : Source → Option Lexeme → Prop} {P : Lexeme → Prop}

/-- Behind a passage no lexeme is the last one. -/
theorem Lookahead.ensures_passage {read : EStateM Lexeme.Error Source Text}
    (hok : ∀ {source held text left}, I source held → read source = .ok text left → I left none)
    (herr : ∀ {source held left e}, I source held → read source = .error e left → I left held) :
    Ensures (fun s => I s.source s.slot.lexeme?) (passage read) fun _ => True := by
  intro s hs
  unfold passage
  split
  · exact ⟨by rintro left text ⟨⟩, by rintro left e ⟨⟩; exact hs⟩
  · refine ⟨fun left text h => ?_, fun left e h => ?_⟩
    · obtain ⟨source, hr, rfl⟩ := eq_of_onSource_eq_ok h
      exact ⟨hok hs hr, trivial⟩
    · obtain ⟨source, hr, rfl⟩ := eq_of_onSource_eq_error h
      exact herr hs hr

theorem Lookahead.ensures_putBack :
    Ensures (fun s => I s.source s.slot.lexeme?) Lookahead.putBack fun _ => True := by
  intro s hs
  refine ⟨fun left _ h => ?_, fun left e h => ?_⟩
  · obtain ⟨found, hd, rfl⟩ := putBack_eq_ok h
    rw [hd] at hs
    exact ⟨hs, trivial⟩
  · unfold Lookahead.putBack at h
    split at h <;> cases h
    · exact hs
    · exact hs

/-- **An invariant of the source** and the lexeme taken last is kept if the readings of the source
keep it: a lexeme that is taken is the last one, behind a passage there is none, and an error takes
the whole rest away. -/
theorem Lookahead.kept_of_source
    (hnext : ∀ {source held found left}, I source held → Source.next source = .ok found left →
      I left (some found))
    (hprop : ∀ {source found}, I source (some found) → P found)
    (huntil : ∀ {source held closing what start text left}, I source held →
      Source.takeUntil closing what start source = .ok text left → I left none)
    (hbalanced : ∀ {source held opening closing depth what start text left}, I source held →
      Source.takeBalanced opening closing depth what start source = .ok text left → I left none)
    (hend : ∀ {source held}, I source held → I source.atEnd held) :
    Kept (fun s => I s.source s.slot.lexeme?) P := by
  have htake : Ensures (fun s => I s.source s.slot.lexeme?) take P := by
    intro s hs
    unfold take
    split
    · rename_i waiting hw
      rw [hw] at hs
      exact ⟨by rintro left found ⟨⟩; exact ⟨hs, hprop hs⟩, by rintro left e ⟨⟩⟩
    · refine ⟨fun left found h => ?_, fun left e h => ?_⟩
      · obtain ⟨source, hr, rfl⟩ := eq_of_onSource_eq_ok h
        have hi := hnext hs hr
        exact ⟨hi, hprop hi⟩
      · obtain ⟨source, hr, rfl⟩ := eq_of_onSource_eq_error h
        obtain rfl := Source.eq_atEnd_of_next hr
        exact hend hs
  refine ⟨htake, ensures_putBack, fun closing what start => ?_,
    fun opening closing depth what start => ?_⟩
  · refine ensures_passage huntil fun hs h => ?_
    obtain rfl := Source.eq_atEnd_of_takeUntil h
    exact hend hs
  · refine ensures_passage hbalanced fun hs h => ?_
    obtain rfl := Source.eq_atEnd_of_takeBalanced h
    exact hend hs

end

namespace Token

variable {Inv : Lookahead → Prop} {P : Lexeme → Prop} {first : Lexeme}

/-- **The lexemes of a token** that starts with `first`: a parenthesis and the end of the input are
that lexeme, a string is that lexeme or a passage behind a slash, a number is a lexeme maybe behind
a minus sign that it has none of, an array starts with a bracket, and a query with a dollar sign. -/
def MadeFrom (P : Lexeme → Prop) (first : Lexeme) : Token → Prop
  | .endOfInput => first.kind = .endOfText
  | .leftParen => first.kind = .single '('
  | .rightParen => first.kind = .single ')'
  | .string text => (text = first.text ∧ (first.kind = .quoted ∨ ∃ c, first.kind = .single c)) ∨
      first.kind = .single '/'
  | .number text => ∃ lexeme, P lexeme ∧ lexeme.isNumber = true ∧
      (text = lexeme.text ∨ text = '-' :: lexeme.text ∧ '-' ∉ lexeme.text)
  | .array _ => first.kind = .single '['
  | .subQuery _ _ => first.kind = .single '$'
  | _ => True

/-! ### The parts of a token -/

theorem ensures_comparison (h : Kept Inv P) (alone withEqual : Operator) :
    Ensures Inv (comparison alone withEqual) (MadeFrom P first) :=
  h.take.bind fun _ _ => .ite (fun _ => .pure trivial) fun _ =>
    h.putBack.bind fun _ _ => .pure trivial

theorem ensures_equalOrTilde (h : Kept Inv P) (withEqual withTilde : Operator) :
    Ensures Inv (equalOrTilde withEqual withTilde) (MadeFrom P first) :=
  h.take.bind fun _ _ => .ite (fun _ => .pure trivial) fun _ =>
    .ite (fun _ => .pure trivial) fun _ => .refuse _

theorem ensures_negativeNumber (h : Kept Inv P) :
    Ensures Inv negativeNumber (MadeFrom P first) := by
  refine h.take.bind fun next hp => .ite (fun _ => .refuse _) fun hc => .pure ?_
  simp only [Bool.or_eq_true, Bool.not_eq_true', not_or, Bool.not_eq_false, List.contains_eq_mem,
    decide_eq_true_eq] at hc
  exact ⟨next, hp, hc.2, .inr ⟨rfl, hc.1⟩⟩

theorem ensures_queryMode (h : Kept Inv P) (position : Nat) :
    Ensures Inv (queryMode position) fun _ => True :=
  h.take.bind fun _ _ => .ite
    (fun _ => h.take.bind fun _ _ => .ite (fun _ => .pure trivial) fun _ =>
      h.take.bind fun _ _ => .ite (fun _ => .pure trivial) fun _ => .throw _)
    fun _ => h.putBack.bind fun _ _ => .pure trivial

theorem ensures_query (h : Kept Inv P) (position : Nat) (hf : first.kind = .single '$') :
    Ensures Inv (query position) (MadeFrom P first) :=
  (ensures_queryMode h position).bind fun _ _ => h.take.bind fun _ _ => .ite
    (fun _ => (h.takeBalanced _ _ _ _ _).bind fun _ _ => .pure hf) fun _ => .throw _

theorem ensures_behindDollar (h : Kept Inv P) (dollar : Lexeme) (hf : first.kind = .single '$') :
    Ensures Inv (behindDollar dollar) (MadeFrom P first) :=
  h.take.bind fun _ _ => .ite (fun _ => .pure trivial) fun _ =>
    .ite (fun _ => ensures_query h _ hf) fun _ => .throw _

theorem ensures_behindNot (h : Kept Inv P) (word : Lexeme) :
    Ensures Inv (behindNot word) (MadeFrom P first) := by
  refine h.take.bind fun next _ => ?_
  split
  · exact .pure trivial
  · exact .pure trivial
  · exact .pure trivial
  · exact h.putBack.bind fun _ _ => .refuse _

theorem ensures_ofWord (h : Kept Inv P) (word : Lexeme) :
    Ensures Inv (ofWord word) (MadeFrom P first) := by
  unfold ofWord
  split
  case h_8 => exact ensures_behindNot h word
  all_goals exact .pure trivial

theorem ensures_arrayRest (h : Kept Inv P) (taken : Text) (opening : Lexeme)
    (hf : first.kind = .single '[') : Ensures Inv (arrayRest taken opening) (MadeFrom P first) :=
  h.take.bind fun _ _ => .ite (fun _ => .throw _) fun _ => .ite (fun _ => .pure hf) fun _ =>
    (h.takeBalanced _ _ _ _ _).bind fun _ _ => .pure hf

theorem ensures_pathFrom (h : Kept Inv P) (opening : Lexeme) (segments : List Text) :
    Ensures Inv (pathFrom opening segments) (MadeFrom P first) := by
  intro s hs
  fun_induction pathFrom opening segments s with
  | case1 segments s e s₁ h₁ =>
    exact ⟨by rintro left token ⟨⟩, by rintro left e ⟨⟩; exact h.take.error hs h₁⟩
  | case2 segments s next s₁ h₁ hn e s₂ h₂ =>
    have hs₁ := (h.take.ok hs h₁).1
    exact ⟨by rintro left token ⟨⟩, by rintro left e ⟨⟩; exact h.take.error hs₁ h₂⟩
  | case3 segments s next s₁ h₁ hn segment s₂ h₂ hseg e s₃ h₃ =>
    have hs₂ := (h.take.ok (h.take.ok hs h₁).1 h₂).1
    exact ⟨by rintro left token ⟨⟩, by rintro left e ⟨⟩; exact h.take.error hs₂ h₃⟩
  | case4 segments s next s₁ h₁ hn segment s₂ h₂ hseg closing s₃ h₃ hc ih =>
    have hs₂ := (h.take.ok (h.take.ok hs h₁).1 h₂).1
    exact ih (h.take.ok hs₂ h₃).1
  | case5 segments s next s₁ h₁ hn segment s₂ h₂ hseg closing s₃ h₃ hc =>
    have hs₂ := (h.take.ok (h.take.ok hs h₁).1 h₂).1
    exact Ensures.refuse closing s₃ (h.take.ok hs₂ h₃).1
  | case6 segments s next s₁ h₁ hn segment s₂ h₂ hseg =>
    exact Ensures.refuse segment s₂ (h.take.ok (h.take.ok hs h₁).1 h₂).1
  | case7 segments s next s₁ h₁ hn =>
    refine (h.putBack.bind fun _ _ => ?_) s₁ (h.take.ok hs h₁).1
    exact .ite (fun _ => .refuse _) fun _ => .pure trivial

theorem ensures_behindBracket (h : Kept Inv P) (opening : Lexeme)
    (hf : first.kind = .single '[') :
    Ensures Inv (behindBracket opening) (MadeFrom P first) :=
  h.take.bind fun _ _ => .ite
    (fun _ => h.take.bind fun _ _ => .ite (fun _ => ensures_pathFrom h _ _) fun _ => .refuse _)
    fun _ => .ite
      (fun _ => h.take.bind fun _ _ => .ite (fun _ => ensures_pathFrom h _ _) fun _ =>
        h.putBack.bind fun _ _ => ensures_arrayRest h _ _ hf)
      fun _ => h.putBack.bind fun _ _ => ensures_arrayRest h _ _ hf

/-! ### Tokens -/

/-- **What is kept by taking lexemes** is kept by the reading of a token. -/
theorem ensures_startingWith (h : Kept Inv P) (hp : P first) :
    Ensures Inv (startingWith first) (MadeFrom P first) := by
  unfold startingWith
  split
  case h_1 hk => exact .pure hk
  case h_2 hk => exact .pure ⟨first, hp, by simp [Lexeme.isNumber, hk], .inl rfl⟩
  case h_3 hk => exact .pure ⟨first, hp, by simp [Lexeme.isNumber, hk], .inl rfl⟩
  case h_4 hk => exact .pure (.inl ⟨rfl, .inl hk⟩)
  case h_5 => exact ensures_ofWord h first
  case h_6 c hk =>
    split
    · exact .pure hk
    · exact .pure hk
    · exact ensures_negativeNumber h
    · exact ensures_behindDollar h first hk
    · exact ensures_equalOrTilde h _ _
    · exact ensures_equalOrTilde h _ _
    · exact ensures_comparison h _ _
    · exact ensures_comparison h _ _
    · exact (h.takeUntil _ _ _).bind fun _ _ => .pure (.inr hk)
    · exact ensures_behindBracket h first hk
    · exact .pure (.inl ⟨rfl, .inr ⟨c, hk⟩⟩)

theorem ensures_next (h : Kept Inv P) :
    Ensures Inv next fun found => ∃ first, P first ∧ MadeFrom P first found.1 :=
  h.take.bind fun first hp => (ensures_startingWith h hp).bind fun _ hm => .pure ⟨first, hp, hm⟩

/-- The tokens in front of which an expression ends. -/
def endsExpression : Token → Bool
  | .endOfInput | .leftParen | .rightParen => true
  | _ => false

/-- A parenthesis and the end of the input take no further lexeme. -/
theorem eq_of_endsExpression {token : Token} {s left : Lookahead}
    (h : startingWith first s = .ok token left) (he : token.endsExpression = true) : left = s := by
  have hm : MadeFrom (fun _ => True) first token :=
    ((ensures_startingWith kept_true trivial).ok trivial h).2
  have key : ∀ {token' : Token}, (pure token' : Lookahead.Reading Token) s = .ok token left →
      left = s := fun h => ((EStateM.Result.ok.injEq ..).mp h).2.symm
  unfold startingWith at h
  cases token with
  | endOfInput | leftParen | rightParen =>
    rw [show first.kind = _ from hm] at h
    exact key h
  | _ => cases he

end Token
end Condition
