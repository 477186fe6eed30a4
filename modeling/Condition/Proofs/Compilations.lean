import Condition.Proofs.Brackets
import Condition.Proofs.Trees

/-! # The compilations of queries

A query stands in the text between parentheses (`StandIn`), and is compiled from just that text when
it is read as an operand. So a reading that succeeds compiles each query of its tree once, in the
order in which they stand in the tree and in the text (`Compiles`).

* `Token.exists_parens`: where the query of a token stands.
* `Expr.compiles_expression`: the compilations of a reading.
* `Expr.compilations_of_ofText`: the compilations in the journal of a condition. -/

namespace Condition

/-! ### Where queries stand -/

/-- **Queries that stand in a text** one behind the other, each between parentheses. -/
inductive StandIn : Text → List Text → Prop where
  | nil {text : Text} : StandIn text []
  | cons {before query behind : Text} {queries : List Text} (h : StandIn behind queries) :
    StandIn (before ++ '(' :: (query ++ ')' :: behind)) (query :: queries)

theorem StandIn.of_suffix {text rest : Text} {queries : List Text} (h : StandIn rest queries)
    (hs : rest <:+ text) : StandIn text queries := by
  obtain ⟨front, rfl⟩ := hs
  cases h with
  | nil => exact .nil
  | cons h =>
    rw [← List.append_assoc]
    exact .cons h

/-! ### Tokens -/

open Lookahead

/-- Readings only ever take from the front of a text. -/
theorem Lookahead.kept_suffix (text : Text) :
    Kept (fun s => s.source.rest <:+ text) fun _ => True := by
  refine kept_of_source (I := fun source _ => source.rest <:+ text) ?_ (fun _ => trivial) ?_ ?_ ?_
  · intro source held found left hs h
    exact ((List.suffix_append _ _).trans (Source.suffix_of_next h)).trans hs
  · intro source held closing what start body left hs h
    exact (Source.suffix_of_takeUntil h).trans hs
  · intro source held opening closing depth what start body left hs h
    exact (Source.suffix_of_takeBalanced h).trans hs
  · intro source held _
    exact List.nil_suffix

namespace Token

/-- The query of a token that is one. -/
def query? : Token → Option Text
  | .subQuery query _ => some query
  | _ => none

theorem suffix_next {s left : Lookahead} {found : Token × Nat} (h : next s = .ok found left) :
    left.source.rest <:+ s.source.rest :=
  ((ensures_next (kept_suffix s.source.rest)).ok List.suffix_rfl h).1

/-- Behind the mode of a query, which may have put a lexeme back, the next lexeme is taken from the
source. -/
theorem next_of_queryMode {position : Nat} {s t left : Lookahead} {last opening : Lexeme}
    {mode : Option Text} (hs : s.slot = .delivered last) (hm : queryMode position s = .ok mode t)
    (ht : take t = .ok opening left) : ∃ source : Source, source.rest <:+ s.source.rest ∧
      Source.next source = .ok opening left.source := by
  have hsuffix : t.source.rest <:+ s.source.rest :=
    ((ensures_queryMode (kept_suffix s.source.rest) position).ok List.suffix_rfl hm).1
  obtain ⟨first, u, hu, hm⟩ := bind_eq_ok.1 hm
  split at hm
  · obtain ⟨name, v, hv, hm⟩ := bind_eq_ok.1 hm
    split at hm
    · cases hm
      exact ⟨_, hsuffix, next_of_take (take_eq_ok hv).1 ht⟩
    · obtain ⟨closing, w, hw, hm⟩ := bind_eq_ok.1 hm
      split at hm
      · cases hm
        exact ⟨_, hsuffix, next_of_take (take_eq_ok hw).1 ht⟩
      · cases hm
  · obtain ⟨_, v, hp, hm⟩ := bind_eq_ok.1 hm
    cases hm
    rw [take_of_putBack hu hp] at ht
    cases ht
    exact ⟨_, List.suffix_rfl, next_of_take hs hu⟩

/-- The body of a query stands between parentheses. -/
theorem exists_parens_of_query {position : Nat} {s left : Lookahead} {last : Lexeme} {token : Token}
    (hs : s.slot = .delivered last) (h : Token.query position s = .ok token left) :
    ∃ query mode before, token = .subQuery query mode ∧
      s.source.rest = before ++ '(' :: (query ++ ')' :: left.source.rest) := by
  obtain ⟨mode, t, hm, h⟩ := bind_eq_ok.1 h
  obtain ⟨opening, u, hu, h⟩ := bind_eq_ok.1 h
  split at h
  · rename_i hk
    obtain ⟨query, v, hb, h⟩ := bind_eq_ok.1 h
    cases h
    obtain ⟨source, ⟨front, hfront⟩, hn⟩ := next_of_queryMode hs hm hu
    obtain ⟨blanks, -, hr, -⟩ := Source.next_spelling hn
    have hk : opening.kind = .single '(' := by simpa [Lexeme.isSingle] using hk
    have htext : opening.text = ['('] := (hk ▸ (Source.cut_of_next hn).1).eq_singleton
    refine ⟨query, mode, front ++ blanks, rfl, ?_⟩
    rw [← hfront, hr, htext, (Source.takeBalanced_spelling (source_takeBalanced hb)).1,
      List.append_assoc]
    rfl
  · cases h

/-- **The query of a token** stands between parentheses in what is read. -/
theorem exists_parens {s left : Lookahead} {query : Text} {mode : Option Text} {position : Nat}
    (h : next s = .ok (.subQuery query mode, position) left) :
    ∃ before, s.source.rest = before ++ '(' :: (query ++ ')' :: left.source.rest) := by
  obtain ⟨dollar, t, ht, h⟩ := bind_eq_ok.1 h
  obtain ⟨token, u, hc, hp⟩ := bind_eq_ok.1 h
  cases hp
  have hk : dollar.kind = .single '$' :=
    ((ensures_startingWith kept_true trivial).ok trivial hc).2
  have hd : behindDollar dollar t = .ok (.subQuery query mode) left := by
    unfold startingWith at hc
    rw [hk] at hc
    exact hc
  obtain ⟨word, v, hv, hd⟩ := bind_eq_ok.1 hd
  split at hd
  · cases hd
  · split at hd
    · obtain ⟨_, _, before, he, hr⟩ := exists_parens_of_query (take_eq_ok hv).1 hd
      cases he
      have hsuffix : v.source.rest <:+ s.source.rest := by
        have htake := (kept_suffix s.source.rest).take
        exact (htake.ok (htake.ok List.suffix_rfl ht).1 hv).1
      obtain ⟨front, hfront⟩ := hsuffix
      exact ⟨front ++ before, by rw [← hfront, hr, List.append_assoc]⟩
    · cases hd

/-- The queries that stand behind a token stand behind its own, if it is one. -/
theorem standIn_of_next {s left : Lookahead} {token : Token} {position : Nat}
    (h : next s = .ok (token, position) left) {queries : List Text}
    (hq : StandIn left.source.rest queries) :
    StandIn s.source.rest (token.query?.toList ++ queries) := by
  cases token with
  | subQuery query mode =>
    obtain ⟨before, hr⟩ := exists_parens h
    rw [hr]
    exact .cons hq
  | _ => exact hq.of_suffix (suffix_next h)

end Token

/-! ### Readings -/

namespace Expr

open Reading

/-- What was compiled so far. -/
def compiledIn (s : ReadState) : List Text := s.journal.reverse.filterMap Event.compiledQuery?

/-- **Between two states** these queries are compiled, one after the other. They are those of the
tokens that are taken there, and they stand there in the text. -/
structure Compiles (s : ReadState) (queries : List Text) (left : ReadState) : Prop where
  compiled : compiledIn left = compiledIn s ++ queries
  delivered : ∃ tokens, tokens.filterMap Token.query? = queries ∧ Delivers s tokens left
  stand : ∀ {others}, StandIn left.tokens.source.rest others →
    StandIn s.tokens.source.rest (queries ++ others)

theorem Compiles.refl (s : ReadState) : Compiles s [] s :=
  ⟨(List.append_nil _).symm, ⟨[], rfl, .refl s⟩, id⟩

theorem Compiles.trans {s t left : ReadState} {queries others : List Text}
    (h : Compiles s queries t) (h' : Compiles t others left) :
    Compiles s (queries ++ others) left := by
  obtain ⟨tokens, hq, hd⟩ := h.delivered
  obtain ⟨more, hq', hd'⟩ := h'.delivered
  refine ⟨?_, ⟨tokens ++ more, ?_, hd.trans hd'⟩, fun hs => ?_⟩
  · rw [h'.compiled, h.compiled, List.append_assoc]
  · rw [List.filterMap_append, hq, hq']
  · rw [List.append_assoc]
    exact h.stand (h'.stand hs)

theorem Takes.compiledIn_eq {s left : ReadState} {token : Token} (h : Takes s token left) :
    compiledIn left = compiledIn s := by
  obtain ⟨position, -, hj⟩ := h
  rw [compiledIn, hj, List.reverse_cons, List.filterMap_append]
  exact List.append_nil _

/-- A token that is no query is taken. -/
theorem Takes.compiles {s left : ReadState} {token : Token} (h : Takes s token left)
    (hne : token ≠ .endOfInput) (hq : token.query? = none) : Compiles s [] left := by
  refine ⟨?_, ⟨[token], ?_, h.delivers hne⟩, fun hs => ?_⟩
  · rw [h.compiledIn_eq, List.append_nil]
  · rw [List.filterMap_cons_none hq]
    rfl
  · obtain ⟨position, hn, -⟩ := h
    have := Token.standIn_of_next hn hs
    rwa [hq] at this

theorem EndsAt.compiles {s left : ReadState} (h : EndsAt s left) : Compiles s [] left := by
  have hd := h.delivers
  obtain ⟨token, t, hn, he, hp, hj⟩ := h
  have hsource : left.tokens.source = t.tokens.source := by
    obtain ⟨lexeme, -, hl⟩ := Lookahead.putBack_eq_ok hp
    rw [hl]
  refine ⟨?_, ⟨[], rfl, hd⟩, fun hs => ?_⟩
  · rw [List.append_nil, ← hn.compiledIn_eq, compiledIn, hj]
    rfl
  · obtain ⟨position, hn, -⟩ := hn
    rw [hsource] at hs
    exact hs.of_suffix (Token.suffix_next hn)

variable [Pattern.Engine] {Q : Type} {settings : Settings Q}

/-- The texts of the queries of an expression. -/
def queryTexts (e : Expr Q) : List Text := (queries e).map fun query => query.1

theorem queryTexts_insertAll (p : Precedence) (tree : Expr Q) (steps : Steps Q) :
    queryTexts (insertAll p tree steps) =
      queryTexts tree ++ steps.flatMap fun step => queryTexts step.2 := by
  induction steps generalizing tree with
  | nil => exact (List.append_nil _).symm
  | cons step steps ih =>
    obtain ⟨op, right⟩ := step
    have hinsert : queryTexts (tree.insert p op right) = queryTexts tree ++ queryTexts right := by
      rw [queryTexts, queries_insert, List.map_append]
      rfl
    rw [insertAll_cons, ih, hinsert, List.flatMap_cons, List.append_assoc]

theorem compiles_of_readsSteps {operand : Reader Q (Expr Q)}
    (hop : ∀ {s left e}, operand.run s = .ok e left → Compiles s (queryTexts e) left)
    {s left : ReadState} {steps : Steps Q} (h : ReadsSteps operand s steps left) :
    Compiles s (steps.flatMap fun step => queryTexts step.2) left := by
  induction h with
  | stop s => exact .refl s
  | @step s t u left op right steps hn hr _ ih =>
    have hright : queryTexts (asRightOperand op right) = queryTexts right :=
      congrArg (List.map _) (queries_asRightOperand op right)
    rw [List.flatMap_cons, hright]
    exact ((hn.compiles (by simp) rfl).trans (hop hr)).trans ih

theorem compiles_readExpression {operand : Reader Q (Expr Q)}
    (hop : ∀ {s left e}, operand.run s = .ok e left → Compiles s (queryTexts e) left)
    {s left : ReadState} {tree : Expr Q} (h : readExpression settings operand s = .ok tree left) :
    Compiles s (queryTexts tree) left := by
  obtain ⟨first, steps, t, ⟨u, hf, hs⟩, he, rfl⟩ := readExpression_eq_ok_iff.1 h
  have hc := ((hop hf).trans (compiles_of_readsSteps hop hs)).trans he.compiles
  rw [List.append_nil] at hc
  rw [queryTexts_insertAll]
  exact hc

/-! ### Expressions -/

variable [Json.Parser]

theorem queryTexts_of_isLeaf {token : Token} {e : Expr Q} (h : IsLeaf settings token e) :
    queryTexts e = token.query?.toList := by
  cases h with
  | array h => rcases ofPayload_cases h with ⟨_, rfl⟩ | ⟨_, rfl⟩ <;> rfl
  | _ => rfl

/-- **A token that stands for a query** is compiled when it is read as an operand. -/
theorem IsLeaf.compiles {token : Token} {e : Expr Q} (h : IsLeaf settings token e) {s t : ReadState}
    (hn : Takes s token t) :
    Compiles s (queryTexts e) { t with journal := leafEvents token ++ t.journal } := by
  have hd : Delivers s [token] t := hn.delivers (converts_of_isLeaf h).ne_endOfInput
  have hc := hn.compiledIn_eq
  obtain ⟨position, hn, -⟩ := hn
  rw [queryTexts_of_isLeaf h]
  refine ⟨?_, ⟨[token], ?_, hd.of_tokens rfl⟩, Token.standIn_of_next hn⟩
  · rw [← hc]
    simp only [compiledIn, List.reverse_append, List.filterMap_append]
    cases token <;> rfl
  · cases token <;> rfl

theorem compiles_operandReader (room : Nat) {s left : ReadState} {e : Expr Q}
    (h : (operandReader settings room).run s = .ok e left) : Compiles s (queryTexts e) left := by
  -- on the groups that may still be opened
  induction room generalizing s left e with
  | zero =>
    rw [run_operandReader_zero] at h
    rcases readOperand_eq_ok h with ⟨_, _, hn, hl, rfl⟩ | ⟨_, _, _, _, hi, _⟩
    · exact hl.compiles hn
    · cases hi
  | succ room ih =>
    rw [run_operandReader_succ] at h
    rcases readOperand_eq_ok h with ⟨_, _, hn, hl, rfl⟩ | ⟨_, tree, t, u, hi, hn, hr, hc, rfl⟩
    · exact hl.compiles hn
    · cases hi
      have hinner := (hn.compiles (by simp) rfl).trans (compiles_readExpression ih hr)
      have hgroup := hinner.trans (hc.compiles (by simp) rfl)
      rw [List.append_nil] at hgroup
      exact hgroup

/-- **What a reading compiles**: the queries of its tree, in their order. -/
theorem compiles_expression {s left : ReadState} {tree : Expr Q}
    (h : expression settings s = .ok tree left) : Compiles s (queryTexts tree) left :=
  compiles_readExpression (compiles_operandReader _) h

/-- **The compilations of a condition** are those of the queries in its tree, which are the queries
among its tokens, and there they stand in the text, in that order. -/
theorem compilations_of_ofText {text : Text} {tree : Expr Q}
    (h : (ofText settings text).result = .ok tree) :
    (ofText settings text).events.filterMap Event.compiledQuery? = queryTexts tree ∧
      (∃ tokens, Token.listOf text = .ok tokens ∧ tokens.filterMap Token.query? = queryTexts tree) ∧
      StandIn text (queryTexts tree) := by
  obtain ⟨left, hc⟩ := result_ofText_eq_ok_iff.1 h
  unfold ofText
  rw [hc]
  obtain ⟨found, t, he, hc⟩ := bind_eq_ok.1 hc
  obtain ⟨token, u, hn, hc⟩ := bind_eq_ok.1 hc
  have hn := nextToken_eq_ok_iff.1 hn
  split at hc
  · rename_i hend
    subst hend
    cases hc
    obtain ⟨hcompiled, ⟨tokens, hq, hd⟩, hstand⟩ := compiles_expression he
    refine ⟨?_, ⟨tokens ++ [.endOfInput], ?_, ?_⟩, ?_⟩
    · have hu : compiledIn u = queryTexts tree := hn.compiledIn_eq.trans hcompiled
      simp only [List.reverse_cons, List.filterMap_append]
      exact (List.append_nil _).trans hu
    · obtain ⟨position, hn, -⟩ := hn
      rw [Delivers, Token.listFrom_of_endOfInput hn] at hd
      exact hd
    · rw [List.filterMap_append, hq]
      exact List.append_nil _
    · have hs := hstand .nil
      rw [List.append_nil] at hs
      exact hs
  · exact absurd hc fail_ne_ok

end Expr
end Condition
