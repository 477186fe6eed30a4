import Condition.Json.Numbers
import Condition.Pattern.Automata
import Condition.Proofs.Limits

/-! # Parsers that count their open groups

A parser as a state machine (`Parser`): it counts the groups that it has open, opens one only while
the limit allows, and closes it before it looks at what came of the reading in it (`Runs`). Whatever
comes of a call, the parser is left with the groups open that were open before, and a call comes to
what the reading with the remaining room comes to (`Runs.eq_holding`, `exists_runs`). So one call
takes no room from the next (`runsAll_iff`). -/

namespace Condition.Expr

open Reading

section

variable [Pattern.Engine] {Q : Type} {settings : Settings Q}

/-! ### Parsers -/

/-- **A parser at work**: what it has left to read, and how many groups it has open. -/
structure Parser where
  input : ReadState
  opened : Nat

/-- What a call on a parser comes to, and the parser behind it. -/
structure Answer (Q : Type) where
  result : Except (ReadFailure Q) (Expr Q)
  parser : Parser

/-- The tree that an error leaves behind, where a token is too many. -/
def Error.partialTree? : Expr.Error Q → Option (Expr Q)
  | .trailingToken _ tree => some tree
  | _ => none

/-- **The tree of an answer**: the one that was read, or the one that an error left behind. -/
def Answer.tree? (answer : Answer Q) : Option (Expr Q) :=
  match answer.result with
  | .ok tree => some tree
  | .error failure => failure.cause.partialTree?

/-- The answer of a reading, for a parser with a number of open groups. -/
def holding (opened : Nat) : EStateM.Result (ReadFailure Q) ReadState (Expr Q) → Answer Q
  | .ok tree left => ⟨.ok tree, left, opened⟩
  | .error failure left => ⟨.error failure, left, opened⟩

theorem opened_holding (opened : Nat) (result : EStateM.Result (ReadFailure Q) ReadState (Expr Q)) :
    (holding opened result).parser.opened = opened := by
  cases result <;> rfl

theorem eq_holding_ok_iff {opened : Nat}
    {result : EStateM.Result (ReadFailure Q) ReadState (Expr Q)} {tree : Expr Q} {p : Parser} :
    ⟨.ok tree, p⟩ = holding opened result ↔ result = .ok tree p.input ∧ p.opened = opened := by
  constructor
  · intro h
    cases result with
    | ok => cases h; exact ⟨rfl, rfl⟩
    | error => cases h
  · rintro ⟨rfl, rfl⟩
    rfl

theorem eq_holding_error_iff {opened : Nat}
    {result : EStateM.Result (ReadFailure Q) ReadState (Expr Q)} {failure : ReadFailure Q}
    {p : Parser} : ⟨.error failure, p⟩ = holding opened result ↔
      result = .error failure p.input ∧ p.opened = opened := by
  constructor
  · intro h
    cases result with
    | ok => cases h
    | error => cases h; exact ⟨rfl, rfl⟩
  · rintro ⟨rfl, rfl⟩
    rfl

/-! ### Steps of a reading -/

theorem bind_of_ok {α β : Type} {read : Reading Q α} {next : α → Reading Q β}
    {s t : ReadState} {a : α} (h : read s = .ok a t) : (read >>= next) s = next a t := by
  change EStateM.bind read next s = _
  unfold EStateM.bind
  rw [h]

theorem within_of_error {α : Type} {context : Context} {read : Reading Q α} {s t : ReadState}
    {failure : ReadFailure Q} (h : read s = .error failure t) :
    within context read s = .error (failure.within context) t := by
  unfold within
  rw [h]

theorem readOperators_rightFails {operand : Reader Q (Expr Q)} (tree : Expr Q) {s t u : ReadState}
    {op : Operator} {failure : ReadFailure Q}
    (hn : (nextToken : Reading Q Token) s = .ok (.operator op) t)
    (hr : operand.run t = .error failure u) :
    readOperators settings operand tree s = .error (failure.within .rightOperand) u := by
  have hright : within .rightOperand operand.run t = .error (failure.within .rightOperand) u :=
    within_of_error hr
  rw [readOperators_eq]
  simp only [hn, hright]

/-! ### Calls -/

/-- What a parser can be called for. -/
inductive Routine (Q : Type) where
  | operand
  | operators (tree : Expr Q)
  | expression
  | condition

/-- The end of a group, behind the expression in it. -/
def endGroup (tree : Expr Q) : Reading Q (Expr Q) := do
  let closing ← nextToken
  if closing = .rightParen then return .group tree else fail (.missingParen closing)

/-- The end of a condition, behind its expression. -/
def endCondition (tree : Expr Q) : Reading Q (Expr Q) := do
  let token ← nextToken
  if token = .endOfInput then
    record (.parsed tree.display)
    return tree
  else fail (.trailingInput token)

variable [Json.Parser]

/-- The reading that a call stands for, with room for a number of further groups. -/
def Routine.read (settings : Settings Q) (room : Nat) : Routine Q → Reading Q (Expr Q)
  | .operand => (operandReader settings room).run
  | .operators tree => readOperators settings (operandReader settings room) tree
  | .expression => readExpression settings (operandReader settings room)
  | .condition => readExpression settings (operandReader settings room) >>= endCondition

/-- **The calls of a parser**, each with the parser in front of it and its answer. A group is
counted while the expression in it is read, and no longer, whether that fails or not. -/
inductive Runs (settings : Settings Q) : Routine Q → Parser → Answer Q → Prop where
  | noOperand {s t : ReadState} {opened : Nat} {failure : ReadFailure Q}
    (hn : (nextToken : Reading Q Token) s = .error failure t) :
    Runs settings .operand ⟨s, opened⟩ ⟨.error failure, t, opened⟩
  | leaf {s t : ReadState} {opened : Nat} {token : Token}
    (hn : (nextToken : Reading Q Token) s = .ok token t) (ht : token ≠ .leftParen) :
    Runs settings .operand ⟨s, opened⟩ (holding opened (readLeaf settings token t))
  | tooDeep {s t : ReadState} {opened : Nat}
    (hn : (nextToken : Reading Q Token) s = .ok .leftParen t) (hd : settings.maxNesting ≤ opened) :
    Runs settings .operand ⟨s, opened⟩
      ⟨.error (.ofCause (.tooDeep settings.maxNesting)), t, opened⟩
  | groupFails {s t : ReadState} {opened : Nat} {failure : ReadFailure Q} {p : Parser}
    (hn : (nextToken : Reading Q Token) s = .ok .leftParen t) (hd : opened < settings.maxNesting)
    (h : Runs settings .expression ⟨t, opened + 1⟩ ⟨.error failure, p⟩) :
    Runs settings .operand ⟨s, opened⟩
      ⟨.error (failure.within .group), p.input, p.opened - 1⟩
  | group {s t : ReadState} {opened : Nat} {tree : Expr Q} {p : Parser}
    (hn : (nextToken : Reading Q Token) s = .ok .leftParen t) (hd : opened < settings.maxNesting)
    (h : Runs settings .expression ⟨t, opened + 1⟩ ⟨.ok tree, p⟩) :
    Runs settings .operand ⟨s, opened⟩ (holding (p.opened - 1) (endGroup tree p.input))
  | noOperator {tree : Expr Q} {s t : ReadState} {opened : Nat} {failure : ReadFailure Q}
    (hn : (nextToken : Reading Q Token) s = .error failure t) :
    Runs settings (.operators tree) ⟨s, opened⟩ ⟨.error failure, t, opened⟩
  | ends {tree : Expr Q} {s t : ReadState} {opened : Nat} {token : Token}
    (hn : (nextToken : Reading Q Token) s = .ok token t) (he : token.endsExpression = true) :
    Runs settings (.operators tree) ⟨s, opened⟩
      (holding opened ((do putBack; return tree : Reading Q (Expr Q)) t))
  | trails {tree : Expr Q} {s t : ReadState} {opened : Nat} {token : Token}
    (hn : (nextToken : Reading Q Token) s = .ok token t) (he : token.endsExpression = false)
    (ho : ∀ op, token ≠ .operator op) :
    Runs settings (.operators tree) ⟨s, opened⟩
      ⟨.error (.ofCause (.trailingToken token tree)), t, opened⟩
  | rightFails {tree : Expr Q} {s t : ReadState} {opened : Nat} {op : Operator}
    {failure : ReadFailure Q} {p : Parser}
    (hn : (nextToken : Reading Q Token) s = .ok (.operator op) t)
    (h : Runs settings .operand ⟨t, opened⟩ ⟨.error failure, p⟩) :
    Runs settings (.operators tree) ⟨s, opened⟩ ⟨.error (failure.within .rightOperand), p⟩
  | joins {tree right : Expr Q} {s t : ReadState} {opened : Nat} {op : Operator} {p : Parser}
    {answer : Answer Q} (hn : (nextToken : Reading Q Token) s = .ok (.operator op) t)
    (hr : Runs settings .operand ⟨t, opened⟩ ⟨.ok right, p⟩)
    (h : Runs settings (.operators (tree.insert settings.precedence op (asRightOperand op right))) p
      answer) :
    Runs settings (.operators tree) ⟨s, opened⟩ answer
  | firstFails {p q : Parser} {failure : ReadFailure Q}
    (h : Runs settings .operand p ⟨.error failure, q⟩) :
    Runs settings .expression p ⟨.error (failure.within .operand), q⟩
  | chain {p q : Parser} {first : Expr Q} {answer : Answer Q}
    (hf : Runs settings .operand p ⟨.ok first, q⟩)
    (h : Runs settings (.operators first) q answer) : Runs settings .expression p answer
  | noCondition {p q : Parser} {failure : ReadFailure Q}
    (h : Runs settings .expression p ⟨.error failure, q⟩) :
    Runs settings .condition p ⟨.error failure, q⟩
  | condition {p q : Parser} {tree : Expr Q} (h : Runs settings .expression p ⟨.ok tree, q⟩) :
    Runs settings .condition p (holding q.opened (endCondition tree q.input))

/-! ### What a call comes to -/

/-- Where a group may be opened, it is read with room for one group less. -/
theorem run_operandReader_sub {opened : Nat} (hd : opened < settings.maxNesting) :
    (operandReader settings (settings.maxNesting - opened)).run =
      readOperand settings (some (readExpression settings
        (operandReader settings (settings.maxNesting - (opened + 1))))) := by
  have hroom : settings.maxNesting - opened = settings.maxNesting - (opened + 1) + 1 := by omega
  rw [hroom, run_operandReader_succ]

theorem readOperand_leftParen {inner : Reading Q (Expr Q)} {s t : ReadState}
    (hn : (nextToken : Reading Q Token) s = .ok .leftParen t) :
    readOperand settings (some inner) s = (within .group inner >>= endGroup) t := by
  unfold readOperand
  rw [bind_of_ok hn, if_pos rfl]
  rfl

theorem run_operandReader_of_ne {room : Nat} {s t : ReadState} {token : Token}
    (hn : (nextToken : Reading Q Token) s = .ok token t) (ht : token ≠ .leftParen) :
    (operandReader settings room).run s = readLeaf settings token t := by
  cases room with
  | zero | succ =>
    simp only [run_operandReader_zero, run_operandReader_succ]
    unfold readOperand
    rw [bind_of_ok hn, if_neg ht]

theorem run_operandReader_of_error {room : Nat} {s t : ReadState} {failure : ReadFailure Q}
    (hn : (nextToken : Reading Q Token) s = .error failure t) :
    (operandReader settings room).run s = .error failure t := by
  cases room with
  | zero | succ => exact bind_eq_error.2 (.inl hn)

/-- **What a call comes to**: the answer of its reading with the room that the open groups leave.
The parser behind it has the groups open that were open before. -/
theorem Runs.eq_holding {routine : Routine Q} {p : Parser} {answer : Answer Q}
    (h : Runs settings routine p answer) :
    answer = holding p.opened (routine.read settings (settings.maxNesting - p.opened) p.input) := by
  -- by the rules: what is called inside left just as many groups open as it found
  induction h with
  | noOperand hn => exact eq_holding_error_iff.2 ⟨run_operandReader_of_error hn, rfl⟩
  | leaf hn ht => exact congrArg (holding _) (run_operandReader_of_ne hn ht).symm
  | @tooDeep s t opened hn hd =>
    refine eq_holding_error_iff.2 ⟨?_, rfl⟩
    change (operandReader settings (settings.maxNesting - opened)).run s = _
    rw [Nat.sub_eq_zero_of_le hd, run_operandReader_zero]
    exact bind_of_ok hn
  | @groupFails s t opened failure p hn hd _ ih =>
    obtain ⟨hr, ho⟩ := eq_holding_error_iff.1 ih
    refine eq_holding_error_iff.2 ⟨?_, Nat.sub_eq_of_eq_add ho⟩
    change (operandReader settings (settings.maxNesting - opened)).run s = _
    rw [run_operandReader_sub hd, readOperand_leftParen hn]
    exact bind_eq_error.2 (.inl (within_of_error hr))
  | @group s t opened tree p hn hd _ ih =>
    obtain ⟨hr, ho⟩ := eq_holding_ok_iff.1 ih
    have hread : (operandReader settings (settings.maxNesting - opened)).run s =
        endGroup tree p.input := by
      rw [run_operandReader_sub hd, readOperand_leftParen hn]
      exact bind_of_ok (within_eq_ok.2 hr)
    rw [Nat.sub_eq_of_eq_add ho]
    exact congrArg (holding opened) hread.symm
  | @noOperator tree s t opened failure hn =>
    refine eq_holding_error_iff.2 ⟨?_, rfl⟩
    change readOperators settings _ tree s = _
    rw [readOperators_eq, hn]
  | @ends tree s t opened token hn he =>
    refine congrArg (holding opened) (Eq.symm ?_)
    change readOperators settings _ tree s = _
    rw [readOperators_eq, hn]
    cases token with
    | endOfInput | leftParen | rightParen => rfl
    | _ => cases he
  | trails hn he ho =>
    exact eq_holding_error_iff.2
      ⟨readOperators_trailsAt _ ⟨nextToken_eq_ok_iff.1 hn, he, ho⟩, rfl⟩
  | @rightFails tree s t opened op failure p hn _ ih =>
    obtain ⟨hr, ho⟩ := eq_holding_error_iff.1 ih
    exact eq_holding_error_iff.2 ⟨readOperators_rightFails tree hn hr, ho⟩
  | @joins tree right s t opened op p answer hn _ _ ihr ih =>
    obtain ⟨hr, ho⟩ := eq_holding_ok_iff.1 ihr
    rw [ih, ho]
    exact congrArg (holding opened) (readOperators_step tree (nextToken_eq_ok_iff.1 hn) hr).symm
  | firstFails _ ih =>
    obtain ⟨hr, ho⟩ := eq_holding_error_iff.1 ih
    exact eq_holding_error_iff.2 ⟨bind_eq_error.2 (.inl (within_of_error hr)), ho⟩
  | @chain p q first answer _ _ ihf ih =>
    obtain ⟨hf, ho⟩ := eq_holding_ok_iff.1 ihf
    rw [ih, ho]
    exact congrArg (holding p.opened) (bind_of_ok (within_eq_ok.2 hf)).symm
  | noCondition _ ih =>
    obtain ⟨hr, ho⟩ := eq_holding_error_iff.1 ih
    exact eq_holding_error_iff.2 ⟨bind_eq_error.2 (.inl hr), ho⟩
  | @condition p q tree _ ih =>
    obtain ⟨hr, ho⟩ := eq_holding_ok_iff.1 ih
    rw [ho]
    exact congrArg (holding p.opened) (bind_of_ok hr).symm

/-- **A call leaves** as many groups open as it found. -/
theorem Runs.opened_eq {routine : Routine Q} {p : Parser} {answer : Answer Q}
    (h : Runs settings routine p answer) : answer.parser.opened = p.opened := by
  rw [h.eq_holding]
  exact opened_holding _ _

/-! ### Every call comes to something -/

theorem exists_runs_operand {opened : Nat}
    (hin : opened < settings.maxNesting → ∀ s, ∃ answer, Runs settings .expression
      ⟨s, opened + 1⟩ answer)
    (s : ReadState) : ∃ answer, Runs settings .operand ⟨s, opened⟩ answer := by
  cases hn : (nextToken : Reading Q Token) s with
  | error failure t => exact ⟨_, .noOperand hn⟩
  | ok token t =>
    by_cases ht : token = .leftParen
    · subst ht
      by_cases hd : opened < settings.maxNesting
      · obtain ⟨⟨_ | _, p⟩, h⟩ := hin hd t
        · exact ⟨_, .groupFails hn hd h⟩
        · exact ⟨_, .group hn hd h⟩
      · exact ⟨_, .tooDeep hn (Nat.le_of_not_lt hd)⟩
    · exact ⟨_, .leaf hn ht⟩

theorem exists_runs_operators {opened : Nat}
    (hop : ∀ s, ∃ answer, Runs settings .operand ⟨s, opened⟩ answer) (tree : Expr Q)
    (s : ReadState) : ∃ answer, Runs settings (.operators tree) ⟨s, opened⟩ answer := by
  fun_induction readOperators settings (operandReader settings (settings.maxNesting - opened))
      tree s with
  | case1 tree s failure t hn => exact ⟨_, .noOperator hn⟩
  | case2 tree s t hn | case3 tree s t hn | case4 tree s t hn => exact ⟨_, .ends hn rfl⟩
  | case5 tree s op t hn failure u hr =>
    obtain ⟨⟨_ | right, p⟩, h⟩ := hop t
    · exact ⟨_, .rightFails hn h⟩
    · have hok : within .rightOperand (operandReader settings (settings.maxNesting - opened)).run
          t = .ok right p.input := within_eq_ok.2 (eq_holding_ok_iff.1 h.eq_holding).1
      cases hr.symm.trans hok
  | case6 tree s op t hn right u hr ih =>
    obtain ⟨answer, h⟩ := ih
    obtain ⟨inner, hright⟩ := hop t
    have hread : (operandReader settings (settings.maxNesting - opened)).run t = .ok right u :=
      within_eq_ok.1 hr
    have hinner : inner = ⟨.ok right, u, opened⟩ := by
      rw [hright.eq_holding]
      simp only [Routine.read, hread]
      rfl
    rw [hinner] at hright
    exact ⟨answer, .joins hn hright h⟩
  | case7 tree s token t he hl hr ho hn =>
    refine ⟨_, .trails hn ?_ ho⟩
    cases token with
    | endOfInput => exact absurd rfl he
    | leftParen => exact absurd rfl hl
    | rightParen => exact absurd rfl hr
    | _ => rfl

theorem exists_runs_expression {p : Parser}
    (hop : ∀ s, ∃ answer, Runs settings .operand ⟨s, p.opened⟩ answer) :
    ∃ answer, Runs settings .expression p answer := by
  obtain ⟨⟨_ | first, q⟩, hf⟩ := hop p.input
  · exact ⟨_, .firstFails hf⟩
  · obtain ⟨s, opened⟩ := q
    have ho : opened = p.opened := hf.opened_eq
    subst ho
    obtain ⟨answer, h⟩ := exists_runs_operators hop first s
    exact ⟨answer, .chain hf h⟩

/-- **Every call comes to something.** -/
theorem exists_runs (routine : Routine Q) (p : Parser) :
    ∃ answer, Runs settings routine p answer := by
  have hop : ∀ room opened, settings.maxNesting - opened = room → ∀ s,
      ∃ answer, Runs settings .operand ⟨s, opened⟩ answer := by
    -- on the groups that may still be opened
    intro room
    induction room with
    | zero => exact fun opened hroom s => exists_runs_operand (fun hd => absurd hd (by omega)) s
    | succ room ih =>
      exact fun opened hroom s => exists_runs_operand
        (fun hd t => exists_runs_expression (ih (opened + 1) (by omega))) s
  have hop := hop _ p.opened rfl
  cases routine with
  | operand => exact hop p.input
  | operators tree => exact exists_runs_operators hop tree p.input
  | expression => exact exists_runs_expression hop
  | condition =>
    obtain ⟨⟨_ | tree, q⟩, h⟩ := exists_runs_expression hop
    · exact ⟨_, .noCondition h⟩
    · exact ⟨_, .condition h⟩

/-! ### One call after the other -/

/-- The calls that a parser offers. -/
inductive Entry where
  | expression
  | condition

/-- What is called there. -/
def Entry.routine : Entry → Routine Q
  | .expression => .expression
  | .condition => .condition

/-- The reading of a parser without open groups. -/
def Entry.read (settings : Settings Q) : Entry → Reading Q (Expr Q)
  | .expression => Expr.expression settings
  | .condition => Expr.condition settings

/-- **Calls on one parser**, one after the other, whatever they come to. -/
inductive RunsAll (settings : Settings Q) : List Entry → Parser → List (Answer Q) → Prop where
  | nil (p : Parser) : RunsAll settings [] p []
  | cons {entry : Entry} {entries : List Entry} {p : Parser} {answer : Answer Q}
    {answers : List (Answer Q)} (h : Runs settings entry.routine p answer)
    (hs : RunsAll settings entries answer.parser answers) :
    RunsAll settings (entry :: entries) p (answer :: answers)

/-- The readings of the calls, one after the other, none of them with groups that are open. -/
def readAll (settings : Settings Q) : List Entry → ReadState → List (Answer Q)
  | [], _ => []
  | entry :: entries, s =>
    let answer := holding 0 (entry.read settings s)
    answer :: readAll settings entries answer.parser.input

theorem RunsAll.opened_eq {entries : List Entry} {p : Parser} {answers : List (Answer Q)}
    (h : RunsAll settings entries p answers) :
    ∀ answer ∈ answers, answer.parser.opened = p.opened := by
  induction h with
  | nil => exact fun _ hm => nomatch hm
  | cons h _ ih =>
    rw [h.opened_eq] at ih
    exact List.forall_mem_cons.2 ⟨h.opened_eq, ih⟩

theorem runs_entry_iff {entry : Entry} {s : ReadState} {answer : Answer Q} :
    Runs settings entry.routine ⟨s, 0⟩ answer ↔ answer = holding 0 (entry.read settings s) := by
  have hread : ∀ answer, Runs settings entry.routine ⟨s, 0⟩ answer →
      answer = holding 0 (entry.read settings s) := by
    intro answer h
    cases entry with
    | expression | condition => exact h.eq_holding
  constructor
  · exact hread answer
  · rintro rfl
    obtain ⟨answer, h⟩ : ∃ answer : Answer Q, Runs settings entry.routine ⟨s, 0⟩ answer :=
      exists_runs _ _
    rw [← hread answer h]
    exact h

/-- **Calls on a new parser** come to what the readings come to, each with all the room there is. -/
theorem runsAll_iff {entries : List Entry} {s : ReadState} {answers : List (Answer Q)} :
    RunsAll settings entries ⟨s, 0⟩ answers ↔ answers = readAll settings entries s := by
  induction entries generalizing s answers with
  | nil =>
    constructor
    · rintro ⟨⟩
      rfl
    · rintro rfl
      exact .nil _
  | cons entry entries ih =>
    have hleft : ∀ {answer}, answer = holding 0 (entry.read settings s) →
        answer.parser = ⟨answer.parser.input, 0⟩ := by
      rintro answer rfl
      cases entry.read settings s <;> rfl
    constructor
    · rintro (_ | ⟨h, hs⟩)
      have ho := runs_entry_iff.1 h
      rw [hleft ho] at hs
      rw [ih.1 hs, ho, readAll]
    · rintro rfl
      refine .cons (runs_entry_iff.2 rfl) ?_
      rw [hleft rfl]
      exact ih.2 rfl

/-- **Each of the calls** meets what is known of the steps, if behind an error no less is known of
the tokens than in front of it. -/
theorem meets_of_mem_readAll {I : Lookahead → Prop} {T : Expr Q → Prop} {C : Expr.Error Q → Prop}
    (h : Rules settings I I T C) {entries : List Entry} {s : ReadState} (hs : I s.tokens)
    {answer : Answer Q} (hm : answer ∈ readAll settings entries s) :
    (∀ tree, answer.result = .ok tree → T tree) ∧
      ∀ failure, answer.result = .error failure → C failure.cause := by
  induction entries generalizing s with
  | nil => cases hm
  | cons entry entries ih =>
    have hentry : MeetsTree I I T C (entry.read settings) := by
      cases entry with
      | expression => exact meets_expression h
      | condition => exact meets_condition h
    obtain ⟨hok, herror⟩ := hentry s hs
    rw [readAll] at hm
    cases hr : entry.read settings s with
    | ok tree left =>
      rw [hr] at hm
      obtain ⟨ht, hi⟩ := hok tree left hr
      rcases List.mem_cons.1 hm with rfl | hm
      · exact ⟨by rintro tree ⟨⟩; exact ht, by rintro failure ⟨⟩⟩
      · exact ih hi hm
    | error failure left =>
      rw [hr] at hm
      obtain ⟨hc, hi⟩ := herror failure left hr
      rcases List.mem_cons.1 hm with rfl | hm
      · exact ⟨by rintro tree ⟨⟩, by rintro failure ⟨⟩; exact hc⟩
      · exact ih hi hm

/-- The tree of each of the calls is one of those, if a tree that is left behind is. -/
theorem tree_of_mem_readAll {I : Lookahead → Prop} {T : Expr Q → Prop} {C : Expr.Error Q → Prop}
    (h : Rules settings I I T C)
    (hC : ∀ cause tree, C cause → cause.partialTree? = some tree → T tree)
    {entries : List Entry} {s : ReadState} (hs : I s.tokens) {answer : Answer Q}
    (hm : answer ∈ readAll settings entries s) {tree : Expr Q} (ht : answer.tree? = some tree) :
    T tree := by
  obtain ⟨hok, herror⟩ := meets_of_mem_readAll h hs hm
  unfold Answer.tree? at ht
  split at ht
  · rename_i found hr
    obtain rfl := Option.some.inj ht
    exact hok _ hr
  · rename_i failure hr
    exact hC _ tree (herror failure hr) ht

/-! ### The limit -/

/-- **The limit on nested groups**: unless a group stands deeper than the limit, a wider limit gives
the same result; a condition that is read with one limit is read with another just if its groups
keep that one; and of calls on one parser each is the reading with all the room there is, with as
many groups open behind it as in front of it, whatever it comes to. -/
theorem nesting_limit (settings : Settings Q) :
    (∀ (text : Text) (k k' : Nat), k ≤ k' →
      (∀ failure, (ofText { settings with maxNesting := k } text).result = .error failure →
        ¬ IsTooDeep failure) →
      ofText { settings with maxNesting := k' } text =
        ofText { settings with maxNesting := k } text) ∧
    (∀ (text : Text) (k' : Nat) (tree : Expr Q),
      (ofText { settings with maxNesting := k' } text).result = .ok tree → ∀ k,
        (∃ other, (ofText { settings with maxNesting := k } text).result = .ok other) ↔
          nesting tree ≤ k) ∧
    (∀ (entries : List Entry) (s : ReadState) (answers : List (Answer Q)),
      RunsAll settings entries ⟨s, 0⟩ answers ↔ answers = readAll settings entries s) ∧
    ∀ (entries : List Entry) (p : Parser) (answers : List (Answer Q)),
      RunsAll settings entries p answers → ∀ answer ∈ answers, answer.parser.opened = p.opened := by
  refine ⟨fun text k k' hle hroom => ?_, fun text k' tree h k => exists_ofText_iff_nesting_le h,
    fun _ _ _ => runsAll_iff, fun _ _ _ h => h.opened_eq⟩
  refine (ofText_of_le hle text).resolve_left ?_
  rintro ⟨failure, hf, hd⟩
  exact hroom failure hf hd

end

/-- With two groups in each other: a limit of three is no better than two where a group is not
closed, and a limit of one is too small; and a call behind one that found a group too deep has all
the room again. -/
theorem nesting_limit_of_two_groups :
    let wide : Settings Empty := { maxNesting := 2 }
    let narrow : Settings Empty := { maxNesting := 1 }
    let calls := readAll narrow [.expression, .condition] (.ofText "(((b)".toList)
    (∀ failure, (ofText wide "((a)".toList).result = .error failure → ¬ IsTooDeep failure) ∧
      ofText { wide with maxNesting := 3 } "((a)".toList = ofText wide "((a)".toList ∧
    (∃ tree, (ofText wide "((a))".toList).result = .ok tree ∧
      ((∃ other, (ofText narrow "((a))".toList).result = .ok other) ↔ nesting tree ≤ 1)) ∧
    calls.map (fun answer => answer.result.isOk) = [false, true] ∧
      ∀ answer ∈ calls, answer.parser.opened = 0 := by
  intro wide narrow calls
  obtain ⟨hwide, hread, hcalls, hopened⟩ := nesting_limit wide
  have hroom : ∀ failure, (ofText wide "((a)".toList).result = .error failure →
      ¬ IsTooDeep failure := by
    have hcause : (match (ofText wide "((a)".toList).result with
      | .error ⟨_, .tooDeep _⟩ => false
      | _ => true) = true := by decide +kernel
    rintro ⟨contexts, cause⟩ hf ⟨limit, rfl⟩
    rw [hf] at hcause
    cases hcause
  have hany : (ofText wide "((a))".toList).result.toOption.any (fun _ => true) = true := by
    decide +kernel
  obtain ⟨tree, htree, -⟩ := exists_ofText_of_any hany
  refine ⟨hroom, hwide _ 2 3 (by decide) hroom, ⟨tree, htree, hread _ 2 tree htree 1⟩,
    by decide +kernel, ?_⟩
  exact (nesting_limit narrow).2.2.2 _ ⟨_, 0⟩ _ ((nesting_limit narrow).2.2.1 _ _ _ |>.2 rfl)

end Condition.Expr
