import Condition.Json.Numbers
import Condition.Pattern.Automata
import Condition.Proofs.Compilations
import Condition.Proofs.Evaluators
import Condition.Proofs.Recursion

/-! # The runs of queries

A reduction goes from left to right through all operands, whatever truth values it meets. So where
it succeeds each query of the expression was run once, in order, and each name stands for a value
that is no document; where it fails the runs up to there were made (`RunsThrough`). Nothing is
compiled.

* `runsThrough_reduce`, `runsThrough_evaluate`: the runs of a reduction and of an evaluation.
* `lookup_of_mem_names`: the names of an expression that reduces.
* `Evaluator.queries_compiled_and_run`: what is compiled and run, whatever an evaluator did
  before. -/

namespace Condition

namespace Expr

open Journaled

variable {α β : Type}

/-! ### Outcomes and their runs -/

/-- The runs of queries among events. -/
def runsOf (events : List Event) : List (Text × Query.Mode) := events.filterMap Event.ranQuery?

/-- **An outcome makes runs** one after the other: all of them if it succeeds, and else the first
ones. It compiles nothing. -/
structure RunsThrough (outcome : Outcome α) (runs : List (Text × Query.Mode)) : Prop where
  starts : runsOf outcome.events <+: runs
  whole : ∀ {a}, outcome.result = .ok a → runsOf outcome.events = runs
  compiles : outcome.events.filterMap Event.compiledQuery? = []

theorem RunsThrough.pure (a : α) : RunsThrough (Pure.pure a : Outcome α) [] :=
  ⟨List.nil_prefix, fun _ => rfl, rfl⟩

theorem runsThrough_settled (result : Except Evaluation.Error α) :
    RunsThrough (settled result) [] :=
  ⟨List.nil_prefix, fun _ => rfl, rfl⟩

theorem RunsThrough.mapError {outcome : Outcome α} {runs : List (Text × Query.Mode)}
    (h : RunsThrough outcome runs)
    (f : Failure Operator Evaluation.Error → Failure Operator Evaluation.Error) :
    RunsThrough (outcome.mapError f) runs :=
  ⟨h.starts, fun ha => h.whole (result_mapError_eq_ok.1 ha), h.compiles⟩

theorem RunsThrough.bind {outcome : Outcome α} {next : α → Outcome β}
    {runs others : List (Text × Query.Mode)} (h : RunsThrough outcome runs)
    (hn : ∀ a, RunsThrough (next a) others) : RunsThrough (outcome >>= next) (runs ++ others) := by
  change RunsThrough (outcome.andThen next) _
  unfold andThen
  cases hr : outcome.result with
  | error e =>
    exact ⟨h.starts.trans (List.prefix_append ..), nofun, h.compiles⟩
  | ok a =>
    have hwhole := h.whole hr
    refine ⟨?_, fun {b} hb => ?_, ?_⟩
    · rw [runsOf, List.filterMap_append, ← runsOf, hwhole]
      exact (List.prefix_append_right_inj runs).2 (hn a).starts
    · rw [runsOf, List.filterMap_append, ← runsOf, hwhole]
      exact congrArg _ ((hn a).whole hb)
    · rw [List.filterMap_append, h.compiles, (hn a).compiles, List.append_nil]

theorem runsThrough_answerOf {Q : Type} [Query.Runnable Q] {args : Args} (source : Text)
    (mode : Query.Mode) (query : Q) :
    RunsThrough (answerOf args source mode query) [(source, mode)] := by
  have hrun : RunsThrough (record (.running source mode) : Outcome Unit) [(source, mode)] :=
    ⟨List.prefix_refl _, fun _ => rfl, rfl⟩
  exact hrun.bind fun _ => runsThrough_settled _

theorem lookup_of_resolve {args : Args} {name : Text} {literal : Literal}
    (h : resolve args name = .ok literal) :
    ∃ value, args.lookup name = some value ∧ value.kind ≠ .document := by
  unfold resolve at h
  cases hl : args.lookup name with
  | none =>
    rw [hl] at h
    cases h
  | some value =>
    rw [hl] at h
    refine ⟨value, rfl, fun hk => ?_⟩
    cases value with
    | document json => cases h
    | _ => cases hk

/-! ### Expressions -/

variable [Pattern.Engine] {Q : Type}

/-- The runs that the queries of an expression call for. -/
def queryRuns (e : Expr Q) : List (Text × Query.Mode) :=
  (queries e).map fun query => (query.1, query.2.1)

/-- The names in an expression. -/
def names : Expr Q → List Text
  | .binary _ left right => names left ++ names right
  | .group inner => names inner
  | .name text => [text]
  | _ => []

theorem names_of_patternFor? {op : Operator} {right : Expr Q} {p : Pattern}
    (h : patternFor? op right = some p) : names right = [] := by
  obtain ⟨rfl, -⟩ := patternFor?_eq_some h
  rfl

/-- A step runs the queries of its right operand; a pattern has none. -/
theorem runsThrough_applyStep (op : Operator) (left : Literal) {right : Expr Q}
    {reduced : Outcome Literal} (h : RunsThrough reduced (queryRuns right)) :
    RunsThrough (applyStep op left right reduced) (queryRuns right) := by
  unfold applyStep
  cases hp : patternFor? op right with
  | some p =>
    obtain ⟨rfl, -⟩ := patternFor?_eq_some hp
    exact runsThrough_settled _
  | none =>
    rw [← List.append_nil (queryRuns right)]
    exact h.bind fun _ => runsThrough_settled _

variable [Query.Runnable Q] {args : Args}

/-- **A reduction runs the queries** of the expression from left to right. -/
theorem runsThrough_reduce (e : Expr Q) : RunsThrough (reduce args e) (queryRuns e) := by
  rw [reduce_eq_reduceTree]
  -- on the tree: what the left operand reduces to has no say in the runs of the right one
  induction e with
  | binary op left right ihl ihr =>
    have h := ihl.bind fun a => (runsThrough_applyStep op a ihr).mapError (Failure.within op)
    have hruns : queryRuns (.binary op left right) = queryRuns left ++ queryRuns right :=
      List.map_append ..
    rw [hruns]
    exact h
  | group inner ih => exact ih
  | name text => exact runsThrough_settled _
  | subQuery source mode query => exact runsThrough_answerOf source mode query
  | _ => exact .pure _

theorem runsThrough_evaluate (e : Expr Q) : RunsThrough (evaluate args e) (queryRuns e) := by
  rw [← List.append_nil (queryRuns e)]
  refine (runsThrough_reduce e).bind fun literal => ?_
  cases literal with
  | boolean b =>
    have hnote : RunsThrough (record (.evaluated e.display b) : Outcome Unit) [] :=
      ⟨List.nil_prefix, fun _ => rfl, rfl⟩
    exact hnote.bind fun _ => .pure b
  | _ => exact runsThrough_settled _

/-! ### Names -/

/-- **The names of an expression that reduces** stand for values that are no documents. -/
theorem lookup_of_mem_names {e : Expr Q} {literal : Literal}
    (h : (reduce args e).result = .ok literal) {name : Text} (hm : name ∈ names e) :
    ∃ value, args.lookup name = some value ∧ value.kind ≠ .document := by
  induction e generalizing literal with
  | binary op left right ihl ihr =>
    obtain ⟨a, ha, hs⟩ := result_reduce_binary.1 h
    rcases List.mem_append.1 hm with hm | hm
    · exact ihl ha hm
    · cases hp : patternFor? op right with
      | some p =>
        rw [names_of_patternFor? hp] at hm
        cases hm
      | none =>
        obtain ⟨b, t, hb, -, -⟩ := (result_applyStep hp).1 hs
        exact ihr hb hm
  | group inner ih =>
    rw [reduce_group] at h
    exact ih h hm
  | name text =>
    rw [reduce] at h
    obtain rfl := List.mem_singleton.1 hm
    exact lookup_of_resolve (result_settled_eq_ok.1 h)
  | _ => cases hm

theorem exists_reduce_of_evaluate {e : Expr Q} {b : Bool} (h : (evaluate args e).result = .ok b) :
    ∃ literal, (reduce args e).result = .ok literal := by
  obtain ⟨literal, hr, -⟩ := result_bind_eq_ok.1 h
  exact ⟨literal, hr⟩

end Expr

/-! ### Evaluators -/

namespace Evaluator

open Condition.Expr Journaled

section

variable [Pattern.Engine] {Q : Type} [Query.Runnable Q] {args : Args}

theorem runsThrough_outcome (call : Call Q) :
    RunsThrough (call.outcome args) (queryRuns call.expr) := by
  cases call with
  | reduce e => exact runsThrough_reduce e
  | evaluate e =>
    rw [← List.append_nil (queryRuns _)]
    exact (runsThrough_evaluate e).bind fun b => .pure (Literal.boolean b)

theorem exists_reduce_of_outcome {call : Call Q} {literal : Literal}
    (h : (call.outcome args).result = .ok literal) :
    ∃ found, (Expr.reduce args call.expr).result = .ok found := by
  cases call with
  | reduce e => exact ⟨literal, h⟩
  | evaluate e =>
    obtain ⟨b, hb, -⟩ := result_bind_eq_ok.1 h
    exact exists_reduce_of_evaluate hb

/-- **No query is skipped and nothing is kept of a reduction.** A condition that is read compiles
each query of its tree once, in the order of its tokens and of the text, where they stand between
their parentheses. A call of an evaluator gives the same answer and the same events, whatever calls
were made before. It compiles nothing and runs the queries of its expression in order, and if it
succeeds each of them was run once, and each name stands for a value that is no document. -/
theorem queries_compiled_and_run [Json.Parser] (settings : Settings Q) (args : Args) :
    (∀ text tree, (Expr.ofText settings text).result = .ok tree →
      (Expr.ofText settings text).events.filterMap Event.compiledQuery? = queryTexts tree ∧
      (∃ tokens, Token.listOf text = .ok tokens ∧ tokens.filterMap Token.query? = queryTexts tree) ∧
      StandIn text (queryTexts tree) ∧
      ∀ source mode query, (source, mode, query) ∈ queries tree →
        ∃ engine, settings.engine = some engine ∧ engine source = .ok query) ∧
    ∀ (others : List (Call Q)) (call : Call Q),
      let behind := stateBehind (perform args) fresh others
      let turn := turnOf (perform args) behind call
      let first := turnOf (perform args) fresh call
      let events := first.after.journal.reverse
      turn.answer = first.answer ∧
      turn.after.journal = first.after.journal ++ behind.journal ∧
      events.filterMap Event.compiledQuery? = [] ∧
      runsOf events <+: queryRuns call.expr ∧
      ∀ literal, first.answer = .ok literal → runsOf events = queryRuns call.expr ∧
        ∀ name ∈ names call.expr,
          ∃ value, args.lookup name = some value ∧ value.kind ≠ .document := by
  refine ⟨fun text tree h => ?_, fun others call => ?_⟩
  · obtain ⟨hcompiled, htokens, hstand⟩ := compilations_of_ofText h
    exact ⟨hcompiled, htokens, hstand,
      fun source mode query hm => (arises_of_ofText h).engine_of_mem_queries hm⟩
  · intro behind turn first events
    have hfresh : Sound args fresh := .inl rfl
    obtain ⟨-, hfirst, hjournal⟩ := turnOf_perform hfresh call
    obtain ⟨-, hturn, hbehind⟩ := turnOf_perform (sound_stateBehind hfresh others) call
    have hj : first.after.journal = (call.outcome args).events.reverse :=
      hjournal.trans (List.append_nil _)
    have hevents : events = (call.outcome args).events := by
      rw [← List.reverse_reverse (call.outcome args).events, ← hj]
    have hruns : RunsThrough (call.outcome args) _ := runsThrough_outcome call
    refine ⟨hturn.trans hfirst.symm, by rw [hj]; exact hbehind, ?_, ?_, fun literal hl => ⟨?_, ?_⟩⟩
    · rw [hevents]
      exact hruns.compiles
    · rw [hevents]
      exact hruns.starts
    · rw [hevents]
      exact hruns.whole (hfirst.symm.trans hl)
    · intro name hm
      obtain ⟨found, hr⟩ := exists_reduce_of_outcome (hfirst.symm.trans hl)
      exact lookup_of_mem_names hr hm

end

/-- Behind `FALSE AND` a query is run all the same, again by an evaluator that ran it before. -/
theorem queries_compiled_and_run_behind_false :
    let settings : Settings Path := { engine := some Path.ofText }
    let args : Args := [(['a'], .string ['k']), (['x'], .string ['k'])]
    ∃ tree, (Expr.ofText settings "FALSE AND $jq(.a) == x".toList).result = .ok tree ∧
      queryTexts tree = [['.', 'a']] ∧ StandIn "FALSE AND $jq(.a) == x".toList (queryTexts tree) ∧
      let first := turnOf (perform args) fresh (.evaluate tree)
      let again := turnOf (perform args) (stateBehind (perform args) fresh [.evaluate tree])
        (.evaluate tree)
      first.answer.toOption = some (.boolean false) ∧ again.answer = first.answer ∧
        runsOf first.after.journal.reverse = [(['.', 'a'], .first)] := by
  intro settings args
  have hany : (Expr.ofText settings "FALSE AND $jq(.a) == x".toList).result.toOption.any
      (fun tree =>
      queryTexts tree == [['.', 'a']] && queryRuns tree == [(['.', 'a'], .first)] &&
        (turnOf (perform args) fresh (.evaluate tree)).answer.toOption ==
          some (.boolean false)) = true := by
    decide +kernel
  obtain ⟨tree, h, hp⟩ := exists_ofText_of_any hany
  simp only [Bool.and_eq_true, beq_iff_eq] at hp
  obtain ⟨⟨htexts, hruns⟩, hfalse⟩ := hp
  obtain ⟨hread, hcalls⟩ := queries_compiled_and_run settings args
  obtain ⟨hagain, -, -, -, hwhole⟩ := hcalls [.evaluate tree] (.evaluate tree)
  refine ⟨tree, h, htexts, (hread _ tree h).2.2.1, hfalse, hagain, ?_⟩
  cases ha : (turnOf (perform args) fresh (.evaluate tree)).answer with
  | error e =>
    rw [ha] at hfalse
    cases hfalse
  | ok literal => exact (hwhole literal ha).1.trans hruns

end Evaluator
end Condition
