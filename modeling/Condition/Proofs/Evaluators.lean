import Condition.Evaluator
import Condition.Proofs.Sessions

/-! # Evaluators and reductions

Whatever an evaluator did before, its document is that of its arguments or not made yet (`Sound`).
So an evaluator does what the reduction by itself does, with the same events (`Agrees`), and the
next call finds it as if it were fresh.

* `agrees_reduce`, `agrees_perform`: the calls of an evaluator are reductions.
* `turnOf_perform`, `sound_stateBehind`: a call, and what calls leave to the next one. -/

namespace Condition.Evaluator

variable {α β : Type} {args : Args}

/-! ### Work that agrees with a reduction -/

/-- The document is that of the arguments, if it is made. -/
def Sound (args : Args) (s : Evaluator) : Prop :=
  s.document = none ∨ s.document = some (Args.toJson args)

/-- How work ends that leaves an evaluator behind. -/
def ending (result : Except (Failure Operator Evaluation.Error) α) (left : Evaluator) :
    EStateM.Result (Failure Operator Evaluation.Error) Evaluator α :=
  match result with
  | .ok a => .ok a left
  | .error e => .error e left

/-- **From every sound evaluator** some work ends as the outcome does, adds its events, and leaves a
sound evaluator. -/
def Agrees (args : Args) (work : Work α) (outcome : Expr.Outcome α) : Prop :=
  ∀ s, Sound args s → ∃ left, Sound args left ∧
    left.journal = outcome.events.reverse ++ s.journal ∧ work s = ending outcome.result left

theorem Agrees.pure (a : α) : Agrees args (Pure.pure a) (Pure.pure a) :=
  fun s hs => ⟨s, hs, rfl, rfl⟩

theorem Agrees.bind {work : Work α} {outcome : Expr.Outcome α} {next : α → Work β}
    {after : α → Expr.Outcome β} (h : Agrees args work outcome)
    (hn : ∀ a, Agrees args (next a) (after a)) :
    Agrees args (work >>= next) (outcome >>= after) := by
  intro s hs
  obtain ⟨t, ht, hj, hw⟩ := h s hs
  change ∃ left, _ ∧ left.journal = (outcome.andThen after).events.reverse ++ _ ∧
    EStateM.bind work next s = ending (outcome.andThen after).result left
  unfold EStateM.bind Journaled.andThen
  rw [hw]
  cases outcome.result with
  | error e => exact ⟨t, ht, hj, rfl⟩
  | ok a =>
    obtain ⟨left, hl, hjl, hwl⟩ := hn a t ht
    refine ⟨left, hl, ?_, hwl⟩
    rw [hjl, hj, List.reverse_append, List.append_assoc]

theorem Agrees.map {work : Work α} {outcome : Expr.Outcome α} (h : Agrees args work outcome)
    (f : α → β) : Agrees args (f <$> work) (f <$> outcome) := by
  have hw : f <$> work = work >>= fun a => Pure.pure (f a) := by
    funext s
    change EStateM.map f work s = EStateM.bind work _ s
    unfold EStateM.map EStateM.bind
    cases work s <;> rfl
  rw [hw]
  exact h.bind fun a => .pure (f a)

theorem agrees_settled (result : Except Evaluation.Error α) :
    Agrees args (settled result) (Expr.settled result) := by
  intro s hs
  cases result with
  | ok a => exact ⟨s, hs, rfl, rfl⟩
  | error e => exact ⟨s, hs, rfl, rfl⟩

theorem agrees_record (event : Event) : Agrees args (record event) (Journaled.record event) :=
  fun s hs => ⟨{ s with journal := event :: s.journal }, hs, rfl, rfl⟩

theorem Agrees.within {work : Work α} {outcome : Expr.Outcome α} (h : Agrees args work outcome)
    (op : Operator) : Agrees args (within op work) (outcome.mapError (Failure.within op)) := by
  intro s hs
  obtain ⟨left, hl, hj, hw⟩ := h s hs
  refine ⟨left, hl, hj, ?_⟩
  unfold Evaluator.within Journaled.mapError
  rw [hw]
  cases outcome.result <;> rfl

/-- **The document** is that of the arguments, whether it was made before or not. -/
theorem agrees_documentOf : Agrees args (documentOf args) (Pure.pure (Args.toJson args)) := by
  rintro ⟨document, journal⟩ (hs | hs)
  · cases hs
    exact ⟨⟨some (Args.toJson args), journal⟩, .inr rfl, rfl, rfl⟩
  · cases hs
    exact ⟨⟨some (Args.toJson args), journal⟩, .inr rfl, rfl, rfl⟩

/-! ### Reductions -/

variable {Q : Type}

theorem agrees_answerOf [Query.Runnable Q] (source : Text) (mode : Query.Mode) (query : Q) :
    Agrees args (answerOf args source mode query) (Expr.answerOf args source mode query) := by
  refine (agrees_record (.running source mode)).bind fun _ => ?_
  exact agrees_documentOf.bind fun document =>
    agrees_settled (Literal.collapse source mode (Query.Runnable.run query document))

variable [Pattern.Engine]

theorem agrees_applyStep (op : Operator) (left : Literal) (right : Expr Q) {reduced : Work Literal}
    {outcome : Expr.Outcome Literal} (h : Agrees args reduced outcome) :
    Agrees args (applyStep op left right reduced) (Expr.applyStep op left right outcome) := by
  unfold applyStep Expr.applyStep
  cases Expr.patternFor? op right with
  | some p => exact agrees_settled _
  | none => exact h.bind fun _ => agrees_settled _

variable [Query.Runnable Q]

mutual

/-- **An evaluator reduces** an expression as the reduction by itself does. -/
theorem agrees_reduce (e : Expr Q) : Agrees args (reduce args e) (Expr.reduce args e) := by
  cases e with
  | binary op left right =>
    rw [reduce, Expr.reduce]
    exact (agrees_reduce _).bind fun first => agrees_reduceSteps first _
  | group inner =>
    rw [reduce, Expr.reduce]
    exact agrees_reduce inner
  | name text =>
    rw [reduce, Expr.reduce]
    exact agrees_settled _
  | subQuery source mode query =>
    rw [reduce, Expr.reduce]
    exact agrees_answerOf source mode query
  | _ =>
    rw [reduce, Expr.reduce]
    exact .pure _
termination_by e.size
decreasing_by
  · exact (Expr.size_spine_lt op left right).1
  · exact (Expr.size_spine_lt op left right).2
  · simp [Expr.size]

theorem agrees_reduceSteps (left : Literal) (steps : Expr.Steps Q) :
    Agrees args (reduceSteps args left steps) (Expr.reduceSteps args left steps) := by
  cases steps with
  | nil =>
    rw [reduceSteps, Expr.reduceSteps]
    exact .pure left
  | cons step rest =>
    rw [reduceSteps, Expr.reduceSteps]
    exact ((agrees_applyStep step.1 left step.2 (agrees_reduce step.2)).within step.1).bind
      fun next => agrees_reduceSteps next rest
termination_by Expr.stepsSize steps
decreasing_by
  · simp only [Expr.stepsSize]
    omega
  · simp only [Expr.stepsSize]
    omega

end

theorem agrees_evaluate (e : Expr Q) : Agrees args (evaluate args e) (Expr.evaluate args e) := by
  refine (agrees_reduce e).bind fun literal => ?_
  cases literal with
  | boolean b => exact (agrees_record _).bind fun _ => .pure b
  | _ => exact agrees_settled _

/-! ### Calls -/

/-- What a call comes to by itself. -/
def Call.outcome (args : Args) : Call Q → Expr.Outcome Literal
  | .reduce e => e.reduce args
  | .evaluate e => Literal.boolean <$> e.evaluate args

theorem agrees_perform (call : Call Q) : Agrees args (perform args call) (call.outcome args) := by
  cases call with
  | reduce e => exact agrees_reduce e
  | evaluate e => exact (agrees_evaluate e).map Literal.boolean

/-- A call on a sound evaluator. -/
theorem turnOf_perform {s : Evaluator} (hs : Sound args s) (call : Call Q) :
    Sound args (turnOf (perform args) s call).after ∧
      (turnOf (perform args) s call).answer = (call.outcome args).result ∧
      (turnOf (perform args) s call).after.journal =
        (call.outcome args).events.reverse ++ s.journal := by
  obtain ⟨left, hl, hj, hw⟩ := agrees_perform call s hs
  unfold turnOf Turn.answer Turn.after
  rw [hw]
  cases (call.outcome args).result with
  | ok literal => exact ⟨hl, rfl, hj⟩
  | error e => exact ⟨hl, rfl, hj⟩

theorem sound_stateBehind {s : Evaluator} (hs : Sound args s) (calls : List (Call Q)) :
    Sound args (stateBehind (perform args) s calls) := by
  induction calls generalizing s with
  | nil => exact hs
  | cons call calls ih => exact ih (turnOf_perform hs call).1

end Condition.Evaluator
