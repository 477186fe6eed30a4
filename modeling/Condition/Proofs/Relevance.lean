import Condition.Pattern.Automata
import Condition.Proofs.QueryRuns

/-! # The arguments that matter

An expression asks for the arguments that it names, each by its whole name, and hands all of them to
its queries as one document. So two records of arguments that agree as far as that (`AgreeFor`) make
no difference to it. Without queries nothing matters but the names: an argument that is not named
may be there or not, and be whatever it is.

* `reduce_of_agree`, `evaluate_of_agree`: reductions with arguments that agree.
* `Evaluator.answer_of_agree`: answers of evaluators, whatever they did before.
* `reduction_sees_names`: expressions without queries. -/

namespace Condition

/-! ### Records without a member -/

namespace Record

variable {α : Type}

/-- Where the members of one name are left out, the others are found as before. -/
theorem lookup_filter_of_ne (record : Record α) {name sought : Text} (hne : sought ≠ name) :
    (record.filter fun member => member.1 ≠ name).lookup sought = record.lookup sought := by
  induction record with
  | nil => rfl
  | cons head rest ih =>
    obtain ⟨other, kept⟩ := head
    by_cases h : other = name
    · have hs : (sought == other) = false := by rw [h]; simpa using hne
      rw [List.filter_cons_of_neg (by simpa using h), List.lookup_cons, hs, ih]
    · rw [List.filter_cons_of_pos (by simpa using h), List.lookup_cons, List.lookup_cons, ih]

end Record

/-! ### Arguments that agree -/

namespace Expr

variable [Pattern.Engine] {Q : Type} {args args' : Args}

/-- **Arguments that agree** for an expression: each name in it has the same value with both, or
none, and if there is a query in it both are the same document. -/
structure AgreeFor (args args' : Args) (e : Expr Q) : Prop where
  names : ∀ name ∈ names e, args.lookup name = args'.lookup name
  document : queries e ≠ [] → Args.toJson args = Args.toJson args'

section

variable {op : Operator} {first last : Expr Q}

theorem AgreeFor.left (h : AgreeFor args args' (.binary op first last)) :
    AgreeFor args args' first where
  names name hm := h.names name (List.mem_append_left _ hm)
  document hq := h.document (List.append_ne_nil_of_left_ne_nil hq _)

theorem AgreeFor.right (h : AgreeFor args args' (.binary op first last)) :
    AgreeFor args args' last where
  names name hm := h.names name (List.mem_append_right _ hm)
  document hq := h.document (List.append_ne_nil_of_right_ne_nil _ hq)

theorem AgreeFor.inner {inner : Expr Q} (h : AgreeFor args args' (.group inner)) :
    AgreeFor args args' inner :=
  ⟨h.names, h.document⟩

end

/-- Without queries only the names have to agree. -/
theorem agreeFor_of_names {e : Expr Q} (hq : queries e = [])
    (h : ∀ name ∈ names e, args.lookup name = args'.lookup name) : AgreeFor args args' e :=
  ⟨h, fun hne => absurd hq hne⟩

variable [Query.Runnable Q]

theorem reduceTree_of_agree {e : Expr Q} (h : AgreeFor args args' e) :
    reduceTree args e = reduceTree args' e := by
  induction e with
  | binary op left right ihl ihr =>
    have hleft := ihl h.left
    have hright := ihr h.right
    rw [reduceTree, reduceTree, hleft, hright]
  | group inner ih => exact ih h.inner
  | name text =>
    have hlookup := h.names text (List.mem_singleton_self text)
    rw [reduceTree, reduceTree, resolve, resolve, hlookup]
  | subQuery source mode query =>
    have hdocument := h.document (List.cons_ne_nil _ _)
    rw [reduceTree, reduceTree, answerOf, answerOf, hdocument]
  | _ => rfl

/-- **Reductions with arguments that agree** are the same: the literal or the error with its
contexts, and the events. -/
theorem reduce_of_agree {e : Expr Q} (h : AgreeFor args args' e) :
    reduce args e = reduce args' e := by
  rw [reduce_eq_reduceTree, reduce_eq_reduceTree, reduceTree_of_agree h]

theorem evaluate_of_agree {e : Expr Q} (h : AgreeFor args args' e) :
    evaluate args e = evaluate args' e := by
  unfold evaluate
  rw [reduce_of_agree h]

end Expr

/-! ### Evaluators -/

namespace Evaluator

open Condition.Expr

variable [Pattern.Engine] {Q : Type} [Query.Runnable Q] {args args' : Args}

theorem outcome_of_agree {call : Call Q} (h : AgreeFor args args' call.expr) :
    call.outcome args = call.outcome args' := by
  cases call with
  | reduce e => exact reduce_of_agree h
  | evaluate e => exact congrArg (Literal.boolean <$> ·) (evaluate_of_agree h)

/-- **Evaluators with arguments that agree** for a call answer it alike, whatever calls were made
before on either of them. -/
theorem answer_of_agree {call : Call Q} (h : AgreeFor args args' call.expr)
    (others others' : List (Call Q)) :
    (turnOf (perform args) (stateBehind (perform args) fresh others) call).answer =
      (turnOf (perform args') (stateBehind (perform args') fresh others') call).answer := by
  have hs : Sound args (stateBehind (perform args) fresh others) :=
    sound_stateBehind (.inl rfl) others
  have hs' : Sound args' (stateBehind (perform args') fresh others') :=
    sound_stateBehind (.inl rfl) others'
  rw [(turnOf_perform hs call).2.1, (turnOf_perform hs' call).2.1, outcome_of_agree h]

end Evaluator

/-! ### Expressions without queries -/

namespace Expr

open Evaluator

section

variable [Pattern.Engine] {Q : Type} [Query.Runnable Q]

/-- **An expression without queries sees the arguments that it names**, and no others. With two
records of arguments in which each of its names has the same value, or none, it reduces and
evaluates to the same literal or error, and so it does for evaluators that made other calls before.
So it makes no difference to write an argument of another name, to change it or to leave it out. -/
theorem reduction_sees_names {e : Expr Q} (hq : queries e = []) :
    (∀ args args' : Args, (∀ name ∈ names e, args.lookup name = args'.lookup name) →
      reduce args e = reduce args' e ∧ evaluate args e = evaluate args' e ∧
      ∀ call : Call Q, call.expr = e → ∀ others others' : List (Call Q),
        (turnOf (perform args) (stateBehind (perform args) fresh others) call).answer =
          (turnOf (perform args') (stateBehind (perform args') fresh others') call).answer) ∧
    ∀ (args : Args) (name : Text), name ∉ names e →
      (∀ value, reduce (Record.insert args name value) e = reduce args e ∧
        evaluate (Record.insert args name value) e = evaluate args e) ∧
      reduce (args.filter fun arg => arg.1 ≠ name) e = reduce args e ∧
      evaluate (args.filter fun arg => arg.1 ≠ name) e = evaluate args e := by
  refine ⟨fun args args' h => ?_, fun args name hn => ?_⟩
  · have hagree := agreeFor_of_names hq h
    refine ⟨reduce_of_agree hagree, evaluate_of_agree hagree, ?_⟩
    rintro call rfl others others'
    exact answer_of_agree hagree others others'
  · have hne : ∀ other ∈ names e, other ≠ name := fun other hm he => hn (he ▸ hm)
    have hwritten : ∀ value, AgreeFor (Record.insert args name value) args e := fun value =>
      agreeFor_of_names hq fun other hm => Record.lookup_insert_of_ne args value (hne other hm)
    have hleft : AgreeFor (args.filter fun arg => arg.1 ≠ name) args e :=
      agreeFor_of_names hq fun other hm => Record.lookup_filter_of_ne args (hne other hm)
    exact ⟨fun value => ⟨reduce_of_agree (hwritten value), evaluate_of_agree (hwritten value)⟩,
      reduce_of_agree hleft, evaluate_of_agree hleft⟩

end

/-- A document whose name is the start of a name in the expression may be there or not, and be
changed. A name that is not bound is the same error each time. -/
theorem reduction_sees_names_of_shared_start :
    let e : Expr Path := .binary .and (.binary .greater (.name "user.age".toList) (.number .zero))
      (.group (.binary .member (.name "tag".toList) (.name "tags".toList)))
    let args : Args := [("tag".toList, .string ['a']), ("user.age".toList, .number (.ofInt 7))]
    let others : Args := [("tag".toList, .string ['a']), ("user".toList, .document (.array [])),
      ("user.age".toList, .number (.ofInt 7))]
    queries e = [] ∧ reduce others e = reduce args e ∧
      (reduce args e).result =
        .error ⟨[.and, .member], .missingArgument "tags".toList⟩ ∧
      ∀ value, evaluate (Record.insert others "user".toList value) e = evaluate others e := by
  intro e args others
  obtain ⟨hsame, hother⟩ := reduction_sees_names (e := e) rfl
  have hnames : ∀ name ∈ names e, others.lookup name = args.lookup name :=
    List.forall_mem_cons.2 ⟨rfl, List.forall_mem_cons.2 ⟨rfl, List.forall_mem_singleton.2 rfl⟩⟩
  refine ⟨rfl, (hsame others args hnames).1, ?_, fun value => ?_⟩
  · rw [reduce_eq_reduceTree]
    rfl
  · exact ((hother others "user".toList (by decide)).1 value).2

end Expr
end Condition
