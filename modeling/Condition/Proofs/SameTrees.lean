import Condition.Json.Numbers
import Condition.Pattern.Automata
import Condition.Proofs.Recursion
import Condition.Proofs.Trees
import Mathlib.Data.List.Forall2

/-! # Expressions that compare equal

Expressions are compared as they are written (`same`): numbers by value, so that `0` equals `-0`,
patterns by their text, and queries by their text and mode, whatever they were compiled to. Two
expressions that compare equal reduce to literals that no operator tells apart (`Literal.Alike`), as
long as queries with the same text are the same; and those that one engine compiled are.

* `Literal.Alike.apply`: operators on literals that are alike.
* `reduceAlike_of_same`: reductions of expressions that compare equal.
* `evaluate_eq_of_same`: conditions that compare equal. -/

namespace Condition

/-! ### Numbers by value -/

namespace Double

theorem rank_eq_of_equals {a b : Double} (h : a.equals b = true) : a.rank = b.rank := by
  unfold equals at h
  split at h
  · rename_i ha hb
    rw [ha, hb, eq_of_beq h]
  · cases h

/-- A relation sees nothing of two numbers but their rank. -/
def ByRank (relation : Double → Double → Bool) : Prop :=
  ∀ {a a' b b' : Double}, a.rank = a'.rank → b.rank = b'.rank → relation a b = relation a' b'

theorem byRank_equals : ByRank equals := fun ha hb => by simp only [equals, ha, hb]

theorem byRank_below : ByRank below := fun ha hb => by simp only [below, ha, hb]

theorem byRank_atMost : ByRank atMost := fun ha hb => by simp only [atMost, ha, hb]

theorem ByRank.flip {relation : Double → Double → Bool} (h : ByRank relation) :
    ByRank fun a b => relation b a := fun ha hb => h hb ha

/-- Numbers that are alike one by one. -/
def SameRanks (items items' : List Double) : Prop :=
  List.Forall₂ (fun a b => a.rank = b.rank) items items'

theorem any_equals_eq {d d' : Double} {items items' : List Double} (hd : d.rank = d'.rank)
    (h : SameRanks items items') : items.any d.equals = items'.any d'.equals := by
  induction h with
  | nil => rfl
  | cons ha _ ih => rw [List.any_cons, List.any_cons, byRank_equals hd ha, ih]

end Double

/-! ### Literals that are alike -/

namespace Literal

/-- **Literals that are alike**: of one kind, with numbers of the same value, and else equal. -/
inductive Alike : Literal → Literal → Prop where
  | string (text : Text) : Alike (.string text) (.string text)
  | number {a b : Double} (h : a.rank = b.rank) : Alike (.number a) (.number b)
  | boolean (b : Bool) : Alike (.boolean b) (.boolean b)
  | strings (items : List Text) : Alike (.strings items) (.strings items)
  | numbers {items items' : List Double} (h : Double.SameRanks items items') :
    Alike (.numbers items) (.numbers items')

theorem Alike.refl (a : Literal) : Alike a a := by
  cases a with
  | string text => exact .string text
  | number d => exact .number rfl
  | boolean b => exact .boolean b
  | strings items => exact .strings items
  | numbers items => exact .numbers (List.forall₂_same.2 fun _ _ => rfl)

section

variable {a a' b b' : Literal}

theorem Alike.asBoolean (h : Alike a a') : a.asBoolean = a'.asBoolean := by
  cases h <;> rfl

theorem Alike.asString (h : Alike a a') : a.asString = a'.asString := by
  cases h <;> rfl

theorem Alike.equal (ha : Alike a a') (hb : Alike b b') : equal a b = equal a' b' := by
  cases ha with
  | number h =>
    cases hb with
    | number h' => exact congrArg Except.ok (Double.byRank_equals h h')
    | _ => rfl
  | string | boolean => cases hb <;> rfl
  | strings | numbers => rfl

theorem Alike.compare {relation : Double → Double → Bool} (hr : Double.ByRank relation)
    (ha : Alike a a') (hb : Alike b b') : compare relation a b = compare relation a' b' := by
  cases ha with
  | number h =>
    cases hb with
    | number h' => exact congrArg Except.ok (hr h h')
    | _ => rfl
  | _ => rfl

theorem Alike.memberOf (op : Operator) (ha : Alike a a') (hb : Alike b b') :
    memberOf op a b = memberOf op a' b' := by
  cases ha with
  | string text =>
    cases hb with
    | numbers h => cases h <;> rfl
    | _ => rfl
  | number h =>
    cases hb with
    | strings items => cases items <;> rfl
    | numbers h' => exact congrArg Except.ok (Double.any_equals_eq h h')
    | _ => rfl
  | _ => cases hb <;> rfl

variable [Pattern.Engine]

theorem Alike.matches? (ha : Alike a a') (hb : Alike b b') : matches? a b = matches? a' b' := by
  unfold Literal.matches?
  rw [ha.asString, hb.asString]

/-- **No operator tells apart** literals that are alike. -/
theorem Alike.apply (op : Operator) (ha : Alike a a') (hb : Alike b b') :
    apply op a b = apply op a' b' := by
  have hboth : both a b = both a' b' := by
    unfold both
    rw [ha.asBoolean, hb.asBoolean]
  cases op with
  | and => exact hboth
  | nand => exact congrArg (not <$> ·) hboth
  | or =>
    unfold Literal.apply either
    rw [ha.asBoolean, hb.asBoolean]
  | xor =>
    unfold Literal.apply oneOf
    rw [ha.asBoolean, hb.asBoolean]
  | equal => exact ha.equal hb
  | notEqual => exact congrArg (not <$> ·) (ha.equal hb)
  | less => exact ha.compare Double.byRank_below hb
  | atMost => exact ha.compare Double.byRank_atMost hb
  | greater => exact ha.compare Double.byRank_below.flip hb
  | atLeast => exact ha.compare Double.byRank_atMost.flip hb
  | matching => exact ha.matches? hb
  | notMatching => exact congrArg (not <$> ·) (ha.matches? hb)
  | member => exact ha.memberOf .member hb
  | notMember => exact congrArg (not <$> ·) (ha.memberOf .notMember hb)

end

end Literal

/-! ### Outcomes that are alike -/

namespace Expr

variable {α β : Type}

/-- Results that are alike: values in a relation, or the same error. -/
inductive AlikeResults (R : α → α → Prop) :
    (result result' : Except (Failure Operator Evaluation.Error) α) → Prop where
  | ok {a a' : α} (h : R a a') : AlikeResults R (.ok a) (.ok a')
  | error (failure : Failure Operator Evaluation.Error) :
    AlikeResults R (.error failure) (.error failure)

/-- **Outcomes that are alike**, by their results. Their events do not count. -/
def AlikeOutcomes (R : α → α → Prop) (outcome outcome' : Outcome α) : Prop :=
  AlikeResults R outcome.result outcome'.result

namespace AlikeOutcomes

variable {R : α → α → Prop} {S : β → β → Prop} {outcome outcome' : Outcome α}

theorem refl (hr : ∀ a, R a a) (outcome : Outcome α) : AlikeOutcomes R outcome outcome := by
  unfold AlikeOutcomes
  cases outcome.result with
  | ok a => exact .ok (hr a)
  | error failure => exact .error failure

theorem bind {next next' : α → Outcome β} (h : AlikeOutcomes R outcome outcome')
    (hn : ∀ a a', R a a' → AlikeOutcomes S (next a) (next' a')) :
    AlikeOutcomes S (outcome >>= next) (outcome' >>= next') := by
  change AlikeOutcomes S (outcome.andThen next) (outcome'.andThen next')
  obtain ⟨events, result⟩ := outcome
  obtain ⟨events', result'⟩ := outcome'
  cases (h : AlikeResults R result result') with
  | ok ha => exact hn _ _ ha
  | error failure => exact .error failure

theorem within (h : AlikeOutcomes R outcome outcome') (op : Operator) :
    AlikeOutcomes R (outcome.mapError (Failure.within op))
      (outcome'.mapError (Failure.within op)) := by
  obtain ⟨events, result⟩ := outcome
  obtain ⟨events', result'⟩ := outcome'
  cases (h : AlikeResults R result result') with
  | ok ha => exact .ok ha
  | error failure => exact .error (failure.within op)

theorem result_eq (h : AlikeOutcomes Eq outcome outcome') : outcome.result = outcome'.result := by
  obtain ⟨events, result⟩ := outcome
  obtain ⟨events', result'⟩ := outcome'
  cases (h : AlikeResults Eq result result') with
  | ok ha => exact congrArg Except.ok ha
  | error failure => rfl

end AlikeOutcomes

/-! ### Reductions that are alike -/

section

variable {Q : Type}

/-- Reductions that are alike, by their literals. -/
abbrev ReduceAlike (outcome outcome' : Outcome Literal) : Prop :=
  AlikeOutcomes Literal.Alike outcome outcome'

theorem ReduceAlike.refl (outcome : Outcome Literal) : ReduceAlike outcome outcome :=
  AlikeOutcomes.refl Literal.Alike.refl outcome

theorem sameRanks_of_sameNumbers {items items' : List Double}
    (h : sameNumbers items items' = true) : Double.SameRanks items items' := by
  induction items generalizing items' with
  | nil =>
    cases items' with
    | nil => exact .nil
    | cons => cases h
  | cons d items ih =>
    cases items' with
    | nil => cases h
    | cons d' items' =>
      obtain ⟨hd, hrest⟩ := Bool.and_eq_true_iff.1 h
      exact .cons (Double.rank_eq_of_equals hd) (ih hrest)

variable [Pattern.Engine] {settings settings' : Settings Q}

/-- Queries with the same text in two expressions are the same. -/
def QueriesAgree (e e' : Expr Q) : Prop :=
  ∀ source mode mode' query query', (source, mode, query) ∈ queries e →
    (source, mode', query') ∈ queries e' → query = query'

/-- Queries that one engine compiled agree. -/
theorem queriesAgree_of_ofText [Json.Parser] (he : settings.engine = settings'.engine)
    {text text' : Text} {tree tree' : Expr Q} (h : (ofText settings text).result = .ok tree)
    (h' : (ofText settings' text').result = .ok tree') : QueriesAgree tree tree' := by
  intro source mode mode' query query' hm hm'
  obtain ⟨engine, hengine, hc⟩ := (arises_of_ofText h).engine_of_mem_queries hm
  obtain ⟨engine', hengine', hc'⟩ := (arises_of_ofText h').engine_of_mem_queries hm'
  rw [← he, hengine] at hengine'
  cases hengine'
  rw [hc] at hc'
  cases hc'
  rfl

/-- Conditions evaluate to one result where they reduce alike: a truth value is alike to itself
only. -/
theorem result_evaluate_eq [Query.Runnable Q] {args : Args} {e e' : Expr Q}
    (h : ReduceAlike (reduce args e) (reduce args e')) :
    (evaluate args e).result = (evaluate args e').result := by
  refine AlikeOutcomes.result_eq (h.bind fun a a' ha => ?_)
  cases ha with
  | boolean b => exact .ok rfl
  | _ => exact .refl (fun _ => rfl) _

/-! ### Expressions that compare equal -/

variable [Pattern.Engine.Lawful]

theorem patternFor?_of_same {right right' : Expr Q} (h : same right right' = true) (op : Operator) :
    patternFor? op right = patternFor? op right' := by
  cases right with
  | pattern p =>
    cases right' with
    | pattern p' => rw [Pattern.ext_source (eq_of_beq h)]
    | _ => cases h
  | _ =>
    cases right' with
    | pattern => cases h
    | _ => rfl

/-- **A step** on literals that are alike and right operands that compare equal. -/
theorem reduceAlike_applyStep {op : Operator} {a a' : Literal} {right right' : Expr Q}
    {reduced reduced' : Outcome Literal} (ha : a.Alike a') (hs : same right right' = true)
    (hr : ReduceAlike reduced reduced') :
    ReduceAlike (applyStep op a right reduced) (applyStep op a' right' reduced') := by
  unfold applyStep
  rw [patternFor?_of_same hs op]
  cases patternFor? op right' with
  | some p =>
    dsimp only
    unfold applyPattern Literal.matchesPattern
    rw [ha.asString]
    exact .refl _
  | none =>
    refine hr.bind fun b b' hb => ?_
    rw [ha.apply op hb]
    exact ReduceAlike.refl _

variable [Query.Runnable Q] {args : Args}

/-- **Expressions that compare equal** reduce to literals that are alike, or fail with the same
error. -/
theorem reduceAlike_of_same {e e' : Expr Q} (hs : same e e' = true) (hq : QueriesAgree e e') :
    ReduceAlike (reduce args e) (reduce args e') := by
  induction e generalizing e' with
  | binary op left right ihl ihr =>
    cases e' with
    | binary op' left' right' =>
      obtain ⟨hboth, hright⟩ := Bool.and_eq_true_iff.1 hs
      obtain ⟨hop, hleft⟩ := Bool.and_eq_true_iff.1 hboth
      obtain rfl := eq_of_beq hop
      have hl := ihl hleft fun source mode mode' query query' hm hm' =>
        hq source mode mode' query query' (List.mem_append_left _ hm) (List.mem_append_left _ hm')
      have hr := ihr hright fun source mode mode' query query' hm hm' =>
        hq source mode mode' query query' (List.mem_append_right _ hm) (List.mem_append_right _ hm')
      rw [reduce_binary, reduce_binary]
      exact hl.bind fun a a' ha => (reduceAlike_applyStep ha hright hr).within op
    | _ => cases hs
  | group inner ih =>
    cases e' with
    | group inner' =>
      rw [reduce_group, reduce_group]
      exact ih hs hq
    | _ => cases hs
  | name _ | string _ | boolean _ | strings _ =>
    -- these compare equal to themselves only
    cases e' <;> first
      | cases hs
      | obtain rfl := eq_of_beq hs
        exact .refl _
  | pattern p =>
    cases e' with
    | pattern p' =>
      obtain rfl := Pattern.ext_source (eq_of_beq hs)
      exact .refl _
    | _ => cases hs
  | number d =>
    cases e' with
    | number d' =>
      rw [reduce, reduce]
      exact .ok (.number (Double.rank_eq_of_equals hs))
    | _ => cases hs
  | numbers items =>
    cases e' with
    | numbers items' =>
      rw [reduce, reduce]
      exact .ok (.numbers (sameRanks_of_sameNumbers hs))
    | _ => cases hs
  | subQuery source mode query =>
    cases e' with
    | subQuery source' mode' query' =>
      obtain ⟨hsource, hmode⟩ := Bool.and_eq_true_iff.1 hs
      obtain rfl := eq_of_beq hsource
      obtain rfl := eq_of_beq hmode
      obtain rfl := hq source mode mode query query' (List.mem_singleton_self _)
        (List.mem_singleton_self _)
      exact .refl _
    | _ => cases hs

/-- **Conditions that compare equal** evaluate to the same truth value, or fail with the same error
and in the same contexts, whatever the arguments are, if one engine compiled the queries of both. -/
theorem evaluate_eq_of_same [Json.Parser] (he : settings.engine = settings'.engine)
    {text text' : Text} {tree tree' : Expr Q} (h : (ofText settings text).result = .ok tree)
    (h' : (ofText settings' text').result = .ok tree') (hs : same tree tree' = true) (args : Args) :
    (evaluate args tree).result = (evaluate args tree').result :=
  result_evaluate_eq (reduceAlike_of_same hs (queriesAgree_of_ofText he h h'))

end

/-- The two zeros, in a number and in a list, beside a pattern and a query. -/
theorem evaluate_eq_of_same_of_two_zeros :
    ∃ tree tree' : Expr Path,
      (ofText { engine := some Path.ofText }
        "n == 0 AND 0 IN [1, -0] AND $jq(.t) =~ 'x'".toList).result = .ok tree ∧
      (ofText { engine := some Path.ofText, maxNesting := 0 }
        "n == -0 AND 0 IN [1, 0] AND $jq(.t) =~ 'x'".toList).result = .ok tree' ∧
      same tree tree' = true ∧
      (evaluate [(['n'], .number .zero), (['t'], .string ['x'])] tree).result =
        (evaluate [(['n'], .number .zero), (['t'], .string ['x'])] tree').result := by
  have hboth : (ofText { engine := some Path.ofText }
      "n == 0 AND 0 IN [1, -0] AND $jq(.t) =~ 'x'".toList).result.toOption.any (fun tree =>
        (ofText { engine := some Path.ofText, maxNesting := 0 }
          "n == -0 AND 0 IN [1, 0] AND $jq(.t) =~ 'x'".toList).result.toOption.any (same tree)) =
      true := by decide +kernel
  obtain ⟨tree, htree, hany⟩ := exists_ofText_of_any hboth
  obtain ⟨tree', htree', hsame⟩ := exists_ofText_of_any hany
  have hengine : ({ engine := some Path.ofText } : Settings Path).engine =
      ({ engine := some Path.ofText, maxNesting := 0 } : Settings Path).engine := rfl
  exact ⟨tree, tree', htree, htree', hsame, evaluate_eq_of_same hengine htree htree' hsame _⟩

end Expr
end Condition
