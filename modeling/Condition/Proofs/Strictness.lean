import Condition.Json.Numbers
import Condition.Pattern.Automata
import Condition.Proofs.Reduction
import Condition.Query.Path.Basic

/-! # Kinds of the operands of logical operators

`AND`, `NAND`, `OR` and `XOR` ask for truth values. The left operand has to be one in any case, the
right one unless the left one decides (`decidedBy`), and there an operand of another kind passes.

* `apply_eq_ok_iff`, `apply_eq_error`: where a logical operator succeeds, and its error elsewhere.
* `strict_iff`: the operands for which it looks at the kinds of both.
* `logical_operands`: the same for all logical operators of an expression that reduces. -/

namespace Condition

/-! ### Logical operators -/

namespace Operator

/-- Whether an operator is one on truth values. -/
def isLogical : Operator → Bool
  | .and | .nand | .or | .xor => true
  | _ => false

/-- Whether the left operand decides the truth value of an operator. -/
def decidedBy : Operator → Literal → Bool
  | .and, .boolean b => !b
  | .nand, .boolean b => !b
  | .or, .boolean b => b
  | _, _ => false

end Operator

namespace Literal

variable {op : Operator} {left right : Literal}

theorem exists_eq_boolean (h : left.kind = .boolean) : ∃ b, left = .boolean b := by
  cases left with
  | boolean b => exact ⟨b, rfl⟩
  | _ => cases h

theorem asBoolean_of_kind_ne (h : left.kind ≠ .boolean) :
    left.asBoolean = .error (.typeMismatch .boolean left.kind) := by
  cases left with
  | boolean b => exact absurd rfl h
  | _ => rfl

variable [Pattern.Engine]

theorem apply_of_left (h : op.isLogical = true) (hl : left.kind ≠ .boolean) (right : Literal) :
    apply op left right = .error (.typeMismatch .boolean left.kind) := by
  have hb := asBoolean_of_kind_ne hl
  cases op with
  | and => simp only [apply, both, hb]; rfl
  | nand => simp only [apply, both, hb]; rfl
  | or => simp only [apply, either, hb]; rfl
  | xor => simp only [apply, oneOf, hb]; rfl
  | _ => cases h

/-- Where the left operand decides, the right one is not looked at. -/
theorem apply_of_decidedBy (h : op.decidedBy left = true) (right : Literal) :
    ∃ t, apply op left right = .ok t := by
  cases left with
  | boolean b =>
    cases op with
    | and => cases b with
      | false => exact ⟨false, rfl⟩
      | true => cases h
    | nand => cases b with
      | false => exact ⟨true, rfl⟩
      | true => cases h
    | or => cases b with
      | false => cases h
      | true => exact ⟨true, rfl⟩
    | _ => cases h
  | _ => cases op <;> cases h

theorem apply_of_right (h : op.isLogical = true) {b : Bool} (hd : op.decidedBy (.boolean b) = false)
    (hr : right.kind ≠ .boolean) :
    apply op (.boolean b) right = .error (.typeMismatch .boolean right.kind) := by
  have hb := asBoolean_of_kind_ne hr
  cases op with
  | and => cases b with
    | false => cases hd
    | true => exact hb
  | nand => cases b with
    | false => cases hd
    | true => exact congrArg (not <$> ·) hb
  | or => cases b with
    | false => exact hb
    | true => cases hd
  | xor => simp only [apply, oneOf, hb]; rfl
  | _ => cases h

theorem apply_booleans (h : op.isLogical = true) (a b : Bool) :
    ∃ t, apply op (.boolean a) (.boolean b) = .ok t := by
  cases op with
  | and | nand | or | xor => cases a <;> exact ⟨_, rfl⟩
  | _ => cases h

/-- **Where a logical operator succeeds**: the left operand is a truth value, and it decides or the
right one is a truth value too. -/
theorem apply_eq_ok_iff (h : op.isLogical = true) : (∃ t, apply op left right = .ok t) ↔
    left.kind = .boolean ∧ (right.kind = .boolean ∨ op.decidedBy left = true) := by
  constructor
  · rintro ⟨t, ht⟩
    by_cases hl : left.kind = .boolean
    · obtain ⟨b, rfl⟩ := exists_eq_boolean hl
      by_cases hr : right.kind = .boolean
      · exact ⟨rfl, .inl hr⟩
      · cases hd : op.decidedBy (.boolean b) with
        | true => exact ⟨rfl, .inr rfl⟩
        | false =>
          rw [apply_of_right h hd hr] at ht
          cases ht
    · rw [apply_of_left h hl] at ht
      cases ht
  · rintro ⟨hl, hr | hd⟩
    · obtain ⟨a, rfl⟩ := exists_eq_boolean hl
      obtain ⟨b, rfl⟩ := exists_eq_boolean hr
      exact apply_booleans h a b
    · exact apply_of_decidedBy hd right

/-- The error of a logical operator is the kind of its first operand that is no truth value. -/
theorem apply_eq_error (h : op.isLogical = true) {e : Evaluation.Error}
    (he : apply op left right = .error e) :
    e = .typeMismatch .boolean (if left.kind = .boolean then right.kind else left.kind) := by
  by_cases hl : left.kind = .boolean
  · rw [if_pos hl]
    have hn : ¬ (right.kind = .boolean ∨ op.decidedBy left = true) := by
      intro hc
      obtain ⟨t, ht⟩ := (apply_eq_ok_iff h).2 ⟨hl, hc⟩
      rw [ht] at he
      cases he
    obtain ⟨hr, hd⟩ := not_or.1 hn
    obtain ⟨b, rfl⟩ := exists_eq_boolean hl
    rw [apply_of_right h (Bool.eq_false_iff.2 hd) hr] at he
    cases he
    rfl
  · rw [if_neg hl]
    rw [apply_of_left h hl] at he
    cases he
    rfl

/-- An operator looks at the kinds of both operands: it succeeds just if both are truth values. -/
def Strict (op : Operator) (left right : Literal) : Prop :=
  (∃ t, apply op left right = .ok t) ↔ left.kind = .boolean ∧ right.kind = .boolean

theorem strict_iff (h : op.isLogical = true) :
    Strict op left right ↔ (op.decidedBy left = true → right.kind = .boolean) := by
  unfold Strict
  rw [apply_eq_ok_iff h]
  constructor
  · intro hs hd
    have hl : left.kind = .boolean := by
      cases left with
      | boolean b => rfl
      | _ => cases op <;> cases hd
    exact (hs.1 ⟨hl, .inr hd⟩).2
  · intro hd
    refine and_congr_right fun _ => ⟨?_, .inl⟩
    rintro (hr | hdec)
    · exact hr
    · exact hd hdec

end Literal

/-! ### Logical operators of an expression -/

namespace Expr

section

variable [Pattern.Engine] {Q : Type}

theorem patternFor?_of_isLogical {op : Operator} (h : op.isLogical = true)
    (right : Expr Q) : patternFor? op right = none := by
  refine patternFor?_of_takesPattern ?_ right
  cases op with
  | matching | notMatching => cases h
  | _ => rfl

variable [Query.Runnable Q] {args : Args}

/-- The operands of the logical operators of an expression reduce to truth values. -/
def HasTruthValues (args : Args) (e : Expr Q) : Prop :=
  ∀ op left right, (op, left, right) ∈ nodes e → op.isLogical = true →
    ∃ a b, (reduce args left).result = .ok (.boolean a) ∧
      (reduce args right).result = .ok (.boolean b)

/-- Where an expression reduces, the operands of a logical operator in it do, the left one to a
truth value, and the right one to a truth value unless the left one decides. -/
theorem exists_operands {e : Expr Q} {v : Literal} (h : (reduce args e).result = .ok v)
    {op : Operator} {left right : Expr Q} (hm : (op, left, right) ∈ nodes e)
    (hop : op.isLogical = true) :
    ∃ a b, (reduce args left).result = .ok a ∧ (reduce args right).result = .ok b ∧
      a.kind = .boolean ∧ (b.kind = .boolean ∨ op.decidedBy a = true) := by
  obtain ⟨w, hw⟩ := reduces_of_mem_nodes h hm
  obtain ⟨a, ha, hs⟩ := result_reduce_binary.1 hw
  obtain ⟨b, t, hb, ht, -⟩ := (result_applyStep (patternFor?_of_isLogical hop right)).1 hs
  obtain ⟨hk, hk'⟩ := (Literal.apply_eq_ok_iff hop).1 ⟨t, ht⟩
  exact ⟨a, b, ha, hb, hk, hk'⟩

theorem hasTruthValues_iff {e : Expr Q} {v : Literal} (h : (reduce args e).result = .ok v) :
    HasTruthValues args e ↔ ∀ op left right a b, (op, left, right) ∈ nodes e →
      op.isLogical = true → (reduce args left).result = .ok a →
      (reduce args right).result = .ok b → op.decidedBy a = true → b.kind = .boolean := by
  constructor
  · intro ht op left right a b hm hop _ hb _
    obtain ⟨_, b', -, hb'⟩ := ht op left right hm hop
    rw [hb] at hb'
    cases hb'
    rfl
  · intro hd op left right hm hop
    obtain ⟨a, b, ha, hb, hk, hk'⟩ := exists_operands h hm hop
    obtain ⟨x, rfl⟩ := Literal.exists_eq_boolean hk
    have hkb : b.kind = .boolean := hk'.elim id (hd op left right _ b hm hop ha hb)
    obtain ⟨y, rfl⟩ := Literal.exists_eq_boolean hkb
    exact ⟨x, y, ha, hb⟩

/-- **The kinds of logical operands.** A logical operator succeeds just if its left operand is a
truth value and either decides or has a truth value on its right; else its error is the kind of the
first operand that is none. So it is strict just where no left operand decides in front of another
kind, and in an expression that reduces all operands of logical operators are truth values just
there. -/
theorem logical_operands (args : Args) :
    (∀ op left right, op.isLogical = true →
      ((∃ t, Literal.apply op left right = .ok t) ↔
        left.kind = .boolean ∧ (right.kind = .boolean ∨ op.decidedBy left = true)) ∧
      (∀ e, Literal.apply op left right = .error e → e =
        .typeMismatch .boolean (if left.kind = .boolean then right.kind else left.kind)) ∧
      (Literal.Strict op left right ↔ (op.decidedBy left = true → right.kind = .boolean))) ∧
    ∀ (e : Expr Q) v, (reduce args e).result = .ok v →
      (∀ op left right, (op, left, right) ∈ nodes e → op.isLogical = true →
        ∃ a b, (reduce args left).result = .ok a ∧ (reduce args right).result = .ok b ∧
          a.kind = .boolean ∧ (b.kind = .boolean ∨ op.decidedBy a = true)) ∧
      (HasTruthValues args e ↔ ∀ op left right a b, (op, left, right) ∈ nodes e →
        op.isLogical = true → (reduce args left).result = .ok a →
        (reduce args right).result = .ok b → op.decidedBy a = true → b.kind = .boolean) :=
  ⟨fun _ _ _ hop => ⟨Literal.apply_eq_ok_iff hop, fun _ he => Literal.apply_eq_error hop he,
    Literal.strict_iff hop⟩,
    fun _ _ h => ⟨fun _ _ _ hm hop => exists_operands h hm hop, hasTruthValues_iff h⟩⟩

end

/-- A number passes on the right of `AND` where the left operand is false. -/
theorem not_strict_false_and_number :
    (∃ left right : Literal, ¬ Literal.Strict .and left right) ∧
    ∃ e : Expr Path, (reduce [] e).result = .ok (.boolean false) ∧ ¬ HasTruthValues [] e := by
  have hd : Operator.decidedBy .and (.boolean false) = true := rfl
  refine ⟨⟨.boolean false, .number .zero, fun hs => ?_⟩,
    .binary .and (.boolean false) (.number .zero), ?_, fun ht => ?_⟩
  · cases (Literal.strict_iff rfl).1 hs hd
  · refine result_reduce_binary.2 ⟨.boolean false, by rw [reduce]; rfl, ?_⟩
    exact (result_applyStep rfl).2 ⟨.number .zero, false, by rw [reduce]; rfl, rfl, rfl⟩
  · obtain ⟨a, b, -, hb⟩ := ht .and _ _ List.mem_cons_self rfl
    rw [reduce] at hb
    cases hb

end Expr
end Condition
