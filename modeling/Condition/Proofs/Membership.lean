import Condition.Json.Numbers
import Condition.Pattern.Automata
import Condition.Proofs.Kinds
import Mathlib.Logic.Basic

/-! # Membership by elements

Whether a string or a number is in a list is found from the list as a whole. That comes to the same
as comparing it with the elements of the list one by one: it is in the list if it equals one of
them, and an error if they are of another kind. An empty list has no elements, so nothing is in it,
whatever its kind.

* `Literal.memberOf_cases`: membership in a list and the comparisons with its elements.
* `Literal.memberOf_eq_true_iff`, `Literal.memberOf_eq_false_iff`, `Literal.memberOf_fails_iff`:
  what comes of membership, by elements.
* `Expr.member_agrees_with_equal`: the same for operands. -/

namespace Condition

/-- Whether a list may have elements of a kind. -/
def Kind.isElement : Kind → Bool
  | .string | .number => true
  | _ => false

namespace Literal

/-- The elements of a list, as literals. -/
def elements : Literal → List Literal
  | .strings items => items.map .string
  | .numbers items => items.map .number
  | _ => []

variable {op : Operator} {needle list : Literal}

/-! ### One list, one kind -/

theorem memberOf_strings (op : Operator) (text : Text) (items : List Text) :
    ∃ t, memberOf op (.string text) (.strings items) = .ok t ∧
      (t = true ↔ ∃ e ∈ elements (.strings items), equal (.string text) e = .ok true) := by
  have hequal : ∀ item, equal (.string text) (.string item) = .ok true ↔ text = item := by
    intro item
    change Except.ok (text == item) = .ok true ↔ _
    rw [Except.ok.injEq, beq_iff_eq]
  refine ⟨items.contains text, rfl, ?_⟩
  simp only [elements, List.mem_map, exists_exists_and_eq_and, hequal, List.contains_iff_mem,
    exists_eq_right']

theorem memberOf_numbers (op : Operator) (d : Double) (items : List Double) :
    ∃ t, memberOf op (.number d) (.numbers items) = .ok t ∧
      (t = true ↔ ∃ e ∈ elements (.numbers items), equal (.number d) e = .ok true) := by
  have hequal : ∀ item, equal (.number d) (.number item) = .ok true ↔ d.equals item = true := by
    intro item
    change Except.ok (d.equals item) = .ok true ↔ _
    rw [Except.ok.injEq]
  refine ⟨items.any d.equals, rfl, ?_⟩
  simp only [elements, List.mem_map, exists_exists_and_eq_and, hequal, List.any_eq_true]

/-- **Membership and comparisons**: either all comparisons with the elements of the list are
answered, and membership says whether one of them holds, or the list has elements, and membership
and all comparisons are errors. -/
theorem memberOf_cases (op : Operator) (hn : needle.kind.isElement = true)
    (hl : list.kind.isList = true) :
    (∃ t, memberOf op needle list = .ok t ∧ (∀ e ∈ list.elements, ∃ u, equal needle e = .ok u) ∧
      (t = true ↔ ∃ e ∈ list.elements, equal needle e = .ok true)) ∨
    (list.elements ≠ [] ∧ (∃ cause, memberOf op needle list = .error cause) ∧
      ∀ e ∈ list.elements, ∃ cause, equal needle e = .error cause) := by
  -- an empty list of either kind has no elements to be compared with
  have empty : memberOf op needle list = .ok false → list.elements = [] →
      ∃ t, memberOf op needle list = .ok t ∧ (∀ e ∈ list.elements, ∃ u, equal needle e = .ok u) ∧
        (t = true ↔ ∃ e ∈ list.elements, equal needle e = .ok true) := by
    intro hm he
    exact ⟨false, hm, by simp [he]⟩
  cases needle with
  | string text =>
    cases list with
    | strings items =>
      obtain ⟨t, hm, ht⟩ := memberOf_strings op text items
      exact .inl ⟨t, hm, List.forall_mem_map.2 fun item _ => ⟨text == item, rfl⟩, ht⟩
    | numbers items =>
      cases items with
      | nil => exact .inl (empty rfl rfl)
      | cons item items =>
        exact .inr ⟨List.cons_ne_nil _ _, ⟨_, rfl⟩, List.forall_mem_map.2 fun _ _ => ⟨_, rfl⟩⟩
    | _ => cases hl
  | number d =>
    cases list with
    | numbers items =>
      obtain ⟨t, hm, ht⟩ := memberOf_numbers op d items
      exact .inl ⟨t, hm, List.forall_mem_map.2 fun item _ => ⟨d.equals item, rfl⟩, ht⟩
    | strings items =>
      cases items with
      | nil => exact .inl (empty rfl rfl)
      | cons item items =>
        exact .inr ⟨List.cons_ne_nil _ _, ⟨_, rfl⟩, List.forall_mem_map.2 fun _ _ => ⟨_, rfl⟩⟩
    | _ => cases hl
  | _ => cases hn

/-! ### What comes of membership -/

theorem memberOf_eq_true_iff (hn : needle.kind.isElement = true) (hl : list.kind.isList = true) :
    memberOf op needle list = .ok true ↔ ∃ e ∈ list.elements, equal needle e = .ok true := by
  rcases memberOf_cases op hn hl with ⟨t, hm, -, ht⟩ | ⟨-, ⟨cause, hm⟩, herr⟩
  · rw [hm, Except.ok.injEq, ht]
  · rw [hm]
    refine iff_of_false nofun ?_
    rintro ⟨e, he, h⟩
    obtain ⟨_, hcause⟩ := herr e he
    rw [h] at hcause
    cases hcause

theorem memberOf_eq_false_iff (hn : needle.kind.isElement = true) (hl : list.kind.isList = true) :
    memberOf op needle list = .ok false ↔ ∀ e ∈ list.elements, equal needle e = .ok false := by
  rcases memberOf_cases op hn hl with ⟨t, hm, hok, ht⟩ | ⟨hne, ⟨cause, hm⟩, herr⟩
  · rw [hm, Except.ok.injEq, ← Bool.not_eq_true, ht, not_exists]
    refine forall_congr' fun e => ?_
    rw [not_and]
    refine forall_congr' fun he => ?_
    obtain ⟨u, hu⟩ := hok e he
    rw [hu, Except.ok.injEq, Except.ok.injEq, Bool.not_eq_true]
  · obtain ⟨e, he⟩ := List.exists_mem_of_ne_nil _ hne
    obtain ⟨_, hcause⟩ := herr e he
    rw [hm]
    refine iff_of_false nofun fun hall => ?_
    rw [hall e he] at hcause
    cases hcause

/-- **Membership is an error** where the list has elements with which the comparison is one. -/
theorem memberOf_fails_iff (hn : needle.kind.isElement = true) (hl : list.kind.isList = true) :
    (∃ cause, memberOf op needle list = .error cause) ↔
      ∃ e ∈ list.elements, ∃ cause, equal needle e = .error cause := by
  rcases memberOf_cases op hn hl with ⟨t, hm, hok, -⟩ | ⟨hne, hm, herr⟩
  · rw [hm]
    refine iff_of_false nofun ?_
    rintro ⟨e, he, cause, h⟩
    obtain ⟨u, hu⟩ := hok e he
    rw [h] at hu
    cases hu
  · obtain ⟨e, he⟩ := List.exists_mem_of_ne_nil _ hne
    exact iff_of_true hm ⟨e, he, herr e he⟩

/-- The comparisons with the elements of a list are all errors, or none of them is. -/
theorem equal_fails_of_mem (hn : needle.kind.isElement = true) (hl : list.kind.isList = true)
    (h : ∃ e ∈ list.elements, ∃ cause, equal needle e = .error cause) :
    ∀ e ∈ list.elements, ∃ cause, equal needle e = .error cause := by
  rcases memberOf_cases .member hn hl with ⟨t, -, hok, -⟩ | ⟨-, -, herr⟩
  · obtain ⟨e, he, cause, h⟩ := h
    obtain ⟨u, hu⟩ := hok e he
    rw [h] at hu
    cases hu
  · exact herr

end Literal

/-! ### Operands -/

namespace Expr

section

variable [Pattern.Engine] {Q : Type}

/-- A literal as an operand. -/
def ofLiteral : Literal → Expr Q
  | .string text => .string text
  | .number d => .number d
  | .boolean b => .boolean b
  | .strings items => .strings items
  | .numbers items => .numbers items

variable [Query.Runnable Q] {args : Args} {op : Operator} {left right : Expr Q} {a b : Literal}

theorem result_reduce_ofLiteral (args : Args) (a : Literal) :
    (reduce args (ofLiteral a : Expr Q)).result = .ok a := by
  cases a <;> rw [ofLiteral, reduce] <;> rfl

/-- **An operator on operands that reduce** applies to their literals. -/
theorem result_reduce_of_operands (hp : patternFor? op right = none)
    (ha : (reduce args left).result = .ok a) (hb : (reduce args right).result = .ok b) :
    (reduce args (.binary op left right)).result =
      match Literal.apply op a b with
      | .ok t => .ok (.boolean t)
      | .error cause => .error ⟨[op], cause⟩ := by
  cases h : Literal.apply op a b with
  | ok t => exact result_reduce_binary.2 ⟨a, ha, (result_applyStep hp).2 ⟨b, t, hb, h, rfl⟩⟩
  | error cause =>
    rw [reduce_eq_reduceTree] at ha hb ⊢
    exact result_of_stopsAt (.operator ha hp hb h)

theorem result_reduce_eq_boolean_iff (hp : patternFor? op right = none)
    (ha : (reduce args left).result = .ok a) (hb : (reduce args right).result = .ok b) (t : Bool) :
    (reduce args (.binary op left right)).result = .ok (.boolean t) ↔
      Literal.apply op a b = .ok t := by
  rw [result_reduce_of_operands hp ha hb]
  cases Literal.apply op a b <;> simp

theorem result_reduce_fails_iff (hp : patternFor? op right = none)
    (ha : (reduce args left).result = .ok a) (hb : (reduce args right).result = .ok b) :
    (∃ failure, (reduce args (.binary op left right)).result = .error failure) ↔
      ∃ cause, Literal.apply op a b = .error cause := by
  rw [result_reduce_of_operands hp ha hb]
  cases Literal.apply op a b <;> simp

/-- **Membership agrees with equality.** For operands that reduce to a string or a number and to a
list of strings or of numbers, membership holds just if the operand equals an element of the list,
and does not hold just if it equals none. Where the list has elements membership fails just if
equality fails for all of them, or for one of them. In a list without elements nothing is. -/
theorem member_agrees_with_equal {needle list : Literal}
    (ha : (reduce args left).result = .ok needle)
    (hb : (reduce args right).result = .ok list) (hn : needle.kind.isElement = true)
    (hl : list.kind.isList = true) :
    let member := (reduce args (.binary .member left right)).result
    let equalTo := fun e => (reduce args (.binary .equal left (ofLiteral e))).result
    (member = .ok (.boolean true) ↔ ∃ e ∈ list.elements, equalTo e = .ok (.boolean true)) ∧
    (member = .ok (.boolean false) ↔ ∀ e ∈ list.elements, equalTo e = .ok (.boolean false)) ∧
    (list.elements ≠ [] →
      ((∃ failure, member = .error failure) ↔
        ∀ e ∈ list.elements, ∃ failure, equalTo e = .error failure) ∧
      ((∃ failure, member = .error failure) ↔
        ∃ e ∈ list.elements, ∃ failure, equalTo e = .error failure)) ∧
    (list.elements = [] → member = .ok (.boolean false)) := by
  intro member equalTo
  have hmember : ∀ t, member = .ok (.boolean t) ↔ Literal.memberOf .member needle list = .ok t :=
    result_reduce_eq_boolean_iff (patternFor?_of_takesPattern rfl right) ha hb
  have hequal : ∀ e t, equalTo e = .ok (.boolean t) ↔ Literal.equal needle e = .ok t := fun e =>
    result_reduce_eq_boolean_iff (patternFor?_of_takesPattern rfl _) ha
      (result_reduce_ofLiteral args e)
  have hmemberFails : (∃ failure, member = .error failure) ↔
      ∃ cause, Literal.memberOf .member needle list = .error cause :=
    result_reduce_fails_iff (patternFor?_of_takesPattern rfl right) ha hb
  have hequalFails : ∀ e, (∃ failure, equalTo e = .error failure) ↔
      ∃ cause, Literal.equal needle e = .error cause := fun e =>
    result_reduce_fails_iff (patternFor?_of_takesPattern rfl _) ha (result_reduce_ofLiteral args e)
  simp only [hmember, hequal, hmemberFails, hequalFails]
  refine ⟨Literal.memberOf_eq_true_iff hn hl, Literal.memberOf_eq_false_iff hn hl, fun hne => ?_,
    fun he => (Literal.memberOf_eq_false_iff hn hl).2 (by rw [he]; rintro e ⟨⟩)⟩
  have hfails : (∃ cause, Literal.memberOf .member needle list = .error cause) ↔
      ∃ e ∈ list.elements, ∃ cause, Literal.equal needle e = .error cause :=
    Literal.memberOf_fails_iff hn hl
  refine ⟨⟨fun h => Literal.equal_fails_of_mem hn hl (hfails.1 h), fun h => hfails.2 ?_⟩, hfails⟩
  obtain ⟨e, he⟩ := List.exists_mem_of_ne_nil _ hne
  exact ⟨e, he, h e he⟩

end

/-- The other zero is in a list, behind a number that equals nothing, and to look for a text there
is an error. -/
theorem member_agrees_with_equal_of_two_zeros :
    let zeros : Expr Path := .name ['l']
    let args : Args := [(['l'], .numbers [.nan, .zero]), (['n'], .number Double.zero.negated)]
    (reduce args zeros).result = .ok (.numbers [.nan, .zero]) ∧
    (reduce args (.binary .equal (.name ['n']) zeros)).result ≠ .ok (.boolean true) ∧
    (reduce args (.binary .member (.name ['n']) zeros)).result = .ok (.boolean true) ∧
    ∃ failure, (reduce args (.binary .member (.string ['n']) zeros)).result = .error failure := by
  intro zeros args
  have hzeros : (reduce args zeros).result = .ok (.numbers [.nan, .zero]) := by
    rw [reduce]
    rfl
  have hminus : (reduce args (.name ['n'] : Expr Path)).result =
      .ok (.number Double.zero.negated) := by
    rw [reduce]
    rfl
  have htext : (reduce args (.string ['n'] : Expr Path)).result = .ok (.string ['n']) :=
    result_reduce_ofLiteral args (.string ['n'])
  have hzero : Literal.number .zero ∈ (Literal.numbers [.nan, .zero]).elements := by
    simp [Literal.elements]
  have hlist : ∃ failure, (reduce args (.binary .equal (.name ['n']) zeros)).result =
      .error failure :=
    (result_reduce_fails_iff rfl hminus hzeros).2 ⟨_, rfl⟩
  refine ⟨hzeros, ?_, ?_, ?_⟩
  · obtain ⟨failure, h⟩ := hlist
    rw [h]
    nofun
  · refine (member_agrees_with_equal hminus hzeros rfl rfl).1.2 ⟨_, hzero, ?_⟩
    exact (result_reduce_eq_boolean_iff rfl hminus (result_reduce_ofLiteral args _) true).2 rfl
  · have hfails := (member_agrees_with_equal htext hzeros rfl rfl).2.2.1 (List.ne_nil_of_mem hzero)
    refine hfails.2.2 ⟨_, hzero, ?_⟩
    exact (result_reduce_fails_iff rfl htext (result_reduce_ofLiteral args _)).2 ⟨_, rfl⟩

end Expr
end Condition
