import Condition.Json.Numbers
import Condition.Pattern.Automata
import Condition.Proofs.Recursion
import Condition.Proofs.Strictness

/-! # Kinds of expressions

An expression without queries has a kind if each operator in it gets operands of kinds that it
accepts (`Operator.accepts`), where a name has the kind of its argument (`kindOf?`). Such an
expression reduces to a literal of its kind, unless the engine refuses a text that an operator for
patterns finds on its right (`BreaksOn`). Which texts an engine refuses does not matter, and nothing
is asked of the texts it gives back: a pattern that was compiled before is not compiled again.

* `Literal.apply_of_accepts`: an operator on literals of kinds that it accepts.
* `not_breaksOn`: in an expression that reduces no text is refused.
* `reduce_of_kindOf?`: what an expression with a kind reduces to. -/

namespace Condition

/-! ### Kinds that operators accept -/

/-- Whether a kind is one of single values. -/
def Kind.isScalar : Kind → Bool
  | .string | .number | .boolean => true
  | _ => false

/-- Whether a kind is one of lists. -/
def Kind.isList : Kind → Bool
  | .strings | .numbers => true
  | _ => false

/-- Whether an operator is made for operands of these kinds. -/
def Operator.accepts (op : Operator) (left right : Kind) : Bool :=
  match op with
  | .and | .nand | .or | .xor => left == .boolean && right == .boolean
  | .less | .atMost | .greater | .atLeast => left == .number && right == .number
  | .equal | .notEqual => left.isList || (left.isScalar && left == right)
  | .matching | .notMatching => left == .string && right == .string
  | .member | .notMember =>
    (left == .string && right == .strings) || (left == .number && right == .numbers)

namespace Literal

variable {op : Operator} {a b : Literal}

theorem exists_eq_string (h : a.kind = .string) : ∃ text, a = .string text := by
  cases a with
  | string text => exact ⟨text, rfl⟩
  | _ => cases h

theorem exists_eq_number (h : a.kind = .number) : ∃ d, a = .number d := by
  cases a with
  | number d => exact ⟨d, rfl⟩
  | _ => cases h

theorem exists_eq_strings (h : a.kind = .strings) : ∃ items, a = .strings items := by
  cases a with
  | strings items => exact ⟨items, rfl⟩
  | _ => cases h

theorem exists_eq_numbers (h : a.kind = .numbers) : ∃ items, a = .numbers items := by
  cases a with
  | numbers items => exact ⟨items, rfl⟩
  | _ => cases h

theorem kind_of_ofValue? {value : Value} (h : ofValue? value = some a) : a.kind = value.kind := by
  cases value with
  | document json => cases h
  | _ => cases h; rfl

theorem compare_of_kind (relation : Double → Double → Bool) (ha : a.kind = .number)
    (hb : b.kind = .number) : ∃ t, compare relation a b = .ok t := by
  obtain ⟨x, rfl⟩ := exists_eq_number ha
  obtain ⟨y, rfl⟩ := exists_eq_number hb
  exact ⟨relation x y, rfl⟩

/-- A list on the left may stand in front of every kind, and a scalar in front of its own. -/
theorem equal_of_kind (h : a.kind.isList = true ∨ a.kind.isScalar = true ∧ a.kind = b.kind) :
    ∃ t, equal a b = .ok t := by
  cases a with
  | strings items | numbers items => exact ⟨false, rfl⟩
  | string text =>
    obtain ⟨-, hk⟩ := h.resolve_left (by simp [kind, Kind.isList])
    obtain ⟨other, rfl⟩ := exists_eq_string hk.symm
    exact ⟨text == other, rfl⟩
  | number d =>
    obtain ⟨-, hk⟩ := h.resolve_left (by simp [kind, Kind.isList])
    obtain ⟨other, rfl⟩ := exists_eq_number hk.symm
    exact ⟨d.equals other, rfl⟩
  | boolean t =>
    obtain ⟨-, hk⟩ := h.resolve_left (by simp [kind, Kind.isList])
    obtain ⟨other, rfl⟩ := exists_eq_boolean hk.symm
    exact ⟨t == other, rfl⟩

theorem memberOf_of_kind (op : Operator) (h : a.kind = .string ∧ b.kind = .strings ∨
    a.kind = .number ∧ b.kind = .numbers) : ∃ t, memberOf op a b = .ok t := by
  rcases h with ⟨ha, hb⟩ | ⟨ha, hb⟩
  · obtain ⟨text, rfl⟩ := exists_eq_string ha
    obtain ⟨items, rfl⟩ := exists_eq_strings hb
    exact ⟨items.contains text, rfl⟩
  · obtain ⟨d, rfl⟩ := exists_eq_number ha
    obtain ⟨items, rfl⟩ := exists_eq_numbers hb
    exact ⟨items.any d.equals, rfl⟩

theorem ok_map_not {found : Except Evaluation.Error Bool} (h : ∃ t, found = .ok t) :
    ∃ t, not <$> found = .ok t := by
  obtain ⟨t, rfl⟩ := h
  exact ⟨!t, rfl⟩

variable [Pattern.Engine]

theorem matches?_strings (text source : Text) :
    matches? (.string text) (.string source) =
      match Pattern.ofText? source with
      | some pattern => .ok (pattern.matchesIn text)
      | none => .error (.invalidPattern source) := by
  change (match Pattern.ofText? source with
    | some pattern => pure (pattern.matchesIn text)
    | none => throw (Evaluation.Error.invalidPattern source)) = _
  cases Pattern.ofText? source <;> rfl

/-- An operator for patterns on strings succeeds where the engine compiles the right one, and names
the text elsewhere. -/
theorem apply_of_takesPattern (h : op.takesPattern = true) (text source : Text) :
    (∃ t, apply op (.string text) (.string source) = .ok t) ∧
        (Pattern.ofText? source).isSome = true ∨
      apply op (.string text) (.string source) = .error (.invalidPattern source) ∧
        Pattern.ofText? source = none := by
  have hm := matches?_strings text source
  cases hp : Pattern.ofText? source with
  | some pattern =>
    rw [hp] at hm
    refine .inl ⟨?_, rfl⟩
    cases op with
    | matching => exact ⟨_, hm⟩
    | notMatching => exact ok_map_not ⟨_, hm⟩
    | _ => cases h
  | none =>
    rw [hp] at hm
    refine .inr ⟨?_, rfl⟩
    cases op with
    | matching => exact hm
    | notMatching => exact congrArg (not <$> ·) hm
    | _ => cases h

/-- **An operator on literals of kinds that it accepts** gives a truth value, or finds a text that
the engine refuses. -/
theorem apply_of_accepts (h : op.accepts a.kind b.kind = true) : (∃ t, apply op a b = .ok t) ∨
    op.takesPattern = true ∧ ∃ source, b = .string source ∧ Pattern.ofText? source = none ∧
      apply op a b = .error (.invalidPattern source) := by
  have logical : op.isLogical = true → a.kind = .boolean ∧ b.kind = .boolean →
      ∃ t, apply op a b = .ok t :=
    fun hop hk => (apply_eq_ok_iff hop).2 ⟨hk.1, .inl hk.2⟩
  have pattern : op.takesPattern = true → a.kind = .string ∧ b.kind = .string →
      (∃ t, apply op a b = .ok t) ∨ op.takesPattern = true ∧ ∃ source, b = .string source ∧
        Pattern.ofText? source = none ∧ apply op a b = .error (.invalidPattern source) := by
    rintro hop ⟨ha, hb⟩
    obtain ⟨text, rfl⟩ := exists_eq_string ha
    obtain ⟨source, rfl⟩ := exists_eq_string hb
    rcases apply_of_takesPattern hop text source with ⟨ht, -⟩ | ⟨he, hn⟩
    · exact .inl ht
    · exact .inr ⟨hop, source, rfl, hn, he⟩
  cases op with
  | and | nand | or | xor =>
    simp only [Operator.accepts, Bool.and_eq_true, beq_iff_eq] at h
    exact .inl (logical rfl h)
  | less | atMost | greater | atLeast =>
    simp only [Operator.accepts, Bool.and_eq_true, beq_iff_eq] at h
    exact .inl (compare_of_kind _ h.1 h.2)
  | equal =>
    simp only [Operator.accepts, Bool.or_eq_true, Bool.and_eq_true, beq_iff_eq] at h
    exact .inl (equal_of_kind h)
  | notEqual =>
    simp only [Operator.accepts, Bool.or_eq_true, Bool.and_eq_true, beq_iff_eq] at h
    exact .inl (ok_map_not (equal_of_kind h))
  | matching | notMatching =>
    simp only [Operator.accepts, Bool.and_eq_true, beq_iff_eq] at h
    exact pattern rfl h
  | member =>
    simp only [Operator.accepts, Bool.or_eq_true, Bool.and_eq_true, beq_iff_eq] at h
    exact .inl (memberOf_of_kind _ h)
  | notMember =>
    simp only [Operator.accepts, Bool.or_eq_true, Bool.and_eq_true, beq_iff_eq] at h
    exact .inl (ok_map_not (memberOf_of_kind _ h))

/-- On a text that the engine refuses no operator for patterns succeeds. -/
theorem apply_ne_ok (h : op.takesPattern = true) {source : Text}
    (hn : Pattern.ofText? source = none) (t : Bool) : apply op a (.string source) ≠ .ok t := by
  intro ht
  have hm : ∀ t, matches? a (.string source) ≠ .ok t := by
    intro t ht
    cases a with
    | string text =>
      rw [matches?_strings, hn] at ht
      cases ht
    | _ => cases ht
  cases op with
  | matching => exact hm t ht
  | notMatching =>
    cases he : matches? a (.string source) with
    | ok t' => exact hm t' he
    | error e =>
      simp only [apply, he] at ht
      cases ht
  | _ => cases h

end Literal

/-! ### Kinds of expressions -/

namespace Expr

section

variable [Pattern.Engine] {Q : Type}

/-- **The kind of an expression** with the values of the arguments, if every operator in it accepts
the kinds of its operands. A query has none, nor has a name that is not bound or bound to a
document. -/
def kindOf? (args : Args) : Expr Q → Option Kind
  | .binary op left right =>
    match kindOf? args left, kindOf? args right with
    | some a, some b => if op.accepts a b then some .boolean else none
    | _, _ => none
  | .group inner => kindOf? args inner
  | .name text =>
    match args.lookup text with
    | none => none
    | some (.document _) => none
    | some value => some value.kind
  | .string _ => some .string
  | .pattern _ => some .string
  | .number _ => some .number
  | .boolean _ => some .boolean
  | .strings _ => some .strings
  | .numbers _ => some .numbers
  | .subQuery .. => none

theorem kindOf?_binary {args : Args} {op : Operator} {left right : Expr Q} {k : Kind}
    (h : kindOf? args (.binary op left right) = some k) :
    k = .boolean ∧ ∃ a b, kindOf? args left = some a ∧ kindOf? args right = some b ∧
      op.accepts a b = true := by
  simp only [kindOf?] at h
  split at h
  · rename_i a b ha hb
    split at h
    · cases h
      exact ⟨rfl, a, b, ha, hb, ‹_›⟩
    · cases h
  · cases h

theorem resolve_of_kindOf? {args : Args} {text : Text} {k : Kind}
    (h : kindOf? args (.name text : Expr Q) = some k) :
    ∃ v, resolve args text = .ok v ∧ v.kind = k := by
  simp only [kindOf?] at h
  unfold resolve
  split at h
  · cases h
  · cases h
  · rename_i value hd hl
    cases h
    rw [hl]
    dsimp only
    cases hv : Literal.ofValue? value with
    | some v => exact ⟨v, rfl, Literal.kind_of_ofValue? hv⟩
    | none =>
      cases value with
      | document json => exact absurd rfl (hd json)
      | _ => cases hv

/-! ### Texts that break an expression -/

variable [Query.Runnable Q] {args : Args}

/-- The right operand of an operator for patterns is none that was compiled before, and it reduces
to a text that the engine refuses. -/
def BreaksOn (args : Args) (e : Expr Q) (source : Text) : Prop :=
  ∃ op left right, (op, left, right) ∈ nodes e ∧ op.takesPattern = true ∧
    patternFor? op right = none ∧ (reduce args right).result = .ok (.string source) ∧
      Pattern.ofText? source = none

theorem BreaksOn.mono {e e' : Expr Q} {source : Text} (h : BreaksOn args e source)
    (hs : ∀ node ∈ nodes e, node ∈ nodes e') : BreaksOn args e' source := by
  obtain ⟨op, left, right, hm, ht, hp, hr, hn⟩ := h
  exact ⟨op, left, right, hs _ hm, ht, hp, hr, hn⟩

/-- **An expression that reduces** has no text that breaks it. -/
theorem not_breaksOn {e : Expr Q} {v : Literal} (h : (reduce args e).result = .ok v)
    (source : Text) : ¬ BreaksOn args e source := by
  rintro ⟨op, left, right, hm, ht, hp, hr, hn⟩
  obtain ⟨w, hw⟩ := reduces_of_mem_nodes h hm
  obtain ⟨a, -, hs⟩ := result_reduce_binary.1 hw
  obtain ⟨b, t, hb, ha, -⟩ := (result_applyStep hp).1 hs
  rw [hr] at hb
  cases hb
  exact Literal.apply_ne_ok ht hn t ha

/-! ### What an expression with a kind reduces to -/

theorem applyPattern_of_accepts {op : Operator} {a : Literal} (p : Pattern)
    (ht : op.takesPattern = true) (h : op.accepts a.kind .string = true) :
    ∃ t, applyPattern op a p = .ok (.boolean t) := by
  have ha : a.kind = .string := by
    cases op with
    | matching | notMatching =>
      simp only [Operator.accepts, Bool.and_eq_true, beq_iff_eq] at h
      exact h.1
    | _ => cases ht
  obtain ⟨text, rfl⟩ := Literal.exists_eq_string ha
  exact ⟨_, rfl⟩

/-- The step of an operator whose operands have kinds that it accepts. -/
theorem reduceTree_binary_of_accepts {op : Operator} {left right : Expr Q} {a : Literal} {k : Kind}
    (ha : (reduceTree args left).result = .ok a) (hk : kindOf? args right = some k)
    (hacc : op.accepts a.kind k = true)
    (hright : (∃ b, (reduceTree args right).result = .ok b ∧ b.kind = k) ∨
      ∃ ops source, StopsAt args right ops (.invalidPattern source) ∧ BreaksOn args right source) :
    (∃ t, (reduceTree args (.binary op left right)).result = .ok (.boolean t)) ∨
      ∃ ops source, StopsAt args (.binary op left right) ops (.invalidPattern source) ∧
        BreaksOn args (.binary op left right) source := by
  have step : ∀ {t}, (applyStep op a right (reduceTree args right)).result = .ok (.boolean t) →
      (reduceTree args (.binary op left right)).result = .ok (.boolean t) :=
    fun h => Journaled.result_bind_eq_ok.2 ⟨a, ha, Journaled.result_mapError_eq_ok.2 h⟩
  cases hp : patternFor? op right with
  | some p =>
    obtain ⟨rfl, ht⟩ := patternFor?_eq_some hp
    cases hk
    obtain ⟨t, hm⟩ := applyPattern_of_accepts p ht hacc
    refine .inl ⟨t, step ?_⟩
    unfold applyStep
    rw [hp]
    exact result_settled_eq_ok.2 hm
  | none =>
    rcases hright with ⟨b, hb, rfl⟩ | ⟨ops, source, hs, hbreak⟩
    · rcases Literal.apply_of_accepts hacc with ⟨t, ht⟩ | ⟨hop, source, rfl, hn, he⟩
      · exact .inl ⟨t, step ((result_applyStep hp).2 ⟨b, t, hb, ht, rfl⟩)⟩
      · refine .inr ⟨_, source, .operator ha hp hb he, op, left, right, ?_, hop, hp, ?_, hn⟩
        · exact List.mem_cons_self
        · rw [reduce_eq_reduceTree]
          exact hb
    · refine .inr ⟨_, source, .right ha hp hs, hbreak.mono fun node hm => ?_⟩
      exact List.mem_cons_of_mem _ (List.mem_append_right _ hm)

theorem reduceTree_of_kindOf? {e : Expr Q} {k : Kind} (h : kindOf? args e = some k) :
    (∃ v, (reduceTree args e).result = .ok v ∧ v.kind = k) ∨
      ∃ ops source, StopsAt args e ops (.invalidPattern source) ∧ BreaksOn args e source := by
  induction e generalizing k with
  | binary op left right ihl ihr =>
    obtain ⟨rfl, a, b, ha, hb, hacc⟩ := kindOf?_binary h
    rcases ihl ha with ⟨v, hv, rfl⟩ | ⟨ops, source, hs, hbreak⟩
    · rcases reduceTree_binary_of_accepts hv hb hacc (ihr hb) with ⟨t, ht⟩ | hstop
      · exact .inl ⟨_, ht, rfl⟩
      · exact .inr hstop
    · refine .inr ⟨ops, source, .left hs, hbreak.mono fun node hm => ?_⟩
      exact List.mem_cons_of_mem _ (List.mem_append_left _ hm)
  | group inner ih =>
    rcases ih h with hv | ⟨ops, source, hs, hbreak⟩
    · exact .inl hv
    · exact .inr ⟨ops, source, .group hs, hbreak⟩
  | name text =>
    obtain ⟨v, hv, hk⟩ := resolve_of_kindOf? h
    exact .inl ⟨v, result_settled_eq_ok.2 hv, hk⟩
  | subQuery => cases h
  | _ =>
    cases h
    exact .inl ⟨_, rfl, rfl⟩

/-- **Kinds are kept.** An expression with a kind reduces to a literal of that kind, just if no text
breaks it; else the cause of its error is such a text, and nothing else can be. -/
theorem reduce_of_kindOf? {e : Expr Q} {k : Kind} (h : kindOf? args e = some k) :
    (∃ v, (reduce args e).result = .ok v ∧ v.kind = k ∧ ∀ source, ¬ BreaksOn args e source) ∨
      ∃ failure source, (reduce args e).result = .error failure ∧
        failure.cause = .invalidPattern source ∧ BreaksOn args e source := by
  rcases reduceTree_of_kindOf? h with ⟨v, hv, hk⟩ | ⟨ops, source, hs, hbreak⟩
  · rw [← reduce_eq_reduceTree] at hv
    exact .inl ⟨v, hv, hk, not_breaksOn hv⟩
  · refine .inr ⟨⟨ops, .invalidPattern source⟩, source, ?_, rfl, hbreak⟩
    rw [reduce_eq_reduceTree]
    exact result_of_stopsAt hs

end

/-- A name in front of a text that is no pattern, and the same name in front of a list. -/
theorem reduce_of_kindOf?_open_group :
    let args : Args := [(['n'], .string ['a']), (['t'], .strings [['b'], ['a']])]
    let e : Expr Path := .binary .and (.binary .matching (.name ['n']) (.string ['(']))
      (.group (.binary .member (.name ['n']) (.name ['t'])))
    kindOf? args e = some .boolean ∧
      ∃ failure source, (reduce args e).result = .error failure ∧
        failure.cause = .invalidPattern source ∧ BreaksOn args e source := by
  intro args e
  have hkind : kindOf? args e = some .boolean := rfl
  have hrefused : Pattern.ofText? ['('] = none := Option.isNone_iff_eq_none.1 (by decide +kernel)
  have hmem : (.matching, .name ['n'], .string ['(']) ∈ nodes e :=
    List.mem_cons_of_mem _ List.mem_cons_self
  have hright : (reduce args (.string ['('] : Expr Path)).result = .ok (.string ['(']) := by
    rw [reduce_eq_reduceTree]
    rfl
  have hbreak : BreaksOn args e ['('] := ⟨_, _, _, hmem, rfl, rfl, hright, hrefused⟩
  refine ⟨hkind, ?_⟩
  rcases reduce_of_kindOf? hkind with ⟨v, -, -, hbreaks⟩ | hfails
  · exact absurd hbreak (hbreaks _)
  · exact hfails

end Expr
end Condition
