import Condition.Proofs.Trees

/-! # Limits on the nesting of groups

A reading with a limit on open groups either finds a group too deep or comes to the same as every
reading with a wider limit, error and all (`WidenedBy`). The groups of a tree that is read are
nested no deeper than the limit, and a limit as large as their nesting is enough.

* `ofText_of_le`: the same text with a wider limit.
* `Arises.nesting_le`: the groups of a tree that is read keep the limit.
* `ofText_of_nesting_le`: the limit that the groups of a tree keep is enough to read it. -/

namespace Condition.Expr

open Reading

variable [Pattern.Engine] {Q : Type} {settings : Settings Q} {k k' room room' : Nat}

/-! ### The nesting of groups -/

/-- How deep the groups of an expression are nested. -/
def nesting : Expr Q → Nat
  | .binary _ left right => max (nesting left) (nesting right)
  | .group inner => nesting inner + 1
  | _ => 0

theorem nesting_insert (p : Precedence) (tree : Expr Q) (op : Operator) (right : Expr Q) :
    nesting (tree.insert p op right) = max (nesting tree) (nesting right) :=
  join_insert Nat.max_assoc (fun _ _ _ => rfl) p tree op right

theorem nesting_asRightOperand (op : Operator) (e : Expr Q) :
    nesting (asRightOperand op e) = nesting e :=
  eq_of_asRightOperand (fun _ => rfl) op e

theorem nesting_insertAll_le_iff {p : Precedence} {tree : Expr Q} {steps : Steps Q} {n : Nat} :
    nesting (insertAll p tree steps) ≤ n ↔
      nesting tree ≤ n ∧ ∀ step ∈ steps, nesting step.2 ≤ n := by
  induction steps generalizing tree with
  | nil => simp [insertAll]
  | cons step steps ih =>
    obtain ⟨op, right⟩ := step
    rw [insertAll_cons, ih, nesting_insert, List.forall_mem_cons, Nat.max_le, and_assoc]

/-- Operators whose right operands keep a smaller limit are read with that limit. -/
theorem ReadsSteps.of_nesting_le {wide operand : Reader Q (Expr Q)} {n : Nat}
    (hop : ∀ {s left e}, wide.run s = .ok e left → nesting e ≤ n → operand.run s = .ok e left)
    {s left : ReadState} {steps : Steps Q} (h : ReadsSteps wide s steps left)
    (hs : ∀ step ∈ steps, nesting step.2 ≤ n) : ReadsSteps operand s steps left := by
  induction h with
  | stop s => exact .stop s
  | step hn hr _ ih =>
    rw [List.forall_mem_cons, nesting_asRightOperand] at hs
    exact .step hn (hop hr hs.1) (ih hs.2)

theorem readExpression_of_nesting_le {wide operand : Reader Q (Expr Q)} {n : Nat}
    (hop : ∀ {s left e}, wide.run s = .ok e left → nesting e ≤ n → operand.run s = .ok e left)
    {s left : ReadState} {tree : Expr Q}
    (h : readExpression { settings with maxNesting := k' } wide s = .ok tree left)
    (hn : nesting tree ≤ n) :
    readExpression { settings with maxNesting := k } operand s = .ok tree left := by
  obtain ⟨first, steps, t, ⟨u, hf, hs⟩, he, rfl⟩ := readExpression_eq_ok_iff.1 h
  obtain ⟨hfirst, hsteps⟩ := nesting_insertAll_le_iff.1 hn
  exact readExpression_eq_ok_iff.2
    ⟨first, steps, t, ⟨u, hop hf hfirst, hs.of_nesting_le hop hsteps⟩, he, rfl⟩

/-! ### Wider limits -/

/-- A group stood deeper than the limit. -/
def IsTooDeep (failure : ReadFailure Q) : Prop := ∃ limit, failure.cause = .tooDeep limit

/-- **The reading with a wider limit** comes to the same as the one with the limit, unless that
finds a group too deep. -/
def WidenedBy {α : Type} (read wider : Reading Q α) : Prop :=
  ∀ s, (∃ failure left, read s = .error failure left ∧ IsTooDeep failure) ∨ wider s = read s

namespace WidenedBy

variable {α β : Type}

theorem refl (read : Reading Q α) : WidenedBy read read := fun _ => .inr rfl

theorem bind {read wider : Reading Q α} {next next' : α → Reading Q β} (h : WidenedBy read wider)
    (hn : ∀ a, WidenedBy (next a) (next' a)) : WidenedBy (read >>= next) (wider >>= next') := by
  intro s
  rcases h s with ⟨failure, left, hr, hd⟩ | he
  · exact .inl ⟨failure, left, bind_eq_error.2 (.inl hr), hd⟩
  · change _ ∨ EStateM.bind wider next' s = EStateM.bind read next s
    unfold EStateM.bind
    rw [he]
    cases hr : read s with
    | error failure left => exact .inr rfl
    | ok a t =>
      refine (hn a t).imp_left ?_
      rintro ⟨failure, left, hf, hd⟩
      exact ⟨failure, left, bind_eq_error.2 (.inr ⟨a, t, hr, hf⟩), hd⟩

theorem within {read wider : Reading Q α} (h : WidenedBy read wider) (context : Context) :
    WidenedBy (Reading.within context read) (Reading.within context wider) := by
  intro s
  unfold Reading.within
  rcases h s with ⟨failure, left, hr, limit, hd⟩ | he
  · rw [hr]
    exact .inl ⟨_, left, rfl, limit, hd⟩
  · rw [he]
    exact .inr rfl

theorem ite {p : Prop} [Decidable p] {a b a' b' : Reading Q α} (ha : WidenedBy a a')
    (hb : WidenedBy b b') : WidenedBy (if p then a else b) (if p then a' else b') := by
  split
  · exact ha
  · exact hb

end WidenedBy

theorem widenedBy_readOperators {operand wider : Reader Q (Expr Q)}
    (h : WidenedBy operand.run wider.run) (tree : Expr Q) :
    WidenedBy (readOperators { settings with maxNesting := k } operand tree)
      (readOperators { settings with maxNesting := k' } wider tree) := by
  intro s
  fun_induction readOperators { settings with maxNesting := k } operand tree s with
  | case5 tree s op t hn failure u hr =>
    rcases h.within .rightOperand t with ⟨failure', left, hf, hd⟩ | he
    · rw [hr] at hf
      cases hf
      exact .inl ⟨failure, u, rfl, hd⟩
    · refine .inr ?_
      rw [readOperators_eq]
      simp only [hn, he, hr]
  | case6 tree s op t hn right u hr ih =>
    rcases h.within .rightOperand t with ⟨failure, left, hf, -⟩ | he
    · rw [hr] at hf
      cases hf
    · have hround : readOperators { settings with maxNesting := k' } wider tree s =
          readOperators { settings with maxNesting := k' } wider
            (tree.insert settings.precedence op (asRightOperand op right)) u := by
        rw [readOperators_eq]
        simp only [hn, he, hr]
      rw [hround]
      exact ih
  | _ =>
    refine .inr ?_
    rw [readOperators_eq]
    simp only [*]

theorem widenedBy_readExpression {operand wider : Reader Q (Expr Q)}
    (h : WidenedBy operand.run wider.run) :
    WidenedBy (readExpression { settings with maxNesting := k } operand)
      (readExpression { settings with maxNesting := k' } wider) :=
  (h.within .operand).bind fun first => widenedBy_readOperators h first

variable [Json.Parser]

theorem widenedBy_readOperand {inner? wider? : Option (Reading Q (Expr Q))}
    (h : ∀ inner, inner? = some inner → ∃ wider, wider? = some wider ∧ WidenedBy inner wider) :
    WidenedBy (readOperand { settings with maxNesting := k } inner?)
      (readOperand { settings with maxNesting := k' } wider?) := by
  refine (WidenedBy.refl nextToken).bind fun token => .ite ?_ (.refl _)
  cases inner? with
  | none => exact fun s => .inl ⟨_, s, rfl, k, rfl⟩
  | some inner =>
    obtain ⟨wider, rfl, hw⟩ := h inner rfl
    exact (hw.within .group).bind fun tree => .refl _

/-- More room for groups does not change what is read with less, unless that finds a group too
deep. -/
theorem widenedBy_operandReader (h : room ≤ room') :
    WidenedBy (operandReader { settings with maxNesting := k } room).run
      (operandReader { settings with maxNesting := k' } room').run := by
  induction room generalizing room' with
  | zero =>
    rw [run_operandReader_zero]
    cases room' with
    | zero =>
      rw [run_operandReader_zero]
      exact widenedBy_readOperand (fun _ h => nomatch h)
    | succ room' =>
      rw [run_operandReader_succ]
      exact widenedBy_readOperand (fun _ h => nomatch h)
  | succ room ih =>
    obtain ⟨room', rfl⟩ : ∃ inner, room' = inner + 1 := ⟨room' - 1, by omega⟩
    rw [run_operandReader_succ, run_operandReader_succ]
    refine widenedBy_readOperand ?_
    rintro inner ⟨rfl⟩
    exact ⟨_, rfl, widenedBy_readExpression (ih (Nat.le_of_succ_le_succ h))⟩

theorem widenedBy_condition (h : k ≤ k') :
    WidenedBy (condition { settings with maxNesting := k })
      (condition { settings with maxNesting := k' }) :=
  (widenedBy_readExpression (widenedBy_operandReader h)).bind fun _ => .refl _

/-- **A wider limit** changes nothing, unless a group stands deeper than the limit. -/
theorem ofText_of_le (h : k ≤ k') (text : Text) :
    (∃ failure, (ofText { settings with maxNesting := k } text).result = .error failure ∧
        IsTooDeep failure) ∨
      ofText { settings with maxNesting := k' } text =
        ofText { settings with maxNesting := k } text := by
  have hw : WidenedBy (condition { settings with maxNesting := k })
      (condition { settings with maxNesting := k' }) := widenedBy_condition h
  rcases hw (ReadState.ofText text) with ⟨failure, left, hr, hd⟩ | he
  · exact .inl ⟨failure, result_ofText_eq_error_iff.2 ⟨left, hr⟩, hd⟩
  · exact .inr (by rw [ofText, ofText, he])

/-! ### The nesting of what is read -/

theorem IsLeaf.nesting {token : Token} {e : Expr Q} (h : IsLeaf settings token e) :
    nesting e = 0 := by
  have hatom := h.isAtom
  cases e with
  | binary | group | pattern => cases hatom
  | _ => rfl

/-- **The groups of a tree that is read** keep the limit. -/
theorem Arises.nesting_le {n : Nonterminal} {e : Expr Q} (h : Arises settings n room e) :
    nesting e ≤ room := by
  induction h with
  | leaf h => rw [h.nesting]; exact Nat.zero_le _
  | group _ ih => exact Nat.succ_le_succ ih
  | alone _ ih => exact ih
  | insert op _ _ ih ihr =>
    rw [nesting_insert, nesting_asRightOperand]
    exact Nat.max_le.2 ⟨ih, ihr⟩

/-! ### Limits that are enough -/

theorem readOperand_of_nesting_le {wide? inner? : Option (Reading Q (Expr Q))} {n : Nat}
    (hin : ∀ {wide tree t u}, wide? = some wide → wide t = .ok tree u → nesting tree + 1 ≤ n →
      ∃ inner, inner? = some inner ∧ inner t = .ok tree u)
    {s left : ReadState} {e : Expr Q}
    (h : readOperand { settings with maxNesting := k' } wide? s = .ok e left) (hn : nesting e ≤ n) :
    readOperand { settings with maxNesting := k } inner? s = .ok e left := by
  obtain ⟨token, t, ht, h⟩ := bind_eq_ok.1 h
  refine bind_eq_ok.2 ⟨token, t, ht, ?_⟩
  split at h
  · rename_i hparen
    rw [if_pos hparen]
    cases wide? with
    | none => exact absurd h fail_ne_ok
    | some wide =>
      obtain ⟨tree, u, hr, hrest⟩ := bind_eq_ok.1 h
      obtain ⟨closing, v, -, hclose⟩ := bind_eq_ok.1 hrest
      split at hclose
      · obtain ⟨rfl, -⟩ := pure_eq_ok.1 hclose
        obtain ⟨inner, rfl, hi⟩ := hin rfl (within_eq_ok.1 hr) hn
        exact bind_eq_ok.2 ⟨tree, u, within_eq_ok.2 hi, hrest⟩
      · exact absurd hclose fail_ne_ok
  · rename_i hparen
    rw [if_neg hparen]
    exact h

/-- **An operand whose groups keep a limit** is read with that limit, whatever the limit was with
which it was read. -/
theorem run_operandReader_of_nesting_le {s left : ReadState} {e : Expr Q}
    (h : (operandReader { settings with maxNesting := k' } room').run s = .ok e left)
    (hn : nesting e ≤ room) :
    (operandReader { settings with maxNesting := k } room).run s = .ok e left := by
  induction room' generalizing room s left e with
  | zero =>
    rw [run_operandReader_zero] at h
    cases room with
    | zero =>
      rw [run_operandReader_zero]
      refine readOperand_of_nesting_le ?_ h hn
      rintro _ _ _ _ ⟨⟩
    | succ room =>
      rw [run_operandReader_succ]
      refine readOperand_of_nesting_le ?_ h hn
      rintro _ _ _ _ ⟨⟩
  | succ room' ih =>
    rw [run_operandReader_succ] at h
    cases room with
    | zero =>
      rw [run_operandReader_zero]
      refine readOperand_of_nesting_le ?_ h hn
      rintro _ tree _ _ ⟨rfl⟩ - hle
      exact absurd hle (Nat.not_succ_le_zero _)
    | succ room =>
      rw [run_operandReader_succ]
      refine readOperand_of_nesting_le ?_ h hn
      rintro _ tree _ _ ⟨rfl⟩ hr hle
      exact ⟨_, rfl, readExpression_of_nesting_le ih hr (Nat.le_of_succ_le_succ hle)⟩

/-- **The limit that the groups of a tree keep** is enough to read it. -/
theorem ofText_of_nesting_le {text : Text} {tree : Expr Q}
    (h : (ofText { settings with maxNesting := k' } text).result = .ok tree)
    (hn : nesting tree ≤ k) :
    (ofText { settings with maxNesting := k } text).result = .ok tree := by
  obtain ⟨t, u, he, hend⟩ := condition_eq_ok_iff.1 (result_ofText_eq_ok_iff.1 h)
  have hr : expression { settings with maxNesting := k } (ReadState.ofText text) = .ok tree t :=
    readExpression_of_nesting_le run_operandReader_of_nesting_le he hn
  exact result_ofText_eq_ok_iff.2 (condition_eq_ok_iff.2 ⟨t, u, hr, hend⟩)

/-- With another limit a condition is read just if its groups keep that limit. -/
theorem exists_ofText_iff_nesting_le {text : Text} {tree : Expr Q}
    (h : (ofText { settings with maxNesting := k' } text).result = .ok tree) :
    (∃ other, (ofText { settings with maxNesting := k } text).result = .ok other) ↔
      nesting tree ≤ k := by
  constructor
  · rintro ⟨other, ho⟩
    -- with the wider of the two limits the text is read as both trees
    have hother := (arises_of_ofText ho).nesting_le
    have htree := ofText_of_nesting_le (k := max k k') h
      (Nat.le_trans (arises_of_ofText h).nesting_le (Nat.le_max_right ..))
    have hboth := ofText_of_nesting_le (k := max k k') ho
      (Nat.le_trans hother (Nat.le_max_left ..))
    rw [htree] at hboth
    cases hboth
    exact hother
  · intro hn
    exact ⟨tree, ofText_of_nesting_le h hn⟩

end Condition.Expr
