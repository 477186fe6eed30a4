import Condition.Pattern.Automata
import Condition.Proofs.Arguments

/-! # What the items of a run come to

A run of a query yields values, and maybe errors among them. An error wins wherever it stands.
Otherwise a value decides (`Query.Mode.decisive?`): the last one where that is asked for, and else
the first. The values come to an operand (`IsOperand`), or there is no result (`LacksResult`), or a
value is unfit for an operand (`IsUnfit`), and never two of these.

* `values_cases`: one of the three holds of any values.
* `collapse_of_isOperand`, `collapse_of_lacksResult`, `collapse_of_isUnfit`: what comes of each.
* `operand_of_run`: the operand of a query, whatever engine has compiled it. -/

namespace Condition

/-! ### Values and operands -/

/-- The value that decides whether a run has a result. -/
def Query.Mode.decisive? (values : List Json) : Query.Mode → Option Json
  | .last => values.getLast?
  | .first | .array => values.head?

namespace Literal

/-- The literal that one value is. -/
inductive IsScalar : Json → Literal → Prop where
  | string (text : Text) : IsScalar (.string text) (.string text)
  | number (n : Json.Number) : IsScalar (.number n) (.number n.toDouble)

/-- The list that values are, one element for each of them. -/
inductive IsList : List Json → Literal → Prop where
  | strings {texts : List Text} (hne : texts ≠ []) : IsList (texts.map .string) (.strings texts)
  | numbers {numbers : List Json.Number} (hne : numbers ≠ []) :
    IsList (numbers.map .number) (.numbers (numbers.map Json.Number.toDouble))

/-- **The operand that values are**: all of them as a list, or the one that decides. -/
def IsOperand (values : List Json) (literal : Literal) : Query.Mode → Prop
  | .array => IsList values literal
  | mode => ∃ value, mode.decisive? values = some value ∧ IsScalar value literal

/-- **No result**: no value decides, or null does. -/
def LacksResult (mode : Query.Mode) (values : List Json) : Prop :=
  mode.decisive? values = none ∨ mode.decisive? values = some .null

/-- **A value that is unfit for an operand**: the one that decides, if it is neither null nor a
string nor a number, and in a list the first one that is not of the kind of the strings or numbers
in front of it. -/
inductive IsUnfit : Query.Mode → List Json → Json → Prop where
  | decisive {mode : Query.Mode} {values : List Json} {value : Json}
    (h : mode.decisive? values = some value)
    (hk : value.kind = .boolean ∨ value.kind = .array ∨ value.kind = .object) :
    IsUnfit mode values value
  | other {first value : Json} {before behind : List Json}
    (hf : first.kind = .string ∨ first.kind = .number)
    (hb : ∀ same ∈ before, same.kind = first.kind) (hk : value.kind ≠ first.kind) :
    IsUnfit .array (first :: (before ++ value :: behind)) value

/-! ### Readings of all results -/

section

variable {α : Type} {read : Json → Option α}

/-- The first result that is not of the kind asked for is the one that an error is about. -/
theorem allResults_of_none (query : Text) {before behind : List Json} {value : Json}
    (hb : ∀ same ∈ before, (read same).isSome = true) (hv : read value = none) :
    allResults query read (before ++ value :: behind) =
      .error (.subQueryValue query value.kind) := by
  induction before with
  | nil =>
    rw [List.nil_append, allResults, hv]
    rfl
  | cons same before ih =>
    obtain ⟨hs, hb⟩ := List.forall_mem_cons.1 hb
    obtain ⟨found, hf⟩ := Option.isSome_iff_exists.1 hs
    rw [List.cons_append, allResults, hf, ih hb]
    rfl

end

theorem isSome_text? (value : Json) : value.text?.isSome = true ↔ value.kind = .string := by
  cases value <;> simp [Json.text?, Json.kind]

theorem isSome_double? (value : Json) : value.double?.isSome = true ↔ value.kind = .number := by
  cases value <;> simp [Json.double?, Json.kind]

/-! ### What comes of values -/

variable {mode : Query.Mode} {values : List Json} {literal : Literal} {value : Json}

/-- Without errors the values count, as the mode says. -/
theorem collapse_values (query : Text) (mode : Query.Mode) (values : List Json) :
    collapse query mode (values.map .ok) =
      if mode = .array then ofResults query values else ofResult query (mode.decisive? values) := by
  simp only [collapse, valuesOf_ok]
  cases mode <;> rfl

theorem collapse_of_isOperand (query : Text) (h : IsOperand values literal mode) :
    collapse query mode (values.map .ok) = .ok literal := by
  rw [collapse_values]
  cases mode with
  | array =>
    rw [if_pos rfl]
    cases h with
    | strings hne => exact ofResults_strings query hne
    | numbers hne => exact ofResults_numbers query hne
  | first | last =>
    obtain ⟨value, hv, hs⟩ := h
    rw [if_neg (by decide), hv]
    cases hs <;> rfl

theorem collapse_of_lacksResult (query : Text) (h : LacksResult mode values) :
    collapse query mode (values.map .ok) = .error (.noSubQueryResult query) := by
  rw [collapse_values]
  cases mode with
  | array =>
    rw [if_pos rfl]
    rcases h with h | h <;>
    · simp only [Query.Mode.decisive?] at h
      simp only [ofResults, h]
      rfl
  | first | last =>
    rw [if_neg (by decide)]
    rcases h with h | h <;> rw [h] <;> rfl

theorem ofResult_of_kind (query : Text)
    (hk : value.kind = .boolean ∨ value.kind = .array ∨ value.kind = .object) :
    ofResult query (some value) = .error (.subQueryValue query value.kind) := by
  cases value with
  | boolean _ | array _ | object _ => rfl
  | null | string _ | number _ => rcases hk with hk | hk | hk <;> cases hk

theorem ofResults_of_kind (query : Text) (h : values.head? = some value)
    (hk : value.kind = .boolean ∨ value.kind = .array ∨ value.kind = .object) :
    ofResults query values = .error (.subQueryValue query value.kind) := by
  unfold ofResults
  rw [h]
  cases value with
  | boolean _ | array _ | object _ => rfl
  | null | string _ | number _ => rcases hk with hk | hk | hk <;> cases hk

/-- In a list the first value of another kind than the first one is unfit. -/
theorem ofResults_of_other_kind (query : Text) {first : Json} {before behind : List Json}
    (hf : first.kind = .string ∨ first.kind = .number)
    (hb : ∀ same ∈ before, same.kind = first.kind) (hk : value.kind ≠ first.kind) :
    ofResults query (first :: (before ++ value :: behind)) =
      .error (.subQueryValue query value.kind) := by
  have hall : ∀ same ∈ first :: before, same.kind = first.kind := List.forall_mem_cons.2 ⟨rfl, hb⟩
  cases first with
  | string text =>
    have herror : allResults query Json.text? (.string text :: before ++ value :: behind) =
        .error (.subQueryValue query value.kind) :=
      allResults_of_none query (fun same hs => (isSome_text? same).2 (hall same hs))
        (Option.not_isSome_iff_eq_none.1 (mt (isSome_text? value).1 hk))
    simp only [ofResults, List.head?_cons]
    rw [← List.cons_append, herror]
    rfl
  | number n =>
    have herror : allResults query Json.double? (.number n :: before ++ value :: behind) =
        .error (.subQueryValue query value.kind) :=
      allResults_of_none query (fun same hs => (isSome_double? same).2 (hall same hs))
        (Option.not_isSome_iff_eq_none.1 (mt (isSome_double? value).1 hk))
    simp only [ofResults, List.head?_cons]
    rw [← List.cons_append, herror]
    rfl
  | null | boolean _ | array _ | object _ => rcases hf with hf | hf <;> cases hf

theorem collapse_of_isUnfit (query : Text) (h : IsUnfit mode values value) :
    collapse query mode (values.map .ok) = .error (.subQueryValue query value.kind) := by
  rw [collapse_values]
  cases h with
  | decisive h hk =>
    cases mode with
    | array => exact ofResults_of_kind query h hk
    | first | last =>
      rw [if_neg (by decide), h]
      exact ofResult_of_kind query hk
  | other hf hb hk => exact ofResults_of_other_kind query hf hb hk

/-! ### All that can come of values -/

/-- Values behind one another are of the kind of the first, or there is a first one that is not. -/
theorem exists_other_kind (kind : Json.Kind) (values : List Json) :
    (∀ value ∈ values, value.kind = kind) ∨ ∃ before value behind,
      values = before ++ value :: behind ∧ (∀ same ∈ before, same.kind = kind) ∧
        value.kind ≠ kind := by
  induction values with
  | nil => exact .inl (by rintro value ⟨⟩)
  | cons first rest ih =>
    by_cases hf : first.kind = kind
    · rcases ih with hall | ⟨before, value, behind, rfl, hb, hv⟩
      · exact .inl (List.forall_mem_cons.2 ⟨hf, hall⟩)
      · exact .inr ⟨first :: before, value, behind, rfl, List.forall_mem_cons.2 ⟨hf, hb⟩, hv⟩
    · exact .inr ⟨[], first, rest, rfl, by rintro same ⟨⟩, hf⟩

theorem exists_texts {values : List Json} (h : ∀ value ∈ values, value.kind = .string) :
    ∃ texts : List Text, values = texts.map .string := by
  induction values with
  | nil => exact ⟨[], rfl⟩
  | cons value values ih =>
    obtain ⟨hv, hvs⟩ := List.forall_mem_cons.1 h
    obtain ⟨texts, rfl⟩ := ih hvs
    cases value with
    | string text => exact ⟨text :: texts, rfl⟩
    | _ => cases hv

theorem exists_numbers_of_kind {values : List Json} (h : ∀ value ∈ values, value.kind = .number) :
    ∃ numbers : List Json.Number, values = numbers.map .number := by
  induction values with
  | nil => exact ⟨[], rfl⟩
  | cons value values ih =>
    obtain ⟨hv, hvs⟩ := List.forall_mem_cons.1 h
    obtain ⟨numbers, rfl⟩ := ih hvs
    cases value with
    | number n => exact ⟨n :: numbers, rfl⟩
    | _ => cases hv

/-- Values of which the first is a string or a number are a list, or one of them is of another
kind. -/
theorem list_or_unfit {first : Json} (hf : first.kind = .string ∨ first.kind = .number)
    (rest : List Json) : (∃ literal, IsList (first :: rest) literal) ∨
      ∃ value, IsUnfit .array (first :: rest) value := by
  rcases exists_other_kind first.kind rest with hall | ⟨before, value, behind, rfl, hb, hv⟩
  · have hall : ∀ value ∈ first :: rest, value.kind = first.kind :=
      List.forall_mem_cons.2 ⟨rfl, hall⟩
    rcases hf with hk | hk <;> rw [hk] at hall
    · obtain ⟨texts, ht⟩ := exists_texts hall
      rw [ht]
      refine .inl ⟨_, .strings ?_⟩
      rintro rfl
      cases ht
    · obtain ⟨numbers, hn⟩ := exists_numbers_of_kind hall
      rw [hn]
      refine .inl ⟨_, .numbers ?_⟩
      rintro rfl
      cases hn
  · exact .inr ⟨value, .other hf hb hv⟩

/-- **Any values** are an operand, or lack a result, or there is one among them that is unfit. -/
theorem values_cases (mode : Query.Mode) (values : List Json) :
    (∃ literal, IsOperand values literal mode) ∨ LacksResult mode values ∨
      ∃ value, IsUnfit mode values value := by
  cases hd : mode.decisive? values with
  | none => exact .inr (.inl (.inl hd))
  | some value =>
    cases hv : value with
    | null => exact .inr (.inl (.inr (hv ▸ hd)))
    | boolean b => exact .inr (.inr ⟨value, .decisive hd (.inl (by rw [hv]; rfl))⟩)
    | array items => exact .inr (.inr ⟨value, .decisive hd (.inr (.inl (by rw [hv]; rfl)))⟩)
    | object members => exact .inr (.inr ⟨value, .decisive hd (.inr (.inr (by rw [hv]; rfl)))⟩)
    | string text | number n =>
      subst hv
      cases mode with
      | first | last => exact .inl ⟨_, _, hd, by constructor⟩
      | array =>
        obtain ⟨rest, rfl⟩ := List.head?_eq_some_iff.1 hd
        refine (list_or_unfit ?_ rest).imp_right .inr
        first | exact .inl rfl | exact .inr rfl

/-- **What comes of values**: the literal that they are, or an error that there is no result, or an
error about a value that is unfit. -/
theorem collapse_eq_iff (query : Text) (mode : Query.Mode) (values : List Json) :
    (∀ literal, collapse query mode (values.map .ok) = .ok literal ↔
      IsOperand values literal mode) ∧
    ∀ e, collapse query mode (values.map .ok) = .error e ↔
      LacksResult mode values ∧ e = .noSubQueryResult query ∨
        ∃ value, IsUnfit mode values value ∧ e = .subQueryValue query value.kind := by
  refine ⟨fun literal => ⟨fun h => ?_, collapse_of_isOperand query⟩, fun e => ⟨fun h => ?_, ?_⟩⟩
  · rcases values_cases mode values with ⟨found, hf⟩ | hl | ⟨value, hu⟩
    · rw [collapse_of_isOperand query hf] at h
      cases h
      exact hf
    · rw [collapse_of_lacksResult query hl] at h
      cases h
    · rw [collapse_of_isUnfit query hu] at h
      cases h
  · rcases values_cases mode values with ⟨found, hf⟩ | hl | ⟨value, hu⟩
    · rw [collapse_of_isOperand query hf] at h
      cases h
    · rw [collapse_of_lacksResult query hl] at h
      cases h
      exact .inl ⟨hl, rfl⟩
    · rw [collapse_of_isUnfit query hu] at h
      cases h
      exact .inr ⟨value, hu, rfl⟩
  · rintro (⟨hl, rfl⟩ | ⟨value, hu, rfl⟩)
    · exact collapse_of_lacksResult query hl
    · exact collapse_of_isUnfit query hu

/-! ### Errors among the items -/

/-- Behind the values of a run its first error stands, if there is one. -/
theorem exists_first_error {items : List (Except Query.Error Json)} (h : ∃ e, .error e ∈ items) :
    ∃ (values : List Json) (e : Query.Error) (behind : List (Except Query.Error Json)),
      items = values.map .ok ++ .error e :: behind := by
  induction items with
  | nil => exact absurd h (by rintro ⟨e, ⟨⟩⟩)
  | cons item items ih =>
    cases item with
    | error e => exact ⟨[], e, items, rfl⟩
    | ok value =>
      obtain ⟨e, hm⟩ := h
      obtain ⟨values, first, behind, rfl⟩ :=
        ih ⟨e, (List.mem_cons.1 hm).resolve_left (by rintro ⟨⟩)⟩
      exact ⟨value :: values, first, behind, rfl⟩

/-- The first error of a run is that of the whole, whatever stands in front of it and behind it. -/
theorem collapse_of_error (query : Text) (mode : Query.Mode) (values : List Json) (e : Query.Error)
    (behind : List (Except Query.Error Json)) :
    collapse query mode (values.map .ok ++ .error e :: behind) = .error (.subQuery query e) := by
  have hvalues : valuesOf (values.map .ok ++ .error e :: behind) = .error e := by
    induction values with
    | nil => rfl
    | cons value values ih =>
      rw [List.map_cons, List.cons_append, valuesOf, ih]
      rfl
  simp only [collapse, hvalues]
  rfl

end Literal

/-! ### Operands that are queries -/

namespace Expr

open Literal

section

variable [Pattern.Engine] {Q : Type} [Query.Runnable Q]

theorem result_reduce_subQuery (args : Args) (source : Text) (mode : Query.Mode) (query : Q) :
    (reduce args (.subQuery source mode query)).result =
      (settled (collapse source mode (Query.Runnable.run query (Args.toJson args)))).result := by
  rw [reduce]
  rfl

/-- **The operand of a query**, whatever engine has compiled it. An error among the items of the run
is that of the operand, and the first one if there are more. Otherwise the operand is the literal
that the values are, just if they are one; there is no result just if none decides or null does; and
any other error is about a value that is unfit, and says of what kind it is. -/
theorem operand_of_run (args : Args) (source : Text) (mode : Query.Mode) (query : Q) :
    let items := Query.Runnable.run query (Args.toJson args)
    let result := (reduce args (.subQuery source mode query)).result
    ((∃ e, .error e ∈ items) → ∃ (values : List Json) (e : Query.Error)
      (behind : List (Except Query.Error Json)), items = values.map .ok ++ .error e :: behind ∧
        result = .error ⟨[], .subQuery source e⟩) ∧
    ∀ values : List Json, items = values.map .ok →
      (∀ literal, result = .ok literal ↔ Literal.IsOperand values literal mode) ∧
      ∀ failure, result = .error failure ↔
        LacksResult mode values ∧ failure = ⟨[], .noSubQueryResult source⟩ ∨
          ∃ value, IsUnfit mode values value ∧ failure =
            ⟨[], .subQueryValue source value.kind⟩ := by
  intro items result
  have hresult : result = (settled (collapse source mode items)).result :=
    result_reduce_subQuery args source mode query
  refine ⟨fun h => ?_, fun values h => ?_⟩
  · obtain ⟨values, e, behind, hitems⟩ := exists_first_error h
    refine ⟨values, e, behind, hitems, ?_⟩
    rw [hresult, hitems, collapse_of_error]
    rfl
  · obtain ⟨hok, herror⟩ := collapse_eq_iff source mode values
    rw [hresult, h]
    refine ⟨fun literal => ?_, fun failure => ?_⟩
    · rw [result_settled_eq_ok, hok]
    · rw [result_settled_eq_error]
      constructor
      · rintro ⟨e, he, rfl⟩
        rcases (herror e).1 he with ⟨hl, rfl⟩ | ⟨value, hu, rfl⟩
        · exact .inl ⟨hl, rfl⟩
        · exact .inr ⟨value, hu, rfl⟩
      · rintro (⟨hl, rfl⟩ | ⟨value, hu, rfl⟩)
        · exact ⟨_, (herror _).2 (.inl ⟨hl, rfl⟩), rfl⟩
        · exact ⟨_, (herror _).2 (.inr ⟨value, hu, rfl⟩), rfl⟩

end

/-- An error behind the first value, asked for first; and without it a list that the second value is
unfit for, though it would do as the last. -/
theorem operand_of_run_comma :
    let args : Args := [(['a'], .string ['x']), (['b'], .boolean true)]
    let fails : Path := .comma [.field ['a'], .pipe [.field ['b'], .iterate]]
    let yields : Path := .comma [.field ['b'], .field ['a']]
    (reduce args (.subQuery ['q'] .first fails)).result =
      .error ⟨[], .subQuery ['q'] (.unsuited .iterate .boolean)⟩ ∧
    (reduce args (.subQuery ['q'] .array yields)).result =
      .error ⟨[], .subQueryValue ['q'] .boolean⟩ ∧
    (reduce args (.subQuery ['q'] .last yields)).result = .ok (.string ['x']) := by
  intro args fails yields
  have hrun : Query.Runnable.run yields (Args.toJson args) =
      [Json.boolean true, .string ['x']].map .ok := rfl
  refine ⟨?_, ?_, ?_⟩
  · obtain ⟨values, e, behind, hitems, hresult⟩ := (operand_of_run args ['q'] .first fails).1
      ⟨.unsuited .iterate .boolean, .tail _ (.head _)⟩
    obtain - | ⟨value, - | ⟨_, _⟩⟩ := values <;> cases hitems
    exact hresult
  · exact (((operand_of_run args ['q'] .array yields).2 _ hrun).2 _).2
      (.inr ⟨_, .decisive rfl (.inl rfl), rfl⟩)
  · exact (((operand_of_run args ['q'] .last yields).2 _ hrun).1 _).2 ⟨_, rfl, .string _⟩

end Expr
end Condition
