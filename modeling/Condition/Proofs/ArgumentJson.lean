import Condition.Proofs.Arguments
import Condition.Proofs.JsonNumbers

/-! # Arguments as JSON and back

An object gives arguments, and arguments give an object. On the way a number becomes its double,
where it is a member or an element of an array of numbers, and nothing else changes (`widened`). The
object that comes back gives the same arguments again.

* `toJson_ofJson`, `ofJson_widened`: one value.
* `args_toJson_ofJson`: all members of an object. -/

namespace Condition

/-! ### Numbers as doubles -/

namespace Json

/-- Whether a value is a number. -/
def isNumber : Json → Bool
  | .number _ => true
  | _ => false

/-- A number by its double; any other value is itself. -/
def asDouble : Json → Json
  | .number n => .number (.double n.toDouble)
  | json => json

/-- **A value as an argument keeps it**: a number, and each element of an array of numbers, by its
double. -/
def widened : Json → Json
  | .array items => if items.all isNumber then .array (items.map asDouble) else .array items
  | json => json.asDouble

theorem widened_array_of_all {items : List Json} (h : items.all isNumber = true) :
    (Json.array items).widened = .array (items.map asDouble) := if_pos h

theorem widened_array_of_not_all {items : List Json} (h : items.all isNumber = false) :
    (Json.array items).widened = .array items := by
  rw [widened, h]
  rfl

end Json

/-! ### Lists -/

/-- A list is read item by item where each item that is read is made from what it is read as. -/
theorem mapM_eq_some_iff {α β γ : Type} {read : α → Option β} {make : γ → α} {found : γ → β}
    (h : ∀ a b, read a = some b ↔ ∃ c, a = make c ∧ b = found c) {items : List α} {out : List β} :
    items.mapM read = some out ↔ ∃ made : List γ, items = made.map make ∧ out = made.map found := by
  induction items generalizing out with
  | nil =>
    rw [List.mapM_nil]
    constructor
    · rintro ⟨⟩
      exact ⟨[], rfl, rfl⟩
    · rintro ⟨made, hitems, rfl⟩
      rw [List.map_eq_nil_iff.1 hitems.symm]
      rfl
  | cons item items ih =>
    simp only [List.mapM_cons, bind, Option.bind_eq_some_iff, pure, Option.some.injEq, h, ih]
    constructor
    · rintro ⟨_, ⟨first, rfl, rfl⟩, _, ⟨made, rfl, rfl⟩, rfl⟩
      exact ⟨first :: made, rfl, rfl⟩
    · rintro ⟨made, hitems, rfl⟩
      obtain ⟨first, more, rfl, rfl, rfl⟩ := List.map_eq_cons_iff.1 hitems.symm
      exact ⟨found first, ⟨first, rfl, rfl⟩, more.map found, ⟨more, rfl, rfl⟩, rfl⟩

namespace Value

open Json

theorem mapM_text? {items : List Json} {texts : List Text} :
    items.mapM text? = some texts ↔ items = texts.map .string := by
  have hone : ∀ (json : Json) (text : Text),
      json.text? = some text ↔ ∃ c, json = .string c ∧ text = c := by
    intro json text
    cases json <;> simp [text?, eq_comm]
  rw [mapM_eq_some_iff hone]
  simp

theorem mapM_double? {items : List Json} {doubles : List Double} :
    items.mapM double? = some doubles ↔
      ∃ numbers : List Number, items = numbers.map .number ∧
        doubles = numbers.map Number.toDouble := by
  refine mapM_eq_some_iff fun json d => ?_
  cases json <;> simp [double?, eq_comm]

theorem all_isNumber_iff {items : List Json} :
    items.all isNumber = true ↔ ∃ numbers : List Number, items = numbers.map .number := by
  constructor
  · intro h
    induction items with
    | nil => exact ⟨[], rfl⟩
    | cons item items ih =>
      rw [List.all_cons, Bool.and_eq_true] at h
      obtain ⟨numbers, rfl⟩ := ih h.2
      cases item with
      | number n => exact ⟨n :: numbers, rfl⟩
      | null | boolean | string | array | object => exact absurd h.1 Bool.false_ne_true
  · rintro ⟨numbers, rfl⟩
    simp [isNumber]

theorem ofItems_strings (texts : List Text) : ofItems (texts.map .string) = .strings texts := by
  have h : (texts.map Json.string).mapM text? = some texts := mapM_text?.2 rfl
  simp only [ofItems, h]

theorem ofItems_numbers {numbers : List Number} (hne : numbers ≠ []) :
    ofItems (numbers.map .number) = .numbers (numbers.map Number.toDouble) := by
  obtain ⟨n, numbers, rfl⟩ := List.exists_cons_of_ne_nil hne
  have hnone : ((n :: numbers).map Json.number).mapM text? = none := rfl
  have h : ((n :: numbers).map Json.number).mapM double? =
      some ((n :: numbers).map Number.toDouble) := mapM_double?.2 ⟨_, rfl, rfl⟩
  simp only [ofItems, hnone, h]

/-- **What an array is**: a list of strings, a list of numbers, or a document with something else in
it. -/
theorem items_cases (items : List Json) :
    (∃ texts : List Text, items = texts.map .string) ∨
    (∃ numbers : List Number, numbers ≠ [] ∧ items = numbers.map .number) ∨
    items.all isNumber = false ∧ ofItems items = .document (.array items) := by
  cases ht : items.mapM text? with
  | some texts => exact .inl ⟨texts, mapM_text?.1 ht⟩
  | none =>
    cases hn : items.all isNumber with
    | true =>
      obtain ⟨numbers, rfl⟩ := all_isNumber_iff.1 hn
      refine .inr (.inl ⟨numbers, ?_, rfl⟩)
      rintro rfl
      cases ht
    | false =>
      have hd : items.mapM double? = none := by
        refine Option.eq_none_iff_forall_ne_some.2 fun doubles h => ?_
        obtain ⟨numbers, rfl, -⟩ := mapM_double?.1 h
        rw [all_isNumber_iff.2 ⟨numbers, rfl⟩] at hn
        cases hn
      exact .inr (.inr ⟨rfl, by simp only [ofItems, ht, hd]⟩)

theorem widened_strings (texts : List Text) :
    (Json.array (texts.map .string)).widened = .array (texts.map .string) := by
  cases texts with
  | nil => rfl
  | cons text texts => exact widened_array_of_not_all rfl

theorem widened_numbers (numbers : List Number) :
    (Json.array (numbers.map .number)).widened =
      .array (numbers.map fun n => .number (.double n.toDouble)) := by
  rw [widened_array_of_all (all_isNumber_iff.2 ⟨numbers, rfl⟩), List.map_map]
  rfl

/-! ### One value -/

/-- **A value that became an argument** comes back with its numbers as doubles. -/
theorem toJson_ofJson {json : Json} (h : json.Proper) : (ofJson json).toJson = json.widened := by
  cases h with
  | null | boolean | string | object => rfl
  | number hn => exact ofDouble_of_isFinite (Number.isFinite_toDouble hn)
  | @array items hitems =>
    rcases items_cases items with ⟨texts, rfl⟩ | ⟨numbers, hne, rfl⟩ | ⟨hall, hdoc⟩
    · rw [ofJson, ofItems_strings, widened_strings]
      rfl
    · rw [ofJson, ofItems_numbers hne, widened_numbers, toJson, List.map_map]
      refine congrArg Json.array (List.map_congr_left fun n hn => ?_)
      cases hitems _ (List.mem_map_of_mem hn) with
      | number hfits => exact ofDouble_of_isFinite (Number.isFinite_toDouble hfits)
    · rw [ofJson, hdoc, widened_array_of_not_all hall]
      rfl

/-- **Numbers as doubles** make the same argument. -/
theorem ofJson_widened (json : Json) : ofJson json.widened = ofJson json := by
  cases json with
  | null | boolean | string | object | number => rfl
  | array items =>
    rcases items_cases items with ⟨texts, rfl⟩ | ⟨numbers, hne, rfl⟩ | ⟨hall, -⟩
    · rw [widened_strings]
    · have hmap : (numbers.map fun n => Json.number (.double n.toDouble)) =
          (numbers.map fun n => Number.double n.toDouble).map .number := by
        rw [List.map_map]
        rfl
      rw [widened_numbers, hmap, ofJson, ofJson, ofItems_numbers hne,
        ofItems_numbers (by simpa using hne), List.map_map]
      rfl
    · rw [widened_array_of_not_all hall]

end Value

/-! ### All members of an object -/

/-- **Arguments from an object and back**: every object gives arguments, and these give an object
with the same names, in which each member is the one that was there, with its numbers as doubles
where it is a number or an array of numbers; and that object gives the same arguments again. -/
theorem args_toJson_ofJson {members : List (Text × Json)} (h : (Json.object members).Proper) :
    ∃ args, Args.ofJson (.object members) = .ok args ∧
      args.toJson = .object (members.map fun member => (member.1, member.2.widened)) ∧
      Args.ofJson args.toJson = .ok args := by
  cases h with
  | object hproper =>
    have hback : Args.toJson (members.map fun member => (member.1, Value.ofJson member.2)) =
        .object (members.map fun member => (member.1, member.2.widened)) := by
      rw [Args.toJson, List.map_map]
      refine congrArg Json.object (List.map_congr_left fun member hm => ?_)
      exact congrArg (Prod.mk member.1) (Value.toJson_ofJson (hproper member hm))
    refine ⟨_, rfl, hback, ?_⟩
    rw [hback, Args.ofJson, List.map_map]
    refine congrArg Except.ok (List.map_congr_left fun member _ => ?_)
    exact congrArg (Prod.mk member.1) (Value.ofJson_widened member.2)

/-- The greatest integer and the elements of a list of numbers become doubles, and a number beside a
text does not. -/
theorem args_toJson_ofJson_of_mixed_array :
    let members : List (Text × Json) :=
      [(['i'], .number (.int 18446744073709551615)),
        (['l'], .array [.number (.int (-1)), .number (.int 2)]),
        (['m'], .array [.number (.int 1), .string ['x']]), (['n'], .null)]
    (Json.object members).Proper ∧
      ∃ args, Args.ofJson (.object members) = .ok args ∧
        args.toJson = .object
          [(['i'], .number (.double (Double.ofInt 18446744073709551615))),
            (['l'], .array [.number (.double (Double.ofInt (-1))),
              .number (.double (Double.ofInt 2))]),
            (['m'], .array [.number (.int 1), .string ['x']]), (['n'], .null)] ∧
        Args.ofJson args.toJson = .ok args := by
  intro members
  have hint : ∀ n : Int, -2 ^ 63 ≤ n ∧ n < 2 ^ 64 → (Json.number (.int n)).Proper :=
    fun _ h => .number h
  have h : (Json.object members).Proper := by
    refine .object ?_
    simp only [members, List.forall_mem_cons, List.not_mem_nil, false_imp_iff,
      implies_true, and_true]
    refine ⟨hint _ (by decide), .array ?_, .array ?_, .null⟩ <;>
      simp only [List.forall_mem_cons, List.not_mem_nil, false_imp_iff, implies_true, and_true]
    · exact ⟨hint _ (by decide), hint _ (by decide)⟩
    · exact ⟨hint _ (by decide), .string ['x']⟩
  exact ⟨h, args_toJson_ofJson h⟩

end Condition
