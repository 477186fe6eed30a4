import Condition.Pattern.Automata
import Condition.Proofs.MemberPaths
import Condition.Proofs.Recursion

/-! # Two ways to an argument

A name in a condition stands for the argument of that name. The path to the member of that name, in
the object that queries run on, gives the same literal where the argument is a text or a finite
number, and the path to its elements does where it is a list of these with at least one element.

* `lookup_toJson`: the members of the object are the arguments.
* `collapse_value`, `collapse_elements`: what is found there, as a literal.
* `reduce_name_eq_path`: the name and the two paths. -/

namespace Condition

/-! ### What a path can read -/

namespace Value

/-- Whether a value is a text or a finite number, which a query can deliver as one result. -/
def isDeliverable : Value → Bool
  | .string _ => true
  | .number d => d.isFinite
  | _ => false

/-- Whether a value is a list, with at least one element, of texts or of finite numbers. -/
def isDeliverableList : Value → Bool
  | .strings items => !items.isEmpty
  | .numbers items => !items.isEmpty && items.all Double.isFinite
  | _ => false

end Value

theorem Json.ofDouble_of_isFinite {d : Double} (h : d.isFinite = true) :
    Json.ofDouble d = .number (.double d) := if_pos h

theorem Args.lookup_toJson (args : Args) (name : Text) :
    (args.map fun arg => (arg.1, arg.2.toJson)).lookup name =
      (args.lookup name).map Value.toJson := by
  induction args with
  | nil => rfl
  | cons arg args ih =>
    obtain ⟨other, value⟩ := arg
    rw [List.map_cons, List.lookup_cons, List.lookup_cons]
    cases name == other with
    | true => rfl
    | false => exact ih

/-! ### Results as literals -/

namespace Literal

theorem valuesOf_ok (values : List Json) : valuesOf (values.map .ok) = .ok values := by
  induction values with
  | nil => rfl
  | cons value values ih =>
    rw [List.map_cons, valuesOf, ih]
    rfl

/-- A reading of all results succeeds where it succeeds for each of them. -/
theorem allResults_map {α β : Type} (query : Text) {read : Json → Option α} {write : β → Json}
    {value : β → α} {items : List β} (h : ∀ item ∈ items, read (write item) = some (value item)) :
    allResults query read (items.map write) = .ok (items.map value) := by
  induction items with
  | nil => rfl
  | cons item items ih =>
    rw [List.map_cons, allResults, h item List.mem_cons_self,
      ih fun other hm => h other (List.mem_cons_of_mem item hm)]
    rfl

/-- A text or a finite number that is the only result is a literal again. -/
theorem collapse_value {value : Value} (hv : value.isDeliverable = true) :
    ∃ literal, literal.toValue = value ∧ ofValue? value = some literal ∧
      ∀ query mode, mode ≠ .array → collapse query mode [.ok value.toJson] = .ok literal := by
  have hone : ∀ query mode, mode ≠ .array →
      collapse query mode [.ok value.toJson] = ofResult query (some value.toJson) := by
    intro query mode hm
    cases mode with
    | array => exact absurd rfl hm
    | _ => rfl
  cases value with
  | string text => exact ⟨.string text, rfl, rfl, hone⟩
  | number d =>
    refine ⟨.number d, rfl, rfl, fun query mode hm => ?_⟩
    rw [hone query mode hm, Value.toJson, Json.ofDouble_of_isFinite hv]
    rfl
  | _ => cases hv

theorem ofResults_strings (query : Text) {items : List Text} (hne : items ≠ []) :
    ofResults query (items.map .string) = .ok (.strings items) := by
  have hall : allResults query Json.text? (items.map .string) = .ok (items.map id) :=
    allResults_map query fun _ _ => rfl
  obtain ⟨item, rest, rfl⟩ := List.exists_cons_of_ne_nil hne
  rw [List.map_id, List.map_cons] at hall
  rw [List.map_cons]
  simp only [ofResults, List.head?_cons, hall]
  rfl

theorem ofResults_numbers (query : Text) {numbers : List Json.Number} (hne : numbers ≠ []) :
    ofResults query (numbers.map .number) = .ok (.numbers (numbers.map Json.Number.toDouble)) := by
  have hall : allResults query Json.double? (numbers.map .number) =
      .ok (numbers.map Json.Number.toDouble) := allResults_map query fun _ _ => rfl
  obtain ⟨n, rest, rfl⟩ := List.exists_cons_of_ne_nil hne
  rw [List.map_cons] at hall
  rw [List.map_cons]
  simp only [ofResults, List.head?_cons, hall]
  rfl

theorem ofResults_doubles (query : Text) {items : List Double} (hne : items ≠ [])
    (hf : ∀ d ∈ items, d.isFinite = true) :
    ofResults query (items.map .ofDouble) = .ok (.numbers items) := by
  have hfinite : items.map Json.ofDouble = (items.map Json.Number.double).map .number := by
    rw [List.map_map]
    exact List.map_congr_left fun d hd => Json.ofDouble_of_isFinite (hf d hd)
  have hdoubles : (items.map Json.Number.double).map Json.Number.toDouble = items := by
    rw [List.map_map]
    exact List.map_id items
  rw [hfinite, ofResults_numbers query (by simpa using hne), hdoubles]

/-- The elements of a list of texts or of finite numbers are that list again. -/
theorem collapse_elements {value : Value} (hv : value.isDeliverableList = true) (query : Text) :
    ∃ literal items, literal.toValue = value ∧ ofValue? value = some literal ∧
      value.toJson = .array items ∧ collapse query .array (items.map .ok) = .ok literal := by
  have hall : ∀ results, collapse query .array (results.map .ok) = ofResults query results := by
    intro results
    simp only [collapse, valuesOf_ok]
  cases value with
  | strings items =>
    refine ⟨.strings items, items.map .string, rfl, rfl, rfl, ?_⟩
    have hne : items ≠ [] := by simpa [Value.isDeliverableList] using hv
    rw [hall, ofResults_strings query hne]
  | numbers items =>
    refine ⟨.numbers items, items.map .ofDouble, rfl, rfl, rfl, ?_⟩
    have hf : items ≠ [] ∧ ∀ d ∈ items, d.isFinite = true := by
      simpa [Value.isDeliverableList] using hv
    rw [hall, ofResults_doubles query hf.1 hf.2]
  | _ => cases hv

end Literal

/-! ### By name and by path -/

namespace Expr

section

variable [Pattern.Engine] {args : Args}

theorem result_reduce_name {name : Text} {value : Value} {literal : Literal}
    (h : args.lookup name = some value) (hl : Literal.ofValue? value = some literal) :
    (reduce args (.name name : Expr Path)).result = .ok literal := by
  rw [reduce, result_settled_eq_ok, resolve, h]
  simp only [hl]
  rfl

/-- What a query gives that the text of a path is compiled to. -/
def pathResult (args : Args) (text : Text) (mode : Query.Mode) :
    Except Query.Error (Except (Failure Operator Evaluation.Error) Literal) :=
  (Path.ofText text).map fun path => (reduce args (.subQuery text mode path)).result

theorem pathResult_eq {text : Text} {path : Path} (h : Path.ofText text = .ok path)
    (args : Args) (mode : Query.Mode) : pathResult args text mode =
      .ok (settled (Literal.collapse text mode (path.run (Args.toJson args)))).result := by
  rw [pathResult, h]
  change Except.ok (reduce args (.subQuery text mode path)).result = _
  rw [reduce]
  rfl

/-- **A name and the path to the argument of that name agree.** A text or a finite number is the
same literal by its name and by its path, whether the first or the last result is taken. A list of
texts or of finite numbers that is not empty is the same literal by its name and by the path to its
elements. An argument that is not there is an error by its name and by both paths. -/
theorem reduce_name_eq_path (args : Args) (name : Text) :
    (∀ value, args.lookup name = some value → value.isDeliverable = true →
      ∃ literal, literal.toValue = value ∧
        (reduce args (.name name : Expr Path)).result = .ok literal ∧
        ∀ mode, mode ≠ .array →
          pathResult args (Path.fieldText name) mode = .ok (.ok literal)) ∧
    (∀ value, args.lookup name = some value → value.isDeliverableList = true →
      ∃ literal, literal.toValue = value ∧
        (reduce args (.name name : Expr Path)).result = .ok literal ∧
        pathResult args (Path.elementsText name) .array = .ok (.ok literal)) ∧
    (args.lookup name = none →
      (reduce args (.name name : Expr Path)).result = .error ⟨[], .missingArgument name⟩ ∧
      ∀ mode,
        pathResult args (Path.fieldText name) mode =
          .ok (.error ⟨[], .noSubQueryResult (Path.fieldText name)⟩) ∧
        pathResult args (Path.elementsText name) mode =
          .ok (.error ⟨[], .subQuery (Path.elementsText name) (.unsuited .iterate .null)⟩)) := by
  have hmember := Args.lookup_toJson args name
  refine ⟨fun value h hv => ?_, fun value h hv => ?_, fun h => ⟨?_, fun mode => ⟨?_, ?_⟩⟩⟩
  · obtain ⟨literal, hl, hof, hc⟩ := Literal.collapse_value hv
    refine ⟨literal, hl, result_reduce_name h hof, fun mode hm => ?_⟩
    rw [pathResult_eq (Path.ofText_fieldText name), Args.toJson, Path.run_field, hmember, h,
      Option.map_some, Option.getD_some, hc _ _ hm]
    rfl
  · obtain ⟨literal, items, hl, hof, hitems, hc⟩ :=
      Literal.collapse_elements hv (Path.elementsText name)
    rw [h, Option.map_some, hitems] at hmember
    refine ⟨literal, hl, result_reduce_name h hof, ?_⟩
    rw [pathResult_eq (Path.ofText_elementsText name), Args.toJson,
      Path.run_elements_of_array hmember, hc]
    rfl
  · rw [reduce, resolve, h]
    rfl
  · rw [pathResult_eq (Path.ofText_fieldText name), Args.toJson, Path.run_field, hmember, h]
    cases mode <;> rfl
  · rw [h, Option.map_none] at hmember
    rw [pathResult_eq (Path.ofText_elementsText name), Args.toJson,
      Path.run_elements_of_none hmember]
    rfl

end

/-- The three cases, where the name is a quote, a backslash and nothing at all. -/
theorem reduce_name_eq_path_quoted :
    (Value.number Double.zero.negated).isDeliverable = true ∧
    pathResult [(['"'], .number Double.zero.negated)] ['.', '[', '"', '\\', '"', '"', ']'] .last =
      .ok (.ok (.number Double.zero.negated)) ∧
    (Value.strings [['b'], []]).isDeliverableList = true ∧
    pathResult [(['\\'], .strings [['b'], []])]
      ['.', '[', '"', '\\', '\\', '"', ']', '[', ']'] .array = .ok (.ok (.strings [['b'], []])) ∧
    (List.lookup [] [(['a'], Value.boolean true)] = none) ∧
    pathResult [(['a'], .boolean true)] ['.', '[', '"', '"', ']'] .first =
      .ok (.error ⟨[], .noSubQueryResult ['.', '[', '"', '"', ']']⟩) := by
  obtain ⟨number, hn, -, hq⟩ :=
    (reduce_name_eq_path [(['"'], .number Double.zero.negated)] ['"']).1 _ rfl rfl
  obtain ⟨list, hl, -, hs⟩ :=
    (reduce_name_eq_path [(['\\'], .strings [['b'], []])] ['\\']).2.1 _ rfl rfl
  have hnumber : number = .number Double.zero.negated := by
    cases number <;> cases hn
    rfl
  have hlist : list = .strings [['b'], []] := by
    cases list <;> cases hl
    rfl
  rw [hnumber] at hq
  rw [hlist] at hs
  exact ⟨rfl, hq .last (by decide), rfl, hs, rfl,
    ((reduce_name_eq_path [(['a'], .boolean true)] []).2.2 rfl).2 .first |>.1⟩

end Expr
end Condition
