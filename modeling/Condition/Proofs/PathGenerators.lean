import Condition.Query.Path.Basic

/-! # Paths as generators

A pipe takes all that a stage yields through the next stage before it goes on (`Path.outputs`). One
can read it depth first as well (`generated`): each value that the first stage yields goes through
all the others before the stage yields its next one. Where no error is met both yield the same
values in the same order, and one meets an error where the other does. But the values in front of an
error differ: a pipe yields none of them.

A path need not make a list of its own for what it yields: it can write behind what others wrote
(`write`), as long as pipes and optional paths keep their values to themselves until nothing can
fail any more.

* `write_eq_written`: writing puts the values of a path behind what is there, and the error is the
  same.
* `whole?_outputs`: both readings of a path yield the same where no error is met.
* `generated_flat`: how pipes are grouped makes no difference to a generator.
* `write_agrees_with_generated`: all of it for one path. -/

namespace Condition.Path

/-! ### Outcomes one after the other -/

namespace Outcome

variable {first next : Outcome} {f g : Json → Outcome}

/-- One outcome and then another, if the first does not end in an error. -/
def followedBy (first next : Outcome) : Outcome :=
  match first.failure with
  | some _ => first
  | none => ⟨first.values ++ next.values, next.failure⟩

/-- What comes of the values in turn, up to the first error. -/
def inTurn (f : Json → Outcome) : List Json → Outcome
  | [] => .ofValues []
  | value :: rest => (f value).followedBy (inTurn f rest)

/-- What comes of the values of an outcome in turn, and then its error. -/
def through (outcome : Outcome) (f : Json → Outcome) : Outcome :=
  (inTurn f outcome.values).followedBy ⟨[], outcome.failure⟩

/-- The values, if no error ends them. -/
def whole? (outcome : Outcome) : Option (List Json) := outcome.complete.toOption

theorem followedBy_of_failure {e : Query.Error} (h : first.failure = some e) (next : Outcome) :
    first.followedBy next = first := by
  rw [followedBy, h]

theorem followedBy_of_none (h : first.failure = none) (next : Outcome) :
    first.followedBy next = ⟨first.values ++ next.values, next.failure⟩ := by
  rw [followedBy, h]

@[simp] theorem ofValues_followedBy (values : List Json) (next : Outcome) :
    (ofValues values).followedBy next = ⟨values ++ next.values, next.failure⟩ := rfl

@[simp] theorem followedBy_ofValues_nil (first : Outcome) :
    first.followedBy (.ofValues []) = first := by
  obtain ⟨values, _ | e⟩ := first
  · exact congrArg (Outcome.mk · none) (List.append_nil values)
  · rfl

theorem followedBy_assoc (first next last : Outcome) :
    (first.followedBy next).followedBy last = first.followedBy (next.followedBy last) := by
  obtain ⟨values, _ | e⟩ := first
  · obtain ⟨more, _ | e⟩ := next
    · exact congrArg (Outcome.mk · last.failure) (List.append_assoc values more last.values)
    · rfl
  · rfl

theorem inTurn_append (f : Json → Outcome) (values more : List Json) :
    inTurn f (values ++ more) = (inTurn f values).followedBy (inTurn f more) := by
  induction values with
  | nil => rfl
  | cons value rest ih => rw [List.cons_append, inTurn, inTurn, ih, followedBy_assoc]

theorem ofValues_through (values : List Json) (f : Json → Outcome) :
    (ofValues values).through f = inTurn f values :=
  followedBy_ofValues_nil _

theorem through_followedBy (first next : Outcome) (f : Json → Outcome) :
    (first.followedBy next).through f = (first.through f).followedBy (next.through f) := by
  obtain ⟨values, _ | e⟩ := first
  · have hfirst : through ⟨values, none⟩ f = inTurn f values := ofValues_through values f
    rw [followedBy_of_none rfl, hfirst, through, inTurn_append, followedBy_assoc, through]
  · -- the first outcome ends in an error, and so does what comes of it
    obtain ⟨e', hfailure⟩ : ∃ e', (through ⟨values, some e⟩ f).failure = some e' := by
      rw [through, followedBy]
      split
      · exact ⟨_, ‹_›⟩
      · exact ⟨e, rfl⟩
    rw [followedBy_of_failure rfl, followedBy_of_failure hfailure]

/-- Values go through one stage and then through another as they go through both together. -/
theorem inTurn_through (f g : Json → Outcome) (values : List Json) :
    (inTurn f values).through g = inTurn (fun value => (f value).through g) values := by
  induction values with
  | nil => rfl
  | cons value rest ih => rw [inTurn, inTurn, through_followedBy, ih]

theorem through_assoc (first : Outcome) (f g : Json → Outcome) :
    (first.through f).through g = first.through fun value => (f value).through g := by
  have hinner : first.through f =
      (inTurn f first.values).followedBy ⟨[], first.failure⟩ := rfl
  rw [hinner, through_followedBy, inTurn_through]
  rfl

/-! ### Outcomes without an error -/

@[simp] theorem whole?_eq_some {outcome : Outcome} {values : List Json} :
    outcome.whole? = some values ↔ outcome = .ofValues values := by
  obtain ⟨found, _ | e⟩ := outcome
  · have hwhole : whole? ⟨found, none⟩ = some found := rfl
    rw [hwhole, Option.some_inj, ofValues, mk.injEq, and_iff_left rfl]
  · exact ⟨fun h => (nomatch h), fun h => (nomatch h)⟩

theorem isSome_whole? (outcome : Outcome) : outcome.whole?.isSome = outcome.failure.isNone := by
  obtain ⟨values, _ | e⟩ := outcome <;> rfl

theorem whole?_followedBy (first next : Outcome) : (first.followedBy next).whole? =
    first.whole?.bind fun values => next.whole?.map (values ++ ·) := by
  obtain ⟨values, _ | e⟩ := first
  · obtain ⟨more, _ | e⟩ := next <;> rfl
  · rfl

theorem whole?_inTurn_congr (h : ∀ value, (f value).whole? = (g value).whole?)
    (values : List Json) : (inTurn f values).whole? = (inTurn g values).whole? := by
  induction values with
  | nil => rfl
  | cons value rest ih => rw [inTurn, inTurn, whole?_followedBy, whole?_followedBy, h, ih]

theorem whole?_through (outcome : Outcome) (f : Json → Outcome) :
    (outcome.through f).whole? = outcome.whole?.bind fun values => (inTurn f values).whole? := by
  obtain ⟨values, _ | e⟩ := outcome
  · exact congrArg whole? (ofValues_through values f)
  · have hnone : whole? ⟨[], some e⟩ = none := rfl
    rw [through, whole?_followedBy, hnone]
    exact Option.bind_fun_none _

end Outcome

open Outcome

theorem outputsOfEach_eq (f : Json → Outcome) (values : List Json) :
    outputsOfEach f values = (inTurn f values).complete := by
  induction values with
  | nil => rfl
  | cons value rest ih =>
    rw [outputsOfEach, inTurn, ih]
    obtain ⟨found, _ | e⟩ := f value
    · obtain ⟨more, _ | e⟩ := inTurn f rest <;> rfl
    · rfl

theorem outputsOfBranches_cons (branch : Path) (rest : List Path) (input : Json) :
    outputsOfBranches (branch :: rest) input =
      (outputs branch input).followedBy (outputsOfBranches rest input) := by
  rw [outputsOfBranches]
  rfl

/-! ### Depth first -/

mutual

/-- **What a path yields depth first**: each value of a stage goes through the stages behind it
before the stage yields its next value. An optional path yields nothing unless it meets no error. -/
def generated : Path → Json → Outcome
  | .identity, input => .ofValues [input]
  | .field name, input => fieldOf name input
  | .index place, input => indexOf place input
  | .iterate, input => elementsOf input
  | .optional path, input => .ofValues ((generated path input).whole?.getD [])
  | .pipe stages, input => generatedThrough stages input
  | .comma branches, input => generatedBranches branches input

/-- What a value yields through the stages. -/
def generatedThrough : List Path → Json → Outcome
  | [], input => .ofValues [input]
  | stage :: rest, input => (generated stage input).through (generatedThrough rest)

/-- What the branches yield one after the other. -/
def generatedBranches : List Path → Json → Outcome
  | [], _ => .ofValues []
  | branch :: rest, input => (generated branch input).followedBy (generatedBranches rest input)

end

theorem outputs_optional (path : Path) (input : Json) :
    outputs (.optional path) input = .ofValues ((outputs path input).whole?.getD []) := by
  rw [outputs, whole?]
  cases (outputs path input).complete <;> rfl

theorem whole?_outputs_pipe (stages : List Path) (input : Json) :
    (outputs (.pipe stages) input).whole? = (outputsOfStages stages [input]).toOption := by
  rw [outputs]
  cases outputsOfStages stages [input] <;> rfl

mutual

/-- **Stage by stage and depth first** a path yields the same values, unless it meets an error both
ways. -/
theorem whole?_outputs (path : Path) (input : Json) :
    (outputs path input).whole? = (generated path input).whole? := by
  match path with
  | .identity => rw [outputs, generated]
  | .field name => rw [outputs, generated]
  | .index place => rw [outputs, generated]
  | .iterate => rw [outputs, generated]
  | .optional path => rw [outputs_optional, whole?_outputs path input, generated]
  | .pipe stages =>
    rw [whole?_outputs_pipe, toOption_outputsOfStages, inTurn, inTurn, followedBy_ofValues_nil,
      generated]
  | .comma branches => rw [outputs, generated, whole?_outputsOfBranches]

/-- All the values at once go through the stages as each of them goes through all of the stages in
turn. -/
theorem toOption_outputsOfStages (stages : List Path) (values : List Json) :
    (outputsOfStages stages values).toOption =
      (inTurn (generatedThrough stages) values).whole? := by
  match stages with
  | [] =>
    rw [outputsOfStages]
    induction values with
    | nil => rfl
    | cons value rest ih =>
      rw [inTurn, whole?_followedBy, ← ih]
      rfl
  | stage :: rest =>
    have hbind : (outputsOfStages (stage :: rest) values).toOption =
        (inTurn (outputs stage) values).whole?.bind fun found =>
          (outputsOfStages rest found).toOption := by
      rw [outputsOfStages, outputsOfEach_eq, whole?]
      cases (inTurn (outputs stage) values).complete <;> rfl
    have hrest : (fun found => (outputsOfStages rest found).toOption) =
        fun found => (inTurn (generatedThrough rest) found).whole? :=
      funext fun found => toOption_outputsOfStages rest found
    rw [hbind, hrest, whole?_inTurn_congr (whole?_outputs stage), ← whole?_through, inTurn_through]
    rfl

theorem whole?_outputsOfBranches (branches : List Path) (input : Json) :
    (outputsOfBranches branches input).whole? = (generatedBranches branches input).whole? := by
  match branches with
  | [] => rfl
  | branch :: rest =>
    rw [outputsOfBranches_cons, generatedBranches, whole?_followedBy, whole?_followedBy,
      whole?_outputs branch input, whole?_outputsOfBranches rest input]

end

/-! ### Writing -/

/-- What writes values behind those that are there, and may end in an error. -/
abbrev Writing := EStateM Query.Error (List Json) Unit

/-- The values of an outcome written behind others, then its error. -/
def Outcome.written (outcome : Outcome) : Writing := fun before =>
  match outcome.failure with
  | some e => .error e (before ++ outcome.values)
  | none => .ok () (before ++ outcome.values)

theorem Outcome.written_followedBy (first next : Outcome) :
    (first.followedBy next).written = (do first.written; next.written) := by
  funext before
  obtain ⟨values, _ | e⟩ := first
  · obtain ⟨more, _ | e⟩ := next <;>
      simp only [followedBy, written, ← List.append_assoc] <;> rfl
  · rfl

theorem Outcome.written_inTurn (f : Json → Outcome) (values : List Json) :
    (values.forM fun value => (f value).written) = (inTurn f values).written := by
  induction values with
  | nil => exact funext fun before => congrArg (EStateM.Result.ok ()) (List.append_nil before).symm
  | cons value rest ih =>
    rw [inTurn, written_followedBy, ← ih]
    rfl

/-- What was written to a list of its own, or the error. -/
def gathered (writing : Writing) : Except Query.Error (List Json) :=
  match writing [] with
  | .ok _ values => .ok values
  | .error e _ => .error e

theorem gathered_written (outcome : Outcome) : gathered outcome.written = outcome.complete := by
  obtain ⟨values, _ | e⟩ := outcome <;> rfl

mutual

/-- **A path that writes what it yields** behind what is there. A comma list lets its branches write
there one after the other. A pipe has a list of its own for each stage, and an optional path for all
that it yields: they write when nothing can fail any more. -/
def write : Path → Json → Writing
  | .identity, input => (Outcome.ofValues [input]).written
  | .field name, input => (fieldOf name input).written
  | .index place, input => (indexOf place input).written
  | .iterate, input => (elementsOf input).written
  | .optional path, input =>
    match gathered (write path input) with
    | .ok values => (Outcome.ofValues values).written
    | .error _ => pure ()
  | .pipe stages, input =>
    match writeStages stages [input] with
    | .ok values => (Outcome.ofValues values).written
    | .error e => throw e
  | .comma branches, input => writeBranches branches input

/-- The list behind the last stage, when each stage writes to a list of its own. -/
def writeStages : List Path → List Json → Except Query.Error (List Json)
  | [], current => .ok current
  | stage :: rest, current => do
    let next ← gathered (current.forM (write stage))
    writeStages rest next

/-- The branches, each behind what the ones before it wrote. -/
def writeBranches : List Path → Json → Writing
  | [], _ => pure ()
  | branch :: rest, input => do
    write branch input
    writeBranches rest input

end

theorem written_ofValues_nil : (ofValues []).written = pure () :=
  funext fun before => congrArg (EStateM.Result.ok ()) (List.append_nil before)

theorem written_failed (e : Query.Error) : (failed e).written = throw e :=
  funext fun before => congrArg (EStateM.Result.error e) (List.append_nil before)

mutual

/-- **Writing** puts the values of a path behind what is there, and ends in its error. What is there
is neither changed nor looked at. -/
theorem write_eq_written (path : Path) (input : Json) :
    write path input = (outputs path input).written := by
  match path with
  | .identity => rw [write, outputs]
  | .field name => rw [write, outputs]
  | .index place => rw [write, outputs]
  | .iterate => rw [write, outputs]
  | .optional path =>
    rw [write, outputs, write_eq_written path input, gathered_written]
    cases (outputs path input).complete with
    | ok values => rfl
    | error e => exact written_ofValues_nil.symm
  | .pipe stages =>
    rw [write, outputs, writeStages_eq stages [input]]
    cases outputsOfStages stages [input] with
    | ok values => rfl
    | error e => exact (written_failed e).symm
  | .comma branches => rw [write, outputs, writeBranches_eq_written]

theorem writeStages_eq (stages : List Path) (values : List Json) :
    writeStages stages values = outputsOfStages stages values := by
  match stages with
  | [] => rfl
  | stage :: rest =>
    have hwrite : write stage = fun value => (outputs stage value).written :=
      funext (write_eq_written stage)
    have hrest : writeStages rest = outputsOfStages rest := funext (writeStages_eq rest)
    rw [writeStages, outputsOfStages, hwrite, written_inTurn, gathered_written,
      outputsOfEach_eq, hrest]

theorem writeBranches_eq_written (branches : List Path) (input : Json) :
    writeBranches branches input = (outputsOfBranches branches input).written := by
  match branches with
  | [] => exact written_ofValues_nil.symm
  | branch :: rest =>
    rw [writeBranches, write_eq_written branch input, writeBranches_eq_written rest input,
      outputsOfBranches_cons, written_followedBy]

end

/-! ### The values in front of an error -/

theorem values_pipe_of_failure {stages : List Path} {input : Json} {e : Query.Error}
    (h : (outputs (.pipe stages) input).failure = some e) :
    (outputs (.pipe stages) input).values = [] := by
  rw [outputs] at h ⊢
  cases hstages : outputsOfStages stages [input] with
  | ok values =>
    rw [hstages] at h
    cases h
  | error e => rfl

theorem outputsOfBranches_append (branches more : List Path) (input : Json) :
    outputsOfBranches (branches ++ more) input =
      (outputsOfBranches branches input).followedBy (outputsOfBranches more input) := by
  induction branches with
  | nil => rfl
  | cons branch rest ih =>
    rw [List.cons_append, outputsOfBranches_cons, ih, outputsOfBranches_cons, followedBy_assoc]

theorem outputsOfBranches_of_none {branches : List Path} {input : Json}
    (h : ∀ branch ∈ branches, (outputs branch input).failure = none) :
    outputsOfBranches branches input =
      .ofValues (branches.flatMap fun branch => (outputs branch input).values) := by
  induction branches with
  | nil => rfl
  | cons branch rest ih =>
    obtain ⟨hb, hrest⟩ := List.forall_mem_cons.1 h
    rw [outputsOfBranches_cons, ih hrest, followedBy_of_none hb]
    rfl

theorem exists_failing_branch {branches : List Path} {input : Json} {e : Query.Error}
    (h : (outputsOfBranches branches input).failure = some e) :
    ∃ done branch rest, branches = done ++ branch :: rest ∧
      (∀ path ∈ done, (outputs path input).failure = none) ∧
      (outputs branch input).failure = some e := by
  induction branches with
  | nil => cases h
  | cons first others ih =>
    rw [outputsOfBranches_cons] at h
    cases hf : (outputs first input).failure with
    | some e' =>
      rw [followedBy_of_failure hf] at h
      exact ⟨[], first, others, rfl, fun _ hm => absurd hm List.not_mem_nil, h⟩
    | none =>
      rw [followedBy_of_none hf] at h
      obtain ⟨done, branch, rest, rfl, hdone, hfailure⟩ := ih h
      exact ⟨first :: done, branch, rest, rfl, List.forall_mem_cons.2 ⟨hf, hdone⟩, hfailure⟩

/-- **A comma list that ends in an error** has yielded all of the branches in front of one that
failed, and then what that one did. -/
theorem values_comma_of_failure {branches : List Path} {input : Json} {e : Query.Error}
    (h : (outputs (.comma branches) input).failure = some e) :
    ∃ done branch rest, branches = done ++ branch :: rest ∧
      (∀ path ∈ done, (outputs path input).failure = none) ∧
      (outputs branch input).failure = some e ∧
      (outputs (.comma branches) input).values =
        (done.flatMap fun path => (outputs path input).values) ++
          (outputs branch input).values := by
  rw [outputs] at h ⊢
  obtain ⟨done, branch, rest, rfl, hdone, hfailure⟩ := exists_failing_branch h
  refine ⟨done, branch, rest, rfl, hdone, hfailure, ?_⟩
  rw [outputsOfBranches_append, outputsOfBranches_of_none hdone, outputsOfBranches_cons,
    followedBy_of_failure hfailure, ofValues_followedBy]

/-- The items of a run are what is written to an empty list, and the error behind them. -/
theorem run_eq_write (path : Path) (input : Json) : run path input =
    match write path input [] with
    | .ok _ values => values.map .ok
    | .error e values => values.map .ok ++ [.error e] := by
  rw [run, write_eq_written, written]
  cases (outputs path input).failure with
  | none => exact List.append_nil _
  | some e => rfl

/-! ### Pipes that are grouped another way -/

mutual

/-- The stages of a path when no pipe in it has a stage that is a pipe. -/
def flatStages : Path → List Path
  | .optional path => [.optional (.pipe (flatStages path))]
  | .pipe stages => flatStagesOf stages
  | .comma branches => [.comma (flatBranches branches)]
  | .identity => [.identity]
  | .field name => [.field name]
  | .index place => [.index place]
  | .iterate => [.iterate]

/-- The flat stages of one path after the other. -/
def flatStagesOf : List Path → List Path
  | [] => []
  | stage :: rest => flatStages stage ++ flatStagesOf rest

/-- The branches, each a pipe of its flat stages. -/
def flatBranches : List Path → List Path
  | [] => []
  | branch :: rest => .pipe (flatStages branch) :: flatBranches rest

end

theorem flatStagesOf_append (stages more : List Path) :
    flatStagesOf (stages ++ more) = flatStagesOf stages ++ flatStagesOf more := by
  induction stages with
  | nil => rfl
  | cons stage rest ih => rw [List.cons_append, flatStagesOf, flatStagesOf, ih, List.append_assoc]

/-- A pipe among the stages of a pipe counts as its own stages. -/
theorem flatStages_pipe_in_pipe (before stages behind : List Path) :
    flatStages (.pipe (before ++ .pipe stages :: behind)) =
      flatStages (.pipe (before ++ stages ++ behind)) := by
  rw [flatStages, flatStages, flatStagesOf_append, flatStagesOf_append, flatStagesOf_append,
    flatStagesOf, flatStages, List.append_assoc]

theorem generatedThrough_append (stages more : List Path) (input : Json) :
    generatedThrough (stages ++ more) input =
      (generatedThrough stages input).through (generatedThrough more) := by
  induction stages generalizing input with
  | nil =>
    rw [List.nil_append, generatedThrough, ofValues_through, inTurn, inTurn,
      followedBy_ofValues_nil]
  | cons stage rest ih =>
    rw [List.cons_append, generatedThrough, generatedThrough, through_assoc]
    exact congrArg _ (funext ih)

theorem through_ofValues_singleton (outcome : Outcome) :
    (outcome.through fun value => .ofValues [value]) = outcome := by
  obtain ⟨values, failure⟩ := outcome
  have hvalues : inTurn (fun value => .ofValues [value]) values = .ofValues values := by
    induction values with
    | nil => rfl
    | cons value rest ih =>
      rw [inTurn, ih]
      rfl
  rw [through, hvalues]
  exact congrArg (Outcome.mk · failure) (List.append_nil values)

theorem generatedThrough_singleton (path : Path) : generatedThrough [path] = generated path := by
  funext input
  rw [generatedThrough]
  exact through_ofValues_singleton _

mutual

/-- **How pipes are grouped** makes no difference to what is yielded depth first. -/
theorem generatedThrough_flatStages (path : Path) :
    generatedThrough (flatStages path) = generated path := by
  match path with
  | .identity => rw [flatStages, generatedThrough_singleton]
  | .field name => rw [flatStages, generatedThrough_singleton]
  | .index place => rw [flatStages, generatedThrough_singleton]
  | .iterate => rw [flatStages, generatedThrough_singleton]
  | .optional path =>
    funext input
    rw [flatStages, generatedThrough_singleton, generated, generated, generated,
      generatedThrough_flatStages path]
  | .pipe stages =>
    funext input
    rw [flatStages, generatedThrough_flatStagesOf stages, generated]
  | .comma branches =>
    funext input
    rw [flatStages, generatedThrough_singleton, generated, generatedBranches_flatBranches branches,
      generated]

theorem generatedThrough_flatStagesOf (stages : List Path) :
    generatedThrough (flatStagesOf stages) = generatedThrough stages := by
  match stages with
  | [] => rfl
  | stage :: rest =>
    funext input
    rw [flatStagesOf, generatedThrough_append, generatedThrough_flatStages stage,
      generatedThrough_flatStagesOf rest, generatedThrough]

theorem generatedBranches_flatBranches (branches : List Path) :
    generatedBranches (flatBranches branches) = generatedBranches branches := by
  match branches with
  | [] => rfl
  | branch :: rest =>
    funext input
    rw [flatBranches, generatedBranches, generated, generatedThrough_flatStages branch,
      generatedBranches_flatBranches rest, generatedBranches]

end

theorem generated_eq_of_flatStages_eq {path other : Path} (h : flatStages path = flatStages other) :
    generated path = generated other := by
  rw [← generatedThrough_flatStages path, h, generatedThrough_flatStages other]

/-! ### Paths stage by stage and depth first -/

theorem outputs_eq_ofValues_iff (path : Path) (input : Json) (values : List Json) :
    outputs path input = .ofValues values ↔ generated path input = .ofValues values := by
  rw [← whole?_eq_some, ← whole?_eq_some, whole?_outputs]

theorem failure_outputs_eq_none_iff (path : Path) (input : Json) :
    (outputs path input).failure = none ↔ (generated path input).failure = none := by
  rw [← Option.isNone_iff_eq_none, ← Option.isNone_iff_eq_none, ← isSome_whole?, ← isSome_whole?,
    whole?_outputs]

/-- **A path stage by stage** agrees with the path depth first. It writes its values behind what is
there, whatever that is, and these are the values that it yields depth first, in the same order,
unless it meets an error; it meets one when it does depth first. In front of its error a pipe yields
nothing, and a comma list what the branches before the failing one yield and then what that one
does; a run has what is written to an empty list, and behind it the error. So pipes may be grouped
in any way: where one of two such paths meets no error, the other yields the same. -/
theorem write_agrees_with_generated (path : Path) (input : Json) :
    (∀ before, write path input before =
      match (outputs path input).failure with
      | some e => .error e (before ++ (outputs path input).values)
      | none => .ok () (before ++ (outputs path input).values)) ∧
    ((outputs path input).failure = none ↔ (generated path input).failure = none) ∧
    (∀ values, outputs path input = .ofValues values ↔ generated path input = .ofValues values) ∧
    (∀ e, (outputs path input).failure = some e →
      (∀ stages, path = .pipe stages → (outputs path input).values = []) ∧
      ∀ branches, path = .comma branches →
        ∃ done branch rest, branches = done ++ branch :: rest ∧
          (∀ other ∈ done, (outputs other input).failure = none) ∧
          (outputs branch input).failure = some e ∧
          (outputs path input).values =
            (done.flatMap fun other => (outputs other input).values) ++
              (outputs branch input).values) ∧
    (run path input =
      match write path input [] with
      | .ok _ values => values.map .ok
      | .error e values => values.map .ok ++ [.error e]) ∧
    ∀ other, flatStages path = flatStages other → ∀ values,
      outputs path input = .ofValues values ↔ outputs other input = .ofValues values := by
  refine ⟨fun before => ?_, failure_outputs_eq_none_iff path input,
    outputs_eq_ofValues_iff path input,
    fun e he => ⟨?_, ?_⟩, run_eq_write path input, fun other hflat values => ?_⟩
  · rw [write_eq_written]
    rfl
  · rintro stages rfl
    exact values_pipe_of_failure he
  · rintro branches rfl
    exact values_comma_of_failure he
  · rw [outputs_eq_ofValues_iff, outputs_eq_ofValues_iff, generated_eq_of_flatStages_eq hflat]

/-- A comma list whose second branch, a comma list too, fails behind its first value; and three
stages that are grouped in two ways. -/
theorem write_agrees_with_generated_of_nested :
    let list : Path := .comma [.index 0, .comma [.iterate, .field ['a']], .identity]
    let input : Json := .array [.array [.null], .array [.boolean true]]
    let e : Query.Error := .unsuited (.field ['a']) .array
    let left : Path := .pipe [.pipe [.iterate, .iterate], .identity]
    let right : Path := .pipe [.iterate, .pipe [.iterate, .identity]]
    write list input [.null] =
      .error e [.null, .array [.null], .array [.null], .array [.boolean true]] ∧
      (∃ done branch rest, [.index 0, .comma [.iterate, .field ['a']], .identity] =
          done ++ branch :: rest ∧
        (∀ other ∈ done, (outputs other input).failure = none) ∧
        (outputs branch input).failure = some e ∧
        (outputs list input).values =
          (done.flatMap fun other => (outputs other input).values) ++
            (outputs branch input).values) ∧
      outputs right input = .ofValues [.null, .boolean true] ∧
      outputs left input = .ofValues [.null, .boolean true] := by
  intro list input e left right
  obtain ⟨hwrite, -, -, hfailing, -⟩ := write_agrees_with_generated list input
  obtain ⟨-, -, -, -, -, hgrouped⟩ := write_agrees_with_generated left input
  have hright : outputs right input = .ofValues [.null, .boolean true] := rfl
  exact ⟨hwrite [.null], (hfailing e rfl).2 _ rfl, hright, (hgrouped right rfl _).2 hright⟩

end Condition.Path
