import Condition.Query.Basic
import Condition.Token.Basic

/-!
# The journal

Reading and evaluating a condition leaves a journal of events: the tokens that were read, the
queries that were compiled and run, the condition and its result. `Journaled` is a result together
with the events in their order; the events in front of an error are kept.
-/

namespace Condition

/-- How much an entry of the journal matters. -/
inductive Severity where
  | trace
  | debug
  | warn
  deriving DecidableEq, Repr

/-- The name of a severity. -/
def Severity.name : Severity → String
  | .trace => "TRACE"
  | .debug => "DEBUG"
  | .warn => "WARN"

/-- Something that happened while a condition was read or evaluated. -/
inductive Event where
  | token (token : Token) (position : Nat)
  | compiling (query : Text)
  | parsed (condition : Text)
  | running (query : Text) (mode : Query.Mode)
  | evaluated (condition : Text) (result : Bool)
  | unknownPrecedence (version : Int)
  deriving DecidableEq

namespace Event

/-- The entry that an event makes in a log; compiling a query makes none. -/
def entry? : Event → Option (Severity × String)
  | .token found position =>
    some (.trace, s!"token {String.ofList found.described} at position {position}")
  | .compiling _ => none
  | .parsed condition => some (.debug, s!"parsed condition {String.ofList condition}")
  | .running query mode =>
    some (.debug, s!"running sub-query '{String.ofList query}' in {String.ofList mode.name} mode")
  | .evaluated condition result =>
    some (.debug, s!"condition {String.ofList condition} evaluated to {result}")
  | .unknownPrecedence version =>
    some (.warn, s!"unknown precedence version {version}, using the default")

/-- The query that is compiled, if one is. -/
def compiledQuery? : Event → Option Text
  | .compiling query => some query
  | _ => none

/-- The query that is run with its mode, if one is. -/
def ranQuery? : Event → Option (Text × Query.Mode)
  | .running query mode => some (query, mode)
  | _ => none

end Event

/-- A result with the events on the way to it. -/
structure Journaled (ε α : Type) where
  events : List Event
  result : Except ε α

namespace Journaled

variable {ε α β : Type}

/-- A result on the way to which nothing happened. -/
def ofExcept (result : Except ε α) : Journaled ε α := ⟨[], result⟩

/-- Something that happens. -/
def record (event : Event) : Journaled ε Unit := ⟨[event], .ok ()⟩

/-- Goes on from a result, if it is no error. -/
def andThen (first : Journaled ε α) (next : α → Journaled ε β) : Journaled ε β :=
  match first.result with
  | .error e => ⟨first.events, .error e⟩
  | .ok a => ⟨first.events ++ (next a).events, (next a).result⟩

/-- A result with its error changed. -/
def mapError {δ : Type} (f : ε → δ) (journaled : Journaled ε α) : Journaled δ α :=
  ⟨journaled.events, journaled.result.mapError f⟩

instance : Monad (Journaled ε) where
  pure a := ofExcept (.ok a)
  bind := andThen

theorem id_map (x : Journaled ε α) : id <$> x = x := by
  obtain ⟨events, result⟩ := x
  cases result <;> simp [Functor.map, andThen, ofExcept]

theorem bind_assoc {γ : Type} (x : Journaled ε α) (f : α → Journaled ε β) (g : β → Journaled ε γ) :
    x >>= f >>= g = x >>= fun a => f a >>= g := by
  obtain ⟨events, result⟩ := x
  cases result with
  | error e => simp [bind, andThen]
  | ok a => cases h : (f a).result <;> simp [bind, andThen, h]

instance : LawfulMonad (Journaled ε) :=
  LawfulMonad.mk' (Journaled ε) id_map (fun a f => by simp [bind, pure, andThen, ofExcept])
    bind_assoc

end Journaled

/-- An error with what was being done, the outermost first. -/
structure Failure (κ ε : Type) where
  contexts : List κ
  cause : ε
  deriving DecidableEq

namespace Failure

variable {κ ε : Type}

/-- An error without a context. -/
def ofCause (cause : ε) : Failure κ ε := ⟨[], cause⟩

/-- An error in one more context. -/
def within (context : κ) (failure : Failure κ ε) : Failure κ ε :=
  ⟨context :: failure.contexts, failure.cause⟩

end Failure

/-- The precedence with a version number; an unknown number is noted, and means the standard. -/
def Precedence.ofVersion {ε : Type} (version : Int) : Journaled ε Precedence :=
  match Precedence.ofVersion? version with
  | some precedence => pure precedence
  | none => do
    Journaled.record (.unknownPrecedence version)
    return .standard

end Condition
