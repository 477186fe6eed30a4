/-! # Sessions

Calls made one after another on one state. A call that fails leaves a state too, from which the next
one goes on, so a session has a turn for each of its calls.

* `session_induction`: what every turn adds to what the turns so far say about the state. -/

namespace Condition

variable {κ ε σ α : Type}

/-- A call with the state in front of it and what comes of it. -/
structure Turn (κ ε σ α : Type) where
  call : κ
  before : σ
  outcome : EStateM.Result ε σ α

namespace Turn

/-- What is answered. -/
def answer (turn : Turn κ ε σ α) : Except ε α :=
  match turn.outcome with
  | .ok a _ => .ok a
  | .error e _ => .error e

/-- The state behind a call. -/
def after (turn : Turn κ ε σ α) : σ :=
  match turn.outcome with
  | .ok _ s => s
  | .error _ s => s

theorem outcome_of_answer_ok {turn : Turn κ ε σ α} {a : α} (h : turn.answer = .ok a) :
    turn.outcome = .ok a turn.after := by
  unfold answer at h
  unfold after
  split at h
  · rename_i found left ho
    cases h
    rw [ho]
  · cases h

theorem outcome_of_answer_error {turn : Turn κ ε σ α} {e : ε} (h : turn.answer = .error e) :
    turn.outcome = .error e turn.after := by
  unfold answer at h
  unfold after
  split at h
  · cases h
  · rename_i e' left ho
    cases h
    rw [ho]

end Turn

/-- The turn of a call on a state. -/
def turnOf (perform : κ → EStateM ε σ α) (s : σ) (call : κ) : Turn κ ε σ α :=
  ⟨call, s, perform call s⟩

/-- **The turns of calls** made one after another. -/
def session (perform : κ → EStateM ε σ α) : σ → List κ → List (Turn κ ε σ α)
  | _, [] => []
  | s, call :: calls =>
    turnOf perform s call :: session perform (turnOf perform s call).after calls

/-- The state behind calls made one after another. -/
def stateBehind (perform : κ → EStateM ε σ α) : σ → List κ → σ
  | s, [] => s
  | s, call :: calls => stateBehind perform (turnOf perform s call).after calls

/-! ### Answers -/

theorem map_eq_ok {β : Type} {read : EStateM ε σ α} {f : α → β} {s left : σ} {b : β}
    (h : (f <$> read) s = .ok b left) : ∃ a, read s = .ok a left ∧ b = f a := by
  change EStateM.map f read s = _ at h
  unfold EStateM.map at h
  split at h
  · cases h
    exact ⟨_, ‹_›, rfl⟩
  · cases h

theorem map_eq_error {β : Type} {read : EStateM ε σ α} {f : α → β} {s left : σ} {e : ε}
    (h : (f <$> read) s = .error e left) : read s = .error e left := by
  change EStateM.map f read s = _ at h
  unfold EStateM.map at h
  split at h
  · cases h
  · cases h
    assumption

/-! ### Turns -/

variable {perform : κ → EStateM ε σ α}

theorem eq_turnOf_of_mem_session {s : σ} {calls : List κ} {turn : Turn κ ε σ α}
    (h : turn ∈ session perform s calls) : turn = turnOf perform turn.before turn.call := by
  induction calls generalizing s with
  | nil => cases h
  | cons call calls ih =>
    rcases List.mem_cons.1 h with rfl | h
    · rfl
    · exact ih h

theorem outcome_of_mem_session {s : σ} {calls : List κ} {turn : Turn κ ε σ α}
    (h : turn ∈ session perform s calls) : turn.outcome = perform turn.call turn.before :=
  congrArg Turn.outcome (eq_turnOf_of_mem_session h)

/-- **What the turns so far say about the state** is so in front of every turn, if it is at the
start and each turn adds to it what it has to. -/
theorem session_induction {Holds : List (Turn κ ε σ α) → σ → Prop} {P : Turn κ ε σ α → Prop}
    (hstep : ∀ earlier s call, P (turnOf perform s call) → Holds earlier s →
      Holds (earlier ++ [turnOf perform s call]) (turnOf perform s call).after)
    {s : σ} {calls : List κ} {start : List (Turn κ ε σ α)} (hs : Holds start s)
    (hp : ∀ turn ∈ session perform s calls, P turn) {earlier later : List (Turn κ ε σ α)}
    {turn : Turn κ ε σ α} (h : session perform s calls = earlier ++ turn :: later) :
    Holds (start ++ earlier) turn.before := by
  induction earlier generalizing s calls start with
  | nil =>
    cases calls with
    | nil => cases h
    | cons call calls =>
      cases h
      rw [List.append_nil]
      exact hs
  | cons first earlier ih =>
    cases calls with
    | nil => cases h
    | cons call calls =>
      rw [session] at h hp
      obtain ⟨hfirst, h⟩ := List.cons.inj h
      obtain ⟨hcall, hp⟩ := List.forall_mem_cons.1 hp
      have := ih (hstep start s call hcall hs) hp h
      rw [List.append_assoc, hfirst] at this
      exact this

end Condition
