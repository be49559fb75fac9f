import Postings.Event
import Postings.Failure

/-!
# Computations that report events

A traced computation has an outcome and the events reported on the way to
it, the earliest first.  A failure ends the computation but keeps the events
reported before it.
-/

namespace Postings

/-- An outcome with the events that led to it. -/
structure Traced (α : Type) where
  outcome : Except Failure α
  events : List Event

namespace Traced

/-- A result that took nothing worth reporting. -/
def pure (value : α) : Traced α :=
  { outcome := .ok value, events := [] }

/-- Go on with a result.  The continuation of a failure is not run. -/
def bind (first : Traced α) (next : α → Traced β) : Traced β :=
  match first.outcome with
  | .error failure => { outcome := .error failure, events := first.events }
  | .ok value =>
      { outcome := (next value).outcome,
        events := first.events ++ (next value).events }

instance : Monad Traced where
  pure := pure
  bind := bind

def report (event : Event) : Traced Unit :=
  { outcome := .ok (), events := [event] }

def fail (failure : Failure) : Traced α :=
  { outcome := .error failure, events := [] }

/-- A computation that reports nothing. -/
def ofExcept (outcome : Except Failure α) : Traced α :=
  { outcome := outcome, events := [] }

/-- An operation on lists that reports nothing and may fault. -/
def ofFaulty (outcome : Except Fault α) : Traced α :=
  ofExcept (outcome.mapError .fault)

@[simp] theorem outcome_pure (value : α) :
    (Pure.pure value : Traced α).outcome = .ok value := rfl

@[simp] theorem events_pure (value : α) :
    (Pure.pure value : Traced α).events = [] := rfl

theorem bind_of_ok {first : Traced α} {value : α}
    (succeeded : first.outcome = .ok value) (next : α → Traced β) :
    first >>= next =
      { outcome := (next value).outcome,
        events := first.events ++ (next value).events } := by
  change Traced.bind first next = _
  simp [Traced.bind, succeeded]

theorem bind_of_error {first : Traced α} {failure : Failure}
    (failed : first.outcome = .error failure) (next : α → Traced β) :
    first >>= next =
      { outcome := .error failure, events := first.events } := by
  change Traced.bind first next = _
  simp [Traced.bind, failed]

theorem outcome_bind_eq_ok {first : Traced α} {next : α → Traced β}
    {result : β} :
    (first >>= next).outcome = .ok result ↔
      ∃ value, first.outcome = .ok value ∧
        (next value).outcome = .ok result := by
  cases ended : first.outcome with
  | error failure =>
      rw [bind_of_error ended]
      simp
  | ok value =>
      rw [bind_of_ok ended]
      simp

theorem outcome_bind_of_ok {first : Traced α} {value : α}
    (succeeded : first.outcome = .ok value) (next : α → Traced β) :
    (first >>= next).outcome = (next value).outcome := by
  rw [bind_of_ok succeeded]

theorem outcome_bind (first : Traced α) (next : α → Traced β) :
    (first >>= next).outcome =
      first.outcome >>= fun value => (next value).outcome := by
  cases ended : first.outcome with
  | error failure =>
      rw [bind_of_error ended]
      rfl
  | ok value =>
      rw [bind_of_ok ended]
      rfl

theorem outcome_report_bind (event : Event) (next : Unit → Traced β) :
    (report event >>= next).outcome = (next ()).outcome :=
  outcome_bind_of_ok rfl next

instance : LawfulMonad Traced := LawfulMonad.mk' Traced
  (by
    intro α computation
    obtain ⟨outcome, events⟩ := computation
    cases outcome <;> simp [Functor.map, Traced.bind, Traced.pure])
  (by
    intro α β value next
    have unit := bind_of_ok (outcome_pure value) next
    simpa using unit)
  (by
    intro α β γ first next last
    obtain ⟨outcome, events⟩ := first
    cases outcome with
    | error failure => rfl
    | ok value =>
        cases continued : (next value).outcome with
        | error failure =>
            simp [Bind.bind, Traced.bind, continued]
        | ok later =>
            simp [Bind.bind, Traced.bind, continued])

end Traced

end Postings
