/-!
# Outcomes

What the success or the failure of a computation that may fail says about
its parts.
-/

namespace Postings

namespace Outcome

theorem bind_eq_ok {first : Except ε α} {next : α → Except ε β}
    {result : β} :
    first >>= next = .ok result ↔
      ∃ value, first = .ok value ∧ next value = .ok result := by
  constructor
  · intro succeeded
    cases first with
    | error cause => cases succeeded
    | ok value => exact ⟨value, rfl, succeeded⟩
  · rintro ⟨value, rfl, continued⟩
    exact continued

theorem bind_eq_error {first : Except ε α} {next : α → Except ε β}
    {cause : ε} :
    first >>= next = .error cause ↔
      first = .error cause ∨
        ∃ value, first = .ok value ∧ next value = .error cause := by
  constructor
  · intro failed
    cases first with
    | error other =>
        cases failed
        exact .inl rfl
    | ok value => exact .inr ⟨value, rfl, failed⟩
  · rintro (rfl | ⟨value, rfl, failed⟩)
    · rfl
    · exact failed

theorem map_eq_ok {outcome : Except ε α} {function : α → β} {result : β} :
    outcome.map function = .ok result ↔
      ∃ value, outcome = .ok value ∧ function value = result := by
  cases outcome with
  | error cause => simp [Except.map]
  | ok value => simp [Except.map]

@[simp] theorem mapError_ok (value : α) (change : ε → ε') :
    (Except.ok value).mapError change = .ok value := rfl

@[simp] theorem mapError_error (cause : ε) (change : ε → ε') :
    (Except.error cause : Except ε α).mapError change =
      .error (change cause) := rfl

theorem mapError_eq_ok {outcome : Except ε α} {change : ε → ε'}
    {result : α} :
    outcome.mapError change = .ok result ↔ outcome = .ok result := by
  cases outcome with
  | error cause => simp
  | ok value => simp

theorem mapError_eq_error {outcome : Except ε α} {change : ε → ε'}
    {cause : ε'} :
    outcome.mapError change = .error cause ↔
      ∃ original, outcome = .error original ∧ change original = cause := by
  cases outcome with
  | error original => simp
  | ok value => simp

theorem eq_error_iff {outcome : Except ε α} {condition : Prop} {cause : ε}
    (fails : condition → outcome = .error cause)
    (succeeds : ¬ condition → ∃ value, outcome = .ok value) (failure : ε) :
    outcome = .error failure ↔ condition ∧ failure = cause := by
  constructor
  · intro failed
    by_cases holds : condition
    · rw [fails holds] at failed
      cases failed
      exact ⟨holds, rfl⟩
    · obtain ⟨value, succeeded⟩ := succeeds holds
      rw [succeeded] at failed
      cases failed
  · intro both
    obtain ⟨holds, rfl⟩ := both
    exact fails holds

end Outcome

end Postings
