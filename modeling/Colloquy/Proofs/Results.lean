/-!
# Computations that may fail

How a result, or an error, comes out of steps that each may fail.
-/

set_option autoImplicit false

namespace Colloquy

variable {ε ε' α β : Type}

theorem bind_eq_ok {first : Except ε α} {next : α → Except ε β} {result : β} :
    first >>= next = .ok result ↔ ∃ value, first = .ok value ∧ next value = .ok result := by
  cases first with
  | error error => simp [bind, Except.bind]
  | ok value => simp [bind, Except.bind]

theorem bind_eq_error {first : Except ε α} {next : α → Except ε β} {error : ε} :
    first >>= next = .error error ↔
      first = .error error ∨ ∃ value, first = .ok value ∧ next value = .error error := by
  cases first with
  | error error => simp [bind, Except.bind]
  | ok value => simp [bind, Except.bind]

theorem map_eq_ok {change : α → β} {outcome : Except ε α} {result : β} :
    outcome.map change = .ok result ↔ ∃ value, outcome = .ok value ∧ change value = result := by
  cases outcome with
  | error error =>
      constructor
      · intro same
        cases same
      · rintro ⟨_, same, _⟩
        cases same
  | ok value =>
      constructor
      · intro same
        cases same
        exact ⟨value, rfl, rfl⟩
      · rintro ⟨_, same, rfl⟩
        cases same
        rfl

theorem mapError_eq_ok {change : ε → ε'} {outcome : Except ε α} {result : α} :
    outcome.mapError change = .ok result ↔ outcome = .ok result := by
  cases outcome with
  | error error =>
      constructor
      · intro same
        cases same
      · intro same
        cases same
  | ok value =>
      constructor
      · intro same
        cases same
        rfl
      · intro same
        cases same
        rfl

theorem mapError_eq_error {change : ε → ε'} {outcome : Except ε α} {error : ε'} :
    outcome.mapError change = .error error ↔ ∃ cause, outcome = .error cause ∧ change cause = error := by
  cases outcome with
  | error cause =>
      constructor
      · intro same
        cases same
        exact ⟨cause, rfl, rfl⟩
      · rintro ⟨_, same, rfl⟩
        cases same
        rfl
  | ok value =>
      constructor
      · intro same
        cases same
      · rintro ⟨_, same, _⟩
        cases same

theorem mapError_mapM (change : ε → ε') (read : α → Except ε β) (items : List α) :
    (items.mapM read).mapError change = items.mapM fun item => (read item).mapError change := by
  induction items with
  | nil => rfl
  | cons item items ih =>
      rw [List.mapM_cons, List.mapM_cons, ← ih]
      cases read item with
      | error cause => rfl
      | ok value => cases items.mapM read <;> rfl

/-- If a computation fails, then with an error that is `known`. -/
def Raises (known : ε → Prop) (outcome : Except ε α) : Prop :=
  ∀ error, outcome = .error error → known error

namespace Raises

variable {known : ε → Prop}

theorem ok (value : α) : Raises known (.ok value : Except ε α) := fun _ failed => nomatch failed

theorem error {error : ε} (holds : known error) : Raises known (.error error : Except ε α) := by
  intro cause failed
  cases failed
  exact holds

theorem mono {known' : ε → Prop} (weaker : ∀ error, known error → known' error)
    {outcome : Except ε α} (raises : Raises known outcome) : Raises known' outcome :=
  fun error failed => weaker error (raises error failed)

theorem bind {first : Except ε α} {next : α → Except ε β} (raises : Raises known first)
    (rest : ∀ value, first = .ok value → Raises known (next value)) :
    Raises known (first >>= next) := by
  intro cause failed
  rcases bind_eq_error.1 failed with here | ⟨value, returned, later⟩
  · exact raises cause here
  · exact rest value returned cause later

theorem map {outcome : Except ε α} (raises : Raises known outcome) (change : α → β) :
    Raises known (outcome.map change) := by
  cases outcome with
  | error cause => exact error (raises cause rfl)
  | ok value => exact ok (change value)

theorem mapError {change : ε' → ε} (holds : ∀ cause, known (change cause))
    (outcome : Except ε' α) : Raises known (outcome.mapError change) := by
  intro error failed
  obtain ⟨cause, _, rfl⟩ := mapError_eq_error.1 failed
  exact holds cause

theorem mapM {read : α → Except ε β} (raises : ∀ item, Raises known (read item))
    (items : List α) : Raises known (items.mapM read) := by
  induction items with
  | nil => exact ok []
  | cons item items ih =>
      rw [List.mapM_cons]
      exact (raises item).bind fun _ _ => ih.bind fun _ _ => ok _

end Raises

end Colloquy
