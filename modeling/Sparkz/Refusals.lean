namespace Refusals

/-!
# Computations that return or refuse

A chain of checks either returns a value or refuses with the error of the
first check that fails.  The rules here say when such a chain returns, and
what every error it can refuse with has in common.
-/

variable {ε α β : Type}

/-! ## When a chain returns -/

@[simp] theorem throw_eq_error {error : ε} :
    (throw error : Except ε α) = .error error :=
  rfl

@[simp] theorem pure_eq_ok {value : α} :
    (pure value : Except ε α) = .ok value :=
  rfl

@[simp] theorem error_bind
    {error : ε}
    {rest : α → Except ε β} :
    ((.error error : Except ε α) >>= rest) = .error error :=
  rfl

@[simp] theorem ok_bind
    {value : α}
    {rest : α → Except ε β} :
    ((.ok value : Except ε α) >>= rest) = rest value :=
  rfl

/-- A sequence returns exactly when both parts return. -/
theorem bind_eq_ok_iff
    {first : Except ε α}
    {rest : α → Except ε β}
    {value : β} :
    (first >>= rest) = .ok value ↔
      ∃ middle, first = .ok middle ∧ rest middle = .ok value := by
  cases first with
  | error error =>
      simp [bind, Except.bind]
  | ok middle =>
      simp [bind, Except.bind]

/-- A check that refuses lets the rest return exactly when it is passed. -/
@[simp] theorem ite_error_eq_ok
    {condition : Prop}
    [Decidable condition]
    {error : ε}
    {rest : Except ε α}
    {value : α} :
    (if condition then .error error else rest) = .ok value ↔
      ¬condition ∧ rest = .ok value := by
  by_cases refused : condition <;> simp [refused]

/-! ## What a chain refuses with -/

/-- Every error that a computation refuses with has a property. -/
def Refuses (property : ε → Prop) (answer : Except ε α) : Prop :=
  ∀ error, answer = .error error → property error

variable {property : ε → Prop}

@[simp] theorem refuses_ok {value : α} :
    Refuses property (.ok value : Except ε α) := by
  intro error refused
  cases refused

@[simp] theorem refuses_error {error : ε} :
    Refuses property (.error error : Except ε α) ↔ property error := by
  constructor
  · intro refuses
    exact refuses error rfl
  · intro holds other refused
    cases refused
    exact holds

theorem refuses_bind
    {first : Except ε α}
    {rest : α → Except ε β}
    (firstRefuses : Refuses property first)
    (restRefuses :
      ∀ middle, first = .ok middle → Refuses property (rest middle)) :
    Refuses property (first >>= rest) := by
  cases isFirst : first with
  | error error =>
      simpa using firstRefuses error isFirst
  | ok middle =>
      exact restRefuses middle isFirst

theorem refuses_ite
    {condition : Prop}
    [Decidable condition]
    {first second : Except ε α}
    (firstRefuses : condition → Refuses property first)
    (secondRefuses : ¬condition → Refuses property second) :
    Refuses property (if condition then first else second) := by
  by_cases holds : condition
  · simpa [holds] using firstRefuses holds
  · simpa [holds] using secondRefuses holds

end Refusals
