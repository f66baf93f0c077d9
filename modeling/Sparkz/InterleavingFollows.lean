import Sparkz.InterleavingConformance

namespace Interleaving

/-!
# Conformance whatever came before

A part of a call follows a protocol when it conforms from every past and
however it ends.  Parts that follow a protocol are put together freely, so a
long call follows it as soon as each of its operations does.
-/

namespace Program

variable {S : Signature} {ε α β : Type}

/-- The program conforms from every past. -/
def Follows (permits : Protocol S) (program : Program S ε α) : Prop :=
  ∀ past, program.Obeys permits past fun _ _ => True

namespace Follows

variable {permits : Protocol S}
  {program : Program S ε α} {next : α → Program S ε β}

theorem ofPure {value : α} :
    (pure value : Program S ε α).Follows permits :=
  fun _ => trivial

theorem ofFail {error : ε} :
    (.fail error : Program S ε α).Follows permits :=
  fun _ => trivial

theorem ofExcept {answer : Except ε α} :
    (Program.ofExcept answer : Program S ε α).Follows permits := by
  intro past
  cases answer <;> trivial

/-- The rest follows the protocol after every value of the first part. -/
theorem bind
    (first : program.Follows permits)
    (rest : ∀ value, (next value).Follows permits) :
    (program >>= next).Follows permits := by
  intro past
  rw [obeys_bind]
  refine (first past).weaken ?_
  rintro (error | value) reached _
  · trivial
  · exact rest value reached

theorem attempt (follows : program.Follows permits) :
    program.attempt.Follows permits := by
  intro past
  rw [obeys_attempt]
  exact (follows past).weaken fun _ _ _ => trivial

theorem recover
    {handler : ε → Program S ε α}
    (follows : program.Follows permits)
    (handles : ∀ error, (handler error).Follows permits) :
    (program.recover handler).Follows permits := by
  intro past
  rw [obeys_recover]
  refine (follows past).weaken ?_
  rintro (error | value) reached _
  · exact handles error reached
  · trivial

theorem ofIte
    {condition : Prop}
    [Decidable condition]
    {other : Program S ε α}
    (first : program.Follows permits)
    (second : other.Follows permits) :
    (if condition then program else other).Follows permits := by
  split
  · exact first
  · exact second

end Follows

/-! ## Parts that rely on the past -/

/-- A past only grows while a program runs. -/
theorem Obeys.grows
    {permits : Protocol S}
    {program : Program S ε α}
    {past : List (Event S)}
    {post : Except ε α → List (Event S) → Prop}
    (obeys : program.Obeys permits past post) :
    program.Obeys permits past fun result reached =>
      post result reached ∧ past ⊆ reached :=
  (obeys.embed fun _ _ _ => id).weaken fun _ _ established =>
    ⟨established.1, established.2.subset⟩

/-- What a program does on its own is known of its recent past. -/
theorem Obeys.recent
    {permits own : Protocol S}
    {program : Program S ε α}
    {past recent : List (Event S)}
    {post known : Except ε α → List (Event S) → Prop}
    (obeys : program.Obeys permits (recent ++ past) post)
    (knows : program.Obeys own recent known)
    (extended : ExtendsBy own [] recent) :
    program.Obeys permits (recent ++ past) fun result reached =>
      post result reached ∧
        ∃ later,
          reached = later ++ past ∧
            known result later ∧
            ExtendsBy own [] later := by
  induction program generalizing recent with
  | done value =>
      exact ⟨obeys, recent, rfl, knows, extended⟩
  | fail error =>
      exact ⟨obeys, recent, rfl, knows, extended⟩
  | perform op rest inductionHypothesis =>
      exact
        ⟨obeys.1, fun answer =>
          @inductionHypothesis answer (⟨op, answer⟩ :: recent)
            (obeys.2 answer) (knows.2 answer)
            (extended.perform knows.1 answer)⟩

/-! ## Errors -/

/-- Whatever it is answered, the program throws such errors only. -/
def ThrowsOnly (throws : ε → Prop) : Program S ε α → Prop
  | .done _ => True
  | .fail error => throws error
  | .perform _ rest => ∀ answer, (rest answer).ThrowsOnly throws

namespace ThrowsOnly

variable {throws : ε → Prop} {program : Program S ε α}
  {next : α → Program S ε β}

theorem bind
    (first : program.ThrowsOnly throws)
    (rest : ∀ value, (next value).ThrowsOnly throws) :
    (program >>= next).ThrowsOnly throws := by
  show (program.andThen next).ThrowsOnly throws
  induction program with
  | done value =>
      exact rest value
  | fail error =>
      exact first
  | perform op continuation inductionHypothesis =>
      exact fun answer => inductionHypothesis answer (first answer)

/-- A caught error is not thrown. -/
theorem attempt (program : Program S ε α) :
    program.attempt.ThrowsOnly throws := by
  induction program with
  | done value =>
      trivial
  | fail error =>
      trivial
  | perform op continuation inductionHypothesis =>
      exact inductionHypothesis

/-- A handler decides what is thrown. -/
theorem recover
    (program : Program S ε α)
    {handler : ε → Program S ε α}
    (handles : ∀ error, (handler error).ThrowsOnly throws) :
    (program.recover handler).ThrowsOnly throws := by
  induction program with
  | done value =>
      trivial
  | fail error =>
      exact handles error
  | perform op continuation inductionHypothesis =>
      exact inductionHypothesis

theorem ofExcept
    {answer : Except ε α}
    (isError : ∀ error, answer = .error error → throws error) :
    (Program.ofExcept answer : Program S ε α).ThrowsOnly throws := by
  cases answer with
  | error error =>
      exact isError error rfl
  | ok value =>
      trivial

end ThrowsOnly

/-- What a program throws is known wherever it ends. -/
theorem Obeys.throwing
    {permits : Protocol S}
    {throws : ε → Prop}
    {program : Program S ε α}
    {past : List (Event S)}
    {post : Except ε α → List (Event S) → Prop}
    (obeys : program.Obeys permits past post)
    (throwsOnly : program.ThrowsOnly throws) :
    program.Obeys permits past fun result reached =>
      post result reached ∧ ∀ error, result = .error error → throws error := by
  induction program generalizing past with
  | done value =>
      exact ⟨obeys, fun _ impossible => by cases impossible⟩
  | fail error =>
      refine ⟨obeys, fun other isError => ?_⟩
      cases isError
      exact throwsOnly
  | perform op rest inductionHypothesis =>
      exact
        ⟨obeys.1, fun answer =>
          inductionHypothesis answer (obeys.2 answer)
            (throwsOnly answer)⟩

/-- The program conforms from this past, however it ends. -/
abbrev ConformsFrom
    (permits : Protocol S)
    (past : List (Event S))
    (program : Program S ε α) :
    Prop :=
  program.Obeys permits past fun _ _ => True

namespace ConformsFrom

variable {permits : Protocol S} {past : List (Event S)}
  {program : Program S ε α}

/-- The rest may rely on what the first part has established. -/
theorem bind
    {next : α → Program S ε β}
    {post : Except ε α → List (Event S) → Prop}
    (first : program.Obeys permits past post)
    (rest :
      ∀ value reached,
        past ⊆ reached →
        post (.ok value) reached →
        (next value).ConformsFrom permits reached) :
    (program >>= next).ConformsFrom permits past := by
  unfold ConformsFrom
  rw [obeys_bind]
  refine first.grows.weaken ?_
  rintro (error | value) reached ⟨established, grown⟩
  · trivial
  · exact rest value reached grown established

/-- The same, when the rest handles an error of the first part as well. -/
theorem bindAttempt
    {next : Except ε α → Program S ε β}
    {post : Except ε α → List (Event S) → Prop}
    (first : program.Obeys permits past post)
    (rest :
      ∀ result reached,
        past ⊆ reached →
        post result reached →
        (next result).ConformsFrom permits reached) :
    (program.attempt >>= next).ConformsFrom permits past := by
  unfold ConformsFrom
  rw [obeys_bind, obeys_attempt]
  refine first.grows.weaken ?_
  rintro result reached ⟨established, grown⟩
  exact rest result reached grown established

end ConformsFrom

end Program

end Interleaving
