import Sparkz.CallFailures
import Sparkz.SpendExecutor

namespace Sparkz

open Interleaving

/-!
# Admission against a sampled balance

A manual claim and a reservation compare their amount with the two-decimal
floor of a balance that they sample under the lock of the wallet.  Here the
sampled number has such a floor.
-/

/-- The refusal of a balance that has no two-decimal floor. -/
def balanceUnavailable : Failure :=
  .error "SPEND_BALANCE_UNAVAILABLE: on-chain balance could not be read"

/-- A sampler that is not refused, and always samples this number. -/
def IsReadable
    (thread : Nat)
    (allowed : Choice → Prop)
    (sample : Call JsNumber)
    (number : JsNumber) :
    Prop :=
  ∀ database result last,
    sample.Ends (answering thread allowed) database result last →
    result = .ok number

/-- A message that starts otherwise is not the refusal. -/
theorem message_ne_balanceUnavailable
    {first second : String}
    (differs : first.toList.head? ≠ some 'S')
    (isSome : first.toList ≠ []) :
    Failure.error (first ++ second) ≠ balanceUnavailable := by
  intro same
  have texts := congrArg String.toList (Failure.error.inj same)
  obtain ⟨character, rest, isFirst⟩ := List.exists_cons_of_ne_nil isSome
  rw [String.toList_append, isFirst, List.cons_append] at texts
  rw [isFirst, List.head?_cons] at differs
  exact differs (congrArg some (List.cons.inj texts).1)

theorem constraintViolation_ne_balanceUnavailable (constraint : String) :
    (constraintViolation constraint).failure ≠ balanceUnavailable :=
  message_ne_balanceUnavailable (by simp) (by simp)

section Admission

variable {thread : Nat} {allowed : Choice → Prop}
  {sample : Call JsNumber} {number : JsNumber}
  {balance amount : TokenAmount}

/-- A balance that the chain answers with is readable. -/
theorem readTokenBalance_isReadable
    {platform : Platform}
    {token wallet : String}
    {units : Nat}
    (isAnswered :
      ∀ choice,
        allowed choice →
        choice.chain (.balanceOf token wallet) = .ok units) :
    IsReadable thread allowed (readTokenBalance platform token wallet)
      (platform.formatUnits units) := by
  intro database result last ends
  unfold readTokenBalance at ends
  rcases Program.ends_bind.mp ends with
    ⟨value, middle, isRead, rest⟩ | ⟨error, _, thrown⟩
  · obtain ⟨_, choice, isAllowed, isReply⟩ := ends_chain isRead
    rw [isAnswered choice isAllowed] at isReply
    obtain ⟨isResult, _⟩ := Program.ends_done.mp rest
    rw [isResult, Except.ok.inj isReply]
  · obtain ⟨_, choice, isAllowed, isReply⟩ := ends_chain thrown
    rw [isAnswered choice isAllowed] at isReply
    cases isReply

theorem IsReadable.avoids
    {failure : Failure}
    (readable : IsReadable thread allowed sample number) :
    Avoids thread allowed failure sample := by
  intro database error last ends
  cases readable database _ last ends

/-! ## The amount is covered -/

theorem Except.map_eq_error {ε α β : Type}
    {answer : Except ε α}
    {change : α → β}
    {error : ε}
    (mapped : answer.map change = .error error) :
    answer = .error error := by
  rcases answer with refusal | value
  · cases mapped
    rfl
  · cases mapped

/-- A passed check of a manual claim is covered by the balance. -/
theorem checkManualCapacity_covers
    {data : ClaimRequest}
    {before after : Database}
    (isManual : data.isManualSpend = true)
    (readable : IsReadable thread allowed sample number)
    (floored : truncateTokenAmount number = some balance)
    (ends :
      (checkManualCapacity data amount (some sample)).Ends
        (answering thread allowed) before (.ok ()) after) :
    amount.units ≤ balance.units := by
  unfold checkManualCapacity at ends
  rw [isManual] at ends
  obtain ⟨sampled, _, isSampled, rest⟩ := Program.ends_bind_ok.mp ends
  have isNumber : sampled = number :=
    Except.ok.inj (readable _ _ _ isSampled)
  rw [isNumber] at rest
  obtain ⟨_, _, _, rest⟩ := Program.ends_bind_ok.mp rest
  simp only [floored] at rest
  obtain ⟨holds, _, _, rest⟩ := Program.ends_bind_ok.mp rest
  obtain ⟨unresolved, _, _, rest⟩ := Program.ends_bind_ok.mp rest
  by_cases exceeds :
      amount.units + (holds + unresolved) > balance.units
  · rw [if_pos exceeds] at rest
    obtain ⟨impossible, _⟩ := Program.ends_fail.mp rest
    cases impossible
  · omega

/-- A manual claim that takes its key is covered by the balance. -/
theorem TokenOperations.claim_covers
    {data : ClaimRequest}
    {row : TokenOperation}
    {before after : Database}
    (isManual : data.isManualSpend = true)
    (readable : IsReadable thread allowed sample number)
    (floored : truncateTokenAmount number = some balance)
    (ends :
      (claim data (some sample)).Ends (answering thread allowed) before
        (.ok (.operation row true)) after) :
    ∃ amount,
      canonicalTokenAmount data.amount = some amount ∧
        amount.units ≤ balance.units := by
  unfold claim at ends
  split at ends
  · obtain ⟨impossible, _⟩ := Program.ends_fail.mp ends
    cases impossible
  rename_i amount canonical
  refine ⟨amount, canonical, ?_⟩
  obtain ⟨_, ends, _⟩ := ends_transaction_ok ends
  simp only [isManual, if_true] at ends
  obtain ⟨_, _, _, ends⟩ := Program.ends_bind_ok.mp ends
  unfold claimLocked at ends
  obtain ⟨_, _, _, ends⟩ := Program.ends_bind_ok.mp ends
  obtain ⟨found, _, _, ends⟩ := Program.ends_bind_ok.mp ends
  rcases found with _ | existing
  · unfold claimNew at ends
    obtain ⟨_, _, _, ends⟩ := Program.ends_bind_ok.mp ends
    obtain ⟨legacy, _, _, ends⟩ := Program.ends_bind_ok.mp ends
    rcases legacy with _ | legacy
    · obtain ⟨_, _, checked, _⟩ := Program.ends_bind_ok.mp ends
      exact checkManualCapacity_covers isManual readable floored checked
    · obtain ⟨impossible, _⟩ := Program.ends_done.mp ends
      cases impossible
  · unfold claimExisting at ends
    obtain ⟨_, _, _, ends⟩ := Program.ends_bind_ok.mp ends
    by_cases isReclaimable : existing.isReclaimable
    · simp only [isReclaimable, if_true] at ends
      obtain ⟨_, _, checked, _⟩ := Program.ends_bind_ok.mp ends
      exact checkManualCapacity_covers isManual readable floored checked
    · rw [if_neg isReclaimable] at ends
      obtain ⟨impossible, _⟩ := Program.ends_done.mp ends
      cases impossible

/-- A new reservation is covered by the balance. -/
theorem SpendReservations.insertAdmitted_covers
    {data : ReserveRequest}
    {authorizationAmount : Option TokenAmount}
    {held : Nat}
    {reserved : ReserveResult}
    {before after : Database}
    (readable : IsReadable thread allowed sample number)
    (floored : truncateTokenAmount number = some balance)
    (ends :
      (insertAdmitted data amount authorizationAmount held
          (some sample)).Ends
        (answering thread allowed) before (.ok reserved) after) :
    amount.units ≤ balance.units := by
  unfold insertAdmitted onChainBalance at ends
  obtain ⟨sampled, _, isSampled, rest⟩ := Program.ends_bind_ok.mp ends
  obtain ⟨value, _, isValue, returns⟩ := Program.ends_bind_ok.mp isSampled
  obtain ⟨isSome, _⟩ := Program.ends_done.mp returns
  have isNumber : value = number :=
    Except.ok.inj (readable _ _ _ isValue)
  cases isSome
  rw [isNumber] at rest
  obtain ⟨_, _, _, rest⟩ := Program.ends_bind_ok.mp rest
  simp only [floored] at rest
  obtain ⟨unresolved, _, _, rest⟩ := Program.ends_bind_ok.mp rest
  by_cases exceeds :
      amount.units + (held + unresolved) > balance.units
  · rw [if_pos exceeds] at rest
    obtain ⟨impossible, _⟩ := Program.ends_fail.mp rest
    cases impossible
  · omega

/-- A reservation that is made now is covered by the balance. -/
theorem SpendReservations.reserve_covers
    {data : ReserveRequest}
    {reserved : ReserveResult}
    {before after : Database}
    (isNew : reserved.existing = false)
    (readable : IsReadable thread allowed sample number)
    (floored : truncateTokenAmount number = some balance)
    (ends :
      (reserve data (some sample)).Ends (answering thread allowed) before
        (.ok reserved) after) :
    ∃ amount,
      canonicalTokenAmount data.amount = some amount ∧
        amount.units ≤ balance.units := by
  unfold reserve at ends
  obtain ⟨_, ends, _⟩ := ends_transaction_ok ends
  split at ends
  · obtain ⟨impossible, _⟩ := Program.ends_fail.mp ends
    cases impossible
  rename_i amount canonical
  refine ⟨amount, canonical, ?_⟩
  obtain ⟨_, _, _, ends⟩ := Program.ends_bind_ok.mp ends
  obtain ⟨_, _, _, ends⟩ := Program.ends_bind_ok.mp ends
  obtain ⟨found, _, _, ends⟩ := Program.ends_bind_ok.mp ends
  obtain ⟨held, _, _, ends⟩ := Program.ends_bind_ok.mp ends
  rcases found with _ | existing
  · exact insertAdmitted_covers readable floored ends
  · dsimp only at ends
    split at ends
    · obtain ⟨impossible, _⟩ := Program.ends_fail.mp ends
      cases impossible
    · obtain ⟨isReturned, _⟩ := Program.ends_done.mp ends
      cases isReturned
      cases isNew

/-! ## The balance is usable -/

/-- The manual check can use the balance. -/
theorem checkManualCapacity_avoids
    {data : ClaimRequest}
    (unlike : Unlike allowed balanceUnavailable)
    (readable : IsReadable thread allowed sample number)
    (floored : truncateTokenAmount number = some balance) :
    Avoids thread allowed balanceUnavailable
      (checkManualCapacity data amount (some sample)) := by
  intro before error after ends
  unfold checkManualCapacity at ends
  split at ends
  · rename_i sampler _ isSampler
    cases isSampler
    rcases Program.ends_bind.mp ends with
      ⟨sampled, middle, isSampled, rest⟩ | ⟨thrown, _, isSampled⟩
    · have isNumber : sampled = number :=
        Except.ok.inj (readable _ _ _ isSampled)
      rw [isNumber] at rest
      refine
        (Program.Throws.bind avoids_note fun _ => ?_) middle error after
          rest
      simp only [floored]
      refine .bind (avoids_read unlike) fun holds => ?_
      refine .bind (avoids_read unlike) fun unresolved => ?_
      refine .ofIte ?_ Program.throws_pure
      exact
        Program.throws_fail
          (message_ne_balanceUnavailable (by simp) (by simp))
    · cases readable _ _ _ isSampled
  · obtain ⟨impossible, _⟩ := Program.ends_done.mp ends
    cases impossible

theorem TokenOperations.claimLegacy_avoids
    {data : ClaimRequest}
    (unlike : Unlike allowed balanceUnavailable) :
    Avoids thread allowed balanceUnavailable (claimLegacy data) := by
  unfold claimLegacy
  split
  · refine .bind ?_ fun _ => ?_
    · unfold claimLegacyKey
      refine .bind (avoids_lock unlike) fun _ => ?_
      refine .bind (avoids_read unlike) fun other => ?_
      rcases other with _ | other
      · exact Program.throws_pure
      · simp only [String.append_assoc]
        exact
          Program.throws_fail
            (message_ne_balanceUnavailable (by simp) (by simp))
    · unfold findLegacyAward
      refine .bind (avoids_read unlike) fun found => ?_
      rcases found with _ | legacy
      · exact Program.throws_pure
      · refine
          .ofIte (Program.throws_fail (by simp [balanceUnavailable])) ?_
        refine .bind (avoids_read unlike) fun user => ?_
        rcases user with _ | user
        · exact Program.throws_fail (by simp [balanceUnavailable])
        · exact
            .ofIte (Program.throws_fail (by simp [balanceUnavailable]))
              Program.throws_pure
  · exact Program.throws_pure

theorem TokenOperations.claimChargingSession_avoids
    {data : ClaimRequest}
    (unlike : Unlike allowed balanceUnavailable) :
    Avoids thread allowed balanceUnavailable
      (claimChargingSession data) := by
  unfold claimChargingSession
  split
  · refine .bind (avoids_lock unlike) fun _ => ?_
    refine .bind (avoids_read unlike) fun other => ?_
    rcases other with _ | other
    · exact Program.throws_pure
    · exact Program.throws_fail (by simp [balanceUnavailable])
  · exact Program.throws_pure

theorem Database.insertOperation_error
    {database : Database}
    {row : TokenOperation}
    {error : StoreError}
    (refused : database.insertOperation row = .error error) :
    ∃ constraint, error = constraintViolation constraint := by
  unfold Database.insertOperation at refused
  split at refused
  · cases refused
    exact ⟨_, rfl⟩
  · split at refused
    · cases refused
      exact ⟨_, rfl⟩
    · cases refused

theorem Database.insertReservation_error
    {database : Database}
    {row : SpendReservation}
    {error : StoreError}
    (refused : database.insertReservation row = .error error) :
    ∃ constraint, error = constraintViolation constraint := by
  unfold Database.insertReservation at refused
  split at refused
  · cases refused
    exact ⟨_, rfl⟩
  · split at refused
    · cases refused
      exact ⟨_, rfl⟩
    · cases refused

theorem Database.updateOperation_error
    {database : Database}
    {operationKey : String}
    {operationWrite : OperationWrite}
    {error : StoreError}
    (refused :
      database.updateOperation operationKey operationWrite =
        .error error) :
    ∃ constraint, error = constraintViolation constraint := by
  unfold Database.updateOperation at refused
  split at refused
  · cases refused
  · split at refused
    · split at refused
      · cases refused
        exact ⟨_, rfl⟩
      · cases refused
    · cases refused

/-- A claim under its locks can use the balance. -/
theorem TokenOperations.claimLocked_avoids
    {data : ClaimRequest}
    (unlike : Unlike allowed balanceUnavailable)
    (readable : IsReadable thread allowed sample number)
    (floored : truncateTokenAmount number = some balance) :
    Avoids thread allowed balanceUnavailable
      (claimLocked data amount (some sample)) := by
  unfold claimLocked
  refine .bind (avoids_lock unlike) fun _ => ?_
  refine .bind (avoids_read unlike) fun found => ?_
  rcases found with _ | existing
  · unfold claimNew
    refine .bind (claimChargingSession_avoids unlike) fun _ => ?_
    refine .bind (claimLegacy_avoids unlike) fun legacy => ?_
    rcases legacy with _ | legacy
    · refine
        .bind (checkManualCapacity_avoids unlike readable floored)
          fun _ => ?_
      refine
        .bind (avoids_write unlike fun database error refused => ?_)
          fun _ => Program.throws_pure
      obtain ⟨constraint, rfl⟩ :=
        Database.insertOperation_error (Except.map_eq_error refused)
      exact constraintViolation_ne_balanceUnavailable constraint
    · exact Program.throws_pure
  · unfold claimExisting
    refine .bind (avoids_orThrow ?_) fun _ => ?_
    · unfold assertOperationIntent
      split
      · simp [balanceUnavailable]
      · split <;> simp [balanceUnavailable]
    refine .ofIte ?_ Program.throws_pure
    refine
      .bind (checkManualCapacity_avoids unlike readable floored)
        fun _ => ?_
    refine
      .bind (avoids_write unlike fun database error refused => ?_)
        fun reclaimed => ?_
    · obtain ⟨constraint, rfl⟩ := Database.updateOperation_error refused
      exact constraintViolation_ne_balanceUnavailable constraint
    · rcases reclaimed with _ | reclaimed
      · exact Program.throws_fail (by simp [balanceUnavailable])
      · exact Program.throws_pure

/-- A claim can use the balance. -/
theorem TokenOperations.claim_avoids
    {data : ClaimRequest}
    (unlike : Unlike allowed balanceUnavailable)
    (readable : IsReadable thread allowed sample number)
    (floored : truncateTokenAmount number = some balance) :
    Avoids thread allowed balanceUnavailable
      (claim data (some sample)) := by
  unfold claim
  split
  · exact Program.throws_fail (by simp [balanceUnavailable])
  · have locked :=
      fun amount =>
        @claimLocked_avoids _ _ _ _ _ amount data unlike readable floored
    apply Avoids.transaction
    exact
      .ofIte (.bind (avoids_lock unlike) fun _ => locked _) (locked _)

/-- A hash that is refused is refused as such. -/
theorem optionalHash_ne_balanceUnavailable
    {value : Option String}
    {field : String} :
    optionalHash value field ≠ .error balanceUnavailable := by
  unfold optionalHash
  split
  · simp
  · unfold requireCanonicalTransactionHash
    split
    · simp [Except.map]
    · intro same
      rw [String.append_assoc] at same
      exact
        message_ne_balanceUnavailable (by simp) (by simp)
          (Except.error.inj same)

/-- The admission of a reservation can use the balance. -/
theorem SpendReservations.insertAdmitted_avoids
    {data : ReserveRequest}
    {authorizationAmount : Option TokenAmount}
    {held : Nat}
    (unlike : Unlike allowed balanceUnavailable)
    (readable : IsReadable thread allowed sample number)
    (floored : truncateTokenAmount number = some balance) :
    Avoids thread allowed balanceUnavailable
      (insertAdmitted data amount authorizationAmount held
        (some sample)) := by
  intro before error after ends
  unfold insertAdmitted onChainBalance at ends
  rcases Program.ends_bind.mp ends with
    ⟨sampled, middle, isSampled, rest⟩ | ⟨thrown, isError, isSampled⟩
  · obtain ⟨value, _, isValue, returns⟩ :=
      Program.ends_bind_ok.mp isSampled
    obtain ⟨isSome, _⟩ := Program.ends_done.mp returns
    have isNumber : value = number :=
      Except.ok.inj (readable _ _ _ isValue)
    cases isSome
    rw [isNumber] at rest
    refine
      (Program.Throws.bind avoids_note fun _ => ?_) middle error after rest
    simp only [floored]
    refine .bind (avoids_read unlike) fun unresolved => ?_
    refine .ofIte ?_ ?_
    · exact
        Program.throws_fail
          (message_ne_balanceUnavailable (by simp) (by simp))
    refine .bind avoids_service fun id => ?_
    refine .bind (avoids_orThrow ?_) fun hash => ?_
    · exact optionalHash_ne_balanceUnavailable
    refine
      .bind (avoids_write unlike fun database error refused => ?_)
        fun _ => Program.throws_pure
    obtain ⟨constraint, rfl⟩ :=
      Database.insertReservation_error (Except.map_eq_error refused)
    exact constraintViolation_ne_balanceUnavailable constraint
  · cases isError
    exact
      (Program.Throws.bind (readable.avoids) fun _ =>
        Program.throws_pure) before error after isSampled

/-- `reserve` can use the balance. -/
theorem SpendReservations.reserve_avoids
    {data : ReserveRequest}
    (unlike : Unlike allowed balanceUnavailable)
    (readable : IsReadable thread allowed sample number)
    (floored : truncateTokenAmount number = some balance) :
    Avoids thread allowed balanceUnavailable
      (reserve data (some sample)) := by
  unfold reserve
  refine Avoids.transaction ?_
  split
  · exact Program.throws_fail (by simp [balanceUnavailable])
  refine .bind (avoids_orThrow ?_) fun authorizationAmount => ?_
  · unfold authorizationAmountOf
    split
    · simp
    · split <;> simp [balanceUnavailable]
  refine .bind (avoids_lock unlike) fun _ => ?_
  refine .bind (avoids_read unlike) fun found => ?_
  refine .bind (avoids_read unlike) fun held => ?_
  rcases found with _ | existing
  · exact insertAdmitted_avoids unlike readable floored
  · exact
      .ofIte (Program.throws_fail (by simp [balanceUnavailable]))
        Program.throws_pure

end Admission

end Sparkz
