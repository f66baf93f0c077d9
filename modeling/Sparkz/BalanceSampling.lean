import Sparkz.BalanceAdmission
import Sparkz.JsNumberTexts

namespace Sparkz

open BinaryRounding Interleaving

/-!
# The sampled token balance

A balance of base units is read as the number nearest to its tokens, and the
admission takes the cents of what that number shows.  The number may lie above
the balance, and it may be shown with an exponent.
-/

/--
`Number(ethers.formatUnits(units, 18))`.  The text writes the quotient exactly,
so the number is the one nearest to it.
-/
def tokensOf (units : ℕ) : JsNumber :=
  (Double.ofRational (units / 10 ^ 18)).shown

/-- The sampled balance is usable, and is not more than the balance. -/
def IsSampledSoundly (units : ℕ) : Prop :=
  ∃ balance,
    truncateTokenAmount (tokensOf units) = some balance ∧
      balance.units ≤ units / 10 ^ 16

/-- The tokens are shown without an exponent. -/
def HasPlainNotation (units : ℕ) : Prop :=
  units = 0 ∨
    10 ^ 12 ≤ units ∧ units < (10 ^ 21 - 65536) * 10 ^ 18

/--
The balance has the number of some cents above it, and these cents are what
their number shows.
-/
def IsRoundedUpToCents (units : ℕ) : Prop :=
  ∃ cents : ℕ,
    units < cents * 10 ^ 16 ∧
      binary64.round (units / 10 ^ 18) = binary64.round (cents / 100) ∧
      (Double.ofRational (cents / 100)).shown = .ofCents cents

/-! ## Powers of ten -/

section Powers

variable {x : ℚ}

/-- The number of a millionth lies between two others. -/
theorem millionth_le_round_iff {units : ℕ} :
    binary64.round (10 ^ (-6 : ℤ)) ≤ binary64.round (units / 10 ^ 18) ↔
      10 ^ 12 ≤ units := by
  constructor
  · intro atLeast
    by_contra less
    have isLess : (units : ℚ) ≤ 10 ^ 12 - 1 := by
      have isNext : units + 1 ≤ 10 ^ 12 := by omega
      have isNextCast : (units : ℚ) + 1 ≤ 10 ^ 12 := by
        exact_mod_cast isNext
      linarith
    have below :
        binary64.round (units / 10 ^ 18) ≤
          (4722366482869644 : ℤ) * 2 ^ (-72 : ℤ) := by
      apply Format.round_le_of_represents (by positivity)
      · rw [div_le_iff₀ (by positivity)]
        norm_num
        linarith
      · exact ⟨_, _, by norm_num [binary64], by norm_num [binary64], rfl⟩
    have above :
        (4722366482869645 : ℤ) * 2 ^ (-72 : ℤ) ≤
          binary64.round (10 ^ (-6 : ℤ)) := by
      apply Format.le_round_of_represents (by positivity)
      · norm_num
      · exact ⟨_, _, by norm_num [binary64], by norm_num [binary64], rfl⟩
    have contradiction := above.trans (atLeast.trans below)
    norm_num at contradiction
  · intro atLeast
    apply Format.round_mono (by positivity)
    rw [le_div_iff₀ (by positivity)]
    have isAtLeast : (10 ^ 12 : ℚ) ≤ units := by exact_mod_cast atLeast
    norm_num
    linarith

theorem represents_trillion_billion :
    binary64.Represents (10 ^ 21) :=
  ⟨476837158203125, 21, by norm_num [binary64], by norm_num [binary64],
    by norm_num⟩

/-- Half a step below the power is rounded up to it. -/
theorem power_le_round_iff (nonneg : 0 ≤ x) :
    10 ^ 21 ≤ binary64.round x ↔ 10 ^ 21 - 65536 ≤ x := by
  rcases lt_or_ge x (2 ^ 69) with isLess | atLeast
  · have below : binary64.round x ≤ 2 ^ 69 :=
      Format.round_le_of_represents nonneg isLess.le
        ⟨1, 69, by norm_num [binary64], by norm_num [binary64],
          by norm_num⟩
    constructor
    · intro reached
      have contradiction := reached.trans below
      norm_num at contradiction
    · intro reached
      have contradiction := reached.trans_lt isLess
      norm_num at contradiction
  rcases lt_or_ge x (2 ^ 70) with isLess | isMore
  · have isExponent : binary64.exponent x = 17 :=
      Format.exponent_eq (by norm_num [binary64]; linarith)
        (by norm_num [binary64]; linarith) (by norm_num [binary64])
    have isCount :
        ⌈(10 ^ 21 : ℚ) / 2 ^ (17 : ℤ)⌉ = 7629394531250000 := by
      have isWhole :
          (10 ^ 21 : ℚ) / 2 ^ (17 : ℤ) = (7629394531250000 : ℤ) := by
        norm_num
      rw [isWhole, Int.ceil_intCast]
    have isEven : Even (7629394531250000 : ℤ) := by decide
    rw [Format.le_round_iff, Format.Reaches, Format.step, isExponent,
      isCount]
    simp only [isEven, and_true]
    rw [← le_iff_lt_or_eq, le_div_iff₀ (by positivity)]
    norm_num
  · have above : 2 ^ 70 ≤ binary64.round x :=
      Format.le_round_of_represents (by positivity) isMore
        ⟨1, 70, by norm_num [binary64], by norm_num [binary64],
          by norm_num⟩
    constructor
    · intro _
      linarith
    · intro _
      linarith

end Powers

/-! ## The cents of the sampled balance -/

section Cents

variable {units : ℕ}

/-- A balance that is not zero has a number that is not zero. -/
theorem round_tokens_positive (some : 0 < units) :
    0 < binary64.round (units / 10 ^ 18) := by
  have isSome : (1 : ℚ) ≤ units := by exact_mod_cast some
  have positive : (0 : ℚ) < units / 10 ^ 18 := by positivity
  have half :=
    @Format.le_two_mul_round binary64 _ positive <| leastDouble_le <| by
      rw [le_div_iff₀ (by positivity)]
      refine le_trans ?_ isSome
      norm_num
  linarith

/-- The number of a balance that is not too large. -/
theorem isDouble_tokens
    (some : 0 < units)
    (bounded : |binary64.round (units / 10 ^ 18)| < 2 ^ 1024) :
    IsDouble (binary64.round (units / 10 ^ 18)) where
  positive := round_tokens_positive some
  represents := Format.represents_round
  bounded := (le_abs_self _).trans_lt bounded

/-- A decimal in plain notation is one of a balance within these bounds. -/
theorem IsShown.isPlain_iff
    {count : ℕ}
    {exponent : ℤ}
    (isShown :
      IsShown (binary64.round (units / 10 ^ 18)) count exponent)
    (isDouble : IsDouble (binary64.round (units / 10 ^ 18)))
    (some : 0 < units) :
    IsPlain ((count : ℚ) * 10 ^ exponent) ↔ HasPlainNotation units := by
  have low :
      1 / 10 ^ 6 ≤ (count : ℚ) * 10 ^ exponent ↔ 10 ^ 12 ≤ units := by
    have isPower : (1 : ℚ) / 10 ^ 6 = 10 ^ (-6 : ℤ) := by norm_num
    rw [isPower, isShown.power_le_iff isDouble,
      millionth_le_round_iff]
  have high :
      (count : ℚ) * 10 ^ exponent < 10 ^ 21 ↔
        units < (10 ^ 21 - 65536) * 10 ^ 18 := by
    have isPower : (10 : ℚ) ^ 21 = 10 ^ (21 : ℤ) := by norm_num
    have isFixed : binary64.round (10 ^ (21 : ℤ)) = 10 ^ 21 := by
      rw [← isPower]
      exact Format.round_of_represents represents_trillion_billion
    rw [isPower, ← not_le, isShown.power_le_iff isDouble,
      isFixed, power_le_round_iff (by positivity),
      le_div_iff₀ (by positivity), ← not_le, not_iff_not]
    have cast :
        ((10 ^ 21 - 65536 : ℚ) * 10 ^ 18) =
          (((10 ^ 21 - 65536) * 10 ^ 18 : ℕ) : ℚ) := by
      norm_num
    rw [cast, Nat.cast_le]
  rw [IsPlain, low, high, HasPlainNotation]
  constructor
  · exact Or.inr
  · rintro (isZero | both)
    · omega
    · exact both

/-- An overstated balance is rounded up to the cents that it shows. -/
theorem isRoundedUp_of_less
    {count : ℕ}
    {exponent : ℤ}
    {cents : ℕ}
    (isShown :
      IsShown (binary64.round (units / 10 ^ 18)) count exponent)
    (isDouble : IsDouble (binary64.round (units / 10 ^ 18)))
    (isPlain : IsPlain ((count : ℚ) * 10 ^ exponent))
    (isFloor : (cents : ℤ) = ⌊(count : ℚ) * 10 ^ exponent * 100⌋)
    (overstated : units < cents * 10 ^ 16) :
    IsRoundedUpToCents units := by
  have above : (units : ℚ) / 10 ^ 18 ≤ cents / 100 := by
    have isLess : (units : ℚ) < cents * 10 ^ 16 := by
      exact_mod_cast overstated
    rw [div_le_div_iff₀ (by positivity) (by positivity)]
    linarith
  have below : (cents : ℚ) / 100 ≤ count * 10 ^ exponent := by
    have low := Int.floor_le ((count : ℚ) * 10 ^ exponent * 100)
    rw [← isFloor] at low
    rw [div_le_iff₀ (by positivity)]
    exact_mod_cast low
  have isPower : (cents : ℚ) * 10 ^ (-2 : ℤ) = cents / 100 := by
    norm_num
    ring
  have names :
      binary64.round (cents * 10 ^ (-2 : ℤ)) =
        binary64.round (units / 10 ^ 18) := by
    rw [isPower]
    apply le_antisymm
    · have ordered :=
        @Format.round_mono binary64 _ _ (by positivity) below
      rwa [isShown.names] at ordered
    · exact Format.round_mono (by positivity) above
  obtain ⟨many, isMany⟩ := isShown.multiple names
  have isCents : many = cents := by
    have isWhole : (count : ℚ) * 10 ^ exponent * 100 = (many : ℤ) := by
      have isHundredth : (10 : ℚ) ^ (-2 : ℤ) * 100 = 1 := by norm_num
      rw [isMany, mul_assoc, isHundredth, mul_one]
      norm_cast
    rw [isWhole, Int.floor_intCast] at isFloor
    exact_mod_cast isFloor.symm
  rw [isCents, isPower] at isMany
  rw [isPower] at names
  refine ⟨cents, overstated, names.symm, ?_⟩
  rw [isShown.shown_ofRational isDouble names]
  exact ofDecimal_eq_ofCents isPlain isMany

theorem tokensOf_zero : tokensOf 0 = .ofCents 0 := by
  have isZero : Double.ofRational ((0 : ℕ) / 10 ^ 18) = .finite 0 := by
    simp [Double.ofRational]
  rw [tokensOf, isZero]
  simp [Double.shown, JsNumber.ofNat, JsNumber.ofCents]

/-- No cents round to nothing. -/
theorem not_isRoundedUp_zero : ¬ IsRoundedUpToCents 0 := by
  rintro ⟨cents, some, rounded, _⟩
  have isSome : (1 : ℚ) ≤ cents := by
    have : 1 ≤ cents := by omega
    exact_mod_cast this
  have half :=
    @Format.le_two_mul_round binary64 (cents / 100) (by positivity) <|
      leastDouble_le <| by
        rw [le_div_iff₀ (by positivity)]
        refine le_trans ?_ isSome
        norm_num
  rw [← rounded] at half
  simp only [Nat.cast_zero, zero_div, Format.round_zero, mul_zero] at half
  linarith

/-- When the sampled balance is usable and is not more than the balance. -/
theorem isSampledSoundly_iff :
    IsSampledSoundly units ↔
      HasPlainNotation units ∧ ¬ IsRoundedUpToCents units := by
  rcases Nat.eq_zero_or_pos units with rfl | positive
  · refine iff_of_true ⟨⟨0⟩, ?_, Nat.zero_le _⟩
      ⟨Or.inl rfl, not_isRoundedUp_zero⟩
    rw [tokensOf_zero, truncateTokenAmount_ofCents]
  by_cases bounded : |binary64.round (units / 10 ^ 18)| < 2 ^ 1024
  · have isDouble := isDouble_tokens positive bounded
    obtain ⟨count, exponent, isShown⟩ := isDouble.isShown
    have isTokens : tokensOf units = .ofDecimal count exponent :=
      isShown.shown_ofRational isDouble rfl
    rw [IsSampledSoundly, isTokens, ← isShown.isPlain_iff isDouble positive]
    simp only [truncateTokenAmount_ofDecimal]
    constructor
    · rintro ⟨balance, ⟨isPlain, isFloor⟩, atMost⟩
      refine ⟨isPlain, ?_⟩
      rintro ⟨cents, isLess, rounded, showsCents⟩
      rw [isShown.shown_ofRational isDouble rounded.symm] at showsCents
      have isBalance :
          truncateTokenAmount (.ofDecimal count exponent) =
            some balance :=
        truncateTokenAmount_ofDecimal.mpr ⟨isPlain, isFloor⟩
      rw [showsCents, truncateTokenAmount_ofCents] at isBalance
      obtain rfl := Option.some.inj isBalance
      dsimp only at atMost
      omega
    · rintro ⟨isPlain, notRoundedUp⟩
      have nonneg : 0 ≤ ⌊(count : ℚ) * 10 ^ exponent * 100⌋ :=
        Int.floor_nonneg.mpr
          (mul_nonneg (isShown.positive isDouble).le (by norm_num))
      obtain ⟨cents, isCents⟩ := Int.eq_ofNat_of_zero_le nonneg
      refine ⟨⟨cents⟩, ⟨isPlain, isCents.symm⟩, ?_⟩
      by_contra more
      apply notRoundedUp
      apply isRoundedUp_of_less isShown isDouble isPlain isCents.symm
      dsimp only at more
      omega
  · have isInfinite : tokensOf units = .infinity := by
      have notNegative : ¬ (units : ℚ) / 10 ^ 18 < 0 := by
        rw [not_lt]
        positivity
      rw [tokensOf, Double.ofRational, if_neg bounded]
      simp only [notNegative, decide_false]
      rfl
    refine iff_of_false ?_ ?_
    · rintro ⟨balance, usable, _⟩
      rw [isInfinite] at usable
      cases usable
    · rintro ⟨rfl | ⟨_, isLess⟩, _⟩
      · omega
      · apply bounded
        have isSmall : (units : ℚ) / 10 ^ 18 ≤ 10 ^ 21 := by
          have isLessCast :
              (units : ℚ) < (((10 ^ 21 - 65536) * 10 ^ 18 : ℕ) : ℚ) := by
            exact_mod_cast isLess
          rw [div_le_iff₀ (by positivity)]
          norm_num at isLessCast ⊢
          linarith
        have rounded :=
          Format.round_le_of_represents (by positivity) isSmall
            represents_trillion_billion
        rw [abs_of_pos (round_tokens_positive positive)]
        refine rounded.trans_lt ?_
        calc
          (10 : ℚ) ^ 21 < 2 ^ 70 := by norm_num
          _ ≤ 2 ^ 1024 :=
            pow_le_pow_right₀ (by norm_num) (by norm_num)

end Cents

/-! ## Admission -/

/--
Against a balance of so many base units, no claim and no reservation is
refused as unreadable, and none is admitted for more.
-/
structure AdmitsWithin
    (thread : Nat)
    (allowed : Choice → Prop)
    (sample : Call JsNumber)
    (units : ℕ) :
    Prop where
  claimUsable :
    ∀ data : ClaimRequest,
      Avoids thread allowed balanceUnavailable
        (TokenOperations.claim data (some sample))
  claimWithin :
    ∀ (data : ClaimRequest) (row : TokenOperation) before after,
      data.isManualSpend = true →
      (TokenOperations.claim data (some sample)).Ends
        (answering thread allowed) before (.ok (.operation row true))
        after →
      ∃ amount,
        canonicalTokenAmount data.amount = some amount ∧
          amount.baseUnits ≤ units
  reserveUsable :
    ∀ data : ReserveRequest,
      Avoids thread allowed balanceUnavailable
        (SpendReservations.reserve data (some sample))
  reserveWithin :
    ∀ (data : ReserveRequest) (reserved : ReserveResult) before after,
      reserved.existing = false →
      (SpendReservations.reserve data (some sample)).Ends
        (answering thread allowed) before (.ok reserved) after →
      ∃ amount,
        canonicalTokenAmount data.amount = some amount ∧
          amount.baseUnits ≤ units

/-- Cents within the floor of a balance are within the balance. -/
theorem baseUnits_le
    {amount balance : TokenAmount}
    {units : ℕ}
    (covered : amount.units ≤ balance.units)
    (atMost : balance.units ≤ units / 10 ^ 16) :
    amount.baseUnits ≤ units := by
  unfold TokenAmount.baseUnits
  omega

/--
The sampled balance is usable and not more than the balance exactly when it is
shown without an exponent and not rounded up to cents above it.  The admissions
that sample it are then within the balance.
-/
theorem sampledBalance_isSound_iff (units : ℕ) :
    (IsSampledSoundly units ↔
        HasPlainNotation units ∧ ¬ IsRoundedUpToCents units) ∧
      ∀ thread allowed sample,
        IsSampledSoundly units →
        Unlike allowed balanceUnavailable →
        IsReadable thread allowed sample (tokensOf units) →
        AdmitsWithin thread allowed sample units := by
  refine ⟨isSampledSoundly_iff, ?_⟩
  intro thread allowed sample sound unlike readable
  obtain ⟨balance, floored, atMost⟩ := sound
  constructor
  · intro data
    exact TokenOperations.claim_avoids unlike readable floored
  · intro data row before after isManual ends
    obtain ⟨amount, canonical, covered⟩ :=
      TokenOperations.claim_covers isManual readable floored ends
    exact ⟨amount, canonical, baseUnits_le covered atMost⟩
  · intro data
    exact SpendReservations.reserve_avoids unlike readable floored
  · intro data reserved before after isNew ends
    obtain ⟨amount, canonical, covered⟩ :=
      SpendReservations.reserve_covers isNew readable floored ends
    exact ⟨amount, canonical, baseUnits_le covered atMost⟩

/-- The chain answers with two tokens. -/
def Choice.twoTokens : Choice :=
  { Choice.databaseOnly with
    chain := fun request =>
      match request with
      | .balanceOf _ _ => .ok (2 * 10 ^ 18)
      | _ => .error ⟨"", false, false⟩ }

/-- Two tokens are sampled as such, and admissions stay within them. -/
theorem twoTokens_admit :
    (HasPlainNotation (2 * 10 ^ 18) ∧
        ¬ IsRoundedUpToCents (2 * 10 ^ 18)) ∧
      AdmitsWithin 0 (· = .twoTokens)
        (readTokenBalance { Platform.sample with formatUnits := tokensOf }
          "token" "wallet")
        (2 * 10 ^ 18) := by
  have sound : IsSampledSoundly (2 * 10 ^ 18) :=
    ⟨⟨200⟩, by decide +kernel, by decide⟩
  refine ⟨(sampledBalance_isSound_iff _).1.mp sound, ?_⟩
  refine (sampledBalance_isSound_iff _).2 _ _ _ sound ?_ ?_
  · rintro choice message rfl (impossible | impossible) <;>
      cases impossible
  · apply readTokenBalance_isReadable
    rintro choice rfl
    rfl

/--
A base unit is shown with an exponent, and so are tokens beyond the plain
notation; a balance just below two tokens is read as two.
-/
theorem sampledBalance_unsound :
    truncateTokenAmount (tokensOf 1) = none ∧
      truncateTokenAmount (tokensOf (10 ^ 21 * 10 ^ 18)) = none ∧
      truncateTokenAmount (tokensOf 1999999999999999999) = some ⟨200⟩ ∧
      1999999999999999999 / 10 ^ 16 < 200 ∧
      ∀ units ∈ [1, 10 ^ 21 * 10 ^ 18, 1999999999999999999],
        ¬ IsSampledSoundly units := by
  have one : truncateTokenAmount (tokensOf 1) = none := by
    decide +kernel
  have many : truncateTokenAmount (tokensOf (10 ^ 21 * 10 ^ 18)) = none := by
    decide +kernel
  have nearTwo :
      truncateTokenAmount (tokensOf 1999999999999999999) =
        some ⟨200⟩ := by
    decide +kernel
  refine ⟨one, many, nearTwo, by decide, ?_⟩
  intro units member
  simp only [List.mem_cons, List.not_mem_nil, or_false] at member
  rintro ⟨balance, usable, atMost⟩
  rcases member with rfl | rfl | rfl
  · rw [one] at usable
    cases usable
  · rw [many] at usable
    cases usable
  · rw [nearTwo] at usable
    cases usable
    revert atMost
    decide

end Sparkz
