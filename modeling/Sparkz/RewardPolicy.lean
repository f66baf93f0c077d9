import Sparkz.JsonText
import Sparkz.Text

namespace Sparkz

/-!
# The reward policy

Rules and country windows come from the policy of the request when it has one,
else from the overrides of the running process, else from the bundled defaults.
Rates are finite and not negative, as the policy repository requires.
-/

open JsonText

/-- A rate, by the text of its number. -/
structure Rate where
  shown : NumberText
  notNegative : shown.characters.head? ≠ some '-'
  deriving DecidableEq

/-- The rule of one kind of award. -/
structure TokenRule where
  enabled : Bool
  tokensPerKWh : Rate
  description : String
  deriving DecidableEq

structure AwardRules where
  offPeakCharging : TokenRule
  v2gDischarge : TokenRule
  deriving DecidableEq

structure Idempotency where
  deduplicationKey : List String
  description : String
  deriving DecidableEq

structure AwardRuleConfig where
  version : String
  rules : AwardRules
  idempotency : Idempotency
  deriving DecidableEq

/-- One off-peak window; `finish` is the source's `end`. -/
structure TimeRange where
  start : String
  finish : String
  deriving DecidableEq

def TimeRange.json {ν : Type} (range : TimeRange) : Json ν :=
  .object [("start", .text range.start), ("end", .text range.finish)]

/-- The windows of each country code. -/
abbrev OffPeakConfig := List (String × List TimeRange)

/-- The rules and windows of one calculation. -/
structure PolicySnapshot where
  revision : Nat
  updatedAt : String
  rules : AwardRuleConfig
  offPeakWindows : OffPeakConfig
  deriving DecidableEq

/-- `awardRules.json`. -/
def awardRulesConfig : AwardRuleConfig where
  version := "1.0"
  rules :=
    { offPeakCharging :=
        { enabled := true
          tokensPerKWh :=
            { shown :=
                ⟨['0', '.', '2', '5'], by simp, by simp [isNumeric]⟩
              notNegative := by decide }
          description := "1 SPARKZ per 4 kWh" }
      v2gDischarge :=
        { enabled := true
          tokensPerKWh :=
            { shown := ⟨['1'], by simp, by simp [isNumeric]⟩
              notNegative := by decide }
          description := "1 SPARKZ per 1 kWh" } }
  idempotency :=
    { deduplicationKey := ["sessionId", "providerId"]
      description :=
        "Prevent double-awarding using (sessionId, providerId) tuple" }

def getDefaultOffPeakWindows : OffPeakConfig :=
  [("DE", [⟨"22:00", "06:00"⟩]), ("ES", [⟨"22:00", "06:00"⟩]),
    ("RO", [⟨"22:00", "06:00"⟩])]

/-- Where rules and windows are read from during a calculation. -/
structure PolicyState where
  /-- `getPolicySnapshot()`. -/
  policy : Option PolicySnapshot
  runtimeRules : Option AwardRuleConfig
  runtimeOffPeakWindows : Option OffPeakConfig

namespace PolicyState

/-- `getRules()`. -/
def getRules (state : PolicyState) : AwardRuleConfig :=
  ((state.policy.map fun policy => policy.rules) <|>
    state.runtimeRules).getD awardRulesConfig

/-- `getOffPeakWindows()`. -/
def getOffPeakWindows (state : PolicyState) : OffPeakConfig :=
  ((state.policy.map fun policy => policy.offPeakWindows) <|>
    state.runtimeOffPeakWindows).getD getDefaultOffPeakWindows

end PolicyState

end Sparkz
