import RetailMarket.PowerType

/-!
# Problems of a scenario

Everything that can be wrong with a scenario or with the place it is loaded from, and the wording
of each.
-/

namespace RetailMarket

inductive ProblemCause where
  | notPositive
  | positive
  | negative
  | outsideUnit
  | outsideControlRange
  | hoursOutOfRange
  | unusableWeights
  | noCustomers
  | duplicateName (name : String)
  | noDefault (powerType : PowerType)
  | emptyKey
  | duplicateKey (key : String)
  | revokedBeforePublication
  | noPredecessor (key : String)
  | lateDefault
  | revokedDefault
  | secondDefault (powerType : PowerType)
  | unknownPreset (name : String)
  | unreadable (path reason : String)
  | malformed
  deriving DecidableEq, Repr

def presetNames : List String := ["baseline", "price_war", "revocation"]

namespace ProblemCause

def quoted (text : String) : String := "\"" ++ text ++ "\""

def message : ProblemCause → String
  | notPositive => "must be > 0"
  | positive => "must be <= 0"
  | negative => "must be >= 0"
  | outsideUnit => "must be in [0.0, 1.0]"
  | outsideControlRange => "must be in [-1.0, 2.0]"
  | hoursOutOfRange => "hours must be in 0..=23"
  | unusableWeights => "weights must be non-negative with a positive sum"
  | noCustomers => "at least one customer is required"
  | duplicateName name => "duplicate name " ++ quoted name
  | noDefault powerType => "no default tariff for " ++ powerType.label
  | emptyKey => "must not be empty"
  | duplicateKey key => "duplicate key " ++ quoted key
  | revokedBeforePublication => "must be >= publish_cycle"
  | noPredecessor key => "must name another tariff, got " ++ quoted key
  | lateDefault => "default tariffs publish at cycle 0"
  | revokedDefault => "default tariffs cannot be revoked"
  | secondDefault powerType => "second default for " ++ powerType.label
  | unknownPreset name =>
    "unknown preset " ++ quoted name ++ ", available: " ++ ", ".intercalate presetNames
  | unreadable path reason => "cannot read " ++ quoted path ++ ": " ++ reason
  | malformed => "not a scenario"

end ProblemCause

/-- A cause at a field, which is named by its path in the scenario. -/
structure Problem where
  field : String
  cause : ProblemCause
  deriving DecidableEq, Repr

def Problem.text (problem : Problem) : String :=
  "config error: " ++ problem.field ++ ": " ++ problem.cause.message

end RetailMarket
