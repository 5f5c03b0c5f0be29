import LogAnomaly.Decimal.Parse
import LogAnomaly.Decimal.Written
import LogAnomaly.Text.Quoted

/-!
# Refused configurations

* `ConfigError`: why a configuration is refused;
* `ConfigError.message`: how that is worded.
-/

namespace LogAnomaly

open LogAnomaly.Decimal

/-- Why the text of a setting is refused. -/
inductive ParseFault where
  | number (fault : NumberFault)
  | notBoolean
  deriving DecidableEq, Repr

/-- The wording of a refused text. -/
def ParseFault.message : ParseFault → String
  | .number fault => fault.message
  | .notBoolean => "expected a boolean"

/-- Why the value of a setting is out of range. -/
inductive RangeFault where
  | zero
  | notPositive (got : Float)
  | notFinite
  | belowOne
  | noTicks
  | negative (got : Float)
  | notFraction (got : Float)

/-- The wording of a value out of range. -/
def RangeFault.message : RangeFault → String
  | .zero => "must be positive"
  | .notPositive got => "must be a positive number, got " ++ positional got
  | .notFinite => "must be finite"
  | .belowOne => "must be at least 1"
  | .noTicks => "must be at least 1 in timeline mode"
  | .negative got => "must be a non-negative number, got " ++ positional got
  | .notFraction got => "must be in (0, 1], got " ++ positional got

/-- Why a configuration is refused. -/
inductive ConfigError where
  /-- The text of a variable does not read as a value. -/
  | invalidValue (key value : String) (fault : ParseFault)
  /-- The value of a field is out of range. -/
  | outOfRange (field : String) (fault : RangeFault)
  /-- Both sources of a starting partition are named. -/
  | conflictingSources

/-- The wording of a refused configuration. -/
def ConfigError.message : ConfigError → String
  | .invalidValue key value fault =>
    "invalid value for " ++ key ++ ": " ++ Text.quoted value ++ " (" ++ fault.message ++ ")"
  | .outOfRange field fault => field ++ ": " ++ fault.message
  | .conflictingSources =>
    "conflicting initial partition sources: set either TRAIN_INITIAL_ASSIGNMENT or " ++
      "TRAIN_INITIAL_MODEL, not both"

end LogAnomaly
