import ErasedBridges.Host.OsError
import ErasedBridges.Host.Path

/-!
# Why there is no configuration
-/

namespace ErasedBridges

/-- What is wrong with the values of a document. What was found and what was expected are in the
words of the message. -/
inductive ValueFault where
  | wrongType (found expected : Text)
  | wrongValue (found expected : Text)
  | missingField (name : Text)
  | tooFewItems (count : Nat) (expected : Text)
deriving DecidableEq, Repr

namespace ValueFault

def message : ValueFault → Text
  | wrongType found expected =>
    "invalid type: ".toList ++ found ++ ", expected ".toList ++ expected
  | wrongValue found expected =>
    "invalid value: ".toList ++ found ++ ", expected ".toList ++ expected
  | missingField name => "missing field `".toList ++ name ++ "`".toList
  | tooFewItems count expected =>
    "invalid length ".toList ++ Text.decimal count ++ ", expected ".toList ++ expected

end ValueFault

inductive ConfigError where
  | unreadable (path : Path) (error : OsError)
  | syntaxError
  | value (fault : ValueFault)
deriving DecidableEq, Repr

namespace ConfigError

def message : ConfigError → Text
  | unreadable path e =>
    "failed to read config file ".toList ++ path ++ ": ".toList ++ e.message
  | syntaxError => "failed to parse toml config: invalid TOML".toList
  | value fault => "failed to parse toml config: ".toList ++ fault.message

def cause? : ConfigError → Option Text
  | unreadable _ e => some e.message
  | _ => none

end ConfigError
end ErasedBridges
