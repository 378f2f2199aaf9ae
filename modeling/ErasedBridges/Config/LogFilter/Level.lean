import ErasedBridges.Text.Decimal

/-!
# Log levels
-/

namespace ErasedBridges

inductive LogLevel where
  | off
  | error
  | warn
  | info
  | debug
  | trace
deriving DecidableEq, Repr

namespace LogLevel

/-- In the order of the numbers that may stand for them. -/
def all : List LogLevel := [off, error, warn, info, debug, trace]

def name : LogLevel → Text
  | off => "off".toList
  | error => "error".toList
  | warn => "warn".toList
  | info => "info".toList
  | debug => "debug".toList
  | trace => "trace".toList

/-- A number or a name in any case. -/
def parse? (s : Text) : Option LogLevel :=
  match Text.readDecimal? 5 s with
  | some n => all[n]?
  | none => all.find? fun l => l.name == s.map Char.toLower

end LogLevel
end ErasedBridges
