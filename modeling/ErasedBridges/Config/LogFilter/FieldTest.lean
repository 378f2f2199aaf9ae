import ErasedBridges.Config.LogFilter.Pattern
import ErasedBridges.Decimal.Nearest
import ErasedBridges.Decimal.Shortest

/-!
# Tests on fields

A directive may ask for a field by its name, and for its value. A value is read as the first of
these that it fits: a truth value, a natural number, an integer, a fraction, and a pattern.
-/

namespace ErasedBridges

inductive FieldValue where
  | truth (b : Bool)
  | fraction (x : FloatNumber)
  | notANumber
  | natural (n : Nat)
  | integer (n : Int)
  | pattern (s : Text)
deriving DecidableEq, Repr

namespace FieldValue

def ofFloat (x : FloatNumber) : FieldValue :=
  if x.magnitude = .notANumber then notANumber else fraction x

def readNegative? : Text → Option Int
  | '-' :: s => (Text.readDigits? 0x8000000000000000 s).map fun n => -Int.ofNat n
  | _ => none

def read? (s : Text) : Option FieldValue :=
  if s = "true".toList then some (truth true)
  else if s = "false".toList then some (truth false)
  else match Text.readDecimal? 0xFFFFFFFFFFFFFFFF s, readNegative? s, FloatNumber.read? s with
    | some n, _, _ => some (natural n)
    | none, some n, _ => some (integer n)
    | none, none, some x => some (ofFloat x)
    | none, none, none => if Pattern.isValid s then some (pattern s) else none

def shown : FieldValue → Text
  | truth b => (if b then "true" else "false").toList
  | fraction x => Decimal.shown x
  | notANumber => "NaN".toList
  | natural n => Text.decimal n
  | integer n => Text.signedDecimal n
  | pattern s => s

def rank : FieldValue → Nat
  | truth _ => 0
  | fraction _ => 1
  | notANumber => 2
  | natural _ => 3
  | integer _ => 4
  | pattern _ => 5

def compare : FieldValue → FieldValue → Ordering
  | truth a, truth b => Ord.compare a b
  | fraction x, fraction y => x.compare y
  | natural m, natural n => Ord.compare m n
  | integer m, integer n => Ord.compare m n
  | pattern s, pattern t => Ord.compare s t
  | v, w => Ord.compare v.rank w.rank

instance : Ord FieldValue := ⟨compare⟩

end FieldValue

structure FieldTest where
  name : Text
  value : Option FieldValue
deriving DecidableEq, Repr

namespace FieldTest

/-- A name, and a value after an equals sign. What a second equals sign separates is left out. -/
def parse? (s : Text) : Option FieldTest :=
  match Text.split (· == '=') s with
  | name :: value :: _ => (FieldValue.read? value).map fun v => ⟨name, some v⟩
  | _ => if s.isEmpty then none else some ⟨s, none⟩

def shown (t : FieldTest) : Text :=
  match t.value with
  | some v => t.name ++ '=' :: v.shown
  | none => t.name

def compare (t u : FieldTest) : Ordering :=
  (Ord.compare t.value.isSome u.value.isSome).then
    ((Ord.compare t.name u.name).then (Ord.compare t.value u.value))

instance : Ord FieldTest := ⟨compare⟩

end FieldTest
end ErasedBridges
