import ErasedBridges.Text.Decimal

/-!
# JSON values

Objects keep the order of their fields. The indented text puts each member on a line of its own,
two blanks deeper than the brackets around it.
-/

namespace ErasedBridges

inductive Json where
  | null
  | bool (b : Bool)
  | number (n : Nat)
  | string (s : Text)
  | array (items : List Json)
  | object (fields : List (Text × Json))

namespace Json

def ofFields (fields : List (String × Json)) : Json :=
  object (fields.map fun (name, value) => (name.toList, value))

def ofString (s : String) : Json := string s.toList

def ofTexts (ts : List Text) : Json := array (ts.map string)

def hexDigit (n : Nat) : Char := if n < 10 then Char.ofNat (48 + n) else Char.ofNat (87 + n)

/-- Quotes, backslashes and control characters below the blank are escaped. -/
def escapeChar (c : Char) : Text :=
  if c = '"' then "\\\"".toList
  else if c = '\\' then "\\\\".toList
  else if c = '\n' then "\\n".toList
  else if c = '\r' then "\\r".toList
  else if c = '\t' then "\\t".toList
  else if c.toNat = 8 then "\\b".toList
  else if c.toNat = 12 then "\\f".toList
  else if c.toNat < 32 then "\\u00".toList ++ [hexDigit (c.toNat / 16), hexDigit (c.toNat % 16)]
  else [c]

def quoted (s : Text) : Text := '"' :: (s.flatMap escapeChar ++ ['"'])

def newline (depth : Nat) : Text := '\n' :: List.replicate (2 * depth) ' '

/-- Members between brackets. Brackets without members stay on one line. -/
def bracketed (opening closing : Char) (depth : Nat) (members : List Text) : Text :=
  if members.isEmpty then [opening, closing]
  else opening :: (newline (depth + 1) ++ Text.join (',' :: newline (depth + 1)) members ++
    newline depth ++ [closing])

mutual

def indented (depth : Nat) : Json → Text
  | null => "null".toList
  | bool true => "true".toList
  | bool false => "false".toList
  | number n => Text.decimal n
  | string s => quoted s
  | array items => bracketed '[' ']' depth (indentedItems (depth + 1) items)
  | object fields => bracketed '\x7b' '\x7d' depth (indentedFields (depth + 1) fields)

def indentedItems (depth : Nat) : List Json → List Text
  | [] => []
  | j :: js => indented depth j :: indentedItems depth js

def indentedFields (depth : Nat) : List (Text × Json) → List Text
  | [] => []
  | (name, value) :: fields =>
    (quoted name ++ ": ".toList ++ indented depth value) :: indentedFields depth fields

end

end Json
end ErasedBridges
