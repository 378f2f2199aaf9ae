import ErasedBridges.Text.Basic

/-!
# Names in messages

Utilities show a name as it would be written in a shell. Bytes that could not be read are shown by
letters or by their octal digits.
-/

namespace ErasedBridges.Shell

def octalDigits (c : Char) : Text :=
  let n := c.toNat
  [n / 64, n / 8 % 8, n % 8].map fun d => Char.ofNat (48 + d)

def escapedByte (c : Char) : Text :=
  let letters : List (Nat × Char) :=
    [(7, 'a'), (8, 'b'), (9, 't'), (10, 'n'), (11, 'v'), (12, 'f'), (13, 'r')]
  match letters.lookup c.toNat with
  | some letter => ['\\', letter]
  | none => '\\' :: octalDigits c

def isReadable (c : Char) : Bool := 32 ≤ c.toNat && c.toNat < 127

def isSpecial (c : Char) : Bool := " !\"$&()*;<=>?[\\^|'".toList.elem c || c.toNat == 0x60

def needsQuotes (s : Text) : Bool :=
  s.isEmpty || s.any (fun c => isSpecial c || !isReadable c) ||
    s.head? == some '#' || s.head? == some '~' || s == ['\x7b'] || s == ['\x7d']

def isSafeInDouble : Text → Bool
  | [] => true
  | c :: s => (isSafe c || c == '#' || c == '~') && s.all isSafe
where
  isSafe (c : Char) : Bool := c.isAlphanum || " %+,-./]_'@:".toList.elem c

/-- A name inside single quotes. Runs of bytes that cannot be read stand in quotes of their own
kind. -/
def insideQuotes (unreadable : Bool) : Text → Text
  | [] => []
  | c :: s =>
    let closing : Text := if unreadable then "''".toList else []
    if !isReadable c then
      (if unreadable then [] else "'$'".toList) ++ escapedByte c ++ insideQuotes true s
    else if c = '\'' then "'\\''".toList ++ insideQuotes false s
    else closing ++ c :: insideQuotes false s

def quotedName (s : Text) : Text :=
  if s.elem '\'' && isSafeInDouble s then '"' :: s ++ ['"']
  else '\'' :: insideQuotes false s ++ ['\'']

def shellWord (s : Text) : Text := if needsQuotes s then quotedName s else s

/-- A name without quotes, if a shell would take it so. A colon might end the name in a message. -/
def shownName (s : Text) : Text := if needsQuotes s || s.elem ':' then quotedName s else s

def quotedArgument (s : Text) : Text :=
  let shown (c : Char) : Text :=
    if !isReadable c then escapedByte c
    else if c = '\'' || c = '\\' then ['\\', c]
    else [c]
  '\'' :: s.flatMap shown ++ ['\'']

end ErasedBridges.Shell
