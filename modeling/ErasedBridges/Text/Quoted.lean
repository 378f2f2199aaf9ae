import ErasedBridges.Text.Unseen

/-!
# Quoted text for messages

Text in quotes for readers: quotes and backslashes are escaped, and so are characters that cannot
be seen on their own.
-/

namespace ErasedBridges.Text

def quotedChar (c : Char) : Text :=
  if c = '"' then "\\\"".toList
  else if c = '\\' then "\\\\".toList
  else if c = '\n' then "\\n".toList
  else if c = '\r' then "\\r".toList
  else if c = '\t' then "\\t".toList
  else if c.toNat = 0 then "\\0".toList
  else if isUnseen c then "\\u\x7b".toList ++ Nat.toDigits 16 c.toNat ++ ['\x7d']
  else [c]

def quoted (s : Text) : Text := '"' :: (s.flatMap quotedChar ++ ['"'])

end ErasedBridges.Text
