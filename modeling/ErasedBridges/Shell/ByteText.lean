import ErasedBridges.Text.Utf8

/-!
# Text of bytes

A shell and its utilities work on bytes. In their texts every character is a byte, whatever it
stands for together with its neighbours. Text from outside is spelled out when it comes in, and
put together again when it goes out.
-/

namespace ErasedBridges.Shell

def ofBytes (b : Bytes) : Text := b.map fun x => Char.ofNat x.toNat

def toBytes (s : Text) : Bytes := s.map fun c => UInt8.ofNat c.toNat

/-- Text by its bytes. -/
def spelled (s : Text) : Text := ofBytes (Text.encode s)

/-- The text that bytes spell. -/
def unspelled (s : Text) : Text := Text.decodeLossy (toBytes s)

end ErasedBridges.Shell
