import ErasedBridges.Host.OsError
import ErasedBridges.Text.Blank
import ErasedBridges.Text.Utf8

/-!
# Captured output

Of each stream only so many bytes are kept, but all of it is read. A stream is known by what one
read after the other gives, and a read that gives no bytes ends it.
-/

namespace ErasedBridges

abbrev ReadResult := Except OsError Bytes

def bufferSize : Nat := 8 * 1024

/-- What reads give of bytes that are all there already. -/
def bufferfuls : Bytes → List Bytes
  | [] => []
  | b :: bytes => (b :: bytes).take bufferSize :: bufferfuls ((b :: bytes).drop bufferSize)
termination_by bytes => bytes.length
decreasing_by
  rw [List.length_drop, List.length_cons]
  exact Nat.sub_lt (Nat.succ_pos _) (by decide)

structure Captured where
  bytes : Bytes
  truncated : Bool
deriving DecidableEq, Repr

namespace Captured

def empty : Captured := ⟨[], false⟩

/-- Keeps the bytes of a read that there is still room for. -/
def keep (maxBytes : Nat) (c : Captured) (bytes : Bytes) : Captured :=
  let kept := min (maxBytes - c.bytes.length) bytes.length
  ⟨c.bytes ++ bytes.take kept, c.truncated || decide (kept < bytes.length)⟩

/-- Reads on to the end of the stream. The reads that come after it are left. -/
def readOn (maxBytes : Nat) (c : Captured) :
    List ReadResult → Except OsError (Captured × List ReadResult)
  | [] => .ok (c, [])
  | .error e :: _ => .error e
  | .ok [] :: reads => .ok (c, reads)
  | .ok (b :: bytes) :: reads => readOn maxBytes (c.keep maxBytes (b :: bytes)) reads

def read (maxBytes : Nat) (reads : List ReadResult) :
    Except OsError (Captured × List ReadResult) :=
  readOn maxBytes empty reads

end Captured

structure Output where
  stdout : Text
  stderr : Text
  /-- Whether either stream had more than was kept. -/
  truncated : Bool
deriving DecidableEq, Repr

namespace Output

def ofReads (maxBytes : Nat) (stdout stderr : List ReadResult) : Except OsError Output := do
  let (out, _) ← Captured.read maxBytes stdout
  let (err, _) ← Captured.read maxBytes stderr
  return ⟨Text.decodeLossy out.bytes, Text.decodeLossy err.bytes, out.truncated || err.truncated⟩

/-- Both streams, the second from a line of its own. -/
def combined (o : Output) : Text :=
  let separator :=
    if o.stderr.isEmpty || o.stdout.isEmpty || o.stdout.getLast? == some '\n' then []
    else ['\n']
  o.stdout ++ separator ++ o.stderr

end Output
end ErasedBridges
