import ErasedBridges.Host.FileTree
import ErasedBridges.Shell.ByteText

/-!
# The machine that processes run on

Processes share files, open files and streams. A stream holds what was written to it and when, and
what is read from it is there from that time on. Where it is known from when on nobody reads a
stream, a process that writes to it later is told so.
-/

namespace ErasedBridges.Shell

inductive Channel where
  | stream (id : Nat)
  | file (path : List Text)
  | directory
  /-- Takes everything, and holds nothing. -/
  | null
  /-- Takes nothing, and holds zeros without end. -/
  | full
  /-- Takes everything, and holds zeros without end. -/
  | zeros
deriving DecidableEq, Repr

structure OpenFile where
  channel : Channel
  offset : Nat
  reads : Bool
  writes : Bool
  /-- Whether all that is written goes to the end. -/
  appends : Bool
deriving DecidableEq, Repr

/-- Bytes written to a stream, and when and by which process. -/
structure Chunk where
  time : Nat
  writer : Nat
  bytes : Bytes
deriving DecidableEq, Repr

structure Stream where
  /-- The latest first, in the order of their times. -/
  chunks : List Chunk
  size : Nat
  /-- When no more is written, if that is known. -/
  ending : Option Nat
  /-- When no more is read, if that is known. -/
  closing : Option Nat
  /-- How many bytes there is room for, if their number is limited. -/
  room : Option Nat
deriving DecidableEq, Repr

namespace Stream

def empty : Stream := ⟨[], 0, none, none, none⟩

def ofChunks (s : Stream) (chunks : List Chunk) : Stream :=
  { s with chunks, size := chunks.foldr (fun c n => c.bytes.length + n) 0 }

/-- Puts a chunk before those that are not later. -/
def insert (c : Chunk) : List Chunk → List Chunk
  | [] => [c]
  | d :: chunks => if d.time ≤ c.time then c :: d :: chunks else d :: insert c chunks

def add (c : Chunk) (s : Stream) : Stream :=
  { s with chunks := insert c s.chunks, size := s.size + c.bytes.length }

/-- The bytes in the order of time, as they come together. -/
def pieces (s : Stream) : List Bytes := s.chunks.reverse.map Chunk.bytes

def dropBytes : Nat → List Bytes → List Bytes
  | _, [] => []
  | n, piece :: pieces =>
    if piece.length ≤ n then dropBytes (n - piece.length) pieces else piece.drop n :: pieces

def arrival (s : Stream) (count : Nat) : Nat :=
  go count s.chunks.reverse
where
  go : Nat → List Chunk → Nat
    | _, [] | 0, _ => 0
    | count + 1, c :: chunks => max c.time (go (count + 1 - c.bytes.length) chunks)

def isFull (s : Stream) : Bool := s.room.any (· ≤ s.size)

def isClosed (time : Nat) (s : Stream) : Bool := s.isFull || s.closing.any (· < time)

def goesOnAfter (time : Nat) (s : Stream) : Bool := s.chunks.any (time < ·.time)

end Stream

structure Sent where
  target : Nat
  time : Nat
  signal : Nat
deriving DecidableEq, Repr

/-- What processes share. Times are in microseconds. -/
structure Machine where
  tree : FileTree
  clock : Nat
  /-- When processes are asked to terminate. -/
  deadline : Option Nat
  /-- How long they have for it. -/
  grace : Nat
  /-- The streams that are in use. -/
  streams : List (Nat × Stream)
  nextStream : Nat
  nextProcess : Nat
  openFiles : Array OpenFile
  /-- The signals that have not been taken note of, in their order. -/
  sent : List Sent

def badDescriptor : OsError := .other "Bad file descriptor".toList 9

def noSpace : OsError := .other "No space left on device".toList 28

def brokenPipe : OsError := .other "Broken pipe".toList 32

namespace Machine

def killTime (m : Machine) : Option Nat := m.deadline.map (· + m.grace)

def stream (m : Machine) (id : Nat) : Stream := (m.streams.lookup id).getD .empty

def updateStream (id : Nat) (f : Stream → Stream) (m : Machine) : Machine :=
  { m with streams := go m.streams }
where
  go : List (Nat × Stream) → List (Nat × Stream)
    | [] => [(id, f .empty)]
    | (other, s) :: streams => if other = id then (id, f s) :: streams else (other, s) :: go streams

def forget (id : Nat) (m : Machine) : Machine :=
  { m with streams := m.streams.filter (·.1 != id) }

def overwrite (content : Bytes) (offset : Nat) (bytes : Bytes) : Bytes :=
  content.take offset ++ List.replicate (offset - content.length) 0 ++ bytes ++
    content.drop (offset + bytes.length)

def write (m : Machine) (writer number : Nat) (bytes : Bytes) : Except OsError Machine :=
  match m.openFiles[number]? with
  | none => .error badDescriptor
  | some f =>
    if !f.writes then .error badDescriptor
    else match f.channel with
      | .stream id =>
        if (m.stream id).isClosed m.clock then .error brokenPipe
        else .ok (m.updateStream id (·.add ⟨m.clock, writer, bytes⟩))
      | .file path =>
        match m.tree.lookup path with
        | some (.file old) =>
          let offset := if f.appends then old.length else f.offset
          .ok { m with
            tree := m.tree.put path (.file (overwrite old offset bytes))
            openFiles := m.openFiles.setIfInBounds number
              { f with offset := offset + bytes.length } }
        | _ => .ok m
      | .directory => .error .isADirectory
      | .full => .error noSpace
      | .null | .zeros => .ok m

def piecesOf (m : Machine) (number : Nat) : Except OsError (List Bytes) :=
  match m.openFiles[number]? with
  | none => .error badDescriptor
  | some f =>
    if !f.reads then .error badDescriptor
    else match f.channel with
      | .stream id => .ok (Stream.dropBytes f.offset (m.stream id).pieces)
      | .file path =>
        match m.tree.lookup path with
        | some (.file content) => .ok [content.drop f.offset]
        | _ => .ok []
      | .directory => .error .isADirectory
      | .full | .zeros => .ok [List.replicate 0x10000 0]
      | .null => .ok []

def rest (m : Machine) (number : Nat) : Except OsError Bytes :=
  (m.piecesOf number).map List.flatten

/-- Goes on in an open file. What has not come yet is waited for. -/
def advance (m : Machine) (number count : Nat) : Machine :=
  match m.openFiles[number]? with
  | none => m
  | some f =>
    let clock := match f.channel with
      | .stream id => max m.clock ((m.stream id).arrival (f.offset + count))
      | _ => m.clock
    { m with
      clock
      openFiles := m.openFiles.setIfInBounds number { f with offset := f.offset + count } }

def awaitEnd (m : Machine) (number : Nat) : Machine :=
  match m.openFiles[number]? with
  | none => m
  | some f =>
    match f.channel with
    | .stream id => { m with clock := max m.clock ((m.stream id).ending.getD 0) }
    | _ => m

def addOpen (m : Machine) (f : OpenFile) : Nat × Machine :=
  (m.openFiles.size, { m with openFiles := m.openFiles.push f })

end Machine

end ErasedBridges.Shell
