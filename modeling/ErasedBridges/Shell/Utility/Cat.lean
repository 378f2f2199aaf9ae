import ErasedBridges.Shell.Utility.Basic

/-!
# Joining files

`cat` writes its operands one after the other. It may number lines, leave out blank ones that
follow each other, and show bytes that cannot be read. Where it is in a line goes on from one
operand to the next.
-/

namespace ErasedBridges.Shell

structure CatStyle where
  numbers : Bool
  /-- Whether only lines that are not blank have numbers. -/
  onlyFull : Bool
  squeezes : Bool
  showsEnds : Bool
  showsTabs : Bool
  showsOthers : Bool

structure CatPosition where
  /-- The number of the last line that has one. -/
  number : Nat
  /-- The blank lines before here; nothing inside a line. -/
  blanks : Option Nat

namespace CatStyle

def lineNumber (n : Nat) : Bytes :=
  let digits := Text.decimal n
  toBytes (List.replicate (6 - digits.length) ' ' ++ digits ++ ['\t'])

def shown (style : CatStyle) (b : UInt8) : Bytes :=
  let controlled (b : UInt8) : Bytes :=
    if b = 127 then [94, 63] else if b < 32 then [94, b + 64] else [b]
  if b = 9 then if style.showsTabs then [94, 73] else [9]
  else if !style.showsOthers then [b]
  else if b < 128 then controlled b
  else [77, 45] ++ controlled (b - 128)

def text (style : CatStyle) (p : CatPosition) : Bytes → Bytes × CatPosition
  | [] => ([], p)
  | b :: rest =>
    if b = 10 then
      let ending : Bytes := if style.showsEnds then [36, 10] else [10]
      match p.blanks with
      | none =>
        let (more, p) := style.text { p with blanks := some 0 } rest
        (ending ++ more, p)
      | some n =>
        if style.squeezes && 1 ≤ n then style.text p rest
        else
          let counts := style.numbers && !style.onlyFull
          let number := if counts then p.number + 1 else p.number
          let (more, p) := style.text ⟨number, some (n + 1)⟩ rest
          ((if counts then lineNumber number else []) ++ ending ++ more, p)
    else
      let starts := style.numbers && p.blanks.isSome
      let number := if starts then p.number + 1 else p.number
      let (more, p) := style.text ⟨number, none⟩ rest
      let returns := b = 13 && style.showsEnds && !style.showsOthers && rest.head? == some 10
      ((if starts then lineNumber number else []) ++ (if returns then [94, 77] else style.shown b) ++
        more, p)

def isPlain (style : CatStyle) : Bool :=
  !(style.numbers || style.squeezes || style.showsEnds || style.showsTabs || style.showsOthers)

def of (i : Invoked) : CatStyle :=
  { numbers := i.has "nb", onlyFull := i.has "b", squeezes := i.has "s", showsEnds := i.has "AeE"
    showsTabs := i.has "AtT", showsOthers := i.has "Aetv" }

end CatStyle

/-- Whether an operand is the file of the standard output, with something left to be read. -/
def readsItsOutput (path : Path) : Running Bool := do
  let m ← Running.machine
  let p ← Running.process
  let openFile (descriptor : Nat) : Option OpenFile :=
    (p.descriptors.lookup descriptor).bind (m.openFiles[·]?)
  match openFile standardOutput with
  | none => return false
  | some output =>
    let .file target := output.channel | return false
    let size := match m.tree.lookup target with
      | some (.file content) => content.length
      | _ => 0
    if path = ['-'] then
      return (openFile standardInput).any fun f => f.channel == .file target && f.offset < size
    else match ← kindOf path with
      | .ok (.file source _) => return source == target && 0 < size
      | _ => return false

def catPieces (style : CatStyle) (number : Nat) (p : CatPosition) :
    List Bytes → Running (Except OsError CatPosition)
  | [] => do
    Running.awaitEndOf number
    return .ok p
  | piece :: pieces => do
    Running.modifyMachine (·.advance number piece.length)
    Running.endIfDue
    let (output, p) := if style.isPlain then (piece, p) else style.text p piece
    Running.writeBytes output
    match ← Running.flush with
    | .ok () => catPieces style number p pieces
    | .error e => return .error e

/-- Writes operands up to one that the output has no room for. -/
def catOperands (style : CatStyle) (p : CatPosition) : List Path → Running ExitStatus
  | [] => exitWith 0
  | path :: paths => do
    let goOn (p : CatPosition) : Running ExitStatus := do
      let _ ← catOperands style p paths
      exitWith 1
    if ← readsItsOutput path then
      complainAs (shownName path ++ ": input file is output file".toList)
      goOn p
    else match ← openOperand path with
      | .error e =>
        failedTo (shownName path) e
        goOn p
      | .ok number =>
        match (← Running.machine).piecesOf number with
        | .error e =>
          failedTo (shownName path) e
          goOn p
        | .ok pieces =>
          match ← catPieces style number p pieces with
          | .ok p => catOperands style p paths
          | .error e =>
            failedTo "write error".toList e
            exitWith 1

def cat : Utility :=
  withOptions ⟨"AbeEnstTuv", "", "", [("show-all", 'A'), ("number-nonblank", 'b'),
      ("show-ends", 'E'), ("number", 'n'), ("squeeze-blank", 's'), ("show-tabs", 'T'),
      ("show-nonprinting", 'v'), ("help", '?'), ("version", '#')]⟩ fun i => do
    let descriptors := (← Running.process).descriptors
    if (descriptors.lookup standardOutput).isNone then
      failedTo "standard output".toList badDescriptor
      exitWith 1
    else
      let status ← catOperands (CatStyle.of i) ⟨0, some 0⟩ i.paths
      if i.paths.elem ['-'] && (descriptors.lookup standardInput).isNone then
        failedTo "closing standard input".toList badDescriptor
        exitWith 1
      else return status

end ErasedBridges.Shell
