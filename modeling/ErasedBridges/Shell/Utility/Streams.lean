import ErasedBridges.Shell.Utility.Basic

/-!
# Utilities for streams of bytes
-/

namespace ErasedBridges.Shell

def newline : UInt8 := 10

def byteLines : Bytes → List Bytes
  | [] => []
  | b :: bs =>
    if b = newline then [b] :: byteLines bs
    else match byteLines bs with
      | [] => [[b]]
      | line :: lines => (b :: line) :: lines

def eachOperand (paths : List Text) (unread : Text → OsError → Running Unit)
    (action : Text → Bytes → Running Unit) : Running ExitStatus :=
  allOf (fun path => do
    match ← readOperand path with
    | .ok bytes =>
      action path bytes
      return true
    | .error e =>
      unread path e
      return false) paths

def spellCount (args : List Text) : List Text :=
  match args with
  | ('-' :: digits) :: rest =>
    if !digits.isEmpty && digits.all Char.isDigit then "-n".toList :: digits :: rest else args
  | _ => args

structure Extent where
  inBytes : Bool
  count : Nat
  /-- A plus sign counts from the start, and a minus sign from the end. -/
  sign : Option Char

namespace Extent

def first (e : Extent) (bytes : Bytes) : Bytes :=
  let keep {α : Type} (all : List α) : List α :=
    all.take (if e.sign = some '-' then all.length - e.count else e.count)
  if e.inBytes then keep bytes else (keep (byteLines bytes)).flatten

def last (e : Extent) (bytes : Bytes) : Bytes :=
  let keep {α : Type} (all : List α) : List α :=
    all.drop (if e.sign = some '+' then e.count - 1 else all.length - e.count)
  if e.inBytes then keep bytes else (keep (byteLines bytes)).flatten

def of? (i : Invoked) : Except Text Extent :=
  let (inBytes, given) := match i.value? 'c' with
    | some s => (true, s)
    | none => (false, (i.value? 'n').getD "10".toList)
  let (sign, digits) := match given with
    | '+' :: s => (some '+', s)
    | '-' :: s => (some '-', s)
    | s => (none, s)
  match Text.readDecimal? 0x7FFFFFFFFFFFFFFF digits with
  | some count => .ok ⟨inBytes, count, sign⟩
  | none => .error ((if inBytes then "invalid number of bytes: ".toList
      else "invalid number of lines: ".toList) ++ quotedArgument given)

end Extent

/-- Files have headings if there are several. -/
def headed (paths : List Text) (i : Invoked) (part : Bytes → Bytes) : Running ExitStatus := do
  let first := paths.head?
  eachOperand paths
    (fun path e =>
      failedTo (if e == .isADirectory then "error reading ".toList ++ quotedName path
        else "cannot open ".toList ++ quotedName path ++ " for reading".toList) e)
    fun path bytes => do
      if (1 < paths.length && !i.has "q") || i.has "v" then
        let name := if path = ['-'] then "standard input".toList else path
        Running.write ((if some path == first then [] else ['\n']) ++
          "==> ".toList ++ name ++ " <==\n".toList)
      Running.writeBytes (part bytes)

def zeroDevice : Path := "/dev/zero".toList

def extract (part : Extent → Bytes → Bytes) : Utility := fun args =>
  withOptions ⟨"qvz", "nc", "", [("bytes", 'c'), ("lines", 'n'), ("quiet", 'q'), ("silent", 'q'),
      ("verbose", 'v'), ("help", '?'), ("version", '#')]⟩ (fun i => do
    match Extent.of? i with
    | .error fault =>
      complainAs fault
      exitWith 1
    | .ok extent =>
      if i.operands = [zeroDevice] && extent.inBytes then
        Running.writeBytes (List.replicate extent.count 0)
        exitWith 0
      else headed i.paths i (part extent)) (spellCount args)

def head : Utility := extract Extent.first

def tail : Utility := extract Extent.last

structure Counts where
  lines : Nat
  words : Nat
  bytes : Nat

namespace Counts

def isSpace (b : UInt8) : Bool := b == 32 || (9 ≤ b && b ≤ 13)

def of (bytes : Bytes) : Counts :=
  let starts := (bytes.zip (32 :: bytes)).filter fun (b, before) => !isSpace b && isSpace before
  ⟨(bytes.filter (· == newline)).length, starts.length, bytes.length⟩

def add (a b : Counts) : Counts := ⟨a.lines + b.lines, a.words + b.words, a.bytes + b.bytes⟩

def text (c : Counts) (i : Invoked) (width : Nat) : Text :=
  let all := !i.has "lwcm"
  let numbers := (if all || i.has "l" then [c.lines] else []) ++
    (if all || i.has "w" then [c.words] else []) ++ (if all || i.has "cm" then [c.bytes] else [])
  Text.join [' '] (numbers.map fun n =>
    let digits := Text.decimal n
    List.replicate (width - digits.length) ' ' ++ digits)

end Counts

/-- The size of a file that counts for the width of columns; other kinds have none. -/
def sizeOf (path : Path) : Running (Except OsError (Option Nat)) := do
  let path := if path = ['-'] then "/dev/stdin".toList else path
  return (← kindOf path).map fun
    | .file _ content => some content.length
    | _ => none

def countOperands (i : Invoked) (width : Nat) (total : Counts) :
    List Path → Running (Bool × Counts)
  | [] => return (true, total)
  | path :: paths => do
    let line (c : Counts) : Running Unit :=
      Running.write (c.text i width ++ (if i.operands.isEmpty then [] else ' ' :: path) ++ ['\n'])
    match ← readOperand path with
    | .ok bytes =>
      let c := Counts.of bytes
      line c
      countOperands i width (total.add c) paths
    | .error e =>
      failedTo (shownName path) e
      if e == .isADirectory then line ⟨0, 0, 0⟩
      let (_, total) ← countOperands i width total paths
      return (false, total)

def wc : Utility := withOptions ⟨"lwcm", "", "", [("lines", 'l'), ("words", 'w'), ("bytes", 'c'),
    ("chars", 'm'), ("help", '?'), ("version", '#')]⟩ fun i => do
  let paths := i.paths
  let sizes := (← paths.mapM sizeOf).filterMap (·.toOption)
  let single := paths.length = 1 && (["l", "w", "c", "m"].filter i.has).length = 1
  let digits := (Text.decimal ((sizes.filterMap id).foldr (· + ·) 0)).length
  let width := if single then 1 else if sizes.any (·.isNone) then max 7 digits else digits
  let (done, total) ← countOperands i width ⟨0, 0, 0⟩ paths
  if 1 < paths.length then Running.write (total.text i width ++ " total\n".toList)
  exitWith (if done then 0 else 1)

def byteClass? (name : Text) : Option Bytes :=
  let within (ranges : List (Nat × Nat)) : Bytes :=
    ranges.flatMap fun (a, b) => (List.range (b + 1 - a)).map fun i => UInt8.ofNat (a + i)
  match String.ofList name with
  | "lower" => some (within [(97, 122)])
  | "upper" => some (within [(65, 90)])
  | "alpha" => some (within [(65, 90), (97, 122)])
  | "digit" => some (within [(48, 57)])
  | "alnum" => some (within [(48, 57), (65, 90), (97, 122)])
  | "space" => some (within [(9, 13), (32, 32)])
  | "blank" => some (within [(9, 9), (32, 32)])
  | _ => none

def setByte : Text → Bytes × Text
  | '\\' :: s =>
    let letters : List (Char × UInt8) :=
      [('a', 7), ('b', 8), ('t', 9), ('n', 10), ('v', 11), ('f', 12), ('r', 13), ('\\', 92)]
    let digits := (s.take 3).takeWhile fun c => '0' ≤ c && c ≤ '7'
    match s with
    | [] => ([92], [])
    | c :: rest =>
      if !digits.isEmpty then
        ([UInt8.ofNat (digits.foldl (fun n d => 8 * n + (d.toNat - 48)) 0)], s.drop digits.length)
      else match letters.lookup c with
        | some b => ([b], rest)
        | none => (toBytes [c], rest)
  | c :: s => (toBytes [c], s)
  | [] => ([], [])

/-- The bytes of a set in order: characters, escapes, ranges and classes. -/
def setBytes : Nat → Text → Bytes
  | 0, _ | _, [] => []
  | fuel + 1, s =>
    match ("[:".toList.isPrefixOf? s).bind (Text.cut? ":]".toList) with
    | some (name, rest) => (byteClass? name).getD [] ++ setBytes fuel rest
    | none =>
      match setByte s with
      | ([a], '-' :: c :: rest) =>
        match setByte (c :: rest) with
        | ([b], rest) =>
          (List.range (b.toNat + 1 - a.toNat)).map (fun i => UInt8.ofNat (a.toNat + i)) ++
            setBytes fuel rest
        | _ => a :: setBytes fuel ('-' :: c :: rest)
      | (bytes, rest) => bytes ++ setBytes fuel rest

def squeeze (set : Bytes) : Bytes → Bytes
  | a :: b :: bs =>
    if a = b && set.elem a then squeeze set (b :: bs) else a :: squeeze set (b :: bs)
  | bs => bs

def translateBytes (i : Invoked) (given : Bytes) (others : List Bytes) (input : Bytes) : Bytes :=
  let isIn (b : UInt8) : Bool := given.elem b != i.has "cC"
  let complement := ((List.range 256).map UInt8.ofNat).filter (!given.elem ·)
  let source := if i.has "cC" then complement else given
  let translate (target : Bytes) (b : UInt8) : UInt8 :=
    match source.reverse.idxOf? b with
    | none => b
    | some k => (target[source.length - 1 - k]?).getD (target.getLastD b)
  let output := match i.has "d", others with
    | true, _ => input.filter (!isIn ·)
    | false, target :: _ => input.map (translate target)
    | false, [] => input
  if i.has "s" then squeeze (others.getLastD source) output else output

def tr : Utility := withOptions ⟨"cCdst", "", "", [("complement", 'c'), ("delete", 'd'),
    ("squeeze-repeats", 's'), ("truncate-set1", 't'), ("help", '?'), ("version", '#')]⟩ fun i => do
  match i.operands, i.operands.map fun s => setBytes (s.length + 1) s with
  | [], _ | _, [] => misused "missing operand".toList
  | [given], [set] =>
    if i.has "ds" then finish i set []
    else
      complainAs ("missing operand after ".toList ++ quotedName given)
      Running.complain "Two strings must be given when translating.".toList
      adviseHelp
      exitWith 1
  | _, set :: others => finish i set others
where
  finish (i : Invoked) (set : Bytes) (others : List Bytes) : Running ExitStatus := do
    match ← Running.readFrom standardInput with
    | .ok input =>
      Running.writeBytes (translateBytes i set others input)
      exitWith 0
    | .error e =>
      failedTo "read error".toList e
      exitWith 1

def lineNumber (line : Bytes) : Int :=
  let s := (ofBytes line).dropWhile fun c => c == ' ' || c == '\t'
  let value (s : Text) : Int := Text.digitsValue (s.takeWhile Char.isDigit)
  match s with
  | '-' :: s => - value s
  | s => value s

def readAll : List Path → Running (Except (Path × OsError) (List Bytes))
  | [] => return .ok []
  | path :: paths => do
    match ← readOperand path with
    | .ok bytes => return (← readAll paths).map (bytes :: ·)
    | .error e => return .error (path, e)

def sort : Utility := withOptions ⟨"rnu", "", "", [("reverse", 'r'), ("numeric-sort", 'n'),
    ("unique", 'u'), ("help", '?'), ("version", '#')]⟩ fun i => do
  match ← readAll i.paths with
  | .error (path, e) =>
    failedTo ("cannot read: ".toList ++ shownName path) e
    exitWith 2
  | .ok contents =>
    let whole (line : Bytes) : Bytes := line.filter (· != newline)
    let lines := contents.flatMap fun bytes => (byteLines bytes).map whole
    let before (a b : Bytes) : Bool :=
      if i.has "n" && lineNumber a ≠ lineNumber b then lineNumber a < lineNumber b
      else a < b
    let sorted := lines.mergeSort fun a b => if i.has "r" then !before a b else !before b a
    let kept := if i.has "u" then sorted.eraseReps else sorted
    Running.writeBytes (kept.flatMap (· ++ [newline]))
    exitWith 0

def tee : Utility := withOptions ⟨"aip", "", "", [("append", 'a'), ("ignore-interrupts", 'i'),
    ("help", '?'), ("version", '#')]⟩ fun i => do
  let bytes := (← Running.readFrom standardInput).toOption.getD []
  Running.writeBytes bytes
  allOf (fun path => do
    match ← openPath (if i.has "a" then .append else .output) path with
    | .ok number =>
      match ← Running.writeOpen number bytes with
      | .ok () => return true
      | .error e =>
        failedTo (shownName path) e
        return false
    | .error e =>
      failedTo (shownName path) e
      return false) i.operands

end ErasedBridges.Shell
