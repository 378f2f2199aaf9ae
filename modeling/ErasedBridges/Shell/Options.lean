import ErasedBridges.Shell.Expansion

/-!
# Options of a shell

Options have names, and most of them letters. They are switched on after a minus sign and off after
a plus sign.
-/

namespace ErasedBridges.Shell

open Running

/-- The options by name, in the order of their list. Those without a letter have a mark instead. -/
def optionNames : List (String × Char) :=
  [("errexit", 'e'), ("noglob", 'f'), ("ignoreeof", 'I'), ("interactive", 'i'), ("monitor", 'm'),
    ("noexec", 'n'), ("stdin", 's'), ("xtrace", 'x'), ("verbose", 'v'), ("vi", 'V'), ("emacs", 'E'),
    ("noclobber", 'C'), ("allexport", 'a'), ("notify", 'b'), ("nounset", 'u'), ("privileged", 'p'),
    ("nolog", '\x01'), ("debug", '\x02')]

def setOption (on : Bool) (letter : Char) : Running Unit := modifyProcess fun p =>
  let others := p.options.filter (· != letter)
  { p with options := if on then letter :: others else others }

/-- All options, in a table or as commands that set them. Before they are known they count as
on. -/
def listOptions (starting asTable : Bool) : Running Unit := do
  let p ← process
  let line (name : String) (letter : Char) : Text :=
    let on := starting || p.hasOption letter
    if asTable then Text.padRight 16 name.toList ++ (if on then "on".toList else "off".toList)
    else "set ".toList ++ (if on then "-o ".toList else "+o ".toList) ++ name.toList
  if asTable then write "Current option settings\n".toList
  optionNames.forM fun (name, letter) => write (line name letter ++ ['\n'])

structure OptionReading where
  /-- Whether the script is an argument. -/
  takesScript : Bool
  /-- What ended the options, if it was an argument of its own. -/
  ending : Option Text
  rest : List Text

/-- The letters of one argument; an option that is to be named takes another one. -/
def readOptionLetters (starting on : Bool) (args : List Text) : Text → Running (Bool × List Text)
  | [] => return (false, args)
  | c :: letters => do
    if c = 'c' && starting then
      let (_, args) ← readOptionLetters starting on args letters
      return (true, args)
    else if c = 'o' then
      match args with
      | [] => listOptions starting on
      | name :: _ =>
        match optionNames.lookup (String.ofList name) with
        | some letter => setOption on letter
        | none => refuse ("Illegal option ".toList ++ [if on then '-' else '+'] ++ "o ".toList ++
            name)
      readOptionLetters starting on (args.drop 1) letters
    else
      unless optionNames.any (fun o => o.2 == c && 32 < c.toNat) do
        refuse ("Illegal option -".toList ++ [c])
      setOption on c
      readOptionLetters starting on args letters

def readOptionsWithin (starting : Bool) : Nat → OptionReading → Running OptionReading
  | 0, o => return o
  | fuel + 1, o => do
    match o.rest with
    | ['-'] :: args => return { o with ending := some ['-'], rest := args }
    | ['-', '-'] :: args => return { o with ending := some ['-', '-'], rest := args }
    | ('-' :: letters) :: args =>
      let (script, rest) ← readOptionLetters starting true args letters
      readOptionsWithin starting fuel { o with takesScript := o.takesScript || script, rest }
    | ('+' :: letters) :: args =>
      let (script, rest) ← readOptionLetters starting false args letters
      readOptionsWithin starting fuel { o with takesScript := o.takesScript || script, rest }
    | _ => return o

def readOptions (starting : Bool) (args : List Text) : Running OptionReading :=
  readOptionsWithin starting (args.length + 1) ⟨false, none, args⟩

end ErasedBridges.Shell
