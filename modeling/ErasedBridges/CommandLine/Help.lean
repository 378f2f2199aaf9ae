import ErasedBridges.CommandLine.Invocation

/-!
# Help

A page of help says what a command is for and lists its arguments in sections. In a section the
explanations start in the same column.
-/

namespace ErasedBridges.CommandLine

abbrev HelpEntry := Text × Text

def helpSection (title : String) (entries : List HelpEntry) : List Text :=
  let width := (entries.map fun e => e.1.length).foldl max 0
  if entries.isEmpty then []
  else [] :: (title.toList ++ [':']) :: entries.map fun (label, about) =>
    "  ".toList ++ Text.padRight width label ++ "  ".toList ++ about

structure HelpPage where
  about : Text
  usage : Text
  commands : List HelpEntry
  operands : List HelpEntry
  options : List HelpEntry

namespace HelpPage

def text (p : HelpPage) : Text :=
  let lines := [p.about, [], "Usage: ".toList ++ p.usage] ++ helpSection "Commands" p.commands ++
   helpSection "Arguments" p.operands ++ helpSection "Options" p.options
  lines.flatMap (· ++ ['\n'])

end HelpPage

namespace OptionFormat

def label (o : OptionFormat) : Text :=
  "--".toList ++ o.name.toList ++ match o.valueName with
    | some v => " <".toList ++ v.toList ++ ['>']
    | none => []

/-- Short names stand in a column of their own. -/
def entry (o : OptionFormat) : HelpEntry :=
  ((match o.short with
    | some c => ['-', c, ',', ' ']
    | none => List.replicate 4 ' ') ++ o.label, o.about.toList)

/-- Options of the same rank are listed by their short names or, without one, their long names. -/
def listingKey (o : OptionFormat) : Text :=
  match o.short with
  | some c => [c, '0']
  | none => o.name.toList

end OptionFormat

/-- The options of a command and those for all commands. The rank of an option is its place among
those of its own kind. -/
def listedOptions (own : List OptionFormat) : List OptionFormat :=
  let ranked := own.zipIdx ++ globalOptions.zipIdx
  (ranked.mergeSort fun (a, i) (b, j) =>
    i < j || (i == j && !decide (b.listingKey < a.listingKey))).map (·.1)

def helpOption : OptionFormat := (OptionFormat.flag "help" "Print help").withShort 'h'

def versionOption : OptionFormat := (OptionFormat.flag "version" "Print version").withShort 'V'

def programName : Text := "optbridge".toList

def helpAbout : Text := "Print this message or the help of the given subcommand(s)".toList

namespace OperandFormat

def label (o : OperandFormat) : Text :=
  '<' :: o.name.toList ++ ['>'] ++ if o.repeats then "...".toList else []

end OperandFormat

namespace CommandFormat

/-- Arguments that have to be there are part of the usage. -/
def usage (c : CommandFormat) : Text :=
  Text.join [' '] ([programName, c.name.toList, "[OPTIONS]".toList] ++
    (c.options.filter (·.required)).map OptionFormat.label ++
    (c.operand.map OperandFormat.label).toList)

def page (c : CommandFormat) : HelpPage where
  about := c.about.toList
  usage := c.usage
  commands := []
  operands := (c.operand.map fun o => (o.label, o.about.toList)).toList
  options := (listedOptions c.options ++ [helpOption]).map OptionFormat.entry

end CommandFormat

def topPage : HelpPage where
  about := "Patch the erased bridges of a compiled option library".toList
  usage := programName ++ " [OPTIONS] <COMMAND>".toList
  commands := commandFormats.map (fun c => (c.name.toList, c.about.toList)) ++
    [(helpName, helpAbout)]
  operands := []
  options := (globalOptions ++ [helpOption, versionOption]).map OptionFormat.entry

def helpPage : HelpPage where
  about := helpAbout
  usage := programName ++ " help [COMMAND]...".toList
  commands := []
  operands := [("[COMMAND]...".toList, "Print help for the subcommand(s)".toList)]
  options := []

def helpText (command : Option Text) : Text :=
  match command with
  | none => topPage.text
  | some name => ((commandFormat? name).elim helpPage CommandFormat.page).text

end ErasedBridges.CommandLine
