import Delegation.CommandLine.Command

/-!
# Help

The help about a command says what it is for, how it is used, and what it takes: a list of
commands, of operands, of options. In a list the names stand in one column and what is said about
them in another; where the second column would be too narrow for some text, each text goes below
its name.
-/

namespace Delegation.CommandLine

def programName : String := "delegate-orchestrator"

def programAbout : String := "Delegated expert-run orchestration over MCP"

/-- A name in a list, and what is said about it. -/
structure HelpRow where
  /-- What stands before the name. -/
  margin : String := "  "
  name : String
  text : String

/-! ## Lists -/

/-- How wide a line of help is meant to be, and what it loses beside the name and the text. -/
def helpWidth : Nat := 100
def helpMargins : Nat := 12

/-- The width of the column of names. -/
def widest (rows : List HelpRow) : Nat := rows.foldl (fun w r => max w r.name.length) 2

/-- Do the names leave too little of the line for some text? -/
def isCrowded (rows : List HelpRow) : Bool :=
  let taken := widest rows + helpMargins
  decide (taken ≤ helpWidth) && decide (40 * helpWidth < 100 * taken)
    && rows.any fun r => helpWidth - taken < r.text.length

def spaces (n : Nat) : String := String.ofList (List.replicate n ' ')

/-- A row of a list, with its text beside the name or below it. -/
def HelpRow.line (crowded : Bool) (width : Nat) (r : HelpRow) : String :=
  r.margin ++ r.name
    ++ (if crowded then "\n" ++ spaces 10 else spaces (width - r.name.length + 2)) ++ r.text

/-- A list under its heading; nothing if it is empty. -/
def listing? (heading : String) (rows : List HelpRow) : Option String :=
  if rows.isEmpty then none
  else
    some (String.intercalate "\n"
      ((heading ++ ":") :: rows.map (HelpRow.line (isCrowded rows) (widest rows))))

/-! ## Rows -/

/-- A name as it stands for a value. -/
def placeholder (name : String) : String :=
  "<" ++ (name.map fun c => if c = '-' then '_' else c.toUpper) ++ ">"

def OptionSpec.written (o : OptionSpec) : String :=
  match o.taking with
  | .nothing => "--" ++ o.name
  | .value _ => "--" ++ o.name ++ " " ++ placeholder o.name

/-- What is said about an option: what it is for, its variable, its preset value, its choices. -/
def OptionSpec.text (value? : String → Option String) (o : OptionSpec) : String :=
  let bracketed (word content : String) : String := "[" ++ word ++ ": " ++ content ++ "]"
  String.intercalate " " <|
    (if o.about = "" then [] else [o.about])
      ++ (o.source.map fun v => bracketed "env" (v ++ "=" ++ (value? v).getD "")).toList
      ++ (o.preset.map (bracketed "default")).toList
      ++ (if o.choices.isEmpty then []
        else [bracketed "possible values" (String.intercalate ", " o.choices)])

def OptionSpec.row (value? : String → Option String) (o : OptionSpec) : HelpRow :=
  ⟨spaces 6, o.written, o.text value?⟩

def helpRow : HelpRow := ⟨"  -h, ", "--help", "Print help"⟩

/-! ## Texts -/

/-- A text about something: what it is for, how it is used, and its lists. -/
def page (about usage : String) (sections : List (Option String)) : String :=
  String.intercalate "\n\n" (about :: ("Usage: " ++ programName ++ usage) :: sections.filterMap id)
    ++ "\n"

/-- What is said where a line cannot be understood. -/
def usage : String := "Usage: " ++ programName ++ " [OPTIONS] <COMMAND>\n"

def helpAbout : String := "Print this message or the help of the given subcommand(s)"

/-- The help about the program. -/
def programHelp (value? : String → Option String) : String :=
  page programAbout " [OPTIONS] <COMMAND>"
    [listing? "Commands"
      (commandSpecs.map (fun c => { name := c.name, text := c.about })
        ++ [{ name := helpName, text := helpAbout }]),
      listing? "Options" [configOption.row value?, helpRow]]

/-- The help about a command. The option for the configuration is the first, or comes after another
one that is the first and before it in the alphabet. -/
def CommandSpec.help (value? : String → Option String) (c : CommandSpec) : String :=
  let options :=
    match c.options with
    | o :: rest =>
      if o.name < configOption.name then o :: configOption :: rest else configOption :: o :: rest
    | [] => [configOption]
  page c.about
    (" " ++ c.name ++ " [OPTIONS]" ++ String.join (c.operands.map (" " ++ placeholder ·)))
    [listing? "Arguments" (c.operands.map fun o => { name := placeholder o, text := "" }),
      listing? "Options" (options.map (OptionSpec.row value?) ++ [helpRow])]

/-- The help about the command for help. -/
def helpHelp : String :=
  page helpAbout " help [COMMAND]..."
    [listing? "Arguments"
      [{ name := "[COMMAND]...", text := "Print help for the subcommand(s)" }]]

/-- The help about a command, or about the program. -/
def helpText (value? : String → Option String) : Option String → String
  | none => programHelp value?
  | some name =>
    match commandSpecs.find? (·.name = name) with
    | some c => c.help value?
    | none => helpHelp

end Delegation.CommandLine
