import JobCluster.Client.Command
import JobCluster.Text.Column

/-!
# Help

What is printed about the program and about each command: what it is for, how it is used, and its
operands and options.
-/

namespace JobCluster.Client

open JobCluster.Text

/-- The name of the program. -/
def programName : String := "client"

/-- A section of help, with its rows set in. No section is without rows. -/
def helpSection (title : String) (rows : List (String × String)) : List String :=
  if rows.isEmpty then []
  else ["", title ++ ":"] ++ (twoColumns rows).map ("  " ++ ·)

/-- The row of the option that asks for help. -/
def helpRow : String × String := ("-h, --help", "Print help")

/-- What the command that gives help is for. -/
def helpAbout : String := "Print this message or the help of the given subcommand(s)"

/-- An option with its value, as it is written. -/
def OptionRule.synopsis (o : OptionRule) : String :=
  "    --" ++ o.name ++ if o.shape = .mark then "" else " <" ++ o.value ++ ">"

/-- An operand, as it is written. -/
def operandText (name : String) : String := "<" ++ name ++ ">"

/-- How a command is used. -/
def CommandRule.usage (r : CommandRule) : String :=
  " ".intercalate (["Usage:", programName, r.name] ++
    (if r.options.isEmpty then [] else ["[OPTIONS]"]) ++ r.operands.map operandText)

/-- Help with a command. -/
def CommandRule.help (r : CommandRule) : List String :=
  (if r.about.isEmpty then [] else [r.about, ""]) ++ [r.usage] ++
    helpSection "Arguments" (r.operands.map fun name => (operandText name, "")) ++
    helpSection "Options" (r.options.map (fun o => (o.synopsis, o.about)) ++ [helpRow])

/-- Help with the program. -/
def programHelp : List String :=
  ["CLI para enviar y seguir jobs en el coordinador", "",
    "Usage: " ++ programName ++ " <COMMAND>"] ++
    helpSection "Commands"
      (commandRules.map (fun r => (r.name, r.about)) ++ [(Command.helpName, helpAbout)]) ++
    helpSection "Options" [helpRow]

/-- Help with the command that gives help. -/
def helpHelp : List String :=
  [helpAbout, "", "Usage: " ++ programName ++ " " ++ Command.helpName ++ " [COMMAND]..."] ++
    helpSection "Arguments" [("[COMMAND]...", "Print help for the subcommand(s)")]

/-- Help with a topic. -/
def help : Option String → List String
  | none => programHelp
  | some name => match commandRules.find? (·.name == name) with
    | some r => r.help
    | none => helpHelp

end JobCluster.Client
