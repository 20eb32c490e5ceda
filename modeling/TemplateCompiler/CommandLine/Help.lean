import TemplateCompiler.CommandLine.Arguments

/-! # Help texts

What the program prints when it is asked for help.
-/

namespace TemplateCompiler.CommandLine

/-- The lines on the options that every command has. -/
def configLine : String := "  -c, --config <CONFIG>              JSON engine configuration"

/-- The line on the library root. -/
def libraryLine : String := "  -l, --library-root <LIBRARY_ROOT>  Root directory for `~/` includes"

/-- The line on the engine. -/
def engineLine : String :=
  "  -e, --engine <ENGINE>              Target engine; defaults to the one the template declares"

/-- The line on help. -/
def helpLine : String := "  -h, --help                         Print help"

/-- What a command does. -/
def Verb.summary : Verb → String
  | render => "Print the generated source of a template"
  | compile => "Print the compiled unit manifest as JSON"
  | detect => "Print the engine a template declares"

/-- What the command for help does. -/
def helpSummary : String := "Print this message or the help of the given subcommand(s)"

/-- The help text on the program. -/
def programHelp : List String := [
  "Blade CLI - template to source code compiler",
  "",
  "Usage: blade [OPTIONS] <COMMAND>",
  "",
  "Commands:",
  "  render   " ++ Verb.render.summary,
  "  compile  " ++ Verb.compile.summary,
  "  detect   " ++ Verb.detect.summary,
  "  help     " ++ helpSummary,
  "",
  "Options:",
  configLine,
  libraryLine,
  helpLine]

/-- The help text on a command. -/
def verbHelp (verb : Verb) : List String :=
  [verb.summary,
    "",
    "Usage: blade " ++ verb.name ++ " [OPTIONS] <TEMPLATE>",
    "",
    "Arguments:",
    "  <TEMPLATE>  Template file",
    "",
    "Options:"] ++
  (if verb.takesEngine then [engineLine] else []) ++
  [configLine, libraryLine, helpLine]

/-- The help text on help. -/
def helpHelp : List String := [
  helpSummary,
  "",
  "Usage: blade help [COMMAND]...",
  "",
  "Arguments:",
  "  [COMMAND]...  Print help for the subcommand(s)"]

/-- The help text on a topic. -/
def HelpTopic.text (topic : HelpTopic) : String :=
  let lines :=
    match topic with
    | program => programHelp
    | verb v => verbHelp v
    | help => helpHelp
  String.join (lines.map (· ++ "\n"))

end TemplateCompiler.CommandLine
