import FormatService.Text.Basic

/-!
# The grammar of the command line

Commands and the parameters that each of them takes. Some parameters are given
by name, with a value or as a flag; the files are given by position.
-/

set_option autoImplicit false

namespace FormatService.CommandLine

inductive Parameter
  /-- Where the settings are. -/
  | config
  | verbose
  | silent
  | help
  | version
  /-- The tool to format with. -/
  | tool
  /-- The directory of a project. -/
  | project
  /-- The file that standard input stands for. -/
  | stdin
  /-- The files to format. -/
  | files
  deriving DecidableEq, Repr, Inhabited

namespace Parameter

def name : Parameter → String
  | config => "config"
  | verbose => "verbose"
  | silent => "silent"
  | help => "help"
  | version => "version"
  | tool => "tool"
  | project => "project"
  | stdin => "stdin"
  | files => "files"

def letter? : Parameter → Option Char
  | config => some 'c'
  | help => some 'h'
  | version => some 'V'
  | project => some 'p'
  | _ => none

def valueName? : Parameter → Option String
  | config => some "config"
  | tool => some "gofmt|goimports|goreturns"
  | project => some "dir"
  | stdin => some "file-path"
  | _ => none

def isPositional (p : Parameter) : Bool := p == files

def takesValue (p : Parameter) : Bool := p.valueName?.isSome

def repeats (p : Parameter) : Bool := p == project || p == files

def description : Parameter → String
  | config =>
    "Path to JSON configuration file. Defaults to goformat.json in the current directory when it exists."
  | verbose => "Prints additional diagnostic information."
  | silent => "Only prints errors."
  | help => "Print help"
  | version => "Print version"
  | tool => "Tool to format with. This overrides what is specified in the config file."
  | project =>
    "Root directory of a project to resolve tools for. May be specified multiple times."
  | stdin => "Format stdin and output the result to stdout. " ++
    "The file path is used to find the project and import paths."
  | files => "Paths of the files to format."

def rival? : Parameter → Option Parameter
  | verbose => some silent
  | silent => some verbose
  | files => some stdin
  | stdin => some files
  | _ => none

def display (p : Parameter) : String :=
  if p.isPositional then "[" ++ p.name ++ "]..."
  else "--" ++ p.name ++ (p.valueName?.elim "" fun value => " <" ++ value ++ ">")

def displayRequired (p : Parameter) : String :=
  if p.isPositional then "<" ++ p.name ++ ">..." else p.display

end Parameter

inductive Command
  | root
  | fmt
  | outputTools
  | version
  | help
  deriving DecidableEq, Repr, Inhabited

namespace Command

def name : Command → String
  | root => "goformat"
  | fmt => "fmt"
  | outputTools => "output-tools"
  | version => "version"
  | help => "help"

def description : Command → String
  | root => "Formats Go source files with gofmt, goimports or goreturns."
  | fmt => "Formats the files and writes the result to the file system."
  | outputTools => "Prints the resolved path of each tool for each project."
  | version => ""
  | help => "Print this message or the help of the given subcommand(s)"

def parameters : Command → List Parameter
  | root => [.config, .verbose, .silent, .help, .version]
  | fmt => [.tool, .project, .files, .stdin, .config, .verbose, .silent, .help]
  | outputTools => [.project, .config, .verbose, .silent, .help]
  | version => [.config, .verbose, .silent, .help]
  | help => []

def options (c : Command) : List Parameter := c.parameters.filter (!·.isPositional)

def commands : Command → List Command
  | root => [.fmt, .outputTools, .version, .help]
  | _ => []

def takesFiles (c : Command) : Bool := c.parameters.contains .files

def command? (c : Command) (word : Text) : Option Command :=
  c.commands.find? fun sub => word == sub.name.toList

def option? (c : Command) (name : Text) : Option Parameter :=
  c.options.find? fun p => name == p.name.toList

def letter? (c : Command) (letter : Char) : Option Parameter :=
  c.options.find? fun p => p.letter? == some letter

end Command

end FormatService.CommandLine
