import FormatService.CommandLine.Grammar

/-!
# Usage and help

The usage line of a command, and its help. Help lists names and descriptions in
two columns, or in two lines where the names are too wide.
-/

set_option autoImplicit false

namespace FormatService.CommandLine

def programVersion : String := "0.1.0"

def versionText : String := Command.root.name ++ " " ++ programVersion ++ "\n"

namespace Command

def usage (c : Command) (used : List Parameter) : String :=
  match c with
  | root => "goformat <SUBCOMMAND> [OPTIONS] [--] [files]..."
  | help => "goformat help [COMMAND]..."
  | c =>
    let named := if used.isEmpty then ["[OPTIONS]"]
      else (used.eraseDups.filter (!·.isPositional)).map Parameter.display
    let files := if !c.takesFiles then []
      else if used.contains .files then [Parameter.files.displayRequired]
      else [Parameter.files.display]
    " ".intercalate (root.name :: c.name :: named ++ files)

def helpWidth : Nat := 100

abbrev HelpItem := String × String

def pad (width : Nat) (s : String) : String := s ++ String.ofList (List.replicate (width - s.length) ' ')

def widest (items : List HelpItem) : Nat := items.foldl (fun w item => max w item.1.length) 0

/-- Whether the names take more than two fifths of the columns and a description
does not fit beside them. -/
def crowded (items : List HelpItem) : Bool :=
  let taken := widest items + 8
  taken ≤ helpWidth && 2 * helpWidth < 5 * taken && items.any fun item => helpWidth - taken < item.2.length

def besides (items : List HelpItem) : List String :=
  items.map fun item => "  " ++ pad (widest items) item.1 ++ "  " ++ item.2

def below (items : List HelpItem) : List String :=
  items.map fun item => "  " ++ item.1 ++ "\n          " ++ item.2

def layout (items : List HelpItem) : String :=
  "\n".intercalate (if crowded items then below items else besides items)

def optionItem (p : Parameter) : HelpItem :=
  (p.letter?.elim "    " (fun letter => String.ofList ['-', letter, ',', ' ']) ++ p.display, p.description)

def commandItem (c : Command) : HelpItem := (c.name, c.description)

def examples : String :=
  "EXAMPLES:\n" ++
  "  Format files in place with the configured tool:\n\n" ++
  "    goformat fmt main.go util.go\n\n" ++
  "  Organize imports, resolving the tool for a project:\n\n" ++
  "    goformat fmt --tool goimports --project . cmd/main.go\n\n" ++
  "  Format stdin and output the result to stdout:\n\n" ++
  "    goformat fmt --stdin cmd/main.go < cmd/main.go"

def programHelp (commands : List Command) (options : List Parameter) : String :=
  root.name ++ " " ++ programVersion ++ "\n\n" ++ root.description ++
  "\n\nUSAGE:\n    " ++ root.usage [] ++
  "\n\nSUBCOMMANDS:\n" ++ layout (commands.map commandItem) ++
  "\n\nOPTIONS:\n" ++ layout (options.map optionItem) ++
  "\n\n" ++ examples ++ "\n"

def overview : String := programHelp [.fmt, .outputTools] [.config, .verbose, .silent]

def positionalItems : Command → List HelpItem
  | fmt => [(Parameter.files.display, Parameter.files.description)]
  | help => [("[COMMAND]...", "Print help for the subcommand(s)")]
  | _ => []

def titled (title : String) (items : List HelpItem) : String :=
  if items.isEmpty then "" else "\n\n" ++ title ++ ":\n" ++ layout items

def helpText : Command → String
  | root => programHelp [.fmt, .outputTools, .help] root.options
  | c =>
    (if c.description = "" then "" else c.description ++ "\n\n") ++ "Usage: " ++ c.usage [] ++
    titled "Arguments" c.positionalItems ++ titled "Options" (c.options.map optionItem) ++ "\n"

end Command

end FormatService.CommandLine
