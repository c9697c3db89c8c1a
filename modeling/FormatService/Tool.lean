import FormatService.Text.Blank
import FormatService.Path

/-!
# Formatting tools

Three interchangeable formatters for Go source. Each reads a document on its
standard input and writes the formatted document to its standard output.
-/

set_option autoImplicit false

namespace FormatService

inductive Tool
  /-- The plain formatter. -/
  | gofmt
  /-- Also organizes imports, which it resolves from the file's directory. -/
  | goimports
  /-- Also completes return statements. -/
  | goreturns
  deriving DecidableEq, Repr, Inhabited

namespace Tool

def all : List Tool := [gofmt, goimports, goreturns]

def name : Tool → String
  | gofmt => "gofmt"
  | goimports => "goimports"
  | goreturns => "goreturns"

def shortName : Tool → String
  | gofmt => "fmt"
  | goimports => "imports"
  | goreturns => "returns"

def rank : Tool → Nat
  | gofmt => 0
  | goimports => 1
  | goreturns => 2

def parse? (text : String) : Option Tool :=
  let word := String.ofList (Text.trim text.toList)
  all.find? fun tool => word == tool.name || word == tool.shortName

/-- What to say about a text that names no tool: the text is quoted as given. -/
def unknownMessage (text : String) : String :=
  "Unknown format tool '" ++ text ++ "'. Expected one of: gofmt, goimports, goreturns"

/-- The directory a file is in, written so that a tool can be pointed to it. -/
def sourceDirectory (file : Path) : String :=
  match file.parent? with
  | some directory => if directory.text = "" then "." else directory.text
  | none => "."

/-- The arguments for formatting standard input. All syntax errors are asked for,
and the tool that resolves imports is told where the file lives. -/
def arguments (tool : Tool) (file : Option Path) : List String :=
  match tool, file with
  | goimports, some file => ["-e", "--srcdir", sourceDirectory file]
  | _, _ => ["-e"]

end Tool

end FormatService
