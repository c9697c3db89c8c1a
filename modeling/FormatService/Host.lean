import FormatService.Tool
import FormatService.LogLevel

/-!
# Hosts

What the program asks of the machine it runs on: messages, files, searches for
tools and runs of them. A host is a value, and each request gives the host after
it. A search is issued first and answered later.
-/

set_option autoImplicit false

namespace FormatService

/-- Why a request failed: the causes from the outermost to the innermost. -/
structure Failure where
  chain : List String
  deriving DecidableEq, Repr, Inhabited

namespace Failure

def message (f : Failure) : String := ": ".intercalate f.chain

end Failure

structure Run where
  exitCode : Int
  stdout : Text
  stderr : Text
  deriving DecidableEq, Repr, Inhabited

def Run.succeeded (r : Run) : Bool := r.exitCode == 0

class Host (σ : Type) where
  level : σ → LogLevel
  /-- The current directory. -/
  directory : σ → Path
  /-- Prints a line for the user. -/
  log : String → σ → σ
  /-- Prints a line of diagnostics. -/
  note : String → σ → σ
  /-- Writes a text for another program, as it is. -/
  emit : Text → σ → σ
  read : Path → σ → Except Failure Text × σ
  write : Path → Text → σ → Except Failure Unit × σ
  present : Path → σ → Bool
  /-- Issues a search for a tool on behalf of a project. -/
  issueSearch : Tool → Option Path → σ → σ
  /-- Answers a search that was issued before. -/
  answerSearch : Tool → Option Path → σ → Except Failure (Option String)
  /-- Runs a command in a directory with a text on its standard input. -/
  run : String → List String → Path → Text → σ → Except Failure Run × σ

namespace Host

variable {σ : Type} [Host σ]

def debug (text : String) (h : σ) : σ :=
  if level h = .debug then note ("[DEBUG]: " ++ text) h else h

def warn (text : String) (h : σ) : σ :=
  if (level h).shows .warn then note text h else h

def complain (text : String) (h : σ) : σ :=
  if (level h).shows .error then note text h else h

def directoryFor (project : Option Path) (h : σ) : Path := project.getD (directory h)

end Host

end FormatService
