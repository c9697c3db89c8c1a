import FormatService.Machine.FileTree

/-!
# Launching programs

How a command is found and which program runs it. A name without a slash is
looked for in the directories of the search path, in order. A file whose first
line names an interpreter is run by it.
-/

set_option autoImplicit false

namespace FormatService.Launch

structure Image where
  program : Utility
  arguments : List Text
  deriving DecidableEq, Repr

def usualPath : Text := "/bin:/usr/bin".toList

def entries : Text → List Text
  | [] => [[]]
  | c :: t =>
    if c = ':' then [] :: entries t
    else match entries t with
      | [] => [[c]]
      | e :: es => (c :: e) :: es

def within (entry name : Text) : Text :=
  if entry = [] then name
  else if entry.getLast? = some '/' then entry ++ name
  else entry ++ '/' :: name

def isBlank (c : Char) : Bool := c == ' ' || c == '\t'

def isTerminator (c : Char) : Bool := isBlank c || c == '\x00'

/-- The name and the argument in a line. A null character ends each of them. -/
def namedIn (line : Text) : Text × Option Text :=
  let name := line.takeWhile fun c => !isTerminator c
  let rest := line.drop name.length
  let argument := (rest.dropWhile isBlank).takeWhile (· != '\x00')
  (name, if rest.head? = some '\x00' ∨ argument.isEmpty then none else some argument)

def withoutBlanksAtEnd (line : Text) : Text := (line.reverse.dropWhile isBlank).reverse

def headLimit : Nat := 256

/-- The interpreter that the first line of a file names, and its argument. A line that
does not end in time must at least show where the name of the interpreter ends. -/
def interpreter? (bytes : Bytes) : Option (Text × Option Text) :=
  let head := Bytes.toOctets (bytes.take headLimit)
  let head := head ++ List.replicate (headLimit - head.length) '\x00'
  match head with
  | '#' :: '!' :: t =>
    let line := t.takeWhile fun c => c != '\n' && c != '\x00'
    if (t.drop line.length).head? = some '\n' then
      let line := (withoutBlanksAtEnd line).dropWhile isBlank
      if line.isEmpty then none else some (namedIn line)
    else
      let rest := t.dropWhile isBlank
      if rest.any isTerminator then
        some (namedIn ((withoutBlanksAtEnd t.dropLast).dropWhile isBlank))
      else none
  | _ => none

def depth : Nat := 5

/-- The greatest number of bytes in an argument or variable, with the byte that ends it. -/
def argumentLimit : Nat := 131072

def totalLimit : Nat := 2097152

/-- Whether a program can take over arguments and variables. A place for each is
counted with its text. -/
def fits (texts : List Text) : Bool :=
  texts.all (fun t => t.length < argumentLimit) &&
    texts.foldl (fun n t => n + (t.length + 9)) 0 ≤ totalLimit

/-- Who asks for a program, and what there is to take over beside its arguments. -/
structure Request where
  /-- The shell runs a file that names no interpreter as a script. -/
  byShell : Bool
  environment : List (Text × Text)

def Request.fits (r : Request) (arguments : List Text) : Bool :=
  Launch.fits (arguments ++ r.environment.map fun (name, value) => name ++ '=' :: value)

variable (files : FileTree) (directory : Location) (request : Request)

def image : Nat → Text → List Text → Except SystemFault Image
  | more, path, arguments => do
    match ← files.find directory path with
    | .program utility =>
      if request.fits arguments then return ⟨utility, arguments⟩ else .error .tooMuch
    | .file bytes true =>
      if request.fits arguments = false then .error .tooMuch
      else
        match interpreter? bytes with
        | some (name, argument) =>
          match more with
          | 0 =>
            if FileTree.isRunnable (← files.find directory name) then .error .tooManyLevels
            else .error .denied
          | more + 1 => image more name (name :: argument.toList ++ path :: arguments.drop 1)
        | none =>
          if request.byShell then return ⟨.shell, "/bin/sh".toList :: path :: arguments.drop 1⟩
          else .error .notProgram
    | _ => .error .denied

/-- The first of the paths that can be run. Paths without a file are passed over;
one that may not be run is remembered. -/
def firstOf (arguments : List Text) : SystemFault → List Text → Except SystemFault Image
  | fault, [] => .error fault
  | fault, path :: paths =>
    match image files directory request depth path arguments with
    | .ok i => .ok i
    | .error .missing | .error .notDirectory => firstOf arguments fault paths
    | .error .denied => firstOf arguments .denied paths
    | .error f => .error f

def command (searchPath : Option Text) (arguments : List Text) : Except SystemFault Image :=
  let name := arguments.headD []
  if name = [] then .error .missing
  else if name.contains '/' then image files directory request depth name arguments
  else
    firstOf files directory request arguments .missing
      ((entries (searchPath.getD usualPath)).map fun entry => within entry name)

def tool? (searchPath name : Text) : Option Text :=
  ((entries searchPath).map fun entry => within entry name).find? fun path =>
    ((files.find directory path).toOption).any FileTree.isRunnable

end FormatService.Launch
