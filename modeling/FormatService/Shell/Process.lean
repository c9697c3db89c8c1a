import FormatService.Shell.Builtin.Table
import FormatService.Utility.Run

/-!
# Processes

What a program is started with, how utilities run, and how the shell takes its arguments
when it is the program.
-/

set_option autoImplicit false

namespace FormatService.Shell

/-- What a new process takes over from the one that starts it. -/
structure Surroundings where
  directory : Location
  environment : List (Text × Text)
  links : List (Nat × Link)

namespace Surroundings

def link? (a : Surroundings) (channel : Nat) : Option Link :=
  (a.links.find? (·.1 == channel)).map (·.2)

def link (a : Surroundings) (channel : Nat) : Link := (a.link? channel).getD .void

def overlaid (environment values : List (Text × Text)) : List (Text × Text) :=
  values ++ environment.filter fun (name, _) => !values.any (·.1 == name)

end Surroundings

def State.surroundings (s : State) : Surroundings :=
  ⟨s.directory, s.environment, s.links⟩

namespace Startup

structure Script where
  text : Text
  name : Text
  arguments : List Text
  options : Text
  /-- Whether the script is an argument itself, and not read from a file. -/
  inLine : Bool

def find (world : World) (around : Surroundings) (program : Text) (o : Setting.Outcome) :
    Except Text (World × Script) :=
  if o.inLine then
    match o.words with
    | [] => .error "-c requires an argument".toList
    | text :: words => .ok (world, ⟨text, words.headD program, words.drop 1, o.options, true⟩)
  else
    match if o.options.contains 's' then [] else o.words with
    | [] =>
      let (world, text) := world.drain (around.link 0)
      .ok (world, ⟨text, program, o.words, Setting.turn o.options 's' true, false⟩)
    | path :: words =>
      match world.openAt around.links around.directory .reading path with
      | .ok (world, link) =>
        let (world, text) := world.drain link
        .ok (world, ⟨text, path, words, o.options, false⟩)
      | .error f =>
        let cause := if f = .missing ∨ f = .notDirectory then "No such file" else f.text
        .error ("cannot open ".toList ++ path ++ ": ".toList ++ cause.toList)

def script (world : World) (around : Surroundings) (program : Text) (arguments : List Text) :
    Except Text (World × Script) := do
  let (o, _) ← Setting.ofWords true (arguments.length + 1) ⟨[], false, arguments⟩
  find world around program o

def usualVariables : List (Text × Text) :=
  [("IFS".toList, " \t\n".toList), (State.searchPath, Lookup.usualPath), ("PS1".toList, "# ".toList),
    ("PS2".toList, "> ".toList), ("PS4".toList, "+ ".toList)]

def state (world : World) (around : Surroundings) (s : Script) : State :=
  let given := around.environment.filter fun (name, _) => isName name && name != "IFS".toList
  let own := usualVariables.filter fun (name, _) => !given.any (·.1 == name)
  let bound (exported : Bool) (values : List (Text × Text)) : List Variable :=
    values.map fun (name, value) => ⟨name, some value, exported, false⟩
  let s : State := {
    world := { world with next := world.next + 1 }
    directory := around.directory
    bindings := bound true given ++ bound false own
    functions := []
    documents := []
    nextDocument := 0
    frames := []
    name := s.name
    arguments := s.arguments
    status := 0
    substituted := 0
    final := none
    links := around.links
    process := world.next
    options := s.options
    line := 0
    reached := 1
    command := none
    loops := 0 }
  let path := FileTree.pathText around.directory
  { (s.setVariable "PWD".toList path).exportVariable "PWD".toList with line := 1 }

end Startup

def fileSize? (w : World) : Option Link → Option Nat
  | some (.file id) => ((w.opening? id).bind fun o => (w.held o).toOption).map List.length
  | _ => none

def utility (image : Launch.Image) (around : Surroundings) (world : World) : World × Ended :=
  let input := around.link? 0
  let reading : Utility.Reading :=
    { files := world.files
      directory := around.directory
      input := (input.map world.left).getD (.error .closed)
      inputSize := fileSize? world input }
  let written :=
    Utility.run image.program (image.arguments.headD []) (image.arguments.drop 1) reading
  let world := { world.leave (around.link 0) written.left with files := written.files }
  ((world.write (around.link 1) written.out).write (around.link 2) written.complaints,
    .exited written.status)

def imageOf (s : State) (arguments : List Text) :
    SystemFault → List Text → Except SystemFault Launch.Image
  | cause, [] => .error cause
  | cause, path :: paths =>
    match Launch.image s.world.files s.directory ⟨true, s.environment⟩ Launch.depth path arguments with
    | .ok i => .ok i
    | .error .missing | .error .notDirectory => imageOf s arguments cause paths
    | .error f => imageOf s arguments f paths

def unstartedStatus : SystemFault → Nat
  | .missing | .notDirectory | .nameTooLong | .tooManyLevels => 127
  | _ => 126

def unstarted (name : Text) (f : SystemFault) (s : State) : State :=
  (s.complain (name ++ ": ".toList ++ Lookup.cause f)).withStatus (unstartedStatus f)

end FormatService.Shell
