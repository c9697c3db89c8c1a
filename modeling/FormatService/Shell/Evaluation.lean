import FormatService.Shell.Expansion
import FormatService.Shell.Grammar
import FormatService.Shell.Process

/-!
# Running scripts

A script is read and run line by line. A copy of the script runs whatever needs a process
of its own, and the commands of a pipeline run one after the other, each with all that the
one before it has written. Scripts need not end, so a bound is given on how deep commands
may be nested; every round of a loop is one level.
-/

set_option autoImplicit false

namespace FormatService.Shell

structure Stance where
  /-- Whether something depends on the outcome. A script that ends at the first failure
  goes on then. -/
  tested : Bool
  /-- Whether the process has nothing to do after it. -/
  last : Bool
  deriving DecidableEq, Repr

namespace Stance

def test : Stance := ⟨true, false⟩

def inner (s : Stance) : Stance := { s with last := false }

def alone (s : Stance) : Stance := { s with last := true }

end Stance

/-- A command whose first words have been expanded: a built-in command has to be known
before the other words are. -/
structure Wanted where
  /-- Words that only say how the command is to be found. -/
  passed : List Text
  fields : List Text
  rest : List Word
  /-- Whether functions are taken into account. -/
  withFunctions : Bool
  /-- Whether the first built-in command in a row of them changes the script itself. -/
  special : Option Bool

namespace Evaluation

def cutOff (s : State) : State × Flow := ({ s with final := none }.withStatus 255, .leave)

def afterwards (s : State) (done : State × Flow) : State × Flow :=
  let s := s.inWorldOf done.1
  match done.2 with
  | .killed n => (s, .killed n)
  | .gone n => ((Builtin.mourn (.killed n) s).withStatus (Ended.killed n).status, .next)
  | _ => (s.withStatus done.1.status, .next)

def endedBy (done : State × Flow) : Ended :=
  match done.2 with
  | .killed n | .gone n => .killed n
  | _ => .exited done.1.status

def substituted (written : Text) : Text :=
  (written.reverse.dropWhile (· == '\n')).reverse.filter (· != '\x00')

def misunderstood (fault : SyntaxFault) (s : State) : State × Flow :=
  { s with line := fault.line }.mistaken ("Syntax error: " ++ fault.cause.message).toList

/-- The path of a file whose commands are to be run. A name without a slash is looked for
in the search path. -/
def scriptPath (s : State) (name : Text) : Except Text Text :=
  if name.contains '/' then .ok name
  else
    let entries := Launch.entries ((s.value? State.searchPath).getD [])
    let isFile (path : Text) : Bool :=
      match s.contentAt path with
      | .ok (.file ..) | .ok (.program _) => true
      | _ => false
    match (entries.map fun entry => Launch.within entry name).find? isFile with
    | some path => .ok path
    | none => .error (name ++ ": not found".toList)

/-- Takes the text of a file of commands. A directory counts as empty. -/
def scriptText (s : State) (path : Text) : Except Text (Text × State) :=
  match s.world.openAt s.links s.directory .reading path with
  | .ok (world, link) =>
    let (world, text) := world.drain link
    .ok (text.filter (· != '\x00'), { s with world := world })
  | .error f =>
    let cause := match f with
      | .missing | .notDirectory => "No such file".toList
      | f => f.text.toList
    .error ("cannot open ".toList ++ path ++ ": ".toList ++ cause)

def isChecked : Command → Bool
  | .simple .. | .subshell .. | .pipeline _ => true
  | _ => false

def failing (st : Stance) (s : State) (status : Nat) : Bool :=
  s.has 'e' && !st.tested && status != 0

/-- A loop ends or goes on when one of its commands says so. -/
inductive Round
  | over (flow : Flow)
  | again

def roundAfter : Flow → Round
  | .next => .again
  | .stop loops => .over (if loops ≤ 1 then .next else .stop (loops - 1))
  | .skip loops => if loops ≤ 1 then .again else .over (.skip (loops - 1))
  | flow => .over flow

def leaveLoop (before : State) (done : State × Flow) : State × Flow :=
  (if done.2.isOrderly then { done.1 with loops := before.loops } else done.1, done.2)

def shownSetting (s : Text × Text) : Text := s.1 ++ '=' :: s.2

def assigned (onlyHere exported : Bool) (name value : Text) : Expanding Unit := do
  if onlyHere then modify fun s => s.remember name
  Expanding.assign name value
  if onlyHere || exported then modify fun s => s.exportVariable name

def builtinDone (before : State) (special : Bool) (done : State × Flow) : State × Flow :=
  let (s, flow) := done
  let s := { s with command := before.command }
  if flow = .fail ∧ special = false then
    ({ s.closeFrames before.frames.length with reached := before.reached }, .next)
  else (s, flow)

def closing (done : State × Flow) : State × Flow :=
  let (s, flow) := done
  match flow with
  | .gone _ | .killed _ => done
  | .leave => (s.withStatus (s.final.getD s.status), .next)
  | _ => (s, .next)

mutual

def execute : Nat → Stance → Command → State → State × Flow
  | 0, _, _, s => cutOff s
  | n + 1, st, c, s =>
    let (s, flow) := perform n st c s
    if flow.isOrderly && isChecked c && failing st s s.status then ({ s with final := none }, .leave)
    else (s, flow)

def perform : Nat → Stance → Command → State → State × Flow
  | 0, _, _, s => cutOff s
  | n + 1, st, c, s =>
    match c with
    | .nothing => (s, .next)
    | .simple line settings words redirections =>
      simple n st settings words redirections { s with line := line, substituted := 0 }
    | .sequence first second =>
      match execute n st.inner first s with
      | (s, .next) => execute n st second s
      | done => done
    | .both first second =>
      match execute n .test first s with
      | (s, .next) => if s.status = 0 then execute n st second s else (s, .next)
      | done => done
    | .either first second =>
      match execute n .test first s with
      | (s, .next) => if s.status = 0 then (s, .next) else execute n st second s
      | done => done
    | .negation body =>
      match execute n .test body s with
      | (s, .next) => (s.withStatus (if s.status = 0 then 1 else 0), .next)
      | done => done
    | .pipeline parts => piped n st parts (s.link? 0) s
    | .subshell line body redirections =>
      match (Expansion.settledAll (substitution n) redirections).run { s with line := line } with
      | .error done => done
      | .ok (redirections, s) =>
        afterwards s (closing (match (Expansion.redirectAll (substitution n) redirections).run s with
          | .error done => done
          | .ok (_, child) => execute n st.alone body child))
    | .redirected line body redirections =>
      match (Expansion.settledAll (substitution n) redirections).run { s with line := line } with
      | .error done => done
      | .ok (redirections, s) =>
        match (Expansion.redirectAll (substitution n) redirections).run s with
        | .error (t, .fail) =>
          let t := { t with links := s.links }
          if failing st t t.status then ({ t with final := none }, .leave) else (t, .next)
        | .error done => done
        | .ok (_, t) =>
          let (t, flow) := execute n st.inner body t
          ({ t with links := s.links }, flow)
    | .choice condition yes no =>
      match execute n .test condition s with
      | (s, .next) =>
        match if s.status = 0 then yes else no with
        | .nothing => (s.withStatus 0, .next)
        | branch => execute n st branch s
      | done => done
    | .loop whileTrue condition body =>
      leaveLoop s (rounds n st.inner whileTrue condition body 0 { s with loops := s.loops + 1 })
    | .each line name words body =>
      match (Expansion.allFields (substitution n) words).run { s with line := line } with
      | .error done => done
      | .ok ([], s) => (s.withStatus 0, .next)
      | .ok (values, s) =>
        leaveLoop s (each n st.inner name values body { s with loops := s.loops + 1 })
    | .select line word cases =>
      match (Expansion.text (substitution n) word).run { s with line := line } with
      | .error done => done
      | .ok (t, s) => firstCase n st t cases s
    | .define name body =>
      let functions := (name, body) :: s.functions.filter (·.1 != name)
      ({ s with functions := functions }.withStatus 0, .next)

/-- Runs the parts of a pipeline, each in a copy; the first one reads from the given link. All
of them see the status from before the pipeline. -/
def piped : Nat → Stance → List Command → Option Link → State → State × Flow
  | 0, _, _, _, s => cutOff s
  | _, _, [], _, s => (s, .next)
  | n + 1, st, c :: more, input, s =>
    let child := match input with
      | some link => s.connect 0 link
      | none => s.disconnect 0
    if more.isEmpty then afterwards s (closing (execute n st.alone c child))
    else
      let (world, sink) := s.world.openSink
      let child := { child with world := world }.connect 1 (.sink sink)
      match afterwards s (closing (execute n st.alone c child)) with
      | (t, .next) =>
        let (world, source) := t.world.openSource (t.world.sink sink)
        piped n st more (some (.source source)) ({ t with world := world }.withStatus s.status)
      | done => done

def rounds : Nat → Stance → Bool → Command → Command → Nat → State → State × Flow
  | 0, _, _, _, _, _, s => cutOff s
  | n + 1, st, whileTrue, condition, body, last, s =>
    let (s, flow) := execute n .test condition s
    match flow with
    | .next =>
      if (s.status == 0) != whileTrue then (s.withStatus last, .next)
      else
        let (s, flow) := execute n st body s
        match roundAfter flow with
        | .again => rounds n st whileTrue condition body s.status s
        | .over flow => (s, flow)
    | flow =>
      match roundAfter flow with
      | .again => rounds n st whileTrue condition body last s
      | .over .back => (s, .back)
      | .over flow => (if flow.isOrderly then s.withStatus last else s, flow)

def each : Nat → Stance → Text → List Text → Command → State → State × Flow
  | 0, _, _, _, _, s => cutOff s
  | _, _, _, [], _, s => (s, .next)
  | n + 1, st, name, value :: values, body, s =>
    match (Expanding.assign name value).run s with
    | .error done => done
    | .ok (_, s) =>
      let (s, flow) := execute n st body s
      match roundAfter flow with
      | .again => each n st name values body s
      | .over flow => (s, flow)

def firstCase : Nat → Stance → Text → List (List Word × Command) → State → State × Flow
  | 0, _, _, _, s => cutOff s
  | _, _, _, [], s => (s.withStatus 0, .next)
  | n + 1, st, t, ([], _) :: cases, s => firstCase n st t cases s
  | n + 1, st, t, (pattern :: patterns, body) :: cases, s =>
    match (Expansion.items (substitution n) pattern).run s with
    | .error done => done
    | .ok (items, s) =>
      if Pattern.fits items t then
        match body with
        | .nothing => (s.withStatus 0, .next)
        | body => execute n st body s
      else firstCase n st t ((patterns, body) :: cases) s

def wanted : Nat → Wanted → Expanding Wanted
  | 0, w => return w
  | n + 1, w => do
    let s ← get
    match Lookup.meaning s w.withFunctions (some []) (w.fields.headD []) with
    | .builtin special =>
      let w := { w with special := w.special.or (some special) }
      if w.fields.headD [] = "command".toList then
        match ← passOver n w with
        | (w, true) => wanted n { w with withFunctions := false }
        | (w, false) => return w
      else return w
    | _ => return w

def passOver : Nat → Wanted → Expanding (Wanted × Bool)
  | 0, w => return (w, false)
  | n + 1, w => do
    let before := w.passed ++ w.fields.take 1
    let (fields, rest) ← do
      match w.fields.drop 1 with
      | [] => Expansion.firstFields (substitution n) w.rest
      | fields => pure (fields, w.rest)
    let kept : Wanted := { w with fields := (before ++ fields).drop w.passed.length, rest := rest }
    let found (before fields : List Text) (rest : List Word) : Wanted :=
      { w with passed := before, fields := fields, rest := rest }
    match fields with
    | [] => return (kept, false)
    | option :: more =>
      if option = ['-', '-'] then
        let (fields, rest) ←
          if more.isEmpty then Expansion.firstFields (substitution n) rest else pure (more, rest)
        return if fields.isEmpty then (kept, false)
          else (found (before ++ [option]) fields rest, true)
      else if option.head? ≠ some '-' ∨ option.length = 1 then
        return (found before fields rest, true)
      else return (kept, false)

def simple : Nat → Stance → List Word → List Word → List Redirection → State → State × Flow
  | 0, _, _, _, _, s => cutOff s
  | n + 1, st, settings, words, redirections, s =>
    let prepared : Expanding Wanted := do
      let (fields, rest) ← Expansion.firstFields (substitution n) words
      if fields.isEmpty then return ⟨[], [], [], true, none⟩
      else
        let w ← wanted n ⟨[], fields, rest, true, none⟩
        let takesSettings := Lookup.isIn settingBuiltins (w.fields.headD [])
        let more ← Expansion.arguments (substitution n) takesSettings w.rest
        return { w with fields := w.fields ++ more, rest := [] }
    match prepared.run s with
    | .error done => done
    | .ok (w, s) =>
      let onlyHere := !w.fields.isEmpty && w.special != some true
      match (Expansion.settledAll (substitution n) redirections).run s with
      | .error done => done
      | .ok (redirections, s) =>
        let t := if onlyHere then s.openFrame else s
        match (Expansion.redirectAll (substitution n) redirections).run t with
        | .error (t, .fail) =>
          let t := { t.closeFrames s.frames.length with links := s.links }
          (t, if w.special = some true then .fail else .next)
        | .error done => done
        | .ok (_, t) =>
          let stays := w.fields.head? = some "exec".toList
          match (assignments n onlyHere (stays && w.fields.length != 1) settings).run t with
          | .error (t, flow) => ({ t with links := s.links }, flow)
          | .ok (values, t) =>
            let t := if t.has 'x' then trace n (values.map shownSetting ++ w.passed ++ w.fields) s t else t
            let (t, flow) := invoke n st w t
            let t := if flow.isOrderly then t.closeFrames s.frames.length else t
            (if stays && flow.isOrderly then t else { t with links := s.links }, flow)

def assignments : Nat → Bool → Bool → List Word → Expanding (List (Text × Text))
  | 0, _, _, _ => return []
  | _, _, _, [] => return []
  | n + 1, onlyHere, exported, w :: more => do
    let (name, value) ← Expansion.setting (substitution n) w
    assigned onlyHere exported name value
    return (name, value) :: (← assignments n onlyHere exported more)

def trace : Nat → List Text → State → State → State
  | 0, _, _, t => t
  | n + 1, shown, s, t =>
    let mark := (t.value? "PS4".toList).getD []
    let expanded : Expanding Text := do
      match Source.document? mark with
      | .ok w => Expansion.documentText (substitution n) w
      | .error _ => return mark
    let (mark, t) := match expanded.run { t with options := Setting.turn t.options 'x' false } with
      | .ok (mark, u) => (mark, { u with options := t.options })
      | .error _ => (mark, t)
    let line := mark ++ [' '].intercalate shown ++ ['\n']
    match s.link? 2 with
    | some link => { t with world := t.world.write link line }
    | none => t

def invoke : Nat → Stance → Wanted → State → State × Flow
  | 0, _, _, s => cutOff s
  | n + 1, st, w, s =>
    match w.fields with
    | [] => (s.withStatus s.substituted, .next)
    | name :: arguments =>
      match Lookup.meaning s w.withFunctions (s.value? State.searchPath) name with
      | .function body =>
        let (t, flow) := execute n st.inner body { s with arguments := arguments, loops := 0 }
        let t := { t with arguments := s.arguments, loops := s.loops }
        match flow with
        | .back => (t, .next)
        | flow => (t, flow)
      | .builtin _ =>
        builtinDone s (w.special == some true)
          (builtin n st name arguments { s with command := some name })
      | .program paths =>
        if st.last then replaced n name arguments paths s
        else
          match imageOf s (name :: arguments) .missing paths with
          | .error f => (unstarted name f s, .next)
          | .ok image =>
            let (world, ended) := launch n image s.surroundings s.world
            ((Builtin.mourn ended { s with world := world }).withStatus ended.status, .next)
      | .nothing f => ((s.complain (name ++ ": ".toList ++ Lookup.cause f)).withStatus 127, .next)

def replaced : Nat → Text → List Text → List Text → State → State × Flow
  | 0, _, _, _, s => cutOff s
  | n + 1, name, arguments, paths, s =>
    let s := { s with final := none }
    match imageOf s (name :: arguments) .missing paths with
    | .error f => (unstarted name f s, .leave)
    | .ok image =>
      let (world, ended) := launch n image s.surroundings s.world
      let s := { s with world := world }
      match ended with
      | .exited status => (s.withStatus status, .leave)
      | .killed k => (s, .gone k)

def builtin : Nat → Stance → Text → List Text → State → State × Flow
  | 0, _, _, _, s => cutOff s
  | n + 1, st, name, arguments, s =>
    match String.ofList name with
    | "eval" => script n st.tested ([' '].intercalate arguments) s
    | "." =>
      match Builtin.given ⟨[], []⟩ arguments with
      | .error complaint => s.mistaken complaint
      | .ok ⟨_, []⟩ => (s.withStatus 0, .next)
      | .ok ⟨_, file :: _⟩ =>
        match (scriptPath s file).bind fun path => (scriptText s path).map fun t => (path, t) with
        | .error complaint => s.mistaken complaint
        | .ok (path, text, s) =>
          let source := Source.ofText text 0
          let (t, flow) := lines n ⟨false, false⟩ false source { s with command := some path }
          let t := { t with reached := s.reached }
          match flow with
          | .back => (t, .next)
          | flow => (t, flow)
    | "exec" =>
      match Builtin.given ⟨[], []⟩ arguments with
      | .error complaint => s.mistaken complaint
      | .ok ⟨_, []⟩ => (s.withStatus 0, .next)
      | .ok ⟨_, name :: arguments⟩ =>
        let paths :=
          if name.contains '/' then [name]
          else (Launch.entries ((s.value? State.searchPath).getD [])).map fun entry =>
            Launch.within entry name
        replaced n name arguments paths s
    | _ =>
      match builtin? name with
      | some run => run arguments s
      | none => (s.withStatus 0, .next)

def script : Nat → Bool → Text → State → State × Flow
  | 0, _, _, s => cutOff s
  | n + 1, tested, text, s =>
    let (t, flow) := lines n ⟨tested, false⟩ false (Source.ofText text 0) s
    ({ t with reached := s.reached }, flow)

def lines : Nat → Stance → Bool → Source → State → State × Flow
  | 0, _, _, _, s => cutOff s
  | n + 1, st, began, source, s =>
    match { source with documents := [], next := s.nextDocument }.line? with
    | .error fault => misunderstood fault s
    | .ok (none, _) => (if began then s else s.withStatus 0, .next)
    | .ok (some c, after) =>
      let s :=
        { s with
          documents := after.documents ++ s.documents
          nextDocument := after.next
          reached := after.line }
      let isEmpty := match c with
        | .nothing => true
        | _ => false
      match execute n ⟨st.tested, st.last && after.isAtEnd⟩ c s with
      | (s, .next) => lines n st (began || !isEmpty) after s
      | done => done

def substitution : Nat → Command → Expanding Text
  | 0, _ => fun s => .error (cutOff s)
  | _, .nothing => return []
  | n + 1, body => fun s =>
    let (world, sink) := s.world.openSink
    let s := { s with world := world }
    let done := closing (execute n ⟨false, true⟩ body (s.connect 1 (.sink sink)))
    match afterwards s done with
    | (t, .next) =>
      .ok (substituted (t.world.sink sink), { t with status := s.status, substituted := t.status })
    | done => .error done

def launch : Nat → Launch.Image → Surroundings → World → World × Ended
  | 0, _, _, world => (world, .exited 255)
  | n + 1, image, around, world =>
    if image.program = .shell then
      let own := image.arguments.headD []
      match Startup.script world around own (image.arguments.drop 1) with
      | .error complaint =>
        (world.write (around.link 2) (own ++ ": 0: ".toList ++ complaint ++ ['\n']), .exited 2)
      | .ok (world, s) =>
        let text := s.text.filter (· != '\x00')
        let done := closing (lines n ⟨false, s.inLine⟩ false (Source.ofText text 0)
          (Startup.state world around s))
        (done.1.world, endedBy done)
    else utility image around world

end

end Evaluation

end FormatService.Shell
