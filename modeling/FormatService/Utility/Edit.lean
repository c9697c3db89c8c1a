import FormatService.Utility.Basic
import FormatService.LineEditor.Evaluation

/-!
# Running the line editor

The arguments of the line editor: where its script is, how its files are treated, and
which files are edited.
-/

set_option autoImplicit false

namespace FormatService.Utility.Edit

open LineEditor

def known : Known := ⟨['n', 'E', 'r', 'u'], ['e', 'f']⟩

/-- The text of a file with a script. One that is there but cannot be read is taken for
empty. -/
def textOf (r : Reading) (name : Text) : Except SystemFault Text :=
  match r.read name with
  | .error .isDirectory | .error .closed => .ok []
  | found => found

def chunks (r : Reading) : Nat → List (Char × Text) → Except (Text × SystemFault) (List Chunk)
  | _, [] => .ok []
  | n, ('e', t) :: options => return ⟨.argument n, t⟩ :: (← chunks r (n + 1) options)
  | n, ('f', name) :: options => do
    match textOf r name with
    | .ok t =>
      let t := if t.getLast? = some '\n' then t.dropLast else t
      return ⟨.file name, t⟩ :: (← chunks r n options)
    | .error f => .error (name, f)
  | n, _ :: options => chunks r n options

def scriptAndFiles (r : Reading) (g : Given) :
    Except (Text × SystemFault) (Option (List Chunk) × List Text) := do
  if g.has 'e' || g.has 'f' then return (some (← chunks r 1 g.options), g.words)
  else
    match g.words with
    | [] => return (none, [])
    | t :: names => return (some [⟨.argument 1, t⟩], names)

def block : Nat := 4096

/-- What is left of the input when the editor stops. A file is left where the editor has
stopped; from anything else whole blocks have been taken. -/
def left (r : Reading) (e : Editor) : Text :=
  let rest := e.left
  if r.inputSize.isSome then rest
  else
    let read := r.left.length - rest.length
    r.left.drop ((read + block - 1) / block * block)

def written (program : Text) (r : Reading) (e : Editor) : Written :=
  let line (t : Text) : Text := program ++ ": ".toList ++ t ++ ['\n']
  let complaints := (e.complaints.reverse.map line).flatten
  match e.abort with
  | some a => ⟨e.out.text, complaints ++ line a.message, a.status, e.files, left r e⟩
  | none =>
    ⟨e.out.text, complaints, if e.complaints.isEmpty then e.status.getD 0 else 2, e.files, left r e⟩

def run (program : Text) (arguments : List Text) (r : Reading) : Written :=
  let failed (t : Text) (status : Nat) : Written :=
    ⟨[], program ++ ": ".toList ++ t ++ ['\n'], status, r.files, r.left⟩
  match given known arguments with
  | .error f => failed f.message 1
  | .ok g =>
    match scriptAndFiles r g with
    | .error (name, f) =>
      failed ("couldn't open file ".toList ++ name ++ ": ".toList ++ f.text.toList) 4
    | .ok (none, _) => failed "no script".toList 1
    | .ok (some chunks, names) =>
      match Script.parse (g.has 'E' || g.has 'r') (g.has 'n') chunks with
      | .error f => failed f.message f.status
      | .ok script =>
        let e := Editor.start script r.files r.directory r.input (orInput names)
        written program r (Editor.finish script e)

end FormatService.Utility.Edit
