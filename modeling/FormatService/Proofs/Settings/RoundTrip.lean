import FormatService.Settings.Decode
import FormatService.Settings.Print
import FormatService.Proofs.Json.Occurrence
import FormatService.Proofs.Json.Spelling

/-!
# Settings that are written and read again

What is written spells an object of three members, and the settings of this object are those that
were written, whatever characters stand in the paths.
-/

set_option autoImplicit false

namespace FormatService

open Json (Value State Frame Takes Awaits Ends Spells)
open Relation (ReflTransGen)

theorem Tool.parse?_name (tool : Tool) : Tool.parse? tool.name = some tool := by
  cases tool <;> decide

namespace Settings

section Objects

variable {left : Nat} {members : List (String × Value)} {outer : List Frame} {rest : Text}

theorem takes_comma :
    Takes (.inside (.object left members (.member true)) outer, ',' :: rest)
      (.inside (.object left members (.member false)) outer, rest) :=
  .token (by decide) rfl (Nat.le_refl rest.length) rfl

theorem takes_close (comma : Bool) :
    Takes (.inside (.object left members (.member comma)) outer, '\x7d' :: rest)
      (State.complete (.object members.reverse) outer, rest) := by
  refine .token (by decide) rfl (Nat.le_refl rest.length) ?_
  cases comma <;> rfl

theorem takes_member {name : String} {text : Text} {v : Value} (spells : Spells text v)
    (ends : Ends rest) :
    ReflTransGen Takes
      (.inside (.object left members (.member false)) outer, printMember name text ++ rest)
      (.inside (.object left ((name, v) :: members) (.member true)) outer, rest) := by
  have parted : printMember name text ++ rest =
      Json.printString name.toList ++ ':' :: (text ++ rest) := by
    simp [printMember]
  have named : Takes
      (.inside (.object left members (.member false)) outer,
        Json.printString name.toList ++ ':' :: (text ++ rest))
      (.inside (.object left members (.colon name)) outer, ':' :: (text ++ rest)) :=
    Json.takes_string fun place => by simp [State.step, State.stepObject]
  have colon : Takes
      (.inside (.object left members (.colon name)) outer, ':' :: (text ++ rest))
      (.inside (.object left members (.value name)) outer, text ++ rest) :=
    .token (by decide) rfl (Nat.le_refl _) rfl
  rw [parted]
  exact .head named (.head colon (spells _ _ rest .member ends))

def opened (texts : List Text) (rest : Text) : Text :=
  (texts.intersperse [',']).flatten ++ '\x7d' :: rest

theorem opened_singleton (text : Text) : opened [text] rest = text ++ '\x7d' :: rest := by
  simp [opened]

theorem opened_cons (text next : Text) (texts : List Text) :
    opened (text :: next :: texts) rest = text ++ ',' :: opened (next :: texts) rest := by
  simp [opened]

theorem printObject_append (texts : List Text) :
    printObject texts ++ rest = '\x7b' :: opened texts rest := by
  simp [printObject, opened]

variable {ι : Type} {name : ι → String} {text : ι → Text} {value : ι → Value} {l : List ι}

theorem takes_members (each : ∀ i ∈ l, Spells (text i) (value i)) :
    ReflTransGen Takes
      (.inside (.object left members (.member false)) outer,
        opened (l.map fun i => printMember (name i) (text i)) rest)
      (State.complete (.object (members.reverse ++ l.map fun i => (name i, value i))) outer,
        rest) := by
  induction l generalizing members with
  | nil =>
    rw [List.map_nil, List.map_nil, List.append_nil]
    exact .single (takes_close false)
  | cons i l ih =>
    obtain ⟨first, each⟩ := List.forall_mem_cons.mp each
    have all : members.reverse ++ (i :: l).map (fun i => (name i, value i)) =
        ((name i, value i) :: members).reverse ++ l.map fun i => (name i, value i) := by
      simp
    rw [all]
    cases l with
    | nil =>
      rw [List.map_singleton, opened_singleton, List.map_nil, List.append_nil]
      exact (takes_member first (Json.ends_brace rest)).tail (takes_close true)
    | cons j l =>
      rw [List.map_cons, List.map_cons, opened_cons]
      exact ((takes_member first (Json.ends_comma _)).tail takes_comma).trans (ih each)

theorem spells_object (each : ∀ i ∈ l, Spells (text i) (value i)) :
    Spells (printObject (l.map fun i => printMember (name i) (text i)))
      (.object (l.map fun i => (name i, value i))) := by
  intro s outer rest awaits _
  rw [printObject_append]
  exact .head (.token (by decide) rfl (Nat.le_refl _) (awaits.step _)) (takes_members each)

end Objects

def pathsValue (paths : ToolPaths) : Value :=
  .object (paths.toList.map fun (tool, path) => (tool.name, .string path))

def toValue (settings : Settings) : Value :=
  .object [("tool", .string settings.tool.name), ("formatOnSave", .boolean settings.formatOnSave),
    ("toolPaths", pathsValue settings.toolPaths)]

theorem spells_paths (paths : ToolPaths) : Spells (printPaths paths) (pathsValue paths) :=
  spells_object fun entry _ => Json.spells_string entry.2

theorem spells_settings (settings : Settings) : Spells (print settings) (toValue settings) := by
  let members : List (String × Text × Value) :=
    [("tool", Json.printString settings.tool.name.toList, .string settings.tool.name),
     ("formatOnSave", if settings.formatOnSave then "true".toList else "false".toList,
       .boolean settings.formatOnSave),
     ("toolPaths", printPaths settings.toolPaths, pathsValue settings.toolPaths)]
  have each : ∀ m ∈ members, Spells m.2.1 m.2.2 := by
    simp only [members, List.forall_mem_cons]
    exact ⟨Json.spells_string _, Json.spells_boolean _, spells_paths _, nofun⟩
  have spelled : Spells (printObject (members.map fun m => printMember m.1 m.2.1))
      (.object (members.map fun m => (m.1, m.2.2))) := spells_object each
  simp only [members, List.map_cons, List.map_nil] at spelled
  exact spelled

theorem decodeMembers_paths (before : ToolPaths) (l : List (Tool × String)) :
    decodeMembers before (l.map fun (tool, path) => (tool.name, .string path)) =
      .ok (l.foldl (fun paths entry => paths.set entry.1 entry.2) before) := by
  induction l generalizing before with
  | nil => rfl
  | cons entry l ih =>
    simp [decodeMembers, decodeTool, decodeText, Tool.parse?_name, bind, Except.bind, ih]

theorem decodePaths_pathsValue (paths : ToolPaths) :
    decodePaths (pathsValue paths) = .ok paths := by
  have names : ((paths.toList.map fun (tool, path) => (tool.name, Value.string path)).map
      Prod.fst).Nodup := by
    obtain ⟨a, b, c⟩ := paths
    cases a <;> cases b <;> cases c <;>
      simp [ToolPaths.toList, ToolPaths.get, Tool.all, Tool.name]
  have all : paths.toList.foldl (fun paths entry => paths.set entry.1 entry.2) .empty = paths := by
    obtain ⟨a, b, c⟩ := paths
    cases a <;> cases b <;> cases c <;> rfl
  rw [pathsValue, decodePaths, Value.distinct_of_nodup names, decodeMembers_paths, all]

theorem ofValue_toValue (settings : Settings) : ofValue (toValue settings) = .ok settings := by
  rw [toValue, ofValue, Value.distinct_of_nodup (by simp)]
  simp [decodeObject, decodeMember, decodeTool, decodeBool, Tool.parse?_name,
    decodePaths_pathsValue, bind, Except.bind, pure, Except.pure]

theorem numbersFit_toValue (settings : Settings) : (toValue settings).numbersFit = true := by
  have paths : (pathsValue settings.toolPaths).numbersFit = true := by
    rw [pathsValue, Value.numbersFit, Value.membersFit_iff]
    intro m mem
    obtain ⟨entry, -, rfl⟩ := List.mem_map.mp mem
    rfl
  simp [toValue, Value.numbersFit, Value.membersFit, paths]

/-- Settings that are written are read as they were. -/
theorem parse_print (settings : Settings) : parse (print settings) = .ok settings := by
  rw [parse, (spells_settings settings).read]
  simp only [numbersFit_toValue, ofValue_toValue, if_true]

end Settings

end FormatService
