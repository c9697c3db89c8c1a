import Mathlib.Logic.Function.Basic
import FormatService.Proofs.Host.Request

/-!
# Steady hosts

A host is steady if its answers are the same whenever they are asked for, except that a
text that was written is read from then on. What is asked for in between does not matter.
Every host in memory is steady.
-/

set_option autoImplicit false

namespace FormatService

/-- What a host answers to everything that it can be asked. -/
structure Replies where
  level : LogLevel
  directory : Path
  read : Path → Except Failure Text
  write : Path → Text → Except Failure Unit
  present : Path → Bool
  search : Tool → Option Path → Except Failure (Option String)
  run : String → List String → Path → Text → Except Failure Run

namespace Replies

def reading (read : Path → Except Failure Text) (a : Replies) : Replies := { a with read := read }

def filed (path : Path) (text : Text) (a : Replies) : Replies :=
  { a with read := Function.update a.read path (.ok text)
           present := Function.update a.present path true }

def after (a : Replies) : Event → Replies
  | .write path text =>
    match a.write path text with
    | .ok () => a.filed path text
    | .error _ => a
  | _ => a

def Sound (a : Replies) : Prop := ∀ path text, a.read path = .ok text → a.present path = true

theorem filed_of_present {a : Replies} {path : Path} (there : a.present path = true) (text : Text) :
    a.filed path text = a.reading (Function.update a.read path (.ok text)) := by
  rw [filed, ← there, Function.update_eq_self]
  rfl

end Replies

namespace Event

def isRead : Event → Bool
  | .read _ => true
  | _ => false

def isWrite : Event → Bool
  | .write _ _ => true
  | _ => false

def isLog : Event → Bool
  | .log _ => true
  | _ => false

def isEmit : Event → Bool
  | .emit _ => true
  | _ => false

theorem filter_eq_nil {kind : Event → Bool} {events : List Event}
    (h : ∀ e ∈ events, kind e = false) : events.filter kind = [] :=
  List.filter_eq_nil_iff.mpr fun e he => Bool.eq_false_iff.mp (h e he)

end Event

theorem Replies.after_of_not_isWrite {e : Event} (h : e.isWrite = false) (a : Replies) :
    a.after e = a := by
  cases e with
  | write path text => contradiction
  | _ => rfl

theorem Replies.after_write_of_ok {a : Replies} {path : Path} {text : Text}
    (h : a.write path text = .ok ()) : a.after (.write path text) = a.filed path text := by
  rw [after, h]

theorem Replies.after_write_of_error {a : Replies} {path : Path} {text : Text} {failure : Failure}
    (h : a.write path text = .error failure) : a.after (.write path text) = a := by
  rw [after, h]

theorem Replies.foldl_after_of_not_isWrite {events : List Event}
    (h : ∀ e ∈ events, e.isWrite = false) (a : Replies) : events.foldl after a = a := by
  induction events with
  | nil => rfl
  | cons e events ih =>
    rw [List.foldl_cons, after_of_not_isWrite (h e List.mem_cons_self)]
    exact ih fun e he => h e (List.mem_cons_of_mem _ he)

namespace Host

variable {σ : Type} [Host σ]

def replies (h : σ) : Replies where
  level := level h
  directory := directory h
  read path := (read path h).1
  write path text := (write path text h).1
  present path := present path h
  search tool root := answerSearch tool root h
  run command arguments directory input := (run command arguments directory input h).1

/-- The answers stay as they are, whatever is asked for, but for the texts that are written. -/
def Steady (h : σ) : Prop :=
  ∀ events, replies (serve events h) = events.foldl Replies.after (replies h)

namespace Steady

variable {h : σ}

theorem serve (steady : Steady h) (events : List Event) : Steady (serve events h) := by
  intro more
  rw [← serve_append, steady, steady, List.foldl_append]

theorem quiet (steady : Steady h) {events : List Event} (hw : ∀ e ∈ events, e.isWrite = false) :
    replies (Host.serve events h) = replies h := by
  rw [steady, Replies.foldl_after_of_not_isWrite hw]

end Steady

theorem steady_of_step (step : ∀ (h : σ) (e : Event), replies (serveOne h e) = (replies h).after e)
    (h : σ) : Steady h := by
  intro events
  induction events generalizing h with
  | nil => rfl
  | cons e events ih =>
    rw [List.foldl_cons, ← step]
    exact ih (serveOne h e)

end Host

namespace MemoryHost

open Host (replies serveOne)

theorem file?_setFile_self (h : MemoryHost) (path : Path) (text : Text) :
    (h.setFile path text).file? path = some text := by
  have others : (h.files.filter (·.1 != path)).find? (·.1 == path) = none := by simp
  rw [file?, setFile, List.find?_append, others]
  simp

theorem file?_setFile_of_ne (h : MemoryHost) {path other : Path} (apart : other ≠ path)
    (text : Text) : (h.setFile path text).file? other = h.file? other := by
  have last : [(path, text)].find? (·.1 == other) = none := by simp [apart.symm]
  have skipped : ∀ file : Path × Text,
      decide ((file.1 != path) = true ∧ (file.1 == other) = true) = (file.1 == other) := by
    intro file
    by_cases found : file.1 = other
    · simp [found, apart]
    · simp [found]
  rw [file?, setFile, List.find?_append, last, Option.or_none, List.find?_filter,
    funext skipped]
  rfl

theorem readFile_eq (path : Path) (h : MemoryHost) : readFile path h =
    (match h.file? path with
      | some text => .ok text
      | none => .error ⟨["Could not find file at path " ++ path.text]⟩, h.record (.read path)) := by
  have same : (h.record (.read path)).file? path = h.file? path := rfl
  rw [readFile, same]
  cases h.file? path <;> rfl

theorem writeFile_eq (path : Path) (text : Text) (h : MemoryHost) : writeFile path text h =
    if h.readOnly.contains path then
      (.error ⟨["Error writing file " ++ path.text, "read-only file"]⟩, h.record (.write path text))
    else (.ok (), (h.record (.write path text)).setFile path text) :=
  rfl

theorem runCommand_eq (command : String) (arguments : List String) (directory : Path)
    (input : Text) (h : MemoryHost) : runCommand command arguments directory input h =
      (match h.commands.find? (·.1 == command) with
        | some (_, handler) => .ok (handler.run input)
        | none => .error ⟨["Error starting " ++ command]⟩,
        h.record (.run command arguments directory input)) := by
  have same : (h.record (.run command arguments directory input)).commands = h.commands := rfl
  rw [runCommand, same]
  cases h.commands.find? (·.1 == command) <;> rfl

theorem replies_spoken (h : MemoryHost) (level : LogLevel) (events : List Event) :
    replies { h with level := level, events := events } = { replies h with level := level } := by
  rw [replies, replies, Replies.mk.injEq]
  refine ⟨rfl, rfl, ?_, ?_, rfl, rfl, ?_⟩
  · funext path
    change (readFile path _).1 = (readFile path h).1
    rw [readFile_eq, readFile_eq]
    rfl
  · funext path text
    change (writeFile path text _).1 = (writeFile path text h).1
    rw [writeFile_eq, writeFile_eq, apply_ite Prod.fst, apply_ite Prod.fst]
  · funext command arguments directory input
    change (runCommand command arguments directory input _).1 =
      (runCommand command arguments directory input h).1
    rw [runCommand_eq, runCommand_eq]

theorem replies_record (h : MemoryHost) (e : Event) : replies (h.record e) = replies h :=
  replies_spoken h h.level (h.events ++ [e])

theorem replies_setFile (h : MemoryHost) (path : Path) (text : Text) :
    replies (h.setFile path text) = (replies h).filed path text := by
  rw [Replies.filed, replies, Replies.mk.injEq]
  refine ⟨rfl, rfl, ?_, ?_, ?_, rfl, ?_⟩
  · funext other
    change (readFile other (h.setFile path text)).1 = _
    rw [readFile_eq]
    by_cases same : other = path
    · rw [same, file?_setFile_self, Function.update_self]
    · rw [file?_setFile_of_ne h same, Function.update_of_ne same]
      change _ = (readFile other h).1
      rw [readFile_eq]
  · funext other new
    change (writeFile other new (h.setFile path text)).1 = (writeFile other new h).1
    rw [writeFile_eq, writeFile_eq, apply_ite Prod.fst, apply_ite Prod.fst]
    rfl
  · funext other
    change ((h.setFile path text).file? other).isSome = _
    by_cases same : other = path
    · rw [same, file?_setFile_self, Function.update_self]
      rfl
    · rw [file?_setFile_of_ne h same, Function.update_of_ne same]
      rfl
  · funext command arguments directory input
    change (runCommand command arguments directory input (h.setFile path text)).1 =
      (runCommand command arguments directory input h).1
    rw [runCommand_eq, runCommand_eq]
    rfl

theorem replies_serveOne (h : MemoryHost) (e : Event) :
    replies (serveOne h e) = (replies h).after e := by
  cases e with
  | read path =>
    change replies (readFile path h).2 = _
    rw [readFile_eq]
    exact replies_record h _
  | write path text =>
    change replies (writeFile path text h).2 =
      match (writeFile path text h).1 with
      | .ok () => (replies h).filed path text
      | .error _ => replies h
    rw [writeFile_eq]
    split
    · exact replies_record h _
    · exact (replies_setFile _ path text).trans (by rw [replies_record])
  | run command arguments directory input =>
    change replies (runCommand command arguments directory input h).2 = _
    rw [runCommand_eq]
    exact replies_record h _
  | _ => exact replies_record h _

theorem steady (h : MemoryHost) : Host.Steady h := Host.steady_of_step replies_serveOne h

theorem sound (h : MemoryHost) : (replies h).Sound := by
  intro path text read
  change (readFile path h).1 = .ok text at read
  change (h.file? path).isSome = true
  rw [readFile_eq] at read
  cases found : h.file? path with
  | none =>
    rw [found] at read
    contradiction
  | some text => rfl

end MemoryHost

end FormatService
