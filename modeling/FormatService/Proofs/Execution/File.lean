import FormatService.Proofs.Execution.Start

/-!
# Formatting a file and saying so

With a coordinator that was rebuilt, what becomes of a file is decided by its text, by the
answer of the tool to it and by whether the file can be written. Nothing else is read, and
no other file is changed. At the end the files that were written are counted, and the ones
that have failed.
-/

set_option autoImplicit false

namespace FormatService

open Host (Steady replies)

/-- What becomes of a file, given how formatting its text and writing the new one come out. -/
def FileResult.of : Outcome → Except Failure Unit → FileResult
  | .formatted, .ok () => .written
  | .formatted, .error _ => .failed
  | .unchanged, _ => .kept
  | .skipped, _ => .kept
  | .toolNotFound, _ => .failed
  | .failed, _ => .failed

theorem FileResult.of_ok_eq_failed_iff (outcome : Outcome) :
    FileResult.of outcome (.ok ()) = .failed ↔ outcome = .toolNotFound ∨ outcome = .failed := by
  cases outcome <;> simp [FileResult.of]

namespace Event

variable {e : Event}

theorem harmless (h : (e.isSearch || e.isRun || e.isNote) = true) :
    e.isWrite = false ∧ e.isLog = false ∧ e.isEmit = false := by
  cases e with
  | search tool root => exact ⟨rfl, rfl, rfl⟩
  | run command arguments directory input => exact ⟨rfl, rfl, rfl⟩
  | note text => exact ⟨rfl, rfl, rfl⟩
  | _ => contradiction

theorem silent (h : (e.isWrite || e.isNote) = true) :
    e.isRun = false ∧ e.isLog = false ∧ e.isEmit = false := by
  cases e with
  | write path text => exact ⟨rfl, rfl, rfl⟩
  | note text => exact ⟨rfl, rfl, rfl⟩
  | _ => contradiction

end Event

namespace Execution

variable {σ : Type} [Host σ] {c : Coordinator σ}

def opened (file : Path) (text : Text) : Buffer := .ofDocument (Document.new text (some file))

theorem fail_trace (c : Coordinator σ) (text : String) :
    ∃ notes, c.onHost (Host.complain text) = { c with host := Host.serve notes c.host } ∧
      ∀ e ∈ notes, e.isNote = true := by
  obtain ⟨notes, kinds, noted⟩ := Host.complain_asked text c.host
  exact ⟨notes, congrArg (fun h => { c with host := h }) noted, kinds⟩

theorem save_trace (file : Path) (text : Text) (c : Coordinator σ) :
    ∃ notes, save file text c = ({ c with host := Host.serve (.write file text :: notes) c.host },
        .of .formatted (Host.write file text c.host).1) ∧
      ∀ e ∈ notes, e.isNote = true := by
  have one : Host.serve [.write file text] c.host = (Host.write file text c.host).2 := rfl
  rw [save]
  cases answer : Host.write file text c.host with
  | mk result h =>
    rw [answer] at one
    cases result with
    | ok =>
      exact ⟨[], congrArg (fun h => ({ c with host := h }, FileResult.written)) one.symm, by simp⟩
    | error failure =>
      obtain ⟨notes, failed, kinds⟩ := fail_trace { c with host := h } failure.message
      refine ⟨notes, ?_, kinds⟩
      rw [← List.singleton_append, Host.serve_append, one]
      exact congrArg (·, FileResult.failed) failed

theorem fail_eq (steady : Steady c.host) (text : String) :
    ∃ asked, c.onHost (Host.complain text) = { c with host := Host.serve asked c.host } ∧
      (∀ e ∈ asked, (e.isWrite || e.isNote) = true) ∧
      replies (Host.serve asked c.host) = replies c.host := by
  obtain ⟨notes, failed, kinds⟩ := fail_trace c text
  refine ⟨notes, failed, ?_, ?_⟩
  · exact fun e he => by rw [kinds e he, Bool.or_true]
  · exact steady.quiet fun e he => Event.not_isWrite_of_quiet (by rw [kinds e he, Bool.or_true])

theorem save_eq (steady : Steady c.host) (file : Path) (text : Text) :
    ∃ asked, save file text c = ({ c with host := Host.serve asked c.host },
        .of .formatted ((replies c.host).write file text)) ∧
      (∀ e ∈ asked, (e.isWrite || e.isNote) = true) ∧
      replies (Host.serve asked c.host) = (replies c.host).after (.write file text) := by
  obtain ⟨notes, saved, kinds⟩ := save_trace file text c
  refine ⟨.write file text :: notes, saved, List.forall_mem_cons.mpr ⟨rfl, ?_⟩, ?_⟩
  · exact fun e he => by rw [kinds e he, Bool.or_true]
  · have quiet : ∀ e ∈ notes, e.isWrite = false :=
      fun e he => Event.not_isWrite_of_quiet (by rw [kinds e he, Bool.or_true])
    rw [← List.singleton_append, Host.serve_append, (steady.serve _).quiet quiet]
    exact steady [.write file text]

theorem formatText_of_format {file : Path} {text : Text} {c' : Coordinator σ} {b : Buffer}
    {outcome : Outcome} (steady : Steady c'.host)
    (formatted : c.format (opened file text) none none = (c', b, outcome)) :
    ∃ asked, formatText file text c = ({ c' with host := Host.serve asked c'.host },
        .of outcome ((replies c'.host).write file b.document.text)) ∧
      (∀ e ∈ asked, (e.isWrite || e.isNote) = true) ∧
      replies (Host.serve asked c'.host) =
        if outcome = .formatted then (replies c'.host).after (.write file b.document.text)
        else replies c'.host := by
  obtain ⟨notes, complained, kinds, same⟩ := fail_eq steady ("Error formatting " ++ file.text)
  have failed := congrArg (·, FileResult.failed) complained
  rw [opened] at formatted
  rw [formatText, formatted]
  cases outcome with
  | formatted => exact save_eq steady file b.document.text
  | unchanged => exact ⟨[], rfl, by simp, rfl⟩
  | skipped => exact ⟨[], rfl, by simp, rfl⟩
  | toolNotFound => exact ⟨notes, failed, kinds, same⟩
  | failed => exact ⟨notes, failed, kinds, same⟩

/-- A coordinator handles a file with a text as the request to format the text ends: a command is run
for the text at most, a new text is written, and nothing is said on standard output. -/
structure Handles (c : Coordinator σ) (file : Path) (text : Text) (asked : List Event)
    (ended : Coordinator σ × FileResult) : Prop where
  ended : let r := c.format (opened file text) none none
    ended = ({ c with host := Host.serve asked c.host },
      .of r.2.2 ((replies c.host).write file r.2.1.document.text))
  silent : ∀ e ∈ asked, e.isLog = false ∧ e.isEmit = false
  runs : asked.filter Event.isRun = (c.call? (opened file text)).toList.map ToolCall.event
  left : let r := c.format (opened file text) none none
    replies (Host.serve asked c.host) =
      if r.2.2 = .formatted then (replies c.host).after (.write file r.2.1.document.text)
      else replies c.host

theorem formatText_handles (rebuilt : c.Rebuilt) (steady : Steady c.host) (file : Path)
    (text : Text) : ∃ asked, Handles c file text asked (formatText file text c) := by
  let r := c.format (opened file text) none none
  obtain ⟨before, stays, kinds, runs, -⟩ := rebuilt.format steady (b := opened file text) rfl
  have same : replies (Host.serve before c.host) = replies c.host :=
    steady.quiet fun e he => (Event.harmless (kinds e he)).1
  have formatted : r = ({ c with host := Host.serve before c.host }, r.2) := by rw [← stays]
  obtain ⟨after, done, late, left⟩ := formatText_of_format (steady.serve before) formatted
  rw [← Host.serve_append, same] at done left
  refine ⟨before ++ after, done, ?_, ?_, left⟩
  · exact List.forall_mem_append.mpr ⟨fun e he => (Event.harmless (kinds e he)).2,
      fun e he => (Event.silent (late e he)).2⟩
  · have none : after.filter Event.isRun = [] :=
      Event.filter_eq_nil fun e he => (Event.silent (late e he)).1
    rw [List.filter_append, runs, none, List.append_nil]

theorem formatFile_of_unreadable (steady : Steady c.host) {file : Path} {failure : Failure}
    (unread : (replies c.host).read file = .error failure) :
    ∃ asked, formatFile file c = ({ c with host := Host.serve asked c.host }, .failed) ∧
      (∀ e ∈ asked, e.isLog = false ∧ e.isEmit = false) ∧
      replies (Host.serve asked c.host) = replies c.host := by
  let h := Host.serve [.read file] c.host
  have same : replies h = replies c.host := steady [.read file]
  have answered : Host.read file c.host = (.error failure, h) := Prod.ext unread rfl
  obtain ⟨notes, failed, kinds, kept⟩ := fail_eq (c := { c with host := h })
    (steady.serve [.read file]) failure.message
  rw [formatFile, answered]
  refine ⟨.read file :: notes, congrArg (·, FileResult.failed) failed, ?_, kept.trans same⟩
  exact List.forall_mem_cons.mpr ⟨⟨rfl, rfl⟩, fun e he => (Event.silent (kinds e he)).2⟩

theorem formatFile_handles (rebuilt : c.Rebuilt) (steady : Steady c.host) {file : Path}
    {text : Text} (there : (replies c.host).read file = .ok text) :
    ∃ asked, Handles c file text asked (formatFile file c) := by
  let h := Host.serve [.read file] c.host
  have same : replies h = replies c.host := steady [.read file]
  have answered : Host.read file c.host = (.ok text, h) := Prod.ext there rfl
  have steady' : Steady h := steady.serve [.read file]
  obtain ⟨outcome, written⟩ := rebuilt.format_move steady steady' same (b := opened file text) rfl
  obtain ⟨asked, done, silent, runs, left⟩ := formatText_handles (c := { c with host := h })
    (rebuilt.move same) steady' file text
  rw [Coordinator.Rebuilt.call?_move same] at runs
  simp only [same, outcome, written] at done left
  refine ⟨.read file :: asked, ?_, List.forall_mem_cons.mpr ⟨⟨rfl, rfl⟩, silent⟩, runs, left⟩
  rw [formatFile, answered]
  exact done

def announcement (n : Nat) : List Event :=
  if n = 0 then [] else [.log ("Formatted " ++ counted n "file" "files" ++ ".")]

theorem announce_eq (n : Nat) (h : σ) : announce n h = Host.serve (announcement n) h := by
  rw [announce, announcement]
  split <;> rfl

theorem not_isWrite_announcement (n : Nat) : ∀ e ∈ announcement n, e.isWrite = false := by
  rw [announcement]
  split
  · exact fun _ he => absurd he List.not_mem_nil
  · exact fun _ he => List.mem_singleton.mp he ▸ rfl

theorem filter_isRun_announcement (n : Nat) : (announcement n).filter Event.isRun = [] := by
  rw [announcement]
  split <;> rfl

theorem filter_isLog_announcement (n : Nat) :
    (announcement n).filter Event.isLog = announcement n := by
  rw [announcement]
  split <;> rfl

theorem verdict_eq_done_iff (failures : Nat) : verdict failures = .done ↔ failures = 0 := by
  rw [verdict]
  split
  · next none => exact ⟨fun _ => none, fun _ => rfl⟩
  · next some => exact ⟨nofun, fun none => absurd none some⟩

end Execution

end FormatService
