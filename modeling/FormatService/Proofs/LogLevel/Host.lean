import FormatService.Proofs.Host.Quieter

/-!
# Hosts in memory of different loudness

Two hosts in memory that differ in nothing but their log level answer alike. Of what is noted
on the louder one, a part is missing in the record of the other one.
-/

set_option autoImplicit false

namespace FormatService

/-- A record from which notes of another one are missing, and nothing else. -/
structure Muffled (quiet loud : List Event) : Prop where
  heard : quiet.Sublist loud
  others : quiet.filter (!·.isNote) = loud.filter (!·.isNote)

namespace Muffled

variable {quiet loud : List Event}

theorem refl (events : List Event) : Muffled events events := ⟨.refl events, rfl⟩

theorem append (h : Muffled quiet loud) (e : Event) : Muffled (quiet ++ [e]) (loud ++ [e]) :=
  ⟨h.heard.append_right [e], by rw [List.filter_append, List.filter_append, h.others]⟩

theorem note (h : Muffled quiet loud) (text : String) : Muffled quiet (loud ++ [.note text]) :=
  ⟨h.heard.trans (List.sublist_append_left ..), by
    rw [List.filter_append, h.others]
    exact (List.append_nil _).symm⟩

end Muffled

namespace MemoryHost

def speaking (level : LogLevel) (h : MemoryHost) : MemoryHost := { h with level := level }

/-- Two hosts that differ in their levels and in the notes that were taken, and in nothing else. -/
structure Muffles (quiet loud : LogLevel) (q v : MemoryHost) : Prop where
  level : q.level = quiet
  same : v = { q with level := loud, events := v.events }
  events : Muffled q.events v.events

namespace Muffles

variable {quiet loud : LogLevel} {q v : MemoryHost}

theorem speaking (quiet loud : LogLevel) (h : MemoryHost) :
    Muffles quiet loud (h.speaking quiet) (h.speaking loud) :=
  ⟨rfl, rfl, .refl h.events⟩

theorem record (m : Muffles quiet loud q v) (e : Event) :
    Muffles quiet loud (q.record e) (v.record e) :=
  ⟨m.level, by rw [m.same]; rfl, m.events.append e⟩

theorem setFile (m : Muffles quiet loud q v) (path : Path) (text : Text) :
    Muffles quiet loud (q.setFile path text) (v.setFile path text) :=
  ⟨m.level, by rw [m.same]; rfl, m.events⟩

end Muffles

theorem quieter {quiet loud : LogLevel} (louder : loud.rank ≤ quiet.rank) :
    Host.Quieter (Muffles quiet loud) where
  louder := by
    intro q v m
    rw [m.same]
    change loud.rank ≤ q.level.rank
    rw [m.level]
    exact louder
  replies := by
    intro q v m
    rw [m.same]
    exact replies_spoken q loud v.events
  serve := by
    intro q v m e
    cases e with
    | read path =>
      change Muffles quiet loud (readFile path q).2 (readFile path v).2
      rw [readFile_eq, readFile_eq]
      exact m.record _
    | write path text =>
      change Muffles quiet loud (writeFile path text q).2 (writeFile path text v).2
      have readOnly : v.readOnly = q.readOnly := by rw [m.same]
      rw [writeFile_eq, writeFile_eq, readOnly]
      split
      · exact m.record _
      · exact (m.record _).setFile path text
    | run command arguments directory input =>
      change Muffles quiet loud (runCommand command arguments directory input q).2
        (runCommand command arguments directory input v).2
      rw [runCommand_eq, runCommand_eq]
      exact m.record _
    | _ => exact m.record _
  note := fun m text => ⟨m.level, by rw [m.same]; rfl, m.events.note text⟩

end MemoryHost

end FormatService
