import FormatService.MemoryHost

/-!
# What is asked of a host

All that a program does to its host is a sequence of requests. Carrying them out one
after the other gives the host as it is afterwards, whatever kind of host it is, so what
is shown of the requests is shown of everything the host can notice.
-/

set_option autoImplicit false

namespace FormatService

namespace Event

def isNote : Event → Bool
  | .note _ => true
  | _ => false

def isSearch : Event → Bool
  | .search _ _ => true
  | _ => false

def isRun : Event → Bool
  | .run _ _ _ _ => true
  | _ => false

theorem not_isSearch_of_isNote (e : Event) (h : e.isNote = true) : (!e.isSearch) = true := by
  cases e with
  | search tool root => contradiction
  | _ => rfl

theorem not_isSearch_of_isRun (e : Event) (h : (e.isRun || e.isNote) = true) :
    (!e.isSearch) = true := by
  cases e with
  | search tool root => contradiction
  | _ => rfl

end Event

namespace Host

variable {σ : Type} [Host σ]

def serveOne (h : σ) : Event → σ
  | .log text => log text h
  | .note text => note text h
  | .emit text => emit text h
  | .read path => (read path h).2
  | .write path text => (write path text h).2
  | .search tool root => issueSearch tool root h
  | .run command arguments directory input => (run command arguments directory input h).2

def serve (events : List Event) (h : σ) : σ := events.foldl serveOne h

theorem serve_append (events more : List Event) (h : σ) :
    serve (events ++ more) h = serve more (serve events h) :=
  List.foldl_append

theorem events_serve (events : List Event) (h : MemoryHost) :
    (serve events h).events = h.events ++ events := by
  induction events generalizing h with
  | nil => exact (List.append_nil _).symm
  | cons e events ih =>
    have one : (serveOne h e).events = h.events ++ [e] := by
      cases e with
      | read path =>
        change (MemoryHost.readFile path h).2.events = _
        rw [MemoryHost.readFile]
        split <;> rfl
      | write path text =>
        change (MemoryHost.writeFile path text h).2.events = _
        rw [MemoryHost.writeFile]
        split <;> rfl
      | run command arguments directory input =>
        change (MemoryHost.runCommand command arguments directory input h).2.events = _
        rw [MemoryHost.runCommand]
        split <;> rfl
      | _ => rfl
    change (serve events (serveOne h e)).events = _
    rw [ih, one, List.append_assoc, List.singleton_append]

def Asked (kind : Event → Bool) (h h' : σ) : Prop :=
  ∃ events, (∀ e ∈ events, kind e = true) ∧ h' = serve events h

namespace Asked

variable {kind other : Event → Bool} {h h' h'' : σ}

theorem refl (h : σ) : Asked kind h h := ⟨[], by simp, rfl⟩

theorem one (e : Event) (he : kind e = true) (h : σ) : Asked kind h (serveOne h e) :=
  ⟨[e], by simpa using he, rfl⟩

theorem trans (first : Asked kind h h') (second : Asked kind h' h'') : Asked kind h h'' := by
  obtain ⟨events, he, rfl⟩ := first
  obtain ⟨more, hm, rfl⟩ := second
  refine ⟨events ++ more, ?_, (serve_append events more h).symm⟩
  intro e hmem
  rcases List.mem_append.mp hmem with hmem | hmem
  · exact he e hmem
  · exact hm e hmem

theorem mono (asked : Asked kind h h') (wider : ∀ e, kind e = true → other e = true) :
    Asked other h h' := by
  obtain ⟨events, he, rfl⟩ := asked
  exact ⟨events, fun e hmem => wider e (he e hmem), rfl⟩

end Asked

theorem debug_asked (text : String) (h : σ) : Asked Event.isNote h (debug text h) := by
  rw [debug]
  split
  · exact .one (.note _) rfl h
  · exact .refl h

theorem warn_asked (text : String) (h : σ) : Asked Event.isNote h (warn text h) := by
  rw [warn]
  split
  · exact .one (.note _) rfl h
  · exact .refl h

theorem complain_asked (text : String) (h : σ) : Asked Event.isNote h (complain text h) := by
  rw [complain]
  split
  · exact .one (.note _) rfl h
  · exact .refl h

end Host

end FormatService
