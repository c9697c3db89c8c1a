import FormatService.Proofs.Host.Steady

/-!
# Files that only writing changes

However the files of a host are looked at, nothing that is asked of it changes one of them
but a write, and this one just the file that is written, if it succeeds.
-/

set_option autoImplicit false

namespace FormatService

namespace Host

variable {σ : Type} [Host σ]

/-- A view of the files of a host in which a file only changes when it is written. -/
structure Filing (file : σ → Path → Option Text) : Prop where
  kept : ∀ (h : σ) (e : Event), e.isWrite = false → file (serveOne h e) = file h
  saved : ∀ (h : σ) (path : Path) (text : Text), (write path text h).1 = .ok () →
    file (write path text h).2 = Function.update (file h) path (some text)
  refused : ∀ (h : σ) (path : Path) (text : Text) (failure : Failure),
    (write path text h).1 = .error failure → file (write path text h).2 = file h

theorem Filing.quiet {file : σ → Path → Option Text} (filing : Filing file) {events : List Event}
    (none : ∀ e ∈ events, e.isWrite = false) (h : σ) : file (serve events h) = file h := by
  induction events generalizing h with
  | nil => rfl
  | cons e events ih =>
    change file (serve events (serveOne h e)) = _
    rw [ih fun e he => none e (List.mem_cons_of_mem _ he),
      filing.kept h e (none e List.mem_cons_self)]

theorem Filing.write {file : σ → Path → Option Text} (filing : Filing file) (path : Path)
    (text : Text) (h : σ) : file (Host.write path text h).2 =
      ((Host.write path text h).1.toOption.map fun _ => text).elim (file h) fun text =>
        Function.update (file h) path (some text) := by
  cases answer : (Host.write path text h).1 with
  | ok => exact filing.saved h path text answer
  | error failure => exact filing.refused h path text failure answer

end Host

namespace MemoryHost

theorem filing : Host.Filing file? where
  kept := by
    intro h e none
    cases e with
    | write path text => contradiction
    | read path =>
      change (readFile path h).2.file? = _
      rw [readFile_eq]
      rfl
    | run command arguments directory input =>
      change (runCommand command arguments directory input h).2.file? = _
      rw [runCommand_eq]
      rfl
    | _ => rfl
  saved := by
    intro h path text ok
    change (writeFile path text h).2.file? = _
    change (writeFile path text h).1 = _ at ok
    rw [writeFile_eq] at ok ⊢
    split at ok
    · contradiction
    · next writable =>
      rw [if_neg writable]
      funext other
      by_cases same : other = path
      · rw [same, file?_setFile_self, Function.update_self]
      · rw [file?_setFile_of_ne _ same, Function.update_of_ne same]
        rfl
  refused := by
    intro h path text failure failed
    change (writeFile path text h).2.file? = _
    change (writeFile path text h).1 = _ at failed
    rw [writeFile_eq] at failed ⊢
    split at failed
    · next readOnly =>
      rw [if_pos readOnly]
      rfl
    · contradiction

end MemoryHost

end FormatService
