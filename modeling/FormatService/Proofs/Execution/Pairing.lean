import FormatService.Proofs.Coordinator.Pairing
import FormatService.Proofs.Execution.File

/-!
# Runs of coordinators that format alike

Where two coordinators are related that format every file of a run alike, the whole run comes
to the same with both of them.
-/

set_option autoImplicit false

namespace FormatService.Execution

open Coordinator (Pairing)
open Host (Quieter)

variable {σ : Type} [Host σ] {R : σ → σ → Prop} {T : Coordinator σ → Coordinator σ → Prop}

/-- The coordinators of a pair format a file alike, whatever its text is. -/
def Alike (T : Coordinator σ → Coordinator σ → Prop) (file : Path) : Prop :=
  ∀ {c d : Coordinator σ}, T c d → ∀ text,
    Matched T Eq (c.format (opened file text) none none) (d.format (opened file text) none none)

variable (quieter : Quieter R) (pairing : Pairing R T) {c d : Coordinator σ} (pair : T c d)
include quieter pairing pair

theorem save_paired (file : Path) (text : Text) :
    Matched T Eq (save file text c) (save file text d) := by
  rw [save, save]
  refine (quieter.write (pairing.hosts pair) file text).elim ?_
  rintro answer q _ v rfl r
  cases answer with
  | ok done => exact ⟨pairing.move pair r, rfl⟩
  | error failure => exact ⟨pairing.move pair (quieter.complain r _), rfl⟩

theorem formatText_paired {file : Path} (alike : Alike T file) (text : Text) :
    Matched T Eq (formatText file text c) (formatText file text d) := by
  have formats := alike pair text
  rw [opened] at formats
  rw [formatText, formatText]
  refine formats.elim ?_
  rintro c ⟨b, outcome⟩ d _ pair rfl
  cases outcome with
  | formatted => exact save_paired quieter pairing pair file b.document.text
  | unchanged => exact ⟨pair, rfl⟩
  | skipped => exact ⟨pair, rfl⟩
  | _ => exact ⟨pairing.onHost pair fun r => quieter.complain r _, rfl⟩

theorem formatFile_paired {file : Path} (alike : Alike T file) :
    Matched T Eq (formatFile file c) (formatFile file d) := by
  rw [formatFile, formatFile]
  refine (quieter.read (pairing.hosts pair) file).elim ?_
  rintro answer q _ v rfl r
  cases answer with
  | ok text => exact formatText_paired quieter pairing (pairing.move pair r) alike text
  | error failure => exact ⟨pairing.move pair (quieter.complain r _), rfl⟩

theorem formatFiles_paired {files : List Path} (alike : ∀ file ∈ files, Alike T file) :
    Matched T Eq (formatFiles files c) (formatFiles files d) := by
  induction files generalizing c d with
  | nil => exact ⟨pair, rfl⟩
  | cons file files ih =>
    rw [formatFiles, formatFiles]
    refine (formatFile_paired quieter pairing pair (alike file List.mem_cons_self)).elim ?_
    rintro c result d _ pair rfl
    simp only
    refine (ih pair fun file h => alike file (List.mem_cons_of_mem _ h)).elim ?_
    rintro c results d _ pair rfl
    exact ⟨pair, rfl⟩

theorem format_paired {files : List String} (alike : ∀ file ∈ files, Alike T (place c.host file)) :
    Matched Eq R (format files c) (format files d) := by
  have paths : ∀ file ∈ files.map (place c.host), Alike T file := by simpa using alike
  have directory := quieter.directory (pairing.hosts pair)
  rw [format, format, directory]
  refine (formatFiles_paired quieter pairing pair paths).elim ?_
  rintro c results d _ pair rfl
  refine ⟨rfl, ?_⟩
  simp only [announce]
  split
  · exact pairing.hosts pair
  · exact quieter.serve (pairing.hosts pair) (.log _)

theorem formatInput_paired {file : String} (alike : Alike T (place c.host file)) (text : Text) :
    Matched Eq R (formatInput file text c) (formatInput file text d) := by
  have directory := quieter.directory (pairing.hosts pair)
  have formats := alike pair text
  rw [opened, place] at formats
  rw [formatInput, formatInput, directory]
  refine formats.elim ?_
  rintro c ⟨b, outcome⟩ d _ pair rfl
  have emitted := quieter.serve (pairing.hosts pair) (.emit b.document.text)
  cases outcome with
  | _ => exact ⟨rfl, emitted⟩

end FormatService.Execution
