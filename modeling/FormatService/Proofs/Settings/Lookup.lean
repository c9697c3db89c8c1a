import FormatService.MemoryHost
import FormatService.Machine.Basic
import FormatService.Settings.Lookup
import FormatService.Proofs.Json.Occurrence

/-!
# Where settings come from and why there may be none

The settings file is the one that was asked for or the one in the current directory. If it gives
no settings then the failure names it, as far as the host names the files it cannot read. One
fault is told from all others: the text is in order but for a number beyond every value.
-/

set_option autoImplicit false

namespace FormatService

namespace Failure

/-- The path stands in what is said about the failure. -/
def Names (f : Failure) (path : Path) : Prop := path.text.toList <:+: f.message.toList

theorem context_isPrefix (context : String) (causes : List String) :
    context.toList <+: (Failure.mk (context :: causes)).message.toList := by
  cases causes with
  | nil => simp [message]
  | cons cause causes => simp [message, String.intercalate_cons_cons, List.append_assoc]

theorem names_of_context (said : String) (path : Path) (causes : List String) :
    (Failure.mk ((said ++ path.text) :: causes)).Names path := by
  have inside : path.text.toList <:+: (said ++ path.text).toList := by
    rw [String.toList_append]
    exact (List.suffix_append _ _).isInfix
  exact inside.trans (context_isPrefix _ causes).isInfix

end Failure

def Host.Candid (σ : Type) [Host σ] : Prop :=
  ∀ (path : Path) (h : σ) (failure : Failure),
    (Host.read path h).1 = .error failure → failure.Names path

theorem MemoryHost.candid : Host.Candid MemoryHost := by
  intro path h failure refused
  change (MemoryHost.readFile path h).1 = _ at refused
  rw [MemoryHost.readFile] at refused
  split at refused
  · cases refused
  · cases refused
    exact Failure.names_of_context _ path []

theorem Machine.candid : Host.Candid Machine := by
  intro path m failure refused
  change (m.debug ("Reading file: " ++ path.text)).readFile path = _ at refused
  generalize m.debug ("Reading file: " ++ path.text) = m at refused
  have named (cause : String) :
      (Failure.mk ["Error reading file " ++ path.text, cause]).Names path :=
    Failure.names_of_context _ path [cause]
  simp only [Machine.readFile] at refused
  split at refused
  · cases refused
    exact named _
  split at refused
  · cases refused
    exact named _
  split at refused
  · cases refused
  · cases refused
    exact named _

namespace Settings

/-- Somewhere in the value of the text there is a number beyond every value. -/
def Overflows (text : Text) : Prop :=
  ∃ v literal, Json.read text = .ok (some v) ∧ Json.Value.Occurs (.number literal) v ∧
    Json.Number.ofLiteral? literal = none

theorem parse_eq_numberTooLarge_iff {text : Text} :
    parse text = .error .numberTooLarge ↔ Overflows text := by
  constructor
  · intro failed
    cases read : Json.read text with
    | error located => simp [parse, read] at failed
    | ok value =>
      cases value with
      | none => simp [parse, read] at failed
      | some v =>
        have unfit : ¬v.numbersFit = true := by
          intro fits
          cases decoded : ofValue v <;> simp [parse, read, fits, decoded] at failed
        obtain ⟨literal, unfit⟩ :=
          Classical.not_forall.mp (mt Json.Value.numbersFit_iff.mpr unfit)
        obtain ⟨inside, beyond⟩ := Classical.not_imp.mp unfit
        exact ⟨v, literal, read, inside, by simpa using beyond⟩
  · rintro ⟨v, literal, read, inside, beyond⟩
    have unfit : ¬v.numbersFit = true := fun fits => by simpa [beyond] using inside.fits fits
    simp [parse, read, unfit]

variable {σ : Type} [Host σ]

def file (asked : Option Path) (h : σ) : Path := (Host.directory h).join (asked.getD defaultFile)

def answer (file : Path) (h : σ) : Except Failure Text :=
  (Host.read file (Host.debug ("Resolving config from " ++ file.text) h)).1

inductive Unusable (file : Path) (h : σ) : LookupFault → Prop
  | missing (absent : Host.present file h = false) : Unusable file h (.missing file)
  | unreadable {failure : Failure} (present : Host.present file h = true)
    (refused : answer file h = .error failure) : Unusable file h (.unreadable failure)
  | invalid {text : Text} {fault : Fault} (present : Host.present file h = true)
    (read : answer file h = .ok text) (parsed : parse text = .error fault) :
    Unusable file h (.invalid file fault)

theorem load_fst (file : Path) (h : σ) : (load file h).1 =
    match answer file h with
    | .error failure => .error (.unreadable failure)
    | .ok text =>
      match parse text with
      | .ok settings => .ok settings
      | .error fault => .error (.invalid file fault) := by
  rw [load, answer]
  cases Host.read file (Host.debug ("Resolving config from " ++ file.text) h) with
  | mk answer h' =>
    cases answer with
    | error failure => rfl
    | ok text =>
      simp only
      cases parse text <;> rfl

theorem lookup_of_present {asked : Option Path} {h : σ}
    (present : Host.present (file asked h) h = true) :
    lookup asked h = load (file asked h) h := by
  cases asked with
  | none =>
    have present : Host.present ((Host.directory h).join defaultFile) h = true := present
    simp [lookup, present, file]
  | some path =>
    have present : Host.present ((Host.directory h).join path) h = true := present
    simp [lookup, present, file]

theorem unusable_of_lookup {asked : Option Path} {h : σ} {fault : LookupFault}
    (failed : (lookup asked h).1 = .error fault) : Unusable (file asked h) h fault := by
  cases present : Host.present (file asked h) h with
  | false =>
    cases asked with
    | none =>
      have absent : Host.present ((Host.directory h).join defaultFile) h = false := present
      simp [lookup, absent] at failed
    | some path =>
      have absent : Host.present ((Host.directory h).join path) h = false := present
      rw [lookup, absent] at failed
      cases failed
      exact .missing present
  | true =>
    rw [lookup_of_present present, load_fst] at failed
    cases read : answer (file asked h) h with
    | error failure =>
      rw [read] at failed
      cases failed
      exact .unreadable present read
    | ok text =>
      cases parsed : parse text with
      | ok settings => simp [read, parsed] at failed
      | error fault =>
        simp only [read, parsed, Except.error.injEq] at failed
        exact failed ▸ .invalid present read parsed

/-- The settings file is there and can be read, but a number in it is too large. -/
def Overloaded (asked : Option Path) (h : σ) : Prop :=
  Host.present (file asked h) h = true ∧
    ∃ text, answer (file asked h) h = .ok text ∧ Overflows text

theorem overloaded_iff {asked : Option Path} {h : σ} : Overloaded asked h ↔
    (lookup asked h).1 = .error (.invalid (file asked h) .numberTooLarge) := by
  constructor
  · rintro ⟨present, text, read, overflows⟩
    have parsed := parse_eq_numberTooLarge_iff.mpr overflows
    rw [lookup_of_present present, load_fst, read]
    simp only [parsed]
  · intro failed
    cases unusable_of_lookup failed with
    | invalid present read parsed =>
      exact ⟨present, _, read, parse_eq_numberTooLarge_iff.mp parsed⟩

section

variable {path : Path} {h : σ} {fault : LookupFault}

theorem Unusable.names (unusable : Unusable path h fault) (candid : Host.Candid σ) :
    fault.failure.Names path := by
  cases unusable with
  | missing absent => exact Failure.names_of_context _ path []
  | unreadable present refused => exact candid path _ _ refused
  | invalid present read parsed => exact Failure.names_of_context _ path _

theorem Unusable.located (unusable : Unusable path h fault) {text : Text}
    (present : Host.present path h = true) (read : answer path h = .ok text) :
    ("Error loading config at " ++ path.text).toList <+: fault.failure.message.toList := by
  cases unusable with
  | missing absent => simp [absent] at present
  | unreadable _ refused => simp [read] at refused
  | invalid _ _ _ => exact Failure.context_isPrefix _ _

end

end Settings

end FormatService
