import FormatService.Settings.Decode
import FormatService.Host

/-!
# Finding the settings

Settings come from the file that was asked for, or else from `goformat.json` in
the current directory if there is one.
-/

set_option autoImplicit false

namespace FormatService.Settings

def defaultFile : Path := ⟨"goformat.json"⟩

inductive LookupFault
  | missing (path : Path)
  | unreadable (failure : Failure)
  | invalid (path : Path) (fault : Fault)

def LookupFault.failure : LookupFault → Failure
  | missing path => ⟨["Could not find config file at " ++ path.text]⟩
  | unreadable failure => failure
  | invalid path fault => ⟨("Error loading config at " ++ path.text) :: fault.chain⟩

variable {σ : Type} [Host σ]

def load (path : Path) (h : σ) : Except LookupFault Settings × σ :=
  let h := Host.debug ("Resolving config from " ++ path.text) h
  match Host.read path h with
  | (.error failure, h) => (.error (.unreadable failure), h)
  | (.ok text, h) =>
    match parse text with
    | .ok settings => (.ok settings, h)
    | .error fault => (.error (.invalid path fault), h)

def lookup (asked : Option Path) (h : σ) : Except LookupFault Settings × σ :=
  match asked with
  | some asked =>
    let path := (Host.directory h).join asked
    if Host.present path h then load path h else (.error (.missing path), h)
  | none =>
    let path := (Host.directory h).join defaultFile
    if Host.present path h then load path h
    else (.ok .default, Host.debug "No config file found. Using defaults." h)

end FormatService.Settings
