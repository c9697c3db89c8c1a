import FormatService.Utility.Concatenate
import FormatService.Utility.Count
import FormatService.Utility.Edit

/-!
# Running utilities
-/

set_option autoImplicit false

namespace FormatService.Utility

def run (u : Utility) (program : Text) (arguments : List Text) (r : Reading) : Written :=
  match u with
  | .counter => Count.run program arguments r
  | .lineEditor => Edit.run program arguments r
  | _ => Concatenate.run program arguments r

end FormatService.Utility
