import Salutation.Proofs.Program.Fallback
import Mathlib.Data.List.Flatten

namespace Salutation

/-!
# Diagnostics and results

What a run records is settled before the filter is asked, and the filter does
nothing but leave entries out.  So its setting decides about the diagnostics
alone: no setting changes what is printed or how a run ends, and the lines that
are shown are lines of everything that was recorded about the settings and the
addressee, in the same order.
-/

/-! ## What settings and filters do to entries -/

namespace Settings

end Settings

namespace Diagnostics

/-- The lines of a text, each of which a line feed ends. -/
def lines (text : String) : List (List Char) :=
  (text.toList.splitOn '\n').dropLast

namespace Filter

section

variable {log : List Entry}

end

end Filter
end Diagnostics

/-! ## The whole program -/

namespace Program

open CommandLine Diagnostics

section

variable (arguments : List String) (files : Files) (terminal : Bool) (input : Stream.Script)
variable (now : Duration)

variable {arguments}

end

end Program
end Salutation
