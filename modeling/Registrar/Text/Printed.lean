import Registrar.Text.Graphic
import Registrar.Text.Mark

namespace Registrar.Text

/-!
# Characters that print something of their own

* `fillers` — letters without a shape, which stand in for parts of a syllable;
* `isPrinted` — whether a character has a shape and does not belong to the character
  before it.
-/

/-- The letters that only fill the place of a part of a syllable. -/
def fillers : Ranges := [(0x115F, 0x1160), (0x3164, 0x3164), (0xFFA0, 0xFFA0)]

/-- Whether a character prints something of its own. -/
def isPrinted (c : Char) : Bool := isGraphic c && !isExtending c && !fillers.hold c

end Registrar.Text
