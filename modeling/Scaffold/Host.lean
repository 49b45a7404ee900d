import Scaffold.Failure
import Scaffold.Value

/-! # Hosts

What a run depends on that lies with the machine it is on: how surrogates are stood for in its
texts, and how far its stack goes. The stack is left open. A document or a value may be nested too
deep for it, which ends the reading or the writing of it.
-/

namespace Scaffold

structure Host where
  standIns : Text.StandIns := .usual
  /-- Documents that are nested too deep to be read. -/
  isTooDeep : List Char → Bool := fun _ => false
  /-- Values that are nested too deep to be written. -/
  isTooDeepToWrite : Value → Bool := fun _ => false

namespace Host

def code (h : Host) : Char → Nat := h.standIns.code

/-- The text of a value. -/
def write (h : Host) (v : Value) : Except Fault String :=
  if h.isTooDeepToWrite v then .error .exhausted
  else if v.isShort then .ok (v.display h.code)
  else .error .longNumber

end Host

end Scaffold
