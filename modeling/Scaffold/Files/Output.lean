import Scaffold.Files.Action
import Scaffold.Files.Resolve

/-! # Output files

Generated files go into one directory, the base. An output path is resolved first, so that neither
double dots nor links lead out of it.
-/

namespace Scaffold

/-- Whether a path is `base` or lies below it. -/
def Path.isWithin (p base : Path) : Bool := p.anchor = base.anchor ∧ base.parts.isPrefixOf p.parts

namespace Output

/-- The location of an output path inside the base, which is the working directory unless another
one is given. -/
def locate (d : Disk) (written : String) (base : Option Path) : Except Failure Path := do
  let base ← d.resolve (base.getD d.currentPath)
  let target ← d.resolve (base.join (Path.ofString written))
  if target.isWithin base then return target else throw (.complaint (.outsideBase written))

/-- The location of an output path whose names the system can be asked for. -/
def target (d : Disk) (written : String) (base : Option Path) : Except Failure Path := do
  let start := base.getD d.currentPath
  d.probe start
  d.probe ((← d.resolve start).join (Path.ofString written))
  locate d written base

/-- Writes a file inside the base, and the directories above it. -/
def write (written : String) (text : List Text.Point) (base : Option Path) : Action Path := do
  let place ← (target (← get) written base : Except Failure Path)
  Action.ensureDirectories place.parent
  Action.writeText place text
  return place

end Output

end Scaffold
