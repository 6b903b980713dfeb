/-!
# Execution levels

The host calls the driver at one of two levels. At the passive level code may block; at the dispatch
level it may not.
-/

namespace PacketRadio

/-- The level some code runs at. -/
inductive Level
  | passive
  | dispatch
  deriving DecidableEq

namespace Level

/-- The word for the level. -/
def name : Level → String
  | passive => "PASSIVE"
  | dispatch => "DISPATCH"

/-- Code at this level may block. -/
def mayBlock : Level → Bool
  | passive => true
  | dispatch => false

end Level

end PacketRadio
