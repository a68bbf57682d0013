import DotMatrix.Cartridge.Basic

/-!
# Battery saves

What a cartridge with a battery keeps while it is switched off: its RAM, followed by the clock
registers if it has a clock. A save may come without the clock block; the clock is then kept.
-/

namespace DotMatrix

namespace Cartridge

/-- Whether the cartridge keeps its RAM. -/
def hasSave (c : Cartridge) : Bool :=
  c.features.ram && c.features.battery

/-- The size of a battery save, 0 when there is none. -/
def saveSize (c : Cartridge) : Nat :=
  if c.hasSave then c.ramSize + (if c.features.clock then Clock.savedSize else 0) else 0

/-- The battery save of the cartridge. -/
def saveData (c : Cartridge) : Except Fault (Array UInt8) :=
  if !c.hasSave then .error .noSaveData
  else
    let ram := c.ram.extract 0 c.ramSize
    .ok (if c.features.clock then ram ++ c.clock.toBytes else ram)

/-- Whether `size` is the size of a save of this cartridge, with or without its clock block. -/
def acceptsSize (c : Cartridge) (size : Nat) : Bool :=
  size = c.ramSize || c.features.clock && size = c.ramSize + Clock.savedSize

/-- The cartridge with the contents of a battery save. -/
def loadSave (c : Cartridge) (data : Array UInt8) : Except Fault Cartridge :=
  if !c.hasSave then .error .noSaveData
  else if !c.acceptsSize data.size then .error (.saveSizeMismatch c.saveSize data.size)
  else .ok { c with
    ram := data.extract 0 c.ramSize ++ c.ram.extract c.ramSize c.ram.size
    clock :=
      if data.size = c.ramSize + Clock.savedSize then Clock.ofBytes data c.ramSize else c.clock }

/-- Whether a save of this size would leave the clock as it is although there is one. -/
def lacksClockBlock (c : Cartridge) (data : Array UInt8) : Bool :=
  c.hasSave && c.features.clock && data.size = c.ramSize

end Cartridge

end DotMatrix
