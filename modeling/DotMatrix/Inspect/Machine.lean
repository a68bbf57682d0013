import DotMatrix.Console.Host
import DotMatrix.Inspect.Cartridge
import DotMatrix.Inspect.Devices
import DotMatrix.Inspect.Picture

/-!
# The machine, shown

The state of the bus and of the whole machine, the line that a trace has for every turn, and the
settings of a console.
-/

namespace DotMatrix

namespace Bus

/-- The bus with everything on it. -/
def inspect (b : Bus) : Report :=
  .fields [("wram", .digest b.wram), ("hram", .hex b.hram.toArray),
    ("cart", .optional Cartridge.inspect b.cart), ("if_reg", b.requests), ("ie_reg", b.enables),
    ("serial", b.link.inspect), ("ppu", b.video.inspect), ("apu", b.sound.inspect),
    ("timer", b.timer.inspect), ("input", b.joypad.inspect), ("key1", b.key1), ("svbk", b.svbk),
    ("undoc", .hex b.undocumented.toArray), ("system", b.model.tag), ("stall_cycles", b.stall)]

/-- The mode that the status register shows. -/
def shownMode (b : Bus) : UInt8 :=
  b.read 0xFF41 &&& 0x03

/-- The bus at a glance: the place in the frame, the speed, the interrupts and the divider. -/
def status (b : Bus) : Report :=
  .list [b.video.ly, b.shownMode, b.doubleSpeed, b.video.windowLine, b.video.nextCycles,
    b.video.lcdOn, b.requests, b.enables, b.timer.div]

end Bus

namespace Core

/-- The whole machine. -/
def inspect (m : Core) : Report :=
  .fields [("cpu", m.cpu.inspect), ("mmu", m.bus.inspect)]

/-- The processor and the interrupts in a line, behind the cycles that a turn has taken. -/
def traceLine (m : Core) (cycles : Nat) : String :=
  s!"{cycles} " ++ m.cpu.describe ++ s!" H:{m.cpu.halted.toNat} IF:" ++
    upperHex 2 m.bus.requests.toNat

end Core

/-- The trace line with the place in the frame. -/
def Console.traceLine (c : Console) (cycles : Nat) : String :=
  let b := c.core.bus
  c.core.traceLine cycles ++ s!" LY:{b.video.ly.toNat} M:{b.shownMode.toNat}"

/-! ## Settings -/

/-- The name of a choice of the model. -/
def ModelChoice.name : ModelChoice → String
  | auto => "auto"
  | fixed .dmg => "dmg"
  | fixed .sgb => "sgb"
  | fixed .gbc => "gbc"

/-- The name of what drives the clock. -/
def ClockDrive.name : ClockDrive → String
  | frames => "frame"
  | host => "none"

/-- The choice of the shades. -/
def PaletteChoice.inspect : PaletteChoice → Report
  | standard => .fields [("kind", "default")]
  | custom p => .fields (("kind", "custom") :: p.items)

/-- The settings. -/
def Settings.inspect (s : Settings) : Report :=
  .fields [("system_type", s.model.name), ("rtc_update", s.clockDrive.name),
    ("palette", s.palette.inspect), ("layers", s.layers.inspect), ("sample_rate", s.sampleRate)]

end DotMatrix
