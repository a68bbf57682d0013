import DotMatrix.Sound.Trigger

/-!
# Sound registers on the bus

Reads return the bits that can be read, with ones for the others. Writes reach the wave memory
always and the other registers only with power; some have an effect before the value is stored
(`beforeStore`), some after it (`afterStore`). The wave memory of a playing channel shows only the
byte being played, and on early models only for a moment.
-/

namespace DotMatrix

namespace Sound

/-- What a register is for, as far as writing it has an effect of its own. -/
inductive Role
  | length (ch : Channel)
  | envelope (ch : Channel)
  | control (ch : Channel)
  | waveConverter
  | plain
  deriving DecidableEq, Repr

/-- The role of a register. -/
def roleOf (r : Reg) : Role :=
  match r.val with
  | 0x01 => .length .one
  | 0x02 => .envelope .one
  | 0x04 => .control .one
  | 0x06 => .length .two
  | 0x07 => .envelope .two
  | 0x09 => .control .two
  | 0x0A => .waveConverter
  | 0x0B => .length .three
  | 0x0E => .control .three
  | 0x10 => .length .four
  | 0x11 => .envelope .four
  | 0x13 => .control .four
  | _ => .plain

/-- The place of the register at an address from `FF10` to `FF3F`. -/
def regAt (addr : UInt16) : Reg :=
  Reg.ofNat (addr - 0xFF10).toNat

/-- The bits of a register that read as one. -/
def readMask (r : Reg) : UInt8 :=
  match r.val with
  | 0x00 => 0x80
  | 0x01 => 0x3F
  | 0x02 => 0x00
  | 0x04 => 0xBF
  | 0x06 => 0x3F
  | 0x07 => 0x00
  | 0x09 => 0xBF
  | 0x0A => 0x7F
  | 0x0C => 0x9F
  | 0x0E => 0xBF
  | 0x11 => 0x00
  | 0x12 => 0x00
  | 0x13 => 0xBF
  | 0x14 => 0x00
  | 0x15 => 0x00
  | 0x16 => 0x70
  | n => if n < 0x20 then 0xFF else 0x00

/-- The register that holds the wave byte being played. -/
def playedReg (s : Sound) : Reg :=
  Reg.ofNat (0x20 + (s.ch3.position >>> 1).toNat)

/-- Whether the processor can reach the wave byte being played. -/
def waveReachable (s : Sound) : Bool :=
  s.colour || 0 < s.ch3.window

/-- The byte at an address from `FF10` to `FF3F`. -/
def read (s : Sound) (addr : UInt16) : UInt8 :=
  let r := regAt addr
  if 0xFF30 ≤ addr && s.enabled && s.channelOn .three then
    if s.waveReachable then s.reg s.playedReg else 0xFF
  else s.reg r ||| readMask r

/-- The length that a length register loads. -/
def loadedLength (ch : Channel) (val : UInt8) : UInt16 :=
  match ch with
  | .three => 256 - val.toUInt16
  | _ => 64 - (val &&& 0x3F).toUInt16

/-- The effect of a write before the value is stored. -/
def beforeStore (s : Sound) (r : Reg) (val : UInt8) : Sound :=
  match roleOf r with
  | .length ch => s.setLength ch (loadedLength ch val)
  | .envelope ch =>
    if s.channelOn ch then s.setEnvelope ch ((s.envelope ch).rewritten (s.reg r) val) else s
  | .control ch => s.clockOnEnable ch val
  | _ => s

/-- The effect of a write after the value is stored. -/
def afterStore (s : Sound) (r : Reg) (val : UInt8) : Sound :=
  match roleOf r with
  | .envelope ch => s.checkConverter ch
  | .waveConverter => s.checkConverter .three
  | .control ch => if hasBit val 0x80 then s.trigger ch else s
  | _ => s

/-- A write to a register with power. -/
def writeReg (s : Sound) (r : Reg) (val : UInt8) : Sound :=
  ((s.beforeStore r val).setReg r val).afterStore r val

/-- A write to the wave memory. -/
def writeWave (s : Sound) (r : Reg) (val : UInt8) : Sound :=
  if !s.channelOn .three then s.setReg r val
  else if s.waveReachable then s.setReg s.playedReg val
  else s

/-- The power goes off: all registers up to NR52 are cleared, and the channels with them. -/
def powerOff (s : Sound) : Sound :=
  { s with
    regs := Vector.ofFn fun i => if i.val ≤ 0x16 then 0 else s.reg i
    ch1 := {}
    sweep := {}
    ch2 := {}
    ch3 := {}
    ch4 := {}
    sequencer := 0 }

/-- The power goes on: the duty cycles start afresh. -/
def powerOn (s : Sound) : Sound :=
  setReg { s with ch1 := { s.ch1 with duty := 0 }, ch2 := { s.ch2 with duty := 0 } }
    nr52 (s.reg nr52 ||| 0x80)

/-- A write to NR52, which only switches the power. -/
def writePower (s : Sound) (val : UInt8) : Sound :=
  if s.enabled then if hasBit val 0x80 then s else s.powerOff
  else if hasBit val 0x80 then s.powerOn else s

/-- A write to an address from `FF10` to `FF3F`. -/
def write (s : Sound) (addr : UInt16) (val : UInt8) : Sound :=
  if addr == 0xFF26 then s.writePower val
  else if 0xFF30 ≤ addr then s.writeWave (regAt addr) val
  else if s.enabled then s.writeReg (regAt addr) val
  else s

end Sound

end DotMatrix
