import DotMatrix.Word

/-!
# The cartridge clock

Seconds, minutes and hours, and a nine-bit day counter whose top bit shares a register with the
halt and carry bits. A tick is one second; when the day counter passes 511 it starts over and the
carry bit stays set. A halted clock does not tick.
-/

namespace DotMatrix

/-- The clock registers. -/
structure Clock where
  seconds : UInt8 := 0
  minutes : UInt8 := 0
  hours : UInt8 := 0
  dayLow : UInt8 := 0
  dayHigh : UInt8 := 0
  deriving DecidableEq, Repr, Inhabited

namespace Clock

/-- The top bit of the day counter. -/
def dayBit : UInt8 := 0x01

/-- The bit that stops the clock. -/
def haltBit : UInt8 := 0x40

/-- The bit that records an overflow of the day counter. -/
def carryBit : UInt8 := 0x80

/-- Whether the clock is stopped. -/
def halted (c : Clock) : Bool :=
  hasBit c.dayHigh haltBit

/-- The day counter one higher. -/
def nextDay (c : Clock) : Clock :=
  if c.dayLow + 1 != 0 then { c with dayLow := c.dayLow + 1 }
  else if hasBit c.dayHigh dayBit then
    { c with dayLow := 0, dayHigh := (c.dayHigh &&& haltBit) ||| carryBit }
  else { c with dayLow := 0, dayHigh := c.dayHigh ||| dayBit }

/-- The hour after, and the next day past 23. -/
def nextHour (c : Clock) : Clock :=
  if c.hours + 1 < 24 then { c with hours := c.hours + 1 } else nextDay { c with hours := 0 }

/-- The minute after, and the next hour past 59. -/
def nextMinute (c : Clock) : Clock :=
  if c.minutes + 1 < 60 then { c with minutes := c.minutes + 1 }
  else nextHour { c with minutes := 0 }

/-- The second after, and the next minute past 59. -/
def nextSecond (c : Clock) : Clock :=
  if c.seconds + 1 < 60 then { c with seconds := c.seconds + 1 }
  else nextMinute { c with seconds := 0 }

/-- One second passes, unless the clock is stopped. -/
def tick (c : Clock) : Clock :=
  if c.halted then c else c.nextSecond

/-- The clock with every register brought into its range. -/
def clamped (c : Clock) : Clock :=
  { seconds := min c.seconds 59
    minutes := min c.minutes 59
    hours := min c.hours 23
    dayLow := c.dayLow
    dayHigh := c.dayHigh &&& (dayBit ||| haltBit ||| carryBit) }

/-- The register with the given number, `0xFF` when there is none. -/
def read (c : Clock) (register : UInt8) : UInt8 :=
  match register with
  | 0x08 => c.seconds
  | 0x09 => c.minutes
  | 0x0A => c.hours
  | 0x0B => c.dayLow
  | 0x0C => c.dayHigh
  | _ => 0xFF

/-- Writes the register with the given number. -/
def write (c : Clock) (register val : UInt8) : Clock :=
  match register with
  | 0x08 => { c with seconds := val }
  | 0x09 => { c with minutes := val }
  | 0x0A => { c with hours := val }
  | 0x0B => { c with dayLow := val }
  | 0x0C => { c with dayHigh := val }
  | _ => c

/-- The size of the clock's part of a battery save. -/
def savedSize : Nat := 5

/-- The registers in the order of a battery save. -/
def toBytes (c : Clock) : Array UInt8 :=
  #[c.seconds, c.minutes, c.hours, c.dayLow, c.dayHigh]

/-- The clock whose registers stand in `bytes` from `start` on. -/
def ofBytes (bytes : Array UInt8) (start : Nat) : Clock :=
  { seconds := bytes.getD start 0
    minutes := bytes.getD (start + 1) 0
    hours := bytes.getD (start + 2) 0
    dayLow := bytes.getD (start + 3) 0
    dayHigh := bytes.getD (start + 4) 0 }

end Clock

end DotMatrix
