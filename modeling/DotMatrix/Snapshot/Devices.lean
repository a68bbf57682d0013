import DotMatrix.Cpu.Registers
import DotMatrix.Joypad
import DotMatrix.Link
import DotMatrix.Snapshot.Record
import DotMatrix.Sound.Basic
import DotMatrix.Timer

/-!
# The processor and the small devices in snapshots

Every device is a record of its fields. What belongs to the host (a cable, a recorder and its rate)
is not written; a device that is read has none.
-/

namespace DotMatrix

namespace Codec

/-- The model. -/
def model : Codec Model :=
  choice [.dmg, .sgb, .gbc] Model.tag

/-- The registers of the processor. -/
def cpu : Codec Cpu :=
  (record <|
    byte.field "a" <| byte.field "f" <| byte.field "b" <| byte.field "c" <| byte.field "d" <|
      byte.field "e" <| byte.field "h" <| byte.field "l" <| word.field "pc" <| word.field "sp" <|
      flag.field "ime" <| flag.field "halted" <| flag.field "ime_pending" <|
      flag.lastField "halt_bug").view
    (fun r => (r.a, r.f, r.b, r.c, r.d, r.e, r.h, r.l, r.pc, r.sp, r.ime, r.halted, r.imePending,
      r.haltBug))
    (fun (a, f, b, c, d, e, h, l, pc, sp, ime, halted, imePending, haltBug) =>
      { a, f, b, c, d, e, h, l, pc, sp, ime, halted, imePending, haltBug })

/-- The divider and the timer. -/
def timer : Codec Timer :=
  (record <|
    word.field "div" <| byte.field "tima" <| byte.field "tma" <| byte.field "tac" <|
      flag.lastField "last_signal").view
    (fun t => (t.div, t.tima, t.tma, t.tac, t.lastSignal))
    (fun (div, tima, tma, tac, lastSignal) => { div, tima, tma, tac, lastSignal })

/-- The link port. -/
def link : Codec Link :=
  (record <| byte.field "sb" <| byte.lastField "sc").view
    (fun l => (l.sb, l.sc)) (fun (sb, sc) => { sb, sc })

/-- The joypad. -/
def joypad : Codec Joypad :=
  (record <| byte.field "state" <| byte.lastField "select").view
    (fun j => (j.released, j.select)) (fun (released, select) => { released, select })

/-! ## Sound -/

/-- A volume envelope. -/
def envelope : Codec Envelope :=
  (record <| byte.field "volume" <| byte.field "timer" <| flag.lastField "disabled").view
    (fun e => (e.volume, e.timer, e.disabled))
    (fun (volume, timer, disabled) => { volume, timer, disabled })

/-- A pulse channel. -/
def pulse : Codec Pulse :=
  (record <|
    countdown.field "timer" <| byte.field "duty_index" <| word.field "length" <|
      envelope.lastField "envelope").view
    (fun c => (c.timer, c.duty, c.length, c.envelope))
    (fun (timer, duty, length, envelope) => { timer, duty, length, envelope })

/-- The frequency sweep. -/
def sweep : Codec Sweep :=
  (record <| byte.field "timer" <| word.field "shadow" <| flag.lastField "enabled").view
    (fun s => (s.timer, s.shadow, s.enabled))
    (fun (timer, shadow, enabled) => { timer, shadow, enabled })

/-- The wave channel. -/
def wave : Codec Wave :=
  (record <|
    countdown.field "timer" <| word.field "length" <| byte.field "position" <|
      byte.field "sample_buffer" <| cycles.lastField "access_window").view
    (fun c => (c.timer, c.length, c.position, c.buffer, c.window))
    (fun (timer, length, position, buffer, window) => { timer, length, position, buffer, window })

/-- The noise channel. -/
def noise : Codec Noise :=
  (record <|
    countdown.field "timer" <| word.field "length" <| envelope.field "envelope" <|
      word.lastField "lfsr").view
    (fun c => (c.timer, c.length, c.envelope, c.lfsr))
    (fun (timer, length, envelope, lfsr) => { timer, length, envelope, lfsr })

/-- The sound unit. -/
def sound : Codec Sound :=
  (record <|
    (bytes 0x30).field "regs" <| pulse.field "ch1" <| sweep.field "sweep" <| pulse.field "ch2" <|
      wave.field "ch3" <| noise.field "ch4" <| byte.field "sequencer" <| flag.field "gbc" <|
      cycles.field "sample_period" <| cycles.lastField "sample_cycles").view
    (fun s => (s.regs, s.ch1, s.sweep, s.ch2, s.ch3, s.ch4, s.sequencer, s.colour, s.samplePeriod,
      s.sampleCycles))
    (fun (regs, ch1, sweep, ch2, ch3, ch4, sequencer, colour, samplePeriod, sampleCycles) =>
      { Sound.unpowered colour with
        regs, ch1, sweep, ch2, ch3, ch4, sequencer, samplePeriod, sampleCycles })

end Codec

end DotMatrix
