import DotMatrix.Cpu.Registers
import DotMatrix.Inspect.Report
import DotMatrix.Joypad
import DotMatrix.Link
import DotMatrix.Sound.Sequencer
import DotMatrix.Timer

/-!
# The small devices and the sound unit, shown

The registers of the processor, the timer, the link port, the joypad and the sound unit, each under
the name that it has in a snapshot.
-/

namespace DotMatrix

/-- The registers and the interrupt state of the processor. -/
def Cpu.inspect (r : Cpu) : Report :=
  .fields [("a", r.a), ("f", r.f), ("b", r.b), ("c", r.c), ("d", r.d), ("e", r.e), ("h", r.h),
    ("l", r.l), ("pc", r.pc), ("sp", r.sp), ("ime", r.ime), ("halted", r.halted),
    ("ime_pending", r.imePending), ("halt_bug", r.haltBug)]

/-- The timer. -/
def Timer.inspect (t : Timer) : Report :=
  .fields [("div", t.div), ("tima", t.tima), ("tma", t.tma), ("tac", t.tac),
    ("last_signal", t.lastSignal)]

/-- The link port. -/
def Link.inspect (l : Link) : Report :=
  .fields [("sb", l.sb), ("sc", l.sc)]

/-- The joypad. -/
def Joypad.inspect (j : Joypad) : Report :=
  .fields [("state", j.released), ("select", j.select)]

/-! ## Sound -/

/-- A volume envelope. -/
def Envelope.inspect (e : Envelope) : Report :=
  .fields [("volume", e.volume), ("timer", e.timer), ("disabled", e.disabled)]

/-- A pulse channel. -/
def Pulse.inspect (c : Pulse) : Report :=
  .fields [("timer", c.timer), ("duty_index", c.duty), ("length", c.length),
    ("envelope", c.envelope.inspect)]

/-- The frequency sweep. -/
def Sweep.inspect (s : Sweep) : Report :=
  .fields [("timer", s.timer), ("shadow", s.shadow), ("enabled", s.enabled)]

/-- The wave channel. -/
def Wave.inspect (c : Wave) : Report :=
  .fields [("timer", c.timer), ("length", c.length), ("position", c.position),
    ("sample_buffer", c.buffer), ("access_window", c.window)]

/-- The noise channel. -/
def Noise.inspect (c : Noise) : Report :=
  .fields [("timer", c.timer), ("length", c.length), ("envelope", c.envelope.inspect),
    ("lfsr", c.lfsr)]

/-- Two sides of a sound. -/
def Stereo.inspect (s : Stereo) : Report :=
  .list [s.left, s.right]

/-- A sample, with its mix. -/
def Sample.inspect (s : Sample) : Report :=
  .list [s.ch1.inspect, s.ch2.inspect, s.ch3.inspect, s.ch4.inspect, s.leftVolume, s.rightVolume,
    s.mix.left, s.mix.right]

/-- The parts of a sample, a byte each. -/
def Sample.partBytes (s : Sample) : List UInt8 :=
  [s.ch1.left, s.ch1.right, s.ch2.left, s.ch2.right, s.ch3.left, s.ch3.right, s.ch4.left,
    s.ch4.right, s.leftVolume, s.rightVolume].map fun n => (n % 256).toNat.toUInt8

/-- The digest of some bytes of every sample. -/
def Sample.digestAll (samples : Array Sample) (f : Sample → List UInt8) : Report :=
  Digest.text (samples.foldl (fun d s => (f s).foldl Digest.add d) Digest.start)

/-- Every `stride`-th sample, the first one among them. -/
def Sample.everyNth (samples : Array Sample) (stride : Nat) : List Report :=
  (List.range ((samples.size + stride - 1) / stride)).map fun i =>
    .optional Sample.inspect samples[i * stride]?

/-- Samples by their number, their digests and some of them. -/
def Sample.inspectAll (samples : Array Sample) (stride : Nat) : Report :=
  .fields [("n", samples.size), ("raw", digestAll samples partBytes),
    ("pcm", digestAll samples bytes), ("some", .list (everyNth samples (max stride 1)))]

namespace Sound

/-- The sound unit. -/
def inspect (s : Sound) : Report :=
  .fields [("regs", .hex s.regs.toArray), ("ch1", s.ch1.inspect), ("sweep", s.sweep.inspect),
    ("ch2", s.ch2.inspect), ("ch3", s.ch3.inspect), ("ch4", s.ch4.inspect),
    ("sequencer", s.sequencer), ("gbc", s.colour), ("sample_period", s.samplePeriod),
    ("sample_cycles", s.sampleCycles)]

/-- Something of every channel. -/
def perChannel (f : Channel → Report) : Report :=
  .list [f .one, f .two, f .three, f .four]

/-- The sound unit at a glance. -/
def brief (s : Sound) : Report :=
  .list [s.enabled.toNat, perChannel fun c => (s.channelOn c).toNat, perChannel fun c => s.length c,
    .list [s.ch1.envelope.volume, s.ch2.envelope.volume, s.ch4.envelope.volume], s.frequency1,
    s.sweep.shadow, s.sweep.enabled, s.ch1.timer, s.ch1.duty, s.ch3.position, s.ch4.lfsr,
    s.sequencer, s.nextSkipsLength, s.nextClocksVolume]

end Sound

end DotMatrix
