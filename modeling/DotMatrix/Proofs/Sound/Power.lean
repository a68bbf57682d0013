import DotMatrix.Proofs.Sound.Length
import DotMatrix.Proofs.Sound.Steps
import DotMatrix.Proofs.Sound.Visible

/-!
# Power cycles

When the power goes off, the registers up to NR52, the channels and the sequencer are cleared. What is
left are the wave memory, the sampler, and registers of which nothing can be told. Without power only
the wave memory and the sampler change. So all units without power are alike but for these
(`Hosted.blank`), whether the power has gone off or was never there; and units that are alike stay so
when it comes back.

Results:
* `act_power`: the power stays on, or it is switched off.
* `Blank.act`, `Blank.play`: without power.
* `Hosted.blank`: every unit without power is blank.
* `act_off_alike`: two units whose power is switched off.
* **`power_cycle`**: a power cycle erases what was before.
-/

namespace DotMatrix

namespace Sound

variable {s t : Sound} {e : Event} {r : Reg}

/-! ## The power -/

theorem disable_enabled (s : Sound) (ch : Channel) : (s.disable ch).enabled = s.enabled := by
  rw [disable, enabled, reg_setReg, if_pos rfl, and_not_mask_power, enabled]

theorem setLength_enabled (s : Sound) (ch : Channel) (n : UInt16) :
    (s.setLength ch n).enabled = s.enabled := by
  cases ch <;> rfl

theorem setEnvelope_enabled (s : Sound) (ch : Channel) (v : Envelope) :
    (s.setEnvelope ch v).enabled = s.enabled := by
  cases ch <;> rfl

theorem checkConverter_enabled (s : Sound) (ch : Channel) :
    (s.checkConverter ch).enabled = s.enabled := by
  rw [checkConverter, apply_ite enabled, disable_enabled, ite_self]

theorem trigger_enabled (s : Sound) (ch : Channel) : (s.trigger ch).enabled = s.enabled := by
  obtain ⟨on, -, after⟩ := trigger_voice s ch
  exact congrArg Voice.power after

theorem beforeStore_enabled (s : Sound) (r : Reg) (val : UInt8) :
    (s.beforeStore r val).enabled = s.enabled := by
  unfold beforeStore
  cases roleOf r <;> simp only [clockOnEnable, apply_ite enabled, setLength_enabled,
    setEnvelope_enabled, disable_enabled, ite_self]

theorem afterStore_enabled (s : Sound) (r : Reg) (val : UInt8) :
    (s.afterStore r val).enabled = s.enabled := by
  unfold afterStore
  cases roleOf r <;> simp only [apply_ite enabled, checkConverter_enabled, trigger_enabled, ite_self]

theorem writeReg_enabled (other : r ≠ nr52) (val : UInt8) :
    (s.writeReg r val).enabled = s.enabled := by
  rw [writeReg, afterStore_enabled, enabled, reg_setReg, if_neg other.symm, ← enabled,
    beforeStore_enabled]

/-- The power stays on, or it is switched off. -/
theorem act_power (placed : s.Placed) (power : s.enabled = true) (e : Event) :
    (s.act e).enabled = true ∨ s.act e = s.powerOff := by
  -- The power is part of every voice.
  have kept {m : Sound} (voice : m.voice .one = s.voice .one) : m.enabled = true :=
    (congrArg Voice.power voice).trans power
  cases e with
  | write r val =>
    simp only [act, write, address_power, address_wave, regAt_address, decide_eq_true_eq]
    split
    · rw [writePower, if_pos power]
      split
      · exact .inl power
      · exact .inr rfl
    next other =>
      left
      split
      next wave => exact kept (writeWave_voice placed.place wave val)
      · rw [writeReg_enabled other, power]
  | clock => exact .inl ((stepSequencer_enabled placed).trans power)
  | time n => exact .inl (kept (step_voice n))

/-! ## Without power -/

/-- A write that turns the power on, or leaves it on. -/
def Event.powers : Event → Bool
  | .write r val => r = nr52 && hasBit val 0x80
  | _ => false

/-- What a register holds after an event without power: the wave memory is written. -/
def Event.stores (e : Event) (r : Reg) (old : UInt8) : UInt8 :=
  match e with
  | .write r' val => if r' = r ∧ 0x20 ≤ r.val then val else old
  | _ => old

/-- What a register holds after events without power. -/
def lastStored (events : List Event) (r : Reg) (old : UInt8) : UInt8 :=
  events.foldl (fun b e => e.stores r b) old

theorem stores_low (low : r.val < 0x20) (e : Event) (old : UInt8) : e.stores r old = old := by
  cases e with
  | write => exact if_neg fun h => absurd h.2 (Nat.not_le.mpr low)
  | clock | time => rfl

theorem lastStored_low (low : r.val < 0x20) (events : List Event) (old : UInt8) :
    lastStored events r old = old := by
  induction events generalizing old with
  | nil => rfl
  | cons e rest ih =>
    rw [lastStored, List.foldl_cons, stores_low low]
    exact ih old

/-- From `s` to `t` the registers have been stored to, and the sampler has moved on. -/
structure Rests (stored : Reg → UInt8 → UInt8) (s t : Sound) : Prop where
  regs : ∀ r, t.reg r = stored r (s.reg r)
  parts : t.parts = s.parts
  period : t.samplePeriod = s.samplePeriod

/-- All is cleared, as far as the power clears it. -/
structure Blank (s : Sound) : Prop where
  regs : ∀ r : Reg, r.val ≤ 0x16 → s.reg r = 0
  parts : s.parts = {}

namespace Blank

theorem powerOff (s : Sound) : s.powerOff.Blank where
  regs r low := by rw [powerOff_reg, if_pos low]
  parts := rfl

variable (blank : s.Blank)
include blank

theorem enabled : s.enabled = false := by
  rw [Sound.enabled, blank.regs nr52 (by decide)]
  rfl

theorem channelOn (ch : Channel) : s.channelOn ch = false := by
  rw [Sound.channelOn, blank.regs nr52 (by decide)]
  cases ch <;> rfl

theorem sample : s.sample = {} := by
  rw [Sound.sample, blank.enabled]
  rfl

theorem read (r : Reg) : s.read r.address = s.reg r ||| readMask r := by
  simp only [Sound.read, blank.enabled, Bool.and_false, Bool.false_and, Bool.false_eq_true, if_false,
    regAt_address]

theorem stepSequencer : s.stepSequencer = s := by
  rw [Sound.stepSequencer, if_neg (Bool.eq_false_iff.mp blank.enabled)]

theorem onward (n : Nat) : s.onward n = s := by
  rw [Sound.onward, if_neg (Bool.eq_false_iff.mp blank.enabled)]

/-- A write without power, which does not give it either. -/
theorem write {val : UInt8} (off : (Event.write r val).powers = false) :
    s.write r.address val = if 0x20 ≤ r.val then s.setReg r val else s := by
  have away : ¬ s.enabled = true := Bool.eq_false_iff.mp blank.enabled
  have quiet : (!s.channelOn .three) = true := by rw [blank.channelOn, Bool.not_false]
  simp only [Sound.write, address_power, address_wave, regAt_address, decide_eq_true_eq]
  split
  next status =>
    subst status
    have low : ¬ 0x20 ≤ nr52.val := by decide
    have dark : ¬ hasBit val 0x80 = true := by
      simpa [Event.powers] using off
    rw [writePower, if_neg away, if_neg dark, if_neg low]
  · rw [writeWave, if_pos quiet]

/-- One event without power. -/
theorem act (e : Event) (off : e.powers = false) : s.Rests e.stores (s.act e) := by
  cases e with
  | write r val =>
    rw [Sound.act, blank.write off]
    split
    next wave =>
      refine ⟨fun r' => ?_, rfl, rfl⟩
      rw [reg_setReg, Event.stores]
      by_cases here : r' = r
      · subst here
        rw [if_pos rfl, if_pos ⟨rfl, wave⟩]
      · rw [if_neg here, if_neg fun h => here h.1.symm]
    next low =>
      refine ⟨fun r' => ?_, rfl, rfl⟩
      have apart : ¬ (r = r' ∧ 0x20 ≤ r'.val) := fun h => low (h.1 ▸ h.2)
      rw [Event.stores, if_neg apart]
  | clock =>
    rw [Sound.act, blank.stepSequencer]
    exact ⟨fun _ => rfl, rfl, rfl⟩
  | time n =>
    rw [Sound.act, step_eq, blank.onward]
    exact ⟨fun _ => rfl, rfl, Sampler.take_period _ _ _⟩

theorem of_rests {stored : Reg → UInt8 → UInt8} (rests : s.Rests stored t)
    (kept : ∀ r : Reg, r.val ≤ 0x16 → ∀ old, stored r old = old) : t.Blank where
  regs r low := by rw [rests.regs, kept r low, blank.regs r low]
  parts := rests.parts.trans blank.parts

/-- Events without power. -/
theorem play (events : List Event) (off : ∀ e ∈ events, e.powers = false) :
    s.Rests (lastStored events) (s.play events) := by
  induction events generalizing s with
  | nil => exact ⟨fun _ => rfl, rfl, rfl⟩
  | cons e rest ih =>
    obtain ⟨first, others⟩ := List.forall_mem_cons.mp off
    have step := blank.act e first
    have next : (s.act e).Blank := blank.of_rests step fun r low => stores_low (by omega) e
    have run := ih next others
    refine ⟨fun r => ?_, run.parts.trans step.parts, run.period.trans step.period⟩
    exact (run.regs r).trans (congrArg (lastStored rest r) (step.regs r))

end Blank

/-- The states of a unit that has a host: at any time the host may replace the sampler, by installing
a recorder or taking it away, by choosing a rate, or by taking the samples. -/
inductive Hosted : Sound → Prop
  | reachable {s : Sound} (h : s.Reachable) : Hosted s
  | host {s : Sound} (h : Hosted s) (t : Sampler) : Hosted (s.withSampler t)
  | act {s : Sound} (h : Hosted s) (e : Event) : Hosted (s.act e)

theorem Hosted.placed (h : s.Hosted) : s.Placed := by
  induction h with
  | reachable h => exact h.placed
  | host _ _ ih => exact ⟨ih.step, ih.place⟩
  | act _ e ih => exact act_placed ih e

/-- A write that gives power leaves it on. -/
theorem act_powers (s : Sound) (on : e.powers = true) : (s.act e).enabled = true := by
  cases e with
  | clock | time => exact absurd on Bool.false_ne_true
  | write r val =>
    obtain ⟨status, high⟩ := Bool.and_eq_true_iff.mp on
    obtain rfl := of_decide_eq_true status
    change (s.writePower val).enabled = true
    rw [writePower, if_pos high, if_pos high]
    split
    next power => exact power
    next =>
      have voice : s.powerOn.voice .one = { s.voice .one with power := true } := powerOn_voice
      exact congrArg Voice.power voice

theorem act_blank (placed : s.Placed) (e : Event) (before : s.enabled = false → s.Blank)
    (away : (s.act e).enabled = false) : (s.act e).Blank := by
  cases power : s.enabled with
  | true =>
    rcases act_power placed power e with still | off
    · exact absurd still (Bool.eq_false_iff.mp away)
    · rw [off]
      exact .powerOff s
  | false =>
    cases on : e.powers with
    | true => exact absurd (act_powers s on) (Bool.eq_false_iff.mp away)
    | false => exact (before power).of_rests ((before power).act e on) fun r low =>
        stores_low (by omega) e

/-- Without power all is cleared, whether the power has gone off or was never there. -/
theorem Hosted.blank (h : s.Hosted) (away : s.enabled = false) : s.Blank := by
  induction h with
  | reachable h =>
    induction h with
    | unpowered =>
      refine ⟨fun r _ => ?_, rfl⟩
      simp [reg, unpowered]
    | boot s =>
      have on : s.boot.enabled = true := congrArg Voice.power (boot_voice s .one)
      exact absurd on (Bool.eq_false_iff.mp away)
    | act h e ih => exact act_blank h.placed e ih away
  | host _ t ih => exact ⟨(ih away).regs, (ih away).parts⟩
  | act h e ih => exact act_blank h.placed e ih away

/-! ## Power cycles -/

/-- Blank units are alike if the power leaves the same. -/
theorem Blank.alike (blank : s.Blank) (blank' : t.Blank) (colour : s.colour = t.colour)
    (wave : ∀ r : Reg, 0x20 ≤ r.val → s.reg r = t.reg r) (period : s.samplePeriod = t.samplePeriod)
    (cycles : s.sampleCycles = t.sampleCycles) : s.Alike t := by
  refine alike_of_parts (fun r seen => ?_) (blank.parts.trans blank'.parts.symm) colour period cycles
  by_cases low : r.val ≤ 0x16
  · rw [blank.regs r low, blank'.regs r low]
  · exact wave r (Nat.le_of_not_lt fun below => seen ⟨Nat.lt_of_not_le low, below⟩)

/-- A write to NR52 without its highest bit. -/
theorem act_off (s : Sound) {off : UInt8} (low : hasBit off 0x80 = false) :
    s.act (.write nr52 off) = if s.enabled then s.powerOff else s := by
  have away : ¬ hasBit off 0x80 = true := Bool.eq_false_iff.mp low
  change s.writePower off = _
  rw [writePower, if_neg away, if_neg away]

theorem act_off_enabled (s : Sound) {off : UInt8} (low : hasBit off 0x80 = false) :
    (s.act (.write nr52 off)).enabled = false := by
  rw [act_off s low]
  split
  · exact (Blank.powerOff s).enabled
  next power => exact Bool.eq_false_iff.mpr power

theorem act_off_colour (s : Sound) {off : UInt8} (low : hasBit off 0x80 = false) :
    (s.act (.write nr52 off)).colour = s.colour := by
  rw [act_off s low, apply_ite colour, powerOff, ite_self]

theorem act_off_wave (s : Sound) {off : UInt8} (low : hasBit off 0x80 = false)
    (wave : 0x20 ≤ r.val) : (s.act (.write nr52 off)).reg r = s.reg r := by
  have kept : ¬ r.val ≤ 0x16 := by omega
  rw [act_off s low, apply_ite (reg · r), powerOff_reg, if_neg kept, ite_self]

theorem act_off_recorder (s : Sound) (off : UInt8) :
    (s.act (.write nr52 off)).recorder = s.recorder :=
  congrArg Sampler.recorder ((deaf_write nr52.address off).sampler s)

/-- With the power off, two units are alike if the power leaves the same. -/
theorem act_off_alike (hosted : s.Hosted) (hosted' : t.Hosted) (colour : s.colour = t.colour)
    (wave : ∀ r : Reg, 0x20 ≤ r.val → s.reg r = t.reg r) (period : s.samplePeriod = t.samplePeriod)
    (cycles : s.sampleCycles = t.sampleCycles) {off : UInt8} (low : hasBit off 0x80 = false) :
    (s.act (.write nr52 off)).Alike (t.act (.write nr52 off)) := by
  have blank := (hosted.act (.write nr52 off)).blank (act_off_enabled s low)
  have blank' := (hosted'.act (.write nr52 off)).blank (act_off_enabled t low)
  have sampler := (deaf_write nr52.address off).sampler
  refine blank.alike blank' ?_ (fun r inside => ?_) ?_ ?_
  · rw [act_off_colour s low, act_off_colour t low, colour]
  · rw [act_off_wave s low inside, act_off_wave t low inside, wave r inside]
  · exact (congrArg Sampler.period (sampler s)).trans
      (period.trans (congrArg Sampler.period (sampler t)).symm)
  · exact (congrArg Sampler.cycles (sampler s)).trans
      (cycles.trans (congrArg Sampler.cycles (sampler t)).symm)

theorem readMask_wave (wave : 0x20 ≤ r.val) : readMask r = 0 := by
  revert r
  decide

/-- **A power cycle erases what was before.** While there is no power, and none is given, what happens
changes nothing that can be told but the wave memory, which is written, and the phase of the sampler.
Take two units of one console family with the same wave memory, period and phase, whatever has
happened to them. When the power of both has been switched off, they give the same answers after
whatever happens from then on, the power coming back included, and hand the same samples to their
hosts. -/
theorem power_cycle :
    (∀ s : Sound, s.Hosted → s.enabled = false → ∀ events : List Event,
      (∀ e ∈ events, e.powers = false) →
        (s.play events).sample = s.sample ∧ (s.play events).parts = s.parts ∧
        (∀ r : Reg, r.val < 0x20 → (s.play events).reg r = s.reg r ∧
          (s.play events).read r.address = s.read r.address) ∧
        (∀ r : Reg, 0x20 ≤ r.val →
          (s.play events).read r.address = lastStored events r (s.read r.address)) ∧
        (s.play events).samplePeriod = s.samplePeriod) ∧
    ∀ s t : Sound, s.Hosted → t.Hosted → s.colour = t.colour →
      (∀ r : Reg, 0x20 ≤ r.val → s.reg r = t.reg r) → s.samplePeriod = t.samplePeriod →
      s.sampleCycles = t.sampleCycles → ∀ off : UInt8, hasBit off 0x80 = false →
      ∀ events : List Event,
        let s' := (s.act (.write nr52 off)).play events
        let t' := (t.act (.write nr52 off)).play events
        s'.Indistinct t' ∧ ∃ new, s'.recorder = s.recorder.map (· ++ new) ∧
          t'.recorder = t.recorder.map (· ++ new) := by
  refine ⟨fun s hosted away events off => ?_, ?_⟩
  · have blank := hosted.blank away
    have rests := blank.play events off
    have later : (s.play events).Blank :=
      blank.of_rests rests fun r low => lastStored_low (by omega) events
    have low (r : Reg) (below : r.val < 0x20) : (s.play events).reg r = s.reg r := by
      rw [rests.regs, lastStored_low below]
    refine ⟨later.sample.trans blank.sample.symm, rests.parts, fun r below => ⟨low r below, ?_⟩,
      fun r wave => ?_, rests.period⟩
    · rw [later.read, blank.read, low r below]
    · rw [later.read, blank.read, readMask_wave wave, UInt8.or_zero, UInt8.or_zero, rests.regs]
  · intro s t hosted hosted' colour wave period cycles off low events
    have alike := act_off_alike hosted hosted' colour wave period cycles low
    have placed := (hosted.act (.write nr52 off)).placed
    have placed' := (hosted'.act (.write nr52 off)).placed
    obtain ⟨later, handed⟩ := alike.play placed placed' events
    refine ⟨later.indistinct (play_placed placed events) (play_placed placed' events),
      (s.act (.write nr52 off)).handedAll events, ?_, ?_⟩
    · rw [play_recorder, act_off_recorder]
    · rw [play_recorder, act_off_recorder, handed]

/-- A unit that has played since the boot program, and one that never had power, both of them sampled
48000 times a second. Without power the second one takes nothing of what is written to it but the wave
memory; and behind the switch nothing tells it from the first one. -/
theorem power_cycle_booted :
    let s := (((unpowered false).boot.act (.write nr12 0x0F)).act (.write nr14 0x80)).setRecorder
      (some #[]) 48000
    let t := (unpowered false).setRecorder (some #[]) 48000
    (t.play [.write nr12 0xF0, .write 0x20 0xAB, .clock, .time 500]).read 0xFF30 = 0xAB ∧
      (∀ r : Reg, 0x20 ≤ r.val → s.reg r = t.reg r) ∧
      ∀ events : List Event, ((s.act (.write nr52 0x00)).play events).Indistinct
        ((t.act (.write nr52 0x00)).play events) := by
  intro s t
  have hosted : s.Hosted := .host (.reachable (((Reachable.boot _).act _).act _)) s.sampler
  have hosted' : t.Hosted := .host (.reachable (.unpowered false)) t.sampler
  have wave : ∀ r : Reg, 0x20 ≤ r.val → s.reg r = t.reg r := by decide
  obtain ⟨still, cycled⟩ := power_cycle
  obtain ⟨-, -, -, written, -⟩ := still t hosted' (by decide)
    [.write nr12 0xF0, .write 0x20 0xAB, .clock, .time 500] (by decide)
  exact ⟨(written 0x20 (by decide)).trans (by decide), wave, fun events =>
    (cycled s t hosted hosted' rfl wave rfl rfl 0x00 (by decide) events).1⟩

end Sound

end DotMatrix
