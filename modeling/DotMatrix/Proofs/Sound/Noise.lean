import DotMatrix.Proofs.Sound.Feedback
import DotMatrix.Proofs.Sound.Portions
import DotMatrix.Proofs.Sound.Power

/-!
# Noise

A trigger of the noise channel fills its shift register with ones. From then on, until the next
trigger or the loss of power, and as long as the width bit of NR43 stays as it is, whatever happens
to the unit is a number of clocks of the register (`Sound.shifts`): time in which the countdown runs
out is as many as it is reloaded, and all else is none. So after a run the register is where so many
clocks take it, and what is known of the register alone holds of the channel.

Results:
* `stepSequencer_generator`, `trigger_generator`, `write_generator`, `step_generator`: what makes
  the noise, under each kind of operation.
* **`act_shifts`**, `play_shifts`: one event, and a run.
* `Hissing.next`, `exists_noiseClocks`: every number of clocks can be had.
* **`noise_period`**: the periods of the noise.
-/

namespace DotMatrix

namespace Sound

variable {s : Sound} {e : Event}

/-! ## Parts of operations -/

/-- What makes the noise: the shift register, the countdown to its next clock, and the register that
sets its form and its period. -/
structure Generator where
  lfsr : UInt16
  timer : Int
  form : UInt8

/-- The generator of the noise. -/
def generator (s : Sound) : Generator :=
  { lfsr := s.ch4.lfsr, timer := s.ch4.timer, form := s.reg nr43 }

/-- The register decides the form and the period. -/
theorem form_congr {m : Sound} (form : m.reg nr43 = s.reg nr43) :
    m.noiseNarrow = s.noiseNarrow ∧ m.noiseShift = s.noiseShift ∧
      m.noisePeriod = s.noisePeriod := by
  simp only [noiseNarrow, noisePeriod, noiseShift, form, and_self]

section Parts

variable (s : Sound) (ch : Channel)

theorem setReg_generator (r : Reg) (val : UInt8) : (s.setReg r val).generator =
    if r = nr43 then { s.generator with form := val } else s.generator := by
  unfold generator
  rw [reg_setReg]
  split
  next here => rw [if_pos here.symm, setReg]
  next other => rw [if_neg fun here => other here.symm, setReg]

theorem setReg_generator_other {r : Reg} (other : r ≠ nr43) (val : UInt8) :
    (s.setReg r val).generator = s.generator := by
  rw [setReg_generator, if_neg other]

theorem disable_generator : (s.disable ch).generator = s.generator :=
  setReg_generator_other s (by decide) _

theorem setLength_generator (n : UInt16) : (s.setLength ch n).generator = s.generator := by
  cases ch <;> rfl

theorem setEnvelope_generator (v : Envelope) : (s.setEnvelope ch v).generator = s.generator := by
  cases ch <;> rfl

theorem checkConverter_generator : (s.checkConverter ch).generator = s.generator := by
  rw [checkConverter, apply_ite generator, disable_generator, ite_self]

theorem clockLength_generator : (s.clockLength ch).generator = s.generator := by
  simp only [clockLength, shorten, apply_ite generator, disable_generator, setLength_generator,
    ite_self]

theorem clockEnvelope_generator : (s.clockEnvelope ch).generator = s.generator := by
  simp only [clockEnvelope, apply_ite generator, setEnvelope_generator, ite_self]

theorem setFrequency1_generator (f : UInt16) : (s.setFrequency1 f).generator = s.generator := by
  unfold setFrequency1
  rw [setReg_generator_other _ (by decide), setReg_generator_other _ (by decide)]

theorem clockSweep_generator : s.clockSweep.generator = s.generator := by
  have still (w : Sweep) : generator { s with sweep := w } = s.generator := rfl
  simp only [clockSweep, runSweep, commitSweep, apply_ite generator, disable_generator,
    setFrequency1_generator, still, ite_self]

/-- The sequencer has nothing to do with the generator. -/
theorem stepSequencer_generator : s.stepSequencer.generator = s.generator := by
  have next (m : Sound) (place : UInt8) :
      generator { m with sequencer := place } = m.generator := rfl
  simp only [stepSequencer, clockStep, clockLengths, clockEnvelopes, apply_ite generator, next,
    clockSweep_generator, clockLength_generator, clockEnvelope_generator, ite_self]

theorem startNote_generator : (s.startNote ch).generator = s.generator := by
  simp only [startNote, setEnvelope_generator, setLength_generator]
  exact setReg_generator_other s (by decide) _

theorem startSweep_generator : s.startSweep.generator = s.generator := by
  simp only [startSweep, apply_ite generator, disable_generator]
  exact ite_self _

/-- A trigger of the noise channel fills the register with ones and starts a period. -/
theorem trigger_generator : (s.trigger ch).generator =
    if ch = .four then { s.generator with lfsr := 0x7FFF, timer := s.noisePeriod }
    else s.generator := by
  have begun := startNote_generator s ch
  unfold trigger
  cases ch with
  | one =>
    rw [checkConverter_generator, startSweep_generator]
    exact begun
  | two | three =>
    rw [checkConverter_generator]
    exact begun
  | four =>
    obtain ⟨-, -, period⟩ := form_congr (congrArg Generator.form begun)
    rw [checkConverter_generator, if_pos rfl, ← begun, ← period]
    rfl

theorem clockOnEnable_generator (val : UInt8) :
    (s.clockOnEnable ch val).generator = s.generator := by
  simp only [clockOnEnable, apply_ite generator, disable_generator, setLength_generator, ite_self]

theorem beforeStore_generator (r : Reg) (val : UInt8) :
    (s.beforeStore r val).generator = s.generator := by
  unfold beforeStore
  cases roleOf r <;> simp only [apply_ite generator, setLength_generator, setEnvelope_generator,
    clockOnEnable_generator, ite_self]

theorem afterStore_generator {r : Reg} {val : UInt8}
    (other : (Event.write r val).triggers .four = false) :
    (s.afterStore r val).generator = s.generator := by
  unfold afterStore
  cases role : roleOf r with
  | control ch =>
    simp only [apply_ite generator, trigger_generator]
    split
    next trigger =>
      have apart : ch ≠ .four := by
        rintro rfl
        obtain rfl := roleOf_control role
        simp [Event.triggers, trigger] at other
      exact if_neg apart
    · rfl
  | length | envelope | waveConverter | plain => simp only [checkConverter_generator]

end Parts

/-! ## One event -/

/-- What the shift register does not outlast: a trigger of its channel, or the power going off. -/
def Event.restarts : Event → Bool
  | write r val => r = controlReg .four && hasBit val 0x80 || r = nr52 && !hasBit val 0x80
  | _ => false

/-- A write that gives the shift register another form than `narrow`. -/
def Event.reforms (narrow : Bool) : Event → Bool
  | write r val => r = nr43 && hasBit val 0x08 != narrow
  | _ => false

/-- How many clocks of the shift register an event is. -/
def shifts (s : Sound) : Event → Nat
  | .time cycles =>
    if s.enabled && s.noiseShift < 14 then
      reloads (s.ch4.timer - signedCount cycles) s.noisePeriod
    else 0
  | _ => 0

theorem writePower_generator {val : UInt8} (on : hasBit val 0x80 = true) :
    (s.writePower val).generator = s.generator := by
  simp only [writePower, if_pos on]
  split
  · rfl
  · exact setReg_generator_other _ (by decide) _

/-- A write with power to its register gives the generator a new form. -/
theorem write_generator (placed : s.Placed) {r : Reg} {val : UInt8}
    (lasting : (Event.write r val).restarts = false) : (s.write r.address val).generator =
      if r = nr43 ∧ s.enabled = true then { s.generator with form := val } else s.generator := by
  obtain ⟨other, on⟩ := Bool.or_eq_false_iff.mp lasting
  simp only [write, address_power, address_wave, regAt_address, decide_eq_true_eq]
  split
  next status =>
    have apart : r ≠ nr43 := status ▸ (by decide)
    have high : hasBit val 0x80 = true := by simpa [status] using on
    rw [if_neg fun h => apart h.1, writePower_generator high]
  next =>
  split
  next wave =>
    have apart {r : Reg} (wave : 0x20 ≤ r.val) : r ≠ nr43 := by
      rintro rfl
      exact absurd wave (by decide)
    have played := apart (playedReg_wave placed.place)
    rw [if_neg fun h => apart wave h.1]
    simp only [writeWave, apply_ite generator, setReg_generator_other _ (apart wave),
      setReg_generator_other _ played, ite_self]
  next =>
  split
  next power =>
    rw [writeReg, afterStore_generator _ other, setReg_generator, beforeStore_generator]
    simp only [power, and_true]
  next power => rw [if_neg fun h => power h.2]

theorem stepNoise_lfsr (s : Sound) (cycles : Nat) : (s.stepNoise cycles).lfsr =
    Noise.shiftMany s.noiseNarrow
      (if s.noiseShift < 14 then reloads (s.ch4.timer - signedCount cycles) s.noisePeriod else 0)
      s.ch4.lfsr := by
  unfold stepNoise
  split
  · rw [Noise.step_eq]
  · rfl

/-- Time moves the noise channel, if there is power, and leaves the form of the generator alone. -/
theorem step_generator (s : Sound) (cycles : Nat) : (s.step cycles).generator =
    if s.enabled then
      { lfsr := (s.stepNoise cycles).lfsr, timer := (s.stepNoise cycles).timer, form := s.reg nr43 }
    else s.generator := by
  rw [step, stepSampler_blind generator (fun _ _ _ => rfl), apply_ite generator]
  rfl

/-- **One event.** As long as the register lasts and keeps its form, every event is a number of its
clocks. -/
theorem act_shifts (placed : s.Placed) (lasting : e.restarts = false)
    (steady : e.reforms s.noiseNarrow = false) :
    (s.act e).ch4.lfsr = Noise.shiftMany s.noiseNarrow (s.shifts e) s.ch4.lfsr ∧
      (s.act e).noiseNarrow = s.noiseNarrow := by
  have still {m : Sound} (same : m.generator = s.generator) :
      m.ch4.lfsr = s.ch4.lfsr ∧ m.noiseNarrow = s.noiseNarrow :=
    ⟨congrArg Generator.lfsr same, (form_congr (congrArg Generator.form same)).1⟩
  cases e with
  | write r val =>
    have after := write_generator placed lasting
    by_cases here : r = nr43 ∧ s.enabled = true
    · rw [if_pos here] at after
      have form : hasBit val 0x08 = s.noiseNarrow := by simpa [Event.reforms, here.1] using steady
      have stored : ((s.act (.write r val)).reg nr43) = val := congrArg Generator.form after
      refine ⟨congrArg Generator.lfsr after, ?_⟩
      rw [noiseNarrow, stored, form]
    · rw [if_neg here] at after
      exact still after
  | clock => exact still (stepSequencer_generator s)
  | time cycles =>
    have after := step_generator s cycles
    cases power : s.enabled with
    | false =>
      rw [power] at after
      simp only [shifts, power]
      exact still after
    | true =>
      rw [power, if_pos rfl] at after
      refine ⟨(congrArg Generator.lfsr after).trans ((stepNoise_lfsr s cycles).trans ?_),
        (form_congr (congrArg Generator.form after)).1⟩
      simp only [shifts, power, Bool.true_and, decide_eq_true_eq]

/-! ## Runs -/

/-- How many clocks of the shift register the events are. -/
def noiseClocks : Sound → List Event → Nat
  | _, [] => 0
  | s, e :: rest => s.shifts e + noiseClocks (s.act e) rest

/-- **A run** is as many clocks as its events are. -/
theorem play_shifts (placed : s.Placed) {events : List Event}
    (lasting : ∀ e ∈ events, e.restarts = false)
    (steady : ∀ e ∈ events, e.reforms s.noiseNarrow = false) :
    (s.play events).ch4.lfsr =
      Noise.shiftMany s.noiseNarrow (s.noiseClocks events) s.ch4.lfsr := by
  induction events generalizing s with
  | nil => rfl
  | cons e rest ih =>
    obtain ⟨lastingFirst, lastingRest⟩ := List.forall_mem_cons.mp lasting
    obtain ⟨steadyFirst, steadyRest⟩ := List.forall_mem_cons.mp steady
    obtain ⟨lfsr, form⟩ := act_shifts placed lastingFirst steadyFirst
    have after := ih (act_placed placed e) lastingRest (form.symm ▸ steadyRest)
    rw [form, lfsr, Noise.shiftMany_add] at after
    exact after

/-- A trigger fills the register with ones. -/
theorem act_trigger_generator (power : s.enabled = true) {val : UInt8}
    (trigger : hasBit val 0x80 = true) : (s.act (.write (controlReg .four) val)).generator =
      { lfsr := 0x7FFF, timer := s.noisePeriod, form := s.reg nr43 } := by
  have stored : ((s.clockOnEnable .four val).setReg (controlReg .four) val).generator =
      s.generator := by
    rw [setReg_generator_other _ (by decide), clockOnEnable_generator]
  obtain ⟨-, -, period⟩ := form_congr (congrArg Generator.form stored)
  rw [act_trigger power .four trigger, trigger_generator, if_pos rfl, stored, period]
  rfl

/-! ### Every number of clocks -/

theorem noiseDivisor_le (field : UInt8) : noiseDivisor field ≤ 112 := by
  have bits := UInt8.lt_iff_toNat_lt.mp (and_lt (by decide : (0x07 : UInt8) < 0x08) field)
  change _ < 8 at bits
  unfold noiseDivisor
  split <;> omega

theorem noisePeriod_lt (s : Sound) : s.noisePeriod < 2 ^ 30 := by
  have few : s.noiseShift < 16 := by
    have byte := (s.reg nr43).toNat_lt
    rw [noiseShift, UInt8.toNat_shiftRight]
    change (s.reg nr43).toNat >>> 4 < 16
    rw [Nat.shiftRight_eq_div_pow]
    omega
  have most : noiseDivisor (s.reg nr43) <<< s.noiseShift ≤ 112 * 2 ^ 15 := by
    rw [Nat.shiftLeft_eq]
    exact Nat.mul_le_mul (noiseDivisor_le _) (Nat.pow_le_pow_right (by decide) (by omega))
  unfold noisePeriod
  omega

/-- The noise channel runs, and the next clock of its register is ahead. -/
structure Hissing (s : Sound) : Prop where
  power : s.enabled = true
  runs : s.noiseShift < 14
  ahead : 0 < s.ch4.timer
  near : s.ch4.timer < 2 ^ 30

namespace Hissing

/-- When the countdown has run out, the register has been clocked once. -/
theorem next (h : s.Hissing) : s.shifts (.time s.ch4.timer.toNat) = 1 ∧
    (s.act (.time s.ch4.timer.toNat)).Hissing := by
  have ahead := h.ahead
  have near := h.near
  have out : s.ch4.timer - signedCount s.ch4.timer.toNat = 0 := by
    rw [signedCount_eq (by omega), Int.toNat_of_nonneg ahead.le, Int.sub_self]
  have once : reloads 0 s.noisePeriod = 1 := by
    simp [reloads]
  have kept : (s.step s.ch4.timer.toNat).voice .four = s.voice .four := step_voice _
  have after := step_generator s s.ch4.timer.toNat
  rw [if_pos h.power] at after
  obtain ⟨-, runs, period⟩ := form_congr (congrArg Generator.form after)
  have timer : (s.act (.time s.ch4.timer.toNat)).ch4.timer = s.noisePeriod := by
    refine (congrArg Generator.timer after).trans ?_
    change (s.stepNoise _).timer = _
    rw [stepNoise, if_pos h.runs, Noise.step_eq, out, once]
    simp
  refine ⟨?_, ?_, ?_, ?_, ?_⟩
  · simp only [shifts, h.power, h.runs, decide_true, Bool.and_self, if_true, out, once]
  · exact (congrArg Voice.power kept).trans h.power
  · exact runs ▸ h.runs
  · exact timer ▸ s.noisePeriod_pos
  · exact timer ▸ s.noisePeriod_lt

theorem exists_clocks (h : s.Hissing) (n : Nat) : ∃ events : List Event,
    (∀ e ∈ events, ∃ cycles, e = .time cycles) ∧ s.noiseClocks events = n := by
  induction n generalizing s with
  | zero => exact ⟨[], fun _ none => absurd none List.not_mem_nil, rfl⟩
  | succ n ih =>
    obtain ⟨once, goes⟩ := h.next
    obtain ⟨rest, waits, clocks⟩ := ih goes
    refine ⟨.time s.ch4.timer.toNat :: rest, ?_, ?_⟩
    · exact List.forall_mem_cons.mpr ⟨⟨_, rfl⟩, waits⟩
    · rw [noiseClocks, once, clocks, Nat.add_comm]

end Hissing

theorem write_enabled (power : s.enabled = true) {r : Reg} (status : r ≠ nr52) (low : r.val < 0x20)
    (val : UInt8) : (s.act (.write r val)).enabled = true := by
  rw [act, write_powered power status low, writeReg_enabled status, power]

/-- The value of NR43 that keeps the form and gives the shortest period. -/
def fastest (narrow : Bool) : UInt8 :=
  if narrow then 0x08 else 0x00

/-- After a trigger, any number of clocks can pass. -/
theorem exists_noiseClocks (placed : s.Placed) (power : s.enabled = true) (narrow : Bool)
    (ahead : 0 < s.ch4.timer) (near : s.ch4.timer < 2 ^ 30) (n : Nat) : ∃ events : List Event,
      (∀ e ∈ events, e.restarts = false ∧ e.reforms narrow = false) ∧ s.noiseClocks events = n := by
  let keep : Event := .write nr43 (fastest narrow)
  have quiet : keep.restarts = false ∧ keep.reforms narrow = false := by
    cases narrow <;> decide
  have after := write_generator placed quiet.1
  rw [if_pos ⟨rfl, power⟩] at after
  have form : (s.act keep).reg nr43 = fastest narrow := congrArg Generator.form after
  have timer : (s.act keep).ch4.timer = s.ch4.timer := congrArg Generator.timer after
  have hissing : (s.act keep).Hissing := by
    refine ⟨?_, ?_, timer ▸ ahead, timer ▸ near⟩
    · exact write_enabled power (by decide) (by decide) _
    · rw [noiseShift, form]
      cases narrow <;> decide
  obtain ⟨rest, waits, clocks⟩ := hissing.exists_clocks n
  refine ⟨keep :: rest, List.forall_mem_cons.mpr ⟨quiet, fun e member => ?_⟩, ?_⟩
  · obtain ⟨cycles, rfl⟩ := waits e member
    exact ⟨rfl, rfl⟩
  · exact (Nat.zero_add _).trans clocks

/-- **The noise repeats itself.** From a trigger on, as long as the width bit stays as it is, the
shift register has been clocked some number `n` of times, and every `n` can be had. It is a number
of fifteen bits and not zero, so that each further clock changes it. In the wide form it is full of
ones again exactly when `n` is a multiple of 32767. In the narrow form its low seven bits depend on
themselves alone, and are ones again exactly when `n` is a multiple of 127. -/
theorem noise_period (h : s.Reachable) (power : s.enabled = true) {val : UInt8}
    (trigger : hasBit val 0x80 = true) :
    let start := s.act (.write nr44 val)
    (∀ events, (∀ e ∈ events, e.restarts = false ∧ e.reforms s.noiseNarrow = false) →
      let lfsr := (start.play events).ch4.lfsr
      let n := start.noiseClocks events
      lfsr = Noise.shiftMany s.noiseNarrow n 0x7FFF ∧
        lfsr ≠ 0 ∧ lfsr < 0x8000 ∧ Noise.shift s.noiseNarrow lfsr ≠ lfsr ∧
        (s.noiseNarrow = false → (lfsr = 0x7FFF ↔ 32767 ∣ n)) ∧
        (s.noiseNarrow = true → (lfsr &&& 0x7F = 0x7F ↔ 127 ∣ n))) ∧
    (∀ n, ∃ events, (∀ e ∈ events, e.restarts = false ∧ e.reforms s.noiseNarrow = false) ∧
      start.noiseClocks events = n) ∧
    ∀ a b : UInt16, a &&& 0x7F = b &&& 0x7F →
      Noise.shift true a &&& 0x7F = Noise.shift true b &&& 0x7F := by
  intro start
  have begun : start.generator = _ := act_trigger_generator power trigger
  have placed : start.Placed := act_placed h.placed _
  obtain ⟨form, -, -⟩ := form_congr (congrArg Generator.form begun)
  have full : start.ch4.lfsr = 0x7FFF := congrArg Generator.lfsr begun
  have timer : start.ch4.timer = s.noisePeriod := congrArg Generator.timer begun
  refine ⟨fun events quiet => ?_, fun n => ?_, fun a b same => Noise.shift_narrow_low same⟩
  · intro lfsr n
    have run : lfsr = Noise.shiftMany start.noiseNarrow n start.ch4.lfsr :=
      play_shifts placed (fun e member => (quiet e member).1)
        (fun e member => form.symm ▸ (quiet e member).2)
    rw [form, full] at run
    rw [run]
    refine ⟨rfl, ?_, ?_, ?_, ?_, ?_⟩
    all_goals rw [Noise.shiftMany_eq]
    · exact Noise.iterate_ne_zero _ _
    · exact UInt16.lt_iff_toNat_lt.mpr (Noise.iterate_shift_lt (by decide) _ _)
    · exact Noise.iterate_moves _ _
    · intro wide
      rw [wide]
      exact Noise.iterate_wide_iff n
    · intro narrow
      rw [narrow]
      exact Noise.iterate_narrow_iff n
  · refine exists_noiseClocks placed ?_ _ ?_ ?_ n
    · exact write_enabled power (by decide) (by decide) val
    · exact timer ▸ s.noisePeriod_pos
    · exact timer ▸ s.noisePeriod_lt

/-- After the boot program a period is eight cycles. In the wide form the register is full of ones
after 32767 of them and not after half as many, and in the narrow form its low seven bits are after
127 and not after 126. -/
theorem noise_period_booted :
    let wide := (unpowered false).boot
    let narrow := wide.act (.write nr43 0x08)
    let broad := wide.act (.write nr44 0x80)
    let thin := narrow.act (.write nr44 0x80)
    wide.enabled = true ∧ wide.noiseNarrow = false ∧ narrow.enabled = true ∧
      narrow.noiseNarrow = true ∧
      (broad.play [.time (8 * 32767)]).ch4.lfsr = 0x7FFF ∧
      (broad.play [.time (8 * 16383)]).ch4.lfsr ≠ 0x7FFF ∧
      (thin.play [.time (8 * 127)]).ch4.lfsr &&& 0x7F = 0x7F ∧
      (thin.play [.time (8 * 126)]).ch4.lfsr &&& 0x7F ≠ 0x7F := by
  intro wide narrow broad thin
  have reachable : wide.Reachable := .boot _
  have power : wide.enabled = true := by decide
  have powered : narrow.enabled = true := by decide
  have form : wide.noiseNarrow = false := by decide
  have formed : narrow.noiseNarrow = true := by decide
  have quiet (form : Bool) (cycles : Nat) : ∀ e ∈ [Event.time cycles],
      e.restarts = false ∧ e.reforms form = false := by
    intro e member
    rw [List.mem_singleton.mp member]
    exact ⟨rfl, rfl⟩
  obtain ⟨run, -, -⟩ := noise_period reachable power (by decide : hasBit 0x80 0x80 = true)
  obtain ⟨pass, -, -⟩ :=
    noise_period (reachable.act _) powered (by decide : hasBit 0x80 0x80 = true)
  have full (cycles : Nat) : (broad.play [.time cycles]).ch4.lfsr = 0x7FFF ↔
      32767 ∣ broad.noiseClocks [.time cycles] := by
    obtain ⟨-, -, -, -, back, -⟩ := run [.time cycles] (quiet _ cycles)
    exact back form
  have low (cycles : Nat) : (thin.play [.time cycles]).ch4.lfsr &&& 0x7F = 0x7F ↔
      127 ∣ thin.noiseClocks [.time cycles] := by
    obtain ⟨-, -, -, -, -, back⟩ := pass [.time cycles] (quiet _ cycles)
    exact back formed
  exact ⟨power, form, powered, formed, (full _).mpr (by decide), mt (full _).mp (by decide),
    (low _).mpr (by decide), mt (low _).mp (by decide)⟩

end Sound

end DotMatrix
