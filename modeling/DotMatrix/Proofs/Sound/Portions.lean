import DotMatrix.Proofs.Sound.Stored
import DotMatrix.Proofs.Sound.Turn

/-!
# Time in portions

A channel whose countdown runs out is reloaded until the countdown is positive again, and each
reload moves it by one place. How often that happens depends on the time that passes and not on the
portions in which it passes (`reloads_portions`), and so does the number of samples that the sampler
takes. The samples themselves do not: all those of a portion are taken at its end. Nor does the
window in which the wave byte can be reached, which each portion opens anew.

Results:
* `reloads_portions`: the reloads of two portions.
* `Pulse.step_step`, `stepWave_stepWave`, `stepNoise_stepNoise`: the channels.
* `Sampler.take_take`, `play_taken`: the sampler.
* **`step_portions`**: the unit, and the number of the samples.
-/

namespace DotMatrix

/-! ## Countdowns -/

section Reloads

variable {t period : Int}

theorem reloads_running (running : 0 < t) (period : Int) : reloads t period = 0 :=
  if_pos running

theorem reloads_out (out : ¬ 0 < t) (period : Int) : reloads t period ≠ 0 := by
  rw [reloads, if_neg out]
  exact Nat.succ_ne_zero _

theorem reloads_pos (h : 0 < period) : 0 < t + reloads t period * period := by
  unfold reloads
  split
  next running => simpa using running
  next out =>
    have whole : 0 ≤ -t / period := Int.ediv_nonneg (by omega) (by omega)
    have past : -t < (-t / period + 1) * period := Int.lt_ediv_add_one_mul_self (-t) h
    rw [Nat.cast_add, Int.toNat_of_nonneg whole, Nat.cast_one]
    omega

/-- No fewer reloads do. -/
theorem reloads_le (h : 0 < period) {k : Nat} (enough : 0 < t + k * period) :
    reloads t period ≤ k := by
  unfold reloads
  split
  · exact Nat.zero_le k
  next out =>
    have below : -t / period < k := Int.ediv_lt_of_lt_mul h (by omega)
    have whole : 0 ≤ -t / period := Int.ediv_nonneg (by omega) (by omega)
    omega

/-- Of two portions of time, the second finds the countdown as the first has left it. -/
theorem reloads_portions (h : 0 < period) (t : Int) (b : Nat) :
    reloads (t - b) period =
      reloads t period + reloads (t + reloads t period * period - b) period := by
  have first := reloads_pos (t := t) h
  have second := reloads_pos (t := t + reloads t period * period - b) h
  have both := reloads_pos (t := t - b) h
  apply Nat.le_antisymm
  · refine reloads_le h ?_
    rw [Nat.cast_add, Int.add_mul]
    omega
  · have some : reloads t period ≤ reloads (t - b) period := reloads_le h (by omega)
    obtain ⟨more, total⟩ := Nat.exists_eq_add_of_le some
    rw [total, Nat.cast_add, Int.add_mul] at both
    have rest : reloads (t + reloads t period * period - b) period ≤ more :=
      reloads_le h (by omega)
    omega

theorem timer_portions (h : 0 < period) (t : Int) (b : Nat) :
    t - b + reloads (t - b) period * period =
      t + reloads t period * period - b +
        reloads (t + reloads t period * period - b) period * period := by
  rw [reloads_portions h t b, Nat.cast_add, Int.add_mul]
  omega

end Reloads

/-- The place `k` moves on, of `n` places in a circle. -/
def placeAfter (n : Nat) (place : UInt8) (k : Nat) : UInt8 :=
  if k = 0 then place else ((place.toNat + k) % n).toUInt8

theorem placeAfter_zero (n : Nat) (place : UInt8) : placeAfter n place 0 = place :=
  if_pos rfl

theorem placeAfter_add {n : Nat} (some : 0 < n) (few : n ≤ 256) (place : UInt8) (j k : Nat) :
    placeAfter n (placeAfter n place j) k = placeAfter n place (j + k) := by
  unfold placeAfter
  by_cases first : j = 0
  · simp [first]
  by_cases second : k = 0
  · simp [second]
  have below : (place.toNat + j) % n < 2 ^ 8 :=
    Nat.lt_of_lt_of_le (Nat.mod_lt _ some) few
  have both : ¬ j + k = 0 := by omega
  rw [if_neg second, if_neg first, if_neg both]
  change (((place.toNat + j) % n % 2 ^ 8 + k) % n).toUInt8 = _
  rw [Nat.mod_eq_of_lt below, Nat.mod_add_mod, Nat.add_assoc]

/-! ## Channels -/

theorem signedCount_eq {n : Nat} (short : n < 2 ^ 30) : signedCount n = n :=
  if_pos (by omega)

variable {a b : Nat}

theorem Pulse.step_eq (c : Pulse) {n : Nat} (short : n < 2 ^ 30) (period : Int) :
    c.step n period = { c with
      timer := c.timer - n + reloads (c.timer - n) period * period
      duty := placeAfter 8 c.duty (reloads (c.timer - n) period) } := by
  simp only [step, signedCount_eq short]
  split
  next running =>
    rw [reloads_running running, placeAfter_zero, Nat.cast_zero, Int.zero_mul, Int.add_zero]
  next out => rw [placeAfter, if_neg (reloads_out out period)]

theorem Pulse.step_step (c : Pulse) (short : a + b < 2 ^ 30) {period : Int} (h : 0 < period) :
    (c.step a period).step b period = c.step (a + b) period := by
  rw [step_eq _ (by omega), step_eq _ (by omega), step_eq _ short, Nat.cast_add, ← Int.sub_sub]
  simp only [placeAfter_add (by decide : 0 < 8) (by decide)]
  rw [timer_portions h (c.timer - a) b, reloads_portions h (c.timer - a) b]

theorem Noise.shiftMany_add (narrow : Bool) (j k : Nat) (lfsr : UInt16) :
    shiftMany narrow k (shiftMany narrow j lfsr) = shiftMany narrow (j + k) lfsr := by
  induction j generalizing lfsr with
  | zero => rw [Nat.zero_add, shiftMany]
  | succ j ih => rw [Nat.succ_add, shiftMany, shiftMany, ih]

theorem Noise.step_eq (c : Noise) (n : Nat) (period : Int) (narrow : Bool) :
    c.step n period narrow = { c with
      timer := c.timer - signedCount n + reloads (c.timer - signedCount n) period * period
      lfsr := shiftMany narrow (reloads (c.timer - signedCount n) period) c.lfsr } := by
  simp only [step]
  split
  next running =>
    rw [reloads_running running, shiftMany, Nat.cast_zero, Int.zero_mul, Int.add_zero]
  next out => rfl

theorem Noise.step_step (c : Noise) (short : a + b < 2 ^ 30) {period : Int} (h : 0 < period)
    (narrow : Bool) :
    (c.step a period narrow).step b period narrow = c.step (a + b) period narrow := by
  rw [step_eq, step_eq, step_eq, signedCount_eq short, signedCount_eq (by omega : a < 2 ^ 30),
    signedCount_eq (by omega : b < 2 ^ 30), Nat.cast_add, ← Int.sub_sub]
  simp only [shiftMany_add]
  rw [timer_portions h (c.timer - a) b, reloads_portions h (c.timer - a) b]

namespace Wave

/-- The wave channel, with no window in which its byte can be reached. -/
def shut (c : Wave) : Wave :=
  { c with window := 0 }

/-- The channel `n` cycles later, where `byte` is the wave memory. -/
def later (c : Wave) (n : Nat) (period : Int) (byte : UInt8 → UInt8) : Wave :=
  let k := reloads (c.timer - n) period
  { c with
    timer := c.timer - n + k * period
    position := placeAfter 32 c.position k
    buffer := if k = 0 then c.buffer else byte (placeAfter 32 c.position k) }

theorem later_later (c : Wave) {period : Int} (h : 0 < period) (byte : UInt8 → UInt8) :
    (c.later a period byte).later b period byte = c.later (a + b) period byte := by
  unfold later
  rw [Nat.cast_add, ← Int.sub_sub]
  simp only [placeAfter_add (by decide : 0 < 32) (by decide)]
  rw [timer_portions h (c.timer - a) b, reloads_portions h (c.timer - a) b]
  generalize reloads (c.timer - a + _ - b) period = k
  by_cases still : k = 0
  · simp only [still, if_true, Nat.add_zero]
  · have both : ¬ reloads (c.timer - a) period + k = 0 := fun none => still (by omega)
    simp only [if_neg still, if_neg both]

end Wave

namespace Sound

theorem pulsePeriod_pos (low high : UInt8) : 0 < pulsePeriod (frequencyOf low high) := by
  have bits := frequencyOf_lt low high
  unfold pulsePeriod
  omega

theorem wavePeriod_pos (s : Sound) : 0 < s.wavePeriod := by
  have bits := frequencyOf_lt (s.reg nr33) (s.reg nr34)
  unfold wavePeriod frequency3
  omega

theorem noisePeriod_pos (s : Sound) : 0 < s.noisePeriod := by
  have some : 0 < noiseDivisor (s.reg nr43) := by
    unfold noiseDivisor
    split
    · decide
    next field =>
      have nonzero : (s.reg nr43 &&& 0x07).toNat ≠ 0 := fun zero =>
        field (beq_iff_eq.mpr (UInt8.toNat_inj.mp zero))
      omega
  unfold noisePeriod
  rw [Nat.shiftLeft_eq]
  exact Int.natCast_pos.mpr (Nat.mul_pos some (Nat.two_pow_pos _))

variable (s : Sound)

/-- The wave byte at a place. -/
def waveByte (place : UInt8) : UInt8 :=
  s.reg (Reg.ofNat (0x20 + (place >>> 1).toNat))

theorem stepWave_eq {n : Nat} (short : n < 2 ^ 30) :
    (s.stepWave n).shut = s.ch3.shut.later n s.wavePeriod s.waveByte := by
  simp only [stepWave, signedCount_eq short]
  split
  next running =>
    rw [Wave.later, Wave.shut, Wave.shut, reloads_running running, placeAfter_zero, Nat.cast_zero,
      Int.zero_mul, Int.add_zero]
    rfl
  next out =>
    have some := reloads_out out s.wavePeriod
    rw [Wave.later, Wave.shut, Wave.shut, if_neg some, placeAfter, if_neg some]
    rfl

theorem stepWave_stepWave (short : a + b < 2 ^ 30) :
    (({ s with ch3 := s.stepWave a } : Sound).stepWave b).shut = (s.stepWave (a + b)).shut := by
  have first := stepWave_eq s (n := a) (by omega)
  have second := stepWave_eq { s with ch3 := s.stepWave a } (n := b) (by omega)
  rw [second, stepWave_eq s short, ← Wave.later_later _ s.wavePeriod_pos, ← first]
  rfl

/-- Where the shift of the period stops the noise channel, it is stopped for all portions. -/
theorem stepNoise_stepNoise (short : a + b < 2 ^ 30) :
    ({ s with ch4 := s.stepNoise a } : Sound).stepNoise b = s.stepNoise (a + b) := by
  by_cases runs : s.noiseShift < 14
  · have first : s.stepNoise a = s.ch4.step a s.noisePeriod s.noiseNarrow := if_pos runs
    calc ({ s with ch4 := s.stepNoise a } : Sound).stepNoise b
      _ = (s.stepNoise a).step b s.noisePeriod s.noiseNarrow := if_pos runs
      _ = (s.ch4.step a s.noisePeriod s.noiseNarrow).step b s.noisePeriod s.noiseNarrow := by
        rw [first]
      _ = s.ch4.step (a + b) s.noisePeriod s.noiseNarrow :=
        s.ch4.step_step short s.noisePeriod_pos s.noiseNarrow
      _ = s.stepNoise (a + b) := (if_pos runs).symm
  · calc ({ s with ch4 := s.stepNoise a } : Sound).stepNoise b
      _ = s.stepNoise a := if_neg runs
      _ = s.ch4 := if_neg runs
      _ = s.stepNoise (a + b) := (if_neg runs).symm

/-- The unit, with the window of the wave channel shut. -/
def shut (s : Sound) : Sound :=
  { s with ch3 := s.ch3.shut }

theorem stepChannels_stepChannels (short : a + b < 2 ^ 30) :
    ((s.stepChannels a).stepChannels b).shut = (s.stepChannels (a + b)).shut := by
  have one := s.ch1.step_step short (pulsePeriod_pos (s.reg nr13) (s.reg nr14))
  have two := s.ch2.step_step short (pulsePeriod_pos (s.reg nr23) (s.reg nr24))
  have three := s.stepWave_stepWave short
  have four := s.stepNoise_stepNoise short
  change ({ s with
    ch1 := (s.ch1.step a (pulsePeriod s.frequency1)).step b (pulsePeriod s.frequency1)
    ch2 := (s.ch2.step a (pulsePeriod s.frequency2)).step b (pulsePeriod s.frequency2)
    ch3 := (({ s with ch3 := s.stepWave a } : Sound).stepWave b).shut
    ch4 := ({ s with ch4 := s.stepNoise a } : Sound).stepNoise b } : Sound) = _
  rw [frequency1, frequency2, one, two, three, four]
  rfl

end Sound

/-! ## The sampler -/

namespace Sampler

/-- How many samples the recorder holds, if there is one. -/
def heard (t : Sampler) : Option Nat :=
  t.recorder.map Array.size

/-- The sampler without its samples. -/
def silent (t : Sampler) : Sampler :=
  { t with recorder := none }

/-- `n` cycles pass: the sample of now is taken once for every whole period. -/
def take (t : Sampler) (n : Nat) (now : Sample) : Sampler :=
  if t.period = 0 then t
  else { t with
    cycles := (t.cycles + n) % t.period
    recorder := t.recorder.map (· ++ Array.replicate ((t.cycles + n) / t.period) now) }

/-- The cycles that are left over and the periods that have passed, from one portion to the next. -/
theorem periods_add {period : Nat} (h : 0 < period) (c a b : Nat) :
    ((c + a) % period + b) % period = (c + (a + b)) % period ∧
      (c + a) / period + ((c + a) % period + b) / period = (c + (a + b)) / period := by
  constructor
  · rw [Nat.mod_add_mod, Nat.add_assoc]
  · have total : c + (a + b) = period * ((c + a) / period) + ((c + a) % period + b) := by
      have split := Nat.div_add_mod (c + a) period
      omega
    rw [total, Nat.mul_add_div h]

theorem take_period (t : Sampler) (n : Nat) (now : Sample) : (t.take n now).period = t.period := by
  unfold take
  split <;> rfl

theorem take_cycles (t : Sampler) (h : 0 < t.period) (n : Nat) (now : Sample) :
    (t.take n now).cycles = (t.cycles + n) % t.period := by
  rw [take, if_neg (Nat.pos_iff_ne_zero.mp h)]

theorem take_heard (t : Sampler) (h : 0 < t.period) (n : Nat) (now : Sample) :
    (t.take n now).heard = t.heard.map (· + (t.cycles + n) / t.period) := by
  rw [take, if_neg (Nat.pos_iff_ne_zero.mp h)]
  unfold heard
  cases t.recorder with
  | none => rfl
  | some samples => simp

/-- Two portions take as many samples as both at once, of whatever they sound like. -/
theorem take_take (t : Sampler) (a b : Nat) (x y z : Sample) :
    ((t.take a x).take b y).silent = (t.take (a + b) z).silent ∧
      ((t.take a x).take b y).heard = (t.take (a + b) z).heard := by
  by_cases idle : t.period = 0
  · have still (n : Nat) (now : Sample) : t.take n now = t := if_pos idle
    rw [still, still, still]
    exact ⟨rfl, rfl⟩
  · have runs : 0 < t.period := Nat.pos_of_ne_zero idle
    have later : 0 < (t.take a x).period := by rwa [take_period]
    obtain ⟨left, taken⟩ := periods_add runs t.cycles a b
    constructor
    · simp only [take, if_neg idle, silent, left, Option.map]
    · rw [take_heard _ later, take_heard _ runs, take_heard _ runs, take_period,
        take_cycles _ runs, Option.map_map, ← taken]
      simp only [Function.comp_def, Nat.add_assoc]

end Sampler

namespace Sound

variable (s : Sound)

theorem stepSampler_eq (n : Nat) :
    s.stepSampler n = s.withSampler (s.sampler.take n s.sample) := by
  unfold stepSampler Sampler.take
  by_cases idle : s.samplePeriod = 0
  · have still : s.sampler.period = 0 := idle
    rw [if_pos idle, if_pos still]
    rfl
  · have runs : ¬ s.sampler.period = 0 := idle
    rw [if_neg idle, if_neg runs, emit]
    split
    next none => simp [withSampler, sampler, none]
    · rfl

/-- The unit after `n` cycles, as far as its channels go. -/
def onward (s : Sound) (n : Nat) : Sound :=
  if s.enabled then s.stepChannels n else s

theorem deaf_onward (n : Nat) : Deaf (·.onward n) := by
  intro s t
  simp only [onward, apply_ite (withSampler · t), deaf_stepChannels n s t]
  rfl

/-- Time passes for the channels first, and then for the sampler. -/
theorem step_eq (n : Nat) :
    s.step n = (s.onward n).withSampler (s.sampler.take n (s.onward n).sample) := by
  rw [step, stepSampler_eq]
  exact congrArg (fun t : Sampler => (s.onward n).withSampler (t.take n (s.onward n).sample))
    ((deaf_onward n).sampler s)

theorem onward_onward (short : a + b < 2 ^ 30) :
    ((s.onward a).onward b).shut = (s.onward (a + b)).shut := by
  unfold onward
  by_cases power : s.enabled
  · have still : (s.stepChannels a).enabled = true := power
    rw [if_pos power, if_pos still, if_pos power]
    exact s.stepChannels_stepChannels short
  · rw [if_neg power, if_neg power, if_neg power]

/-- The unit without what the portions of time decide: the window of the wave channel, and what the
samples are. -/
def unheard (s : Sound) : Sound :=
  s.shut.withSampler s.sampler.silent

theorem unheard_withSampler (t : Sampler) :
    (s.withSampler t).unheard = s.shut.withSampler t.silent := rfl

theorem step_step (short : a + b < 2 ^ 30) :
    ((s.step a).step b).unheard = (s.step (a + b)).unheard ∧
      ((s.step a).step b).sampler.heard = (s.step (a + b)).sampler.heard := by
  have sampler : (s.step a).sampler = s.sampler.take a (s.onward a).sample := by
    rw [step_eq]
    rfl
  have channels : (s.step a).onward b = ((s.onward a).onward b).withSampler (s.step a).sampler := by
    rw [step_eq]
    exact (deaf_onward b _ _).symm
  obtain ⟨silent, heard⟩ := s.sampler.take_take a b (s.onward a).sample
    ((s.step a).onward b).sample (s.onward (a + b)).sample
  rw [step_eq (s.step a), step_eq s (a + b), sampler]
  refine ⟨?_, heard⟩
  rw [unheard_withSampler, unheard_withSampler, silent, channels, ← onward_onward s short]
  rfl

end Sound

/-! ## The samples since the rate was chosen -/

/-- In `total` cycles one sample has been taken for every whole period, beside those before. -/
structure Sampler.Taken (t : Sampler) (period before total : Nat) : Prop where
  every : t.period = period
  left : t.cycles = total % period
  heard : t.heard = some (before + total / period)

theorem Sampler.Taken.take {t : Sampler} {period before total : Nat}
    (h : t.Taken period before total) (pos : 0 < period) (n : Nat) (now : Sample) :
    (t.take n now).Taken period before (total + n) := by
  have runs : 0 < t.period := h.every.symm ▸ pos
  have passed := (periods_add pos 0 total n).2
  rw [Nat.zero_add, Nat.zero_add] at passed
  refine ⟨(t.take_period n now).trans h.every, ?_, ?_⟩
  · rw [t.take_cycles runs, h.left, h.every, Nat.mod_add_mod]
  · rw [t.take_heard runs, h.heard, h.left, h.every, ← passed]
    simp only [Option.map_some, Nat.add_assoc]

namespace Sound

/-- The cycles that pass with an event. -/
def Event.cycles : Event → Nat
  | .time n => n
  | _ => 0

variable {s : Sound} {period before total : Nat}

theorem act_taken (h : s.sampler.Taken period before total) (pos : 0 < period) (e : Event) :
    (s.act e).sampler.Taken period before (total + e.cycles) := by
  cases e with
  | write r val =>
    have still : (s.act (.write r val)).sampler = s.sampler := (deaf_write r.address val).sampler s
    rwa [still]
  | clock =>
    have still : (s.act .clock).sampler = s.sampler := (deaf_stepSequencerMany 1).sampler s
    rwa [still]
  | time n =>
    rw [act, step_eq]
    exact h.take pos n _

theorem play_taken (h : s.sampler.Taken period before total) (pos : 0 < period)
    (events : List Event) :
    (s.play events).sampler.Taken period before (total + (events.map Event.cycles).sum) := by
  induction events generalizing s total with
  | nil => exact h
  | cons e rest ih =>
    have next := ih (act_taken h pos e)
    rw [Nat.add_assoc] at next
    exact next

/-- **Time can be split.** Two portions of time leave the unit as both at once do, but for the
window in which the wave byte can be reached, and the recorder is given as many samples. Since a
recorder was installed, it has been given one sample for every whole period of the time that has
passed, in whatever portions and with whatever else happened meanwhile. -/
theorem step_portions :
    (∀ (s : Sound) (a b : Nat), a + b < 2 ^ 30 →
      ((s.step a).step b).unheard = (s.step (a + b)).unheard ∧
        ((s.step a).step b).sampler.heard = (s.step (a + b)).sampler.heard) ∧
    ∀ (s : Sound) (samples : Array Sample) (rate : Nat) (events : List Event),
      let t := s.setRecorder (some samples) rate
      0 < t.samplePeriod ∧ (t.play events).sampler.heard =
        some (samples.size + (events.map Event.cycles).sum / t.samplePeriod) := by
  refine ⟨fun s a b short => s.step_step short, fun s samples rate events => ?_⟩
  intro t
  have pos : 0 < t.samplePeriod := Nat.lt_of_lt_of_le Nat.one_pos (Nat.le_max_right _ _)
  have start : t.sampler.Taken t.samplePeriod samples.size 0 :=
    ⟨rfl, (Nat.zero_mod _).symm, by rw [Nat.zero_div]; rfl⟩
  have taken := play_taken start pos events
  rw [Nat.zero_add] at taken
  exact ⟨pos, taken.heard⟩

/-- A thousand cycles after the boot program: at 48000 samples a second, eleven samples have been
taken, although the power went off on the way. -/
theorem step_portions_booted :
    let s := (unpowered false).boot.setRecorder (some #[]) 48000
    100 + 900 < 2 ^ 30 ∧ ((s.step 100).step 900).unheard = (s.step 1000).unheard ∧
      (s.play [.time 100, .write nr52 0x00, .time 900]).sampler.heard = some 11 := by
  intro s
  obtain ⟨split, taken⟩ := step_portions
  have short : 100 + 900 < 2 ^ 30 := by decide
  have heard := (taken (unpowered false).boot #[] 48000
    [.time 100, .write nr52 0x00, .time 900]).2
  exact ⟨short, (split s 100 900 short).1, heard.trans (by decide)⟩

end Sound

end DotMatrix
