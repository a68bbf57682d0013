import DotMatrix.Proofs.Snapshot.Scope
import DotMatrix.Proofs.Sound.Beside

/-!
# Sound without its listener

The sampler takes samples and has no other effect: what the registers and the sequencer do is the
same with any sampler, and leaves it alone (`Deaf`). So neither the recorder nor the rate that the
host asked for decides what a snapshot keeps, and the sampler as a whole decides nothing of what is
emulated.

Results:
* `deaf_write`, `deaf_stepSequencerMany`, `deaf_stepChannels`: the operations beside sampling.
* `Deaf.sampler`, `Deaf.within`: they leave the sampler alone, and do the same to what counts.
* `step_within`, `step_listening`: time.
-/

namespace DotMatrix

/-- The sampler of a sound unit. -/
structure Sampler where
  period : Nat
  cycles : Nat
  rate : Nat
  recorder : Option (Array Sample)

/-- What counts of a sampler. -/
def Sampler.within (scope : Scope) (t : Sampler) : Sampler where
  period := scope.choice 0 t.period
  cycles := scope.choice 0 t.cycles
  rate := Sound.defaultSampleRate
  recorder := none

namespace Sound

/-- The sampler of the unit. -/
def sampler (s : Sound) : Sampler :=
  { period := s.samplePeriod, cycles := s.sampleCycles, rate := s.sampleRate
    recorder := s.recorder }

/-- The unit with another sampler. -/
def withSampler (s : Sound) (t : Sampler) : Sound :=
  { s with
    samplePeriod := t.period, sampleCycles := t.cycles, sampleRate := t.rate
    recorder := t.recorder }

/-- An operation that does the same with any sampler, and leaves it alone. -/
def Deaf (f : Sound → Sound) : Prop :=
  ∀ s t, (f s).withSampler t = f (s.withSampler t)

theorem Deaf.sampler {f : Sound → Sound} (h : Deaf f) (s : Sound) : (f s).sampler = s.sampler :=
  (congrArg Sound.sampler (h s s.sampler).symm : (f s).sampler = _)

/-- Whether there is a recorder, how often it is given a sample, and, if never, the cycles that have
been counted. -/
def listening (s : Sound) : Bool × Nat × Nat :=
  (s.recorder.isSome, s.samplePeriod, if s.samplePeriod = 0 then s.sampleCycles else 0)

theorem Deaf.listening {f : Sound → Sound} (h : Deaf f) (s : Sound) :
    (f s).listening = s.listening := by
  have kept := h.sampler s
  simp only [Sound.sampler, Sampler.mk.injEq] at kept
  obtain ⟨period, cycles, -, recorder⟩ := kept
  simp only [Sound.listening, period, cycles, recorder]

theorem within_of_sampler (scope : Scope) (s : Sound) :
    s.within scope = s.withSampler (s.sampler.within scope) := rfl

theorem Deaf.within {f : Sound → Sound} (h : Deaf f) (scope : Scope) (s : Sound) :
    (f s).within scope = f (s.within scope) := by
  rw [within_of_sampler, h.sampler, h s, within_of_sampler]

/-! ## What the registers and the sequencer do -/

/-- The sampler lies beside the unit. -/
theorem beside_sampler (t : Sampler) : Beside (fun _ => True) (·.withSampler t) where
  reg _ _ _ := rfl
  setReg _ _ _ _ := rfl
  parts _ := rfl
  withParts _ _ := rfl
  colour _ := rfl
  powerOff _ := rfl
  named _ := trivial
  wave _ := trivial

/-- Steps of the sequencer. -/
theorem deaf_stepSequencerMany (n : Nat) : Deaf (stepSequencerMany n) := by
  intro s t
  induction n generalizing s with
  | zero => rfl
  | succ n ih => rw [stepSequencerMany, ih, (beside_sampler t).stepSequencer, stepSequencerMany]

/-- Writes. -/
theorem deaf_write (addr : UInt16) (val : UInt8) : Deaf (fun s => s.write addr val) := fun s t =>
  (beside_sampler t).write s trivial trivial val

/-- A read does not depend on the sampler. -/
theorem within_read (scope : Scope) (s : Sound) (addr : UInt16) :
    (s.within scope).read addr = s.read addr := rfl

/-! ## Time -/

/-- Time, without the sampler. -/
theorem deaf_stepChannels (cycles : Nat) : Deaf (fun s => s.stepChannels cycles) := fun _ _ => rfl

theorem emit_within (scope : Scope) (s : Sound) (n : Nat) :
    (s.emit n).within scope = s.within scope := by
  rw [emit, apply_ite (within scope)]
  exact ite_self _

/-- Without a recorder nothing is recorded. -/
theorem within_emit (scope : Scope) (s : Sound) (n : Nat) :
    (s.within scope).emit n = s.within scope := by
  rw [emit]
  exact ite_self _

theorem stepSampler_within (scope : Scope) (s : Sound) (cycles : Nat) :
    (s.stepSampler cycles).within scope = (s.within scope).stepSampler cycles := by
  unfold stepSampler
  cases scope with
  | snapshot =>
    by_cases idle : s.samplePeriod = 0
    · have still : (s.within .snapshot).samplePeriod = 0 := idle
      rw [if_pos idle, if_pos still]
    · have runs : ¬ (s.within .snapshot).samplePeriod = 0 := idle
      rw [if_neg idle, if_neg runs, emit_within]
      exact (within_emit .snapshot
        { s with sampleCycles := (s.sampleCycles + cycles) % s.samplePeriod } _).symm
  | emulation =>
    -- No period counts, so that the sampler of what is emulated stands still.
    have still : (s.within .emulation).samplePeriod = 0 := rfl
    rw [if_pos still, apply_ite (within .emulation), emit_within]
    exact ite_self _

/-- Time. -/
theorem step_within (scope : Scope) (s : Sound) (cycles : Nat) :
    (s.step cycles).within scope = (s.within scope).step cycles := by
  have channels := (deaf_stepChannels cycles).within scope s
  simp only [step, stepSampler_within, apply_ite (within scope), channels]
  rfl

theorem emit_listening (s : Sound) (n : Nat) : (s.emit n).listening = s.listening := by
  unfold emit
  split
  · rfl
  · simp only [listening, Option.isSome_map]

theorem stepSampler_listening (s : Sound) (cycles : Nat) :
    (s.stepSampler cycles).listening = s.listening := by
  unfold stepSampler
  by_cases idle : s.samplePeriod = 0
  · rw [if_pos idle]
  · rw [if_neg idle, emit_listening]
    simp only [listening, idle, if_false]

theorem step_listening (s : Sound) (cycles : Nat) : (s.step cycles).listening = s.listening := by
  simp only [step, stepSampler_listening]
  split
  · exact (deaf_stepChannels cycles).listening s
  · rfl

end Sound

end DotMatrix
