import DotMatrix.Proofs.Sound.Portions

/-!
# What can be told of the sound unit

Between NR52 and the wave memory lie registers without a name (`Reg.Spare`). With power they keep what
is written to them, but they read as ones and nothing else ever looks at them. So they lie beside the
unit, as the recorder does, and what can be told of a unit (`visible`) is what remains without both.
What can be told of it next depends on that alone (`visible_act`): two units of which the same can be
told stay so, whatever happens, and hand the same samples to their hosts.

Results:
* `beside_bare`: the spare registers lie beside the unit.
* `visible_act`: one event.
* `visible_read`, `visible_sample`, `visible_handed`, `play_recorder`: reads and samples.
* **`Alike.play`**, `Alike.indistinct`: two units.
-/

namespace DotMatrix

namespace Sound

variable {s t : Sound} {e : Event} {r : Reg}

/-! ## Spare registers -/

/-- A register between NR52 and the wave memory: with power it keeps what is written to it, but it
reads as ones. -/
def Reg.Spare (r : Reg) : Prop :=
  0x17 ≤ r.val ∧ r.val < 0x20

instance (r : Reg) : Decidable r.Spare :=
  inferInstanceAs (Decidable (_ ∧ _))

/-- Registers with nothing in the spare ones. They are not to be worked out one by one when two
units are compared. -/
@[irreducible]
def bareRegs (regs : Vector UInt8 0x30) : Vector UInt8 0x30 :=
  Vector.ofFn fun r => if Reg.Spare r then 0 else regs.get r

/-- The unit with nothing in the spare registers. -/
def bare (s : Sound) : Sound :=
  { s with regs := bareRegs s.regs }

theorem bare_reg (s : Sound) (r : Reg) : s.bare.reg r = if r.Spare then 0 else s.reg r := by
  simp only [reg, bare, bareRegs, Fin.getElem_fin, Vector.getElem_ofFn]
  rfl

theorem regs_ext (same : ∀ r, s.reg r = t.reg r) : s.regs = t.regs :=
  Vector.ext fun i inside => same ⟨i, inside⟩

theorem setReg_bare_spare (spare : r.Spare) (s : Sound) (val : UInt8) :
    (s.setReg r val).bare = s.bare := by
  have same (r' : Reg) : (s.setReg r val).bare.reg r' = s.bare.reg r' := by
    rw [bare_reg, bare_reg, reg_setReg]
    by_cases here : r' = r
    · rw [here, if_pos spare, if_pos spare]
    · rw [if_neg here]
  exact congrArg (fun regs => { s with regs := regs }) (regs_ext same)

theorem setReg_bare (seen : ¬ r.Spare) (s : Sound) (val : UInt8) :
    (s.setReg r val).bare = s.bare.setReg r val := by
  have same (r' : Reg) : (s.setReg r val).bare.reg r' = (s.bare.setReg r val).reg r' := by
    rw [bare_reg, reg_setReg, reg_setReg, bare_reg]
    by_cases here : r' = r
    · rw [here, if_neg seen, if_pos rfl, if_pos rfl]
    · rw [if_neg here, if_neg here]
  exact congrArg (fun regs => { s with regs := regs }) (regs_ext same)

theorem powerOff_bare (s : Sound) : s.powerOff.bare = s.bare.powerOff := by
  have same (r : Reg) : s.powerOff.bare.reg r = s.bare.powerOff.reg r := by
    rw [bare_reg, powerOff_reg, powerOff_reg, bare_reg]
    by_cases low : r.val ≤ 0x16
    · rw [if_pos low, if_pos low, ite_self]
    · rw [if_neg low, if_neg low]
  exact congrArg (fun regs => { s.powerOff with regs := regs }) (regs_ext same)

/-- The spare registers lie beside the unit. -/
theorem beside_bare : Beside (fun r => ¬ r.Spare) bare where
  reg s r seen := by rw [bare_reg, if_neg seen]
  setReg s r seen val := setReg_bare seen s val
  parts _ := rfl
  withParts _ _ := rfl
  colour _ := rfl
  powerOff s := powerOff_bare s
  named low spare := absurd spare.1 (by omega)
  wave high spare := absurd spare.2 (by omega)

/-! ## What can be told of a unit -/

/-- What can be told of a unit: no spare registers, and of the sampler the period and its phase. -/
def visible (s : Sound) : Sound :=
  s.bare.within .snapshot

/-- A write to a spare register. -/
def Event.hidden : Event → Prop
  | .write r _ => r.Spare
  | _ => False

instance : DecidablePred Event.hidden
  | .write r _ => inferInstanceAs (Decidable r.Spare)
  | .clock | .time _ => inferInstanceAs (Decidable False)

theorem played_seen (placed : s.Placed) : ¬ s.playedReg.Spare := fun spare =>
  absurd spare.2 (Nat.not_lt.mpr (playedReg_wave placed.place))

theorem onward_bare (s : Sound) (n : Nat) : (s.onward n).bare = s.bare.onward n := by
  simp only [onward, apply_ite bare, beside_bare.stepChannels, beside_bare.enabled]

theorem act_bare (placed : s.Placed) (seen : ¬ e.hidden) : (s.act e).bare = s.bare.act e := by
  cases e with
  | write r val =>
    refine beside_bare.write s (played_seen placed) ?_ val
    rwa [regAt_address]
  | clock => exact beside_bare.stepSequencer s
  | time n =>
    have sample : (s.bare.onward n).sample = (s.onward n).sample := by
      rw [← onward_bare, beside_bare.sample]
    rw [act, act, step_eq, step_eq, sample, ← onward_bare]
    rfl

theorem writeReg_spare (spare : r.Spare) (val : UInt8) : s.writeReg r val = s.setReg r val := by
  have plain : roleOf r = .plain := by
    revert r
    decide
  simp only [writeReg, beforeStore, afterStore, plain]

/-- A spare register is written with power, and with no further effect. -/
theorem act_hidden (s : Sound) (hidden : e.hidden) : (s.act e).bare = s.bare := by
  cases e with
  | clock | time => exact absurd hidden not_false
  | write r val =>
    have spare : r.Spare := hidden
    have other : r ≠ nr52 := fun here => absurd spare.1 (by subst here; decide)
    have low : ¬ 0x20 ≤ r.val := Nat.not_le.mpr spare.2
    simp only [act, write, address_power, address_wave, regAt_address, decide_eq_true_eq]
    rw [if_neg other, if_neg low]
    split
    · rw [writeReg_spare spare, setReg_bare_spare spare]
    · rfl

theorem act_within (s : Sound) (e : Event) :
    (s.act e).within .snapshot = (s.within .snapshot).act e := by
  cases e with
  | write r val => exact (deaf_write r.address val).within .snapshot s
  | clock => exact (deaf_stepSequencerMany 1).within .snapshot s
  | time n => exact step_within .snapshot s n

/-- What can be told of a unit decides what can be told of it next. -/
theorem visible_act (placed : s.Placed) (e : Event) :
    (s.act e).visible = if e.hidden then s.visible else s.visible.act e := by
  split
  next hidden => rw [visible, act_hidden s hidden, visible]
  next seen => rw [visible, act_bare placed seen, act_within, visible]

/-! ### Questions -/

theorem visible_reg (s : Sound) (seen : ¬ r.Spare) : s.visible.reg r = s.reg r :=
  beside_bare.reg s seen

theorem visible_sample (s : Sound) : s.visible.sample = s.sample :=
  beside_bare.sample s

/-- A spare register reads as ones. -/
theorem read_spare (s : Sound) (spare : r.Spare) : s.read r.address = 0xFF := by
  have mask : readMask r = 0xFF := by
    revert r
    decide
  have low : (decide (0xFF30 ≤ r.address)) = false :=
    decide_eq_false fun wave => absurd ((address_wave r).mp wave) (Nat.not_le.mpr spare.2)
  simp only [read, low, Bool.false_and, Bool.false_eq_true, if_false, regAt_address, mask]
  exact UInt8.or_neg_one

theorem visible_read (placed : s.Placed) (r : Reg) :
    s.visible.read r.address = s.read r.address := by
  by_cases spare : r.Spare
  · rw [read_spare _ spare, read_spare _ spare]
  · refine (within_read .snapshot s.bare r.address).trans ?_
    refine beside_bare.read s (played_seen placed) ?_
    rwa [regAt_address]

/-- The samples that the host is handed with an event. -/
def handed (s : Sound) : Event → Array Sample
  | .time n => Array.replicate ((s.sampleCycles + n) / s.samplePeriod) (s.onward n).sample
  | _ => #[]

theorem visible_handed (s : Sound) (e : Event) : s.visible.handed e = s.handed e := by
  cases e with
  | write | clock => rfl
  | time n =>
    have sample : (s.visible.onward n).sample = (s.onward n).sample := by
      refine Eq.trans ?_ (visible_sample (s.onward n))
      rw [visible, visible, onward_bare, (deaf_onward n).within]
    rw [handed, handed, sample]
    rfl

theorem act_recorder (s : Sound) (e : Event) :
    (s.act e).recorder = s.recorder.map (· ++ s.handed e) := by
  have same : s.recorder = s.recorder.map (· ++ #[]) := by simp
  cases e with
  | write r val =>
    exact (congrArg Sampler.recorder ((deaf_write r.address val).sampler s)).trans same
  | clock => exact (congrArg Sampler.recorder ((deaf_stepSequencerMany 1).sampler s)).trans same
  | time n =>
    rw [act, step_eq, handed]
    change (s.sampler.take n (s.onward n).sample).recorder = _
    unfold Sampler.take
    split
    next idle =>
      have never : s.samplePeriod = 0 := idle
      rw [never, Nat.div_zero]
      exact same
    · rfl

/-- The samples that the host is handed with many events. -/
def handedAll (s : Sound) : List Event → Array Sample
  | [] => #[]
  | e :: rest => s.handed e ++ (s.act e).handedAll rest

theorem play_recorder (s : Sound) (events : List Event) :
    (s.play events).recorder = s.recorder.map (· ++ s.handedAll events) := by
  induction events generalizing s with
  | nil => simp [play, handedAll]
  | cons e rest ih =>
    refine (ih (s.act e)).trans ?_
    rw [act_recorder, handedAll, Option.map_map]
    simp only [Function.comp_def, Array.append_assoc]

/-! ## Two units -/

/-- Two units of which the same can be told. -/
def Alike (s t : Sound) : Prop :=
  s.visible = t.visible

theorem Alike.act (alike : s.Alike t) (placed : s.Placed) (placed' : t.Placed) (e : Event) :
    (s.act e).Alike (t.act e) := by
  rw [Alike, visible_act placed, visible_act placed', alike]

theorem Alike.play (alike : s.Alike t) (placed : s.Placed) (placed' : t.Placed)
    (events : List Event) :
    (s.play events).Alike (t.play events) ∧ s.handedAll events = t.handedAll events := by
  induction events generalizing s t with
  | nil => exact ⟨alike, rfl⟩
  | cons e rest ih =>
    obtain ⟨later, handed⟩ :=
      ih (alike.act placed placed' e) (act_placed placed e) (act_placed placed' e)
    refine ⟨later, ?_⟩
    rw [handedAll, handedAll, handed, ← visible_handed s, alike, visible_handed t]

/-- Two units give the same answers: to every read, for the sample of now, and for every field that
can be inspected. -/
structure Indistinct (s t : Sound) : Prop where
  read : ∀ r : Reg, s.read r.address = t.read r.address
  sample : s.sample = t.sample
  regs : ∀ r : Reg, ¬ r.Spare → s.reg r = t.reg r
  parts : s.parts = t.parts

theorem Alike.indistinct (alike : s.Alike t) (placed : s.Placed) (placed' : t.Placed) :
    s.Indistinct t where
  read r := by rw [← visible_read placed, alike, visible_read placed']
  sample := by rw [← visible_sample, alike, visible_sample]
  regs r seen := by rw [← visible_reg s seen, alike, visible_reg t seen]
  parts := by
    have same : s.visible.parts = t.visible.parts := by rw [alike]
    exact same

/-- What can be told of a unit is in its registers, its parts and its sampler. -/
theorem alike_of_parts (regs : ∀ r : Reg, ¬ r.Spare → s.reg r = t.reg r) (parts : s.parts = t.parts)
    (colour : s.colour = t.colour) (period : s.samplePeriod = t.samplePeriod)
    (cycles : s.sampleCycles = t.sampleCycles) : s.Alike t := by
  have same (r : Reg) : s.bare.reg r = t.bare.reg r := by
    rw [bare_reg, bare_reg]
    split
    · rfl
    next seen => exact regs r seen
  have bared : bareRegs s.regs = bareRegs t.regs := regs_ext same
  have ch1 : s.ch1 = t.ch1 := congrArg Parts.ch1 parts
  have sweep : s.sweep = t.sweep := congrArg Parts.sweep parts
  have ch2 : s.ch2 = t.ch2 := congrArg Parts.ch2 parts
  have ch3 : s.ch3 = t.ch3 := congrArg Parts.ch3 parts
  have ch4 : s.ch4 = t.ch4 := congrArg Parts.ch4 parts
  have sequencer : s.sequencer = t.sequencer := congrArg Parts.sequencer parts
  simp only [Alike, visible, bare, Sound.within, bared, ch1, sweep, ch2, ch3, ch4, sequencer, colour,
    period, cycles]

end Sound

end DotMatrix
