import DotMatrix.Proofs.Sound.Length
import DotMatrix.Proofs.Sound.Steps
import Mathlib.Data.ENat.Lattice
import Mathlib.Data.Nat.Count

/-!
# The frequency sweep

A sweep takes the frequency of the first channel from move to move, up or down by a part of itself.
It looks one move ahead: the channel is stopped as soon as the next move would leave the range of
frequencies, so the move itself is never made. A sweep downwards never gets there.

Results:
* `hold_iterate`, `moves_iff`: the recurrence, and where it stops.
* `sweepTarget_toNat`, `setFrequency1_frequency1`: the words of the machine as numbers.
* `Sweeping.clock`, `Sweeping.run`: one clock of the sweep, and a run of the sequencer.
* `act_sweeping`: triggers.
* **`sweep_run`**: a sweep from its trigger on, step by step of the sequencer.
-/

namespace DotMatrix

namespace Sound

/-! ## The recurrence -/

/-- The frequency after one move from `f`. -/
def moved (negative : Bool) (shift f : Nat) : Nat :=
  if negative then f - f >>> shift else f + f >>> shift

/-- The number of moves from `f` until the next one would leave the range of frequencies. -/
noncomputable def moves (negative : Bool) (shift f : Nat) : ℕ∞ :=
  sInf {k : ℕ∞ | ∃ n : ℕ, k = n ∧ 2047 < (moved negative shift)^[n + 1] f}

/-- One move, unless it would leave the range of frequencies. -/
def hold (negative : Bool) (shift f : Nat) : Nat :=
  if 2047 < moved negative shift f then f else moved negative shift f

section Recurrence

variable (negative : Bool) (shift f u : Nat)

theorem moved_down : moved true shift f ≤ f :=
  Nat.sub_le _ _

theorem iterate_moved_down : (moved true shift)^[u] f ≤ f := by
  induction u with
  | zero => exact le_rfl
  | succ u ih =>
    rw [Function.iterate_succ_apply']
    exact (moved_down shift _).trans ih

/-- A sweep downwards goes on for ever. -/
theorem moves_down {f : Nat} (short : f ≤ 2047) : moves true shift f = ⊤ := by
  refine sInf_eq_top.mpr fun k ⟨n, _, out⟩ => ?_
  exact absurd ((iterate_moved_down shift f (n + 1)).trans short) (Nat.not_le.mpr out)

/-- Either there are moves left and the next one stays in the range, or they are over and the next
one would have left it. -/
theorem moves_cases :
    ((u : ℕ∞) < moves negative shift f ∧
      moved negative shift ((moved negative shift)^[u] f) ≤ 2047) ∨
    ∃ k : ℕ, moves negative shift f = k ∧ k ≤ u ∧
      2047 < moved negative shift ((moved negative shift)^[k] f) := by
  by_cases left : (u : ℕ∞) < moves negative shift f
  · refine .inl ⟨left, Nat.not_lt.mp fun out => notMem_of_lt_csInf' left ⟨u, rfl, ?_⟩⟩
    rw [Function.iterate_succ_apply']
    exact out
  · have past := not_lt.mp left
    have some : {k : ℕ∞ | ∃ n : ℕ, k = n ∧ 2047 < (moved negative shift)^[n + 1] f}.Nonempty := by
      by_contra none
      have endless : moves negative shift f = ⊤ := by
        rw [moves, Set.not_nonempty_iff_eq_empty.mp none, sInf_empty]
      exact left (endless ▸ ENat.natCast_lt_top u)
    obtain ⟨k, last, out⟩ := csInf_mem some
    rw [Function.iterate_succ_apply'] at out
    exact .inr ⟨k, last, Nat.cast_le.mp ((show moves negative shift f = k from last) ▸ past), out⟩

/-- Holding at the end of the range is the recurrence, as far as it goes. -/
theorem hold_iterate : (hold negative shift)^[u] f =
    (moved negative shift)^[(min (u : ℕ∞) (moves negative shift f)).toNat] f := by
  induction u with
  | zero => simp
  | succ u ih =>
    rw [Function.iterate_succ_apply', ih]
    rcases moves_cases negative shift f u with ⟨left, next⟩ | ⟨k, last, past, out⟩
    · have more : ((u + 1 : Nat) : ℕ∞) ≤ moves negative shift f := by
        exact_mod_cast Order.add_one_le_of_lt left
      rw [min_eq_left left.le, min_eq_left more, ENat.toNat_natCast, ENat.toNat_natCast,
        Function.iterate_succ_apply']
      exact if_neg (Nat.not_lt.mpr next)
    · have later : k ≤ u + 1 := past.trans (Nat.le_succ u)
      rw [last, min_eq_right (Nat.cast_le.mpr past), min_eq_right (Nat.cast_le.mpr later),
        ENat.toNat_natCast]
      exact if_pos out

/-- There are moves left exactly when the next one stays in the range. -/
theorem moves_iff : (u : ℕ∞) < moves negative shift f ↔
    moved negative shift ((hold negative shift)^[u] f) ≤ 2047 := by
  rw [hold_iterate]
  rcases moves_cases negative shift f u with ⟨left, next⟩ | ⟨k, last, past, out⟩
  · rw [min_eq_left left.le, ENat.toNat_natCast]
    exact ⟨fun _ => next, fun _ => left⟩
  · rw [last, min_eq_right (Nat.cast_le.mpr past), ENat.toNat_natCast, Nat.cast_lt]
    exact ⟨fun left => absurd left (Nat.not_lt.mpr past), fun h => absurd out (Nat.not_lt.mpr h)⟩

end Recurrence

/-! ## Words -/

variable {s : Sound}

theorem sweepShift_lt (s : Sound) : s.sweepShift.toNat < 8 :=
  UInt8.lt_iff_toNat_lt.mp (and_lt (by decide : (0x07 : UInt8) < 0x08) _)

theorem law_fields {t : Sound} (law : s.reg nr10 = t.reg nr10) :
    s.sweepNegative = t.sweepNegative ∧ s.sweepShift = t.sweepShift ∧
      s.sweepPeriod = t.sweepPeriod := by
  simp only [sweepNegative, sweepShift, sweepPeriod, law, true_and]

/-- A period field other than 0 is the period. -/
theorem periodOf_sweepPeriod (some : s.sweepPeriod.toNat ≠ 0) :
    (periodOf s.sweepPeriod).toNat = s.sweepPeriod.toNat := by
  have small : s.sweepPeriod.toNat < 8 :=
    UInt8.lt_iff_toNat_lt.mp (and_lt (by decide : (0x07 : UInt8) < 0x08) _)
  rw [periodOf_toNat, Nat.mod_eq_of_lt small, if_neg some]

theorem sweepPeriod_ne (period : s.sweepPeriod ≠ 0) : s.sweepPeriod.toNat ≠ 0 :=
  fun zero => period (UInt8.toNat_inj.mp zero)

/-- The target of the sweep is one move away. -/
theorem sweepTarget_toNat (short : s.sweep.shadow.toNat < 2048) :
    s.sweepTarget.toNat = moved s.sweepNegative s.sweepShift.toNat s.sweep.shadow.toNat := by
  have few : s.sweepShift.toNat % 16 = s.sweepShift.toNat :=
    Nat.mod_eq_of_lt ((sweepShift_lt s).trans (by decide))
  have part : (s.sweep.shadow >>> s.sweepShift.toUInt16).toNat =
      s.sweep.shadow.toNat >>> s.sweepShift.toNat := by
    rw [UInt16.toNat_shiftRight, UInt8.toNat_toUInt16, few]
  have less : s.sweep.shadow.toNat >>> s.sweepShift.toNat ≤ s.sweep.shadow.toNat :=
    Nat.shiftRight_le _ _
  unfold sweepTarget moved
  split
  · rw [UInt16.toNat_sub_of_le _ _ (UInt16.le_iff_toNat_le.mpr (part ▸ less)), part]
  · rw [UInt16.toNat_add, part, Nat.mod_eq_of_lt (by omega)]

theorem sweepOverflows_iff (short : s.sweep.shadow.toNat < 2048) : s.sweepOverflows = true ↔
    2047 < moved s.sweepNegative s.sweepShift.toNat s.sweep.shadow.toNat := by
  rw [sweepOverflows, decide_eq_true_eq, UInt16.lt_iff_toNat_lt, sweepTarget_toNat short]
  rfl

/-- The registers hold the frequency that is stored in them. -/
theorem setFrequency1_frequency1 {f : UInt16} (short : f.toNat < 2048) :
    (s.setFrequency1 f).frequency1 = f := by
  have apart : nr13 ≠ nr14 := by decide
  have low : (lowByte f).toNat = f.toNat % 256 := UInt16.toNat_toUInt8 f
  have high : (highByte f).toNat = f.toNat / 256 := by
    rw [highByte, UInt16.toNat_toUInt8, UInt16.toNat_shiftRight]
    change f.toNat >>> 8 % 256 = _
    rw [Nat.shiftRight_eq_div_pow]
    omega
  have top : ((s.reg nr14 &&& 0xF8 ||| highByte f &&& 0x07) &&& 0x07).toNat = f.toNat / 256 := by
    rw [or_and, UInt8.and_assoc (s.reg nr14), UInt8.and_assoc (highByte f)]
    change (s.reg nr14 &&& 0 ||| highByte f &&& 0x07).toNat = _
    rw [UInt8.and_zero, UInt8.zero_or, byte_and_ones (n := 3) rfl, high]
    omega
  apply UInt16.toNat_inj.mp
  simp only [frequency1, setFrequency1, reg_setReg, if_neg apart, if_neg apart.symm, if_true]
  rw [frequencyOf, word_toNat, top, low, Nat.div_add_mod]

/-! ## One clock -/

/-- What the sweep works with: its state, its register, and the registers of the frequency. -/
def glide (s : Sound) : Sweep × UInt8 × UInt8 × UInt8 :=
  (s.sweep, s.reg nr10, s.reg nr13, s.reg nr14)

/-- The status register has no part in it. -/
theorem status_glide (s : Sound) (status : UInt8) : (s.setReg nr52 status).glide = s.glide := by
  have kept {r : Reg} (other : r ≠ nr52) : (s.setReg nr52 status).reg r = s.reg r := by
    rw [reg_setReg, if_neg other]
  simp only [glide, kept (by decide : nr10 ≠ nr52), kept (by decide : nr13 ≠ nr52),
    kept (by decide : nr14 ≠ nr52)]
  rfl

theorem disable_glide (s : Sound) (ch : Channel) : (s.disable ch).glide = s.glide :=
  status_glide s _

theorem setLength_glide (s : Sound) (ch : Channel) (n : UInt16) :
    (s.setLength ch n).glide = s.glide := by
  cases ch <;> rfl

theorem setEnvelope_glide (s : Sound) (ch : Channel) (e : Envelope) :
    (s.setEnvelope ch e).glide = s.glide := by
  cases ch <;> rfl

theorem startNote_glide (s : Sound) (ch : Channel) : (s.startNote ch).glide = s.glide := by
  unfold startNote
  rw [setEnvelope_glide, setLength_glide]
  exact status_glide s _

theorem clockLengths_glide (s : Sound) : s.clockLengths.glide = s.glide := by
  have one (ch : Channel) (s : Sound) : (s.clockLength ch).glide = s.glide := by
    simp only [clockLength, shorten, apply_ite glide, disable_glide, setLength_glide, ite_self]
  rw [clockLengths, one, one, one, one]

theorem clockEnvelopes_glide (s : Sound) : s.clockEnvelopes.glide = s.glide := by
  have one (ch : Channel) (s : Sound) : (s.clockEnvelope ch).glide = s.glide := by
    simp only [clockEnvelope, apply_ite glide, setEnvelope_glide, ite_self]
  rw [clockEnvelopes, one, one, one]

theorem sweepOverflows_congr {m : Sound} (same : m.glide = s.glide) :
    m.sweepOverflows = s.sweepOverflows := by
  simp only [glide, Prod.mk.injEq] at same
  obtain ⟨sweep, law, -, -⟩ := same
  unfold sweepOverflows sweepTarget sweepNegative sweepShift
  rw [sweep, law]

/-- The sweep of the note that `t` starts, after `n` clocks: the frequency has made a move in every
period, and the channel sounds while there is one left. -/
structure Sweeping (t : Sound) (n : Nat) (s : Sound) : Prop where
  law : s.reg nr10 = t.reg nr10
  running : s.sweep.enabled = true
  counts : s.lengthEnabled .one = false
  frequency : s.frequency1 = s.sweep.shadow
  shadow : s.sweep.shadow.toNat =
    (hold t.sweepNegative t.sweepShift.toNat)^[n / t.sweepPeriod.toNat] t.frequency1.toNat
  timer : s.channelOn .one = true → s.sweep.timer.toNat + n % t.sweepPeriod.toNat =
    t.sweepPeriod.toNat
  sounds : s.channelOn .one = !s.sweepOverflows

namespace Sweeping

variable {t m s' : Sound} {n : Nat}

theorem congr (h : Sweeping t n s) (same : s'.glide = s.glide)
    (voice : s'.voice .one = s.voice .one) : Sweeping t n s' := by
  have overflows := sweepOverflows_congr same
  have on : s'.channelOn .one = s.channelOn .one := congrArg Voice.on voice
  have counts : s'.lengthEnabled .one = s.lengthEnabled .one := congrArg Voice.counts voice
  simp only [glide, Prod.mk.injEq] at same
  obtain ⟨sweep, law, low, high⟩ := same
  constructor
  case law => rw [law, h.law]
  case running => rw [sweep, h.running]
  case counts => rw [counts, h.counts]
  case frequency => rw [frequency1, low, high, sweep, ← h.frequency, frequency1]
  case shadow => rw [sweep, h.shadow]
  case timer => rw [on, sweep]; exact h.timer
  case sounds => rw [on, overflows, h.sounds]

theorem short (h : Sweeping t n s) : s.sweep.shadow.toNat < 2048 :=
  h.frequency ▸ frequencyOf_lt _ _

/-- The channel sounds while the next move stays in the range. -/
theorem sounds_iff (h : Sweeping t n s) : s.channelOn .one = true ↔
    moved t.sweepNegative t.sweepShift.toNat s.sweep.shadow.toNat ≤ 2047 := by
  obtain ⟨negative, shift, -⟩ := law_fields h.law
  rw [h.sounds, Bool.not_eq_true', Bool.eq_false_iff, ne_eq, sweepOverflows_iff h.short, negative,
    shift]
  exact Nat.not_lt

/-- A note whose frequency has just been set is stopped if no move is left. -/
theorem checked (law : m.reg nr10 = t.reg nr10) (running : m.sweep.enabled = true)
    (voice : m.channelOn .one = true ∧ m.lengthEnabled .one = false)
    (frequency : m.frequency1 = m.sweep.shadow)
    (shadow : m.sweep.shadow.toNat =
      (hold t.sweepNegative t.sweepShift.toNat)^[n / t.sweepPeriod.toNat] t.frequency1.toNat)
    (timer : m.sweep.timer.toNat + n % t.sweepPeriod.toNat = t.sweepPeriod.toNat) :
    Sweeping t n (if m.sweepOverflows then m.disable .one else m) := by
  obtain ⟨on, counts⟩ := voice
  cases overflows : m.sweepOverflows with
  | false =>
    rw [if_neg Bool.false_ne_true]
    exact ⟨law, running, counts, frequency, shadow, fun _ => timer, by rw [on, overflows]; rfl⟩
  | true =>
    have same := disable_glide m .one
    have stopped : (m.disable .one).voice .one = (m.voice .one).stopped :=
      disable_voice m .one .one
    simp only [glide, Prod.mk.injEq] at same
    obtain ⟨sweep, law', low, high⟩ := same
    have off : (m.disable .one).channelOn .one = false := congrArg Voice.on stopped
    rw [if_pos rfl]
    constructor
    case law => rw [law', law]
    case running => exact running
    case counts => exact (congrArg Voice.counts stopped).trans counts
    case frequency => rw [frequency1, low, high, ← frequency1, frequency]; rfl
    case shadow => exact shadow
    case timer => rw [off]; exact fun sounds => absurd sounds Bool.false_ne_true
    case sounds => rw [off, sweepOverflows_congr (disable_glide m .one), overflows]; rfl

end Sweeping

/-- What the sweep does when it moves: the new frequency is stored, and the channel stopped if that
was the last move. -/
theorem clockSweep_moves (running : s.sweep.enabled = true) (on : s.channelOn .one = true)
    (due : ¬ 1 < s.sweep.timer) (period : s.sweepPeriod ≠ 0) (shift : s.sweepShift ≠ 0)
    (next : s.sweepOverflows = false) :
    let m := setFrequency1 { s with sweep :=
      { s.sweep with timer := periodOf s.sweepPeriod, shadow := s.sweepTarget } } s.sweepTarget
    s.clockSweep = if m.sweepOverflows then m.disable .one else m := by
  intro m
  have awake : ¬ (!s.sweep.enabled || !s.channelOn .one) = true := by
    rw [running, on]
    exact Bool.false_ne_true
  let r : Sound := { s with sweep := { s.sweep with timer := periodOf s.sweepPeriod } }
  have some : ¬ (r.sweepPeriod == 0) = true := fun zero => period (beq_iff_eq.mp zero)
  have stays : ¬ r.sweepOverflows = true := Bool.eq_false_iff.mp next
  have moves : (r.sweepShift != 0) = true := bne_iff_ne.mpr shift
  have run : s.runSweep = r.commitSweep :=
    (if_neg some).trans ((if_neg stays).trans (if_pos moves))
  rw [clockSweep, if_neg awake, if_neg due, run]
  rfl

namespace Sweeping

variable {t : Sound} {n : Nat}

/-- After the last move nothing moves. -/
theorem clock_over (h : Sweeping t n s) (off : s.channelOn .one = false) :
    Sweeping t (n + 1) s.clockSweep := by
  have stopped := Bool.eq_false_iff.mp off
  have overflows := Nat.not_le.mp (mt h.sounds_iff.mpr stopped)
  have held : hold t.sweepNegative t.sweepShift.toNat s.sweep.shadow.toNat =
      s.sweep.shadow.toNat := if_pos overflows
  have same : s.clockSweep = s := by
    rw [clockSweep, off, Bool.not_false, Bool.or_true, if_pos rfl]
  rw [same]
  refine { h with shadow := ?_, timer := fun on => absurd on stopped }
  rw [Nat.succ_div]
  split
  · rw [Function.iterate_succ_apply', ← h.shadow, held]
  · exact h.shadow

/-- Within a period the timer counts down. -/
theorem clock_waits (h : Sweeping t n s) (on : s.channelOn .one = true)
    (later : 1 < s.sweep.timer.toNat) : Sweeping t (n + 1) s.clockSweep := by
  have counted := h.timer on
  obtain ⟨quotient, remainder⟩ :=
    countdown_waits (by omega : n % t.sweepPeriod.toNat + 1 < t.sweepPeriod.toNat)
  have one : (s.sweep.timer - 1).toNat = s.sweep.timer.toNat - 1 := toNat_sub_one (by omega)
  have waits : s.clockSweep =
      { s with sweep := { s.sweep with timer := s.sweep.timer - 1 } } := by
    rw [clockSweep, h.running, on]
    exact if_pos (one_lt_iff.mpr later)
  rw [waits]
  refine { h with shadow := ?_, timer := fun _ => ?_ }
  · rw [quotient]
    exact h.shadow
  · rw [remainder]
    change (s.sweep.timer - 1).toNat + _ = _
    omega

/-- At the end of a period the frequency moves. -/
theorem clock_moves (period : t.sweepPeriod ≠ 0) (shift : t.sweepShift ≠ 0) (h : Sweeping t n s)
    (on : s.channelOn .one = true) (due : ¬ 1 < s.sweep.timer.toNat) :
    Sweeping t (n + 1) s.clockSweep := by
  obtain ⟨negative, step, reload⟩ := law_fields h.law
  have some := Nat.pos_of_ne_zero (sweepPeriod_ne period)
  have counted := h.timer on
  have left := Nat.mod_lt n some
  obtain ⟨quotient, remainder⟩ :=
    countdown_ends (by omega : n % t.sweepPeriod.toNat + 1 = t.sweepPeriod.toNat)
  have next := h.sounds_iff.mp on
  have stays : s.sweepOverflows = false := by
    rw [← Bool.not_eq_true', ← h.sounds, on]
  have target := sweepTarget_toNat h.short
  rw [negative, step] at target
  have moved : s.sweepTarget.toNat =
      hold t.sweepNegative t.sweepShift.toNat s.sweep.shadow.toNat :=
    target.trans (if_neg (Nat.not_lt.mpr next)).symm
  have voice := setFrequency1_voice { s with sweep :=
    { s.sweep with timer := periodOf s.sweepPeriod, shadow := s.sweepTarget } } .one s.sweepTarget
  rw [clockSweep_moves h.running on (mt one_lt_iff.mp due) (reload ▸ period)
    (step ▸ shift) stays]
  refine checked ?_ h.running ?_ ?_ ?_ ?_
  · simp only [setFrequency1, reg_setReg, if_neg (by decide : nr10 ≠ nr14),
      if_neg (by decide : nr10 ≠ nr13)]
    exact h.law
  · exact ⟨(congrArg Voice.on voice).trans on, (congrArg Voice.counts voice).trans h.counts⟩
  · exact setFrequency1_frequency1 (by omega)
  · rw [quotient, Function.iterate_succ_apply', ← h.shadow]
    exact moved
  · rw [remainder, ← reload]
    exact periodOf_sweepPeriod (reload ▸ some.ne')

/-- One clock of the sweep. -/
theorem clock (period : t.sweepPeriod ≠ 0) (shift : t.sweepShift ≠ 0) (h : Sweeping t n s) :
    Sweeping t (n + 1) s.clockSweep := by
  cases on : s.channelOn .one with
  | false => exact h.clock_over on
  | true =>
    by_cases later : 1 < s.sweep.timer.toNat
    · exact h.clock_waits on later
    · exact h.clock_moves period shift on later

end Sweeping

/-! ## Steps and triggers -/

/-- Whether the present step clocks the sweep. -/
abbrev sweeps (s : Sound) : Prop :=
  s.sequencer = 2 ∨ s.sequencer = 6

theorem clockStep_sweeps (sweeps : s.sweeps) : s.clockStep = s.clockLengths.clockSweep := by
  rw [clockStep]
  rcases sweeps with two | six
  · rw [two]
    rfl
  · rw [six]
    rfl

namespace Sweeping

variable {t : Sound} {n : Nat}

theorem lengths (h : Sweeping t n s) : Sweeping t n s.clockLengths := by
  have quiet : (s.voice .one).clocked = s.voice .one := by
    have counts : (s.voice .one).counts = false := h.counts
    rw [Voice.clocked, counts, Bool.false_and, if_neg Bool.false_ne_true]
  exact h.congr (clockLengths_glide s) ((clockLengths_voice s .one).trans quiet)

theorem clockStep (period : t.sweepPeriod ≠ 0) (shift : t.sweepShift ≠ 0) (h : Sweeping t n s) :
    Sweeping t (n + if s.sweeps then 1 else 0) s.clockStep := by
  split
  next sweeps =>
    rw [clockStep_sweeps sweeps]
    exact h.lengths.clock period shift
  next rests =>
    have rests : ¬ (s.sequencer == 2 || s.sequencer == 6) = true := by
      rwa [Bool.or_eq_true, beq_iff_eq, beq_iff_eq]
    rw [Sound.clockStep, if_neg rests]
    split_ifs
    · exact h.lengths
    · exact h.congr (clockEnvelopes_glide s) (clockEnvelopes_voice s .one)
    · exact h

theorem step (period : t.sweepPeriod ≠ 0) (shift : t.sweepShift ≠ 0) (power : s.enabled = true)
    (h : Sweeping t n s) : Sweeping t (n + if s.sweeps then 1 else 0) s.stepSequencer := by
  rw [stepSequencer, if_pos power]
  exact (h.clockStep period shift).congr rfl rfl

/-- A run of the sequencer clocks the sweep as often as it comes to one of its steps. -/
theorem run (period : t.sweepPeriod ≠ 0) (shift : t.sweepShift ≠ 0) (placed : s.Placed)
    (power : s.enabled = true) (h : Sweeping t 0 s) (m : Nat) :
    Sweeping t (Nat.count (fun i => (stepSequencer^[i] s).sweeps) m) (stepSequencer^[m] s) := by
  induction m with
  | zero => exact h
  | succ m ih =>
    rw [Function.iterate_succ_apply', Nat.count_succ]
    exact ih.step period shift ((iterate_enabled placed m).trans power)

/-- A sweep starts with the first look ahead. -/
theorem start {m : Sound} (period : t.sweepPeriod ≠ 0) (shift : t.sweepShift ≠ 0)
    (same : m.glide.2 = t.glide.2) (on : m.channelOn .one = true)
    (counts : m.lengthEnabled .one = false) : Sweeping t 0 m.startSweep := by
  simp only [glide, Prod.mk.injEq] at same
  obtain ⟨law, low, high⟩ := same
  obtain ⟨-, step, reload⟩ := law_fields law
  have frequency : m.frequency1 = t.frequency1 := by
    rw [frequency1, frequency1, low, high]
  have moves : (m.sweepShift != 0) = true := bne_iff_ne.mpr (step ▸ shift)
  let r : Sound := { m with sweep :=
    { timer := periodOf m.sweepPeriod, shadow := m.frequency1
      enabled := m.sweepPeriod != 0 || m.sweepShift != 0 } }
  have started : m.startSweep = if r.sweepOverflows then r.disable .one else r := by
    have both : (r.sweepShift != 0 && r.sweepOverflows) = r.sweepOverflows := by
      rw [show (r.sweepShift != 0) = true from moves, Bool.true_and]
    rw [← both]
    rfl
  rw [started]
  refine checked law ?_ ⟨on, counts⟩ rfl ?_ ?_
  · change (m.sweepPeriod != 0 || m.sweepShift != 0) = true
    rw [moves, Bool.or_true]
  · rw [Nat.zero_div]
    exact congrArg UInt16.toNat frequency
  · rw [Nat.zero_mod, ← reload]
    exact periodOf_sweepPeriod (sweepPeriod_ne (reload ▸ period))

end Sweeping

/-- A trigger of the first channel starts its sweep. -/
theorem trigger_sweeping (period : s.sweepPeriod ≠ 0) (shift : s.sweepShift ≠ 0)
    (converter : s.converterOn .one = true) (counts : s.lengthEnabled .one = false) :
    Sweeping s 0 (s.trigger .one) := by
  let note := s.startNote .one
  let m : Sound := { note with
    ch1 := { note.ch1 with timer := restartedTimer note.ch1.timer (pulsePeriod note.frequency1) } }
  have voice : m.voice .one = { s.voice .one with on := true, length := s.reloadedLength .one } :=
    startNote_voice s .one .one
  have same : m.glide = s.glide := startNote_glide s .one
  have kept : m.startSweep.converterOn .one = true := by
    have before : m.converterOn .one = true := (congrArg Voice.converter voice).trans converter
    rcases startSweep_held m .one with same | stopped
    · exact (congrArg Voice.converter same).trans before
    · exact (congrArg Voice.converter stopped).trans before
  have started : s.trigger .one = m.startSweep := if_pos kept
  rw [started]
  exact Sweeping.start period shift (congrArg Prod.snd same) (congrArg Voice.on voice)
    ((congrArg Voice.counts voice).trans counts)

/-- The write that triggers the first channel starts its sweep at the frequency then written, if the
length is not to count. -/
theorem act_sweeping (power : s.enabled = true) (period : s.sweepPeriod ≠ 0)
    (shift : s.sweepShift ≠ 0) (converter : s.converterOn .one = true) {val : UInt8}
    (trigger : hasBit val 0x80 = true) (counts : hasBit val 0x40 = false) :
    (s.act (.write nr14 val)).enabled = true ∧
      Sweeping (s.setReg nr14 val) 0 (s.act (.write nr14 val)) := by
  let t := s.setReg nr14 val
  have quiet : s.clockOnEnable .one val = s := by
    rw [clockOnEnable, counts]
    rfl
  have started : s.act (.write nr14 val) = t.trigger .one :=
    (act_trigger power .one trigger).trans (by rw [quiet]; rfl)
  have stored := control_setReg_voice s .one .one val
  rw [if_pos rfl, counts] at stored
  have law : t.reg nr10 = s.reg nr10 := by
    rw [reg_setReg, if_neg (by decide)]
  obtain ⟨-, step, reload⟩ := law_fields law
  rw [started]
  constructor
  · obtain ⟨_, -, voice⟩ := trigger_voice t .one
    exact (congrArg Voice.power voice).trans ((congrArg Voice.power stored).trans power)
  · exact trigger_sweeping (reload ▸ period) (step ▸ shift)
      ((congrArg Voice.converter stored).trans converter) (congrArg Voice.counts stored)

/-- **The frequency sweep.** A trigger of the first channel at the frequency `f₀`, with a period and
a shift in the sweep register, the converter on and the length not counting, and then steps of the
sequencer alone: the sweep makes a move in every period, until the next one would leave the range of
frequencies. The sweep and the registers hold the frequency after the moves made so far, and the
channel sounds while there is one left. A sweep downwards never ends. -/
theorem sweep_run (h : s.Reachable) (power : s.enabled = true) (period : s.sweepPeriod ≠ 0)
    (shift : s.sweepShift ≠ 0) (converter : s.converterOn .one = true) {val : UInt8}
    (trigger : hasBit val 0x80 = true) (counts : hasBit val 0x40 = false) (m : Nat) :
    let start := s.act (.write nr14 val)
    let f₀ := (frequencyOf (s.reg nr13) val).toNat
    let f := fun k => (moved s.sweepNegative s.sweepShift.toNat)^[k] f₀
    let last := moves s.sweepNegative s.sweepShift.toNat f₀
    let n := Nat.count (fun i => (stepSequencer^[i] start).sweeps) m
    let u := n / s.sweepPeriod.toNat
    let after := stepSequencer^[m] start
    after.sweep.shadow = after.frequency1 ∧ after.frequency1.toNat = f (min (u : ℕ∞) last).toNat ∧
      (after.channelOn .one = true ↔ (u : ℕ∞) < last) ∧
      (s.sweepNegative = true → last = ⊤) := by
  intro start f₀ f last n u after
  let t := s.setReg nr14 val
  have law : t.reg nr10 = s.reg nr10 := by
    rw [reg_setReg, if_neg (by decide)]
  have frequency : t.frequency1 = frequencyOf (s.reg nr13) val := by
    rw [frequency1, reg_setReg, reg_setReg, if_neg (by decide), if_pos rfl]
  obtain ⟨negative, step, reload⟩ := law_fields law
  obtain ⟨on, begun⟩ := act_sweeping power period shift converter trigger counts
  have run := begun.run (reload ▸ period) (step ▸ shift) (act_placed h.placed _) on m
  have shadow := run.shadow
  rw [negative, step, reload, frequency] at shadow
  refine ⟨run.frequency.symm, ?_, ?_, fun down => ?_⟩
  · rw [run.frequency, shadow]
    exact hold_iterate _ _ f₀ u
  · rw [run.sounds_iff, negative, step, shadow]
    exact (moves_iff _ _ f₀ u).symm
  · have short : f₀ ≤ 2047 := Nat.le_of_lt_succ (frequencyOf_lt _ _)
    change moves _ _ f₀ = ⊤
    rw [down, moves_down _ short]

/-- Upwards from `500` the frequency makes one move to `780`, and the channel is stopped then;
downwards it is not. -/
theorem sweep_run_stops :
    let start := (unpowered false).boot
    let s := start.play [.write nr10 0x11, .write nr12 0xF0, .write nr13 0x00]
    let t := start.play [.write nr10 0x19, .write nr12 0xF0, .write nr13 0x00]
    let up := s.act (.write nr14 0x85)
    let down := t.act (.write nr14 0x85)
    moves false 1 0x500 = 1 ∧ up.channelOn .one = true ∧
      (stepSequencer^[3] up).channelOn .one = false ∧
      (stepSequencer^[3] up).frequency1.toNat = 0x780 ∧
      ∀ m, (stepSequencer^[m] down).channelOn .one = true := by
  intro start s t up down
  have rising : s.Reachable := (Reachable.boot _).play _
  have falling : t.Reachable := (Reachable.boot _).play _
  have one : moves false 1 0x500 = 1 := by
    have first := (moves_iff false 1 0x500 0).mpr (by decide)
    have last := mt (moves_iff false 1 0x500 1).mp (by decide)
    exact le_antisymm (not_lt.mp last) (Order.one_le_iff_pos.mpr first)
  have law : s.sweepNegative = false ∧ s.sweepShift.toNat = 1 ∧ s.sweepPeriod.toNat = 1 ∧
      (frequencyOf (s.reg nr13) 0x85).toNat = 0x500 := by decide
  obtain ⟨negative, shift, period, frequency⟩ := law
  have clocks : Nat.count (fun i => (stepSequencer^[i] up).sweeps) 3 = 1 := by decide
  have run (m : Nat) := sweep_run rising (by decide) (by decide) (by decide) (by decide)
    (by decide : hasBit 0x85 0x80 = true) (by decide) m
  simp only [negative, shift, period, frequency, one] at run
  obtain ⟨-, -, begun, -⟩ := run 0
  obtain ⟨-, moved, stopped, -⟩ := run 3
  rw [Function.iterate_zero_apply] at begun
  rw [clocks] at moved stopped
  refine ⟨one, begun.mpr (by simp), ?_, ?_, fun m => ?_⟩
  · exact Bool.eq_false_iff.mpr fun on => absurd (stopped.mp on) (by simp)
  · exact moved.trans (by simp [Sound.moved])
  · obtain ⟨-, -, on, endless⟩ := sweep_run falling (by decide) (by decide) (by decide)
      (by decide) (by decide : hasBit 0x85 0x80 = true) (by decide) m
    rw [endless (by decide)] at on
    exact on.mpr (ENat.natCast_lt_top _)

end Sound

end DotMatrix
