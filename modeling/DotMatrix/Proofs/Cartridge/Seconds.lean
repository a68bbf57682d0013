import DotMatrix.Cartridge.Clock
import DotMatrix.Proofs.Word

/-!
# The clock counts seconds

Read together, the registers of the clock are a number of seconds since the first day, in digits of
60, 60, 24 and 512. A tick is one second more. The cascade of the registers is followed from its last
digit to its first: the next day is 86400 seconds later, the next hour 3600, the next minute 60
(`Later`), whichever registers pass their ends meanwhile.

Results:
* `clamped_inRange`: a clock that has been set is in range.
* `nextDay_later`, `nextHour_later`, `nextMinute_later`, `nextSecond_later`: the cascade.
* **`ticks_count`**: the registers after any number of ticks.
-/

namespace DotMatrix

namespace Clock

/-- Every register is within its range, and the last holds nothing but its three bits. -/
structure InRange (c : Clock) : Prop where
  seconds : c.seconds ≤ 59
  minutes : c.minutes ≤ 59
  hours : c.hours ≤ 23
  flags : c.dayHigh &&& 0xC1 = c.dayHigh

/-- The day that the clock counts, of 512. -/
def day (c : Clock) : Nat :=
  c.dayLow.toNat + 256 * (c.dayHigh &&& dayBit).toNat

/-- The time of the clock, in seconds since the first day began. -/
def time (c : Clock) : Nat :=
  c.seconds.toNat + 60 * c.minutes.toNat + 3600 * c.hours.toNat + 86400 * c.day

/-- The seconds of 512 days. -/
def period : Nat := 44236800

/-- Whether the day counter has passed its end. -/
def carried (c : Clock) : Bool :=
  hasBit c.dayHigh carryBit

/-- `d` is `n` seconds later than `c`. -/
structure Later (c d : Clock) (n : Nat) : Prop where
  inRange : d.InRange
  time : d.time = (c.time + n) % period
  carried : d.carried = true ↔ c.carried = true ∨ period ≤ c.time + n
  halted : d.halted = c.halted

variable {c d : Clock}

/-! ## Ranges -/

theorem clamped_inRange (c : Clock) : c.clamped.InRange where
  seconds := by
    change (if c.seconds ≤ 59 then c.seconds else 59) ≤ 59
    split
    · assumption
    · decide
  minutes := by
    change (if c.minutes ≤ 59 then c.minutes else 59) ≤ 59
    split
    · assumption
    · decide
  hours := by
    change (if c.hours ≤ 23 then c.hours else 23) ≤ 23
    split
    · assumption
    · decide
  flags := by
    change c.dayHigh &&& 0xC1 &&& 0xC1 = c.dayHigh &&& 0xC1
    rw [UInt8.and_assoc, UInt8.and_self]

theorem day_lt (c : Clock) : c.day < 512 := by
  have low := c.dayLow.toNat_lt
  have high : (c.dayHigh &&& dayBit).toNat < 2 := @and_lt dayBit 2 (by decide) c.dayHigh
  unfold day
  omega

theorem InRange.time_lt (h : c.InRange) : c.time < period := by
  have seconds : c.seconds.toNat ≤ 59 := h.seconds
  have minutes : c.minutes.toNat ≤ 59 := h.minutes
  have hours : c.hours.toNat ≤ 23 := h.hours
  have day := c.day_lt
  unfold time period
  omega

/-! ## The cascade -/

/-- The end of the count has not been passed. -/
theorem Later.early {n : Nat} (inRange : d.InRange) (time : d.time = c.time + n)
    (carried : d.carried = c.carried) (halted : d.halted = c.halted) : Later c d n := by
  have below := inRange.time_lt
  rw [time] at below
  refine ⟨inRange, ?_, ?_, halted⟩
  · rw [time, Nat.mod_eq_of_lt below]
  · rw [carried]
    exact ⟨.inl, fun either => either.resolve_right (Nat.not_le.mpr below)⟩

/-- The first half of the days ends: the top bit of the count is set, the others stay. -/
theorem upper_later (h : c.InRange) (full : c.dayLow.toNat = 255)
    (clear : hasBit c.dayHigh dayBit = false) :
    Later c { c with dayLow := 0, dayHigh := c.dayHigh ||| dayBit } 86400 := by
  have none : c.dayHigh &&& dayBit = 0 := by
    simpa [hasBit] using clear
  have bit : (c.dayHigh ||| dayBit) &&& dayBit = 1 := by
    rw [or_and, none]
    rfl
  refine .early ⟨h.seconds, h.minutes, h.hours, ?_⟩ ?_ ?_ ?_
  · change (c.dayHigh ||| dayBit) &&& 0xC1 = c.dayHigh ||| dayBit
    rw [or_and, h.flags]
    rfl
  · simp only [time, day, bit, none, full]
    change _ + 86400 * (0 + 256 * 1) = _ + 86400 * (255 + 256 * 0) + 86400
    omega
  · change hasBit (c.dayHigh ||| dayBit) carryBit = _
    rw [hasBit_or]
    exact Bool.or_false _
  · change hasBit (c.dayHigh ||| dayBit) haltBit = _
    rw [hasBit_or]
    exact Bool.or_false _

/-- All the days end: the count starts over, and the carry bit is set. -/
theorem overflow_later (h : c.InRange) (full : c.dayLow.toNat = 255)
    (set : hasBit c.dayHigh dayBit = true) :
    Later c { c with dayLow := 0, dayHigh := (c.dayHigh &&& haltBit) ||| carryBit } 86400 := by
  have one : (c.dayHigh &&& dayBit).toNat = 1 := by
    have some : c.dayHigh &&& dayBit ≠ 0 := bne_iff_ne.mp set
    have few : (c.dayHigh &&& dayBit).toNat < 2 := @and_lt dayBit 2 (by decide) c.dayHigh
    have pos : (c.dayHigh &&& dayBit).toNat ≠ 0 := fun zero => some (UInt8.toNat_inj.mp zero)
    omega
  have none : ((c.dayHigh &&& haltBit) ||| carryBit) &&& dayBit = 0 := by
    rw [or_and, UInt8.and_assoc]
    exact congrArg (· ||| 0) UInt8.and_zero
  have inRange : InRange
      { c with dayLow := 0, dayHigh := (c.dayHigh &&& haltBit) ||| carryBit } := by
    refine ⟨h.seconds, h.minutes, h.hours, ?_⟩
    change ((c.dayHigh &&& haltBit) ||| carryBit) &&& 0xC1 = (c.dayHigh &&& haltBit) ||| carryBit
    rw [or_and, UInt8.and_assoc]
    rfl
  have passed : c.time + 86400 =
      period + time { c with dayLow := 0, dayHigh := (c.dayHigh &&& haltBit) ||| carryBit } := by
    simp only [time, day, one, none, full, period]
    change _ = 44236800 + (_ + 86400 * (0 + 256 * 0))
    omega
  refine ⟨inRange, ?_, ?_, ?_⟩
  · rw [passed, Nat.add_mod_left, Nat.mod_eq_of_lt inRange.time_lt]
  · rw [passed]
    refine iff_of_true ?_ (.inr (Nat.le_add_right _ _))
    change hasBit ((c.dayHigh &&& haltBit) ||| carryBit) carryBit = true
    rw [hasBit_or]
    exact Bool.or_true _
  · change hasBit ((c.dayHigh &&& haltBit) ||| carryBit) haltBit = hasBit c.dayHigh haltBit
    rw [hasBit_or, hasBit, UInt8.and_assoc, UInt8.and_self]
    exact Bool.or_false _

/-- A register below its end counts one more of its `n` seconds, or is at its last value: then it
starts over, and what comes `n` times as many seconds later makes up for it. -/
theorem Later.count (set : UInt8 → Clock) {after : Clock} {b top : UInt8} {n : Nat} (inside : b < top)
    (inRange : ∀ b' < top, (set b').InRange)
    (time : ∀ b', (set b').time + n * b.toNat = c.time + n * b'.toNat)
    (carried : ∀ b', (set b').carried = c.carried) (halted : ∀ b', (set b').halted = c.halted)
    (next : Later (set 0) after (n * top.toNat)) :
    Later c (if b + 1 < top then set (b + 1) else after) n := by
  have below : b.toNat < top.toNat := inside
  have more : (b + 1).toNat = b.toNat + 1 := toNat_add_one (by have := top.toNat_lt; omega)
  split
  next room =>
    refine .early (inRange _ room) ?_ (carried _) (halted _)
    have counted := time (b + 1)
    rw [more, Nat.mul_succ] at counted
    omega
  next last =>
    rw [UInt8.lt_iff_toNat_lt, more] at last
    have full : top.toNat = b.toNat + 1 := by omega
    have started : (set 0).time + n * top.toNat = c.time + n := by
      have zero : (set 0).time + n * b.toNat = c.time := time 0
      rw [full, Nat.mul_succ]
      omega
    refine ⟨next.inRange, ?_, ?_, next.halted.trans (halted 0)⟩
    · rw [← started]
      exact next.time
    · rw [← started, ← carried 0]
      exact next.carried

/-- The next day is that many seconds later. -/
theorem nextDay_later (h : c.InRange) : Later c c.nextDay 86400 := by
  unfold nextDay
  by_cases last : c.dayLow = 255
  · have full : c.dayLow.toNat = 255 := congrArg UInt8.toNat last
    have wraps : ¬ (c.dayLow + 1 != 0) = true := by
      rw [last]
      decide
    rw [if_neg wraps]
    split
    · exact overflow_later h full ‹_›
    · rename_i clear
      exact upper_later h full (by simpa using clear)
  · have room : c.dayLow.toNat < 255 := by
      have byte := c.dayLow.toNat_lt
      have more : c.dayLow.toNat ≠ 255 := fun full => last (UInt8.toNat_inj.mp full)
      omega
    have next : (c.dayLow + 1).toNat = c.dayLow.toNat + 1 := toNat_add_one room
    have more : (c.dayLow + 1 != 0) = true := by
      refine bne_iff_ne.mpr fun zero => ?_
      rw [zero] at next
      cases next
    rw [if_pos more]
    refine .early ⟨h.seconds, h.minutes, h.hours, h.flags⟩ ?_ rfl rfl
    simp only [time, day, next]
    omega

theorem nextHour_later (h : c.InRange) : Later c c.nextHour 3600 := by
  have inRange : ∀ b < 24, InRange { c with hours := b } := fun b below =>
    ⟨h.seconds, h.minutes, Nat.le_of_lt_succ below, h.flags⟩
  refine Later.count (fun b => { c with hours := b }) (Nat.lt_succ_of_le h.hours) inRange
    (fun b => ?_) (fun _ => rfl) (fun _ => rfl) (nextDay_later (inRange 0 (by decide)))
  simp only [time, day]
  omega

theorem nextMinute_later (h : c.InRange) : Later c c.nextMinute 60 := by
  have inRange : ∀ b < 60, InRange { c with minutes := b } := fun b below =>
    ⟨h.seconds, Nat.le_of_lt_succ below, h.hours, h.flags⟩
  refine Later.count (fun b => { c with minutes := b }) (Nat.lt_succ_of_le h.minutes) inRange
    (fun b => ?_) (fun _ => rfl) (fun _ => rfl) (nextHour_later (inRange 0 (by decide)))
  simp only [time, day]
  omega

theorem nextSecond_later (h : c.InRange) : Later c c.nextSecond 1 := by
  have inRange : ∀ b < 60, InRange { c with seconds := b } := fun b below =>
    ⟨Nat.le_of_lt_succ below, h.minutes, h.hours, h.flags⟩
  refine Later.count (fun b => { c with seconds := b }) (Nat.lt_succ_of_le h.seconds) inRange
    (fun b => ?_) (fun _ => rfl) (fun _ => rfl) (nextMinute_later (inRange 0 (by decide)))
  simp only [time, day]
  omega

/-! ## Ticks -/

theorem tick_halted (stopped : c.halted = true) : c.tick = c :=
  if_pos stopped

theorem tick_later (h : c.InRange) (running : c.halted = false) : Later c c.tick 1 := by
  have second : c.tick = c.nextSecond := if_neg (Bool.not_eq_true _ ▸ running)
  rw [second]
  exact nextSecond_later h

/-- Later than later is later, and the carry bit stays set from the first end on. -/
theorem Later.trans {e : Clock} {m n : Nat} (first : Later c d m) (second : Later d e n) :
    Later c e (m + n) := by
  refine ⟨second.inRange, ?_, ?_, second.halted.trans first.halted⟩
  · rw [second.time, first.time, Nat.mod_add_mod, Nat.add_assoc]
  · rw [second.carried, first.carried, first.time, or_assoc]
    by_cases passed : period ≤ c.time + m
    · have still : period ≤ c.time + (m + n) := by omega
      simp only [passed, still, true_or, or_true]
    · rw [Nat.mod_eq_of_lt (Nat.lt_of_not_le passed), Nat.add_assoc]
      simp only [passed, false_or]

/-- What `n` ticks make of a clock that runs. -/
theorem ticks_later (h : c.InRange) (running : c.halted = false) (n : Nat) :
    Later c (tick^[n] c) n := by
  induction n with
  | zero => exact .early h rfl rfl rfl
  | succ n ih =>
    rw [Function.iterate_succ_apply']
    exact ih.trans (tick_later ih.inRange (ih.halted.trans running))

/-- The clock counts seconds: after `n` ticks a clock in range that runs is in range, tells the time
`n` seconds on in 512 days, has passed the end of its days if it had before or they ended meanwhile,
and runs; one that is stopped has not moved. A clock that has been set is in range. -/
theorem ticks_count :
    (∀ c : Clock, c.clamped.InRange) ∧
    (∀ (c : Clock) (n : Nat), c.InRange → c.halted = false →
      (tick^[n] c).InRange ∧
      (tick^[n] c).time = (c.time + n) % period ∧
      ((tick^[n] c).carried = true ↔ c.carried = true ∨ period ≤ c.time + n) ∧
      (tick^[n] c).halted = false) ∧
    ∀ (c : Clock) (n : Nat), c.halted = true → tick^[n] c = c := by
  refine ⟨clamped_inRange, fun c n h running => ?_, fun c n stopped => ?_⟩
  · have later := ticks_later h running n
    exact ⟨later.inRange, later.time, later.carried, later.halted.trans running⟩
  · exact Function.iterate_fixed (tick_halted stopped) n

/-- The last second of the last day. -/
def lastSecond : Clock :=
  { seconds := 59, minutes := 59, hours := 23, dayLow := 0xFF, dayHigh := dayBit }

/-- The last second of all, and that of a clock that is stopped. -/
theorem ticks_count_last :
    (tick^[2] lastSecond).time = 1 ∧ (tick^[2] lastSecond).carried = true ∧
    tick^[2] { lastSecond with dayHigh := dayBit ||| haltBit } =
      { lastSecond with dayHigh := dayBit ||| haltBit } := by
  obtain ⟨-, running, stopped⟩ := ticks_count
  obtain ⟨-, now, passed, -⟩ :=
    running lastSecond 2 ⟨by decide, by decide, by decide, by decide⟩ (by decide)
  exact ⟨now, passed.mpr (.inr (by decide)), stopped _ 2 (by decide)⟩

end Clock

end DotMatrix
