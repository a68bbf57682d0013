import DotMatrix.Proofs.Bus.Alike
import DotMatrix.Proofs.Console.Reachable

/-!
# Playing on

Two consoles may differ for the host alone, and in the frames they have counted. The count decides
when the cartridge clock ticks: sixty frames make a second. The consoles play on alike as long as
every frame ends a second for both of them or for neither (`InStep`), or the clock does not run.

Results:
* `act_under`, **`perform_under`**: machines that keep the same time stay alike, within any scope.
* `act_alike`, **`perform_alike`**: so do consoles with their settings.
* `inStep_of_frames`, `inStep_of_drive`, `inStep_of_unclocked`: when two consoles keep the same
  time.
* **`inStep_of_same`**, **`partner_of_same`**: consoles that have the same snapshots whatever is
  played keep the same time, and the partners at their cables answer the same.
-/

namespace DotMatrix

namespace Clock

theorem nextDay_seconds (c : Clock) : c.nextDay.seconds = c.seconds := by
  unfold nextDay
  split
  · rfl
  · split <;> rfl

theorem nextHour_seconds (c : Clock) : c.nextHour.seconds = c.seconds := by
  unfold nextHour
  split
  · rfl
  · exact nextDay_seconds _

theorem nextMinute_seconds (c : Clock) : c.nextMinute.seconds = c.seconds := by
  unfold nextMinute
  split
  · rfl
  · exact nextHour_seconds _

/-- A clock that runs shows another second afterwards. -/
theorem tick_seconds {c : Clock} (runs : c.halted = false) : c.tick.seconds ≠ c.seconds := by
  unfold tick nextSecond
  rw [if_neg (by simp [runs])]
  split
  · intro same
    have count := congrArg UInt8.toNat same
    grind
  · rename_i last
    rw [nextMinute_seconds]
    intro same
    have first : c.seconds = 0 := same.symm
    rw [first] at last
    exact last (by decide)

end Clock

namespace Cartridge

/-- Whether there is a clock, and it runs. -/
def clockRuns (c : Cartridge) : Bool :=
  c.features.clock && !c.clock.halted

theorem tickClock_still {c : Cartridge} (still : c.clockRuns = false) : c.tickClock = c := by
  unfold tickClock Clock.tick
  split
  · rename_i clocked
    have halted : c.clock.halted = true := by simpa [clockRuns, clocked] using still
    rw [if_pos halted]
  · rfl

/-- A second shows on a clock that runs. -/
theorem tickClock_stored {c : Cartridge} (runs : c.clockRuns = true) :
    c.tickClock.stored ≠ c.stored := by
  obtain ⟨clocked, goesOn⟩ : c.features.clock = true ∧ c.clock.halted = false := by
    simpa [clockRuns] using runs
  intro same
  have clocks : c.tickClock.clock = c.clock := (congrArg Cartridge.clock same :)
  rw [tickClock, if_pos clocked] at clocks
  exact Clock.tick_seconds goesOn (congrArg Clock.seconds clocks)

end Cartridge

namespace Core

/-- The same counts of machines that are alike. -/
theorem within_alike {scope : Scope} {m m' : Core} (h : m.Under (Bus.AlikeIn scope) m') :
    m.within scope = m'.within scope := by
  rw [within, within, h.cpu, h.bus.within]

/-- Machines that are alike have one snapshot. -/
theorem encode_alike {m m' : Core} (h : m.Under Bus.Alike m') :
    Snapshot.encode m = Snapshot.encode m' := by
  have stored : m.stored = m'.stored := by
    rw [← within_snapshot, within_alike h, within_snapshot]
  rw [← Snapshot.encode_stored, stored, Snapshot.encode_stored]

end Core

namespace Console

variable {scope : Scope} {c c' : Console}

/-! ## Playing on -/

/-- Two consoles that differ for the host alone, and perhaps in the frames they have counted. -/
structure Alike (c c' : Console) : Prop where
  core : c.core.Under Bus.Alike c'.core
  settings : c.settings = c'.settings

/-- Whether an action is one of a player: time, the buttons, or a write. -/
def Action.plays : Action → Bool
  | .turn | .run _ | .frame | .setButtons _ _ | .write _ _ => true
  | .reset | .loadSave _ | .setClock _ => false

/-- Whether the next frame ends a second for the cartridge clock. -/
def secondEnds (c : Console) : Bool :=
  c.settings.clockDrive = .frames && (c.frames + 1) % framesPerSecond == 0

/-- Whether the cartridge has a clock, and it runs. -/
def clockRuns (c : Console) : Bool :=
  c.cart.any Cartridge.clockRuns

/-- Whatever is played, the next frame then ends a second for both consoles or for neither, or the
clock does not run when that frame is over. -/
def InStep (c c' : Console) : Prop :=
  ∀ future : List Action, (∀ a ∈ future, a.plays) →
    (c.perform future).secondEnds = (c'.perform future).secondEnds ∨
      ((c.perform future).run cyclesPerFrame).1.clockRuns = false

theorem perform_append (c : Console) (first later : List Action) :
    c.perform (first ++ later) = (c.perform first).perform later :=
  List.foldl_append

theorem perform_frame (c : Console) :
    c.perform [.frame] = (c.run cyclesPerFrame).1.countFrame := rfl

theorem InStep.act (h : c.InStep c') {a : Action} (plays : a.plays) :
    (c.act a).InStep (c'.act a) := by
  intro future played
  exact h (a :: future) (List.forall_mem_cons.mpr ⟨plays, played⟩)

theorem countFrame_core (c : Console) :
    c.countFrame.core = if c.secondEnds then c.tickClock.core else c.core := by
  change (if c.secondEnds then _ else _ : Console).core = _
  split <;> rfl

theorem countFrame_settings (c : Console) : c.countFrame.settings = c.settings := by
  change (if c.secondEnds then _ else _ : Console).settings = _
  split <;> rfl

theorem tickClock_under (h : c.core.Under (Bus.AlikeIn scope) c'.core) :
    c.tickClock.core.Under (Bus.AlikeIn scope) c'.tickClock.core :=
  ⟨h.cpu, { h.bus with cart := congrArg (Option.map Cartridge.tickClock) h.bus.cart }⟩

/-- A second changes nothing when no clock runs. -/
theorem tickClock_still (still : c.clockRuns = false) : c.tickClock = c := by
  have cart : c.core.bus.cart.map Cartridge.tickClock = c.core.bus.cart := by
    cases inside : c.core.bus.cart with
    | none => rfl
    | some cart =>
      have still : cart.clockRuns = false := by simpa [clockRuns, Console.cart, inside] using still
      rw [Option.map_some, Cartridge.tickClock_still still]
  rw [tickClock, onBus, cart]

/-- A second that changes nothing in the snapshot is one for which no clock runs. -/
theorem still_of_same (same : c.tickClock.saveState = c.saveState) : c.clockRuns = false := by
  cases inside : c.core.bus.cart with
  | none => simp [clockRuns, Console.cart, inside]
  | some cart =>
    by_contra runs
    obtain ⟨clocked, goesOn⟩ : cart.features.clock = true ∧ cart.clock.halted = false := by
      simpa [clockRuns, Console.cart, inside, Cartridge.clockRuns] using runs
    have ticked : cart.tickClock = { cart with clock := cart.clock.tick } := by
      rw [Cartridge.tickClock, if_pos clocked]
    have machine : c.core = { c.core with bus := { c.core.bus with
        cart := some { cart with clock := cart.clock } } } := by
      rw [← inside]
    simp only [saveState, tickClock, onBus, inside, Option.map_some, ticked] at same
    rw [machine] at same
    have clocks := Snapshot.encode_clock c.core cart same
    exact Clock.tick_seconds goesOn (congrArg Clock.seconds clocks)

theorem clockRuns_under (h : c.core.Under (Bus.AlikeIn scope) c'.core) :
    c.clockRuns = c'.clockRuns := by
  have cart : c.cart = c'.cart := h.bus.cart
  rw [clockRuns, clockRuns, cart]

theorem clockRuns_alike (h : c.Alike c') : c.clockRuns = c'.clockRuns :=
  clockRuns_under h.core

/-- Counting a frame leaves machines alike that keep the same time. -/
theorem countFrame_under (h : c.core.Under (Bus.AlikeIn scope) c'.core)
    (inStep : c.secondEnds = c'.secondEnds ∨ c.clockRuns = false) :
    c.countFrame.core.Under (Bus.AlikeIn scope) c'.countFrame.core := by
  rw [countFrame_core, countFrame_core]
  rcases inStep with same | still
  · rw [same]
    split
    · exact tickClock_under h
    · exact h
  · rw [tickClock_still still, tickClock_still ((clockRuns_under h).symm.trans still), ite_self,
      ite_self]
    exact h

theorem run_secondEnds (c : Console) (cycles : Nat) :
    (c.run cycles).1.secondEnds = c.secondEnds := rfl

theorem run_under (h : c.core.Under (Bus.AlikeIn scope) c'.core) (cycles : Nat) :
    (c.run cycles).1.core.Under (Bus.AlikeIn scope) (c'.run cycles).1.core :=
  (Core.run_under Bus.alike_simulation h cycles).1

theorem run_alike (h : c.Alike c') (cycles : Nat) : (c.run cycles).1.Alike (c'.run cycles).1 :=
  ⟨run_under h.core cycles, h.settings⟩

/-- An action leaves machines alike that keep the same time. -/
theorem act_under (h : c.core.Under (Bus.AlikeIn scope) c'.core) {a : Action} (plays : a.plays)
    (inStep : a = .frame →
      c.secondEnds = c'.secondEnds ∨ (c.run cyclesPerFrame).1.clockRuns = false) :
    (c.act a).core.Under (Bus.AlikeIn scope) (c'.act a).core := by
  cases a with
  | turn => exact (Core.turn_under Bus.alike_simulation h).1
  | run cycles => exact run_under h cycles
  | frame => exact countFrame_under (run_under h cyclesPerFrame) (inStep rfl)
  | setButtons mask down => exact ⟨h.cpu, Bus.setButtons_alike h.bus mask down⟩
  | write addr val => exact ⟨h.cpu, Bus.write_alike h.bus addr val⟩
  | reset => cases plays
  | loadSave data => cases plays
  | setClock clock => cases plays

/-- Machines that keep the same time stay alike, whatever is played. -/
theorem perform_under (h : c.core.Under (Bus.AlikeIn scope) c'.core) (inStep : c.InStep c')
    {future : List Action} (plays : ∀ a ∈ future, a.plays) :
    (c.perform future).core.Under (Bus.AlikeIn scope) (c'.perform future).core := by
  induction future generalizing c c' with
  | nil => exact h
  | cons a rest ih =>
    obtain ⟨first, later⟩ := List.forall_mem_cons.mp plays
    have acted := act_under h first fun _ => inStep [] (by simp)
    exact ih acted (inStep.act first) later

/-! ## With the settings -/

theorem act_settings (c : Console) {a : Action} (plays : a.plays) :
    (c.act a).settings = c.settings := by
  cases a with
  | frame => exact countFrame_settings (c.run cyclesPerFrame).1
  | reset => cases plays
  | loadSave data => cases plays
  | setClock clock => cases plays
  | _ => rfl

theorem perform_settings (c : Console) {future : List Action} (plays : ∀ a ∈ future, a.plays) :
    (c.perform future).settings = c.settings := by
  induction future generalizing c with
  | nil => rfl
  | cons a rest ih =>
    obtain ⟨first, later⟩ := List.forall_mem_cons.mp plays
    exact (ih (c.act a) later).trans (act_settings c first)

/-- An action leaves consoles alike that keep the same time. -/
theorem act_alike (h : c.Alike c') {a : Action} (plays : a.plays)
    (inStep : a = .frame →
      c.secondEnds = c'.secondEnds ∨ (c.run cyclesPerFrame).1.clockRuns = false) :
    (c.act a).Alike (c'.act a) :=
  ⟨act_under h.core plays inStep,
    by rw [act_settings c plays, act_settings c' plays, h.settings]⟩

/-- Consoles that keep the same time stay alike, whatever is played. -/
theorem perform_alike (h : c.Alike c') (inStep : c.InStep c') {future : List Action}
    (plays : ∀ a ∈ future, a.plays) : (c.perform future).Alike (c'.perform future) :=
  ⟨perform_under h.core inStep plays,
    by rw [perform_settings c plays, perform_settings c' plays, h.settings]⟩

/-- Consoles that have the same snapshot after a frame is counted kept the same time. -/
theorem inStep_of_count (h : c.Alike c') (same : c.countFrame.saveState = c'.countFrame.saveState) :
    c.secondEnds = c'.secondEnds ∨ c.clockRuns = false := by
  rw [saveState, saveState, countFrame_core, countFrame_core] at same
  -- A second for one of them alone changes its snapshot, unless no clock runs.
  cases ends : c.secondEnds <;> cases ends' : c'.secondEnds <;> rw [ends, ends'] at same
  case false.false => exact .inl rfl
  case true.true => exact .inl rfl
  case true.false =>
    exact .inr (still_of_same (same.trans (Core.encode_alike h.core).symm))
  case false.true =>
    exact .inr (still_of_same ((Core.encode_alike (tickClock_under h.core)).trans same.symm))

/-- Consoles that have the same snapshot after a frame kept the same time in it. -/
theorem inStep_of_frame (h : c.Alike c')
    (same : (c.perform [.frame]).saveState = (c'.perform [.frame]).saveState) :
    c.secondEnds = c'.secondEnds ∨ (c.run cyclesPerFrame).1.clockRuns = false := by
  rw [perform_frame, perform_frame] at same
  have inStep := inStep_of_count (run_alike h cyclesPerFrame) same
  rwa [run_secondEnds, run_secondEnds] at inStep

/-- Consoles that have the same snapshot whatever is played keep the same time. -/
theorem inStep_of_same (h : c.Alike c')
    (same : ∀ future : List Action, (∀ a ∈ future, a.plays) →
      (c.perform future).saveState = (c'.perform future).saveState) : c.InStep c' := by
  intro future plays
  -- By induction on what is played: one frame now shows that the consoles are in step so far,
  -- and so the first action leaves them alike.
  induction future generalizing c c' with
  | nil => exact inStep_of_frame h (same [.frame] (by simp [Action.plays]))
  | cons a rest ih =>
    obtain ⟨first, later⟩ := List.forall_mem_cons.mp plays
    have now := inStep_of_frame h (same [.frame] (by simp [Action.plays]))
    refine ih (act_alike h first fun _ => now) (fun future played => ?_) later
    exact same (a :: future) (List.forall_mem_cons.mpr ⟨first, played⟩)

/-! ## Keeping the same time -/

theorem countFrame_frames (c : Console) : c.countFrame.frames = c.frames + 1 := by
  change (if c.secondEnds then _ else _ : Console).frames = _
  split <;> rfl

theorem act_frames (frames : c.frames = c'.frames) {a : Action} (plays : a.plays) :
    (c.act a).frames = (c'.act a).frames := by
  cases a with
  | frame =>
    have counted (d : Console) : (d.act .frame).frames = d.frames + 1 :=
      countFrame_frames (d.run cyclesPerFrame).1
    rw [counted, counted, frames]
  | reset => cases plays
  | loadSave data => cases plays
  | setClock clock => cases plays
  | _ => exact frames

/-- Consoles that have counted the same frames keep the same time, if their clocks are driven alike. -/
theorem inStep_of_frames (drive : c.settings.clockDrive = c'.settings.clockDrive)
    (frames : c.frames = c'.frames) : c.InStep c' := by
  intro future plays
  left
  induction future generalizing c c' with
  | nil =>
    rw [perform, perform, List.foldl_nil, List.foldl_nil, secondEnds, secondEnds, drive, frames]
  | cons a rest ih =>
    obtain ⟨first, later⟩ := List.forall_mem_cons.mp plays
    refine ih ?_ (act_frames frames first) later
    rw [act_settings c first, act_settings c' first, drive]

/-- Consoles whose hosts drive the clock keep the same time. -/
theorem inStep_of_drive (drive : c.settings.clockDrive = .host)
    (drive' : c'.settings.clockDrive = .host) : c.InStep c' := by
  intro future plays
  left
  have idle {d : Console} (drive : d.settings.clockDrive = .host) :
      (d.perform future).secondEnds = false := by
    simp [secondEnds, perform_settings d plays, drive]
  rw [idle drive, idle drive']

/-- A cartridge without a clock keeps the same time. -/
theorem inStep_of_unclocked (consistent : c.Consistent)
    (unclocked : ∀ cart ∈ c.cart, cart.features.clock = false) : c.InStep c' := by
  intro future plays
  right
  obtain ⟨played, kin⟩ := perform_consistent consistent future
  obtain ⟨-, fixed⟩ := Core.run_settled played.mapped cyclesPerFrame
  have same : ((c.perform future).core.run cyclesPerFrame).1.bus.cart.map Cartridge.identity =
      c.core.bus.cart.map Cartridge.identity :=
    (congrArg Bus.Fixed.cart fixed).trans kin.cart
  have still (cart : Cartridge)
      (inside : ((c.perform future).run cyclesPerFrame).1.cart = some cart) :
      cart.clockRuns = false := by
    have inside : ((c.perform future).core.run cyclesPerFrame).1.bus.cart = some cart := inside
    rw [inside, Option.map_some] at same
    obtain ⟨first, there, identity⟩ := Option.map_eq_some_iff.mp same.symm
    simp only [Cartridge.identity, Prod.mk.injEq] at identity
    simp [Cartridge.clockRuns, ← identity.2.2.2.2, unclocked first there]
  rw [clockRuns]
  cases inside : ((c.perform future).run cyclesPerFrame).1.cart with
  | none => rfl
  | some cart => exact still cart inside

/-! ## The partner at the cable -/

/-- The actions that exchange a byte with the partner. -/
def exchange (b : UInt8) : List Action :=
  [.write 0xFF01 b, .write 0xFF02 0x81]

theorem exchange_plays (b : UInt8) : ∀ a ∈ exchange b, a.plays := by
  simp [exchange, Action.plays]

/-- The partner's answer stands at the link port, and the partner remembers the byte. -/
theorem exchange_link (c : Console) (b : UInt8) :
    (c.perform (exchange b)).core.bus.link.sb = c.core.bus.link.partner [] b ∧
      (c.perform (exchange b)).core.bus.link.sc = 0x01 ∧
      (c.perform (exchange b)).core.bus.link.partner =
        fun sent => c.core.bus.link.partner (b :: sent) :=
  Link.transfer_shows { c.core.bus.link with sb := b }

/-- A snapshot does not hold the cable. -/
theorem saveState_setCable (c : Console) (cable : Option Cable) :
    (c.setCable cable).saveState = c.saveState := rfl

/-- Consoles that are alike without their cables are alike if the partners answer the same. -/
theorem alike_of_partner (h : (c.setCable none).Alike (c'.setCable none))
    (partner : c.core.bus.link.partner = c'.core.bus.link.partner) : c.Alike c' :=
  ⟨⟨h.core.cpu, { h.core.bus with link := ⟨h.core.bus.link.sb, h.core.bus.link.sc, partner⟩ }⟩,
    h.settings⟩

/-- After an exchange, consoles that were alike without their cables differ in the answers alone. -/
theorem exchange_under (h : (c.setCable none).Alike (c'.setCable none)) (b : UInt8) :
    let plain := ((c'.perform (exchange b)).setCable none).core
    Core.Under Bus.Alike ((c.perform (exchange b)).setCable none).core
      { plain with bus := { plain.bus with link := { plain.bus.link with
        sb := c.core.bus.link.partner [] b } } } := by
  intro plain
  obtain ⟨sb, sc, -⟩ := exchange_link c b
  obtain ⟨-, sc', -⟩ := exchange_link c' b
  have link : Link.Alike { (c.perform (exchange b)).core.bus.link with cable := none }
      { plain.bus.link with sb := c.core.bus.link.partner [] b } :=
    ⟨sb, sc.trans sc'.symm, rfl⟩
  have requests := congrArg Interrupt.serial.raise h.core.bus.requests
  exact ⟨h.core.cpu, { h.core.bus with link := link, requests := requests }⟩

/-- An exchange with the same answer leaves consoles alike without their cables. -/
theorem exchange_alike (h : (c.setCable none).Alike (c'.setCable none)) {b : UInt8}
    (answer : c.core.bus.link.partner [] b = c'.core.bus.link.partner [] b) :
    ((c.perform (exchange b)).setCable none).Alike ((c'.perform (exchange b)).setCable none) := by
  have under := exchange_under h b
  rw [answer, ← (exchange_link c' b).1] at under
  exact ⟨under, h.settings⟩

/-- Consoles that have the same snapshot after an exchange had the same answer. -/
theorem answer_of_same (h : (c.setCable none).Alike (c'.setCable none)) {b : UInt8}
    (same : (c.perform (exchange b)).saveState = (c'.perform (exchange b)).saveState) :
    c.core.bus.link.partner [] b = c'.core.bus.link.partner [] b := by
  rw [← saveState_setCable _ none, ← saveState_setCable (c'.perform (exchange b)) none] at same
  have shown := Snapshot.encode_sb ((c'.perform (exchange b)).setCable none).core
    ((Core.encode_alike (exchange_under h b)).symm.trans same)
  exact shown.trans (exchange_link c' b).1

/-- Consoles that have the same snapshot whatever is played have partners that answer the same. -/
theorem partner_of_same (h : (c.setCable none).Alike (c'.setCable none))
    (same : ∀ future : List Action, (∀ a ∈ future, a.plays) →
      (c.perform future).saveState = (c'.perform future).saveState) :
    c.core.bus.link.partner = c'.core.bus.link.partner := by
  funext sent
  -- By induction on the bytes that are sent: while all answers were the same, so are the consoles.
  induction sent generalizing c c' with
  | nil => exact funext fun b => answer_of_same h (same (exchange b) (exchange_plays b))
  | cons b rest ih =>
    have answer := answer_of_same h (same (exchange b) (exchange_plays b))
    have remembered := ih (exchange_alike h answer) fun future plays => by
      rw [← perform_append, ← perform_append]
      exact same _ (List.forall_mem_append.mpr ⟨exchange_plays b, plays⟩)
    rwa [(exchange_link c b).2.2, (exchange_link c' b).2.2] at remembered

end Console

end DotMatrix
