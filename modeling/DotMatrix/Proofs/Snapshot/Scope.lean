import DotMatrix.Proofs.Snapshot.Devices

/-!
# How much of a state counts

A snapshot keeps what is emulated, and some choices of the host beside it: the shades, the layers,
and the period and the count of the sampler. So a state can be looked at within two scopes, as a
snapshot keeps it or as it is emulated; what lies outside is blanked.

Results:
* `Core.within_snapshot`, `Core.within_emulation`: what the scopes are.
* `Core.stored_eq_iff`: a snapshot keeps no more than what is emulated and the choices of the host.
-/

namespace DotMatrix

/-- The choices of the host that a snapshot keeps. -/
structure Choices where
  palette : Palette := {}
  layers : Layers := {}
  samplePeriod : Nat := 0
  sampleCycles : Nat := 0

namespace Core

/-- The choices of the host. -/
def choices (m : Core) : Choices where
  palette := m.bus.video.palette
  layers := m.bus.video.layers
  samplePeriod := m.bus.sound.samplePeriod
  sampleCycles := m.bus.sound.sampleCycles

/-- The machine with other choices of the host. -/
def withChoices (m : Core) (h : Choices) : Core :=
  { m with bus := { m.bus with
    video := { m.bus.video with palette := h.palette, layers := h.layers }
    sound := { m.bus.sound with samplePeriod := h.samplePeriod, sampleCycles := h.sampleCycles } } }

/-- What is emulated: all that a snapshot keeps, but for the choices of the host. -/
def emulated (m : Core) : Core :=
  m.stored.withChoices {}

theorem stored_of_emulated (m : Core) : m.stored = m.emulated.withChoices m.choices := rfl

/-- A snapshot keeps the same of two machines when the same is emulated and the host has chosen the
same. -/
theorem stored_eq_iff {m m' : Core} :
    m.stored = m'.stored ↔ m.emulated = m'.emulated ∧ m.choices = m'.choices := by
  constructor
  · intro same
    have choices : m.stored.choices = m'.stored.choices := congrArg Core.choices same
    exact ⟨congrArg (fun m => m.withChoices {}) same, choices⟩
  · rintro ⟨emulated, choices⟩
    rw [stored_of_emulated, stored_of_emulated, emulated, choices]

end Core

/-! ## Scopes -/

/-- How much of a state counts: all that a snapshot keeps, or of it what is emulated. -/
inductive Scope
  | snapshot
  | emulation

/-- A choice of the host, as far as it counts. -/
def Scope.choice {α : Type} (scope : Scope) (blank a : α) : α :=
  match scope with
  | .snapshot => a
  | .emulation => blank

/-- The picture unit without its viewer. -/
def Video.within (scope : Scope) (v : Video) : Video :=
  { v with
    palette := scope.choice {} v.palette
    layers := scope.choice {} v.layers
    screen := none
    tint := none
    cache := {} }

/-- The sound unit without its listener. -/
def Sound.within (scope : Scope) (s : Sound) : Sound :=
  { s with
    samplePeriod := scope.choice 0 s.samplePeriod
    sampleCycles := scope.choice 0 s.sampleCycles
    sampleRate := defaultSampleRate
    recorder := none }

/-- What a scope leaves of a bus. -/
def Bus.within (scope : Scope) (b : Bus) : Bus :=
  { b.stored with video := b.video.within scope, sound := b.sound.within scope }

namespace Core

/-- What a scope leaves of a machine. -/
def within (scope : Scope) (m : Core) : Core :=
  { m with bus := m.bus.within scope }

theorem within_snapshot (m : Core) : m.within .snapshot = m.stored := rfl

theorem within_emulation (m : Core) : m.within .emulation = m.emulated := rfl

end Core

end DotMatrix
