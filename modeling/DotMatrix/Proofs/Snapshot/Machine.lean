import DotMatrix.Proofs.Snapshot.Devices

/-!
# Cartridge, bus and machine come back

The bank controllers bring their registers along in a table; everything else is a record of parts
that are known to come back.

Results:
* `cartridge_returns`: the cartridge comes back without its ROM.
* `bus_returns`, **`core_returns`**: the bus and the machine come back as `stored` says.
-/

namespace DotMatrix

namespace Codec

variable {depth : Nat}

/-! ## The cartridge -/

theorem controller_returns {k : Controller} : controller.Returns depth k k where
  storable := storable_ofName (by cases k <;> decide)
  back := by cases k <;> rfl

theorem features_returns {f : Features} : features.Returns (depth + 1) f f :=
  Returns.view (record_returns (by decide)
    (flag_returns.field <| flag_returns.field <| flag_returns.field flag_returns.lastField)) rfl

theorem mbc1Registers_returns {r : UInt8 × UInt8 × UInt8} :
    mbc1Registers.Returns (depth + 1) r r :=
  record_returns (by decide) (byte_returns.field <| byte_returns.field byte_returns.lastField)

theorem mbc3Registers_returns {r : Bool × UInt8} : mbc3Registers.Returns (depth + 1) r r :=
  record_returns (by decide) (flag_returns.field byte_returns.lastField)

/-- A controller with registers is read by its name, and its registers by their own codec. -/
theorem readMapper_table (k : Controller) (registers : Item) :
    readMapper (.table [(controller.write k, registers)]) = readRegisters (some registers) k := by
  cases k <;> rfl

theorem mapper_returns {m : Mapper} : mapper.Returns (depth + 2) m m where
  storable := by
    cases m with
    | plain => exact controller_returns.storable
    | mbc1 low high mode =>
      refine ⟨by simp, fun e he => ?_⟩
      rw [List.mem_singleton.mp he]
      exact ⟨controller_returns.storable, mbc1Registers_returns.storable⟩
    | mbc2 => exact controller_returns.storable
    | mbc3 ramMapped clockRegister =>
      refine ⟨by simp, fun e he => ?_⟩
      rw [List.mem_singleton.mp he]
      exact ⟨controller_returns.storable, mbc3Registers_returns.storable⟩
    | mbc5 => exact controller_returns.storable
  back := by
    cases m with
    | plain => rfl
    | mbc1 low high mode =>
      have registers := Returns.back (@mbc1Registers_returns 0 (low, high, mode))
      change readMapper (.table [(controller.write .mbc1, _)]) = _
      rw [readMapper_table, readRegisters]
      simp [registers]
    | mbc2 => rfl
    | mbc3 ramMapped clockRegister =>
      have registers := Returns.back (@mbc3Registers_returns 0 (ramMapped, clockRegister))
      change readMapper (.table [(controller.write .mbc3, _)]) = _
      rw [readMapper_table, readRegisters]
      simp [registers]
    | mbc5 => rfl

theorem clock_returns {c : Clock} : clock.Returns (depth + 1) c c :=
  Returns.view (record_returns (by decide)
    (byte_returns.field <| byte_returns.field <| byte_returns.field <| byte_returns.field
      byte_returns.lastField)) rfl

/-- The cartridge comes back without its ROM. -/
theorem cartridge_returns {c : Cartridge} (h : c.Fits) :
    cartridge.Returns (depth + 3) c c.stored :=
  Returns.view (record_returns (by decide)
    ((memory_returns h.ram).field <| byte_returns.field <| controller_returns.field <|
      features_returns.field <| (size_returns h.romSize).field <|
      (size_returns h.ramSize).field <| word_returns.field <| byte_returns.field <|
      mapper_returns.field <| word_returns.field <| byte_returns.field <| flag_returns.field
      clock_returns.lastField)) rfl

theorem cart_returns {cart : Option Cartridge} (h : ∀ c ∈ cart, c.Fits) :
    (optional cartridge).Returns (depth + 3) cart (cart.map Cartridge.stored) := by
  cases cart with
  | none => exact optional_none cartridge
  | some c => exact optional_some (cartridge_returns (h c rfl)) (record_present _ _)

/-! ## The machine -/

/-- The bus comes back without its slots and the host's side. -/
theorem bus_returns {b : Bus} (h : b.Fits) : bus.Returns (depth + 5) b b.stored :=
  Returns.view (record_returns (by decide)
    ((memory_returns h.wram).field <| (bytes_returns (by decide)).field <|
      (cart_returns h.cart).fieldOr <| byte_returns.field <| byte_returns.field <|
      link_returns.field <| (video_returns h.video).field <| (sound_returns h.sound).field <|
      timer_returns.field <| joypad_returns.field <| byte_returns.field <| byte_returns.field <|
      (bytes_returns (by decide)).field <| model_returns.field
      (cycles_returns h.stall).lastField)) rfl

/-- The machine comes back as its snapshot keeps it. -/
theorem core_returns {m : Core} (h : m.bus.Fits) : core.Returns (depth + 6) m m.stored :=
  Returns.view (record_returns (by decide) (cpu_returns.field (bus_returns h).lastField)) rfl

end Codec

end DotMatrix
