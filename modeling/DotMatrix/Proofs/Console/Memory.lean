import DotMatrix.Proofs.Bus.Memory
import DotMatrix.Proofs.Console.Inserted

/-!
# Memory in a machine

What holds of memory on a bus whose slots are up to date and whose cartridge is built as its image
says, holds of every bus that comes about.

Results:
* `Arises.mapped`, `Arises.built`: what is known of such a bus.
* **`write_memory`**: memory behaves as memory, and what is shut is not written.
-/

namespace DotMatrix

namespace Bus

/-- The buses that come about: those that can be reached on their own or in a console, and what
becomes of them when the host goes past the console to the bus. It may set whatever the slots do not
depend on, and it may write, exchange the cartridge and reset. -/
inductive Arises : Bus → Prop where
  | alone {b : Bus} : b.Reachable → Arises b
  | inside {c : Console} : c.Reachable → Arises c.core.bus
  | aside {b b' : Bus} : Arises b → b'.layout = b.layout → Arises b'
  | write {b : Bus} (addr : UInt16) (val : UInt8) : Arises b → Arises (b.write addr val)
  | insert {b : Bus} {rom : Rom} {cart : Cartridge} :
      Arises b → Cartridge.ofRom rom = .ok cart → Arises (b.insert cart)
  | reset {b : Bus} (model : Model) : Arises b → Arises (b.reset model)

variable {b : Bus}

theorem Arises.mapped (h : b.Arises) : b.Mapped := by
  induction h with
  | alone reached => exact reached.mapped
  | inside reached => exact reached.consistent.mapped
  | aside _ same ih => exact ih.congr same
  | write addr val _ ih => exact write_mapped ih addr val
  | insert _ accepted ih => exact insert_mapped ih (Cartridge.ofRom_coherent accepted)
  | reset model _ ih => exact reset_mapped ih.cart model

theorem Arises.built (h : b.Arises) : b.Holds Cartridge.Built := by
  have law := Cartridge.built_lasting
  induction h with
  | alone reached => exact reached.holds law Cartridge.ofRom_built
  | inside reached => exact reached.holds law Cartridge.ofRom_built
  | aside _ same ih => exact ih.refill law (congrArg Layout.cart same)
  | write addr val _ ih => exact (holds_invariant law).write ih addr val
  | insert _ accepted _ =>
    rintro c ⟨⟩
    exact Cartridge.ofRom_built accepted
  | reset model _ ih => exact reset_holds law ih model

/-- On every bus that comes about, memory that may be written behaves as memory: the value is read
back at the address and at its mirrors, and every other address below `FF00` or from `FF80` on reads
as before. Where the picture unit uses a memory, where there is none, and where the cartridge shows
nothing, a write changes nothing. -/
theorem write_memory (arises : b.Arises) (addr : UInt16) (val : UInt8) :
    (b.Writable addr →
      (b.write addr val).read addr = val ∧
      ∀ other, other < 0xFF00 ∨ 0xFF80 ≤ other →
        (b.Mirrors addr other → (b.write addr val).read other = val) ∧
        (¬ b.Mirrors addr other → (b.write addr val).read other = b.read other)) ∧
    (b.Shut addr → b.write addr val = b) := by
  have mapped := arises.mapped
  have built := arises.built
  refine ⟨fun w => ⟨?_, fun other outside => read_write mapped built w val outside⟩,
    fun shut => write_shut mapped built shut val⟩
  have outside : addr < 0xFF00 ∨ 0xFF80 ≤ addr := by
    cases w <;> grind
  exact (read_write mapped built w val outside).1 (.self rfl)

/-- A cartridge with 2 KiB of RAM, enabled: what is written at `A123` is read there and at `B923`,
work memory stays, and nothing can be written at `FEA0`. -/
theorem write_memory_small :
    ∃ cart, Cartridge.ofRom (Cartridge.coded 0x1B 0 1) = .ok cart ∧
      let b := ((Bus.new .gbc).insert cart).write 0x0000 0x0A
      b.Arises ∧ b.Writable 0xA123 ∧ b.Mirrors 0xA123 0xB923 ∧ ¬ b.Mirrors 0xA123 0xC123 ∧
        b.Shut 0xFEA0 ∧
        (b.write 0xA123 0x5C).read 0xA123 = 0x5C ∧ (b.write 0xA123 0x5C).read 0xB923 = 0x5C ∧
        (b.write 0xA123 0x5C).read 0xC123 = b.read 0xC123 ∧ b.write 0xFEA0 0x5C = b := by
  have read : Header.read (Cartridge.coded 0x1B 0 1) =
      .ok (Cartridge.codedHeader 0x1B 0 1 .mbc5 { ram := true, battery := true } 0x800) :=
    Cartridge.coded_read (by decide) rfl rfl
  have accepted := Cartridge.ofRom_of_read read
  refine ⟨_, accepted, ?_⟩
  intro b
  have arises : b.Arises := .alone (((Reachable.new .gbc).insert accepted).write 0x0000 0x0A)
  have region : (b.slotAt 0xA123).region = .cartRam := by
    rw [slotAt_slotFor arises.mapped]
    rfl
  have inside : b.cart = some ((Cartridge.ofHeader _ _).writeControl 0x0000 0x0A) := rfl
  have writable : b.Writable 0xA123 := by
    refine .cartRam (by decide) (by decide) region fun c there => ?_
    obtain rfl := Option.some.inj (inside.symm.trans there)
    exact Controller.noConfusion
  have mirror : b.Mirrors 0xA123 0xB923 :=
    .repeats inside (by decide) (by decide) (by decide) (by decide) rfl
  have apart : ¬ b.Mirrors 0xA123 0xC123 := by
    rintro (same | ⟨low, high, -, -, -⟩ | ⟨-, -, -, -, high, -⟩)
    · exact absurd same (by decide)
    · exact absurd low (by decide)
    · exact absurd high (by decide)
  have shut : b.Shut 0xFEA0 := .unusable (by decide) (by decide)
  obtain ⟨same, others⟩ := (write_memory arises 0xA123 0x5C).1 writable
  exact ⟨arises, writable, mirror, apart, shut, same, (others 0xB923 (by decide)).1 mirror,
    (others 0xC123 (by decide)).2 apart, (write_memory arises 0xFEA0 0x5C).2 shut⟩

end Bus

end DotMatrix
