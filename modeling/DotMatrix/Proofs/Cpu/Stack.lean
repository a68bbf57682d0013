import DotMatrix.Proofs.Console.Memory
import DotMatrix.Proofs.Cpu.Service

/-!
# The stack

A stack with room in work memory below its echo, or in high memory, is last in, first out. A word is
two bytes of memory, and bytes of memory are independent of each other but for the echo of work
memory: so a push stores its word and changes no byte outside the two, and what stands above them
stays. From one push follows, by induction on the words, any number of them.

A call pushes the program counter behind it. Whatever happens then, a return that finds the stack
pointer and the two bytes as the call left them continues there.

Results:
* `Roomy.range`: room below the stack pointer, in numbers.
* `write_memory_read`: a byte that is written to such memory, on the whole of the bus.
* `push_read`: one push.
* `popAll_pushAll`, `pushAll_read`: any number of them.
* `Calls.pushed`: a step that calls.
* **`stack_lifo`**: words pushed and popped, and a call with its return.
-/

namespace DotMatrix

/-! ## Addresses -/

namespace Stack

/-- The address is one of the `n` below `sp`. -/
def Below (sp : UInt16) (n : Nat) (addr : UInt16) : Prop :=
  ∃ i < n, addr = sp - (i + 1).toUInt16

/-- The address is one of the `n` below `sp`, or an echo of one in work memory. -/
def Covered (sp : UInt16) (n : Nat) (addr : UInt16) : Prop :=
  Below sp n addr ∨ 0xE000 ≤ addr ∧ addr < 0xFE00 ∧ Below sp n (addr - 0x2000)

/-- The `n` bytes below `sp` all lie in work memory below its echo, or all in high memory. -/
inductive Roomy (sp : UInt16) (n : Nat) : Prop where
  | work (inside : ∀ addr, Below sp n addr → 0xC000 ≤ addr ∧ addr < 0xE000)
  | high (inside : ∀ addr, Below sp n addr → 0xFF80 ≤ addr ∧ addr < 0xFFFF)

variable {sp addr : UInt16} {n k : Nat}

theorem sub_toNat {i : Nat} (fits : i < sp.toNat) :
    (sp - (i + 1).toUInt16).toNat = sp.toNat - (i + 1) := by
  have word := sp.toNat_lt
  have small : (i + 1).toUInt16.toNat = i + 1 :=
    UInt16.toNat_ofNat_of_lt' (Nat.lt_of_le_of_lt fits word)
  rw [UInt16.toNat_sub_of_le _ _ (UInt16.le_iff_toNat_le.mpr (by omega)), small]

/-- The addresses below a stack pointer that does not wrap around. -/
theorem below_iff (fits : n ≤ sp.toNat) :
    Below sp n addr ↔ addr.toNat < sp.toNat ∧ sp.toNat ≤ addr.toNat + n := by
  constructor
  · rintro ⟨i, few, rfl⟩
    rw [sub_toNat (by omega)]
    omega
  · rintro ⟨lower, near⟩
    refine ⟨sp.toNat - addr.toNat - 1, by omega, UInt16.toNat_inj.mp ?_⟩
    rw [sub_toNat (by omega)]
    omega

theorem Below.mono (h : Below sp n addr) (le : n ≤ k) : Below sp k addr := by
  obtain ⟨i, few, rfl⟩ := h
  exact ⟨i, by omega, rfl⟩

/-- What is below the stack pointer after a push was below it before. -/
theorem Below.lift (h : Below (sp - 2) n addr) : Below sp (n + 2) addr := by
  obtain ⟨i, few, rfl⟩ := h
  refine ⟨i + 2, by omega, ?_⟩
  have shifted : (i + 2 + 1).toUInt16 = (i + 1).toUInt16 + 2 := by
    rw [Nat.add_right_comm]
    exact UInt16.ofNat_add (i + 1) 2
  rw [shifted]
  grind

theorem Covered.mono (h : Covered sp n addr) (le : n ≤ k) : Covered sp k addr := by
  rcases h with below | ⟨low, high, below⟩
  · exact .inl (below.mono le)
  · exact .inr ⟨low, high, below.mono le⟩

theorem Covered.lift (h : Covered (sp - 2) n addr) : Covered sp (n + 2) addr := by
  rcases h with below | ⟨low, high, below⟩
  · exact .inl below.lift
  · exact .inr ⟨low, high, below.lift⟩

theorem Roomy.mono (h : Roomy sp n) (le : k ≤ n) : Roomy sp k := by
  cases h with
  | work inside => exact .work fun addr below => inside addr (below.mono le)
  | high inside => exact .high fun addr below => inside addr (below.mono le)

theorem Roomy.lower (h : Roomy sp (n + 2)) : Roomy (sp - 2) n := by
  cases h with
  | work inside => exact .work fun addr below => inside addr below.lift
  | high inside => exact .high fun addr below => inside addr below.lift

theorem range_of_inside {low high : UInt16} (bottom : 0 < low.toNat) (some : 0 < n)
    (inside : ∀ addr, Below sp n addr → low ≤ addr ∧ addr < high) :
    low.toNat + n ≤ sp.toNat ∧ sp.toNat ≤ high.toNat := by
  have first := inside (sp - 1) ⟨0, some, rfl⟩
  have lower : low.toNat ≤ (sp - 1).toNat := first.1
  have upper : (sp - 1).toNat < high.toNat := first.2
  have word := high.toNat_lt
  have positive : 0 < sp.toNat := by
    by_contra none
    have zero : sp = 0 := UInt16.toNat_inj.mp (by simpa using none)
    have top : (sp - 1).toNat = 0xFFFF := by
      rw [zero]
      rfl
    omega
  have one : (sp - 1).toNat = sp.toNat - 1 := sub_toNat positive
  refine ⟨?_, by omega⟩
  -- If the bytes went on below `low`, the one just below it would be inside.
  by_contra far
  have out : low.toNat ≤ (sp - (sp.toNat - low.toNat + 1).toUInt16).toNat :=
    (inside _ ⟨_, by omega, rfl⟩).1
  rw [sub_toNat (by omega)] at out
  omega

/-- Room below the stack pointer, in numbers. -/
theorem Roomy.range (h : Roomy sp n) (some : 0 < n) :
    0xC000 + n ≤ sp.toNat ∧ sp.toNat ≤ 0xE000 ∨ 0xFF80 + n ≤ sp.toNat ∧ sp.toNat ≤ 0xFFFF := by
  cases h with
  | work inside =>
    have range := range_of_inside (by decide) some inside
    exact .inl range
  | high inside =>
    have range := range_of_inside (by decide) some inside
    exact .inr range

/-- What a push writes is not below the stack pointer that it leaves. -/
theorem Roomy.apart (h : Roomy sp (n + 2)) (below : Below sp 2 addr) :
    ¬ Covered (sp - 2) n addr := by
  have range := h.range (by omega)
  have two : (sp - 2).toNat = sp.toNat - 2 := sub_toNat (i := 1) (by omega)
  rw [below_iff (by omega)] at below
  rintro (lower | ⟨low, high, -⟩)
  · rw [below_iff (by omega), two] at lower
    omega
  · have low : 0xE000 ≤ addr.toNat := low
    have high : addr.toNat < 0xFE00 := high
    omega

end Stack

open Stack (Below Covered Roomy)

/-! ## One byte -/

namespace Bus

variable {b : Bus} {addr other : UInt16}

/-- A byte that is written to work memory below the echo, or to high memory, is read back there, and
changes no read but that of its echo. -/
theorem write_memory_read (arises : b.Arises) (val : UInt8)
    (place : 0xC000 ≤ addr ∧ addr < 0xE000 ∨ 0xFF80 ≤ addr ∧ addr < 0xFFFF) :
    (b.write addr val).read addr = val ∧
      ∀ other, other ≠ addr → ¬ (0xE000 ≤ other ∧ other < 0xFE00 ∧ other - 0x2000 = addr) →
        (b.write addr val).read other = b.read other := by
  have mapped := arises.mapped
  have built := arises.built
  have writable : b.Writable addr := by
    rcases place with ⟨low, high⟩ | ⟨low, high⟩
    · exact .wram low (by grind)
    · exact .hram low high
  have cell : (∃ place, b.cellAt addr = .wram place) ∨ ∃ place, b.cellAt addr = .hram place := by
    rcases place with ⟨low, high⟩ | ⟨low, high⟩
    · exact .inl ⟨_, cellAt_wram mapped built low (by grind)⟩
    · exact .inr ⟨_, cellAt_hram low high⟩
  refine ⟨(read_write mapped built writable val (by grind)).1 (.self rfl), fun other apart echo => ?_⟩
  by_cases memory : other < 0xFF00 ∨ 0xFF80 ≤ other
  · refine (read_write mapped built writable val memory).2 fun mirrors => ?_
    cases mirrors with
    | self same => exact apart same
    | echo low high low' high' same =>
      have low : 0xC000 ≤ addr.toNat := low
      have upper : addr.toNat < 0xE000 := by
        rcases place with ⟨-, high⟩ | ⟨low, -⟩
        · exact high
        · grind
      have low' : 0xC000 ≤ other.toNat := low'
      have high' : other.toNat < 0xFE00 := high'
      have differ : other.toNat ≠ addr.toNat := mt UInt16.toNat_inj.mp apart
      have above : 0xE000 ≤ other.toNat := by omega
      have shifted : (other - 0x2000).toNat = other.toNat - 0x2000 :=
        UInt16.toNat_sub_of_le _ _ (UInt16.le_iff_toNat_le.mpr (by
          have bank : (0x2000 : UInt16).toNat = 0x2000 := rfl
          omega))
      exact echo ⟨above, high', UInt16.toNat_inj.mp (by omega)⟩
    | repeats _ low high => grind
  · -- Device registers see nothing of a write to memory.
    rw [write_put mapped built writable]
    have slots : ¬ other < 0xFE00 := by grind
    have objects : ¬ other < 0xFEA0 := by grind
    have unusable : ¬ other < 0xFF00 := by grind
    have registers : other < 0xFF80 := by grind
    simp only [read, if_neg slots, if_neg objects, if_neg unusable, if_pos registers]
    rcases cell with ⟨place, cell⟩ | ⟨place, cell⟩ <;> rw [cell] <;> rfl

end Bus

namespace Core

variable {m : Core} {other : UInt16}

/-! ## One word -/

/-- What a push does to the processor. -/
theorem push_cpu (m : Core) (w : UInt16) : (m.push w).cpu = { m.cpu with sp := m.cpu.sp - 2 } := by
  have two : m.cpu.sp - 2 = m.cpu.sp - 1 - 1 := by grind
  rw [two]
  rfl

theorem push_arises (arises : m.bus.Arises) (w : UInt16) : (m.push w).bus.Arises := by
  rw [push_bus]
  exact (arises.write _ _).write _ _

/-- The word that is pushed is on top, and reads elsewhere do not change. -/
theorem push_read (arises : m.bus.Arises) (room : Roomy m.cpu.sp 2) (w : UInt16) :
    (m.push w).top = w ∧
      ∀ other, ¬ Covered m.cpu.sp 2 other → (m.push w).read other = m.read other := by
  have first : Below m.cpu.sp 2 (m.cpu.sp - 1) := ⟨0, by decide, rfl⟩
  have second : Below m.cpu.sp 2 (m.cpu.sp - 1 - 1) := ⟨1, by decide, by grind⟩
  have place {addr : UInt16} (below : Below m.cpu.sp 2 addr) :
      0xC000 ≤ addr ∧ addr < 0xE000 ∨ 0xFF80 ≤ addr ∧ addr < 0xFFFF := by
    cases room with
    | work inside => exact .inl (inside addr below)
    | high inside => exact .inr (inside addr below)
  obtain ⟨high, othersHigh⟩ := Bus.write_memory_read arises (highByte w) (place first)
  obtain ⟨low, othersLow⟩ :=
    Bus.write_memory_read (arises.write (m.cpu.sp - 1) (highByte w)) (lowByte w) (place second)
  constructor
  · have above : m.cpu.sp - 1 - 1 + 1 = m.cpu.sp - 1 := by grind
    have echo : ¬ (0xE000 ≤ m.cpu.sp - 1 ∧ m.cpu.sp - 1 < 0xFE00) := by
      have there := place first
      grind
    have kept := (othersLow _ (by grind) fun h => echo ⟨h.1, h.2.1⟩).trans high
    change word ((m.push w).bus.read (m.cpu.sp - 1 - 1 + 1)) ((m.push w).bus.read _) = w
    rw [above, push_bus, kept]
    exact (congrArg _ low).trans (word_halves w)
  · intro other apart
    have low := othersLow other (fun same => apart (.inl (same ▸ second)))
      fun echo => apart (.inr ⟨echo.1, echo.2.1, echo.2.2 ▸ second⟩)
    have high := othersHigh other (fun same => apart (.inl (same ▸ first)))
      fun echo => apart (.inr ⟨echo.1, echo.2.1, echo.2.2 ▸ first⟩)
    exact low.trans high

/-! ## Any number of words -/

/-- Pushes words, the first one first. -/
def pushAll (m : Core) (ws : List UInt16) : Core :=
  ws.foldl push m

/-- Pops a number of words, in the order in which they come. -/
def popAll : Nat → Core → List UInt16 × Core
  | 0, m => ([], m)
  | n + 1, m =>
    let (ws, m) := popAll n m
    (ws ++ [m.top], m.drop)

/-- Reads elsewhere do not change while words are pushed. -/
theorem pushAll_read (ws : List UInt16) (arises : m.bus.Arises)
    (room : Roomy m.cpu.sp (2 * ws.length)) (apart : ¬ Covered m.cpu.sp (2 * ws.length) other) :
    (m.pushAll ws).read other = m.read other := by
  induction ws generalizing m with
  | nil => rfl
  | cons w ws ih =>
    have lower : (m.push w).cpu.sp = m.cpu.sp - 2 := by rw [push_cpu]
    have once := (push_read arises (room.mono (by simp)) w).2 other fun covered =>
      apart (covered.mono (by simp))
    refine (ih (push_arises arises w) ?_ ?_).trans once
    · rw [lower]
      exact room.lower
    · rw [lower]
      exact fun covered => apart covered.lift

/-- Words come back in reverse, and the processor is as before. -/
theorem popAll_pushAll (ws : List UInt16) (arises : m.bus.Arises)
    (room : Roomy m.cpu.sp (2 * ws.length)) :
    popAll ws.length (m.pushAll ws) = (ws.reverse, { m with bus := (m.pushAll ws).bus }) := by
  induction ws generalizing m with
  | nil => rfl
  | cons w ws ih =>
    have lower : (m.push w).cpu.sp = m.cpu.sp - 2 := by rw [push_cpu]
    have arises' := push_arises arises w
    have room' : Roomy (m.push w).cpu.sp (2 * ws.length) := lower ▸ room.lower
    have top := (push_read arises (room.mono (by simp)) w).1
    -- The words above do not reach the two bytes of this one.
    have kept {addr : UInt16} (below : Below m.cpu.sp 2 addr) :
        ((m.push w).pushAll ws).read addr = (m.push w).read addr :=
      pushAll_read ws arises' room' (lower ▸ room.apart below)
    have first := kept (show Below m.cpu.sp 2 (m.cpu.sp - 2 + 1) from ⟨0, by decide, by grind⟩)
    have second := kept (show Below m.cpu.sp 2 (m.cpu.sp - 2) from ⟨1, by decide, rfl⟩)
    have restored : m.cpu.sp - 2 + 2 = m.cpu.sp := by grind
    have there : Core.top { m.push w with bus := ((m.push w).pushAll ws).bus } = w := by
      refine Eq.trans ?_ top
      simp only [Core.top, read, lower] at first second ⊢
      rw [first, second]
    have dropped : Core.drop { m.push w with bus := ((m.push w).pushAll ws).bus } =
        { m with bus := ((m.push w).pushAll ws).bus } := by
      simp only [drop, onCpu, push_cpu, restored]
    change (let (ws, m) := popAll ws.length ((m.push w).pushAll ws); (ws ++ [m.top], m.drop)) = _
    rw [ih arises' room', List.reverse_cons]
    dsimp only
    rw [there, dropped]
    rfl

/-! ## Calls and returns -/

theorem fetched_kept (m : Core) :
    m.fetched.cpu.f = m.cpu.f ∧ m.fetched.cpu.sp = m.cpu.sp ∧ m.fetched.bus = m.bus := by
  unfold fetched settleEnable passOpcode
  split <;> split <;> exact ⟨rfl, rfl, rfl⟩

theorem step_fetched {opcode : UInt8} (next : m.opcode? = some opcode) :
    m.step.1 = m.fetched.execute (Instruction.decode opcode) := by
  obtain ⟨stepped, read⟩ := step_of_opcode next
  rw [stepped, runInstruction, settleEnable_read, ← read]
  rfl

/-- The next step calls, and saves this program counter: the one behind the instruction, or the
current one, where an interrupt is served. -/
inductive Calls (m : Core) : UInt16 → Prop where
  | call {opcode : UInt8} (next : m.opcode? = some opcode)
      (kind : Instruction.decode opcode = .call) : Calls m (m.fetched.cpu.pc + 2)
  | callIf {opcode : UInt8} {condition : Condition} (next : m.opcode? = some opcode)
      (kind : Instruction.decode opcode = .callIf condition)
      (taken : m.cpu.holds condition = true) : Calls m (m.fetched.cpu.pc + 2)
  | restart {opcode target : UInt8} (next : m.opcode? = some opcode)
      (kind : Instruction.decode opcode = .restart target) : Calls m m.fetched.cpu.pc
  | dispatch (served : m.dispatches = true) : Calls m m.cpu.pc

/-- The next step returns. -/
inductive Returns (m : Core) : Prop where
  | ret {opcode : UInt8} (next : m.opcode? = some opcode)
      (kind : Instruction.decode opcode = .ret)
  | retIf {opcode : UInt8} {condition : Condition} (next : m.opcode? = some opcode)
      (kind : Instruction.decode opcode = .retIf condition) (taken : m.cpu.holds condition = true)
  | retEnable {opcode : UInt8} (next : m.opcode? = some opcode)
      (kind : Instruction.decode opcode = .retEnable)

theorem fetched_holds (m : Core) (condition : Condition) :
    m.fetched.cpu.holds condition = m.cpu.holds condition := by
  have flags := (fetched_kept m).1
  cases condition <;> simp only [Cpu.holds, Cpu.flag, flags]

/-- A step that calls pushes the program counter that it saves. -/
theorem Calls.pushed {ret : UInt16} (h : m.Calls ret) : ∃ (n : Core) (addr : UInt16),
    m.step.1 = n.callTo addr ∧ n.cpu.sp = m.cpu.sp ∧ n.cpu.pc = ret ∧
      (m.bus.Arises → n.bus.Arises) := by
  obtain ⟨-, sp, bus⟩ := fetched_kept m
  have same : m.bus.Arises → m.fetched.bus.Arises := fun arises => bus ▸ arises
  cases h with
  | call next kind =>
    rw [step_fetched next, kind]
    exact ⟨m.fetched.skip 2, _, rfl, sp, rfl, same⟩
  | @callIf _ condition next kind taken =>
    rw [step_fetched next, kind]
    refine ⟨m.fetched.skip 2, m.fetched.immediateWord, ?_, sp, rfl, same⟩
    exact if_pos ((fetched_holds m condition).trans taken)
  | restart next kind =>
    rw [step_fetched next, kind]
    exact ⟨m.fetched, _, rfl, sp, rfl, same⟩
  | dispatch served =>
    rw [step_of_dispatches served, Core.dispatch]
    exact ⟨_, _, rfl, rfl, rfl, fun arises => .aside arises rfl⟩

/-- A step that returns continues at the word on top of the stack. -/
theorem Returns.popped (h : m.Returns) :
    m.step.1.cpu.pc = m.top ∧ m.step.1.cpu.sp = m.cpu.sp + 2 := by
  obtain ⟨-, sp, bus⟩ := fetched_kept m
  have back : m.fetched.returnBack.cpu.pc = m.top ∧
      m.fetched.returnBack.cpu.sp = m.cpu.sp + 2 := by
    constructor
    · change m.fetched.top = m.top
      simp only [top, read, sp, bus]
    · change m.fetched.cpu.sp + 2 = m.cpu.sp + 2
      rw [sp]
  cases h with
  | ret next kind =>
    rw [step_fetched next, kind]
    exact back
  | @retIf _ condition next kind taken =>
    have returns : m.fetched.execute (.retIf condition) = m.fetched.returnBack :=
      if_pos ((fetched_holds m condition).trans taken)
    rw [step_fetched next, kind, returns]
    exact back
  | retEnable next kind =>
    rw [step_fetched next, kind]
    exact back

/-- A return that finds the stack pointer and the saved bytes as a call left them continues behind
the call, with the stack pointer as before it. -/
theorem Calls.resumed {ret : UInt16} (h : m.Calls ret) (arises : m.bus.Arises)
    (room : Roomy m.cpu.sp 2) {n : Core} (sp : n.cpu.sp = m.step.1.cpu.sp)
    (saved : ∀ addr, Below m.cpu.sp 2 addr → n.read addr = m.step.1.read addr)
    (back : n.Returns) : n.step.1.cpu.pc = ret ∧ n.step.1.cpu.sp = m.cpu.sp := by
  obtain ⟨k, addr, step, same, rfl, keeps⟩ := h.pushed
  have lower : n.cpu.sp = m.cpu.sp - 2 := by
    rw [sp, step, ← same]
    exact congrArg Cpu.sp (push_cpu k k.cpu.pc)
  have first := saved (m.cpu.sp - 2 + 1) ⟨0, by decide, by grind⟩
  have second := saved (m.cpu.sp - 2) ⟨1, by decide, rfl⟩
  have restored : m.cpu.sp - 2 + 2 = m.cpu.sp := by grind
  obtain ⟨pc, sp'⟩ := back.popped
  refine ⟨?_, by rw [sp', lower, restored]⟩
  have top := (push_read (keeps arises) (same ▸ room) k.cpu.pc).1
  rw [pc, ← top]
  simp only [Core.top, lower, push_cpu, same]
  rw [first, second, step]
  rfl

/-- **The stack is last in, first out**: words that are pushed come back in reverse, with the
processor as before, and reads do not change but at their bytes and the echo of these. A return that
finds the stack pointer and the saved bytes as a call left them, the next step for one, continues at
the saved program counter, with the stack pointer as before the call. -/
theorem stack_lifo (arises : m.bus.Arises) :
    (∀ ws : List UInt16, Roomy m.cpu.sp (2 * ws.length) →
      popAll ws.length (m.pushAll ws) = (ws.reverse, { m with bus := (m.pushAll ws).bus }) ∧
      ∀ other, ¬ Covered m.cpu.sp (2 * ws.length) other →
        (popAll ws.length (m.pushAll ws)).2.read other = m.read other) ∧
    (∀ ret, m.Calls ret → Roomy m.cpu.sp 2 →
      ∀ n : Core, n.cpu.sp = m.step.1.cpu.sp →
        (∀ addr, Below m.cpu.sp 2 addr → n.read addr = m.step.1.read addr) → n.Returns →
          n.step.1.cpu.pc = ret ∧ n.step.1.cpu.sp = m.cpu.sp) := by
  refine ⟨fun ws room => ?_, fun ret calls room n sp saved back =>
    calls.resumed arises room sp saved back⟩
  have popped := popAll_pushAll ws arises room
  refine ⟨popped, fun other apart => ?_⟩
  rw [popped]
  exact pushAll_read ws arises room apart

/-- A stack that grows over the border between two slots, at `D000`: two words, and CALL C000 with
RET there. -/
theorem stack_lifo_crossing : ∃ m : Core, m.bus.Arises ∧ m.cpu.sp = 0xD002 ∧
    popAll 2 (m.pushAll [0x1234, 0xABCD]) =
      ([0xABCD, 0x1234], { m with bus := (m.pushAll [0x1234, 0xABCD]).bus }) ∧
    m.Calls 0xFF83 ∧ m.step.1.Returns ∧
    m.step.1.step.1.cpu.pc = 0xFF83 ∧ m.step.1.step.1.cpu.sp = 0xD002 := by
  obtain ⟨m, arises, sp, opcode, behind, back⟩ : ∃ m : Core, m.bus.Arises ∧ m.cpu.sp = 0xD002 ∧
      m.opcode? = some 0xCD ∧ m.fetched.cpu.pc + 2 = 0xFF83 ∧ m.step.1.opcode? = some 0xC9 := by
    let bus := (((Bus.new .dmg).write 0xFF80 0xCD).write 0xFF82 0xC0).write 0xC000 0xC9
    have arises : bus.Arises := .alone ((((Bus.Reachable.new .dmg).write _ _).write _ _).write _ _)
    exact ⟨⟨((Cpu.boot .dmg).set .pc 0xFF80).set .sp 0xD002, bus⟩, arises, rfl,
      by decide +kernel, by decide +kernel, by decide +kernel⟩
  have room : Roomy m.cpu.sp 4 := by
    refine .work fun addr below => ?_
    rw [sp, Stack.below_iff (by decide)] at below
    obtain ⟨below, near⟩ := below
    have top : (0xD002 : UInt16).toNat = 0xD002 := rfl
    exact ⟨UInt16.le_iff_toNat_le.mpr (by
      have low : (0xC000 : UInt16).toNat = 0xC000 := rfl
      omega), UInt16.lt_iff_toNat_lt.mpr (by
      have high : (0xE000 : UInt16).toNat = 0xE000 := rfl
      omega)⟩
  have calls : m.Calls 0xFF83 := behind ▸ .call opcode rfl
  have returns : m.step.1.Returns := .ret back rfl
  obtain ⟨words, resumes⟩ := stack_lifo arises
  obtain ⟨pc, restored⟩ :=
    resumes _ calls (room.mono (by decide)) m.step.1 rfl (fun _ _ => rfl) returns
  exact ⟨m, arises, sp, (words [0x1234, 0xABCD] room).1, calls, returns, pc, restored.trans sp⟩

end Core

end DotMatrix
