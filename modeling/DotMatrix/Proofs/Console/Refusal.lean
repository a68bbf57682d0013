import DotMatrix.Console.Operation
import DotMatrix.Proofs.Snapshot.File

/-!
# Refusals

An operation works on the console in place, so a refusal after the first change would leave a
console that is half one thing and half another. None of the operations does that: each one looks
first, and is sure of what it does as soon as it has begun to change something.

An operation is *atomic* if a refusal leaves the console as it was. To look and then go on with an
atomic operation is atomic (`Looks.bind`), and so is an atomic operation that is followed by sure
ones (`Atomic.bind`).

Results:
* **`ask_refused`**: whatever is asked of a console and refused, for whatever reason, leaves all of
  the console as it was.
* `ask_eq`: in place, each operation does what its function on consoles gives.
-/

namespace DotMatrix

namespace Console

namespace Operation

variable {α β : Type}

/-! ## What an operation does to a console -/

/-- One operation after another: the second starts at the console that the first one leaves, and a
refusal of the first ends both. -/
theorem bind_apply (x : Operation α) (k : α → Operation β) (c : Console) :
    (x >>= k) c = match x c with
      | .ok a c' => k a c'
      | .error fault c' => .error fault c' := by
  change EStateM.bind x k c = _
  unfold EStateM.bind
  cases x c <;> rfl

theorem bind_ok {x : Operation α} {k : α → Operation β} {c c' : Console} {a : α}
    (result : x c = .ok a c') : (x >>= k) c = k a c' := by
  rw [bind_apply, result]

theorem bind_error {x : Operation α} {k : α → Operation β} {c c' : Console} {fault : Fault}
    (result : x c = .error fault c') : (x >>= k) c = .error fault c' := by
  rw [bind_apply, result]

theorem get_apply (c : Console) : (get : Operation Console) c = .ok c c := rfl

theorem changeBus_apply (f : Bus → Bus) (c : Console) : changeBus f c = .ok () (c.onBus f) := rfl

theorem changeCart_apply {c : Console} {cart : Cartridge} (inside : c.cart = some cart)
    (f : Cartridge → Cartridge) : changeCart f c = .ok () (c.withCart (f cart)) := by
  have inBus : c.core.bus.cart = some cart := inside
  rw [changeCart, changeBus_apply, onBus, withCart, onBus, inBus, Option.map_some]

theorem require_apply (condition : Bool) (fault : Fault) (c : Console) :
    require condition fault c = if condition then .ok () c else .error fault c := by
  cases condition <;> rfl

theorem cartridge_apply (c : Console) :
    cartridge c = match c.cart with
      | some cart => .ok cart c
      | none => .error .noRomLoaded c := by
  rw [cartridge, bind_ok (get_apply c)]
  cases c.cart <;> rfl

/-! ## Kinds of operations -/

/-- The console is left as it is, with or without a result. -/
def Looks (x : Operation α) : Prop :=
  ∀ c, (∃ a, x c = .ok a c) ∨ ∃ fault, x c = .error fault c

/-- There is always a result. -/
def Sure (x : Operation α) : Prop :=
  ∀ c, ∃ a c', x c = .ok a c'

/-- A refusal leaves the console as it was. -/
def Atomic (x : Operation α) : Prop :=
  ∀ c fault c', x c = .error fault c' → c' = c

theorem Looks.atomic {x : Operation α} (looks : Looks x) : Atomic x := by
  intro c fault c' refused
  rcases looks c with ⟨a, result⟩ | ⟨fault', result⟩
  · rw [result] at refused
    cases refused
  · rw [result] at refused
    cases refused
    rfl

theorem Sure.atomic {x : Operation α} (sure : Sure x) : Atomic x := by
  intro c fault c' refused
  obtain ⟨a, d, result⟩ := sure c
  rw [result] at refused
  cases refused

/-- To look first does not make an operation less atomic. -/
theorem Looks.bind {x : Operation α} {k : α → Operation β} (looks : Looks x)
    (atomic : ∀ a, Atomic (k a)) : Atomic (x >>= k) := by
  intro c fault c' refused
  rcases looks c with ⟨a, result⟩ | ⟨fault', result⟩
  · rw [bind_ok result] at refused
    exact atomic a c fault c' refused
  · rw [bind_error result] at refused
    cases refused
    rfl

/-- What is sure may follow an atomic operation: there is no refusal after its changes. -/
theorem Atomic.bind {x : Operation α} {k : α → Operation β} (atomic : Atomic x)
    (sure : ∀ a, Sure (k a)) : Atomic (x >>= k) := by
  intro c fault c' refused
  cases result : x c with
  | ok a d =>
    rw [bind_ok result] at refused
    obtain ⟨b, e, done⟩ := sure a d
    rw [done] at refused
    cases refused
  | error fault' d =>
    rw [bind_error result] at refused
    cases refused
    exact atomic c _ _ result

theorem Sure.bind {x : Operation α} {k : α → Operation β} (sure : Sure x)
    (rest : ∀ a, Sure (k a)) : Sure (x >>= k) := by
  intro c
  obtain ⟨a, d, result⟩ := sure c
  obtain ⟨b, e, done⟩ := rest a d
  exact ⟨b, e, by rw [bind_ok result, done]⟩

/-! ## Kinds of steps -/

theorem looks_get : Looks get :=
  fun c => .inl ⟨c, rfl⟩

theorem looks_throw (fault : Fault) : Looks (throw fault : Operation α) :=
  fun _ => .inr ⟨fault, rfl⟩

theorem looks_accept (result : Except Fault α) : Looks (accept result) := by
  cases result with
  | ok a => exact fun c => .inl ⟨a, rfl⟩
  | error fault => exact looks_throw fault

theorem looks_require (condition : Bool) (fault : Fault) : Looks (require condition fault) := by
  intro c
  rw [require_apply]
  cases condition with
  | true => exact .inl ⟨(), rfl⟩
  | false => exact .inr ⟨fault, rfl⟩

theorem looks_cartridge : Looks cartridge := by
  intro c
  rw [cartridge_apply]
  cases c.cart with
  | some cart => exact .inl ⟨cart, rfl⟩
  | none => exact .inr ⟨.noRomLoaded, rfl⟩

theorem sure_return (a : α) : Sure (return a) :=
  fun c => ⟨a, c, rfl⟩

theorem sure_modify (f : Console → Console) : Sure (modify f) :=
  fun c => ⟨(), f c, rfl⟩

theorem sure_changeBus (f : Bus → Bus) : Sure (changeBus f) :=
  sure_modify _

theorem sure_changeCart (f : Cartridge → Cartridge) : Sure (changeCart f) :=
  sure_changeBus _

theorem Sure.onlyIf {x : Operation Unit} (sure : Sure x) (condition : Bool) :
    Sure (onlyIf condition x) := by
  cases condition with
  | true => exact sure
  | false => exact sure_return ()

theorem sure_fill (ramSize : Nat) (data : Array UInt8) : Sure (fill ramSize data) :=
  (sure_changeCart _).bind fun _ => (sure_changeCart _).onlyIf _

/-! ## The operations -/

/-- The image is judged as a whole before the old cartridge goes. -/
theorem load_atomic (rom : Rom) : Atomic (load rom) :=
  (looks_accept _).bind fun header =>
  looks_get.bind fun _ =>
  (looks_accept _).bind fun _ =>
  (looks_accept _).bind fun cart => Sure.atomic <|
  (sure_changeBus _).bind fun _ =>
  (sure_changeBus fun b => b.insert cart).bind fun _ =>
  (sure_modify fun c => { c with header := some header }).bind fun _ =>
  sure_modify _

/-- The cartridges are compared before one becomes the other. -/
theorem exchange_atomic (saved : Option Cartridge) : Atomic (exchange saved) := by
  refine looks_get.bind fun c => ?_
  rcases c.cart with _ | live <;> rcases saved with _ | saved
  · exact (sure_return ()).atomic
  · exact (looks_throw _).atomic
  · exact (looks_throw _).atomic
  · exact (looks_require _ _).bind fun _ => (sure_changeCart _).atomic

/-- The exchange of the cartridges is the first change and the last chance to be refused. -/
theorem goBack_atomic (data : List UInt8) : Atomic (goBack data) :=
  (looks_accept _).bind fun saved =>
  looks_get.bind fun _ =>
  (looks_require _ _).bind fun _ =>
  (looks_require _ _).bind fun _ =>
  (exchange_atomic _).bind fun _ =>
  (sure_changeBus _).bind fun _ =>
  (sure_modify fun c => { c with core := { c.core with cpu := saved.cpu } }).bind fun _ =>
  sure_modify _

/-- The size of a save is accepted before the first byte is taken. -/
theorem takeUp_atomic (data : Array UInt8) : Atomic (takeUp data) :=
  looks_cartridge.bind fun _ =>
  (looks_require _ _).bind fun _ =>
  (looks_require _ _).bind fun _ => Sure.atomic <|
  ((sure_changeBus _).onlyIf _).bind fun _ => sure_fill _ _

theorem adjust_atomic (clock : Clock) : Atomic (adjust clock) :=
  looks_cartridge.bind fun _ =>
  (looks_require _ _).bind fun _ => (sure_changeCart _).atomic

end Operation

theorem Request.operation_atomic (request : Request) : Operation.Atomic request.operation := by
  cases request with
  | load rom => exact Operation.load_atomic rom
  | goBack data => exact Operation.goBack_atomic data
  | takeUp data => exact Operation.takeUp_atomic data
  | adjust clock => exact Operation.adjust_atomic clock

/-! ## In place and as a function -/

/-- What the functions on consoles give for a request. -/
def Request.result (c : Console) : Request → Except Fault Console
  | load rom => c.load rom
  | goBack data => c.loadState data
  | takeUp data => c.loadSave data
  | adjust clock => c.setClock clock

/-- A result of a function on consoles, as an operation in place leaves it. -/
def leaving (c : Console) : Except Fault Console → EStateM.Result Fault Console Unit
  | .ok c' => .ok () c'
  | .error fault => .error fault c

namespace Operation

theorem bind_accept {α β : Type} (result : Except Fault α) (k : α → Operation β) (c : Console) :
    (accept result >>= k) c = match result with
      | .ok a => k a c
      | .error fault => .error fault c := by
  cases result <;> rfl

theorem bind_require {β : Type} (condition : Bool) (fault : Fault) (k : Unit → Operation β)
    (c : Console) :
    (require condition fault >>= k) c = if condition then k () c else .error fault c := by
  cases condition <;> rfl

theorem load_apply (c : Console) (rom : Rom) : load rom c = c.leaving (c.load rom) := by
  rw [load, Console.load, Cartridge.ofRom, bind_accept]
  cases Header.read rom with
  | error fault => rfl
  | ok header =>
    simp only [bind_ok (get_apply c), bind_accept (header.selectModel _)]
    change _ = c.leaving (header.selectModel c.settings.model.forced >>= fun model => _)
    cases header.selectModel c.settings.model.forced with
    | error fault => rfl
    | ok model => rfl

theorem exchange_apply (c : Console) (saved : Option Cartridge) :
    exchange saved c = match Snapshot.joinCartridge c.cart saved with
      | .ok cart => .ok () (c.onBus fun b => { b with cart := cart })
      | .error fault => .error fault c := by
  rw [exchange, bind_ok (get_apply c)]
  cases inside : c.cart with
  | none =>
    have same : (c.onBus fun b => { b with cart := none }) = c := by
      rw [← inside]
      rfl
    cases saved with
    | none => simp only [Snapshot.joinCartridge, same]; rfl
    | some saved => rfl
  | some live =>
    cases saved with
    | none => rfl
    | some saved =>
      simp only [bind_require, Snapshot.joinCartridge, changeCart_apply inside]
      cases Snapshot.sameCartridge live saved <;> rfl

theorem goBack_apply (c : Console) (data : List UInt8) :
    goBack data c = c.leaving (c.loadState data) := by
  rw [goBack, loadState, Snapshot.restore, bind_accept]
  cases Snapshot.decode data with
  | error fault => rfl
  | ok saved =>
    simp only [bind_ok (get_apply c), bind_require, bind_apply (exchange _), exchange_apply]
    by_cases model : saved.bus.model = c.model
    · have joined : Snapshot.joinBus c.core.bus saved.bus =
          if !Snapshot.wholeMemories saved.bus then .error (.stateDecode .wrongBlockSize)
          else do
            let cart ← Snapshot.joinCartridge c.cart saved.bus.cart
            return ({ saved.bus with cart := cart }.adoptHost c.core.bus).remap :=
        if_neg (not_not.mpr model)
      rw [if_pos (decide_eq_true model)]
      simp only [bind, Except.bind, joined]
      cases Snapshot.wholeMemories saved.bus with
      | false => rfl
      | true => cases Snapshot.joinCartridge c.cart saved.bus.cart <;> rfl
    · have joined : Snapshot.joinBus c.core.bus saved.bus =
          .error (.stateModelMismatch saved.bus.model c.model) := if_pos model
      rw [if_neg (by simpa using model)]
      simp only [bind, Except.bind, joined]
      rfl

theorem bind_onlyIf {β : Type} (condition : Bool) (x : Operation Unit) (k : Unit → Operation β)
    (c : Console) :
    (onlyIf condition x >>= k) c = if condition then (x >>= k) c else k () c := by
  cases condition <;> rfl

theorem fill_apply {c : Console} {cart : Cartridge} (inside : c.cart = some cart)
    (data : Array UInt8) :
    fill cart.ramSize data c = .ok () (c.withCart { cart with
      ram := data.extract 0 cart.ramSize ++ cart.ram.extract cart.ramSize cart.ram.size
      clock := if data.size = cart.ramSize + Clock.savedSize then Clock.ofBytes data cart.ramSize
        else cart.clock }) := by
  rw [fill, bind_ok (changeCart_apply inside _)]
  by_cases whole : data.size = cart.ramSize + Clock.savedSize
  · rw [onlyIf, if_pos (by simp [whole]), if_pos whole]
    rfl
  · rw [onlyIf, if_neg (by simp [whole]), if_neg whole]
    rfl

theorem takeUp_apply (c : Console) (data : Array UInt8) :
    takeUp data c = c.leaving (c.loadSave data) := by
  rw [takeUp, loadSave, bind_apply, cartridge_apply]
  cases inside : c.cart with
  | none => rfl
  | some cart =>
    simp only [bind_require, bind_onlyIf, bind_ok (changeBus_apply _ c), fill_apply inside,
      Cartridge.loadSave]
    cases cart.hasSave with
    | false => rfl
    | true =>
      cases cart.acceptsSize data.size with
      | false => rfl
      | true =>
        cases cart.lacksClockBlock data with
        | false => rfl
        | true => exact fill_apply (c := c.onBus fun b => b.report .clockBlockMissing) inside data

theorem adjust_apply (c : Console) (clock : Clock) :
    adjust clock c = c.leaving (c.setClock clock) := by
  rw [adjust, setClock, bind_apply, cartridge_apply]
  cases inside : c.cart with
  | none => rfl
  | some cart =>
    simp only [bind_require, changeCart_apply inside]
    cases cart.features.clock <;> rfl

end Operation

/-- In place an operation does what its function on consoles gives, and is refused for its fault. -/
theorem Request.operation_apply (request : Request) (c : Console) :
    request.operation c = c.leaving (request.result c) := by
  cases request with
  | load rom => exact Operation.load_apply c rom
  | goBack data => exact Operation.goBack_apply c data
  | takeUp data => exact Operation.takeUp_apply c data
  | adjust clock => exact Operation.adjust_apply c clock

theorem ask_eq (c : Console) (request : Request) :
    c.ask request = match request.result c with
      | .ok c' => (c', none)
      | .error fault => (c, some fault) := by
  rw [ask, EStateM.run, request.operation_apply]
  cases request.result c <;> rfl

theorem ask_fault {c : Console} {request : Request} {fault : Fault}
    (wrong : request.result c = .error fault) : (c.ask request).2 = some fault := by
  rw [ask_eq, wrong]

/-! ## Refusals -/

/-- A snapshot of a machine of another model is refused, however well it fits. -/
theorem loadState_otherModel {c : Console} {m : Core} (fits : m.bus.Fits)
    (other : m.bus.model ≠ c.model) :
    c.loadState (Snapshot.encode m) = .error (.stateModelMismatch m.bus.model c.model) := by
  have decoded := Snapshot.decode_encode fits []
  rw [List.append_nil] at decoded
  have refused : Snapshot.joinBus c.core.bus m.stored.bus =
      .error (.stateModelMismatch m.bus.model c.model) := if_pos other
  rw [loadState, Snapshot.restore, decoded]
  change ((Snapshot.joinBus c.core.bus m.stored.bus >>= _) >>= _) = _
  rw [refused]
  rfl

/-- A snapshot that is cut short is refused. -/
theorem loadState_prefix {c : Console} {m : Core} (fits : m.bus.Fits) {p : List UInt8}
    (cut : p <+: Snapshot.encode m) (short : p ≠ Snapshot.encode m) :
    ∃ fault, c.loadState p = .error fault := by
  have undecoded {fault : Fault} (h : Snapshot.decode p = .error fault) :
      c.loadState p = .error fault := by
    rw [loadState, Snapshot.restore_of_decode h]
    rfl
  rcases Snapshot.decode_prefix fits cut short with h | h
  · exact ⟨_, undecoded h⟩
  · exact ⟨_, undecoded h⟩

/-- A refused request has gone wrong at the console that it leaves. -/
theorem ask_of_fault {c : Console} {request : Request} {fault : Fault}
    (refused : (c.ask request).2 = some fault) :
    request.operation c = .error fault (c.ask request).1 := by
  unfold ask EStateM.run at *
  cases result : request.operation c with
  | ok _ c' =>
    rw [result] at refused
    cases refused
  | error fault' c' =>
    rw [result] at refused
    cases refused
    rfl

/-- Whatever is asked of a console and refused, for whatever reason, leaves the processor, the bus
with the cartridge and everything the host has attached, the settings, the header and the count of
frames as they were. -/
theorem ask_refused (c : Console) (request : Request) (fault : Fault)
    (refused : (c.ask request).2 = some fault) : (c.ask request).1 = c :=
  request.operation_atomic c fault _ (ask_of_fault refused)

/-- A snapshot of a colour console is whole, but no console of another model goes back to it; and
none goes back to a snapshot without its last byte. -/
theorem ask_refused_otherModel :
    let handheld := Console.new {}
    let data := Snapshot.encode { cpu := Cpu.boot .gbc, bus := Bus.new .gbc }
    (handheld.ask (.goBack data)).2 = some (.stateModelMismatch .gbc .dmg) ∧
      (handheld.ask (.goBack data)).1 = handheld ∧
      (handheld.ask (.goBack data.dropLast)).1 = handheld := by
  intro handheld data
  have fits : (Bus.new .gbc).Fits := Bus.new_fits .gbc
  have other : (handheld.ask (.goBack data)).2 = some (.stateModelMismatch .gbc .dmg) :=
    ask_fault (loadState_otherModel fits (by decide))
  have short : data.dropLast ≠ data := by
    intro same
    have length := congrArg List.length same
    rw [List.length_dropLast] at length
    have header : 0 < data.length := List.length_pos_of_mem (a := 0x54) (List.mem_cons_self ..)
    omega
  obtain ⟨fault, cut⟩ := loadState_prefix (c := handheld) fits (List.dropLast_prefix data) short
  exact ⟨other, ask_refused _ _ _ other, ask_refused _ _ _ (ask_fault cut)⟩

end Console

end DotMatrix
