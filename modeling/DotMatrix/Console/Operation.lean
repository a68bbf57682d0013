import DotMatrix.Console.Host

/-!
# Operations in place

A host keeps one console and lets operations change it where it stands. An operation goes step by
step: it looks at the console, changes a part of it, or is refused. What has been changed before a
refusal stays changed, so the order of the steps matters. Four operations can be refused: to load a
cartridge, to go back to a snapshot, to take up a battery save, and to set the clock.
-/

namespace DotMatrix

namespace Console

/-- An operation on a console in place. -/
abbrev Operation := EStateM Fault Console

namespace Operation

/-- Goes on with a result, or is refused for its fault. -/
def accept {α : Type} : Except Fault α → Operation α
  | .ok a => return a
  | .error fault => throw fault

/-- Is refused unless the condition holds. -/
def require (condition : Bool) (fault : Fault) : Operation Unit :=
  if condition then return () else throw fault

/-- Does something only if the condition holds. -/
def onlyIf (condition : Bool) (x : Operation Unit) : Operation Unit :=
  if condition then x else return ()

/-- The cartridge that is in. -/
def cartridge : Operation Cartridge := do
  match (← get).cart with
  | some cart => return cart
  | none => throw .noRomLoaded

/-- Changes the bus. -/
def changeBus (f : Bus → Bus) : Operation Unit :=
  modify fun c => c.onBus f

/-- Changes the cartridge that is in. -/
def changeCart (f : Cartridge → Cartridge) : Operation Unit :=
  changeBus fun b => { b with cart := b.cart.map f }

/-! ## Cartridges -/

/-- Starts the cartridge of an image. -/
def load (rom : Rom) : Operation Unit := do
  let header ← accept (Header.read rom)
  let model ← accept (header.selectModel (← get).settings.model.forced)
  let cart ← accept (Cartridge.ofRom rom)
  changeBus fun b => b.reportAll (header.notices ++ [.running header.title model])
  changeBus fun b => b.insert cart
  modify fun c => { c with header := some header }
  modify fun c => c.resetTo model

/-! ## Snapshots -/

/-- The cartridge that is in becomes the saved one, and keeps its ROM. -/
def exchange (saved : Option Cartridge) : Operation Unit := do
  match (← get).cart, saved with
  | some live, some saved =>
    require (Snapshot.sameCartridge live saved) .stateCartMismatch
    changeCart fun live => { saved with rom := live.rom }
  | none, none => return ()
  | _, _ => throw .stateCartMismatch

/-- Goes back to a snapshot: once the cartridge has been exchanged, the bus follows with the host's
side of the present one, and then the processor. -/
def goBack (data : List UInt8) : Operation Unit := do
  let saved ← accept (Snapshot.decode data)
  let live ← get
  require (saved.bus.model = live.model) (.stateModelMismatch saved.bus.model live.model)
  require (Snapshot.wholeMemories saved.bus) (.stateDecode .wrongBlockSize)
  exchange saved.bus.cart
  changeBus fun b => (({ saved.bus with cart := b.cart }.adoptHost b).remap).report
    (.stateRestored saved.cpu.pc)
  modify fun c => { c with core := { c.core with cpu := saved.cpu } }
  modify applySettings

/-! ## Battery and clock -/

/-- The contents of a battery save go into the cartridge: the RAM first, then the clock if the save
has one. -/
def fill (ramSize : Nat) (data : Array UInt8) : Operation Unit := do
  changeCart fun cart => { cart with
    ram := data.extract 0 ramSize ++ cart.ram.extract ramSize cart.ram.size }
  onlyIf (data.size = ramSize + Clock.savedSize)
    (changeCart fun cart => { cart with clock := Clock.ofBytes data ramSize })

/-- Takes up a battery save; a save without the clock block is noticed. -/
def takeUp (data : Array UInt8) : Operation Unit := do
  let cart ← cartridge
  require cart.hasSave .noSaveData
  require (cart.acceptsSize data.size) (.saveSizeMismatch cart.saveSize data.size)
  onlyIf (cart.lacksClockBlock data) (changeBus fun b => b.report .clockBlockMissing)
  fill cart.ramSize data

/-- Sets the clock, with every register brought into its range. -/
def adjust (clock : Clock) : Operation Unit := do
  let cart ← cartridge
  require cart.features.clock .noClock
  changeCart fun cart => cart.setClock clock

end Operation

/-- What may be asked of a console and may be refused. -/
inductive Request
  | load (rom : Rom)
  | goBack (data : List UInt8)
  | takeUp (data : Array UInt8)
  | adjust (clock : Clock)

/-- The operation that is asked for. -/
def Request.operation : Request → Operation Unit
  | load rom => Operation.load rom
  | goBack data => Operation.goBack data
  | takeUp data => Operation.takeUp data
  | adjust clock => Operation.adjust clock

/-- The console after a request, whatever has become of it, and the fault if it was refused. -/
def ask (c : Console) (request : Request) : Console × Option Fault :=
  match request.operation.run c with
  | .ok () c => (c, none)
  | .error fault c => (c, some fault)

end Console

end DotMatrix
