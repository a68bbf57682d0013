import DotMatrix.Cartridge.Header
import DotMatrix.Hex

/-!
# Notices

What the machine has to tell while it runs: a cartridge that went in, a program that does something
odd, a state that was restored. Notices never influence the machine.
-/

namespace DotMatrix

/-- How much a notice matters. -/
inductive Level
  | warning
  | info
  | debug
  deriving DecidableEq, Repr

/-- The name of a level. -/
def Level.name : Level → String
  | .warning => "WARN"
  | .info => "INFO"
  | .debug => "DEBUG"

/-- Something the machine has to tell. -/
inductive Notice
  | romLoaded (header : Header)
  | checksumMismatch (title : String)
  | running (title : String) (model : Model)
  | clockBlockMissing
  | lcdDisabled (mode : UInt8)
  | transferCancelled (status : UInt8)
  | speedSwitched (doubleSpeed : Bool)
  | stopIgnored (pc : UInt16)
  | unknownOpcode (opcode : UInt8) (pc : UInt16)
  | stateRestored (pc : UInt16)
  deriving Repr

namespace Notice

/-- How much the notice matters. -/
def level : Notice → Level
  | romLoaded _ => .info
  | checksumMismatch _ => .warning
  | running _ _ => .info
  | clockBlockMissing => .warning
  | _ => .debug

/-- The notice in words. -/
def text : Notice → String
  | romLoaded h =>
    "Loaded ROM: " ++ h.title ++ " (type 0x" ++ upperHex 2 h.cartType.toNat ++ " " ++
      h.controller.tag ++ ", rom 0x" ++ upperHex 1 h.romSize ++ ", ram 0x" ++
      upperHex 1 h.ramSize ++ ")"
  | checksumMismatch title => "header checksum mismatch for " ++ title
  | running title model => "running " ++ title ++ " as " ++ model.name
  | clockBlockMissing => "save data has no rtc block, keeping current clock"
  | lcdDisabled mode => s!"lcd disabled outside vblank (mode {mode.toNat})"
  | transferCancelled status => "hdma cancelled, hdma5 = " ++ upperHex 2 status.toNat
  | speedSwitched doubleSpeed => s!"speed switch, double speed = {doubleSpeed}"
  | stopIgnored pc => "STOP at " ++ upperHex 4 pc.toNat ++ " ignored"
  | unknownOpcode opcode pc =>
    "unknown opcode " ++ upperHex 2 opcode.toNat ++ " at " ++ upperHex 4 pc.toNat
  | stateRestored pc => "savestate restored, pc = " ++ upperHex 4 pc.toNat

end Notice

/-- What is told when a cartridge goes in. -/
def Header.notices (h : Header) : List Notice :=
  .romLoaded h :: (if h.checksumOk then [] else [.checksumMismatch h.title])

end DotMatrix
