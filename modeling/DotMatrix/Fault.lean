import DotMatrix.Hex
import DotMatrix.Model

/-!
# Faults

Why an operation on the machine is refused. `Fault.name` is the name of the cause,
`Fault.message` the sentence for people, and `Fault.record` the name with its details.
-/

namespace DotMatrix

/-- What is wrong with the body of a snapshot. -/
inductive StateDefect
  /-- The bytes do not spell a machine state. -/
  | malformed
  /-- A memory block does not have the size of the memory it is for. -/
  | wrongBlockSize
  deriving DecidableEq, Repr

/-- A reason to refuse an operation. -/
inductive Fault
  | romTooSmall (size : Nat)
  | romSizeMismatch (declared actual : Nat)
  | unsupportedCartType (code : UInt8)
  | invalidRamSize (code : UInt8)
  | ramTooLarge (size : Nat)
  | modelMismatch (requested rom : Model)
  | noRomLoaded
  | noSaveData
  | saveSizeMismatch (expected actual : Nat)
  | noClock
  | badStateHeader
  | stateVersion (found expected : Nat)
  | stateModelMismatch (state current : Model)
  | stateCartMismatch
  | stateDecode (defect : StateDefect)
  deriving DecidableEq, Repr

namespace StateDefect

/-- The defect in words. -/
def message : StateDefect → String
  | malformed => "malformed body"
  | wrongBlockSize => "memory block has the wrong size"

end StateDefect

namespace Fault

/-- The name of the cause. -/
def name : Fault → String
  | romTooSmall _ => "RomTooSmall"
  | romSizeMismatch _ _ => "RomSizeMismatch"
  | unsupportedCartType _ => "UnsupportedCartType"
  | invalidRamSize _ => "InvalidRamSize"
  | ramTooLarge _ => "RamTooLarge"
  | modelMismatch _ _ => "SystemTypeMismatch"
  | noRomLoaded => "NoRomLoaded"
  | noSaveData => "NoSaveData"
  | saveSizeMismatch _ _ => "SaveSizeMismatch"
  | noClock => "NoRtc"
  | badStateHeader => "BadStateHeader"
  | stateVersion _ _ => "StateVersion"
  | stateModelMismatch _ _ => "StateSystemMismatch"
  | stateCartMismatch => "StateCartMismatch"
  | stateDecode _ => "StateDecode"

/-- The cause as a sentence. -/
def message : Fault → String
  | romTooSmall size => s!"rom is {size} bytes, smaller than the cartridge header"
  | romSizeMismatch declared actual =>
    s!"header declares a {declared} byte rom but {actual} bytes were supplied"
  | unsupportedCartType code => "unsupported cartridge type 0x" ++ upperHex 2 code.toNat
  | invalidRamSize code => "invalid ram size byte 0x" ++ upperHex 2 code.toNat
  | ramTooLarge size => s!"cartridge ram of {size} bytes exceeds the supported maximum"
  | modelMismatch requested rom =>
    s!"rom requires {rom.name} hardware but {requested.name} was requested"
  | noRomLoaded => "no rom loaded"
  | noSaveData => "cartridge has no battery backed ram"
  | saveSizeMismatch expected actual => s!"save data is {actual} bytes, expected {expected}"
  | noClock => "cartridge has no real time clock"
  | badStateHeader => "savestate header is invalid"
  | stateVersion found expected =>
    s!"savestate version {found} is not supported (expected {expected})"
  | stateModelMismatch state current =>
    s!"savestate was made on {state.name} hardware but {current.name} is running"
  | stateCartMismatch => "savestate does not match the loaded cartridge"
  | stateDecode defect => "failed to decode savestate: " ++ defect.message

/-- The name of the cause with its details, as a failing run reports it. -/
def record : Fault → String
  | romTooSmall size => "RomTooSmall \x7b size: " ++ toString size ++ " \x7d"
  | romSizeMismatch declared actual =>
    "RomSizeMismatch \x7b header: " ++ toString declared ++ ", actual: " ++ toString actual ++
      " \x7d"
  | unsupportedCartType code => s!"UnsupportedCartType({code.toNat})"
  | invalidRamSize code => s!"InvalidRamSize({code.toNat})"
  | ramTooLarge size => "RamTooLarge \x7b size: " ++ toString size ++ " \x7d"
  | modelMismatch requested rom =>
    "SystemTypeMismatch \x7b requested: " ++ requested.tag ++ ", rom: " ++ rom.tag ++ " \x7d"
  | saveSizeMismatch expected actual =>
    "SaveSizeMismatch \x7b expected: " ++ toString expected ++ ", actual: " ++ toString actual ++
      " \x7d"
  | stateVersion found expected =>
    "StateVersion \x7b found: " ++ toString found ++ ", expected: " ++ toString expected ++ " \x7d"
  | stateModelMismatch state current =>
    "StateSystemMismatch \x7b state: " ++ state.tag ++ ", current: " ++ current.tag ++ " \x7d"
  | stateDecode .wrongBlockSize => "StateDecode(\"memory block has the wrong size\")"
  | f => f.name

end Fault

end DotMatrix
