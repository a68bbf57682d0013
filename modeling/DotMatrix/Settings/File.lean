import DotMatrix.Settings
import DotMatrix.Toml.Document

/-!
# Settings files

Settings are read from a TOML document. Every key may be missing and then has its default; keys that
mean nothing here are left alone, as long as their numbers stand for one. A value of the wrong kind
or out of its range spoils the file.
-/

namespace DotMatrix

namespace Settings

open Toml (Value Table)

/-! ## Kinds of values -/

/-- An integer from 0 to `high`. -/
def natUpTo? (high : Nat) : Value → Option Nat
  | .integer n => if 0 ≤ n ∧ n ≤ high then some n.toNat else none
  | _ => none

/-- A truth value. -/
def boolean? : Value → Option Bool
  | .boolean b => some b
  | _ => none

/-- The items of an array. -/
def items? : Value → Option (List Value)
  | .array _ items => some items
  | _ => none

/-- Whether a value is an empty array or an empty table. -/
def isEmpty : Value → Bool
  | .array _ items => items.isEmpty
  | .table _ entries => entries.isEmpty
  | _ => false

/-- The name of a choice: text, or the only key of a table, with an empty value. -/
def choiceName? : Value → Option String
  | .text name => some name
  | .table _ [(name, v)] => if isEmpty v then some name else none
  | _ => none

/-- An integer that has 64 bits, or 63 and a sign. -/
def isNarrow (n : Int) : Bool :=
  -0x8000000000000000 ≤ n && n < 0x10000000000000000

mutual

/-- Whether all numbers in a value stand for one, and `fits` holds for the integers. -/
def isSound (fits : Int → Bool) : Value → Bool
  | .integer n => fits n
  | .badNumber _ => false
  | .array _ items => areSound fits items
  | .table _ entries => entriesAreSound fits entries
  | _ => true

/-- Whether some values are sound. -/
def areSound (fits : Int → Bool) : List Value → Bool
  | [] => true
  | v :: vs => isSound fits v && areSound fits vs

/-- Whether the values of a table are sound. -/
def entriesAreSound (fits : Int → Bool) : List (String × Value) → Bool
  | [] => true
  | (_, v) :: entries => isSound fits v && entriesAreSound fits entries

end

/-- The table, if the values of all keys that are not `known` are sound. -/
def withSoundRest? (known : List String) (t : Table) : Option Table :=
  if entriesAreSound (fun _ => true) (t.filter fun (key, _) => !known.contains key) then some t
  else none

/-! ## The settings one by one -/

/-- The choice of the model by its name. -/
def modelNamed? : String → Option ModelChoice
  | "auto" => some .auto
  | "dmg" => some (.fixed .dmg)
  | "sgb" => some (.fixed .sgb)
  | "gbc" => some (.fixed .gbc)
  | _ => none

/-- What drives the clock, by its name. -/
def clockDriveNamed? : String → Option ClockDrive
  | "frame" => some .frames
  | "none" => some .host
  | _ => none

/-- A colour: its three components. -/
def rgb? (v : Value) : Option Rgb := do
  match ← (← items? v).mapM (natUpTo? 0xFF) with
  | [r, g, b] => return ⟨r.toUInt8, g.toUInt8, b.toUInt8⟩
  | _ => none

/-- Four shades. -/
def shades? (v : Value) : Option Shades := do
  match ← (← items? v).mapM rgb? with
  | [a, b, c, d] => return .ofFour a b c d
  | _ => none

/-- The shades of a table. -/
def customTable? (t : Table) : Option PaletteChoice := do
  let bg ← shades? (← t.find? "bg")
  let obj0 ← shades? (← t.find? "obj0")
  let obj1 ← shades? (← t.find? "obj1")
  return .custom { bg, obj0, obj1 }

/-- The choice of the shades from a table: its kind decides what else belongs to it. -/
def paletteTable? (t : Table) : Option PaletteChoice := do
  match ← t.find? "kind" with
  | .text "default" => return .standard
  | .text "custom" => customTable? t
  | _ => none

/-- The choice of the shades from an array: its kind, then the shades. -/
def paletteArray? : List Value → Option PaletteChoice
  | [.text "default"] => some .standard
  | [.text "custom", bg, obj0, obj1] => do
    return .custom { bg := ← shades? bg, obj0 := ← shades? obj0, obj1 := ← shades? obj1 }
  | _ => none

/-- The choice of the shades. Its kind may stand behind the shades, so the whole value is held back
until the kind is known, and all numbers in it have to fit, also those that mean nothing here. -/
def palette? (v : Value) : Option PaletteChoice :=
  if isSound isNarrow v then
    match v with
    | .table _ t => paletteTable? t
    | .array _ items => paletteArray? items
    | _ => none
  else none

/-- The switch of a layer; a layer without one is on. -/
def switch? : Option Value → Option Bool
  | none => some true
  | some v => boolean? v

/-- The layers by name. -/
def layersTable? (t : Table) : Option Layers := do
  let t ← withSoundRest? ["bg", "win", "obj"] t
  let bg ← switch? (t.find? "bg")
  let win ← switch? (t.find? "win")
  let obj ← switch? (t.find? "obj")
  return { bg, win, obj }

/-- The layers in order. Nobody looks at the items behind the third. -/
def layersArray? (items : List Value) : Option Layers := do
  let bg ← switch? items[0]?
  let win ← switch? items[1]?
  let obj ← switch? items[2]?
  return { bg, win, obj }

/-- The layers. A moment counts as a table without any of them. -/
def layers? : Value → Option Layers
  | .table _ t => layersTable? t
  | .array _ items => layersArray? items
  | .moment _ => some {}
  | _ => none

/-! ## The file -/

/-- A setting that may be missing. -/
def orDefault {α : Type} (default : α) (read : Value → Option α) : Option Value → Option α
  | none => some default
  | some v => read v

/-- The settings of a table. -/
def ofTable? (t : Table) : Option Settings := do
  let standard : Settings := {}
  let t ← withSoundRest? ["system_type", "rtc_update", "palette", "layers", "sample_rate"] t
  return {
    model := ← orDefault standard.model (fun v => do modelNamed? (← choiceName? v))
      (t.find? "system_type")
    clockDrive := ← orDefault standard.clockDrive (fun v => do clockDriveNamed? (← choiceName? v))
      (t.find? "rtc_update")
    palette := ← orDefault standard.palette palette? (t.find? "palette")
    layers := ← orDefault standard.layers layers? (t.find? "layers")
    sampleRate := ← orDefault standard.sampleRate (natUpTo? 0xFFFFFFFF) (t.find? "sample_rate") }

/-- The settings of a file, if it is well formed. -/
def parse (text : String) : Option Settings := do
  ofTable? (← Toml.parse text)

end Settings

end DotMatrix
