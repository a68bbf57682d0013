import DotMatrix.Settings

/-!
# Arguments

The program runs one ROM, named by the only argument without dashes. Everything else is a switch,
`--name`, or an option, `--name value` or `--name=value`; behind `--` dashes mean nothing. An option
that still waits for its value, or whose value has not been looked at yet, is `pending`: it is
settled when the next argument turns out to be a known one, so that of two mistakes the earlier one
is reported, unless the later one is an argument that nobody knows.
-/

namespace DotMatrix

namespace CommandLine

/-- The arguments of a run. `model` is the model that a switch forces. -/
structure Arguments where
  rom : String
  model : Option Model := none
  config : String := "tgb.toml"
  save : Option String := none
  loadState : Option String := none
  writeState : Option String := none
  dumpFrame : Option String := none
  frames : Nat := 60
  cycles : Option Nat := none
  sampleRate : Option Nat := none
  dumpAudio : Option String := none
  serial : Bool := false
  verbose : Bool := false
  deriving DecidableEq, Repr, Inhabited

/-- Why arguments are not taken, or asked for something else than a run. -/
inductive Refusal
  /-- No ROM is named. -/
  | missingRom
  /-- An argument that nobody knows, or a second ROM. -/
  | unknownArgument
  /-- An argument twice, or two that exclude each other. -/
  | conflict
  /-- An option without a value, or an empty path. -/
  | missingValue
  /-- A value that is no number of 32 bits. -/
  | badNumber
  /-- A switch with a value. -/
  | valueForSwitch
  | help
  | version
  deriving DecidableEq, Repr

/-! ## Names -/

/-- A switch. -/
inductive Switch
  | force (model : Model)
  | serial
  | verbose
  deriving DecidableEq, Repr

/-- An option. -/
inductive Setting
  | config
  | save
  | loadState
  | writeState
  | dumpFrame
  | frames
  | cycles
  | sampleRate
  | dumpAudio
  deriving DecidableEq, Repr

/-- What a name stands for. -/
inductive Meaning
  | switch (s : Switch)
  | setting (s : Setting)
  | help
  | version
  deriving DecidableEq, Repr

/-- The names that follow two dashes. -/
def meaning? : String → Option Meaning
  | "dmg" => some (.switch (.force .dmg))
  | "gbc" => some (.switch (.force .gbc))
  | "sgb" => some (.switch (.force .sgb))
  | "serial" => some (.switch .serial)
  | "verbose" => some (.switch .verbose)
  | "config" => some (.setting .config)
  | "save" => some (.setting .save)
  | "load-state" => some (.setting .loadState)
  | "write-state" => some (.setting .writeState)
  | "dump-frame" => some (.setting .dumpFrame)
  | "frames" => some (.setting .frames)
  | "cycles" => some (.setting .cycles)
  | "sample-rate" => some (.setting .sampleRate)
  | "dump-audio" => some (.setting .dumpAudio)
  | "help" => some .help
  | "version" => some .version
  | _ => none

/-- Whether an option takes a number; the others take a path. -/
def Setting.isNumber : Setting → Bool
  | .frames => true
  | .cycles => true
  | .sampleRate => true
  | _ => false

/-! ## Values -/

/-- The number that decimal digits spell. -/
def digitsValue? (digits : List Char) : Option Nat :=
  if digits.isEmpty then none
  else digits.foldlM (fun sum c => if c.isDigit then some (sum * 10 + (c.toNat - 48)) else none) 0

/-- The number of a value, which may have a sign. -/
def signedValue? : List Char → Option Int
  | '+' :: digits => (digitsValue? digits).map fun n => n
  | '-' :: digits => (digitsValue? digits).map fun n => -n
  | digits => (digitsValue? digits).map fun n => n

/-- The number of a value, if it has 32 bits. -/
def numberValue? (value : String) : Option Nat := do
  let n ← signedValue? value.toList
  if 0 ≤ n ∧ n < 0x100000000 then some n.toNat else none

/-- Refuses a value that its option cannot take. -/
def checkValue (s : Setting) (value : String) : Except Refusal Unit :=
  if s.isNumber then
    if (numberValue? value).isSome then .ok () else .error .badNumber
  else if value.isEmpty then .error .missingValue
  else .ok ()

/-! ## Reading -/

/-- What has been read but not settled. -/
inductive Pending
  | nothing
  | setting (s : Setting) (value : Option String)
  | rom (path : String)
  deriving DecidableEq, Repr

/-- What has been read so far. -/
structure Draft where
  rom : Option String := none
  switches : List Switch := []
  settings : List (Setting × String) := []
  pending : Pending := .nothing

namespace Draft

/-- The value of an option. -/
def value? (d : Draft) (s : Setting) : Option String :=
  d.settings.lookup s

/-- Gives an option its value, which it may not have yet. -/
def give (d : Draft) (s : Setting) (value : String) : Except Refusal Draft := do
  if (d.value? s).isSome then .error .conflict
  checkValue s value
  return { d with settings := (s, value) :: d.settings }

/-- Settles what is pending. -/
def settle (d : Draft) : Except Refusal Draft :=
  let settled := { d with pending := .nothing }
  match d.pending with
  | .nothing => .ok d
  | .setting _ none => .error .missingValue
  | .setting s (some value) => settled.give s value
  | .rom path =>
    if path.isEmpty then .error .missingValue else .ok { settled with rom := some path }

/-- Sets a switch, which may not be set yet. -/
def turnOn (d : Draft) (s : Switch) : Except Refusal Draft := do
  let d ← d.settle
  if s ∈ d.switches then .error .conflict
  return { d with switches := s :: d.switches }

/-- An argument that starts with two dashes, by its name and the value joined to it. -/
def long (d : Draft) (name : String) (value : Option String) : Except Refusal Draft :=
  match meaning? name, value with
  | none, _ => .error .unknownArgument
  | some (.setting s), none => do return { ← d.settle with pending := .setting s none }
  | some (.setting s), some value => do (← d.settle).give s value
  | some _, some _ => .error .valueForSwitch
  | some (.switch s), none => d.turnOn s
  | some .help, none => do let _ ← d.settle; .error .help
  | some .version, none => do let _ ← d.settle; .error .version

/-- An argument that starts with one dash, by its letters. -/
def short (d : Draft) : List Char → Except Refusal Draft
  | 'h' :: _ => do let _ ← d.settle; .error .help
  | 'V' :: _ => do let _ ← d.settle; .error .version
  | _ => .error .unknownArgument

/-- Whether a ROM has been named. -/
def hasRom (d : Draft) : Bool :=
  match d.pending with
  | .rom _ => true
  | _ => d.rom.isSome

/-- An argument without dashes that is no option's value. -/
def plain (d : Draft) (arg : String) : Except Refusal Draft := do
  if d.hasRom then .error .unknownArgument
  return { ← d.settle with pending := .rom arg }

/-- An argument without dashes: the value of the option that waits for one, or the ROM. -/
def valueOrRom (d : Draft) (arg : String) : Except Refusal Draft :=
  match d.pending with
  | .setting s none => .ok { d with pending := .setting s (some arg) }
  | _ => d.plain arg

/-- The name and the joined value of an argument behind its dashes. -/
def splitLong (s : List Char) : String × Option String :=
  let name := s.takeWhile (· ≠ '=')
  match s.drop name.length with
  | _ :: value => (String.ofList name, some (String.ofList value))
  | [] => (String.ofList name, none)

/-- One argument in front of a `--`. -/
def take (d : Draft) (arg : String) : Except Refusal Draft :=
  match arg.toList with
  | '-' :: '-' :: s =>
    let (name, value) := splitLong s
    d.long name value
  | ['-'] => d.valueOrRom arg
  | '-' :: s => d.short s
  | _ => d.valueOrRom arg

/-- All arguments. -/
def takeAll (d : Draft) : List String → Except Refusal Draft
  | [] => d.settle
  | "--" :: rest => do (← rest.foldlM plain d).settle
  | arg :: rest => do (← d.take arg).takeAll rest

/-- The number of an option. -/
def number? (d : Draft) (s : Setting) : Option Nat :=
  (d.value? s).bind numberValue?

/-- The models that switches force. -/
def models (d : Draft) : List Model :=
  d.switches.filterMap fun
    | .force model => some model
    | _ => none

/-- The arguments of a run, if only one model is forced and a ROM is named. -/
def finish (d : Draft) : Except Refusal Arguments :=
  if 1 < d.models.length then .error .conflict
  else match d.rom with
    | none => .error .missingRom
    | some rom => .ok {
        rom := rom
        model := d.models.head?
        config := (d.value? .config).getD "tgb.toml"
        save := d.value? .save
        loadState := d.value? .loadState
        writeState := d.value? .writeState
        dumpFrame := d.value? .dumpFrame
        frames := (d.number? .frames).getD 60
        cycles := d.number? .cycles
        sampleRate := d.number? .sampleRate
        dumpAudio := d.value? .dumpAudio
        serial := .serial ∈ d.switches
        verbose := .verbose ∈ d.switches }

end Draft

/-- The arguments of a run, without the program's name, or why there is none. -/
def Arguments.parse (args : List String) : Except Refusal Arguments := do
  (← Draft.takeAll {} args).finish

/-- The settings of a run: what the arguments say goes over what the file says. -/
def Arguments.apply (a : Arguments) (s : Settings) : Settings :=
  { s with
    model := a.model.elim s.model ModelChoice.fixed
    sampleRate := a.sampleRate.getD s.sampleRate }

end CommandLine

end DotMatrix
