import DotMatrix.CommandLine.Arguments
import DotMatrix.CommandLine.Directory
import DotMatrix.Console.Host
import DotMatrix.Settings.File

/-!
# The program

A run reads the settings and the ROM, takes up the battery save and perhaps a snapshot, runs the
console, and writes what was asked for. It keeps a diary, which also holds the notices of the
machine; a run that fails ends with the cause, and keeps its diary and what it has written so far.
-/

namespace DotMatrix

namespace CommandLine

/-- An entry of the diary. -/
inductive Entry
  | notice (n : Notice)
  | settingsSpoiled (path : String)
  | started (model : Model)
  | noSave (path : String) (cause : FileFault)
  | stateLoaded (path : String)
  | ran (cycles : Nat) (pc : UInt16)
  | frameWritten (path : String)
  | audioWritten (samples rate : Nat) (path : String)
  | stateWritten (path : String)
  | saveWritten (path : String)
  deriving Repr

namespace Entry

/-- How much the entry matters. -/
def level : Entry → Level
  | notice n => n.level
  | settingsSpoiled _ => .warning
  | _ => .info

/-- The entry in words. -/
def text : Entry → String
  | notice n => n.text
  | settingsSpoiled _ => "Failed to parse config"
  | started model => "Emulator initialized in " ++ model.name ++ " mode"
  | noSave path cause => "no battery save at " ++ path ++ ": " ++ cause.text
  | stateLoaded path => "loaded state " ++ path
  | ran cycles pc => "ran " ++ toString cycles ++ " cycles, pc = " ++ upperHex 4 pc.toNat
  | frameWritten path =>
    "wrote " ++ toString screenWidth ++ "x" ++ toString screenHeight ++ " frame to " ++ path
  | audioWritten samples rate path =>
    "wrote " ++ toString samples ++ " samples at " ++ toString rate ++ " Hz to " ++ path
  | stateWritten path => "wrote state " ++ path
  | saveWritten path => "wrote battery save " ++ path

/-- Whether the entry is shown: debugging entries only to those who ask for them. -/
def isShown (verbose : Bool) (e : Entry) : Bool :=
  verbose || e.level ≠ .debug

end Entry

/-- Why a run fails. -/
inductive Failure
  | machine (f : Fault)
  | file (f : FileFault)
  deriving DecidableEq, Repr

/-- The cause with all its details. -/
def Failure.record : Failure → String
  | .machine f => f.record
  | .file f => f.record

/-- What a run leaves behind while it goes on: its diary, and the bytes it has printed. -/
structure Traces where
  diary : Array Entry := #[]
  printed : Array UInt8 := #[]

/-- A run in progress, over some kind of storage. -/
abbrev Run (m : Type → Type) := ExceptT Failure (StateT Traces m)

namespace Run

variable {m : Type → Type} [Monad m]

/-- Adds an entry to the diary. -/
def note (e : Entry) : Run m Unit :=
  modify fun t => { t with diary := t.diary.push e }

/-- Moves the notices of the machine to the diary. -/
def hear (c : Console) : Run m Console := do
  let (notices, bus) := c.core.bus.takeNotices
  modify fun t => { t with diary := t.diary ++ notices.map .notice }
  return c.onBus fun _ => bus

/-- Goes on with the result of an operation on the machine. -/
def machine {α : Type} : Except Fault α → Run m α
  | .ok a => return a
  | .error f => throw (.machine f)

/-- Reads a file. -/
def tryRead (files : Access m) (path : String) : Run m (Except FileFault (Array UInt8)) :=
  liftM (files.read path : m _)

/-- Reads a file that has to be there. -/
def read (files : Access m) (path : String) : Run m (Array UInt8) := do
  match ← tryRead files path with
  | .ok bytes => return bytes
  | .error f => throw (.file f)

/-- Writes a file. -/
def write (files : Access m) (path : String) (bytes : Array UInt8) : Run m Unit := do
  match ← liftM (files.write path bytes : m _) with
  | .ok () => return ()
  | .error f => throw (.file f)

/-- The settings of a file; the standard ones if it is missing or spoiled. -/
def settingsFrom (files : Access m) (path : String) : Run m Settings := do
  match ← tryRead files path with
  | .error _ => return {}
  | .ok bytes =>
    match String.fromUTF8? ⟨bytes⟩ with
    | none => return {}
    | some text =>
      match Settings.parse text with
      | some settings => return settings
      | none =>
        note (.settingsSpoiled path)
        return {}

/-- The console with its cartridge in. -/
def powerUp (files : Access m) (a : Arguments) : Run m Console := do
  let settings ← settingsFrom files a.config
  let rom ← read files a.rom
  let c ← machine ((Console.new (a.apply settings)).load ⟨rom⟩)
  let c ← hear c
  note (.started c.model)
  return c

/-- The file of the battery save: the one that is asked for, or the one beside the ROM. -/
def savePath (a : Arguments) : String :=
  a.save.getD (withExtension a.rom "sav")

/-- Takes up the battery save, if there is one. -/
def takeSave (files : Access m) (a : Arguments) (c : Console) : Run m Console := do
  if !c.hasSave then return c
  match ← tryRead files (savePath a) with
  | .ok bytes => hear (← machine (c.loadSave bytes))
  | .error f =>
    note (.noSave (savePath a) f)
    return c

/-- Takes up the snapshot that is asked for. -/
def takeState (files : Access m) (a : Arguments) (c : Console) : Run m Console := do
  match a.loadState with
  | none => return c
  | some path =>
    let bytes ← read files path
    let c ← hear (← machine (c.loadState bytes.toList))
    note (.stateLoaded path)
    return c

/-- Attaches what the run has to observe. -/
def attach (a : Arguments) (c : Console) : Console :=
  let c := if a.serial then c.setCable (some .idle) else c
  let c := if a.dumpFrame.isSome then c.setScreen (.blank screenWidth 4) else c
  if a.dumpAudio.isSome then c.setRecorder (some #[]) c.settings.sampleRate else c

/-- Runs the console for the cycles or the frames that are asked for. -/
def play (a : Arguments) (c : Console) : Run m Console := do
  let (c, elapsed) := match a.cycles with
    | some cycles => c.run cycles
    | none => Console.runFrames a.frames 0 c
  let c ← hear c
  modify fun t => { t with printed := c.sent }
  note (.ran elapsed c.core.cpu.pc)
  return c

/-- Writes the last picture. -/
def writeFrame (files : Access m) (a : Arguments) (c : Console) : Run m Unit := do
  match a.dumpFrame, c.screen with
  | some path, some picture =>
    write files path picture.bytes
    note (.frameWritten path)
  | _, _ => return ()

/-- Writes the sound. -/
def writeAudio (files : Access m) (a : Arguments) (c : Console) : Run m Unit := do
  match a.dumpAudio with
  | none => return ()
  | some path =>
    let samples := c.recorded
    write files path (samples.flatMap fun s => s.bytes.toArray)
    note (.audioWritten samples.size c.settings.sampleRate path)

/-- Writes a snapshot. -/
def writeState (files : Access m) (a : Arguments) (c : Console) : Run m Unit := do
  match a.writeState with
  | none => return ()
  | some path =>
    write files path c.saveState.toArray
    note (.stateWritten path)

/-- Writes the battery save. -/
def writeSave (files : Access m) (a : Arguments) (c : Console) : Run m Unit := do
  if c.hasSave then
    write files (savePath a) (← machine c.saveData)
    note (.saveWritten (savePath a))

/-- The whole run. -/
def whole (files : Access m) (a : Arguments) : Run m Unit := do
  let c ← powerUp files a
  let c ← takeSave files a c
  let c ← takeState files a c
  let c ← play a (attach a c)
  writeFrame files a c
  writeAudio files a c
  writeState files a c
  writeSave files a c

end Run

/-- What is left of a run: how it ended, its diary, and what it printed. -/
structure Outcome where
  refusal : Option Refusal := none
  failure : Option Failure := none
  diary : Array Entry := #[]
  printed : Array UInt8 := #[]

/-- The exit code of a run: 2 for arguments that are refused, 1 for a failure. -/
def Outcome.exitCode (o : Outcome) : Nat :=
  match o.refusal with
  | some .help => 0
  | some .version => 0
  | some _ => 2
  | none => if o.failure.isSome then 1 else 0

/-- The entries of the diary that are shown. -/
def shownEntries (verbose : Bool) (diary : Array Entry) : Array Entry :=
  diary.filter (Entry.isShown verbose)

/-- Runs the program with the given arguments. -/
def run {m : Type → Type} [Monad m] (files : Access m) (args : List String) : m Outcome := do
  match Arguments.parse args with
  | .error refusal => return { refusal := some refusal }
  | .ok a =>
    let (result, traces) ← (Run.whole files a).run.run {}
    return {
      failure := match result with
        | .ok () => none
        | .error f => some f
      diary := shownEntries a.verbose traces.diary
      printed := traces.printed }

end CommandLine

end DotMatrix
