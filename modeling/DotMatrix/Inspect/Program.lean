import DotMatrix.CommandLine.Program
import DotMatrix.Inspect.Machine

/-!
# Runs of the program, shown

The arguments of a run, and what is left of it.
-/

namespace DotMatrix

namespace CommandLine

/-- The arguments by their names. -/
def Arguments.items (a : Arguments) : List (String × Report) :=
  let path (p : Option String) : Report := .optional (fun (s : String) => s) p
  let number (n : Option Nat) : Report := .optional (fun (k : Nat) => k) n
  [("rom", a.rom), ("dmg", a.model == some .dmg), ("gbc", a.model == some .gbc),
    ("sgb", a.model == some .sgb), ("config", a.config), ("save", path a.save),
    ("load_state", path a.loadState), ("write_state", path a.writeState),
    ("dump_frame", path a.dumpFrame), ("frames", a.frames), ("cycles", number a.cycles),
    ("sample_rate", number a.sampleRate), ("dump_audio", path a.dumpAudio), ("serial", a.serial),
    ("verbose", a.verbose)]

/-- An entry of the diary: its level and its text. -/
def Entry.inspect (e : Entry) : Report :=
  .list [e.level.name, e.text]

/-- The cause of a failure. What is wrong with a snapshot is not told. -/
def Failure.inspect : Failure → Report
  | .machine (.stateDecode defect) => (Fault.stateDecode defect).name
  | f => f.record

/-- The files of a directory by their sizes and digests. -/
def Directory.inspect (d : Directory) : Report :=
  .fields (d.map fun file => (file.1, .fields [("len", file.2.size), ("fnv", .digest file.2)]))

/-- What is left of a run that leaves some files. -/
def Outcome.inspect (o : Outcome) (files : Directory) : Report :=
  .fields [("exit", o.exitCode), ("stdout", .hex o.printed),
    ("log", .list (o.diary.toList.map Entry.inspect)),
    ("error", .optional Failure.inspect o.failure), ("files", files.inspect)]

end CommandLine

end DotMatrix
