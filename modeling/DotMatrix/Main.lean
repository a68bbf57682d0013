import DotMatrix.CommandLine.Program

/-!
# The command line

Runs the program on the files of the system. The diary goes to standard error, what the link port
has sent goes to standard output.
-/

namespace DotMatrix

namespace CommandLine

/-- The fault behind an error of the system. Some systems give its number with the opposite sign. -/
def FileFault.ofError : IO.Error → FileFault
  | .noFileOrDirectory _ _ _ => .notFound
  | .permissionDenied _ _ _ => .permissionDenied
  | .inappropriateType _ code _ =>
    if code == 20 || code == -20 then .notADirectory else .isDirectory
  | .invalidArgument name code details =>
    if code == 36 || code == -36 then .nameTooLong
    else .other 0 (toString (IO.Error.invalidArgument name code details))
  | e => .other 0 (toString e)

/-- Reading and writing the files of the system. -/
def systemFiles : Access BaseIO where
  read path := do
    match ← (IO.FS.readBinFile path).toBaseIO with
    | .ok bytes => return .ok bytes.data
    | .error e => return .error (.ofError e)
  write path bytes := do
    match ← (IO.FS.writeBinFile path ⟨bytes⟩).toBaseIO with
    | .ok () => return .ok ()
    | .error e => return .error (.ofError e)

/-- How the program is called. -/
def usage : String :=
  "Usage: tgb [OPTIONS] <ROM>\n\n" ++
  "      --dmg                        Force DMG mode\n" ++
  "      --gbc                        Force GBC mode\n" ++
  "      --sgb                        Force SGB mode\n" ++
  "      --config <CONFIG>            Settings file (TOML) [default: tgb.toml]\n" ++
  "      --save <SAVE>                Battery save; by default the ROM with extension sav\n" ++
  "      --load-state <LOAD_STATE>    Snapshot to load before running\n" ++
  "      --write-state <WRITE_STATE>  Write a snapshot here after running\n" ++
  "      --dump-frame <DUMP_FRAME>    Write the last frame as raw 32-bit ARGB pixels\n" ++
  "      --frames <FRAMES>            Number of frames to run [default: 60]\n" ++
  "      --cycles <CYCLES>            Number of cycles to run instead of whole frames\n" ++
  "      --sample-rate <SAMPLE_RATE>  Samples of sound a second\n" ++
  "      --dump-audio <DUMP_AUDIO>    Write the sound as raw 16-bit little-endian stereo\n" ++
  "      --serial                     Print the bytes sent over the link port\n" ++
  "      --verbose                    Tell more\n" ++
  "  -h, --help                       Print this text\n" ++
  "  -V, --version                    Print the version"

/-- What is said when arguments are not taken. -/
def Refusal.message : Refusal → String
  | .missingRom => "the ROM is missing"
  | .unknownArgument => "unexpected argument"
  | .conflict => "arguments exclude each other"
  | .missingValue => "a value is required"
  | .badNumber => "invalid number"
  | .valueForSwitch => "unexpected value"
  | .help => usage
  | .version => "tgb 0.1.0"

/-- Tells why the arguments are not taken, or what was asked for instead of a run. -/
def tellRefusal : Refusal → IO Unit
  | .help => IO.println Refusal.help.message
  | .version => IO.println Refusal.version.message
  | r => IO.eprintln ("error: " ++ r.message ++ "\n\n" ++ usage)

/-- Tells how a run has ended. -/
def tell (o : Outcome) : IO Unit := do
  for entry in o.diary do
    IO.eprintln ("[" ++ entry.level.name ++ "] " ++ entry.text)
  let out ← IO.getStdout
  out.write ⟨o.printed⟩
  out.flush
  o.refusal.forM tellRefusal
  o.failure.forM fun f => IO.eprintln ("Error: " ++ f.record)

end CommandLine

end DotMatrix

/-- Runs the program. -/
def main (args : List String) : IO UInt32 := do
  let outcome ← (DotMatrix.CommandLine.run DotMatrix.CommandLine.systemFiles args : BaseIO _)
  DotMatrix.CommandLine.tell outcome
  return outcome.exitCode.toUInt32
