/-!
# Files

How a program reads and writes files, and why that can fail. `Directory` is a directory of plain
files that is kept in memory, with the little that is known of what stands around it; `Access` is
the same for any kind of storage.
-/

namespace DotMatrix

namespace CommandLine

/-- Why a file cannot be read or written. -/
inductive FileFault
  | notFound
  | permissionDenied
  | isDirectory
  | notADirectory
  | nameTooLong
  /-- Any other reason, with the number and the words of the system. -/
  | other (code : Nat) (message : String)
  deriving DecidableEq, Repr

namespace FileFault

/-- The number that systems give the fault. -/
def code : FileFault → Nat
  | notFound => 2
  | permissionDenied => 13
  | notADirectory => 20
  | isDirectory => 21
  | nameTooLong => 36
  | other code _ => code

/-- The fault in words. -/
def message : FileFault → String
  | notFound => "No such file or directory"
  | permissionDenied => "Permission denied"
  | notADirectory => "Not a directory"
  | isDirectory => "Is a directory"
  | nameTooLong => "File name too long"
  | other _ message => message

/-- The name of the fault. -/
def name : FileFault → String
  | notFound => "NotFound"
  | permissionDenied => "PermissionDenied"
  | notADirectory => "NotADirectory"
  | isDirectory => "IsADirectory"
  | nameTooLong => "InvalidFilename"
  | other _ _ => "Uncategorized"

/-- The fault with its number, for a notice. -/
def text (f : FileFault) : String :=
  f.message ++ " (os error " ++ toString f.code ++ ")"

/-- The fault with all its details, as a failing run reports it. -/
def record (f : FileFault) : String :=
  "Os \x7b code: " ++ toString f.code ++ ", kind: " ++ f.name ++ ", message: \"" ++ f.message ++
    "\" \x7d"

end FileFault

/-- Reading and writing whole files. -/
structure Access (m : Type → Type) where
  read : String → m (Except FileFault (Array UInt8))
  write : String → Array UInt8 → m (Except FileFault Unit)

/-! ## Paths -/

/-- The last part of a path, as a number of characters. -/
def lastPartLength (path : List Char) : Nat :=
  (path.reverse.takeWhile (· ≠ '/')).length

/-- A file name without its extension. A name that starts with its only point has none. -/
def stem (name : List Char) : List Char :=
  let tail := name.reverse.takeWhile (· ≠ '.')
  if name.length ≤ tail.length + 1 then name else name.take (name.length - tail.length - 1)

/-- A path with another extension. A name like `..x` loses its own and becomes that of the directory
above, which takes none. -/
def withExtension (path : String) (extension : String) : String :=
  let chars := path.toList
  let n := chars.length - lastPartLength chars
  let stem := stem (chars.drop n)
  let tail := if stem = ['.'] then "." else "." ++ extension
  String.ofList (chars.take n ++ stem) ++ tail

/-- The most bytes that a part of a path may have. -/
def maxPartSize : Nat := 255

/-- The most bytes that a path may have. -/
def maxPathSize : Nat := 4095

/-- Whether a part of a path stays where it is. -/
def staysHere (part : String) : Bool :=
  part.isEmpty || part == "."

/-- Whether a part of a path leads to the directory above. -/
def leadsUp (part : String) : Bool :=
  part == ".."

/-! ## A directory in memory -/

/-- The files of a directory by name. -/
abbrev Directory := List (String × Array UInt8)

namespace Directory

/-- Sets the contents of a file. -/
def set : Directory → String → Array UInt8 → Directory
  | [], name, bytes => [(name, bytes)]
  | (n, old) :: rest, name, bytes =>
    if n = name then (n, bytes) :: rest else (n, old) :: set rest name bytes

/-- What a path leads to. -/
inductive Place
  /-- The file of the directory with the given name, which need not be there. -/
  | file (name : String)
  /-- A device that is empty and takes everything. -/
  | null

/-- Why there is nothing of the given name. -/
def missing (part : String) : FileFault :=
  if maxPartSize < part.utf8ByteSize then .nameTooLong else .notFound

/-- What the parts of a path lead to from the root. Of what stands there only some directories are
known, and the null device. -/
def locateFromRoot : List String → Except FileFault Place
  | [] => .error .isDirectory
  | part :: rest =>
    if staysHere part || leadsUp part then locateFromRoot rest
    else match part, rest.dropWhile staysHere with
      | "dev", [] | "tmp", [] => .error .isDirectory
      | "dev", ["null"] => .ok .null
      | "dev", "null" :: _ => .error .notADirectory
      | "dev", inner :: _ => .error (missing inner)
      | part, _ => .error (missing part)

/-- What the parts of a path lead to from a directory above, of which no more is known. -/
def locateAbove : List String → Except FileFault Place
  | [] => .error .isDirectory
  | part :: rest =>
    if staysHere part || leadsUp part then locateAbove rest else .error (missing part)

/-- What the parts of a path lead to. There are no directories inside. -/
def locate (d : Directory) : List String → Except FileFault Place
  | [] => .error .isDirectory
  | part :: rest =>
    if staysHere part then locate d rest
    else if leadsUp part then locateAbove rest
    else if rest.isEmpty then .ok (.file part)
    else if (d.lookup part).isSome then .error .notADirectory
    else .error (missing part)

/-- What a path leads to. -/
def resolve (d : Directory) (path : String) : Except FileFault Place :=
  if maxPathSize < path.utf8ByteSize then .error .nameTooLong
  else if path.startsWith "/" then locateFromRoot (path.splitOn "/")
  else d.locate (path.splitOn "/")

/-- The contents of a file. -/
def read (d : Directory) (path : String) : Except FileFault (Array UInt8) := do
  match ← d.resolve path with
  | .null => return #[]
  | .file name =>
    match d.lookup name with
    | some bytes => return bytes
    | none => .error (missing name)

/-- The path without the slashes at its end, and whether there are any. A path of slashes keeps
one. -/
def splitSlashes (path : String) : String × Bool :=
  let chars := path.toList
  let slashes := (chars.reverse.takeWhile (· = '/')).length
  (String.ofList (chars.take (max 1 (chars.length - slashes))), slashes ≠ 0)

/-- What a path leads to for writing. A path that ends with a slash never names a file. -/
def target (d : Directory) (path : String) : Except FileFault Place := do
  if maxPathSize < path.utf8ByteSize then .error .nameTooLong
  else
    let (bare, slash) := splitSlashes path
    let place ← d.resolve bare
    if slash then .error .isDirectory
    else match place with
      | .null => .ok .null
      | .file name =>
        if maxPartSize < name.utf8ByteSize then .error .nameTooLong else .ok (.file name)

/-- Reading and writing a directory in memory. -/
def access : Access (StateM Directory) where
  read path := do return (← get).read path
  write path bytes := do
    match (← get).target path with
    | .ok .null => return .ok ()
    | .ok (.file name) =>
      modify fun d => d.set name bytes
      return .ok ()
    | .error f => return .error f

end Directory

end CommandLine

end DotMatrix
