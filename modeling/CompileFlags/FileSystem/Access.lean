import CompileFlags.FileSystem.Walk
import CompileFlags.Path.Tidy

/-!
# Access to files

Looking at files, reading and writing them, and making directories. A request gives the file system
after it, or the reason for which it was refused.
-/

namespace CompileFlags.FileSystem

/-- Where a path leads, with the fault told for that path. -/
def goal (fs : FileSystem) (cwd : CurrentDirectory) (p : Text) (purpose : Purpose) :
    Except AccessFault Goal :=
  match pathFault? p with
  | some fault => .error fault
  | none =>
    match fs.resolve cwd p purpose with
    | .ok g => .ok g
    | .error e => .error (.system e p)

/-- The place of what is found at a path. -/
def place? (fs : FileSystem) (cwd : CurrentDirectory) (p : Text) (purpose : Purpose) :
    Option Location :=
  match fs.goal cwd p purpose with
  | .ok (.present loc) => some loc
  | _ => none

/-- What is found at a path, behind links. -/
def status (fs : FileSystem) (cwd : CurrentDirectory) (p : Text) : Except AccessFault Node :=
  match fs.goal cwd p .content with
  | .error fault => .error fault
  | .ok (.absent _) => .error (.system .notFound p)
  | .ok .removed => .ok .directory
  | .ok (.present loc) =>
    match fs.node? loc with
    | some node => .ok node
    | none => .error (.system .notFound p)

/-- Whether a regular file is found at a path. -/
def isFile (fs : FileSystem) (cwd : CurrentDirectory) (p : Text) : Bool :=
  match fs.status cwd p with
  | .ok (.file _) => true
  | _ => false

/-- Whether a directory is found at a path. -/
def isDirectory (fs : FileSystem) (cwd : CurrentDirectory) (p : Text) : Bool :=
  match fs.status cwd p with
  | .ok .directory => true
  | _ => false

/-- What is found at a path, where missing is an answer and any other failure is a fault. -/
def probe (fs : FileSystem) (cwd : CurrentDirectory) (p : Text) :
    Except AccessFault (Option Node) :=
  match fs.status cwd p with
  | .ok node => .ok (some node)
  | .error (.system e p) => if e.meansMissing then .ok none else .error (.system e p)
  | .error _ => .ok none

/-- The content of a file. -/
def read (fs : FileSystem) (cwd : CurrentDirectory) (p : Text) : Except AccessFault ByteArray :=
  match fs.status cwd p, (fs.place? cwd p .content).bind (fs.refusal? · .read) with
  | .error fault, _ => .error fault
  | .ok _, some refusal => .error (.system (.refused refusal) p)
  | .ok (.file content), none => .ok content
  | .ok _, none => .error (.system .isDirectory p)

/-- Gives a file a new content, made from the old one; a file that is not there is empty before. -/
def update (fs : FileSystem) (cwd : CurrentDirectory) (p : Text) (f : ByteArray → ByteArray) :
    Except AccessFault FileSystem :=
  match fs.goal cwd p .writing with
  | .error fault => .error fault
  | .ok .removed => .error (.system .isDirectory p)
  | .ok (.absent loc) =>
    match fs.refusal? loc.dropLast .write with
    | some refusal => .error (.system (.refused refusal) p)
    | none => .ok (fs.make loc (.file (f .empty)))
  | .ok (.present loc) =>
    match fs.node? loc, fs.refusal? loc .write with
    | some (.file _), some refusal => .error (.system (.refused refusal) p)
    | some (.file content), none => .ok (fs.set loc (.file (f content)))
    | _, _ => .error (.system .isDirectory p)

/-- Writes a file. -/
def write (fs : FileSystem) (cwd : CurrentDirectory) (p : Text) (content : ByteArray) :
    Except AccessFault FileSystem :=
  fs.update cwd p fun _ => content

/-- Writes to the end of a file. -/
def append (fs : FileSystem) (cwd : CurrentDirectory) (p : Text) (content : ByteArray) :
    Except AccessFault FileSystem :=
  fs.update cwd p (· ++ content)

/-- Puts a node where nothing is yet. -/
def create (fs : FileSystem) (cwd : CurrentDirectory) (p : Text) (node : Node) :
    Except AccessFault FileSystem :=
  match fs.goal cwd p .name with
  | .error fault => .error fault
  | .ok (.absent loc) =>
    match fs.refusal? loc.dropLast .write with
    | some refusal => .error (.system (.refused refusal) p)
    | none => .ok (fs.make loc node)
  | .ok _ => .error (.system .exists p)

/-- Makes a directory, unless a directory is there already. -/
def ensureDirectory (fs : FileSystem) (cwd : CurrentDirectory) (p : Text) :
    Except AccessFault FileSystem :=
  match fs.create cwd p .directory with
  | .ok fs => .ok fs
  | .error (.system .notFound p) => .error (.system .notFound p)
  | .error (.system e p) =>
    match fs.probe cwd p with
    | .ok (some .directory) => .ok fs
    | .ok _ => .error (.system e p)
    | .error fault => .error fault
  | .error fault => .error fault

/-- Makes the directory with the given names, last name first, and those above it as far as they are
missing. What was made before a failure stays. -/
def ensureNames (cwd : CurrentDirectory) (root : Text) :
    List Text → FileSystem → FileSystem × Option AccessFault
  | [], fs =>
    match fs.ensureDirectory cwd (Path.tidy root) with
    | .ok fs => (fs, none)
    | .error fault => (fs, some fault)
  | name :: above, fs =>
    let p := Path.tidy (root ++ Path.joinNames (name :: above).reverse)
    match fs.ensureDirectory cwd p with
    | .ok fs => (fs, none)
    | .error (.system .notFound _) =>
      match ensureNames cwd root above fs with
      | (fs, some fault) => (fs, some fault)
      | (fs, none) =>
        match fs.ensureDirectory cwd p with
        | .ok fs => (fs, none)
        | .error fault => (fs, some fault)
    | .error fault => (fs, some fault)

/-- Makes a directory and those above it as far as they are missing. -/
def ensureDirectories (fs : FileSystem) (cwd : CurrentDirectory) (p : Text) :
    FileSystem × Option AccessFault :=
  ensureNames cwd (Path.root p) (Path.names p).reverse fs

/-- Takes away what is found at a path, with everything below it. -/
def remove (fs : FileSystem) (cwd : CurrentDirectory) (p : Text) : Except AccessFault FileSystem :=
  match fs.goal cwd p .name with
  | .error fault => .error fault
  | .ok (.present loc) => .ok (fs.erase loc)
  | .ok _ => .error (.system .notFound p)

end CompileFlags.FileSystem
