import UidPolicy.Act
import UidPolicy.Config.Read
import UidPolicy.Fault
import UidPolicy.Path

/-!
# Loading the configuration

* `FileTree` — a file or a directory.
* `FileTree.resolve` — what a path leads to in a tree, from a working directory.
* `Files` — what every path leads to; `Files.ofTree` is that of a tree.
* `Config.loadBy` — the configuration of a file, for any reader of texts.  A file that every user
  can write is reported, since it decides what a privileged program does.
* `Config.loadOrDefaultBy` — the same, with default settings where a missing file is allowed.
* `Config.loadOrDefault` — the same with the reader of YAML.

Loading runs over the files that paths lead to, and changes nothing.
-/

namespace UidPolicy

/-! ## Files -/

/-- A file or a directory, with its mode word.  It is all that is looked at of a file system here;
links and special files are left out. -/
inductive FileTree where
  | file (mode : Nat) (bytes : List UInt8)
  | directory (mode : Nat) (entries : List (String × FileTree))
  deriving Inhabited

namespace FileTree

def mode : FileTree → Nat
  | file mode _ => mode
  | directory mode _ => mode

/-- A file name holds at most this many bytes. -/
def maxName : Nat := 255

/-- A path holds fewer than this many bytes. -/
def maxPath : Nat := 4096

/-- Goes from a place along the segments of a path.  `above` are the directories on the way
to the place, nearest first. -/
def walk (above : List FileTree) (place : FileTree) : List String → Except Errno FileTree
  | [] => .ok place
  | segment :: rest =>
    -- whatever is left of the path, a file is no place to go on from
    match place with
    | .file .. => .error Errno.notDirectory
    | .directory _ entries =>
      if segment = "" || segment = "." then walk above place rest
      else if segment = ".." then
        match above with
        -- the directory above the root is the root
        | [] => walk [] place rest
        | up :: higher => walk higher up rest
      else if segment.utf8ByteSize > maxName then .error Errno.nameTooLong
      else
        match entries.find? fun e => e.1 = segment with
        | none => .error Errno.noEntry
        | some (_, next) => walk (place :: above) next rest

/-- What a path leads to.  The names of the working directory lead there from the root. -/
def resolve (root : FileTree) (working : List String) (path : String) : Except Errno FileTree :=
  if path.isEmpty then .error Errno.noEntry
  else if path.utf8ByteSize ≥ maxPath then .error Errno.nameTooLong
  else
    let segments := (Path.segments path.toList).map String.ofList
    let start := if Path.isAbsolute path then [] else working
    walk [] root (start ++ segments)

end FileTree

/-- What every path leads to. -/
structure Files where
  find : String → Except Errno FileTree
  deriving Inhabited

namespace Files

def ofTree (root : FileTree) (working : List String) : Files := ⟨root.resolve working⟩

def single (path : String) (found : Except Errno FileTree) : Files :=
  ⟨fun other => if other = path then found else .error Errno.noEntry⟩

/-- The files of a machine that has no configuration of its own, seen from a directory that
holds the given entries. -/
def machine (entries : List (String × FileTree)) : Files :=
  ofTree
    (.directory 0o40755
      [("etc", .directory 0o40755 []),
       ("dev", .directory 0o40755 [("null", .file 0o20666 [])]),
       ("tmp", .directory 0o41777 [("work", .directory 0o40700 entries)])])
    ["tmp", "work"]

end Files

/-! ## The configuration of a file -/

namespace Config

def find (files : Files) (path : String) : Except ReadError FileTree :=
  if path.toList.contains '\x00' then .error .pathWithNul
  else (files.find path).mapError .system

def readText (files : Files) (path : String) : Except ReadError String := do
  match ← find files path with
  | .directory .. => throw (.system Errno.isDirectory)
  | .file _ bytes =>
    match String.fromUTF8? ⟨bytes.toArray⟩ with
    | some text => pure text
    | none => throw .notText

/-- A mode word in octal digits, at least four of them. -/
def octal (mode : Nat) : String :=
  let ds := Nat.toDigits 8 mode
  String.ofList (List.replicate (4 - ds.length) '0' ++ ds)

/-- Whether every user may write. -/
def isWorldWritable (mode : Nat) : Bool := mode / 2 % 2 = 1

/-- Reports a file that every user can write.  It is no failure: the settings are used all the
same. -/
def warnIfWorldWritable (path : String) : Act Error Files Unit := do
  let found ← Act.read fun files => find files path
  match found with
  | .ok file =>
    if isWorldWritable file.mode then
      Act.emit ⟨.warn, .configFile,
        "config file is world-writable, consider chmod 644 or stricter",
        [("path", .text path), ("mode", .text (octal file.mode))]⟩
  | .error _ => pure ()

/-- The configuration of a file, as a reader of texts finds it there. -/
def loadBy (read : String → Option Config) (path : String) : Act Error Files Config := do
  warnIfWorldWritable path
  let content ← Act.read fun files => readText files path
  match content with
  | .ok text => Act.ofExcept (parseBy read text)
  | .error e => Act.fail (.read e)

/-- The same; where a missing file is allowed, default settings stand for it. -/
def loadOrDefaultBy (read : String → Option Config) (path : String) (allowMissing : Bool) :
    Act Error Files Config := do
  match ← (loadBy read path).attempt with
  | .ok c => pure c
  | .error e =>
    if allowMissing && e = .read (.system Errno.noEntry) then do
      Act.emit ⟨.info, .config, "no config file, using defaults", [("path", .text path)]⟩
      pure default
    else Act.fail e

/-- The configuration of a file, or default settings. -/
def loadOrDefault (path : String) (allowMissing : Bool) : Act Error Files Config :=
  loadOrDefaultBy read? path allowMissing

end Config

end UidPolicy
