import JobShell.Machine.System
import JobShell.Programs.Table

/-!
# A machine to start with

The shell is the only process.  Its standard streams are files without names, so
that what has been written to them can be looked at afterwards.
-/

namespace JobShell.Machine

/-- The standard input of the shell. -/
inductive StandardInput where
  | empty
  | content (bytes : Bytes)
  /-- One that cannot be read. -/
  | closed
  deriving DecidableEq, Repr, Inhabited

structure Setup where
  account : Account
  /-- The working directory, which is made. -/
  directory : Bytes
  /-- What lies below it. -/
  entries : List (Bytes × Node) := []
  input : StandardInput := .empty
  deriving Inhabited

def directoryNode : Node :=
  { content := .directory Files.rootInode [] false, permissions := 0o755 }

/-- A directory with all directories above it. -/
def makePath (files : Files) (path : String) : Files :=
  (files.makeDirectories Files.rootInode (Files.names (Text.encode path))).2

def baseDirectories : List String :=
  ["usr/bin", "usr/sbin", "usr/lib", "usr/local/bin", "boot", "dev", "etc", "home", "media", "mnt",
   "opt", "proc/self/fd", "root", "run", "srv", "sys", "tmp", "var/tmp", "var/lib"]

def placeAt (files : Files) (path : String) (node : Node) : Files :=
  files.place Files.rootInode (Text.encode path) node

def baseLinks : List (String × String) :=
  [("bin", "usr/bin"), ("sbin", "usr/sbin"), ("lib", "usr/lib")]

/-- Links to what a process has under its descriptors. -/
def descriptorLinks : List (String × String) :=
  [("dev/stdin", "/proc/self/fd/0"), ("dev/stdout", "/proc/self/fd/1"),
   ("dev/stderr", "/proc/self/fd/2"), ("dev/fd", "/proc/self/fd")]

/-- How many descriptors have a path. -/
def descriptorPaths : Nat := 10

def devices : List (String × Device) :=
  [("null", .null), ("zero", .zero), ("full", .full)]

/-- The tree of the system without anything of its user's. -/
def baseFiles : Files :=
  let files := baseDirectories.foldl makePath Files.empty
  let files := (baseLinks ++ descriptorLinks).foldl
    (fun files link =>
      placeAt files link.1 { content := .link (Text.encode link.2), permissions := 0o777 }) files
  let files := Programs.table.foldl
    (fun files entry =>
      placeAt files ("usr/bin/" ++ entry.1) { content := .program entry.1, permissions := 0o755 })
    files
  let files := devices.foldl
    (fun files entry =>
      placeAt files ("dev/" ++ entry.1) { content := .device entry.2, permissions := 0o666 }) files
  (List.range descriptorPaths).foldl
    (fun files number =>
      placeAt files ("proc/self/fd/" ++ toString number)
        { content := .device (.descriptor number), permissions := 0o700 }) files

/-- The same tree for a user, to whom none of it belongs. -/
def systemFiles (account : Account) : Files :=
  { nodes := baseFiles.nodes.map fun node => { node with owned := false }
    privileged := account.isSuperuser }

/-- Puts an entry below a directory.  A directory may be there already. -/
def placeEntry (directory : Inode) (files : Files) (entry : Bytes × Node) : Files :=
  match entry.2.content with
  | .directory _ _ _ => (files.makeDirectories directory (Files.names entry.1)).2
  | _ => files.place directory entry.1 entry.2

/-- The number of the first process. -/
def firstPid : Pid := 1000

def shellMember (directory : Inode) : Member :=
  { identity := { pid := firstPid, parent := 1, group := firstPid }
    descriptors := [(0, { file := 0, closesOnExecute := false }),
      (1, { file := 1, closesOnExecute := false }), (2, { file := 2, closesOnExecute := false })]
    directory
    mask := 0o022
    activity := .ready (.exit 0) }

/-- The files behind the standard streams, in the order of their descriptors. -/
def standardFiles (input : StandardInput) (files : Files) : List OpenFile × Files :=
  let stream (bytes : Bytes) : Node := { content := .file bytes, permissions := 0o600 }
  let (source, mode, files) : Inode × OpenMode × Files := match input with
    | .empty =>
        let (inode, files) := files.allocate { content := .device .null, permissions := 0o666 }
        (inode, { reads := true }, files)
    | .content bytes =>
        let (inode, files) := files.allocate (stream bytes)
        (inode, { reads := true }, files)
    | .closed =>
        let (inode, files) := files.allocate (stream [])
        (inode, { writes := true }, files)
  let (output, files) := files.allocate (stream [])
  let (errors, files) := files.allocate (stream [])
  ([{ target := .node source, mode }, { target := .node output, mode := { writes := true } },
    { target := .node errors, mode := { writes := true } }], files)

def Setup.start (setup : Setup) : Machine :=
  let (directory, files) :=
    (systemFiles setup.account).makeDirectories Files.rootInode (Files.names setup.directory)
  let files := setup.entries.foldl (placeEntry directory) files
  let (opened, files) := standardFiles setup.input files
  { files
    opened := opened.toArray
    pipes := #[]
    members := []
    shell := shellMember directory
    nextPid := firstPid + 1
    clock := 0
    alarm := none
    recorder := {}
    account := setup.account
    programs := Programs.ofName? }

/-! ## Looking at a machine -/

/-- What has been written to one of the standard streams. -/
def written (machine : Machine) (stream : FileId) : Bytes :=
  match machine.opened[stream]? with
  | some { target := .node inode, .. } =>
      match machine.files.content? inode with
      | some (.file bytes) => bytes
      | _ => []
  | _ => []

/-- How deep a directory is looked into. -/
def viewDepth : Nat := 64

/-- Every entry below a directory, with its path. -/
def entriesIn (machine : Machine) (directory : Bytes) : List (Bytes × Content) :=
  match machine.files.find {} Files.rootInode directory with
  | .ok inode => machine.files.entriesBelow viewDepth [] inode
  | .error _ => []

/-- The path of the shell's working directory. -/
def workingDirectory? (machine : Machine) : Option Bytes :=
  (machine.files.pathOf machine.shell.directory).toOption

end JobShell.Machine
