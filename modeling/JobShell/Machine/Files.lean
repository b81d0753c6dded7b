import JobShell.Errno
import JobShell.Text.Utf8

/-!
# Files

A tree of numbered nodes.  Directories know their parents, so a directory that
has been removed can still be left upwards, though it has no path any more.

A path is walked one name at a time.  Symbolic links are followed by putting the
names of their targets in front of what is left of the path; the number of links
that one walk may follow is limited, which is also why every walk ends.

Permissions say what may be done with a node by the user whom it belongs to, and by
others.  The superuser may do everything.
-/

namespace JobShell.Machine

/-- The number of a node. -/
abbrev Inode := Nat

inductive Device where
  /-- Always empty. -/
  | null
  /-- An endless row of zeros. -/
  | zero
  /-- The same, with no room for anything. -/
  | full
  /-- Whatever the process that opens it has under a descriptor. -/
  | descriptor (number : Nat)
  deriving DecidableEq, Repr, Inhabited

inductive Content where
  | file (bytes : Bytes)
  /-- A program of the system, by its name. -/
  | program (name : String)
  | directory (parent : Inode) (entries : List (Bytes × Inode)) (removed : Bool)
  | link (target : Bytes)
  | device (device : Device)
  deriving Repr, Inhabited

structure Node where
  content : Content
  permissions : Nat
  /-- Whether it belongs to the user who works with the files. -/
  owned : Bool := true
  deriving Repr, Inhabited

structure Files where
  nodes : Array Node
  /-- Whether that user is the superuser. -/
  privileged : Bool := true
  deriving Repr, Inhabited

/-- What may be done with a node, as a set of bits. -/
abbrev Rights := Nat

namespace Rights

/-- To search a directory, or to execute a file. -/
def search : Rights := 0b001

def write : Rights := 0b010

def read : Rights := 0b100

end Rights

def Node.grants (node : Node) (rights : Rights) : Bool :=
  let granted := if node.owned then node.permissions >>> 6 else node.permissions
  granted &&& rights = rights

/-- How a file is opened. -/
structure OpenMode where
  reads : Bool := false
  writes : Bool := false
  creates : Bool := false
  truncates : Bool := false
  appends : Bool := false
  deriving DecidableEq, Repr, Inhabited

/-- The rights that opening a file takes. -/
def OpenMode.rights (mode : OpenMode) : Rights :=
  (if mode.reads then Rights.read else 0) ||| (if mode.writes then Rights.write else 0)

/-- What a program can find out about a file. -/
structure Attributes where
  inode : Inode
  /-- How many names there are for it. -/
  links : Nat
  content : Content
  permissions : Nat
  deriving Repr, Inhabited

namespace Files

def rootInode : Inode := 0

def slash : UInt8 := 47

/-- Only a root directory. -/
def empty : Files :=
  { nodes := #[{ content := .directory rootInode [] false, permissions := 0o755 }] }

def node? (files : Files) (inode : Inode) : Option Node :=
  files.nodes[inode]?

def content? (files : Files) (inode : Inode) : Option Content :=
  (files.node? inode).map Node.content

def setContent (files : Files) (inode : Inode) (content : Content) : Files :=
  { files with nodes := files.nodes.modify inode fun node => { node with content } }

def isDirectory (files : Files) (inode : Inode) : Bool :=
  match files.content? inode with
  | some (.directory _ _ _) => true
  | _ => false

/-- Whether the user has the rights to a node. -/
def allows (files : Files) (inode : Inode) (rights : Rights) : Bool :=
  files.privileged || (files.node? inode).any fun node => node.grants rights

/-- Adds a node without a name. -/
def allocate (files : Files) (node : Node) : Inode × Files :=
  (files.nodes.size, { files with nodes := files.nodes.push node })

def addEntry (files : Files) (directory : Inode) (name : Bytes) (inode : Inode) : Files :=
  match files.content? directory with
  | some (.directory parent entries removed) =>
      files.setContent directory (.directory parent (entries ++ [(name, inode)]) removed)
  | _ => files

/-! ## Walking -/

/-- The names in a path. -/
def namesFrom (current : Bytes) : Bytes → List Bytes
  | [] => if current.isEmpty then [] else [current]
  | byte :: rest =>
      if byte = slash then
        if current.isEmpty then namesFrom [] rest else current :: namesFrom [] rest
      else namesFrom (current ++ [byte]) rest

def names (path : Bytes) : List Bytes :=
  namesFrom [] path

def isAbsolute (path : Bytes) : Bool :=
  path.head? = some slash

def endsInSlash (path : Bytes) : Bool :=
  path.getLast? = some slash

def longestName : Nat := 255

/-- The length that no path can have, counted without its end mark. -/
def pathLimit : Nat := 4096

def linkLimit : Nat := 40

/-- How a walk treats the last name of a path. -/
structure Purpose where
  followsLast : Bool := true
  /-- A missing last name is going to be created as a file. -/
  createsFile : Bool := false

/-- Where a path leads. -/
inductive Place where
  | found (inode : Inode)
  /-- Nothing has the name yet, in a directory that exists. -/
  | free (directory : Inode) (name : Bytes)
  deriving Repr, Inhabited

def dot : Bytes := [46]

def dotDot : Bytes := [46, 46]

/-- Walks `rest` from a directory.  `links` is how many links may still be followed,
`trailing` whether a slash follows the last name. -/
def walk (files : Files) (purpose : Purpose) (links : Nat) (current : Inode)
    (rest : List Bytes) (trailing : Bool) : Except Errno Place :=
  match rest with
  | [] => .ok (.found current)
  | name :: rest =>
      match files.content? current with
      | some (.directory parent entries removed) =>
          if !files.allows current Rights.search then .error .accessDenied
          else if name = dot then walk files purpose links current rest trailing
          else if name = dotDot then walk files purpose links parent rest trailing
          else if rest.isEmpty && trailing && purpose.createsFile then .error .isDirectory
          else if name.length > longestName then .error .nameTooLong
          else
            match entries.lookup name with
            | none =>
                if rest.isEmpty && !removed then .ok (.free current name) else .error .noEntry
            | some inode =>
                match files.content? inode with
                | some (.link target) =>
                    if rest.isEmpty && !trailing && !purpose.followsLast then .ok (.found inode)
                    else
                      match links with
                      | 0 => .error .tooManyLinks
                      | links + 1 =>
                          let start := if isAbsolute target then rootInode else current
                          let trailing := trailing || rest.isEmpty && endsInSlash target
                          walk files purpose links start (names target ++ rest) trailing
                | some (.directory _ _ _) => walk files purpose links inode rest trailing
                | _ =>
                    if rest.isEmpty && !trailing then .ok (.found inode)
                    else .error .notDirectory
      | _ => .error .notDirectory
termination_by (links, rest.length)

/-- Where a path leads from a working directory. -/
def locate (files : Files) (purpose : Purpose) (start : Inode) (path : Bytes) :
    Except Errno Place :=
  if path.contains 0 then .error .invalid
  else if path.isEmpty then .error .noEntry
  else if path.length ≥ pathLimit then .error .nameTooLong
  else
    walk files purpose linkLimit (if isAbsolute path then rootInode else start) (names path)
      (endsInSlash path)

/-- The node that a path leads to. -/
def find (files : Files) (purpose : Purpose) (start : Inode) (path : Bytes) :
    Except Errno Inode :=
  match files.locate purpose start path with
  | .ok (.found inode) => .ok inode
  | .ok (.free _ _) => .error .noEntry
  | .error errno => .error errno

/-! ## Operations -/

/-- Opens an existing node. -/
def openNode (files : Files) (inode : Inode) (mode : OpenMode) : Except Errno (Inode × Files) :=
  if files.isDirectory inode && (mode.writes || mode.creates) then .error .isDirectory
  else if !files.allows inode mode.rights then .error .accessDenied
  else
    match files.content? inode with
    | some (.file _) =>
        .ok (inode, if mode.truncates then files.setContent inode (.file []) else files)
    | some (.program _) => if mode.writes then .error .textBusy else .ok (inode, files)
    | _ => .ok (inode, files)

/-- Opens a path; a file that is created gets the permissions.  What belongs to a
descriptor is found, but not opened. -/
def openPath (files : Files) (start : Inode) (path : Bytes) (mode : OpenMode)
    (permissions : Nat) : Except Errno (Inode × Files) :=
  match files.locate { createsFile := mode.creates } start path with
  | .error errno => .error errno
  | .ok (.found inode) =>
      match files.content? inode with
      | some (.device (.descriptor _)) => .ok (inode, files)
      | _ => files.openNode inode mode
  | .ok (.free directory name) =>
      if !mode.creates then .error .noEntry
      else if !files.allows directory (Rights.write ||| Rights.search) then .error .accessDenied
      else
        let (inode, files) := files.allocate { content := .file [], permissions }
        .ok (inode, files.addEntry directory name inode)

/-- How many names a node has; a directory has one in itself and one in each
directory below. -/
def linksOf (files : Files) (content : Content) : Nat :=
  match content with
  | .directory _ entries removed =>
      if removed then 0 else 2 + (entries.filter fun entry => files.isDirectory entry.2).length
  | _ => 1

def attributesOf (files : Files) (inode : Inode) : Except Errno Attributes :=
  match files.node? inode with
  | some node =>
      .ok { inode, links := files.linksOf node.content, content := node.content
            permissions := node.permissions }
  | none => .error .noEntry

def attributes (files : Files) (purpose : Purpose) (start : Inode) (path : Bytes) :
    Except Errno Attributes :=
  match files.find purpose start path with
  | .error errno => .error errno
  | .ok inode => files.attributesOf inode

/-- The names in a directory, in the order in which they were made.  One that has been
removed has not even names for itself and its parent. -/
def list (files : Files) (start : Inode) (path : Bytes) : Except Errno (List Bytes) :=
  match files.find {} start path with
  | .error errno => .error errno
  | .ok inode =>
      match files.content? inode with
      | some (.directory _ entries removed) =>
          if !files.allows inode Rights.read then .error .accessDenied
          else .ok ((if removed then [] else [dot, dotDot]) ++ entries.map Prod.fst)
      | _ => .error .notDirectory

/-- The directory that a path leads to. -/
def enter (files : Files) (start : Inode) (path : Bytes) : Except Errno Inode :=
  match files.find {} start path with
  | .error errno => .error errno
  | .ok inode =>
      if !files.isDirectory inode then .error .notDirectory
      else if !files.allows inode Rights.search then .error .accessDenied
      else .ok inode

/-- The name of a node in a directory. -/
def nameIn (files : Files) (directory inode : Inode) : Option Bytes :=
  match files.content? directory with
  | some (.directory _ entries _) =>
      (entries.find? fun entry => entry.2 = inode).map Prod.fst
  | _ => none

/-- The names from the root down to a directory; `depth` bounds how deep it lies. -/
def namesTo (files : Files) : Nat → Inode → Except Errno (List Bytes)
  | 0, _ => .error .noEntry
  | depth + 1, inode =>
      if inode = rootInode then .ok []
      else
        match files.content? inode with
        | some (.directory parent _ false) =>
            match files.nameIn parent inode with
            | none => .error .noEntry
            | some name => (files.namesTo depth parent).map (· ++ [name])
        | _ => .error .noEntry

def joinNames (names : List Bytes) : Bytes :=
  if names.isEmpty then [slash] else names.flatMap (slash :: ·)

/-- The path of a directory, unless it has been removed. -/
def pathOf (files : Files) (directory : Inode) : Except Errno Bytes :=
  (files.namesTo (files.nodes.size + 1) directory).map joinNames

def removeEntry (files : Files) (directory inode : Inode) : Files :=
  match files.content? directory with
  | some (.directory parent entries removed) =>
      files.setContent directory
        (.directory parent (entries.filter fun entry => entry.2 ≠ inode) removed)
  | _ => files

/-- Removes an empty directory. -/
def removeDirectory (files : Files) (start : Inode) (path : Bytes) : Except Errno Files :=
  match files.find { followsLast := false } start path with
  | .error errno => .error errno
  | .ok inode =>
      match files.content? inode with
      | some (.directory parent entries _) =>
          if (names path).getLast? = some dot then .error .invalid
          else if !files.allows parent (Rights.write ||| Rights.search) then .error .accessDenied
          else if !entries.isEmpty || (names path).getLast? = some dotDot then .error .notEmpty
          else .ok ((files.setContent inode (.directory parent [] true)).removeEntry parent inode)
      | _ => .error .notDirectory

/-- Bytes of a file from an offset on. -/
def readAt (files : Files) (inode : Inode) (offset count : Nat) : Except Errno Bytes :=
  match files.content? inode with
  | some (.file bytes) => .ok ((bytes.drop offset).take count)
  | some (.directory _ _ _) => .error .isDirectory
  | some (.device .zero) | some (.device .full) => .ok (List.replicate count 0)
  | _ => .ok []

/-- Replaces bytes from an offset on; a gap before it is filled with zeros. -/
def overwrite (old : Bytes) (offset : Nat) (new : Bytes) : Bytes :=
  old.take offset ++ List.replicate (offset - old.length) 0 ++ new
    ++ old.drop (offset + new.length)

def writeAt (files : Files) (inode : Inode) (offset : Nat) (bytes : Bytes) : Files :=
  match files.content? inode with
  | some (.file old) => files.setContent inode (.file (overwrite old offset bytes))
  | _ => files

/-- Whether there is no room for anything that is written. -/
def isFull (files : Files) (inode : Inode) : Bool :=
  match files.content? inode with
  | some (.device .full) => true
  | _ => false

def sizeOf (files : Files) (inode : Inode) : Nat :=
  match files.content? inode with
  | some (.file bytes) => bytes.length
  | _ => 0

/-! ## Making trees -/

/-- The directory of the given name in a directory, made if there is none. -/
def subdirectory (files : Files) (directory : Inode) (name : Bytes) : Inode × Files :=
  match files.content? directory with
  | some (.directory _ entries _) =>
      match entries.lookup name with
      | some inode => (inode, files)
      | none =>
          let (inode, files) :=
            files.allocate { content := .directory directory [] false, permissions := 0o755 }
          (inode, files.addEntry directory name inode)
  | _ => (directory, files)

/-- Makes the directories along a list of names. -/
def makeDirectories (files : Files) (directory : Inode) : List Bytes → Inode × Files
  | [] => (directory, files)
  | name :: rest =>
      let (inode, files) := files.subdirectory directory name
      makeDirectories files inode rest

/-- Puts a node at a path below a directory, with all directories on the way. -/
def place (files : Files) (directory : Inode) (path : Bytes) (node : Node) : Files :=
  match (names path).getLast? with
  | none => files
  | some name =>
      let (parent, files) := files.makeDirectories directory (names path).dropLast
      let (inode, files) := files.allocate node
      (files.addEntry parent name inode)

/-- Every entry below a directory with its path, down to the given depth. -/
def entriesBelow (files : Files) : Nat → Bytes → Inode → List (Bytes × Content)
  | 0, _, _ => []
  | depth + 1, above, inode =>
      match files.content? inode with
      | some (.directory _ entries _) =>
          entries.flatMap fun entry =>
            let path := above ++ entry.1
            match files.content? entry.2 with
            | some content =>
                (path, content) :: files.entriesBelow depth (path ++ [slash]) entry.2
            | none => []
      | _ => []

end Files

end JobShell.Machine
