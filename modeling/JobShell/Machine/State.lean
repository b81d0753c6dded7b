import JobShell.Kernel
import JobShell.Machine.Behavior

/-!
# The machine

Files, open files, pipes and processes.  Descriptors are numbers in a process's
table; they lead to open files, which processes share with those that they were
forked from, offsets included.  The shell is one of the processes, but its
behavior is not part of the machine: it acts from outside through the kernel.
-/

namespace JobShell.Machine

/-- The number of an open file. -/
abbrev FileId := Nat

/-- The number of a pipe. -/
abbrev PipeId := Nat

inductive Target where
  | node (inode : Inode)
  | pipeReader (pipe : PipeId)
  | pipeWriter (pipe : PipeId)
  deriving DecidableEq, Repr, Inhabited

structure OpenFile where
  target : Target
  mode : OpenMode
  offset : Nat := 0
  deriving DecidableEq, Repr, Inhabited

structure Slot where
  file : FileId
  closesOnExecute : Bool := true
  deriving DecidableEq, Repr, Inhabited

abbrev Descriptors := List (Descriptor × Slot)

namespace Descriptors

def get? (table : Descriptors) (descriptor : Descriptor) : Option Slot :=
  table.lookup descriptor

def close (table : Descriptors) (descriptor : Descriptor) : Descriptors :=
  table.filter fun entry => entry.1 ≠ descriptor

def set (table : Descriptors) (descriptor : Descriptor) (slot : Slot) : Descriptors :=
  table.close descriptor ++ [(descriptor, slot)]

/-- The least number from `first` on that is not in use; `limit` bounds the search. -/
def freeFrom (table : Descriptors) : Nat → Descriptor → Descriptor
  | 0, first => first
  | limit + 1, first =>
      if (table.get? first).isNone then first else table.freeFrom limit (first + 1)

def free (table : Descriptors) : Descriptor :=
  table.freeFrom (table.length + 1) 0

/-- What is left when the process becomes another program. -/
def onExecute (table : Descriptors) : Descriptors :=
  table.filter fun entry => !entry.2.closesOnExecute

end Descriptors

inductive Activity where
  | ready (next : Behavior)
  | sleeping (wakeAt : Nat) (next : Behavior)
  | ended (status : WaitStatus)

structure Member where
  identity : Identity
  descriptors : Descriptors
  directory : Inode
  mask : Nat
  ignored : List Signal := []
  caught : List Signal := []
  /-- Caught signals that the process has not asked for, earliest first. -/
  pending : List Signal := []
  activity : Activity

end JobShell.Machine

namespace JobShell

structure Machine where
  files : Machine.Files
  opened : Array Machine.OpenFile
  pipes : Array Bytes
  /-- All processes but the shell. -/
  members : List Machine.Member
  shell : Machine.Member
  nextPid : Pid
  /-- Nanoseconds since the start. -/
  clock : Nat
  /-- When the shell's alarm goes off. -/
  alarm : Option Nat
  recorder : Recorder
  account : Account
  programs : String → Option Machine.Program

namespace Machine

def pipeCapacity : Nat := 65536

def Member.pid (member : Member) : Pid :=
  member.identity.pid

def Member.hasEnded (member : Member) : Bool :=
  match member.activity with
  | .ended _ => true
  | _ => false

def everyone (machine : Machine) : List Member :=
  machine.shell :: machine.members

def member? (machine : Machine) (pid : Pid) : Option Member :=
  machine.everyone.find? fun member => member.pid = pid

/-- Changes one process. -/
def update (machine : Machine) (member : Member) : Machine :=
  if member.pid = machine.shell.pid then { machine with shell := member }
  else
    { machine with
      members := machine.members.map fun other =>
        if other.pid = member.pid then member else other }

def openFile? (machine : Machine) (member : Member) (descriptor : Descriptor) :
    Option (FileId × OpenFile) := do
  let slot ← member.descriptors.get? descriptor
  let file ← machine.opened[slot.file]?
  pure (slot.file, file)

def setOffset (machine : Machine) (file : FileId) (offset : Nat) : Machine :=
  { machine with opened := machine.opened.modify file fun entry => { entry with offset } }

/-- Whether some process holds an open file that leads to the target. -/
def isHeld (machine : Machine) (target : Target) : Bool :=
  machine.everyone.any fun member =>
    member.descriptors.any fun entry =>
      match machine.opened[entry.2.file]? with
      | some file => file.target = target
      | none => false

/-- The attributes of what a descriptor leads to; nothing is known about pipes. -/
def attributesOf (machine : Machine) (member : Member) (descriptor : Descriptor) :
    Except Errno Attributes :=
  match machine.openFile? member descriptor with
  | some (_, { target := .node inode, .. }) =>
      machine.files.attributesOf inode
  | some _ => .error .invalid
  | none => .error .badDescriptor

/-- The attributes of what a path leads to. -/
def attributesAt (machine : Machine) (member : Member) (path : Bytes) (follows : Bool) :
    Except Errno Attributes :=
  match machine.files.attributes { followsLast := follows } member.directory path with
  | .ok { content := .device (.descriptor descriptor), inode, links, permissions } =>
      if follows then machine.attributesOf member descriptor
      else .ok { content := .device (.descriptor descriptor), inode, links, permissions }
  | answer => answer

/-- How the file behind a descriptor was opened. -/
def modeOf (machine : Machine) (member : Member) (descriptor : Descriptor) :
    Except Errno OpenMode :=
  match machine.openFile? member descriptor with
  | some (_, file) => .ok file.mode
  | none => .error .badDescriptor

/-! ## Open files -/

/-- Moves the offset of an open file. -/
def seek (machine : Machine) (member : Member) (source : Descriptor) (origin : Origin)
    (offset : Int) : Except Errno Nat × Machine :=
  match machine.openFile? member source with
  | none => (.error .badDescriptor, machine)
  | some (id, { target := .node inode, offset := current, .. }) =>
      let base : Nat := match origin with
        | .start => 0
        | .here => current
        | .stop => machine.files.sizeOf inode
      let position := (base : Int) + offset
      if position < 0 then (.error .invalid, machine)
      else (.ok position.toNat, machine.setOffset id position.toNat)
  | some _ => (.error .illegalSeek, machine)

/-- Gives a process a descriptor for a new open file. -/
def addDescriptor (machine : Machine) (member : Member) (file : OpenFile) (closesOnExecute : Bool) :
    Descriptor × Member × Machine :=
  let descriptor := member.descriptors.free
  let slot : Slot := { file := machine.opened.size, closesOnExecute }
  let member := { member with descriptors := member.descriptors.set descriptor slot }
  (descriptor, member, { machine with opened := machine.opened.push file })

/-- Where it leads to open once more what a process has under a descriptor, and the files
then. -/
def destinationBehind (machine : Machine) (member : Member) (descriptor : Descriptor)
    (mode : OpenMode) : Except Errno (Target × Files) :=
  match machine.openFile? member descriptor with
  | none => .error .noEntry
  | some (_, { target := .node inode, .. }) =>
      (machine.files.openNode inode mode).map fun (inode, files) => (.node inode, files)
  | some (_, { target := .pipeReader pipe, .. }) | some (_, { target := .pipeWriter pipe, .. }) =>
      .ok (if mode.writes then .pipeWriter pipe else .pipeReader pipe, machine.files)

/-- Where a path leads to when it is opened, and the files then.  Some paths lead to what
the process has under a descriptor already. -/
def destination (machine : Machine) (member : Member) (path : Bytes) (mode : OpenMode)
    (permissions : Nat) : Except Errno (Target × Files) :=
  let granted := permissions - (permissions &&& member.mask)
  match machine.files.openPath member.directory path mode granted with
  | .error errno => .error errno
  | .ok (inode, files) =>
      match files.content? inode with
      | some (.device (.descriptor descriptor)) =>
          machine.destinationBehind member descriptor mode
      | _ => .ok (.node inode, files)

def openPath (machine : Machine) (member : Member) (path : Bytes) (mode : OpenMode)
    (permissions : Nat) : Except Errno Descriptor × Member × Machine :=
  match machine.destination member path mode permissions with
  | .error errno => (.error errno, member, machine)
  | .ok (target, files) =>
      let (descriptor, member, machine) :=
        { machine with files }.addDescriptor member { target, mode } true
      (.ok descriptor, member, machine)

def openPipe (machine : Machine) (member : Member) : PipeEnds × Member × Machine :=
  let pipe := machine.pipes.size
  let machine := { machine with pipes := machine.pipes.push [] }
  let (readEnd, member, machine) :=
    machine.addDescriptor member { target := .pipeReader pipe, mode := { reads := true } } true
  let (writeEnd, member, machine) :=
    machine.addDescriptor member { target := .pipeWriter pipe, mode := { writes := true } } true
  ({ readEnd, writeEnd }, member, machine)

/-- Reads from a descriptor; no answer means that the reader has to wait. -/
def readFrom (machine : Machine) (member : Member) (source : Descriptor) (count : Nat) :
    Option (Except Errno Bytes × Machine) :=
  match machine.openFile? member source with
  | none => some (.error .badDescriptor, machine)
  | some (id, file) =>
      if !file.mode.reads then some (.error .badDescriptor, machine)
      else
        match file.target with
        | .node inode =>
            match machine.files.readAt inode file.offset count with
            | .error errno => some (.error errno, machine)
            | .ok bytes => some (.ok bytes, machine.setOffset id (file.offset + bytes.length))
        | .pipeWriter _ => some (.error .badDescriptor, machine)
        | .pipeReader pipe =>
            let waiting := (machine.pipes[pipe]?).getD []
            if waiting.isEmpty then
              if machine.isHeld (.pipeWriter pipe) then none else some (.ok [], machine)
            else
              some (.ok (waiting.take count),
                { machine with pipes := machine.pipes.set! pipe (waiting.drop count) })

/-- Writes to a descriptor; no answer means that the writer has to wait. -/
def writeTo (machine : Machine) (member : Member) (target : Descriptor) (bytes : Bytes) :
    Option (Except Errno Nat × Machine) :=
  match machine.openFile? member target with
  | none => some (.error .badDescriptor, machine)
  | some (id, file) =>
      if !file.mode.writes then some (.error .badDescriptor, machine)
      else
        match file.target with
        | .node inode =>
          if machine.files.isFull inode then
            some (.error .noSpace, machine)
          else
            let offset := if file.mode.appends then machine.files.sizeOf inode else file.offset
            let machine := { machine with files := machine.files.writeAt inode offset bytes }
            some (.ok bytes.length, machine.setOffset id (offset + bytes.length))
        | .pipeReader _ => some (.error .badDescriptor, machine)
        | .pipeWriter pipe =>
            let waiting := (machine.pipes[pipe]?).getD []
            let room := pipeCapacity - waiting.length
            if !machine.isHeld (.pipeReader pipe) then some (.error .brokenPipe, machine)
            else if room = 0 && !bytes.isEmpty then none
            else
              let taken := bytes.take room
              some (.ok taken.length,
                { machine with pipes := machine.pipes.set! pipe (waiting ++ taken) })

end Machine

end JobShell
