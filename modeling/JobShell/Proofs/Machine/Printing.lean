import JobShell.Machine.System

/-!
# What printing changes

A shell that prints to one of its descriptors starts no process and opens nothing.  Of
all files only the one that the descriptor leads to can change, and that in content only.
-/

namespace JobShell.Machine

/-- What a descriptor of the shell leads to. -/
def shellTarget? (machine : Machine) (descriptor : Descriptor) : Option Target :=
  (machine.openFile? machine.shell descriptor).map fun opened => opened.2.target

/-- At most what the descriptor leads to has been written to. -/
structure Prints (before : Machine) (descriptor : Descriptor) (after : Machine) : Prop where
  members : after.members = before.members
  shell : after.shell = before.shell
  nextPid : after.nextPid = before.nextPid
  clock : after.clock = before.clock
  alarm : after.alarm = before.alarm
  recorder : after.recorder = before.recorder
  pipes : after.pipes.size = before.pipes.size
  opened : ∀ id : FileId,
    after.opened[id]?.map OpenFile.target = before.opened[id]?.map OpenFile.target
  nodes : after.files.nodes.size = before.files.nodes.size
  untouched : ∀ inode : Inode, before.shellTarget? descriptor ≠ some (.node inode) →
    after.files.node? inode = before.files.node? inode

theorem Prints.refl (machine : Machine) (descriptor : Descriptor) :
    machine.Prints descriptor machine where
  members := rfl
  shell := rfl
  nextPid := rfl
  clock := rfl
  alarm := rfl
  recorder := rfl
  pipes := rfl
  opened _ := rfl
  nodes := rfl
  untouched _ _ := rfl

namespace Files

variable (files : Files) (inode : Inode) (offset : Nat) (bytes : Bytes)

theorem size_writeAt : (files.writeAt inode offset bytes).nodes.size = files.nodes.size := by
  rw [writeAt]
  split
  · exact Array.size_modify
  · rfl

theorem node?_writeAt {other : Inode} (hother : inode ≠ other) :
    (files.writeAt inode offset bytes).node? other = files.node? other := by
  rw [writeAt]
  split
  · rw [setContent, node?, node?, Array.getElem?_modify, if_neg hother]
  · rfl

end Files

theorem target_setOffset (machine : Machine) (file : FileId) (offset : Nat) (id : FileId) :
    (machine.setOffset file offset).opened[id]?.map OpenFile.target =
      machine.opened[id]?.map OpenFile.target := by
  rw [setOffset, Array.getElem?_modify]
  split
  · rw [Option.map_map]
    rfl
  · rfl

theorem prints_writeTo (machine : Machine) (descriptor : Descriptor) (bytes : Bytes)
    {answer : Except Errno Nat} {next : Machine}
    (hwrite : machine.writeTo machine.shell descriptor bytes = some (answer, next)) :
    machine.Prints descriptor next := by
  rw [writeTo] at hwrite
  split at hwrite
  · cases hwrite
    exact .refl machine descriptor
  · next id file hopen =>
      split at hwrite
      · cases hwrite
        exact .refl machine descriptor
      · split at hwrite
        · next inode htarget =>
            split at hwrite
            · cases hwrite
              exact .refl machine descriptor
            · cases hwrite
              have hleads : machine.shellTarget? descriptor = some (.node inode) := by
                rw [shellTarget?, hopen, Option.map_some, htarget]
              refine { Prints.refl machine descriptor with
                opened := target_setOffset _ id _
                nodes := machine.files.size_writeAt inode _ bytes
                untouched := ?_ }
              intro other hother
              apply machine.files.node?_writeAt
              rintro rfl
              exact hother hleads
        · cases hwrite
          exact .refl machine descriptor
        · dsimp only at hwrite
          split at hwrite
          · cases hwrite
            exact .refl machine descriptor
          · split at hwrite
            · cases hwrite
            · cases hwrite
              exact { Prints.refl machine descriptor with pipes := Array.size_setIfInBounds }

theorem prints_print (machine : Machine) (descriptor : Descriptor) (bytes : Bytes) :
    machine.Prints descriptor (machine.print descriptor bytes).2 := by
  rw [print]
  split
  case h_4 => exact .refl machine descriptor
  all_goals exact machine.prints_writeTo descriptor bytes ‹_›

end JobShell.Machine
