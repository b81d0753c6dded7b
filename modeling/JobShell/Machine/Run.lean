import JobShell.Machine.State

/-!
# Running processes

Each process makes its next call when it can; a call that has no answer yet waits.
Processes take turns in the order in which they were started.  When all of them
wait, time passes until the next sleeper wakes or the alarm goes off.  The end of
a child of the shell, and every signal sent to the shell, is noted by its recorder.
-/

namespace JobShell.Machine

/-! ## Signals and ends -/

def isForwarded : Signal → Bool
  | .quit | .alarm | .interrupt | .child => true
  | _ => false

/-- Signals that end no process. -/
def isHarmless : Signal → Bool
  | .child | .continue | .urgent | .windowChange => true
  | .stop | .terminalStop | .terminalInput | .terminalOutput => true
  | _ => false

def noteSignal (machine : Machine) (signal : Signal) : Machine :=
  { machine with recorder := machine.recorder.record signal }

/-- Keeps a signal that a process catches until the process asks for it. -/
def Member.keep (member : Member) (signal : Signal) : Member :=
  if member.pending.contains signal then member
  else { member with pending := member.pending ++ [signal] }

/-- Tells a process about the end of a child. -/
def tellParent (machine : Machine) (parent : Pid) : Machine :=
  if parent = machine.shell.pid then machine.noteSignal .child
  else
    match machine.member? parent with
    | some member =>
        if member.caught.contains .child then machine.update (member.keep .child) else machine
    | none => machine

/-- Ends a process: its descriptors are closed, and its parent is told. -/
def finish (machine : Machine) (member : Member) (status : WaitStatus) : Machine :=
  let machine := machine.update { member with descriptors := [], activity := .ended status }
  machine.tellParent member.identity.parent

def deliver (machine : Machine) (signal : Signal) (member : Member) : Machine :=
  if member.pid = machine.shell.pid then
    if isForwarded signal then machine.noteSignal signal else machine
  else if member.hasEnded then machine
  else if signal ≠ .kill && member.caught.contains signal then
    machine.update (member.keep signal)
  else if isHarmless signal || (member.ignored.contains signal && signal ≠ .kill) then machine
  else machine.finish member (.signaled signal false)

/-- The processes that a number stands for: one process, or a group. -/
def addressees (machine : Machine) (sender : Identity) (pid : Pid) : List Member :=
  machine.everyone.filter fun member =>
    if pid > 0 then member.pid = pid
    else if pid = 0 then member.identity.group = sender.group
    else member.identity.group = -pid

def kill (machine : Machine) (sender : Identity) (pid : Pid) (signal : Option Signal) :
    Except Errno Unit × Machine :=
  match machine.addressees sender pid, signal with
  | [], _ => (.error .noProcess, machine)
  | _, none => (.ok (), machine)
  | members, some signal =>
      (.ok (), members.foldl (fun machine member => machine.deliver signal member) machine)

/-! ## Children -/

def children (machine : Machine) (parent : Identity) (pid : Pid) : List Member :=
  machine.members.filter fun member =>
    member.identity.parent = parent.pid
      && (if pid > 0 then member.pid = pid
          else if pid = -1 then true
          else if pid = 0 then member.identity.group = parent.group
          else member.identity.group = -pid)

/-- Numbers for which there can be no group. -/
def isImpossiblePid (pid : Pid) : Bool :=
  pid ≤ -2147483648

/-- The status of a child, which is forgotten once its end has been told. -/
def askFor (machine : Machine) (parent : Identity) (pid : Pid) :
    Except Errno WaitStatus × Machine :=
  if isImpossiblePid pid then (.error .noProcess, machine)
  else
    match machine.children parent pid with
    | [] => (.error .noChild, machine)
    | candidates =>
        match candidates.find? Member.hasEnded with
        | none => (.ok .alive, machine)
        | some child =>
            let rest := machine.members.filter fun member => member.pid ≠ child.pid
            let machine := { machine with members := rest }
            match child.activity with
            | .ended status => (.ok status, machine)
            | _ => (.ok .alive, machine)

/-- Adds a process that has everything from its parent but its numbers. -/
def addMember (machine : Machine) (parent : Member) (group : Option Pid) (behavior : Behavior) :
    Pid × Machine :=
  let pid := machine.nextPid
  let child : Member :=
    { parent with
      identity := { pid, parent := parent.pid, group := group.getD pid }
      pending := []
      activity := .ready behavior }
  (pid, { machine with members := machine.members ++ [child], nextPid := pid + 1 })

/-! ## Programs -/

def isSpace (byte : UInt8) : Bool :=
  byte = 32 || byte = 9

/-- How many bytes of a file are looked at to find its interpreter. -/
def headerSize : Nat := 256

/-- The bytes of a file that are looked at; a short file is filled up with zeros. -/
def headerOf (content : Bytes) : Bytes :=
  content.take headerSize ++ List.replicate (headerSize - content.length) 0

def trimEnd (bytes : Bytes) : Bytes :=
  (bytes.reverse.dropWhile isSpace).reverse

/-- The first line of a header.  A line that does not end in it may be cut off
behind the interpreter's name, but not within. -/
def headerLine? (header : Bytes) : Option Bytes :=
  let visible := header.takeWhile (· ≠ 0)
  let line := visible.takeWhile (· ≠ Text.newline)
  if line.length < visible.length then some line
  else if ((header.drop 2).dropWhile isSpace).any fun byte => isSpace byte || byte = 0 then
    some header.dropLast
  else none

/-- The program that a file names in its first line, and the argument for it, which
ends at a zero. -/
def interpreter? (content : Bytes) : Option (List Bytes) :=
  if content.take 2 = [35, 33] then
    match headerLine? (headerOf content) with
    | none => none
    | some line =>
        match ((trimEnd line).drop 2).dropWhile isSpace with
        | [] => none
        | rest =>
            let name := rest.takeWhile fun byte => !isSpace byte && byte ≠ 0
            match rest.drop name.length with
            | [] | 0 :: _ => some [name]
            | argument => some [name, (argument.dropWhile isSpace).takeWhile (· ≠ 0)]
  else none

/-- The length from which on an argument or a variable is too long. -/
def argumentLimit : Nat := 131072

/-- How much room there is for all arguments and variables together. -/
def argumentsLimit : Nat := 2097152

/-- Whether arguments and variables can be handed to a program. -/
def fits (path : Bytes) (argv : List Bytes) (environment : Environment) : Bool :=
  let pairs := environment.entries.map fun entry =>
    (Text.encode entry.1).length + 1 + entry.2.length
  let lengths := argv.map List.length ++ pairs
  lengths.all (· < argumentLimit)
    && path.length + 1 + (lengths.map (· + 9)).foldl (· + ·) 0 ≤ argumentsLimit

/-- The behavior that a path stands for.  Files that name an interpreter may name
such a file in turn, up to the given depth. -/
def load (machine : Machine) (directory : Inode) (environment : Environment) :
    Nat → Bytes → List Bytes → Except Errno Behavior
  | 0, _, _ => .error .tooManyLinks
  | depth + 1, path, argv =>
      match machine.files.attributes {} directory path with
      | .error errno => .error errno
      | .ok attributes =>
          if attributes.permissions &&& 0o111 = 0
              || !machine.files.allows attributes.inode Rights.search then .error .accessDenied
          else if !fits path argv environment then .error .argumentsTooLong
          else
            match attributes.content with
            | .program name =>
                match machine.programs name with
                | some program => .ok (program argv environment)
                | none => .error .notExecutable
            | .file content =>
                match interpreter? content with
                | some (name :: argument) =>
                    load machine directory environment depth name
                      (name :: argument ++ path :: argv.tail)
                | _ => .error .notExecutable
            | _ => .error .accessDenied

def interpreterDepth : Nat := 6

/-! ## Calls -/

def proceed (machine : Machine) (member : Member) (next : Behavior) : Machine :=
  machine.update { member with activity := .ready next }

/-- Ends a call that has to wait, if the process has caught a signal. -/
def interrupt (machine : Machine) (member : Member) (next : Behavior) : Option Machine :=
  if member.pending.isEmpty then none else some (machine.proceed member next)

/-- Makes a process's next call; nothing if the process has to wait. -/
def call (machine : Machine) (member : Member) : Behavior → Option Machine
  | .exit code => some (machine.finish member (.exited (code % 256 : Nat)))
  | .read source count next =>
      match machine.readFrom member source count with
      | some (answer, machine) => some (machine.proceed member (next answer))
      | none => machine.interrupt member (next (.error .interrupted))
  | .write target bytes next =>
      (machine.writeTo member target bytes).map fun (answer, machine) =>
        match answer with
        | .error .brokenPipe =>
            if member.ignored.contains .pipe then machine.proceed member (next answer)
            else machine.deliver .pipe member
        | _ => machine.proceed member (next answer)
  | .openPath path mode permissions next =>
      let (answer, member, machine) := machine.openPath member path mode permissions
      some (machine.proceed member (next answer))
  | .close descriptor next =>
      let member := { member with descriptors := member.descriptors.close descriptor }
      some (machine.proceed member next)
  | .duplicate source target next =>
      match member.descriptors.get? source with
      | none => some (machine.proceed member (next (.error .badDescriptor)))
      | some slot =>
          let slot := if source = target then slot else { slot with closesOnExecute := false }
          let member := { member with descriptors := member.descriptors.set target slot }
          some (machine.proceed member (next (.ok ())))
  | .handOn descriptor allowed next =>
      let member := match member.descriptors.get? descriptor with
        | some slot =>
            let slot := { slot with closesOnExecute := !allowed }
            { member with descriptors := member.descriptors.set descriptor slot }
        | none => member
      some (machine.proceed member next)
  | .openPipe next =>
      let (ends, member, machine) := machine.openPipe member
      some (machine.proceed member (next ends))
  | .fork child next =>
      let (pid, machine) := machine.addMember member (some member.identity.group) child
      some (machine.proceed member (next pid))
  | .joinGroup group next =>
      let identity := { member.identity with group := group.getD member.pid }
      some (machine.proceed { member with identity } next)
  | .execute path argv environment next =>
      match machine.load member.directory environment interpreterDepth path argv with
      | .error errno => some (machine.proceed member (next errno))
      | .ok behavior =>
          let member :=
            { member with
              descriptors := member.descriptors.onExecute, caught := [], pending := [] }
          some (machine.proceed member behavior)
  | .wait pid blocks next =>
      match machine.askFor member.identity pid with
      | (.ok .alive, _) =>
          if blocks then machine.interrupt member (next (.error .interrupted))
          else some (machine.proceed member (next (.ok .alive)))
      | (answer, machine) => some (machine.proceed member (next answer))
  | .kill pid signal next =>
      let machine := machine.proceed member (next (.ok ()))
      match machine.kill member.identity pid signal with
      | (.ok (), machine) => some machine
      | (.error errno, machine) => some (machine.proceed member (next (.error errno)))
  | .react signal reaction next =>
      let before : Reaction := if member.ignored.contains signal then .ignores
        else if member.caught.contains signal then .catches else .byDefault
      let without := member.caught.filter (· ≠ signal)
      let heeded := member.ignored.filter (· ≠ signal)
      let member := match reaction with
        | .byDefault => { member with ignored := heeded, caught := without }
        | .ignores => { member with ignored := signal :: heeded, caught := without }
        | .catches => { member with ignored := heeded, caught := signal :: without }
      some (machine.proceed member (next before))
  | .takeCaught next =>
      some (machine.proceed { member with pending := [] } (next member.pending))
  | .seek source origin offset next =>
      let (answer, machine) := machine.seek member source origin offset
      some (machine.proceed member (next answer))
  | .sleep nanoseconds next =>
      some (machine.update
        { member with activity := .sleeping (machine.clock + nanoseconds) next })
  | .identify next => some (machine.proceed member (next member.identity))
  | .inspect path follows next =>
      some (machine.proceed member (next (machine.attributesAt member path follows)))
  | .inspectOpen source next =>
      some (machine.proceed member (next (machine.attributesOf member source)))
  | .modeOf source next => some (machine.proceed member (next (machine.modeOf member source)))
  | .list path next =>
      some (machine.proceed member (next (machine.files.list member.directory path)))
  | .removeDirectory path next =>
      match machine.files.removeDirectory member.directory path with
      | .ok files => some ({ machine with files }.proceed member (next (.ok ())))
      | .error errno => some (machine.proceed member (next (.error errno)))
  | .changeDirectory path next =>
      match machine.files.enter member.directory path with
      | .ok directory => some (machine.proceed { member with directory } (next (.ok ())))
      | .error errno => some (machine.proceed member (next (.error errno)))
  | .workingDirectory next =>
      some (machine.proceed member (next (machine.files.pathOf member.directory)))
  | .mask permissions next =>
      let changed := { member with mask := permissions.getD member.mask }
      some (machine.proceed changed (next member.mask))

/-- Lets a process go on by one step; nothing if it has to wait or has ended. -/
def step (machine : Machine) (member : Member) : Option Machine :=
  match member.activity with
  | .ready next => machine.call member next
  | .sleeping time next =>
      if time ≤ machine.clock then some (machine.proceed member next) else none
  | .ended _ => none

/-! ## Taking turns -/

/-- How many steps a process takes in one turn at most. -/
def turnLength : Nat := 32

/-- One turn of a process, up to a state in which `stop` holds.  The first result
says whether it took any step. -/
def turn (stop : Machine → Bool) (pid : Pid) : Nat → Machine → Bool × Machine
  | 0, machine => (true, machine)
  | steps + 1, machine =>
      if stop machine then (true, machine)
      else
        match machine.members.find? fun member => member.pid = pid with
        | none => (false, machine)
        | some member =>
            match machine.step member with
            | none => (false, machine)
            | some machine => (true, (turn stop pid steps machine).2)

/-- One turn of each process. -/
def round (stop : Machine → Bool) : List Pid → Machine → Bool × Machine
  | [], machine => (false, machine)
  | pid :: rest, machine =>
      let (moved, machine) := turn stop pid turnLength machine
      let (othersMoved, machine) := round stop rest machine
      (moved || othersMoved, machine)

/-- When the next sleeper wakes or the alarm goes off. -/
def nextEvent? (machine : Machine) : Option Nat :=
  let sleepers := machine.members.filterMap fun member =>
    match member.activity with
    | .sleeping time _ => some time
    | _ => none
  (machine.alarm.toList ++ sleepers).min?

/-- Moves the clock to a time. -/
def passTo (machine : Machine) (time : Nat) : Machine :=
  let machine := { machine with clock := max machine.clock time }
  match machine.alarm with
  | some due =>
      if due ≤ machine.clock then { machine with alarm := none }.noteSignal .alarm else machine
  | none => machine

/-- Lets the processes run until `stop` holds or nothing can happen any more;
`rounds` bounds how long. -/
def runUntil (stop : Machine → Bool) : Nat → Machine → Machine
  | 0, machine => machine
  | rounds + 1, machine =>
      if stop machine then machine
      else
        match round stop (machine.members.map Member.pid) machine with
        | (true, machine) => runUntil stop rounds machine
        | (false, machine) =>
            match machine.nextEvent? with
            | none => machine
            | some time => runUntil stop rounds (machine.passTo time)

/-- How many rounds the processes get before they are given up. -/
def roundLimit : Nat := 10000000

/-- Whether none of the processes is still running. -/
def haveEnded (machine : Machine) (pids : List Pid) : Bool :=
  machine.members.all fun member => member.hasEnded || !pids.contains member.pid

/-- Runs until the given processes have ended, without telling anyone. -/
def awaitEnd (machine : Machine) (pids : List Pid) : Machine :=
  machine.runUntil (fun machine => machine.haveEnded pids) roundLimit

/-- Runs until every process has ended. -/
def awaitAll (machine : Machine) : Machine :=
  machine.runUntil (fun machine => machine.members.all Member.hasEnded) roundLimit

end JobShell.Machine
