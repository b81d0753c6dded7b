import JobShell.Programs.Scripting.Expansion

/-!
# Redirections

The streams that a command uses are opened before it is run and restored afterwards.  A
stream that is replaced is kept by a descriptor that other programs do not get.
-/

namespace JobShell.Programs.Scripting

open JobShell.Machine

/-- A redirection with its target expanded. -/
inductive Connection where
  | file (stream : Descriptor) (opening : Opening) (name : String)
  | duplicate (stream source : Descriptor)
  | close (stream : Descriptor)
  | document (stream : Descriptor) (word : Word)

def Connection.stream : Connection → Descriptor
  | .file stream _ _ | .duplicate stream _ | .close stream | .document stream _ => stream

variable (run : InnerRunner)

/-- Expands the target of a redirection. -/
def connection : Redirection → Shell Connection
  | .file stream opening name => do
      pure (.file stream opening (← expandText run name))
  | .duplicate stream source => do
      let text ← expandText run source
      match text.toList with
      | ['-'] => pure (.close stream)
      | [digit] =>
          if digit.isDigit then pure (.duplicate stream (digit.toNat - '0'.toNat)) else refuse
      | _ => refuse
  | .document stream number => do
      pure (.document stream (((← get).documents[number]?).getD []))
where
  refuse : Shell Connection := do
    modify fun state => { state with line := state.readLine }
    Shell.fail "Syntax error: Bad fd number"

/-! ## Opening -/

def Opening.mode : Opening → OpenMode
  | .reads => { reads := true }
  | .readsAndWrites => { reads := true, writes := true, creates := true }
  | .writes | .overwrites => { writes := true, creates := true, truncates := true }
  | .appends => { writes := true, creates := true, appends := true }

/-- What is said about a file that cannot be opened. -/
def openingText (mode : OpenMode) (name : String) (errno : Errno) : String :=
  let isAbsent := errno = .noEntry || errno = .notDirectory
  if mode.creates then
    "cannot create " ++ name ++ ": "
      ++ (if isAbsent then "Directory nonexistent" else errno.systemText)
  else
    "cannot open " ++ name ++ ": " ++ (if isAbsent then "No such file" else errno.systemText)

/-- The mode in which a file is opened, which an existing file may forbid. -/
def guardedMode (opening : Opening) (name : String) : Shell OpenMode := do
  let mode := opening.mode
  if opening ≠ .writes || !(← get).isOn "noclobber" then pure mode
  else
    match ← Shell.act (Action.inspect (Text.bytesOf name) true) with
    | .error _ => pure mode
    | .ok attributes =>
        match attributes.content with
        | .file _ | .program _ => Shell.fail (openingText mode name .exists)
        | _ => pure { mode with truncates := false }

/-- Permissions of new files, as far as the mask allows them. -/
def newPermissions : Nat := 0o666

def openFile (opening : Opening) (name : String) : Shell Descriptor := do
  let mode ← guardedMode opening name
  match ← Shell.act (Action.openPath (Text.bytesOf name) mode newPermissions) with
  | .ok descriptor => pure descriptor
  | .error errno => Shell.fail (openingText mode name errno)

/-- The length up to which a text is put into a pipe at once. -/
def documentLimit : Nat := 4096

/-- A descriptor from which a text can be read. -/
def openText (text : String) : Shell Descriptor := do
  let bytes := Text.bytesOf text
  let ends ← Shell.act Action.openPipe
  if bytes.length ≤ documentLimit then
    let _ ← Shell.act (Action.writeAll ends.writeEnd bytes)
  else
    let _ ← Shell.act <| Action.fork do
      Action.close ends.readEnd
      let _ ← Action.writeAll ends.writeEnd bytes
      pure 0
  Shell.act (Action.close ends.writeEnd)
  pure ends.readEnd

/-! ## Connecting -/

/-- The first descriptor that keeps a stream. -/
def firstKept : Descriptor := 10

/-- Keeps a stream that is going to be replaced, unless it has been kept already. -/
def keepStream (stream : Descriptor) : Shell Unit := do
  let state ← get
  match state.streams with
  | [] => pure ()
  | current :: outer =>
      if current.any fun entry => entry.1 = stream then pure ()
      else
        let count := (state.streams.flatMap fun frame => frame.filterMap Prod.snd).length
        let keeper := firstKept + count
        let kept ← match ← Shell.act (Action.duplicate stream keeper) with
          | .ok () => do
              Shell.act (Action.handOn keeper false)
              pure (some keeper)
          | .error _ => pure none
        set { state with streams := ((stream, kept) :: current) :: outer }

/-- Makes an open file one of the streams. -/
def attach (stream descriptor : Descriptor) : Shell Unit := do
  if descriptor = stream then Shell.act (Action.handOn stream true)
  else
    keepStream stream
    let _ ← Shell.act (Action.duplicate descriptor stream)
    Shell.act (Action.close descriptor)

/-- Notes that a stream was not open before. -/
def keepClosed (stream : Descriptor) : Shell Unit :=
  modify fun state =>
    match state.streams with
    | [] => state
    | current :: outer =>
        if current.any fun entry => entry.1 = stream then state
        else { state with streams := ((stream, none) :: current) :: outer }

def connect : Connection → Shell Unit
  | .file stream opening name => do
      let descriptor ← openFile opening name
      if descriptor = stream then keepClosed stream
      attach stream descriptor
  | .document stream word => do
      let descriptor ← openText (← expandDocument run word)
      if descriptor = stream then keepClosed stream
      attach stream descriptor
  | .close stream => do
      keepStream stream
      Shell.act (Action.close stream)
  | .duplicate stream source => do
      if source ≠ stream then
        keepStream stream
        match ← Shell.act (Action.duplicate source stream) with
        | .ok () => pure ()
        | .error errno => Shell.fail (toString source ++ ": " ++ errno.systemText)

/-- Connects streams; a mistake is reported, and the result says whether there was none. -/
def connectAll (connections : List Connection) : Shell Bool := do
  try
    connections.forM (connect run)
    pure true
  catch
    | .mistake => pure false
    | other => throw other

/-! ## Restoring -/

/-- Restores the streams that have been kept last, or leaves them as they are. -/
def restoreStreams (leaves : Bool) : Shell Unit := do
  let state ← get
  for (stream, kept) in state.streams.headD [] do
    match kept with
    | some keeper => do
        if !leaves then
          let _ ← Shell.act (Action.duplicate keeper stream)
        Shell.act (Action.close keeper)
    | none => if !leaves then Shell.act (Action.close stream)
  set { state with streams := state.streams.tail }

/-- Connects streams, does something, and restores them.  The action is told whether the
streams could be connected; nothing is restored at its end if it is `permanent`. -/
def withStreams (permanent : Bool) (redirections : List Redirection)
    (action : Bool → Shell Unit) : Shell Unit := do
  let connections ← redirections.mapM (connection run)
  if connections.isEmpty then action true
  else
    modify fun state => { state with streams := [] :: state.streams }
    try
      action (← connectAll run connections)
    catch interruption =>
      restoreStreams false
      throw interruption
    restoreStreams permanent

/-- Connects the streams of a process for good. -/
def connectForGood (connections : List Connection) : Shell Unit := do
  let outer := (← get).streams
  modify fun state => { state with streams := [] }
  connections.forM (connect run)
  modify fun state => { state with streams := outer }

/-- Makes an open file one of the streams of a process that does not need it otherwise. -/
def install (descriptor stream : Descriptor) : Action Unit := do
  if descriptor = stream then Action.handOn stream true
  else
    let _ ← Action.duplicate descriptor stream
    Action.close descriptor

end JobShell.Programs.Scripting
