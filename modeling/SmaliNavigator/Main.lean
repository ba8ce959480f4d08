import SmaliNavigator.CommandLine
import SmaliNavigator.Server
import SmaliNavigator.Server.Envelope

/-!
The program. It looks at the disk, lets the library decide, and prints.
-/

set_option autoImplicit false

namespace SmaliNavigator.Program

def entryText (entry : EntryNames) : String :=
  "/" ++ (Disk.ofNames entry).text

def addFile (entry : EntryNames) (disk : Disk) : IO Disk := do
  try
    let bytes ← IO.FS.readBinFile (entryText entry)
    match String.fromUTF8? bytes with
    | some text => return disk.addFile entry text
    | none => return disk
  catch _ => return disk

/-- Adds a file, or all files below a directory; a link to a directory is not followed. -/
partial def addTree (entry : EntryNames) (disk : Disk) : IO Disk := do
  let here := (← IO.currentDir) / entryText entry
  if ← here.isDir then
    let mut disk := disk.addDirectory entry
    for below in ← here.readDir do
      let isLink := (← below.path.symlinkMetadata).type == .symlink
      unless isLink && (← below.path.isDir) do
        disk ← addTree (entry ++ [Text.encodeUtf8 below.fileName.toList]) disk
    return disk
  else addFile entry disk

def readDisk (paths : List Path) : IO Disk := do
  let nowhere := Disk.empty []
  let mut disk := Disk.empty (nowhere.nominal (.ofString (← IO.currentDir).toString))
  for p in paths do
    let entry := disk.nominal p
    for passed in disk.passed p do
      if ← ((← IO.currentDir) / entryText passed).isDir then disk := disk.addDirectory passed
    for (dir,_) in Disk.splits entry do
      disk ← addFile (dir ++ [Text.encodeUtf8 IgnoreFile.fileName.toList]) disk
    disk ← addTree entry disk
  return disk

def pathsOf : Command → List Path
  | .index root _ | .hierarchy root _ | .refs root _ => [root]
  | .serve | .help | .version => []

/-- Reads the lines in front of a message, and gives its length; nothing at the end of the input. -/
partial def readLength (input : IO.FS.Stream) (length? : Option Nat) : IO (Option Nat) := do
  let line ← input.getLine
  if line.isEmpty then return none
  else if line.trimAscii.isEmpty then
    match length? with
    | some n => return some n
    | none => readLength input none
  else readLength input ((Envelope.length? line).or length?)

partial def readBytes (input : IO.FS.Stream) (left : Nat) (bytes : ByteArray) : IO ByteArray := do
  if left = 0 then return bytes
  let more ← input.read left.toUSize
  if more.isEmpty then return bytes
  readBytes input (left - more.size) (bytes ++ more)

def send (output : IO.FS.Stream) (j : Json) : IO Unit := do
  output.putStr (Envelope.frame j)
  output.flush

partial def serve (input output : IO.FS.Stream) (budget? : Option String) (requests : Nat)
    (s : Server) : IO Unit := do
  match ← readLength input none with
  | none => return ()
  | some n =>
    let bytes ← readBytes input n ByteArray.empty
    match (String.fromUTF8? bytes).bind Envelope.ofString? with
    | none => serve input output budget? requests s
    | some e =>
      let roots := (s.session?.map (·.workspace.root)).toList
      let disk ← readDisk (roots ++ e.message.paths)
      let turn := s.handle ⟨disk,budget?⟩ e.message
      if let some reply := e.id?.bind (Envelope.ofReply? · turn.reply) then send output reply
      for report in turn.published do
        send output (Envelope.notification "textDocument/publishDiagnostics" report)
      for (method,params) in turn.sent do
        send output (Envelope.request requests method params)
      if turn.server.phase = .ended then return ()
      else serve input output budget? (requests + turn.sent.length) turn.server

end SmaliNavigator.Program

open SmaliNavigator Program in
def main (args : List String) : IO UInt32 := do
  let budget? ← IO.getEnv Config.budgetVariable
  match Command.ofArgs? args with
  | some .serve =>
    serve (← IO.getStdin) (← IO.getStdout) budget? 0 Server.new
    return 0
  | c? =>
    let disk ← readDisk ((c?.map pathsOf).getD [])
    let o := Outcome.ofArgs ⟨disk,budget?⟩ args
    IO.print o.output
    if let some reason := o.failure? then IO.eprintln reason
    if c?.isNone then IO.eprint Command.usage
    return UInt32.ofNat o.code
