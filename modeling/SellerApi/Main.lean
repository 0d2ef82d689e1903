import SellerApi.Client.Recording
import SellerApi.Command.Run

/-! # The program

The outer layer of the command line: it looks at the machine, runs the command and carries out what
the run decided. The replies of the server come from the standard input; without any, the server
cannot be reached. Results go to the standard output, all else to the standard error output. -/

namespace SellerApi.Command

/-- A disk that also has what the machine has at a path. -/
def lookAt (d : Disk) (path : String) : IO Disk := do
  let place := (← IO.currentDir) / path
  if ← place.isDir then return { d with folders := path :: d.folders }
  else if ← place.pathExists then
    return d.put path (.octets (← IO.FS.readBinFile place).toList)
  else return d

/-- The disk as far as a command can see it. -/
def lookFor (i : Invocation) : IO Disk :=
  let paths := i.config.toList ++ i.output.toList
  (paths ++ paths.map Disk.folderOf).foldlM lookAt {}

/-- The variables that matter and are set. -/
def lookUp : IO Environment :=
  [baseUrlVariable, accessTokenVariable, apiKeyVariable, timeoutVariable].filterMapM fun name => do
    return (← IO.getEnv name).map (name, ·)

/-- All octets of a stream. -/
partial def readAll (stream : IO.FS.Stream) (before : ByteArray) : IO ByteArray := do
  let chunk ← stream.read 65536
  if chunk.isEmpty then return before else readAll stream (before ++ chunk)

/-- The replies that the standard input holds; a terminal holds none. -/
def readReplies : IO (Option (List Reply)) := do
  let stdin ← IO.getStdin
  if ← stdin.isTty then return some []
  return Reply.ofLines? (← readAll stdin .empty).toList

/-- Writes the file that a run has changed. -/
def keep (before after : Disk) (path : String) : IO Unit := do
  if before.get? path != after.get? path then
    match after.get? path with
    | some (.octets octets) => IO.FS.writeBinFile path ⟨octets.toArray⟩
    | some (.parquet _) => IO.eprintln ("WARN " ++ path ++ " was laid out but not encoded")
    | none => return

def showLine : Severity × String → String
  | (.info, line) => "INFO " ++ line
  | (.warning, line) => "WARN " ++ line

/-- Runs an invocation; the result is the exit code. -/
def carryOut (i : Invocation) : IO UInt32 := do
  let some replies ← readReplies
    | IO.eprintln "Error: the standard input holds no replies"
      return 1
  let disk ← lookFor i
  let (result, session) := i.run (← lookUp) { disk, link := { replies } }
  for line in session.log do IO.eprintln (showLine line)
  IO.eprint session.stderr
  (← IO.getStdout).write ⟨session.stdout.toArray⟩
  if let some path := i.output then keep disk session.disk path
  match result with
  | .ok () => return 0
  | .error f =>
    IO.eprintln ("Error: " ++ f.message)
    return 1

end SellerApi.Command

open SellerApi SellerApi.Command

def main (args : List String) : IO UInt32 := do
  match Invocation.read args with
  | .ok i => carryOut i
  | .error .version =>
    IO.println (clientName ++ " " ++ clientVersion)
    return 0
  | .error u =>
    if u.isRequest then IO.print overview else IO.eprintln ("error: " ++ u.message)
    return if u.isRequest then 0 else 2
