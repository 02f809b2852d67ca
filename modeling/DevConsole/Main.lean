import DevConsole.Console.Piped
import Std.Time.DateTime.Timestamp

/-!
# The command line

Runs a session on the lines of the standard input. The first argument, or else the variable
`DEVTERM_CONFIG`, names the configuration file. What the store changes on its disk is carried over
to the file system after every line.
-/

namespace DevConsole.CommandLine

/-! ## The file system -/

/-- What the file system has under a path, as far as it can be read. -/
def look (path : String) : IO (Option DiskNode) := do
  let place := (← IO.currentDir) / path
  if ← place.isDir then return some .directory
  try return some (.file (← IO.FS.readFile place))
  catch _ => return none

/-- The path of the scratch file of a store. -/
def scratchPath (stateFile : String) : String :=
  ((FileStore.scratch ⟨stateFile, []⟩).visited.getLast?).getD ""

/-- The paths a store can change: those on the way to its file, the file, and its scratch file. -/
def pathsOf (stateFile : String) : List String :=
  (Location.parse stateFile).visited ++ [scratchPath stateFile]

/-- The disk around a state file. -/
def mount (stateFile : String) : IO Disk :=
  (pathsOf stateFile).foldlM (fun disk path => do
    match ← look path with
    | some node => return Entries.insert path node disk
    | none => return disk) []

/-- Writes a file by way of the scratch file, so that it is never seen half written. -/
def replaceFile (scratch path content : String) : IO Unit := do
  IO.FS.writeFile scratch content
  if scratch ≠ path then IO.FS.rename scratch path

/-- Makes the file system follow from one picture of the disk to the next. What cannot be written is
reported, and the session goes on. -/
def carryOver (stateFile : String) (before after : Disk) : IO Unit := do
  let scratch := scratchPath stateFile
  for (path, node) in after do
    if before.find? path ≠ some node then
      try
        match node with
        | .directory => IO.FS.createDirAll path
        | .file content => replaceFile scratch path content
      catch e => IO.eprintln (path ++ ": " ++ toString e)

/-! ## Clocks and input -/

/-- The clock of the host, for a session that started at `start` nanoseconds. -/
def readClock (start : Nat) : IO Clock := do
  let unix := (← Std.Time.Timestamp.now).toSecondsSinceUnixEpoch.val.toNat
  return { unix, uptime := ((← IO.monoNanosNow) - start) / Instant.second }

/-- A random source that depends on the time. -/
def readRandom : IO Random := do
  return ⟨UInt64.ofNat (← Std.Time.Timestamp.now).toNanosecondsSinceUnixEpoch.val.toNat⟩

/-- Reads the octets of a line, and whether a line feed ended it. -/
partial def readOctets (input : IO.FS.Stream) (octets : Array UInt8) : IO (Array UInt8 × Bool) := do
  match (← input.read 1).toList with
  | [] => return (octets, false)
  | octet :: _ => if octet = 10 then return (octets, true) else readOctets input (octets.push octet)

/-! ## Sessions -/

/-- The configuration that the arguments and the environment ask for; the usual one where it cannot
be read. -/
def readConfig (args : List String) : IO Config := do
  let named := args.head? <|> (← IO.getEnv Piped.configVariable)
  let path := named.getD Piped.usualConfigFile
  let bytes ← try some <$> IO.FS.readBinFile path catch _ => pure none
  match Config.load bytes with
  | .ok config => return config
  | .error e =>
    IO.eprintln (path ++ ": " ++ e.message ++ "; using defaults")
    return {}

/-- Runs line after line. -/
partial def serve (stateFile : String) (start : Nat) (p : Piped) : IO Piped.Ending := do
  let (octets, closed) ← readOctets (← IO.getStdin) #[]
  if octets.isEmpty && !closed then return .finished
  match Piped.lineOf? closed octets.toList with
  | none => return .unreadable
  | some line =>
    match (p.withClock (← readClock start)).runLine ⟨← IO.monoNanosNow⟩ line with
    | .error a => return .aborted a
    | .ok (text, next) =>
      IO.print text
      (← IO.getStdout).flush
      carryOver stateFile p.disk next.disk
      if next.shell.exitRequested then return .finished else serve stateFile start next

/-- Runs a whole session, and gives the code to exit with. -/
def run (args : List String) : IO UInt32 := do
  let config ← readConfig args
  let start ← IO.monoNanosNow
  let colored ← (← IO.getStdout).isTty
  let disk ← mount config.stateFile
  let (text, p) := Piped.start config disk (← readClock start) (← readRandom) colored
  IO.print text
  carryOver config.stateFile disk p.disk
  return UInt32.ofNat (← serve config.stateFile start p).code

end DevConsole.CommandLine

def main (args : List String) : IO UInt32 := DevConsole.CommandLine.run args
