import DevConsole.Command.Action
import DevConsole.Files.Drawing
import DevConsole.Files.Redirect

/-!
# Commands of the file system mode

Listing, moving around, making, reading, writing and removing entries, and drawing the tree.
Commands that change the tree take a name in the working directory, the others a path.
-/

namespace DevConsole

open Files

inductive Filing where
  | ls
  | cd
  | pwd
  | mkdir
  | touch
  | cat
  | echo
  | rm
  | tree
  deriving DecidableEq, Repr

namespace Filing

def all : List Filing := [.ls, .cd, .pwd, .mkdir, .touch, .cat, .echo, .rm, .tree]

def info : Filing → Info
  | .ls => ⟨"ls", "List directory contents", "ls [path]"⟩
  | .cd => ⟨"cd", "Change directory", "cd [path]"⟩
  | .pwd => ⟨"pwd", "Print working directory", "pwd"⟩
  | .mkdir => ⟨"mkdir", "Create directory", "mkdir <name>"⟩
  | .touch => ⟨"touch", "Create file", "touch <filename>"⟩
  | .cat => ⟨"cat", "Display file content", "cat <filename>"⟩
  | .echo =>
    ⟨"echo", "Write to file (e.g., echo \"text\" > file.txt)", "echo \"<text>\" > <name>"⟩
  | .rm => ⟨"rm", "Remove file/directory", "rm <name>"⟩
  | .tree => ⟨"tree", "Show directory tree", "tree"⟩

variable {σ ν : Type} [Backend σ]

/-- The working directory. -/
def cwd : Action σ ν Path := do return (← get).session.cwd

/-- A row of a listing; directories are marked with a slash. -/
def listedText (e : Listed) : String := if e.isDirectory then e.name ++ "/" else e.name

def listingText (entries : List Listed) : String :=
  if entries.isEmpty then "(empty)" else Text.joinWith "\n" (entries.map listedText)

def runLs (args : List String) : Action σ ν Output := do
  let target := Path.resolve (args.headD ".") (← cwd)
  return .text (listingText (← Action.readTree (·.list target)))

def runCd (args : List String) (profile : Profile) : Action σ ν Output := do
  Action.onDirectory (·.enter (args.headD profile.home.render))
  return .nothing

def runMkdir (args : List String) : Action σ ν Output := do
  let name ← Action.required args.head? "Usage: mkdir <name>"
  let here ← cwd
  Action.onVolume (Volume.makeDirectory here name)
  return .text ("Directory created: " ++ name)

def runTouch (args : List String) : Action σ ν Output := do
  let name ← Action.required args.head? "Usage: touch <filename>"
  let here ← cwd
  Action.onVolume (Volume.createFile here name)
  return .text ("File created: " ++ name)

def runRm (args : List String) : Action σ ν Output := do
  let name ← Action.required args.head? "Usage: rm <name>"
  let here ← cwd
  Action.onVolume (Volume.remove here name)
  return .text ("Removed: " ++ name)

def runCat (args : List String) : Action σ ν Output := do
  let name ← Action.required args.head? "Usage: cat <filename>"
  let path := Path.resolve name (← cwd)
  return .text (← Action.readTree (·.read path))

/-- Writes the text of a redirecting line into its file, and gives back the words of any other. -/
def runEcho (call : Call) : Action σ ν Output :=
  match Redirect.parse? call.rest with
  | none => return .text (Text.joinWith " " call.args)
  | some r => do
    let here ← cwd
    Action.onVolume (Volume.writeFile here r.name r.content)
    return .text ("Written to " ++ r.name)

def runTree : Action σ ν Output := do
  let here ← cwd
  let walk ← Action.readTree (·.walk here)
  return .text (Text.joinWith "\n" (here.render :: draw walk))

def run (c : Filing) (call : Call) : Action σ ν Output :=
  match c with
  | .ls => runLs call.args
  | .cd => runCd call.args call.profile
  | .pwd => do return .text (← cwd).render
  | .mkdir => runMkdir call.args
  | .touch => runTouch call.args
  | .cat => runCat call.args
  | .echo => runEcho call
  | .rm => runRm call.args
  | .tree => runTree

end Filing

end DevConsole
