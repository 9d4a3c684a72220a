import Dialogue.Tool.MessageTool
import Dialogue.Tool.ScriptCheck

/-! The command line. All that is decided is decided elsewhere; here files are read and written, lines
are read, and time passes. -/
namespace Dialogue.Main

open Tool Terminal

/-- Numbers of the operating system come as they are or negated. -/
def isCode (code number : UInt32) : Bool := code == number || code == 0 - number

def ofIOError : IO.Error → FileError
  | .noFileOrDirectory .. => .notFound
  | .inappropriateType _ code _ => if isCode code 21 then .isDirectory else .notDirectory
  | e@(.invalidArgument _ code _) => if isCode code 36 then .nameTooLong else .other (toString e)
  | e => .other (toString e)

def readPath (path : String) : IO (Except FileError ByteArray) := do
  try
    return .ok (← IO.FS.readBinFile path)
  catch e => return .error (ofIOError e)

def entryOf : IO.FS.FileType → Entry
  | .file => .file
  | .dir => .directory
  | .symlink | .other => .other

/-- What stands at a path, as far as it can be told. -/
def entryAt (path : String) : IO (Option Entry) := do
  try
    let found ← ((← IO.currentDir) / path).metadata
    return some (entryOf found.type)
  catch _ => return none

/-- The files below a directory. Links are not followed, and what cannot be looked into is passed
over. -/
partial def listBelow (directory : String) : IO (List String) := do
  let mut found := []
  try
    for entry in ← ((← IO.currentDir) / directory).readDir do
      let path := join directory entry.fileName
      match (← entry.path.symlinkMetadata).type with
      | .file => found := path :: found
      | .dir => found := (← listBelow path) ++ found
      | .symlink | .other => pure ()
  catch _ => pure ()
  return found

/-- The files a tool may look at, read beforehand. -/
def gather (paths : List String) (directory : Option String) : IO Files := do
  let listed ← match directory with
    | none => pure []
    | some directory => do
      if (← entryAt directory) = some .directory then listBelow directory else pure []
  let entries ← paths.mapM fun path => return (path, ← entryAt path)
  let known ← (paths ++ listed).mapM fun path => return (path, ← readPath path)
  return {
    entry? := fun path => (entries.lookup path).join
    read := fun path => (known.lookup path).getD (.error .notFound)
    below := fun _ => listed }

/-- The paths that the arguments of the message tool name. -/
def namedPaths (args : List String) : List String :=
  match readArguments args with
  | .error _ => []
  | .ok i =>
    [i.config, Files.parent i.config] ++
      match i.request with
      | .check paths => paths
      | .dump file _ => [file]
      | .play file _ typewriter _ => file :: typewriter.toList
      | .init _ => []
      | .type _ _ typewriter => typewriter.toList

def perform (effects : List Effect) : IO Unit := do
  let stdout ← IO.getStdout
  for effect in effects do
    match effect with
    | .write text => do
      stdout.putStr text
      stdout.flush
    | .sleep millis => IO.sleep millis.toUInt32

partial def playFrames (options : PlayOptions) (p : Player) : IO Unit := do
  if p.pages.closed then return
  let demand := p.demand options
  perform (Player.Demand.effects demand)
  let ended ← match demand with
    | .line => do
      let text ← (← IO.getStdin).getLine
      pure text.isEmpty
    | .nothing | .time _ => pure false
  let (confirm, p) := p.meet demand ended (← IO.monoMsNow)
  let (effects, p) := p.frame options confirm
  perform effects
  playFrames options p

partial def typeFrames (frameInterval : Nat) (box : Typewriter.MessageBox) (printed : Nat) :
    IO Unit := do
  let f := typingFrame box printed (← IO.monoMsNow)
  perform [.write (String.ofList f.fresh)]
  if f.done then perform [.write "\n"]
  else
    IO.sleep frameInterval.toUInt32
    typeFrames frameInterval f.box f.printed

def finish (o : Outcome) : IO UInt32 := do
  IO.print o.stdout
  IO.eprint o.stderr
  match o.written with
  | none => pure ()
  | some (path, content) => IO.FS.writeFile path content
  return o.code.toUInt32

/-- Runs the message tool. -/
def message (args : List String) : IO UInt32 := do
  match plan .standard (← gather (namedPaths args) none) args with
  | .done outcome => finish outcome
  | .play queue options =>
    playFrames options (Player.start queue options)
    return 0
  | .type text config frameInterval =>
    let box : Typewriter.MessageBox := { typewriter := { config } }
    typeFrames frameInterval (box.present text (← IO.monoMsNow)) 0
    return 0

/-- Runs the script checker. -/
def scriptCheck (args : List String) : IO UInt32 := do
  let target := args.tail.head?.getD ScriptCheck.scriptsDirectory
  finish (ScriptCheck.run (← gather [target, ScriptCheck.configFile] (some target)) args)

end Dialogue.Main

/-- The word `checker` in front chooses the script checker; all other arguments are for the message
tool. -/
def main (args : List String) : IO UInt32 := do
  try
    match args with
    | "checker" :: args => Dialogue.Main.scriptCheck args
    | args => Dialogue.Main.message args
  catch e =>
    IO.eprintln s!"❌ {e}"
    return 1
