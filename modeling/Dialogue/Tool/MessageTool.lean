import Dialogue.Check.Checker
import Dialogue.Playback.Inspect
import Dialogue.Settings.Json
import Dialogue.Terminal.Run
import Dialogue.Terminal.Typing
import Dialogue.Tool.Arguments
import Dialogue.Tool.Files
import Dialogue.Tool.Outcome

/-! The message tool: it checks scripts, shows what they consist of, plays them, types a message, and
writes its settings out. -/
namespace Dialogue.Tool

def toolName : String := "msg"

def toolVersion : String := "0.1.0"

inductive ToolError
  | readScript (path : String) (cause : FileError)
  | readTypewriter (path : String) (cause : FileError)
  | writeSettings (path : String) (cause : FileError)
  | settingsPresent (path : String)
  | invalidSettings (cause : Settings.Error)
  | compile (cause : Script.CompileError)
  | config (cause : Typewriter.ConfigError)
  deriving Repr

def ToolError.message : ToolError → String
  | .readScript path cause => s!"读取脚本失败: {path}: {cause.message}"
  | .readTypewriter path cause => s!"读取打字机配置失败: {path}: {cause.message}"
  | .writeSettings path cause => s!"写入配置失败: {path}: {cause.message}"
  | .settingsPresent path => s!"配置文件已存在: {path}（使用 --force 覆盖）"
  | .invalidSettings cause => s!"配置无效: {cause.message}"
  | .compile cause => cause.render
  | .config cause => s!"config error: {cause.message}"

/-- A failure, after what was told before it. -/
def failure (told : String) (e : ToolError) : Outcome :=
  { code := 1, stdout := told, stderr := line s!"❌ {e.message}" }

def ofExcept (e : Except ToolError Outcome) : Outcome :=
  match e with
  | .ok outcome => outcome
  | .error e => failure "" e

/-- What is to be done, as far as neither input nor time has a part in it. -/
inductive Plan
  | done (outcome : Outcome)
  | play (queue : Playback.Queue Unit) (options : Terminal.PlayOptions)
  | type (text : String) (config : Typewriter.Config) (frameInterval : Nat)

def readScript (files : Files) (path : String) : Except ToolError String :=
  (files.readText path).mapError (.readScript path)

def readTypewriter (files : Files) (path : Option String) : Except ToolError (Option String) :=
  match path with
  | none => .ok none
  | some path => ((files.readText path).mapError (.readTypewriter path)).map some

def resolveTypewriter (c : Json.Codec) (files : Files) (settings : Settings)
    (preset : Option Typewriter.Preset) (path : Option String) :
    Except ToolError Typewriter.Config := do
  let json ← readTypewriter files path
  (settings.resolveTypewriterBy c preset json).mapError .config

/-- Settings that are not there or cannot be read are the default ones. -/
def loadSettings (c : Json.Codec) (files : Files) (path : String) : Settings :=
  if !files.isPresent path then .default
  else
    match files.readText path with
    | .ok text => Settings.loadBy c text.toList
    | .error _ => .default

structure CheckTotal where
  checked : Nat := 0
  report : Check.Report := .empty

def CheckTotal.summary (t : CheckTotal) : String :=
  s!"检查了 {t.checked} 个脚本: {t.report.errorCount} 个错误, {t.report.warnCount} 个警告, " ++
    s!"{t.report.infoCount} 条提示"

/-- Checks paths in turn, up to the first that cannot be read; paths of other files are passed
over. -/
def checkPaths (files : Files) (checker : Check.Checker) (told : String) (total : CheckTotal) :
    List String → Outcome
  | [] =>
    { code := if total.report.hasErrors then 1 else 0, stdout := told ++ line total.summary }
  | path :: paths =>
    if !isScript path then checkPaths files checker told total paths
    else
      match readScript files path with
      | .error e => failure told e
      | .ok source =>
        let report := checker.check path source.toList
        checkPaths files checker (told ++ reportLines report)
          ⟨total.checked + 1, total.report.merge report⟩ paths

def dumpText (program : Script.Program) (events : List Playback.Event) : String :=
  let statement := fun (s : Script.Statement) =>
    line (s.position.render ++ "  " ++ s.expression.render)
  let event := fun (e : Playback.Event × Nat) =>
    let index := toString e.2
    line (String.ofList (List.replicate (4 - index.length) ' ') ++ index ++ "  " ++ e.1.inspect)
  line s!"# statements ({program.size})" ++ String.join (program.statements.map statement) ++
    line "" ++ line s!"# events ({events.length})" ++ String.join (events.zipIdx.map event)

def dumpJson (c : Json.Codec) (program : Script.Program) (events : List Playback.Event) : String :=
  line (c.toText (.object [
    ("events", .array (events.map (·.toValue))),
    ("statements", .array (program.statements.map (·.toValue)))]))

def dump (c : Json.Codec) (files : Files) (settings : Settings) (path : String) (json : Bool) :
    Except ToolError Outcome := do
  let source ← readScript files path
  let program ← ((Script.parse source.toList).strict).mapError .compile
  let events := Playback.eventsOf settings.checker.marker program
  return { stdout := if json then dumpJson c program events else dumpText program events }

def planPlay (c : Json.Codec) (files : Files) (settings : Settings) (path : String)
    (preset : Option Typewriter.Preset) (typewriter : Option String) (auto : Bool) :
    Except ToolError Plan := do
  let source ← readScript files path
  let queue ← (Terminal.queueOf settings source.toList).mapError .compile
  let config ← resolveTypewriter c files settings preset typewriter
  return .play queue (.ofSettings { settings with typewriter := config } auto)

def planType (c : Json.Codec) (files : Files) (settings : Settings) (text : String)
    (preset : Option Typewriter.Preset) (typewriter : Option String) : Except ToolError Plan := do
  let config ← resolveTypewriter c files settings preset typewriter
  return .type text config settings.frameInterval

def init (c : Json.Codec) (files : Files) (settings : Settings) (path : String) (force : Bool) :
    Outcome :=
  if files.isPresent path && !force then failure "" (.settingsPresent path)
  else
    match files.writeFault? path with
    | some e => failure "" (.writeSettings path e)
    | none =>
      { stdout := line s!"✅ 已写出配置文件: {path}", written := some (path, settings.encode c) }

def planOrFailure (plan : Except ToolError Plan) : Plan :=
  match plan with
  | .ok plan => plan
  | .error e => .done (failure "" e)

def planRequest (c : Json.Codec) (files : Files) (settings : Settings) (i : Invocation) : Plan :=
  match i.request with
  | .check paths =>
    .done (checkPaths files (.ofConfig settings.checker) "" {} paths)
  | .dump file json => .done (ofExcept (dump c files settings file json))
  | .play file preset typewriter auto =>
    planOrFailure (planPlay c files settings file preset typewriter auto)
  | .init force => .done (init c files settings i.config force)
  | .type text preset typewriter => planOrFailure (planType c files settings text preset typewriter)

def Refusal.outcome : Refusal → Outcome
  | .usage => { code := 2 }
  | .help => {}
  | .version => { stdout := line s!"{toolName} {toolVersion}" }

/-- What the tool goes by: how its settings are written and read, and how its arguments are. -/
structure Toolkit where
  codec : Json.Codec
  arguments : List String → Except Refusal Invocation

def Toolkit.standard : Toolkit := ⟨.standard, readArguments⟩

def plan (kit : Toolkit) (files : Files) (args : List String) : Plan :=
  match kit.arguments args with
  | .error refusal => .done refusal.outcome
  | .ok invocation =>
    let settings := loadSettings kit.codec files invocation.config
    match settings.validate with
    | .error e => .done (failure "" (.invalidSettings e))
    | .ok () => planRequest kit.codec files settings invocation

/-- Playing where only sleeping takes time. -/
def playOutcome (queue : Playback.Queue Unit) (options : Terminal.PlayOptions) (input : String) :
    Outcome :=
  let (effects, _) := Terminal.play queue options (fun _ slept => slept) input
  { stdout := Terminal.written effects }

/-- Typing where a frame takes the frame interval, and no less than a millisecond. -/
def typeOutcome (text : String) (config : Typewriter.Config) (frameInterval : Nat) : Outcome :=
  match Terminal.typeText (max frameInterval 1) { typewriter := { config } } text 0 with
  | some typed => { stdout := typed.output }
  | none => {}

/-- Runs the tool on files and an input that are given beforehand. -/
def runBy (kit : Toolkit) (files : Files) (input : String) (args : List String) : Outcome :=
  match plan kit files args with
  | .done outcome => outcome
  | .play queue options => playOutcome queue options input
  | .type text config frameInterval => typeOutcome text config frameInterval

def run (files : Files) (input : String) (args : List String) : Outcome :=
  runBy .standard files input args

end Dialogue.Tool
