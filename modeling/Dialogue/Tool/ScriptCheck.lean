import Dialogue.Check.ConfigJson
import Dialogue.Tool.Files
import Dialogue.Tool.Outcome

/-! The script checker: it checks every script below a directory and sums up what it found. Files that
cannot be read are counted as errors. -/
namespace Dialogue.Tool.ScriptCheck

open Check

inductive CheckError
  | unknownCommand (word : String)
  | noSuchPath (path : String)
  | noDefaultDirectory
  | readConfig (cause : FileError)
  | badConfig (cause : Json.Fault)
  | errorsFound
  deriving DecidableEq, Repr

def scriptsDirectory : String := "scripts"

def configFile : String := "config.json"

def CheckError.message : CheckError → String
  | .unknownCommand word => s!"unknown xtask subcommand: {word}"
  | .noSuchPath path => s!"路径不存在: {path}"
  | .noDefaultDirectory =>
    s!"默认脚本目录不存在: {scriptsDirectory}\n请在 workspace 根目录运行，或指定脚本路径"
  | .readConfig cause => s!"读取配置失败: {configFile}: {cause.message}"
  | .badConfig cause => s!"解析配置失败: {configFile}: {cause.message}"
  | .errorsFound => "脚本检查发现错误"

def fail (told : String) (e : CheckError) : Outcome :=
  { code := 1, stderr := told ++ line s!"xtask error: {e.message}" }

def help : String := "xtask - 开发辅助工具

USAGE:
  cargo xtask <command>

COMMANDS:
  check-all       运行 fmt、clippy、test 门禁检查
  script-check    检查脚本文件

SCRIPT-CHECK:
  cargo xtask script-check [path]

  不带参数：检查 scripts/ 下所有 .txt / .msg 文件
  带路径参数：检查指定文件或目录

  检查内容：
    - 脚本语法错误
    - 重复的参数名
    - 未登记的命令名（config.json 中的 known_commands）
    - 最后一个翻页之后的正文

ALIASES (in .cargo/config.toml):
  cargo check-all     -> cargo xtask check-all
  cargo script-check  -> cargo xtask script-check
"

/-- What was found in the scripts checked so far. -/
structure Findings where
  checked : Nat := 0
  unreadable : Nat := 0
  report : Report := .empty

namespace Findings

def errorCount (f : Findings) : Nat := f.unreadable + f.report.errorCount

def failed (f : Findings) : Bool := 0 < f.unreadable || f.report.hasErrors

end Findings

/-- The settings of the checker; without a file the default ones. -/
def loadChecker (c : Json.Codec) (files : Files) : Except CheckError Checker :=
  if !files.isPresent configFile then .ok (.ofConfig .default)
  else do
    let text ← (files.readText configFile).mapError .readConfig
    let config ← (Config.decode c text.toList).mapError .badConfig
    return .ofConfig config

/-- The files to be checked: a file itself, or the scripts below a directory. -/
def targets (files : Files) (path : Option String) : Except CheckError (List String) :=
  match path with
  | some path =>
    if files.isFile path then .ok [path]
    else if files.isDirectory path then .ok (files.scriptsBelow path)
    else .error (.noSuchPath path)
  | none =>
    if files.isPresent scriptsDirectory then .ok (files.scriptsBelow scriptsDirectory)
    else .error .noDefaultDirectory

/-- Checks files in turn; those that cannot be read are told at once. -/
def checkFiles (files : Files) (checker : Checker) (told : String) (found : Findings) :
    List String → String × Findings
  | [] => (told, found)
  | path :: paths =>
    match files.readText path with
    | .error e =>
      let told := told ++ line s!"[ERROR] {path}: 无法读取文件 - {e.message}"
      checkFiles files checker told
        { found with checked := found.checked + 1, unreadable := found.unreadable + 1 } paths
    | .ok source =>
      let report := found.report.merge (checker.check path source.toList)
      checkFiles files checker told { found with checked := found.checked + 1, report } paths

def verdict (f : Findings) : String :=
  if 0 < f.errorCount then s!"❌ {f.errorCount} 个错误, {f.report.warnCount} 个警告"
  else if 0 < f.report.warnCount then s!"⚠️  0 个错误, {f.report.warnCount} 个警告"
  else "✅ 检查通过，无错误"

def summary (f : Findings) : String :=
  line (String.ofList (List.replicate 53 '─')) ++ line s!"检查完成: {f.checked} 个脚本" ++ line "" ++
    reportLines f.report ++ line "" ++ line (verdict f)

def checkScripts (c : Json.Codec) (files : Files) (path : Option String) : Outcome :=
  match targets files path with
  | .error e => fail "" e
  | .ok [] => { stderr := line "未找到脚本文件（.txt / .msg）" }
  | .ok paths =>
    let told := line s!"==> 检查 {paths.length} 个脚本文件...\n"
    match loadChecker c files with
    | .error e => fail told e
    | .ok checker =>
      let (told, found) := checkFiles files checker told {} paths
      let told := told ++ summary found
      if found.failed then fail told .errorsFound else { stderr := told }

def runBy (c : Json.Codec) (files : Files) (args : List String) : Outcome :=
  match args with
  | [] | "help" :: _ | "-h" :: _ | "--help" :: _ => { stderr := line help }
  | "script-check" :: rest => checkScripts c files rest.head?
  | word :: _ => fail "" (.unknownCommand word)

def run (files : Files) (args : List String) : Outcome := runBy .standard files args

end Dialogue.Tool.ScriptCheck
