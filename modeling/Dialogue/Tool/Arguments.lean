import Dialogue.Typewriter.ConfigJson

/-! The arguments of the message tool: a command word, its operands, and options that may stand
anywhere behind the word they belong to. -/
namespace Dialogue.Tool

inductive Request
  | check (paths : List String)
  | dump (file : String) (json : Bool)
  | play (file : String) (preset : Option Typewriter.Preset) (typewriter : Option String)
      (auto : Bool)
  | init (force : Bool)
  | type (text : String) (preset : Option Typewriter.Preset) (typewriter : Option String)
  deriving DecidableEq, Repr

structure Invocation where
  config : String
  request : Request
  deriving DecidableEq, Repr

/-- Why no request is carried out. -/
inductive Refusal
  | usage
  | help
  | version
  deriving DecidableEq, Repr

inductive Flag
  | config
  | verbose
  | json
  | preset
  | typewriter
  | auto
  | force
  | help
  | version
  deriving DecidableEq, Repr

namespace Flag

def all : List Flag :=
  [.config, .verbose, .json, .preset, .typewriter, .auto, .force, .help, .version]

def long : Flag → String
  | .config => "config"
  | .verbose => "verbose"
  | .json => "json"
  | .preset => "preset"
  | .typewriter => "typewriter"
  | .auto => "auto"
  | .force => "force"
  | .help => "help"
  | .version => "version"

def short? : Flag → Option Char
  | .config => some 'c'
  | .verbose => some 'v'
  | .preset => some 'p'
  | .typewriter => some 't'
  | .auto => some 'a'
  | .help => some 'h'
  | .version => some 'V'
  | .json | .force => none

def takesValue : Flag → Bool
  | .config | .preset | .typewriter => true
  | _ => false

/-- Whether a value can be used: a preset has to be one, and a path is not empty. -/
def accepts (flag : Flag) (value : String) : Bool :=
  match flag with
  | .preset => (Typewriter.Preset.ofName? value).isSome
  | .config | .typewriter => !value.isEmpty
  | _ => true

end Flag

/-- What a command takes. -/
structure Grammar where
  flags : List Flag
  /-- How many operands it takes at most. -/
  operands : Option Nat
  /-- Whether an operand may be empty. -/
  emptyOperand : Bool := false

/-- What was given so far. -/
structure Given where
  flags : List (Flag × String) := []
  operands : List String := []
  deriving Repr

namespace Given

def has (g : Given) (flag : Flag) : Bool := g.flags.any (·.1 = flag)

def value? (g : Given) (flag : Flag) : Option String := (g.flags.find? (·.1 = flag)).map (·.2)

/-- An option can be given once; help and version end the reading at once. -/
def addFlag (g : Given) (flag : Flag) (value : String) : Except Refusal Given :=
  match flag with
  | .help => .error .help
  | .version => .error .version
  | flag =>
    if g.has flag || !flag.accepts value then .error .usage
    else .ok { g with flags := (flag, value) :: g.flags }

def addOperand (g : Given) (grammar : Grammar) (text : String) : Except Refusal Given :=
  let full := match grammar.operands with
    | none => false
    | some n => n ≤ g.operands.length
  if full || (text.isEmpty && !grammar.emptyOperand) then .error .usage
  else .ok { g with operands := g.operands ++ [text] }

end Given

/-- An argument that has the form of an option. A hyphen alone has not. -/
def isOption (arg : String) : Bool := arg.startsWith "-" && arg != "-"

/-- Short options written together; a value may follow in the same argument, or is still awaited. -/
def readShorts (grammar : Grammar) (g : Given) : List Char → Except Refusal (Given × Option Flag)
  | [] => .ok (g, none)
  | c :: cs =>
    match grammar.flags.find? fun flag => flag.short? = some c with
    | none => .error .usage
    | some flag =>
      if flag.takesValue then
        if cs.isEmpty then .ok (g, some flag)
        else do
          let value := if cs.head? = some '=' then cs.tail else cs
          return (← g.addFlag flag (String.ofList value), none)
      else do readShorts grammar (← g.addFlag flag "") cs

/-- A long option, with its value if it has one after an equal sign. -/
def readLong (grammar : Grammar) (g : Given) (text : List Char) :
    Except Refusal (Given × Option Flag) :=
  let name := String.ofList (text.takeWhile (· != '='))
  let attached := text.dropWhile (· != '=')
  match grammar.flags.find? (·.long = name) with
  | none => .error .usage
  | some flag =>
    if flag.takesValue then
      if attached.isEmpty then .ok (g, some flag)
      else do return (← g.addFlag flag (String.ofList attached.tail), none)
    else if attached.isEmpty then do return (← g.addFlag flag "", none)
    else .error .usage

def readOption (grammar : Grammar) (g : Given) (arg : String) :
    Except Refusal (Given × Option Flag) :=
  match arg.toList with
  | '-' :: '-' :: text => readLong grammar g text
  | _ :: shorts => readShorts grammar g shorts
  | [] => .error .usage

/-- Reads options up to the first argument that is none; the rest begins with that argument. -/
def readLeading (grammar : Grammar) (g : Given) : List String → Except Refusal (Given × List String)
  | [] => .ok (g, [])
  | arg :: args =>
    if arg = "--" then .error .usage
    else if !isOption arg then .ok (g, arg :: args)
    else do
      let (g, awaited) ← readOption grammar g arg
      match awaited with
      | none => readLeading grammar g args
      | some flag =>
        match args with
        | [] => .error .usage
        | value :: args =>
          if isOption value then .error .usage
          else readLeading grammar (← g.addFlag flag value) args

/-- Reads options and operands in any order; behind two hyphens all are operands. -/
def readAll (grammar : Grammar) (g : Given) : List String → Except Refusal Given
  | [] => .ok g
  | arg :: args =>
    if arg = "--" then args.foldlM (fun g text => g.addOperand grammar text) g
    else if !isOption arg then do readAll grammar (← g.addOperand grammar arg) args
    else do
      let (g, awaited) ← readOption grammar g arg
      match awaited with
      | none => readAll grammar g args
      | some flag =>
        match args with
        | [] => .error .usage
        | value :: args =>
          if isOption value then .error .usage
          else readAll grammar (← g.addFlag flag value) args

def globalFlags : List Flag := [.config, .verbose, .help]

def defaultConfigPath : String := "config.json"

/-- The command words, with what each takes and the request it makes of it. -/
def command? (word : String) : Option (Grammar × (Given → Option Request)) :=
  let preset (g : Given) := (g.value? .preset).bind Typewriter.Preset.ofName?
  match word with
  | "check" => some (⟨globalFlags, none, false⟩, fun g =>
      if g.operands.isEmpty then none else some (.check g.operands))
  | "dump" => some (⟨.json :: globalFlags, some 1, false⟩, fun g =>
      g.operands.head?.map fun file => .dump file (g.has .json))
  | "play" => some (⟨.preset :: .typewriter :: .auto :: globalFlags, some 1, false⟩, fun g =>
      g.operands.head?.map fun file =>
        .play file (preset g) (g.value? .typewriter) (g.has .auto))
  | "init" => some (⟨.force :: globalFlags, some 0, false⟩, fun g => some (.init (g.has .force)))
  | "type" => some (⟨.preset :: .typewriter :: globalFlags, some 1, true⟩, fun g =>
      g.operands.head?.map fun text => .type text (preset g) (g.value? .typewriter))
  | _ => none

/-- The word `help` asks for help, on a command if one follows it. -/
def helpOn : List String → Refusal
  | [] => .help
  | word :: _ => if word = "help" || (command? word).isSome then .help else .usage

/-- Reads the arguments. An option given behind the command word stands before the same option
given before it. -/
def readArguments (args : List String) : Except Refusal Invocation := do
  let (leading, rest) ← readLeading ⟨.version :: globalFlags, some 0, false⟩ {} args
  match rest with
  | [] => .error .usage
  | "help" :: words => .error (helpOn words)
  | word :: args =>
    match command? word with
    | none => .error .usage
    | some (grammar, request) =>
      let given ← readAll grammar {} args
      match request given with
      | none => .error .usage
      | some request =>
        let config := (given.value? .config).orElse fun _ => leading.value? .config
        return ⟨config.getD defaultConfigPath, request⟩

end Dialogue.Tool
