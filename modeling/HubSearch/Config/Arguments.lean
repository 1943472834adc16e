/-
Reading the configuration from command line flags and environment variables. Arguments are handled
from left to right; a flag beats its variable, and a variable beats the default. The value of a flag
may follow its name after an equals sign or as the next argument, and in the latter case it is looked at
when the argument after it has been recognised, or when the arguments end.
-/
import HubSearch.Config.Basic
import HubSearch.Dict

namespace HubSearch

/-- A setting that a flag or a variable gives. -/
inductive Setting where
  | apiImage
  | indexerImage
  | collectorImage
  | postgresImage
  | requeueInterval
  | errorRequeueInterval
  | logFormat
  | probeAddress
  deriving DecidableEq, Inhabited

/-- Why arguments and variables give no configuration. -/
inductive ArgumentError where
  /-- The help was asked for. -/
  | helpAsked
  /-- The version was asked for. -/
  | versionAsked
  /-- A value was attached to a flag that takes none. -/
  | valueNotTaken
  /-- No flag of this name, or an argument that belongs to no flag. -/
  | unknownArgument
  /-- A value is missing, or is none of those that are possible. -/
  | invalidValue
  /-- A flag was given twice. -/
  | givenTwice
  /-- The text of a duration is wrong. -/
  | invalidDuration (text : String) (cause : DurationError)
  deriving DecidableEq, Inhabited

namespace ArgumentError

/-- The wording of a failure that has one of its own. -/
def message? : ArgumentError → Option String
  | .invalidDuration text cause => some ("invalid duration `" ++ text ++ "`: " ++ cause.message)
  | _ => none

end ArgumentError

namespace Setting

/-- All settings, in the order in which their variables are looked at. -/
def all : List Setting :=
  [.apiImage, .indexerImage, .collectorImage, .postgresImage, .requeueInterval, .errorRequeueInterval,
    .logFormat, .probeAddress]

/-- The name of the flag, without its dashes. -/
def flag : Setting → String
  | .apiImage => "api-image"
  | .indexerImage => "indexer-image"
  | .collectorImage => "collector-image"
  | .postgresImage => "postgres-image"
  | .requeueInterval => "requeue-interval"
  | .errorRequeueInterval => "error-requeue-interval"
  | .logFormat => "log-format"
  | .probeAddress => "probe-address"

/-- The name of the environment variable. -/
def variableName : Setting → String
  | .apiImage => "SEARCH_IMAGE"
  | .indexerImage => "INDEXER_IMAGE"
  | .collectorImage => "COLLECTOR_IMAGE"
  | .postgresImage => "POSTGRES_IMAGE"
  | .requeueInterval => "REQUEUE_INTERVAL"
  | .errorRequeueInterval => "ERROR_REQUEUE_INTERVAL"
  | .logFormat => "LOG_FORMAT"
  | .probeAddress => "PROBE_ADDR"

end Setting

namespace OperatorConfig

/-- Read a duration of the configuration. -/
def duration? (text : String) : Except ArgumentError Duration :=
  (Duration.parse? text).mapError (.invalidDuration text)

/-- The configuration with one setting given as text. -/
def set? (c : OperatorConfig) (setting : Setting) (text : String) : Except ArgumentError OperatorConfig :=
  match setting with
  | .apiImage => .ok { c with apiImage := text }
  | .indexerImage => .ok { c with indexerImage := text }
  | .collectorImage => .ok { c with collectorImage := text }
  | .postgresImage => .ok { c with postgresImage := text }
  | .requeueInterval => (duration? text).map fun d => { c with requeueInterval := d }
  | .errorRequeueInterval => (duration? text).map fun d => { c with errorRequeueInterval := d }
  | .logFormat =>
    match LogFormat.all.find? (·.word = text) with
    | some f => .ok { c with logFormat := f }
    | none => .error .invalidValue
  | .probeAddress => .ok { c with probeAddress := text }

/-! ## Arguments -/

/-- What the arguments so far have given. -/
structure ArgumentState where
  config : OperatorConfig
  /-- The settings whose flags have been handled. -/
  given : List Setting
  /-- The flag that is not handled yet, and its value once that has come. -/
  pending : Option (Setting × Option String)
  /-- Whether `--` has ended the flags. -/
  flagsEnded : Bool

/-- The two flags that take no value. -/
def informationFlag? (name : String) : Option ArgumentError :=
  if name = "help" then some .helpAsked else if name = "version" then some .versionAsked else none

namespace ArgumentState

/-- Nothing handled yet. -/
def initial : ArgumentState := ⟨{}, [], none, false⟩

/-- Handle a flag and its value. -/
def give (s : ArgumentState) (setting : Setting) (value : String) : Except ArgumentError ArgumentState :=
  if setting ∈ s.given then .error .givenTwice
  else do
    let config ← s.config.set? setting value
    pure { s with config, given := setting :: s.given }

/-- Handle the flag that waits; it must have its value. -/
def settle (s : ArgumentState) : Except ArgumentError ArgumentState :=
  match s.pending with
  | none => .ok s
  | some (_, none) => .error .invalidValue
  | some (setting, some value) => { s with pending := none }.give setting value

/-- Handle the argument `--name` or `--name=value`. -/
def longFlag (s : ArgumentState) (name : String) (value : Option String) :
    Except ArgumentError ArgumentState :=
  match informationFlag? name, Setting.all.find? (·.flag = name), value with
  | some _, _, some _ => .error .valueNotTaken
  | some asked, _, none => do
    let _ ← s.settle
    .error asked
  | none, some setting, some v => do (← s.settle).give setting v
  | none, some setting, none => do pure { (← s.settle) with pending := some (setting, none) }
  | none, none, _ => .error .unknownArgument

/-- Handle the argument `-abc`, of which only the first letter is looked at. -/
def shortFlag (s : ArgumentState) (letter : Char) : Except ArgumentError ArgumentState :=
  if letter = 'h' then do
    let _ ← s.settle
    .error .helpAsked
  else if letter = 'V' then do
    let _ ← s.settle
    .error .versionAsked
  else .error .unknownArgument

/-- Handle an argument that is no flag: it is the value of the flag before it. -/
def plain (s : ArgumentState) (text : String) : Except ArgumentError ArgumentState :=
  match s.pending with
  | some (setting, none) => .ok { s with pending := some (setting, some text) }
  | _ => .error .unknownArgument

/-- Handle one argument. -/
def step (s : ArgumentState) (argument : String) : Except ArgumentError ArgumentState :=
  if s.flagsEnded then .error .unknownArgument
  else
    match argument.toList with
    | ['-', '-'] => .ok { s with flagsEnded := true }
    | '-' :: '-' :: rest =>
      let value := match rest.dropWhile (· ≠ '=') with
        | [] => none
        | _ :: v => some (String.ofList v)
      s.longFlag (String.ofList (rest.takeWhile (· ≠ '='))) value
    | '-' :: letter :: _ => s.shortFlag letter
    | _ => s.plain argument

end ArgumentState

/-- Take settings that no flag has given from their variables. -/
def setFromVariables (given : List Setting) (env : Dict String) (c : OperatorConfig) :
    Except ArgumentError OperatorConfig :=
  (Setting.all.filter (· ∉ given)).foldlM (fun c setting =>
    match env.get? setting.variableName with
    | some text => c.set? setting text
    | none => .ok c) c

/-- The configuration that arguments and environment give. -/
def parse? (arguments : List String) (env : Dict String) : Except ArgumentError OperatorConfig := do
  let s ← (← arguments.foldlM ArgumentState.step .initial).settle
  setFromVariables s.given env s.config

end OperatorConfig

/-! ## What a user is told -/

/-- A line of the usage: a flag and the variable that stands in for it. -/
def Setting.usage (s : Setting) : String := "  --" ++ s.flag ++ " <value>  [env: " ++ s.variableName ++ "]"

/-- What a user is told when the arguments give no configuration. -/
def ArgumentError.notice : ArgumentError → String
  | .helpAsked => "\n".intercalate ("usage: search-operator [flags]" :: Setting.all.map Setting.usage)
  | .versionAsked => "search-operator"
  | .valueNotTaken => "error: a value was given to a flag that takes none"
  | .unknownArgument => "error: unexpected argument"
  | .invalidValue => "error: a value is missing or not possible"
  | .givenTwice => "error: a flag was given twice"
  | .invalidDuration text cause => "error: invalid duration `" ++ text ++ "`: " ++ cause.message

end HubSearch
