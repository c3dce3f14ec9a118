import GridRobot.Run.Engine
import GridRobot.Text.Lowercase

/-!
How the program is called. The command line names one program file, with options that may be abbreviated, joined to
their value or, if short, to each other; the first thing that is wrong is reported. Settings come from the environment:
what is not set has its default, and a numeral that cannot be read is a fault, the first of them in the order of the
fields.
-/
namespace GridRobot

structure Settings where
  baseDelayMs : Binary64
  defaultSpeed : Binary64
  maxCallDepth : Int
  /-- The level file; the bundled one where none is named. -/
  levelsFile : Option String
  verbose : Bool

inductive SettingsFault
  | float (text : String)
  | integer (fault : Json.IntegerFault)
deriving DecidableEq

namespace SettingsFault

def message : SettingsFault → String
  | .float text => "could not convert string to float: " ++ Text.quoted text
  | .integer fault => fault.message

end SettingsFault

namespace Settings

def float (text : String) : Except SettingsFault Binary64 :=
  match Text.readFloat? text with
  | some x => .ok x
  | none => .error (.float text)

def ofEnvironment (lookup : String → Option String) : Except SettingsFault Settings := do
  let baseDelayMs ← float ((lookup "BASE_DELAY_MS").getD "500")
  let defaultSpeed ← float ((lookup "DEFAULT_SPEED").getD "5")
  let maxCallDepth ← (Json.str ((lookup "MAX_CALL_DEPTH").getD "64")).toInteger.mapError .integer
  return {
    baseDelayMs, defaultSpeed, maxCallDepth
    levelsFile := lookup "LEVELS_FILE"
    verbose := Text.lowercase ((lookup "VERBOSE_LOGGING").getD "false") == "true" }

/-- The pause in front of an instruction at speed 1, in seconds. -/
def baseDelay (settings : Settings) : Binary64 := settings.baseDelayMs.div (Binary64.ofInt 1000)

def default : Settings where
  baseDelayMs := Binary64.ofInt 500
  defaultSpeed := GridRobot.defaultSpeed
  maxCallDepth := 64
  levelsFile := none
  verbose := false

end Settings

end GridRobot

namespace GridRobot.Console

inductive Switch
  | help | level | speed | step | levels | verbose
deriving DecidableEq

namespace Switch

def spellings : List (String × Switch) := [
  ("-h", help), ("--help", help), ("--level", level), ("-l", level), ("--speed", speed), ("-s", speed),
  ("--step", step), ("--levels", levels), ("--verbose", verbose), ("-v", verbose)]

def takesValue : Switch → Bool
  | .level | .speed | .levels => true
  | .help | .step | .verbose => false

def label (switch : Switch) : String :=
  String.intercalate "/" ((spellings.filter fun pair => pair.2 == switch).map Prod.fst)

def find? (spelling : String) : Option Switch := spellings.lookup spelling

end Switch

structure OptionUse where
  switch : Switch
  spelling : String
  joined : Option (List Char)

inductive Token
  | argument (text : String)
  | separator
  | option (text : String) (use : OptionUse)
  | unknownOption (text : String)

inductive ArgumentError
  | ambiguous (text : String) (spellings : List String)
  | valueExpected (switch : Switch)
  | valueIgnored (switch : Switch) (value : String)
  | invalid (switch : Switch) (type value : String)
  | unrecognized (texts : List String)
  | programRequired

namespace ArgumentError

def message : ArgumentError → String
  | .ambiguous text spellings =>
    "ambiguous option: " ++ text ++ " could match " ++ String.intercalate ", " spellings
  | .valueExpected switch => "argument " ++ switch.label ++ ": expected one argument"
  | .valueIgnored switch value =>
    "argument " ++ switch.label ++ ": ignored explicit argument " ++ Text.quoted value
  | .invalid switch type value =>
    "argument " ++ switch.label ++ ": invalid " ++ type ++ " value: " ++ Text.quoted value
  | .unrecognized texts => "unrecognized arguments: " ++ String.intercalate " " texts
  | .programRequired => "the following arguments are required: program"

end ArgumentError

def isDigit (c : Char) : Bool := (Text.digitValue? c).isSome

def isNegativeNumber (text : List Char) : Bool :=
  match text with
  | '-' :: rest =>
    let rest := if rest.getLast? == some '\n' then rest.dropLast else rest
    let fraction := rest.dropWhile isDigit
    if fraction.isEmpty then !rest.isEmpty
    else match fraction with
    | '.' :: digits => !digits.isEmpty && digits.all isDigit
    | _ => false
  | _ => false

def splitEquals (text : List Char) : List Char × Option (List Char) :=
  match text.dropWhile (· != '=') with
  | [] => (text, none)
  | _ :: value => (text.takeWhile (· != '='), some value)

/-- The options that an argument may stand for: a long option by any beginning of its name, a short
one with the rest as its value. -/
def candidates (text : List Char) : List OptionUse :=
  match text with
  | '-' :: '-' :: _ =>
    let (name, value) := splitEquals text
    Switch.spellings.filterMap fun (spelling, switch) =>
      if name.isPrefixOf spelling.toList then some ⟨switch, spelling, value⟩ else none
  | _ =>
    Switch.spellings.filterMap fun (spelling, switch) =>
      if spelling.toList == text.take 2 then some ⟨switch, spelling, some (text.drop 2)⟩
      else if text.isPrefixOf spelling.toList then some ⟨switch, spelling, none⟩
      else none

def classify (text : String) : Except ArgumentError Token :=
  let chars := text.toList
  if chars.head? != some '-' then .ok (.argument text)
  else match Switch.find? text with
  | some switch => .ok (.option text ⟨switch, text, none⟩)
  | none =>
    if chars.length = 1 then .ok (.argument text)
    else
      let (name, value) := splitEquals chars
      let exact := value.bind fun value =>
        (Switch.find? (String.ofList name)).map fun switch => (switch, value)
      match exact with
      | some (switch, value) => .ok (.option text ⟨switch, String.ofList name, some value⟩)
      | none => match candidates chars with
        | [use] => .ok (.option text use)
        | [] =>
          if isNegativeNumber chars || chars.contains ' ' then .ok (.argument text)
          else .ok (.unknownOption text)
        | uses => .error (.ambiguous text (uses.map OptionUse.spelling))

/-- All arguments; after a double dash there are no more options. -/
def classifyAll : List String → Except ArgumentError (List Token)
  | [] => .ok []
  | text :: rest =>
    if text = "--" then .ok (.separator :: rest.map .argument)
    else do
      let token ← classify text
      let tokens ← classifyAll rest
      return token :: tokens

structure Options where
  program : Option String := none
  /-- The level, if the option is given; it may be given with nothing for a value. -/
  level : Option (Option Int) := none
  /-- The speed, unless the option is given with nothing for a value. -/
  speed : Option Binary64 := some defaultSpeed
  step : Bool := false
  levels : Option String := none
  verbose : Bool := false
  /-- Arguments that nothing takes, latest first. -/
  extras : List String := []

inductive Stop
  | help
  | error (error : ArgumentError)

def Options.flag (options : Options) : Switch → Except Stop Options
  | .help => .error .help
  | .step => .ok { options with step := true }
  | .verbose => .ok { options with verbose := true }
  | .level | .speed | .levels => .ok options

/-- Gives an option its value. A value of two dashes, which elsewhere end the options, is nothing. -/
def Options.value (options : Options) (switch : Switch) (text : String) : Except Stop Options :=
  let isNothing := text == "--"
  match switch with
  | .level =>
    if isNothing then .ok { options with level := some none }
    else match Text.readInt? text with
    | some n => .ok { options with level := some (some n) }
    | none => .error (.error (.invalid .level "int" text))
  | .speed =>
    if isNothing then .ok { options with speed := none }
    else match Text.readFloat? text with
    | some x => .ok { options with speed := some x }
    | none => .error (.error (.invalid .speed "float" text))
  | .levels => .ok { options with levels := if isNothing then none else some text }
  | .help | .step | .verbose => .ok options

inductive Cluster
  | flags (switches : List Switch)
  | value (switches : List Switch) (last : Switch) (text : String)
  | awaiting (switches : List Switch) (last : Switch)

def Cluster.add (switch : Switch) : Cluster → Cluster
  | .flags switches => .flags (switch :: switches)
  | .value switches last text => .value (switch :: switches) last text
  | .awaiting switches last => .awaiting (switch :: switches) last

def Cluster.ofSwitch (switch : Switch) : Cluster :=
  if switch.takesValue then .awaiting [] switch else .flags [switch]

def cluster (isShort : Bool) (switch : Switch) (joined : List Char) : Except ArgumentError Cluster :=
  if switch.takesValue then .ok (.value [] switch (String.ofList joined))
  else match joined with
  | [] => .error (.valueIgnored switch "")
  | c :: rest =>
    match if isShort then Switch.find? (String.ofList ['-', c]) else none with
    | none => .error (.valueIgnored switch (String.ofList (c :: rest)))
    | some next =>
      if rest.isEmpty then .ok ((Cluster.ofSwitch next).add switch)
      else (cluster true next rest).map (Cluster.add switch)

def OptionUse.cluster (use : OptionUse) : Except ArgumentError Cluster :=
  match use.joined with
  | none => .ok (.ofSwitch use.switch)
  | some joined => Console.cluster (!"--".toList.isPrefixOf use.spelling.toList) use.switch joined

def Options.flags (options : Options) (switches : List Switch) : Except Stop Options :=
  switches.foldlM Options.flag options

def Options.extra (options : Options) (text : String) : Options :=
  { options with extras := text :: options.extras }

/-- Arguments that are left when there are no more options; the first is the program file, unless
there is one already. -/
def Options.positional (options : Options) (tokens : List Token) : Options :=
  let text : Token → String
    | .argument text | .option text _ | .unknownOption text => text
    | .separator => "--"
  let leave (options : Options) (tokens : List Token) : Options :=
    tokens.foldl (fun options token => options.extra (text token)) options
  match options.program, tokens with
  | none, .argument program :: .separator :: rest => leave { options with program := some program } rest
  | none, .separator :: .argument program :: rest => leave { options with program := some program } rest
  | none, .argument program :: rest => leave { options with program := some program } rest
  | _, tokens => leave options tokens

def Token.isOption : Token → Bool
  | .option .. | .unknownOption _ => true
  | _ => false

def Options.take (options : Options) (tokens : List Token) : Except Stop Options :=
  if !tokens.any Token.isOption then .ok (options.positional tokens)
  else match tokens with
  | [] => .ok options
  | .argument text :: rest =>
    if options.program.isNone then Options.take { options with program := some text } rest
    else (options.extra text).take rest
  | .separator :: rest => (options.extra "--").take rest
  | .unknownOption text :: rest => (options.extra text).take rest
  | .option _ use :: rest =>
    match use.cluster with
    | .error error => .error (.error error)
    | .ok (.flags switches) => do (← options.flags switches).take rest
    | .ok (.value switches last text) => do (← (← options.flags switches).value last text).take rest
    | .ok (.awaiting switches last) => match rest with
      | .argument text :: rest => do (← (← options.flags switches).value last text).take rest
      | _ => .error (.error (.valueExpected last))
termination_by tokens.length

def readArguments (arguments : List String) (defaultSpeed : Binary64) : Except Stop (Options × String) := do
  let tokens ← (classifyAll arguments).mapError .error
  let options ← { speed := some defaultSpeed : Options }.take tokens
  match options.program with
  | none => .error (.error .programRequired)
  | some program =>
    if options.extras.isEmpty then .ok (options, program)
    else .error (.error (.unrecognized options.extras.reverse))

def usage : List String := [
  "usage: matrix-coder [-h] [--level LEVEL] [--speed SPEED] [--step]",
  "                    [--levels LEVELS] [--verbose]",
  "                    program"]

def help (defaultSpeed : Binary64) : List String := usage ++ [
  "",
  "Run a Matrix Coder program file",
  "",
  "positional arguments:",
  "  program               Program file exported from the editor (.json)",
  "",
  "options:",
  "  -h, --help            show this help message and exit",
  "  --level LEVEL, -l LEVEL",
  "                        Level id to run against (default: the level stored in",
  "                        the file)",
  "  --speed SPEED, -s SPEED",
  "                        Execution speed, higher is faster (default: " ++ defaultSpeed.brief ++ ")",
  "  --step                Pause before every instruction",
  "  --levels LEVELS       Path to a levels.json catalog",
  "  --verbose, -v         Print every engine log line"]

def ArgumentError.report (error : ArgumentError) : List String :=
  usage ++ ["matrix-coder: error: " ++ error.message]

end GridRobot.Console
