/-!
# The command line of the frame loop

Options have a long name and some a short one. A value follows its option or is attached to it, with
an equals sign if one likes; short options without values may be written together. Every option may
be given once.
-/

set_option autoImplicit false

namespace Scanout.FrameLoop

structure Options where
  config : String := "hwcompat.toml"
  frames : UInt64 := 120
  width : UInt32 := 1920
  height : UInt32 := 1080
  trace : Bool := false
  verbose : Bool := false
  deriving DecidableEq, Inhabited

inductive UsageError where
  | unknown (argument : String)
  | missingValue (option : String)
  | badValue (option value : String)
  | repeated (option : String)
  | needlessValue (option : String)
  deriving DecidableEq, Inhabited

inductive Request where
  | help
  | run (options : Options)
  deriving DecidableEq, Inhabited

/-- An option that takes a value. -/
inductive ValueOption where
  | config
  | frames
  | width
  | height
  deriving DecidableEq, Inhabited

inductive Switch where
  | trace
  | verbose
  | help
  deriving DecidableEq, Inhabited

structure Given where
  config : Option String := none
  frames : Option UInt64 := none
  width : Option UInt32 := none
  height : Option UInt32 := none
  trace : Bool := false
  verbose : Bool := false
  deriving DecidableEq, Inhabited

def Given.options (given : Given) : Options :=
  let defaults : Options := {}
  { config := given.config.getD defaults.config
    frames := given.frames.getD defaults.frames
    width := given.width.getD defaults.width
    height := given.height.getD defaults.height
    trace := given.trace
    verbose := given.verbose }

/-- Decimal digits, of which there is at least one. -/
def decimal? (digits : List Char) : Option Nat :=
  if digits.isEmpty || !digits.all Char.isDigit then none
  else some (digits.foldl (fun value digit => value * 10 + (digit.toNat - '0'.toNat)) 0)

/-- A whole number without a minus sign, in a register of 64 bits. -/
def word? (text : String) : Option UInt64 :=
  let magnitude := match text.toList with
    | '+' :: digits => decimal? digits
    | digits => decimal? digits
  magnitude.bind fun value => if value < UInt64.size then some (UInt64.ofNat value) else none

/-- A whole number with a sign, which fits a register of 32 bits without one. -/
def size? (text : String) : Option UInt32 :=
  let number : Option Int := match text.toList with
    | '+' :: digits => (decimal? digits).map Int.ofNat
    | '-' :: digits => (decimal? digits).map fun value => -Int.ofNat value
    | digits => (decimal? digits).map Int.ofNat
  number.bind fun value =>
    if 0 ≤ value ∧ value.toNat < UInt32.size then some (UInt32.ofNat value.toNat) else none

namespace ValueOption

def name : ValueOption → String
  | config => "--config"
  | frames => "--frames"
  | width => "--width"
  | height => "--height"

/-- Notes a value, unless the option has one already. -/
def noteOnce {α : Type} (option : ValueOption) (value : String) (before read : Option α)
    (put : α → Given) : Except UsageError Given :=
  match read with
  | none => .error (.badValue option.name value)
  | some found => if before.isSome then .error (.repeated option.name) else .ok (put found)

def note (option : ValueOption) (value : String) (given : Given) : Except UsageError Given :=
  match option with
  | config =>
    option.noteOnce value given.config (if value.isEmpty then none else some value)
      fun found => { given with config := some found }
  | frames =>
    option.noteOnce value given.frames (word? value) fun found =>
      { given with frames := some found }
  | width =>
    option.noteOnce value given.width (size? value) fun found =>
      { given with width := some found }
  | height =>
    option.noteOnce value given.height (size? value) fun found =>
      { given with height := some found }

def ofLetter? : Char → Option ValueOption
  | 'c' => some config
  | 'f' => some frames
  | _ => none

def ofName? (name : String) : Option ValueOption :=
  if name = "config" then some config
  else if name = "frames" then some frames
  else if name = "width" then some width
  else if name = "height" then some height
  else none

end ValueOption

namespace Switch

/-- Notes a switch other than the one for help. -/
def note (switch : Switch) (given : Given) : Except UsageError Given :=
  match switch with
  | trace =>
    if given.trace then .error (.repeated "--trace") else .ok { given with trace := true }
  | verbose =>
    if given.verbose then .error (.repeated "--verbose") else .ok { given with verbose := true }
  | help => .ok given

def ofLetter? : Char → Option Switch
  | 'v' => some verbose
  | 'h' => some help
  | _ => none

def ofName? (name : String) : Option Switch :=
  if name = "trace" then some trace
  else if name = "verbose" then some verbose
  else if name = "help" then some help
  else none

end Switch

/-- Where the reading of an argument leads. -/
inductive Progress where
  | next (given : Given)
  /-- The next argument is the value of an option. -/
  | awaiting (option : ValueOption) (given : Given)
  | help

/-- A value that is attached to a short option, with or without an equals sign. -/
def attached : List Char → String
  | '=' :: value => String.ofList value
  | value => String.ofList value

/-- Reads short options that are written together. -/
def readLetters (given : Given) : List Char → Except UsageError Progress
  | [] => .ok (.next given)
  | letter :: rest =>
    match ValueOption.ofLetter? letter with
    | some option =>
      if rest.isEmpty then .ok (.awaiting option given)
      else (option.note (attached rest) given).map .next
    | none =>
      match Switch.ofLetter? letter with
      | none => .error (.unknown (String.ofList [letter]))
      | some .help => .ok .help
      | some switch =>
        match switch.note given with
        | .error cause => .error cause
        | .ok after => readLetters after rest

/-- Reads a long option, with the value behind an equals sign if there is one. -/
def readLong (given : Given) (name : String) (value : Option String) :
    Except UsageError Progress :=
  match ValueOption.ofName? name, value with
  | some option, none => .ok (.awaiting option given)
  | some option, some value => (option.note value given).map .next
  | none, value =>
    match Switch.ofName? name, value with
    | none, _ => .error (.unknown name)
    | some _, some _ => .error (.needlessValue name)
    | some .help, none => .ok .help
    | some switch, none => (switch.note given).map .next

/-- An option's name, and its value behind the first equals sign. -/
def splitValue (text : List Char) : String × Option String :=
  let name := text.takeWhile (· != '=')
  match text.drop name.length with
  | [] => (String.ofList name, none)
  | _ :: value => (String.ofList name, some (String.ofList value))

def readArgument (given : Given) (argument : String) : Except UsageError Progress :=
  match argument.toList with
  | '-' :: '-' :: rest => readLong given (splitValue rest).1 (splitValue rest).2
  | '-' :: letter :: rest => readLetters given (letter :: rest)
  | _ => .error (.unknown argument)

/-- An argument that cannot be the value of the option before it. -/
def looksLikeOption (argument : String) : Bool :=
  match argument.toList with
  | '-' :: _ :: _ => true
  | _ => false

/-- Reads arguments; `awaiting` is the option that the first of them is a value for. -/
def readArguments (awaiting : Option ValueOption) (given : Given) :
    List String → Except UsageError Request
  | [] =>
    match awaiting with
    | some option => .error (.missingValue option.name)
    | none => .ok (.run given.options)
  | argument :: rest =>
    match awaiting with
    | some option =>
      if looksLikeOption argument then .error (.missingValue option.name)
      else
        match option.note argument given with
        | .error cause => .error cause
        | .ok after => readArguments none after rest
    | none =>
      if argument = "--" then
        match rest with
        | [] => .ok (.run given.options)
        | stray :: _ => .error (.unknown stray)
      else
        match readArgument given argument with
        | .error cause => .error cause
        | .ok .help => .ok .help
        | .ok (.next after) => readArguments none after rest
        | .ok (.awaiting option after) => readArguments (some option) after rest

def Request.ofArguments (arguments : List String) : Except UsageError Request :=
  readArguments none {} arguments

def usage : String :=
  "Drive a scripted display through validate/accept/present\n\n"
    ++ "Usage: frame_loop [OPTIONS]\n\n"
    ++ "Options:\n"
    ++ "  -c, --config <CONFIG>  Adapter configuration file; defaults apply when it does not exist "
    ++ "[default: hwcompat.toml]\n"
    ++ "  -f, --frames <FRAMES>  Number of frames to present [default: 120]\n"
    ++ "      --width <WIDTH>    Display width [default: 1920]\n"
    ++ "      --height <HEIGHT>  Display height [default: 1080]\n"
    ++ "      --trace            Print one line per protocol event to stderr\n"
    ++ "  -v, --verbose          Verbose logging\n"
    ++ "  -h, --help             Print help\n"

end Scanout.FrameLoop
