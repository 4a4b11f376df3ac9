/-
# Options

The arguments are read from left to right, and the first mistake ends the reading; so does the request
for the help or the version. An option is given once at most. Its value is the rest of the argument or
the next argument, which then must not look like an option. After two dashes all arguments are
operands. There is one operand, the device, which may be missing only when the configuration is asked
for.

Key definitions: `Options`, `Stop`, `Options.parse`.
-/
import DriveHealth.Numeral

namespace DriveHealth

/-- Options without a value. -/
inductive Flag
  | json
  | attributes
  | selfTests
  | information
  | temperature
  | powerMode
  | extended
  | check
  | config
  deriving DecidableEq, Repr

/-- Options with a value. -/
inductive Setting
  | size
  | deviceType
  | nocheck
  | configFile
  deriving DecidableEq, Repr

structure Options where
  device : Option String := none
  size : Option UInt64 := none
  deviceType : Option String := none
  nocheck : Option String := none
  configFile : Option String := none
  flags : List Flag := []
  deriving DecidableEq, Repr

/-- Why the arguments start no work. -/
inductive Stop
  | help
  | version
  | mistake
  deriving DecidableEq, Repr

namespace Options

/-! ### Names -/

/-- What an option's name stands for. -/
inductive Name
  | flag (f : Flag)
  | setting (s : Setting)
  | stop (s : Stop)

def longNames : List (String × Name) :=
  [("size", .setting .size), ("device-type", .setting .deviceType), ("nocheck", .setting .nocheck),
    ("json", .flag .json), ("attributes", .flag .attributes), ("selftest", .flag .selfTests),
    ("info", .flag .information), ("temperature", .flag .temperature), ("power-mode", .flag .powerMode),
    ("extended", .flag .extended), ("check", .flag .check), ("config", .flag .config),
    ("config-file", .setting .configFile), ("help", .stop .help), ("version", .stop .version)]

def shortNames : List (Char × Name) :=
  [('d', .setting .deviceType), ('n', .setting .nocheck), ('h', .stop .help), ('V', .stop .version)]

/-! ### Giving options -/

/-- Sets what was not yet set. -/
def setOnce {α : Type} (old : Option α) (new : α) : Except Stop (Option α) :=
  if old.isSome then .error .mistake else .ok (some new)

/-- A number of bytes, which a plus sign may precede. -/
def size? (value : List Char) : Option UInt64 :=
  let digits := match value with
    | '+' :: rest => rest
    | _ => value
  (Numeral.read? Numeral.max64 digits).map UInt64.ofNat

def giveFlag (o : Options) (f : Flag) : Except Stop Options :=
  if f ∈ o.flags then .error .mistake else .ok { o with flags := o.flags ++ [f] }

/-- Gives an option its value. -/
def giveValue (o : Options) (s : Setting) (value : List Char) : Except Stop Options :=
  match s with
  | .size =>
    match size? value with
    | none => .error .mistake
    | some n => return { o with size := ← setOnce o.size n }
  | .deviceType => return { o with deviceType := ← setOnce o.deviceType (String.ofList value) }
  | .nocheck => return { o with nocheck := ← setOnce o.nocheck (String.ofList value) }
  | .configFile =>
    if value = [] then .error .mistake
    else return { o with configFile := ← setOnce o.configFile (String.ofList value) }

def giveOperand (o : Options) (value : String) : Except Stop Options :=
  return { o with device := ← setOnce o.device value }

/-! ### Arguments -/

/-- An argument by its look. -/
inductive Look
  | dashes
  /-- The name after two dashes, and the value if an equals sign follows it. -/
  | long (name : List Char) (value : Option (List Char))
  /-- The letters after one dash. -/
  | short (letters : List Char)
  | operand

def look : List Char → Look
  | ['-', '-'] => .dashes
  | '-' :: '-' :: s =>
    let value := s.dropWhile (· ≠ '=')
    .long (s.takeWhile (· ≠ '=')) (if value = [] then none else some value.tail)
  | ['-'] => .operand
  | '-' :: letters => .short letters
  | _ => .operand

/-- The argument can be the value of the option before it. -/
def isValue (arg : String) : Bool :=
  match look arg.toList with
  | .operand => true
  | _ => false

/-- The letters after one dash give the options so far, or an option that takes the next argument. No
letter without a value goes on, so the first one decides. -/
def readLetters (o : Options) : List Char → Except Stop (Options × Option Setting)
  | [] => .error .mistake
  | letter :: rest =>
    match shortNames.lookup letter with
    | some (.stop s) => .error s
    | some (.setting s) =>
      match rest with
      | [] => .ok (o, some s)
      | '=' :: value => return (← giveValue o s value, none)
      | value => return (← giveValue o s value, none)
    | _ => .error .mistake

/-- An option after two dashes gives the options so far, or takes the next argument. -/
def readLong (o : Options) (name : List Char) (value : Option (List Char)) :
    Except Stop (Options × Option Setting) :=
  match longNames.lookup (String.ofList name), value with
  | some (.flag f), none => return (← giveFlag o f, none)
  | some (.stop s), none => .error s
  | some (.setting s), none => .ok (o, some s)
  | some (.setting s), some value => return (← giveValue o s value, none)
  | _, _ => .error .mistake

/-- Reads the arguments; `waiting` is the option that takes the next one as its value. -/
def read : Options → Option Setting → List String → Except Stop Options
  | o, none, [] => .ok o
  | _, some _, [] => .error .mistake
  | o, some s, arg :: args => do
    if !isValue arg then throw .mistake
    read (← giveValue o s arg.toList) none args
  | o, none, arg :: args =>
    match look arg.toList with
    | .dashes => args.foldlM giveOperand o
    | .operand => do read (← giveOperand o arg) none args
    | .long name value => do
      let (o, waiting) ← readLong o name value
      read o waiting args
    | .short letters => do
      let (o, waiting) ← readLetters o letters
      read o waiting args

/-- The options that the arguments give. -/
def parse (args : List String) : Except Stop Options := do
  let o ← read {} none args
  if o.device.isNone && !o.flags.contains .config then throw .mistake
  return o

end Options

end DriveHealth
