import ThresholdTrim.Config
import ThresholdTrim.Text.Quoted

/-!
# Command-line arguments

The arguments name a command, with options of the program before it and options of the command
behind it. The value of an option follows it or is attached to it with an equals sign; what looks
like an option is no value unless it is attached. No option is given twice. Arguments are read in
order, and the first that makes no sense, or asks for help, ends the reading.
-/

namespace ThresholdTrim

/-- What the program is asked to do. -/
inductive Task
  | calibrate (overrides : Overrides)
  | selfCheck
  deriving DecidableEq

/-- Options of the program. -/
structure ProgramOptions where
  configPath : String := "etc/thrcal.toml"
  /-- File with a list of boards, in place of those of the configuration. -/
  boardsPath : Option String := none
  /-- Whether results and failures are printed as data. -/
  json : Bool := false
  logLevel : Option String := none
  deriving DecidableEq

/-- A call of the program. -/
structure Invocation where
  options : ProgramOptions
  task : Task
  deriving DecidableEq

/-- Why arguments make no sense. -/
inductive UsageFault
  | missingCommand
  | unexpected (argument : String)
  | missingValue (option : String)
  | invalidValue (option value : String)
  | repeated (option : String)
  deriving DecidableEq

def UsageFault.message : UsageFault → String
  | .missingCommand => "a command is required: calibrate or self-check"
  | .unexpected argument => "unexpected argument " ++ Text.quoted argument
  | .missingValue option => "a value is required for --" ++ option
  | .invalidValue option value => "invalid value " ++ Text.quoted value ++ " for --" ++ option
  | .repeated option => "the argument --" ++ option ++ " cannot be used multiple times"

/-- Why no command is run. -/
inductive Halt
  | help
  | version
  | usage (fault : UsageFault)
  deriving DecidableEq

namespace Arguments

/-! ## Single arguments -/

inductive Shape
  /-- A word, or a single dash. -/
  | word
  /-- Two dashes: no options from here on. -/
  | endOfOptions
  | short (letter : Char)
  | long (name : String) (attached : Option String)

def shape (argument : String) : Shape :=
  match argument.toList with
  | ['-', '-'] => .endOfOptions
  | '-' :: '-' :: body =>
    .long (String.ofList (body.takeWhile (· ≠ '=')))
      (match body.dropWhile (· ≠ '=') with
        | [] => none
        | _ :: value => some (String.ofList value))
  | '-' :: letter :: _ => .short letter
  | _ => .word

def isWord (argument : String) : Bool :=
  match shape argument with
  | .word => true
  | _ => false

/-! ## Options -/

/-- The options that may stand in one place, and what they do to the options read so far. -/
structure Level (σ : Type) where
  hasVersion : Bool
  flags : List (String × (σ → σ))
  /-- Options with values; a value that makes no sense has no effect to give. -/
  valued : List (String × (String → σ → Option σ))

variable {σ : Type}

private def refuse {α : Type} (fault : UsageFault) : Except Halt α := .error (.usage fault)

/-- Whether an option asks for something else than to be set. -/
private def Level.halt? (level : Level σ) (argument : String) : Option Halt :=
  match shape argument with
  | .short 'h' | .long "help" none => some .help
  | .short 'V' | .long "version" none =>
    some (if level.hasVersion then .version else .usage (.unexpected argument))
  | _ => none

/-- Options up to the first argument that is none, and the arguments from there on. `seen` lists
the options read so far. -/
def Level.read (level : Level σ) :
    List String → (seen : List String) → σ → Except Halt (σ × List String)
  | [], _, options => .ok (options, [])
  | argument :: rest, seen, options =>
    match level.halt? argument with
    | some halt => .error halt
    | none =>
      match shape argument with
      | .word | .endOfOptions => .ok (options, argument :: rest)
      | .short _ => refuse (.unexpected argument)
      | .long name attached =>
        if seen.contains name then refuse (.repeated name)
        else match level.flags.lookup name, level.valued.lookup name, attached, rest with
          | some set, _, none, rest => level.read rest (name :: seen) (set options)
          | none, some set, some value, rest =>
            match set value options with
            | some options => level.read rest (name :: seen) options
            | none => refuse (.invalidValue name value)
          | none, some set, none, value :: rest =>
            if !isWord value then refuse (.missingValue name)
            else match set value options with
              | some options => level.read rest (name :: seen) options
              | none => refuse (.invalidValue name value)
          | none, some _, none, [] => refuse (.missingValue name)
          | _, _, _, _ => refuse (.unexpected argument)

/-! ## Values -/

/-- A path, which is never empty. -/
def path? (value : String) : Option String := if value.isEmpty then none else some value

def mode? (value : String) : Option Mode :=
  [("baseline", Mode.baseline), ("threshold", .threshold), ("trim", .trim)].lookup value

/-- A machine word in decimal, behind one plus sign at most. -/
def word? (value : String) : Option Nat :=
  let digits := match value.toList with
    | '+' :: rest => rest
    | cs => cs
  if digits.isEmpty || !digits.all Char.isDigit then none
  else
    let n := digits.foldl (fun n c ↦ 10 * n + (c.toNat - '0'.toNat)) 0
    if n ≤ maxWord then some n else none

/-! ## Tasks -/

def programLevel : Level ProgramOptions where
  hasVersion := true
  flags := [("json", fun o ↦ { o with json := true })]
  valued := [
    ("config", fun value o ↦ (path? value).map fun path ↦ { o with configPath := path }),
    ("devices", fun value o ↦ (path? value).map fun path ↦ { o with boardsPath := some path }),
    ("log-level", fun value o ↦ some { o with logLevel := some value })]

def calibrateLevel : Level Overrides where
  hasVersion := false
  flags := [("write-back", fun o ↦ { o with writeBack := true })]
  valued := [
    ("mode", fun value o ↦ (mode? value).map fun mode ↦ { o with mode := some mode }),
    ("out-dir", fun value o ↦ (path? value).map fun path ↦ { o with outDir := some path }),
    ("jobs", fun value o ↦ (word? value).map fun jobs ↦ { o with jobs := some jobs })]

def selfCheckLevel : Level Unit := ⟨false, [], []⟩

/-- Options of a command, behind which nothing may follow. -/
private def readAll (level : Level σ) (arguments : List String) (start : σ) : Except Halt σ := do
  match ← level.read arguments [] start with
  | (options, []) | (options, ["--"]) => return options
  | (_, "--" :: argument :: _) | (_, argument :: _) => refuse (.unexpected argument)

def taskNames : List String := ["calibrate", "self-check", "help"]

private def task (name : String) (arguments : List String) : Except Halt Task :=
  match name with
  | "calibrate" => do return .calibrate (← readAll calibrateLevel arguments {})
  | "self-check" => do
    let _ ← readAll selfCheckLevel arguments ()
    return .selfCheck
  | "help" =>
    match arguments with
    | [] => .error .help
    | [topic] => if taskNames.contains topic then .error .help else refuse (.unexpected topic)
    | _ :: argument :: _ => refuse (.unexpected argument)
  | name => refuse (.unexpected name)

/-- What the arguments of a call ask for. -/
def parse (arguments : List String) : Except Halt Invocation := do
  match ← programLevel.read arguments [] {} with
  | (_, []) => refuse .missingCommand
  | (options, name :: rest) => return ⟨options, ← task name rest⟩

end Arguments

end ThresholdTrim
