import ThresholdTrim.Command.Arguments
import ThresholdTrim.Command.Calibrate
import ThresholdTrim.Command.Files

/-!
# The program

A call of the program as a function of its arguments and the files it finds: what it prints, the
files it leaves behind and its exit code. A failure is explained on the error stream.

The simulated devices of a call draw their numbers from whatever generator the call is made with.
The program comes with one, a sequence of pseudo-random words.
-/

namespace ThresholdTrim.Program

/-- Name of the row log in the output directory. -/
def rowLogName : String := "thresholds.tsv"

/-- Name of the register document in the output directory. -/
def documentName : String := "config.json"

/-- The work of a command: it may fail, and the files keep what was done up to the failure. -/
abbrev Session := ExceptT Failure (StateM Files)

/-- Work on files, with what a fault in it makes of the command. -/
private def attempt {α : Type} (failure : FileFault → Failure) (work : Files.Work α) :
    Session α :=
  ExceptT.adapt failure work

private def aboutFile (context : String) (fault : FileFault) : Failure :=
  (Failure.of (.file fault)).within context

/-! ## Preparation -/

/-- The configuration at a path. -/
def loadConfig (path : String) : Session (Config Float) := do
  let text ← attempt (aboutFile ("read config " ++ path)) (Files.textAt path)
  (Config.parse text).mapError fun fault ↦
    (Failure.of (.configText text fault)).within ("parse config " ++ path)

/-- The boards listed at a path. -/
def loadBoards (path : String) : Session (List BoardEntry) := do
  let text ← attempt (fun fault ↦ Failure.of (.boardListFile path fault)) (Files.textAt path)
  (BoardList.parse text).mapError fun fault ↦ Failure.of (.boardList path fault)

/-- The path of the log: it ends in a name, or there is no log. -/
def logPath? (logging : LogSettings) : Option FilePath :=
  (logging.file.map FilePath.ofText).filter fun path ↦ path.name?.isSome

/-- A log that is never split has one file, made before anything is logged. A log that is split by
time has none of a fixed name, in a directory that is made. -/
def openLog (logging : LogSettings) : Session Unit :=
  match logPath? logging with
  | none => pure ()
  | some path => attempt (aboutFile "open log") <|
    if logging.rotation = some "daily" ∨ logging.rotation = some "hourly" then
      Files.ensureDirectories path.parent
    else Files.touchWithin path.toFile

/-- A configuration that makes sense. -/
def checkConfig (config : Config Float) : Except Failure Unit :=
  config.validate.mapError fun fault ↦ (Failure.of (.config fault)).within "invalid configuration"

/-- The configuration, with boards in place of its own if there are such, checked, and its
devices. -/
def prepare (boards : Option (List BoardEntry)) (config : Config Float) :
    Except Failure (Config Float × List DeviceSpec) := do
  let config := { config with boards := boards.getD config.boards }
  checkConfig config
  return (config, ← Command.listDevices config)

/-! ## Commands -/

variable [Generator]

private def lines (texts : List String) : String := String.join (texts.map (· ++ "\n"))

/-- What a calibration prints: a line for every device, and a last one unless data is asked for. -/
def calibrationText (json : Bool) (outDir : String) (summaries : List Command.DeviceSummary) :
    String :=
  if json then lines (summaries.map fun summary ↦ summary.json.compact)
  else
    let resolved := summaries.countP Command.DeviceSummary.isResolved
    lines (summaries.map Command.DeviceSummary.line ++
      ["calibration complete: " ++ toString resolved ++ "/" ++ toString summaries.length
        ++ " devices resolved, outputs in " ++ outDir])

/-- Writes a file of outputs; `context` says what went on if that fails. -/
def writeFile (context path text : String) : Session Unit :=
  attempt (aboutFile (context ++ " " ++ path)) do Files.write (← FilePath.parse path) text

/-- Writes the outputs into a directory, which is made if it is missing. -/
def writeOutputs (dir : String) (outcome : Command.CalibrationOutcome) : Session Unit := do
  if !dir.isEmpty then
    attempt (aboutFile ("create output dir " ++ dir)) do
      Files.ensureDirectories (← FilePath.parse dir)
  writeFile "create" (joinPath dir rowLogName) outcome.rowLog
  writeFile "write" (joinPath dir documentName) outcome.document

/-- Writes the outputs of a run and says how it went, in this order: what was finished is not lost
with a run that counts as failed. -/
def settle (dir : String) (outcome : Command.CalibrationOutcome) :
    Session (List Command.DeviceSummary) := do
  writeOutputs dir outcome
  outcome.result

/-- Calibrates the devices and leaves the outputs behind. -/
def calibrate (json : Bool) (config : Config Float) (options : RunOptions)
    (specs : List DeviceSpec) : Session String := do
  let outcome := Command.calibrate config options false specs
  return calibrationText json options.outDir (← settle options.outDir outcome)

def selfCheckText (json : Bool) (probed : Nat) : String :=
  if json then
    lines [(Json.ofMembers [("self_check", .str "ok"), ("devices", .nat probed)]).compact]
  else lines ["OK (" ++ toString probed ++ " devices probed)"]

/-- Carries out a call of the program; the result is what it prints. -/
def run (invocation : Invocation) : Session String := do
  let options := invocation.options
  let config ← loadConfig options.configPath
  openLog config.logging
  let boards ← options.boardsPath.mapM loadBoards
  let (config, specs) ← prepare boards config
  match invocation.task with
  | .calibrate overrides =>
    calibrate options.json config (.resolve config.run overrides) specs
  | .selfCheck => (Command.selfCheck config specs).map (selfCheckText options.json)

/-- The paths a call uses besides the one of its configuration, of which the text is given if it
can be read. -/
def furtherPaths (invocation : Invocation) (configText : Option String) : List FilePath :=
  let config? := configText.bind fun text ↦ (Config.parse text).toOption
  let log := config?.bind fun config ↦ logPath? config.logging
  let outputs := match config?, invocation.task with
    | some config, .calibrate overrides =>
      let dir := (RunOptions.resolve config.run overrides).outDir
      [rowLogName, documentName].map fun name ↦ FilePath.ofText (joinPath dir name)
    | _, _ => []
  invocation.options.boardsPath.toList.map FilePath.ofText ++ log.toList ++ outputs

/-! ## Streams -/

/-- What the user sees of an outcome. -/
structure Streams where
  out : String
  err : String
  code : Nat

def streams (json : Bool) (result : Except Failure String) : Streams :=
  match result with
  | .ok text => ⟨text, "", 0⟩
  | .error failure =>
    ⟨"", lines [if json then failure.json.compact else failure.explain], failure.kind.exitCode⟩

def helpText : String := lines [
  "Front-end threshold and trim calibration",
  "",
  "Usage: thrcal [--config <FILE>] [--devices <FILE>] [--json] [--log-level <LEVEL>] <COMMAND>",
  "",
  "Commands:",
  "  calibrate   Calibrate every configured device and write the row log and register document",
  "              [--mode baseline|threshold|trim] [--out-dir <DIR>] [--jobs <N>] [--write-back]",
  "  self-check  Validate the config and probe one channel of every device"]

/-- What the user sees when no command is run. -/
def haltStreams : Halt → Streams
  | .help => ⟨helpText, "", 0⟩
  | .version => ⟨"thrcal 0.1.0\n", "", 0⟩
  | .usage fault =>
    ⟨"", lines ["error: " ++ fault.message, "", "For more information, try '--help'."], 2⟩

/-! ## Pseudo-random words -/

/-- State of a sequence of pseudo-random words. -/
structure Words where
  state : UInt64

namespace Words

/-- The next word: the state moves by a fixed odd step and is scrambled. -/
def next (words : Words) : UInt64 × Words :=
  let state : UInt64 := words.state + 0x9e3779b97f4a7c15
  let z := (state ^^^ (state >>> 30)) * 0xbf58476d1ce4e5b9
  let z := (z ^^^ (z >>> 27)) * 0x94d049bb133111eb
  (z ^^^ (z >>> 31), ⟨state⟩)

def word : StateM Words UInt64 := modifyGet next

/-- A number in `[0, 1)`, with 53 random bits. -/
def unit : StateM Words Float :=
  return Float.ofNat ((← word) >>> 11).toNat / 9007199254740992

end Words

/-- An event is certain at probability 1 and impossible at 0. Normal deviates are made of two
uniform numbers each. -/
instance : Generator where
  State := Words
  start seed := ⟨seed⟩
  event p := return decide ((← Words.unit) < p)
  between low high := return low + (← Words.word).toNat % (high - low + 1)
  normal := do
    let u ← Words.unit
    let v ← Words.unit
    return Float.sqrt (-2 * Float.log (1 - u)) * Float.cos (6.283185307179586 * v)

end ThresholdTrim.Program
