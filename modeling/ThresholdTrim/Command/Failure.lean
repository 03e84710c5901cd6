import ThresholdTrim.Command.Path
import ThresholdTrim.Config.BoardList
import ThresholdTrim.Config.Decode
import ThresholdTrim.Config.Validate
import ThresholdTrim.Error
import ThresholdTrim.FrontEnd
import ThresholdTrim.Json

/-!
# Failures of a command

A command fails for a cause, and what it was about when it did is put around the cause: a failure
is worded by the outermost of these contexts. For the user it is explained, with likely causes and
a remedy, and told apart by an exit code: 3 when nothing could be set up, 4 when no device was
calibrated, 5 when the run was interrupted, 1 for anything else.
-/

namespace ThresholdTrim

inductive Cause
  | setup (error : SetupError)
  | run (error : RunError)
  | calibration (error : CalibrationError Float)
  | frontEnd (error : FrontEndError)
  | config (fault : ConfigFault)
  /-- The text of a configuration cannot be read. -/
  | configText (text : String) (fault : ConfigTextFault)
  | boardList (path : String) (fault : BoardListFault)
  /-- There is no text to be had at the path of a list of boards. -/
  | boardListFile (path : String) (fault : FileFault)
  | file (fault : FileFault)
  /-- A failure that is only worded. -/
  | worded (text : String)

def Cause.message : Cause → String
  | .setup error => error.message
  | .run error => error.message
  | .calibration error => error.message
  | .frontEnd error => error.message
  | .config fault => fault.message
  | .configText text fault => fault.message text
  | .boardList path fault => fault.message path
  | .boardListFile path fault =>
    let stage := if fault = .isDirectory then "read CSV headers " else "open device CSV "
    stage ++ Text.quoted path ++ ": " ++ fault.message
  | .file fault => fault.message
  | .worded text => text

/-- A cause within contexts, the outermost first. -/
structure Failure where
  cause : Cause
  contexts : List String

namespace Failure

def of (cause : Cause) : Failure := ⟨cause, []⟩

/-- The failure put into a further context. -/
def within (failure : Failure) (context : String) : Failure :=
  { failure with contexts := context :: failure.contexts }

/-- Contexts and cause, from the outside in. -/
def chain (failure : Failure) : List String := failure.contexts ++ [failure.cause.message]

def text (failure : Failure) : String := failure.chain.headD ""

/-- What the outermost context is about, if there is one. -/
def inner? (failure : Failure) : Option String := failure.chain[1]?

/-! ## Explanations -/

/-- What happened, why, and what to do about it. -/
private def explanation (happened causes remedy : String) : String :=
  "What happened: " ++ happened ++ "\nLikely causes: " ++ causes ++ "\nHow to fix: " ++ remedy

private def explainSetup (error : SetupError) : String :=
  match error with
  | .noDevices => explanation "No devices to calibrate."
    ("The config has no [[devices]] tables and no --devices CSV was given, or every entry lists "
      ++ "no vmms.")
    "Add [[devices]] entries (name, side, sector, flavor, vmms) or pass --devices <CSV>."
  | .noChannels device => explanation ("Device " ++ device ++ " has zero channels.")
    "`channels = 0` in its [[devices]] entry."
    "Remove the override or set a positive channel count."
  | .missingFrontEnd | .missingDevice => explanation
    ("The calibrator was built without all of its parts (" ++ error.message ++ ").")
    "Internal wiring error."
    "Re-run with --log-level=debug and report the output."
  | .invalidSettings fault => explanation ("Invalid configuration (" ++ fault.message ++ ").")
    "Missing or out-of-range values in the TOML."
    "Edit the config file, then rerun. See etc/thrcal.toml for a sample."

private def explainRun : RunError → String
  | .interrupted completed total => explanation
    ("Run interrupted after " ++ toString completed ++ " of " ++ toString total ++ " devices.")
    "Ctrl-C or SIGTERM."
    "Outputs for the finished devices were written; rerun to calibrate the rest."
  | .allDevicesFailed devices => explanation
    ("None of the " ++ toString devices ++ " devices could be calibrated.")
    "Front-end not answering, or threshold response outside the slope band."
    ("Check the per-device causes in the log and config.json (every device is masked); run "
      ++ "`self-check` first.")

private def explainStep : CalibrationError Float → String
  | .hardware .timeout => explanation "Front-end read timed out."
    "Link down or front-end not powered."
    "Check the readout link and raise sampling.max_attempts or sampling.retry_delay_ms."
  | error => explanation (error.message ++ ".") "See logs."
    "Re-run with --log-level=debug or set RUST_LOG for more detail."

/-- Whether the wording of the failure speaks of something, in any case. -/
private def mentions (failure : Failure) (phrase : String) : Bool :=
  Text.contains (Text.lowerAscii failure.text) phrase

/-- Whether the failure is worded as one of the configuration. -/
def isConfigFailure (failure : Failure) : Bool :=
  failure.mentions "invalid configuration" || failure.mentions "parse config"

/-- Explanation of a failure that is known by its wording alone. -/
private def explainText (failure : Failure) : String :=
  if failure.mentions "read config" then
    explanation "Could not read the config file." "Wrong --config path."
      ("Pass --config <FILE>; see etc/thrcal.toml for a sample. (" ++ failure.text ++ ")")
  else if failure.isConfigFailure then
    explanation "Configuration is invalid or incomplete." failure.cause.message
      "Edit the TOML config and try again."
  else if failure.mentions "device csv must have headers" then
    "Invalid headers in device CSV. Expected 'name,side,sector,flavor,vmms'."
  else
    "Something went wrong."
      ++ (match failure.inner? with
        | some inner => " Cause: " ++ inner
        | none => "")
      ++ "\nHow to fix: Re-run with --log-level=debug for details. Original: " ++ failure.text

/-- Explanation for the user. The cause decides where its kind is known, whatever the contexts
are; otherwise the wording does. -/
def explain (failure : Failure) : String :=
  match failure.cause with
  | .setup error => explainSetup error
  | .run error => explainRun error
  | .calibration error => explainStep error
  | _ => failure.explainText

/-! ## Codes -/

/-- What a failure counts as. -/
inductive Kind
  | setup
  | nothingCalibrated
  | interrupted
  | other
  deriving DecidableEq

def kind (failure : Failure) : Kind :=
  match failure.cause with
  | .setup _ => .setup
  | cause =>
    if failure.isConfigFailure then .setup
    else match cause with
      | .run (.allDevicesFailed _) => .nothingCalibrated
      | .run (.interrupted _ _) => .interrupted
      | _ => .other

def Kind.exitCode : Kind → Nat
  | .setup => 3
  | .nothingCalibrated => 4
  | .interrupted => 5
  | .other => 1

def Kind.reason : Kind → String
  | .setup => "Setup"
  | .nothingCalibrated => "AllDevicesFailed"
  | .interrupted => "Interrupted"
  | .other => "Error"

/-- Counts that go with a failed run. -/
private def details : Cause → List (String × Json)
  | .run (.interrupted completed total) =>
    [("details", .ofMembers [("completed", .nat completed), ("total", .nat total)])]
  | .run (.allDevicesFailed devices) => [("details", .ofMembers [("devices", .nat devices)])]
  | _ => []

/-- The failure as data. -/
def json (failure : Failure) : Json :=
  .ofMembers ([
    ("reason", .str failure.kind.reason),
    ("exit_code", .nat failure.kind.exitCode),
    ("message", .str failure.explain)] ++ details failure.cause)

end Failure

end ThresholdTrim
