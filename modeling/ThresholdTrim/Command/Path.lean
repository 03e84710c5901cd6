import ThresholdTrim.Text

/-!
# Paths

A path leads from the root or from the working directory, step by step, to a file or a directory.
It is kept as it is written: a step that stays or goes up still needs a directory to start from, so
that `a/..` leads nowhere when there is no `a`. What a path leads to is decided in `Files`.
-/

namespace ThresholdTrim

/-- A step on a path. -/
inductive Step
  | stay
  | up
  | down (name : String)
  deriving DecidableEq

/-- A path from the root, or from the working directory. -/
structure FilePath where
  absolute : Bool
  steps : List Step
  /-- Whether a slash ends the path: it means a directory then. -/
  closed : Bool
  deriving DecidableEq

/-- Why a path cannot be used. -/
inductive FileFault
  | notFound
  | exists
  | notDirectory
  | isDirectory
  | tooLong
  | notText
  deriving DecidableEq

def FileFault.message : FileFault → String
  | .notFound => "No such file or directory (os error 2)"
  | .exists => "File exists (os error 17)"
  | .notDirectory => "Not a directory (os error 20)"
  | .isDirectory => "Is a directory (os error 21)"
  | .tooLong => "File name too long (os error 36)"
  | .notText => "file name contained an unexpected NUL byte"

/-- The directory a place is counted from. -/
inductive Anchor
  | root
  /-- The working directory, or one of those above it. -/
  | above (levels : Nat)
  deriving DecidableEq

/-- Where a file or directory is: names from an anchor down, the last one first. -/
structure Place where
  anchor : Anchor
  names : List String
  deriving DecidableEq

namespace Step

def ofPart (part : String) : Step :=
  if part = "." then .stay else if part = ".." then .up else .down part

/-- A path may hold more than one slash where one is meant. -/
def ofText (text : String) : List Step :=
  let parts := (Text.splitOn '/' text.toList).map String.ofList
  (parts.filter (· ≠ "")).map ofPart

end Step

namespace FilePath

def ofText (text : String) : FilePath where
  absolute := text.startsWith "/"
  steps := Step.ofText text
  closed := text.endsWith "/"

/-- Longest path, in bytes. -/
def maxSize : Nat := 4095

/-- The path a text denotes, if a path can be written so at all. -/
def parse (text : String) : Except FileFault FilePath :=
  if text.toList.contains '\x00' then .error .notText
  else if text.isEmpty then .error .notFound
  else if maxSize < text.utf8ByteSize then .error .tooLong
  else .ok (.ofText text)

/-- Where a path starts. -/
def start (path : FilePath) : Place := ⟨if path.absolute then .root else .above 0, []⟩

/-- The steps up to the last one that does not stay. -/
def core (path : FilePath) : List Step := (path.steps.reverse.dropWhile (· = .stay)).reverse

/-- The name a path ends in, if it does not end on the way up or at its start. -/
def name? (path : FilePath) : Option String :=
  match path.core.getLast? with
  | some (.down name) => some name
  | _ => none

/-- The path without its last step. -/
def parent (path : FilePath) : FilePath :=
  { path with steps := path.core.dropLast, closed := false }

/-- The same path to a file. -/
def toFile (path : FilePath) : FilePath :=
  { path with steps := path.core, closed := false }

/-- The directories a path leads through, the last one first. -/
def ancestors (path : FilePath) : List FilePath :=
  let steps := path.core.filter (· ≠ .stay)
  (List.range steps.length).tail.reverse.map fun count ↦
    { path with steps := steps.take count, closed := false }

end FilePath

namespace Place

/-- Longest name, in bytes. -/
def maxName : Nat := 255

/-- The place a step leads to from a directory; above the root is the root. -/
def step (place : Place) : Step → Place
  | .stay => place
  | .down name => { place with names := name :: place.names }
  | .up =>
    match place.names, place.anchor with
    | _ :: names, _ => { place with names }
    | [], .root => place
    | [], .above levels => ⟨.above (levels + 1), []⟩

/-- Written as a path. -/
def text (place : Place) : String :=
  let names := "/".intercalate place.names.reverse
  match place.anchor with
  | .root => "/" ++ names
  | .above levels => "./" ++ String.join (List.replicate levels "../") ++ names

/-- The places that steps lead through from a place, if all of them are directories. -/
def through (place : Place) : List Step → List Place
  | [] => []
  | step :: steps => place.step step :: (place.step step).through steps

@[simp] theorem step_stay (place : Place) : place.step .stay = place := rfl

/-- Going up undoes going down. -/
@[simp] theorem step_down_up (place : Place) (name : String) :
    (place.step (.down name)).step .up = place := rfl

end Place

/-- The path of a file in a directory. -/
def joinPath (dir name : String) : String :=
  if dir.isEmpty then name
  else if dir.endsWith "/" then dir ++ name
  else dir ++ "/" ++ name

end ThresholdTrim
