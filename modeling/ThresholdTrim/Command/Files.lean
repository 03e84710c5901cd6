import ThresholdTrim.Command.Path

/-!
# Files

The files and directories a run finds and leaves behind, each at its place. A path is followed from
directory to directory; what stops it, or what its end cannot be used for, is a `FileFault`.

The view of a collection is `node?`. The working directory, those above it and the root are always
there.
-/

namespace ThresholdTrim

inductive Node
  | file (text : String)
  | directory
  deriving DecidableEq

structure Files where
  nodes : List (Place × Node)

namespace Files

def empty : Files := ⟨[]⟩

/-! ## Places -/

def node? (files : Files) (place : Place) : Option Node :=
  if place.names.isEmpty then some .directory else files.nodes.lookup place

def insert (files : Files) (place : Place) (node : Node) : Files :=
  ⟨(place, node) :: files.nodes.filter fun entry ↦ entry.1 ≠ place⟩

/-- Where steps lead from a place. Each of them starts in a directory; at the end there need not be
anything yet. -/
def follow (files : Files) (place : Place) : List Step → Except FileFault Place
  | [] => .ok place
  | step :: steps =>
    match files.node? place, step with
    | none, _ => .error .notFound
    | some (.file _), _ => .error .notDirectory
    | some .directory, .down name =>
      if Place.maxName < name.utf8ByteSize then .error .tooLong
      else files.follow (place.step (.down name)) steps
    | some .directory, step => files.follow (place.step step) steps

def locate (files : Files) (path : FilePath) : Except FileFault Place :=
  files.follow path.start path.steps

/-- What a path leads to; a path to a directory does not lead to a file. -/
def find (files : Files) (path : FilePath) : Except FileFault (Place × Option Node) := do
  let place ← files.locate path
  match files.node? place, path.closed with
  | some (.file _), true => throw .notDirectory
  | node?, _ => return (place, node?)

/-- Whether a path leads to a directory. -/
def isDirectory (files : Files) (path : FilePath) : Bool :=
  match files.find path with
  | .ok (_, some .directory) => true
  | _ => false

/-! ## Use -/

/-- Work on files that may fail; the files keep what was done up to the failure. -/
abbrev Work := ExceptT FileFault (StateM Files)

/-- The text of the file at a path. -/
def read (files : Files) (path : FilePath) : Except FileFault String := do
  match ← files.find path with
  | (_, some (.file text)) => return text
  | (_, some .directory) => throw .isDirectory
  | (_, none) => throw .notFound

/-- The text at a path that is written as a text. -/
def textAt (path : String) : Work String := do
  let path ← FilePath.parse path
  (← get).read path

/-- Gives the file at a path a new text, which may depend on the one it has. -/
def update (path : FilePath) (change : Option String → String) : Work Unit := do
  let files ← get
  let place ← files.locate path
  if path.closed then throw .isDirectory
  match files.node? place with
  | some .directory => throw .isDirectory
  | some (.file text) => set (files.insert place (.file (change (some text))))
  | none => set (files.insert place (.file (change none)))

def write (path : FilePath) (text : String) : Work Unit := update path fun _ ↦ text

/-- Makes sure that there is a file, without a change to one that is there. -/
def touch (path : FilePath) : Work Unit := update path (·.getD "")

/-- Makes a directory where there is nothing yet. -/
def makeDirectory (path : FilePath) : Work Unit := do
  let files ← get
  let place ← files.locate path
  if (files.node? place).isSome then throw .exists
  set (files.insert place .directory)

/-- Makes sure that there is a directory, in one that is there. -/
def ensureDirectory (path : FilePath) : Work Unit :=
  tryCatch (makeDirectory path) fun fault ↦ do
    if !(← get).isDirectory path then throw fault

/-- Makes sure that there is a directory, and for that the directories it is in, given last one
first. -/
def ensureWithin (path : FilePath) : (ancestors : List FilePath) → Work Unit
  | [] => ensureDirectory path
  | parent :: ancestors =>
    tryCatch (ensureDirectory path) fun fault ↦ do
      if fault ≠ .notFound then throw fault
      ensureWithin parent ancestors
      ensureDirectory path

/-- Makes sure that there is a directory and all on the way to it. -/
def ensureDirectories (path : FilePath) : Work Unit := ensureWithin path path.ancestors

/-- Makes sure that there is a file, and for that the directories it is in. -/
def touchWithin (path : FilePath) : Work Unit :=
  tryCatch (touch path) fun _ ↦ do
    ensureDirectories path.parent
    touch path

/-- Files in the working directory and below, by their path. -/
def ofList (files : List (String × String)) : Files :=
  files.foldl (fun files (path, text) ↦
    let path := FilePath.ofText path
    ((do ensureDirectories path.parent; write path text).run files).2) empty

/-! ## Operations through their view -/

@[simp] theorem node?_empty (place : Place) :
    empty.node? place = if place.names.isEmpty then some .directory else none := rfl

/-- What is at other places stays when the entries of one place go. -/
private theorem lookup_filter_ne {place other : Place} (h : other ≠ place) :
    ∀ nodes : List (Place × Node),
      (nodes.filter fun entry ↦ entry.1 ≠ place).lookup other = nodes.lookup other
  | [] => rfl
  | (spot, found) :: nodes => by
    have ih := lookup_filter_ne h nodes
    by_cases here : spot = place
    · have apart : (other == spot) = false := by simpa [here] using h
      rw [List.filter_cons_of_neg (by simpa using here), ih, List.lookup_cons, apart]
    · rw [List.filter_cons_of_pos (by simpa using here), List.lookup_cons, List.lookup_cons, ih]

theorem node?_insert (files : Files) (place other : Place) (node : Node) :
    (files.insert place node).node? other =
      if other.names.isEmpty then some .directory
      else if other = place then some node
      else files.node? other := by
  by_cases top : other.names.isEmpty
  · simp [node?, top]
  · by_cases same : other = place
    · subst same
      simp [node?, insert, top]
    · have apart : (other == place) = false := by simpa using same
      simp only [node?, insert, top, same, List.lookup_cons, apart, if_false]
      exact lookup_filter_ne same files.nodes

end Files

end ThresholdTrim
