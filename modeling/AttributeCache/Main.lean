import AttributeCache.Startup
/-!
# The program

Reads the arguments, the settings and the documents, and starts a node. A
start reads the documents it is told of; here they are fetched one by one
as the start asks for them, and the start is tried again with each. What is
decided is decided by `Startup`. A node that has started is named and not
served.
-/

namespace AttributeCache.Program

/-- The variable of the environment that holds a directive for the log. -/
def directiveVariable : String := "RUST_LOG"

/-- The bytes of a file; `none` where it cannot be read. -/
def readFile? (path : String) : IO (Option Text.Bytes) := do
  try
    return some (← IO.FS.readBinFile path).toList
  catch _ => return none

/-- The tree with what is found on disk at a path; as it was if there is
nothing. What is there and cannot be read is taken for a directory. -/
def fetch (root : String) (tree : FileTree) (path : String) : IO FileTree := do
  try
    let bytes ← IO.FS.readBinFile (Resources.below root (Resources.relative path))
    return tree.write (Resources.relative path) bytes.toList
  catch
    | .noFileOrDirectory .. => return tree
    | _ => return tree.makeDirectory (Resources.relative path)

/-- The document a start did not find. -/
def missing? : Except Startup.Failure Lifecycle → Option String
  | .error (.load (.metadata (.notFound path))) => some path
  | _ => none

/-- Starts until nothing more can be fetched. `around` gives the surroundings
for the documents fetched so far. -/
partial def attempt (now : UInt64) (o : CommandLine.Options) (root : String)
    (around : FileTree → Startup.Surroundings) (asked : List String) (tree : FileTree) :
    IO (Startup.Surroundings × Except Startup.Failure Lifecycle) := do
  let surroundings := around tree
  let outcome := Startup.run now surroundings o
  match missing? outcome with
  | some path =>
    if asked.contains path then return (surroundings, outcome)
    else attempt now o root around (path :: asked) (← fetch root tree path)
  | none => return (surroundings, outcome)

/-- Starts a node and says what came of it. -/
def start (o : CommandLine.Options) : IO UInt32 := do
  let now := UInt64.ofNat (← IO.monoMsNow)
  let contents ← o.config.mapM readFile?
  let directive ← IO.getEnv directiveVariable
  let id := NodeId.ofMoment (BitVec.ofNat 48 now.toNat)
    (BitVec.ofNat 12 (← IO.rand 0 0xFFF), BitVec.ofNat 62 (← IO.rand 0 0x3FFFFFFFFFFFFFFF))
  let around (tree : FileTree) : Startup.Surroundings :=
    { file := fun _ => contents.join, below := fun _ => .directory tree "", directive, id }
  let root := ((Settings.load (around {}).file o.config).toOption.getD {}).resourceRoot
  let (surroundings, outcome) ← attempt now o root around [] {}
  for level in Startup.levels surroundings o do
    IO.println level.name
  match outcome with
  | .ok l =>
    IO.println ("node " ++ l.node.id.text ++ " is loaded")
    return 0
  | .error failure =>
    IO.eprintln ("Error: " ++ failure.message)
    if let some cause := failure.cause? then IO.eprintln ("Caused by: " ++ cause)
    return Startup.failureCode

end AttributeCache.Program

/-- Runs the program. -/
def main (arguments : List String) : IO UInt32 := do
  match AttributeCache.CommandLine.parse arguments with
  | .ok o => AttributeCache.Program.start o
  | .error stop =>
    IO.println AttributeCache.CommandLine.usage
    return stop.exitCode
