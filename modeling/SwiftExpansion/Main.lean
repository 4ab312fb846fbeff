import SwiftExpansion.Command.Run

/-!
# The command line

Reads the files that the arguments name, runs the command on them, and carries out what it left
behind: its output, its log, and the file it wrote.
-/
namespace SwiftExpansion.Command

/-- The texts among the arguments that may be paths: the arguments themselves, what follows an
equals sign, and what follows a short option. -/
def candidatePaths (args : List String) : List String :=
  args.flatMap fun arg =>
    arg :: (splitOption arg).2.toList ++ [String.ofList (arg.toList.drop 2)]

def stations (path : String) : List String :=
  let names := Path.names path
  (List.range names.length).map fun i => "/".intercalate (names.take (i + 1))

def pathOf : Place → String
  | "/" :: names => "/" ++ "/".intercalate names
  | names => "/".intercalate names

def explore (store : Store) (path : String) : IO Store := do
  if path.isEmpty then return store
  else
    let place := (store.resolve (Path.shown path)).1
    match ← (IO.FS.readBinFile path).toBaseIO with
    | .ok content => return store.put place content.toList
    | .error (.inappropriateType ..) =>
      return { store with directories := place :: store.directories }
    | .error _ => return store

def commit (before after : Store) : IO Unit :=
  after.files.forM fun (place, octets) => do
    unless before.files.lookup place == some octets do
      IO.FS.writeBinFile (pathOf place) ⟨octets.toArray⟩

/-- The memory that a text may take. -/
abbrev machine : Memory :=
  ⟨0x1000000000⟩

open scoped Console Editor in
def execute (args : List String) : IO UInt32 := do
  let _ := machine
  let before ← ((candidatePaths args).flatMap stations).foldlM explore ⟨[], []⟩
  let outcome := run before args
  commit before outcome.store
  for r in Journal.visible .info outcome.events do
    IO.eprintln (r.level.name ++ " - " ++ r.message)
  IO.print outcome.stdout
  IO.eprint outcome.stderr
  if let some f := outcome.escaped then IO.eprintln f.message
  return UInt32.ofNat outcome.exitCode

end SwiftExpansion.Command

def main (args : List String) : IO UInt32 :=
  SwiftExpansion.Command.execute args
