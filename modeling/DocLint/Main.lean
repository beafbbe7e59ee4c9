import DocLint.Command.Run

/-!
# The program

Reads the present directory into a tree, runs the command line in it, prints what the command says
and writes the one file that a command may write.
-/

namespace DocLint.Program

/-- The path from a directory `depth` steps below the root to a path from the root. -/
def fromDepth (depth : Nat) (path : String) : String :=
  String.join (List.replicate depth "../") ++ path

/-- The target of a link. One that leads out of the root, or nowhere, leads nowhere in the tree. -/
def linkTarget (root : String) (depth : Nat) (real : String) : Text :=
  match Text.after? (root ++ "/").toList real.toList with
  | some rest => (fromDepth depth (String.ofList rest)).toList
  | none => ['/']

/-- Reads a directory of the disk into a tree. Files that are too large to be checked are not read. -/
partial def load (root : String) (depth : Nat) (entries : Array IO.FS.DirEntry) : IO Tree := do
  let mut found : Array (Text × Tree) := #[]
  for e in entries do
    let info ← e.path.symlinkMetadata
    let name := e.fileName.toList
    match info.type with
    | .dir => found := found.push (name, ← load root (depth + 1) (← e.path.readDir))
    | .symlink =>
      let real ← try (fun p => p.toString) <$> IO.FS.realPath e.path catch _ => pure "/"
      found := found.push (name, .link (linkTarget root depth real))
    | .file =>
      let size := info.byteSize.toNat
      if Linter.maxFileSize < size then found := found.push (name, .file ⟨[0], size⟩)
      else
        let bytes ← IO.FS.readBinFile e.path
        found := found.push (name, .file ⟨bytes.toList, 1⟩)
    | .other => pure ()
  return .dir found.toList

def logText : Command.LogLine → String
  | .info m => "INFO " ++ String.ofList m
  | .warn m => "WARN " ++ String.ofList m
  | .error m => "ERROR " ++ String.ofList m
  | .fatal m => "ERROR " ++ String.ofList m

/-- Writes the new configuration to the disk if the command put it into the tree. -/
def store (args : List Text) (o : Command.Outcome) : IO Unit := do
  match Invocation.parse? args with
  | some (.init _) =>
    if o.exit == 0 then
      let path := String.ofList Command.newConfigFile
      try IO.FS.removeFile path catch _ => pure ()
      IO.FS.writeFile path (String.ofList Command.newConfigText)
  | _ => pure ()

end DocLint.Program

open DocLint in
/-- Runs the command line. -/
def main (args : List String) : IO UInt32 := do
  let root ← IO.FS.realPath (← IO.currentDir)
  let tree ← Program.load root.toString 0 (← root.readDir)
  let args := args.map String.toList
  let o := Command.run tree args
  for l in o.log do
    IO.eprintln (Program.logText l)
  IO.print (String.ofList o.stdout)
  Program.store args o
  return UInt32.ofNat o.exit
