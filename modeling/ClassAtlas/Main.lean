import ClassAtlas.CommandLine
import ClassAtlas.Settings.Read
import Std.Time.Zoned

/-!
# The program

Copies the project and the ways to the other files of a run from the disk into a workspace, runs the request
there, writes the files that have changed and prints what was printed. Every file of the project is copied
with its bytes; what there is to be read in it is decided by the run.
-/

namespace ClassAtlas.Program

/-- Copies what lies at a path on the disk to a place of a tree. A link to a directory is not followed, but
for the path itself. -/
def copy (path : String) (place : List String) (t : FileTree) : IO FileTree := do
  let mut tree := t
  let mut pending := [(← IO.FS.realPath path, place)]
  repeat
    match pending with
    | [] => break
    | (here, place) :: rest =>
      pending := rest
      match (← here.metadata).type with
      | .dir =>
        tree := FileTree.plant .emptyDirectory place tree
        if (← IO.FS.realPath here) == here then
          for entry in ← here.readDir do
            pending := (entry.path, place ++ [entry.fileName]) :: pending
      | .file => tree := FileTree.plant (.file (← IO.FS.readBinFile here).data.toList) place tree
      | _ => tree := FileTree.plant .sink place tree
  return tree

/-- Copies what lies at a path, if there is anything. -/
def copyIn (w : Workspace) (path : String) : IO Workspace := do
  let path := Path.absolute w.cwd path
  if ← (System.mkFilePath [path]).pathExists then
    return { w with tree := ← copy path (Path.steps path) w.tree }
  else return w

/-- Copies what lies on the way to a path, directories without what is in them. What is in the workspace
already stays. -/
def copyWay (w : Workspace) (path : String) : IO Workspace := do
  let steps := Path.steps (Path.absolute w.cwd path)
  let mut w := w
  for n in List.range (steps.length + 1) do
    let way := "/" ++ Path.joinNames (steps.take n)
    if !w.exists way then
      if ← (System.mkFilePath [way]).isDir then
        w := { w with tree := FileTree.plant .emptyDirectory (steps.take n) w.tree }
      else w ← copyIn w way
  return w

/-- The workspace that a request is about. -/
def workspaceFor (request : CommandLine.Request) (path : String) : IO Workspace := do
  let cwd := (← IO.FS.realPath ".").toString
  let w ← copyWay ⟨.emptyDirectory, cwd⟩ cwd
  let w ← copyIn w CommandLine.settingsFile
  let w ← copyIn w path
  copyWay w (request.output.getD CommandLine.outputDirectory)

/-- The present moment. -/
def now : IO Moment := do
  let t ← Std.Time.PlainDateTime.now
  return { year := t.year.toInt.toNat, month := t.month.val.toNat, day := t.day.val.toNat
           hour := t.hour.val.toNat, minute := t.minute.val.toNat, second := t.second.val.toNat }

/-- What a run finds around it: settings are read from plain documents, and a console takes every text. -/
def host : IO CommandLine.Host :=
  return { readSettings := Settings.read, console := .patient, now := ← now }

/-- Writes the files that have changed to the disk. -/
def copyOut (old new : Workspace) : IO Unit := do
  for (place, bytes) in FileTree.changedFrom old.tree new.tree do
    IO.FS.createDirAll ("/" ++ Path.joinNames place.dropLast)
    IO.FS.writeBinFile ("/" ++ Path.joinNames place) ⟨bytes.toArray⟩

end ClassAtlas.Program

open ClassAtlas in
/-- Runs the program. -/
def main (arguments : List String) : IO UInt32 := do
  match CommandLine.request arguments with
  | .error stop =>
    match stop.lastLine with
    | some line => IO.eprintln (CommandLine.usage ++ line)
    | none => IO.print CommandLine.help
    return stop.exitCode.toUInt32
  | .ok (request, path) =>
    let w ← Program.workspaceFor request path
    let outcome := CommandLine.run (← Program.host) request path w
    Program.copyOut w outcome.workspace
    IO.print outcome.printed
    IO.eprint outcome.complaints
    return outcome.exitCode.toUInt32
