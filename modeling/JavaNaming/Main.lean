import JavaNaming.Command.Outline

/-!
# Programs

The checker and the outline printer as programs. They take a snapshot of the files that their arguments
can lead to, and leave the rest to `Command.run` and `Command.printOutline`.
-/

namespace JavaNaming.Program

open Files (FileSystem Node)

/-- The names that lead from the root to what is at a path. Links are followed. -/
def realNames? (path : String) : IO (Option (List String)) := do
  match ← (IO.FS.realPath path).toBaseIO with
  | .ok place => return some ((Files.parts place.toString).filter (· ≠ ""))
  | .error _ => return none

/-- What is at a path, with everything below it. Links are kept, but not those that lead nowhere. -/
partial def snapshot (path : String) : IO (Option Node) := do
  let place := (← IO.currentDir) / path
  let .ok data ← place.symlinkMetadata.toBaseIO | return none
  match data.type with
  | .dir =>
    let .ok entries ← place.readDir.toBaseIO | return some (.directory [] false)
    let below ← entries.toList.filterMapM fun e =>
      return (← snapshot (Files.join path e.fileName)).map (e.fileName, ·)
    return some (.directory below)
  | .file =>
    match ← (IO.FS.readBinFile place).toBaseIO with
    | .ok content => return some (.file content)
    | .error _ => return some (.file .empty false)
  | .symlink => return (← realNames? path).map .link
  | .other => return none

/-- Whether there is a link at a path. -/
def isLink (path : String) : IO Bool := do
  match ← ((← IO.currentDir) / path).symlinkMetadata.toBaseIO with
  | .ok data => return data.type == .symlink
  | .error _ => return false

/-- What a path leads to, and the directories and links on the way, each with the names that lead there
from the root. Of the directories on the way nothing but their place is taken. -/
def snapshotsFor (path : String) : IO (List (List String × Option Node)) := do
  let mut found := []
  let mut above := if Files.isAbsolute path then "/" else "."
  for part in Files.parts path do
    let next := Files.join above part
    if let some names ← realNames? above then
      found := (names, none) :: found
      if ← isLink next then
        if let some target ← realNames? next then
          found := (names ++ [part], some (.link target)) :: found
    above := next
  if let some names ← realNames? path then
    if let some node ← snapshot ("/" ++ "/".intercalate names) then
      found := (names, some node) :: found
  return found

/-- The files that some paths lead to. -/
def filesAt (paths : List String) : IO FileSystem := do
  let here := (← realNames? ".").getD []
  -- What is further below is put later, so that nothing is lost below a directory that cannot be listed.
  let found := (← paths.mapM snapshotsFor).flatten.mergeSort fun a b => a.1.length ≤ b.1.length
  let put := fun (root : Node) (names, node?) =>
    match node?, root.at? names with
    | none, some _ => root
    | _, _ => Node.put (node?.getD .empty) names root
  return ⟨(found ++ [(here, none)]).foldl put .empty, here⟩

/-- The paths that arguments can lead to. -/
def pathsOf (args : List String) : List String :=
  match Command.Request.ofArguments args with
  | .ok (.check o) => o.paths ++ o.config?.toList ++ [Command.standardConfig]
  | _ => []

/-- Print what a program leaves behind. -/
def finish (o : Command.Outcome) : IO UInt32 := do
  o.log.forM IO.eprintln
  IO.eprint o.errors
  IO.print o.output
  return o.status.toUInt32

/-- All bytes of a stream. -/
partial def readAll (input : IO.FS.Stream) (start : ByteArray) : IO ByteArray := do
  let chunk ← input.read 65536
  if chunk.isEmpty then return start else readAll input (start ++ chunk)

/-- The outline printer. -/
def printOutline (args : List String) : IO UInt32 := do
  let fs ← filesAt (args.take 1)
  let input ← if args.isEmpty then readAll (← IO.getStdin) .empty else pure .empty
  finish (Command.printOutline fs args input)

end JavaNaming.Program

/-- The checker. -/
def main (args : List String) : IO UInt32 := do
  let fs ← JavaNaming.Program.filesAt (JavaNaming.Program.pathsOf args)
  JavaNaming.Program.finish (JavaNaming.Command.run fs args)
