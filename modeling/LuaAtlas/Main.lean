/-
The program: it reads the files that a command is about, runs the command on them, and prints what it
gives.
-/
import LuaAtlas.CommandLine

namespace LuaAtlas.Main

open LuaAtlas.CommandLine

/-- Adds the file at a location to the disk, with its bytes if it may be opened. -/
def readFile (disk : Disk) (l : Location) (path : String) : IO Disk := do
  try
    return disk.write l (← IO.FS.readBinFile path).toList
  catch _ => return { disk.write l [] with locked := disk.locked ++ [l] }

/-- Adds what stands at a location to the disk: a file with its bytes, a directory with all below it.
Links and directories that cannot be read are left out. -/
partial def readInto (disk : Disk) (l : Location) : IO Disk := do
  try
    let path ← IO.FS.realPath (Location.path l).shown
    if OsText.ofString path.toString ≠ Location.path l then return disk
    else if ← path.isDir then
      let names := (← path.readDir).toList.map (·.fileName)
      names.foldlM (fun disk name => readInto disk (l ++ [OsText.ofString name]))
        { disk with directories := disk.directories ++ [l] }
    else readFile disk l path.toString
  catch _ => return disk

/-- Adds what a path leads to, unless it has been read already. -/
def readPath (disk : Disk) (path : OsText) : IO Disk := do
  try
    let l := Location.parts (← IO.FS.realPath path.shown).toString
    if disk.directories.contains l || disk.files.any (·.1 = l) then return disk else readInto disk l
  catch _ => return disk

/-- The file that a query is about. -/
def fileOf? : CommandLine.Query → Option String
  | .index _ | .symbols _ _ => none
  | .search file _ _ _ | .definition file _ | .references file _ | .complete file _ _ | .resolve file _
  | .outline file => some file

/-- Adds the exclude files that the `.git` files on the disk lead to. -/
def readExcludes (disk : Disk) : IO Disk := do
  let own := disk.files.filterMap fun (l, bytes) =>
    if l.getLast? = some (OsText.ofString ".git") then Scan.ownDirectory? bytes else none
  let disk ← (own.map (Location.join · "commondir")).foldlM readPath disk
  ((own.filterMap (Scan.commonDirectory? disk)).map Scan.excludePath).foldlM readPath disk

/-- The part of the disk that a command is about: its workspace, its settings, the stubs that they
name, and its file. -/
def diskFor (c : Command) : IO Disk := do
  let current := Location.parts (← IO.FS.realPath ".").toString
  let file? := (fileOf? c.query).map fun file => if file.startsWith "/" then file else c.workspace ++ "/" ++ file
  let paths := ([c.workspace] ++ c.config?.toList ++ file?.toList).map OsText.ofString
  let disk ← paths.foldlM readPath { files := [], directories := [], current }
  let stubs := match Config.load disk c.config? with
    | .ok config => config.stdlibDir?.toList ++ config.userDir?.toList
    | .error _ => []
  let disk ← readExcludes (← stubs.foldlM readPath disk)
  return { disk with directories := current :: disk.directories }

/-- Prints a response, and saves what is to be saved; a file that cannot be written does not matter. -/
def perform (r : Response) : IO Unit := do
  match r with
  | .printed text => IO.println text
  | .answered text saveTo? =>
    for path in saveTo?.toList do
      try IO.FS.writeFile path text
      catch e => IO.eprintln ("Failed to save statistics: " ++ toString e)
    IO.println text
  | .failed e => IO.eprintln ("Error: " ++ e.message)
  | .misused e => IO.eprintln ("error: " ++ e.message ++ "\n\n" ++ usage)

/-- The disk that the arguments are about. -/
def diskForArguments (args : List String) : IO Disk :=
  match Request.ofArguments args with
  | .ok (.run c) => diskFor c
  | _ => return .empty

end LuaAtlas.Main

open LuaAtlas LuaAtlas.CommandLine in
/-- Runs the program. -/
def main (args : List String) : IO UInt32 := do
  let r := respond (← LuaAtlas.Main.diskForArguments args) args
  LuaAtlas.Main.perform r
  return r.exitCode.toUInt32
