import IssueDigest.Cli.Run
import Std.Time.Zoned
/-!
# The program

A run is a pure function on a world. Here the parts of the file system that a run can reach are read
into a world, the run takes place, and what it printed and wrote is put out. No server can be reached
from here, so every call to one fails.
-/

namespace IssueDigest

/-- The path of a place. -/
def pathOfPlace : List String → String
  | "/" :: names => "/" ++ "/".intercalate names
  | names => "/".intercalate names

/-- What stands at a path of the file system. -/
def look (path : String) : IO (Option Node) := do
  try
    return some (.file (← IO.FS.readBinFile path).toList)
  catch e =>
    match e with
    | .inappropriateType .. => return some .directory
    | _ => return none

/-- Reads what stands on the way to a path, and at its end. -/
def readPath (disk : Disk) (p : Path) : IO Disk := do
  let mut disk := disk
  for n in List.range p.names.length do
    let q : Path := { p with names := p.names.take (n + 1) }
    match ← look q.text with
    | some node => disk := disk.put q.place node
    | none => pure ()
  return disk

/-- The variables of the environment. -/
def readEnvironment : IO (List (String × String)) := do
  let octets := (← IO.FS.readBinFile "/proc/self/environ").toList
  let entries := octets.splitOn 0 |>.map fun bs => Utf8.decodeLossy bs
  return entries.filterMap fun cs =>
    match Part.splitValue cs with
    | (name, some value) => some (String.ofList name, value)
    | _ => none

/-- The file of variables in a directory or in the nearest one around it, if there is one. -/
def nearestVariables : List String → IO (Option (List UInt8))
  | [] => return none
  | name :: rest => do
    match ← look ("/".intercalate (name :: rest ++ [Settings.variablesFile])) with
    | some (.file content) => return some content
    | _ => nearestVariables (name :: rest).dropLast
termination_by names => names.length

/-- The moment that the clock shows, in local time. -/
def readClock : IO Moment := do
  let t ← Std.Time.PlainDateTime.now
  return ⟨⟨t.date.year.toInt.toNat, t.date.month.toNat, t.date.day.toNat⟩,
    ⟨t.time.hour.toNat, t.time.minute.toNat, t.time.second.toNat, t.time.nanosecond.toNat / 1000⟩,
    none⟩

/-- The paths that a run with these settings works on. -/
def pathsOf (arguments : List String) (w : World) : List Path :=
  match Command.read arguments, (Settings.found.run w).1 with
  | .ok c, .ok settings => [Path.ofString c.file, Path.ofString settings.filePath]
  | _, _ => []

/-- Writes what a run left on its disk. -/
def writeBack (before after : Disk) : IO Unit := do
  for (place, node) in after.nodes.entries do
    if before.nodes.get? place != some node then
      match node with
      | .directory => IO.FS.createDirAll (pathOfPlace place)
      | .file content => IO.FS.writeBinFile (pathOfPlace place) ⟨content.toArray⟩

/-- The time of log lines. -/
def stamp (m : Moment) : Text :=
  Text.ofChars ((Moment.write { m with time := { m.time with microsecond := 0 } }).map fun c =>
    if c = 'T' then ' ' else c)

end IssueDigest

open IssueDigest in
/-- Runs the program. -/
def main (arguments : List String) : IO UInt32 := do
  let disk ← readPath .blank (Path.ofString Settings.variablesFile)
  let server : Server := { Server.blank with outage := fun _ _ => true }
  let directory := ((← IO.appPath).toString.splitOn "/").dropLast
  let w : World := { World.blank with
    disk, server, now := ← readClock, environment := ← readEnvironment
    nearby := ← nearestVariables directory, encodes := true }
  let mut disk := disk
  for p in pathsOf arguments w do
    disk ← readPath disk p
  let (result, after) := (runProgram arguments).run { w with disk }
  writeBack disk after.disk
  IO.print (Store.asString after.printed)
  IO.eprint (Store.asString (after.journal.lines (stamp w.now) ++ after.complained))
  match result with
  | .ok status => return status.toUInt32
  | .error e =>
    IO.eprintln (Store.asString e.message)
    return 1
