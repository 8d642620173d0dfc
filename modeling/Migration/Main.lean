import Migration.Command.Run

/-!
# The program

The program copies the part of the disk that a command looks at into a file system, runs the command
on it, writes the file of settings if that is what was asked for, and tells the user what came out.

A link is copied as a link to the place where it ends. In the trees that are searched for source
files only names count, so the contents of their files are left out. Where the disk refuses
something, the refusal is copied, and the command deals with it.
-/

namespace Migration.Disk

/-- The names in an absolute path of the disk. -/
def placeOf (text : String) : Location := (Path.ofText text).names

/-- What the disk says when it refuses something. -/
def reasonOf : IO.Error → OpenError
  | .noFileOrDirectory .. => .notFound
  | .permissionDenied .. => .denied
  | error => .other (toString error)

/-- The file system with an entry, if there is a place for it that is still free. -/
def enter (fs : FileSystem) (place : Location) (entry : Entry) : FileSystem :=
  if (fs.get? place).isSome then fs else (fs.put? place entry).getD fs

/-- The file system with a directory in which the disk refuses something. -/
def refuse (fs : FileSystem) (place : Location) (rights : Rights) : FileSystem :=
  if place = [] then fs.withRoot rights else (fs.put? place (.directory rights)).getD fs

/-- A file of the disk, with its content if it is to be read. -/
def fileOf (disk : String) (reading : Bool) : IO Entry := do
  if !reading then return .file .empty {}
  match ← (IO.FS.readBinFile disk).toBaseIO with
  | .ok content => return .file content {}
  | .error error => return .file .empty { read := some (reasonOf error) }

/-- What is neither a directory nor a link nor a file, with what comes out of it if that is read. -/
def specialOf (disk : String) (reading : Bool) : IO Entry := do
  match ← fileOf disk reading with
  | .file output rights => return .special output rights
  | entry => return entry

/-- Copies what is on the way along the parts of a path, and what is in the file at its end if that
    is to be read. Tells where the way ends. -/
partial def copyAlong (reading : Bool) (fs : FileSystem) (here : Location) :
    List Name → IO (FileSystem × Option Location)
  | [] => return (fs, some here)
  | part :: rest => do
    if part = [] || part = [dot] then
      return ← copyAlong reading fs here rest
    if part = [dot, dot] then
      return ← copyAlong reading fs here.dropLast rest
    let place := here ++ [part]
    let text := (Location.path place).shown
    let disk := (← IO.currentDir) / text
    match ← disk.symlinkMetadata.toBaseIO with
    | .error (.permissionDenied ..) => return (refuse fs here { search := some .denied }, none)
    | .error _ => return (fs, none)
    | .ok found =>
      match found.type with
      | .dir => copyAlong reading (enter fs place (.directory {})) place rest
      | .symlink =>
        match ← disk.metadata.toBaseIO with
        | .ok _ =>
          let real := (← IO.FS.realPath disk).toString
          copyAlong reading (enter fs place (.link (.ofText real))) [] (placeOf real ++ rest)
        | .error (.noFileOrDirectory ..) => return (fs, none)
        -- A link that leads nowhere else leads to itself.
        | .error _ => return (enter fs place (.link ⟨part⟩), none)
      | .file => return (enter fs place (← fileOf text reading), some place)
      | _ => return (enter fs place (← specialOf text reading), some place)

/-- Copies the names of all that is below a place. A directory that the disk does not list stays
    empty. -/
partial def copyBelow (fs : FileSystem) (place : Location) : IO FileSystem := do
  let disk := (← IO.currentDir) / (Location.path place).shown
  match ← disk.readDir.toBaseIO with
  | .error error => return refuse fs place { read := some (reasonOf error) }
  | .ok entries =>
    let mut fs := fs
    for found in entries do
      let name := Text.bytes found.fileName
      match ← found.path.symlinkMetadata.toBaseIO with
      | .error error => fs := refuse fs place { search := some (reasonOf error) }
      | .ok metadata =>
        match metadata.type with
        | .dir => fs ← copyBelow (enter fs (place ++ [name]) (.directory {})) (place ++ [name])
        | _ => fs := (← copyAlong false fs place [name]).1
    return fs

/-- Copies what a path leads to. -/
def copyPath (workDir : Location) (reading : Bool) (fs : FileSystem) (path : Path) :
    IO FileSystem := do
  return (← copyAlong reading fs (if path.isAbsolute then [] else workDir) path.wayParts).1

/-- Copies what a path leads to and the names below it. -/
def copyTree (workDir : Location) (fs : FileSystem) (path : Path) : IO FileSystem := do
  let fs ← copyPath workDir false fs path
  match fs.directory? workDir path with
  | some place => copyBelow fs place
  | none => return fs

/-- Copies what an inquiry looks at, given the settings. -/
def copyFor (workDir : Location) (fs : FileSystem) (loaded : LoadedSettings) :
    Inquiry → IO FileSystem
  | .modules originRoot targetRoot =>
    [loaded.originRoot originRoot, loaded.targetRoot targetRoot].foldlM (copyTree workDir) fs
  | .tests origin => copyPath workDir true fs (loaded.originTests origin)
  | .missing origin target =>
    [loaded.originTests origin, loaded.targetTests target].foldlM (copyPath workDir true) fs

/-- Copies what a command looks at. -/
def gather (workDir : Location) (invocation : Invocation) : IO FileSystem := do
  let (fs, _) ← copyAlong false .empty [] workDir
  match invocation.command with
  | .init _ => copyPath workDir false fs LoadedSettings.fileName
  | .inquire inquiry =>
    let fs ← (invocation.settingsPaths workDir).foldlM (copyPath workDir true) fs
    match invocation.loadSettings fs workDir with
    | .error _ => return fs
    | .ok (loaded, _) => copyFor workDir fs loaded inquiry

/-- Writes the file of settings, and tells how the disk took it. -/
def writeSettings : IO Storage := do
  match ← (IO.FS.writeFile LoadedSettings.fileName.shown template).toBaseIO with
  | .ok _ => return {}
  | .error error => return { refusal := some (reasonOf error) }

/-- Whether the output is to be coloured: as the environment says, and otherwise on a terminal. -/
def isColoured : IO Bool := do
  if ((← IO.getEnv "CLICOLOR_FORCE").map (· != "0")) == some true then return true
  if (← IO.getEnv "NO_COLOR").isSome then return false
  return (← IO.getEnv "CLICOLOR") != some "0" && (← (← IO.getStdout).isTty)

end Migration.Disk

open Migration in
/-- Runs the program on the arguments and gives its exit code. -/
def main (arguments : List String) : IO UInt32 := do
  let environment ← IO.getEnv "PORTTRACK_CONFIG"
  let coloured ← Disk.isColoured
  let workDir := Disk.placeOf (← IO.currentDir).toString
  let asked := Arguments.parse environment arguments
  let files ← match asked with
    | .ok invocation => Disk.gather workDir invocation
    | .error _ => pure FileSystem.empty
  let runWith := fun storage => run files storage workDir coloured environment arguments
  let storage ← match asked with
    | .ok { command := .init _, .. } =>
      if (runWith {}).exitCode = 0 then Disk.writeSettings else pure {}
    | _ => pure {}
  let ending := runWith storage
  for note in ending.notes do
    IO.eprintln note
  IO.print ending.output
  return ending.exitCode.toUInt32
