import PlaygroundEngine.Library.Newest
import PlaygroundEngine.Log.FileSystem

/-!
# Configuring the log

Retention runs first, then the file is probed and only then the sinks change. What a sink writes
stays in its buffer here, so a file changes by being created, truncated or removed.
-/

namespace PlaygroundEngine.Log

set_option autoImplicit false

inductive FileCall where
  | list (location : Location)
  | createDirectory (location : Location)
  | openForWriting (location : Location)
  | remove (location : Location)
  deriving DecidableEq

/-- Any call may be refused, for reasons of its own. -/
structure OperatingSystem where
  workingDirectory : Location
  refuses : FileCall → Bool

namespace OperatingSystem

variable (system : OperatingSystem)

def isDirectory (files : FileSystem) (location : Location) : Bool :=
  location.isEmpty || files.node location == some .directory

/-- `directory_iterator` up to its end, or nothing where it sets its error code; an empty path
names no directory. -/
def listDirectory (files : FileSystem) (directory : Path) : Option (List FileName) :=
  let location := directory.locate system.workingDirectory
  if directory.isEmpty || system.refuses (.list location) || !isDirectory files location then none
  else some (files.names location)

def createDirectoriesFrom (files : FileSystem) : List Location → FileSystem × Bool
  | [] => (files, true)
  | location :: rest =>
    match files.node location with
    | some .directory => createDirectoriesFrom files rest
    | some (.file _) => (files, false)
    | none =>
      if system.refuses (.createDirectory location) then (files, false)
      else createDirectoriesFrom (files.put location .directory) rest

/-- `create_directories`: each directory below the root on the way, outermost first. -/
def createDirectories (files : FileSystem) (directory : Path) : FileSystem × Bool :=
  system.createDirectoriesFrom files (directory.locate system.workingDirectory).inits.tail

def openTruncated (files : FileSystem) (path : Path) : FileSystem × Bool :=
  let location := path.locate system.workingDirectory
  if system.refuses (.openForWriting location) || isDirectory files location ||
      !isDirectory files location.dropLast then (files, false)
  else (files.put location (.file []), true)

def remove (files : FileSystem) (location : Location) : FileSystem :=
  if system.refuses (.remove location) then files else files.removeEntry location

end OperatingSystem

inductive Sink where
  | console
  | file (location : Location)
  deriving DecidableEq

/-- The console sink is created with the logger and stays in front. -/
structure Logger where
  sinks : List Sink
  console_first : sinks.head? = some .console

inductive LogLine where
  | fileLoggingDisabled
  | fileLoggingUnchanged (path : Path)
  | loggingTo (path : Path)
  deriving DecidableEq

structure LogState where
  files : FileSystem
  logger : Logger
  /-- The lines of `Configure`, each with the sinks it went to. -/
  lines : List (LogLine × List Sink) := []

def LogState.log (state : LogState) (line : LogLine) : LogState :=
  { state with lines := state.lines ++ [(line, state.logger.sinks)] }

def Logger.replaceFile (logger : Logger) (fileSink : Sink) : Logger where
  sinks := logger.sinks.take 1 ++ [fileSink]
  console_first := by
    have hfirst := logger.console_first
    cases hsinks : logger.sinks with
    | nil => simp [hsinks] at hfirst
    | cons first rest => simpa [hsinks] using hfirst

structure LogConfiguration where
  filePath : Path := ⟨false, []⟩
  maximumFiles : UInt64 := 10
  maximumFiles_pos : 0 < maximumFiles := by decide

def logFileNamePrefix : Bytes := bytesOf "PlaygroundEngine-"

def hasLogName (name : FileName) : Bool :=
  logFileNamePrefix.isPrefixOf name.bytes && name.extension == bytesOf ".log"

def isRegularFile (files : FileSystem) (location : Location) : Bool :=
  match files.node location with
  | some (.file _) => true
  | _ => false

def isLogFile (files : FileSystem) (directory : Location) (name : FileName) : Bool :=
  isRegularFile files (directory ++ [name]) && hasLogName name

structure Process where
  system : OperatingSystem
  executableDirectory : Option Path
  generatedName : FileName

namespace Process

variable (process : Process)

/-- An empty path where the executable cannot be found. -/
def resolveLogPath (configuration : LogConfiguration) : Path :=
  if configuration.filePath.isEmpty then
    match process.executableDirectory with
    | none => ⟨false, []⟩
    | some directory => (directory.append (fileName "logs")).append process.generatedName
  else configuration.filePath

def pruneLogHistory (files : FileSystem) (logDirectory : Path) (maximumFilesToKeep : Nat) :
    FileSystem :=
  let location := logDirectory.locate process.system.workingDirectory
  match process.system.listDirectory files logDirectory with
  | none => files
  | some names =>
    let logFiles := names.filter (isLogFile files location)
    if logFiles.length ≤ maximumFilesToKeep then files
    else
      ((logFiles.insertionSort (· ≤ ·)).take (logFiles.length - maximumFilesToKeep)).foldl
        (fun files name => process.system.remove files (location ++ [name])) files

/-- The sink opens the probed file once more, which changes nothing. -/
def makeFileSink (files : FileSystem) (path : Path) : FileSystem × Option Sink :=
  let (files, created) :=
    if path.parentPath.isEmpty then (files, true)
    else process.system.createDirectories files path.parentPath
  if !created then (files, none)
  else
    match process.system.openTruncated files path with
    | (files, false) => (files, none)
    | (files, true) => (files, some (.file (path.locate process.system.workingDirectory)))

def configure (configuration : LogConfiguration) (state : LogState) : LogState :=
  let logPath := process.resolveLogPath configuration
  if logPath.isEmpty then state.log .fileLoggingDisabled
  else
    let pruned := process.pruneLogHistory state.files logPath.parentPath
      (configuration.maximumFiles - 1).toNat
    match process.makeFileSink pruned logPath with
    | (files, none) => { state with files }.log (.fileLoggingUnchanged logPath)
    | (files, some fileSink) =>
      { state with files, logger := state.logger.replaceFile fileSink }.log (.loggingTo logPath)

end Process

end PlaygroundEngine.Log
