import PlaygroundEngine.Log.Configure

/-!
# What retention leaves behind

Retention removes files before it is known whether the new log can be opened, and it makes room
for a new file even where that file exists.
-/

namespace PlaygroundEngine.Log

set_option autoImplicit false

def logNames (files : FileSystem) (directory : Location) : List FileName :=
  (files.names directory).filter (isLogFile files directory)

theorem isRegularFile_iff {files : FileSystem} {location : Location} :
    isRegularFile files location = true ↔
      ∃ contents, files.node location = some (.file contents) := by
  unfold isRegularFile
  cases files.node location with
  | none => simp
  | some node => cases node <;> simp

theorem mem_logNames {files : FileSystem} {directory : Location} {name : FileName} :
    name ∈ logNames files directory ↔
      hasLogName name = true ∧ isRegularFile files (directory ++ [name]) = true := by
  simp only [logNames, List.mem_filter, isLogFile, Bool.and_eq_true, FileSystem.mem_names]
  constructor
  · intro hgiven
    obtain ⟨_, hfile, hname⟩ := hgiven
    exact ⟨hname, hfile⟩
  · intro hgiven
    obtain ⟨hname, hfile⟩ := hgiven
    obtain ⟨contents, hnode⟩ := isRegularFile_iff.mp hfile
    exact ⟨by simp [hnode], hfile, hname⟩

theorem nodup_logNames (files : FileSystem) (directory : Location) :
    (logNames files directory).Nodup :=
  (files.nodup_names directory).filter _

theorem append_singleton_inj {directory : Location} {name other : FileName}
    (h : directory ++ [name] = directory ++ [other]) : name = other := by
  simpa using h

namespace OperatingSystem

variable (system : OperatingSystem)

theorem remove_node (files : FileSystem) (location other : Location) :
    (system.remove files location).node other =
      if other = location ∧ system.refuses (.remove location) = false then none
      else files.node other := by
  unfold remove
  cases hrefuses : system.refuses (.remove location) <;> simp

theorem foldl_remove_node (directory : Location) (names : List FileName) (files : FileSystem)
    (location : Location) :
    (names.foldl (fun files name => system.remove files (directory ++ [name])) files).node
        location =
      if (∃ name ∈ names, location = directory ++ [name]) ∧
        system.refuses (.remove location) = false then none
      else files.node location := by
  induction names generalizing files with
  | nil => simp
  | cons first rest ih =>
    rw [List.foldl_cons, ih, remove_node]
    by_cases hfirst : location = directory ++ [first]
    · subst hfirst
      by_cases hrefuses : system.refuses (.remove (directory ++ [first])) = false <;>
        simp [hrefuses]
    · simp [hfirst]

theorem createDirectoriesFrom_node (files : FileSystem) (locations : List Location)
    (location : Location) :
    (system.createDirectoriesFrom files locations).1.node location = files.node location ∨
      (files.node location = none ∧
        (system.createDirectoriesFrom files locations).1.node location = some .directory) := by
  induction locations generalizing files with
  | nil => exact Or.inl rfl
  | cons first rest ih =>
    unfold createDirectoriesFrom
    split
    · exact ih files
    · exact Or.inl rfl
    · rename_i hnone
      split
      · exact Or.inl rfl
      · rcases ih (files.put first .directory) with hsame | ⟨hmissing, hdirectory⟩
        · by_cases heq : location = first
          · subst heq
            rw [hsame]
            simp [hnone]
          · rw [hsame]
            simp [heq]
        · by_cases heq : location = first
          · simp [heq] at hmissing
          · simp [heq] at hmissing
            exact Or.inr ⟨hmissing, hdirectory⟩

theorem openTruncated_cases (files : FileSystem) (path : Path) :
    system.openTruncated files path = (files, false) ∨
      system.openTruncated files path =
        (files.put (path.locate system.workingDirectory) (.file []), true) := by
  unfold openTruncated
  dsimp only
  split
  · exact Or.inl rfl
  · exact Or.inr rfl

end OperatingSystem

/-- A log that `maximumFilesToKeep` logs of its directory sort after. -/
def Outranked (files : FileSystem) (directory : Location) (maximumFilesToKeep : Nat)
    (name : FileName) : Prop :=
  name ∈ logNames files directory ∧
    maximumFilesToKeep ≤ (greater name (logNames files directory)).length

theorem mem_oldest_logs {files : FileSystem} {directory : Location} {k : Nat} {name : FileName} :
    name ∈ oldest k (logNames files directory) ↔ Outranked files directory k name := by
  constructor
  · intro h
    have hmem := mem_oldest k h
    exact ⟨hmem, (mem_oldest_iff k (nodup_logNames files directory) hmem).mp h⟩
  · intro hgiven
    obtain ⟨hmem, hk⟩ := hgiven
    exact (mem_oldest_iff k (nodup_logNames files directory) hmem).mpr hk

theorem maximumFiles_sub_one (configuration : LogConfiguration) :
    (configuration.maximumFiles - 1).toNat = configuration.maximumFiles.toNat - 1 ∧
      0 < configuration.maximumFiles.toNat := by
  have hpos := UInt64.lt_iff_toNat_lt.mp configuration.maximumFiles_pos
  have hzero : (0 : UInt64).toNat = 0 := rfl
  have hone : (1 : UInt64).toNat = 1 := rfl
  have hle : (1 : UInt64) ≤ configuration.maximumFiles := by
    rw [UInt64.le_iff_toNat_le]
    omega
  rw [UInt64.toNat_sub_of_le _ _ hle, hone]
  omega

/-- A log by its name, or a file that a sink writes to. -/
def IsLogLocation (logger : Logger) (location : Location) : Prop :=
  (∃ directory name, location = directory ++ [name] ∧ hasLogName name = true) ∨
    .file location ∈ logger.sinks

/-- The sinks are the same and every log that was there is still there as it was. -/
def KeepsLogging (before after : LogState) : Prop :=
  after.logger = before.logger ∧
    ∀ location contents, IsLogLocation before.logger location →
      before.files.node location = some (.file contents) →
      after.files.node location = some (.file contents)

/-- Nothing but directories is new, and nothing is gone. -/
def OnlyAddsDirectories (files files' : FileSystem) : Prop :=
  ∀ location, files'.node location = files.node location ∨
    (files.node location = none ∧ files'.node location = some .directory)

theorem OnlyAddsDirectories.file_iff {files files' : FileSystem}
    (h : OnlyAddsDirectories files files') (location : Location) (contents : Bytes) :
    files'.node location = some (.file contents) ↔ files.node location = some (.file contents) := by
  rcases h location with hsame | ⟨hnone, hdirectory⟩
  · rw [hsame]
  · simp [hnone, hdirectory]

namespace Process

variable (process : Process)

theorem makeFileSink_cases (files : FileSystem) (path : Path) :
    ∃ created, OnlyAddsDirectories files created ∧
      (process.makeFileSink files path = (created, none) ∨
        process.makeFileSink files path =
          (created.put (path.locate process.system.workingDirectory) (.file []),
            some (.file (path.locate process.system.workingDirectory)))) := by
  unfold makeFileSink
  by_cases hempty : path.parentPath.isEmpty = true
  · refine ⟨files, fun location => Or.inl rfl, ?_⟩
    rcases process.system.openTruncated_cases files path with hfailed | hopened
    · simp [hempty, hfailed]
    · simp [hempty, hopened]
  · refine ⟨(process.system.createDirectories files path.parentPath).1,
      process.system.createDirectoriesFrom_node files _, ?_⟩
    rcases process.system.openTruncated_cases
      (process.system.createDirectories files path.parentPath).1 path with hfailed | hopened
    · cases hcreated : (process.system.createDirectories files path.parentPath).2 <;>
        simp [hempty, hcreated, hfailed]
    · cases hcreated : (process.system.createDirectories files path.parentPath).2 <;>
        simp [hempty, hcreated, hopened]

/-- The directory can be listed and the removal of one of its outranked logs is let through. -/
def Removes (files : FileSystem) (logDirectory : Path) (maximumFilesToKeep : Nat)
    (location : Location) : Prop :=
  (process.system.listDirectory files logDirectory).isSome ∧
    process.system.refuses (.remove location) = false ∧
    ∃ name, location = logDirectory.locate process.system.workingDirectory ++ [name] ∧
      Outranked files (logDirectory.locate process.system.workingDirectory)
        maximumFilesToKeep name

theorem listDirectory_cases (files : FileSystem) (directory : Path) :
    process.system.listDirectory files directory = none ∨
      process.system.listDirectory files directory =
        some (files.names (directory.locate process.system.workingDirectory)) := by
  unfold OperatingSystem.listDirectory
  dsimp only
  split
  · exact Or.inl rfl
  · exact Or.inr rfl

/-- Cutting the sorted list is the whole of it: a list that is short enough is cut to nothing. -/
theorem pruneLogHistory_eq (files : FileSystem) (logDirectory : Path) (k : Nat) :
    let directory := logDirectory.locate process.system.workingDirectory
    process.pruneLogHistory files logDirectory k =
      if (process.system.listDirectory files logDirectory).isSome then
        (oldest k (logNames files directory)).foldl
          (fun files name => process.system.remove files (directory ++ [name])) files
      else files := by
  intro directory
  unfold pruneLogHistory
  rcases process.listDirectory_cases files logDirectory with hlist | hlist
  · simp [hlist]
  · simp only [hlist, Option.isSome_some, if_true]
    split
    · rename_i hshort
      have hcut : (logNames files directory).length - k = 0 := Nat.sub_eq_zero_of_le hshort
      simp [oldest, hcut]
    · rfl

theorem pruneLogHistory_removed {files : FileSystem} {logDirectory : Path} {k : Nat}
    {location : Location} (h : process.Removes files logDirectory k location) :
    (process.pruneLogHistory files logDirectory k).node location = none := by
  obtain ⟨hlist, hrefuses, name, hname, houtranked⟩ := h
  rw [pruneLogHistory_eq, if_pos hlist, OperatingSystem.foldl_remove_node, if_pos]
  exact ⟨⟨name, mem_oldest_logs.mpr houtranked, hname⟩, hrefuses⟩

theorem pruneLogHistory_kept {files : FileSystem} {logDirectory : Path} {k : Nat}
    {location : Location} (h : ¬ process.Removes files logDirectory k location) :
    (process.pruneLogHistory files logDirectory k).node location = files.node location := by
  rw [pruneLogHistory_eq]
  split
  · rename_i hlist
    rw [OperatingSystem.foldl_remove_node, if_neg]
    intro hgiven
    obtain ⟨⟨name, hmem, hname⟩, hrefuses⟩ := hgiven
    exact h ⟨hlist, hrefuses, name, hname, mem_oldest_logs.mp hmem⟩
  · rfl

def prunedFiles (configuration : LogConfiguration) (state : LogState) : FileSystem :=
  process.pruneLogHistory state.files (process.resolveLogPath configuration).parentPath
    (configuration.maximumFiles - 1).toNat

/-- There is no log path, or no file can be opened there. -/
def CannotOpen (configuration : LogConfiguration) (state : LogState) : Prop :=
  (process.resolveLogPath configuration).isEmpty = true ∨
    (process.makeFileSink (process.prunedFiles configuration state)
      (process.resolveLogPath configuration)).2 = none

/-- Retention has nothing to do: there is no log path, its directory cannot be listed, or each
log that `MaximumFiles - 1` others sort after is one whose removal is refused. -/
def RetentionIdle (configuration : LogConfiguration) (state : LogState) : Prop :=
  let logDirectory := (process.resolveLogPath configuration).parentPath
  let directory := logDirectory.locate process.system.workingDirectory
  (process.resolveLogPath configuration).isEmpty = true ∨
    process.system.listDirectory state.files logDirectory = none ∨
    ∀ name, Outranked state.files directory (configuration.maximumFiles.toNat - 1) name →
      process.system.refuses (.remove (directory ++ [name])) = true

theorem configure_cases (configuration : LogConfiguration) (state : LogState) :
    let path := process.resolveLogPath configuration
    let location := path.locate process.system.workingDirectory
    (path.isEmpty = true ∧
      process.configure configuration state = state.log .fileLoggingDisabled) ∨
    (path.isEmpty = false ∧ ∃ created,
      OnlyAddsDirectories (process.prunedFiles configuration state) created ∧
      (((process.makeFileSink (process.prunedFiles configuration state) path).2 = none ∧
        process.configure configuration state =
          { state with files := created }.log (.fileLoggingUnchanged path)) ∨
      ((process.makeFileSink (process.prunedFiles configuration state) path).2 =
          some (.file location) ∧
        process.configure configuration state =
          { state with files := created.put location (.file []),
                       logger := state.logger.replaceFile (.file location) }.log
            (.loggingTo path)))) := by
  intro path location
  by_cases hempty : path.isEmpty = true
  · refine Or.inl ⟨hempty, ?_⟩
    unfold configure
    dsimp only
    rw [if_pos hempty]
  · refine Or.inr ⟨by simpa using hempty, ?_⟩
    obtain ⟨created, honly, hmade⟩ :=
      process.makeFileSink_cases (process.prunedFiles configuration state) path
    refine ⟨created, honly, ?_⟩
    unfold configure
    dsimp only
    rw [if_neg hempty]
    rcases hmade with hfailed | hopened
    · refine Or.inl ⟨by rw [hfailed], ?_⟩
      unfold prunedFiles at hfailed
      rw [hfailed]
    · refine Or.inr ⟨by rw [hopened], ?_⟩
      unfold prunedFiles at hopened
      rw [hopened]

theorem not_removes_of_idle {configuration : LogConfiguration} {state : LogState}
    (hpath : (process.resolveLogPath configuration).isEmpty = false)
    (hidle : process.RetentionIdle configuration state) (location : Location) :
    ¬ process.Removes state.files (process.resolveLogPath configuration).parentPath
      (configuration.maximumFiles - 1).toNat location := by
  intro hgiven
  obtain ⟨hlist, hrefuses, name, rfl, houtranked⟩ := hgiven
  rw [(maximumFiles_sub_one configuration).1] at houtranked
  rcases hidle with hempty | hnone | hrefused
  · rw [hpath] at hempty
    cases hempty
  · rw [hnone] at hlist
    cases hlist
  · rw [hrefused name houtranked] at hrefuses
    cases hrefuses

theorem exists_removes {configuration : LogConfiguration} {state : LogState}
    (hidle : ¬ process.RetentionIdle configuration state) :
    ∃ name, Outranked state.files ((process.resolveLogPath configuration).parentPath.locate
        process.system.workingDirectory) (configuration.maximumFiles.toNat - 1) name ∧
      process.Removes state.files (process.resolveLogPath configuration).parentPath
        (configuration.maximumFiles - 1).toNat
        ((process.resolveLogPath configuration).parentPath.locate
          process.system.workingDirectory ++ [name]) := by
  simp only [RetentionIdle, not_or, not_forall] at hidle
  obtain ⟨_, hlist, name, houtranked, hrefuses⟩ := hidle
  refine ⟨name, houtranked, Option.isSome_iff_ne_none.mpr hlist, by simpa using hrefuses, name,
    rfl, ?_⟩
  rw [(maximumFiles_sub_one configuration).1]
  exact houtranked

/-- A run that opens no file keeps what was being logged to exactly when retention had nothing
to remove. -/
theorem configure_keepsLogging_iff {configuration : LogConfiguration} {state : LogState}
    (hfails : process.CannotOpen configuration state) :
    KeepsLogging state (process.configure configuration state) ↔
      process.RetentionIdle configuration state := by
  rcases process.configure_cases configuration state with
    ⟨hempty, hrun⟩ | ⟨hpath, created, honly, ⟨_, hrun⟩ | ⟨hopened, _⟩⟩
  · rw [hrun]
    exact ⟨fun _ => Or.inl hempty, fun _ => ⟨rfl, fun _ _ _ h => h⟩⟩
  · rw [hrun]
    constructor
    · intro hgiven
      obtain ⟨_, hkept⟩ := hgiven
      by_contra hidle
      obtain ⟨name, ⟨hlog, _⟩, hremoves⟩ := process.exists_removes hidle
      obtain ⟨hname, hfile⟩ := mem_logNames.mp hlog
      obtain ⟨contents, hnode⟩ := isRegularFile_iff.mp hfile
      have hstill := hkept _ contents (Or.inl ⟨_, name, rfl, hname⟩) hnode
      have hpruned := (honly.file_iff _ contents).mp hstill
      rw [prunedFiles, process.pruneLogHistory_removed hremoves] at hpruned
      cases hpruned
    · intro hidle
      refine ⟨rfl, ?_⟩
      intro location contents _ hnode
      apply (honly.file_iff location contents).mpr
      rw [prunedFiles,
        process.pruneLogHistory_kept (process.not_removes_of_idle hpath hidle location)]
      exact hnode
  · rcases hfails with hempty | hnone
    · rw [hempty] at hpath
      cases hpath
    · rw [hnone] at hopened
      cases hopened

end Process

section Unusable

def logDirectory : Path := ⟨true, [fileName "logs"]⟩

def obliging : Process := ⟨⟨[], fun _ => false⟩, none, fileName ""⟩

/-- A log is being written next to a directory of another name. -/
def keptState : LogState where
  files := {
    entries := [([fileName "logs"], .directory),
      ([fileName "logs", fileName "PlaygroundEngine-kept.log"], .file (bytesOf "line")),
      ([fileName "logs", fileName "unusable"], .directory)]
    distinct := by decide }
  logger := {
    sinks := [.console, .file [fileName "logs", fileName "PlaygroundEngine-kept.log"]]
    console_first := rfl }

def unusableConfiguration : LogConfiguration where
  filePath := logDirectory.append (fileName "unusable")
  maximumFiles := 1

theorem unusable_cannotOpen : obliging.CannotOpen unusableConfiguration keptState := by
  right
  decide +kernel

/-- The run fails, and the log that was being written is gone. -/
theorem configure_unusable_removes_kept :
    ¬ KeepsLogging keptState (obliging.configure unusableConfiguration keptState) := by
  intro hgiven
  obtain ⟨_, hkept⟩ := hgiven
  have hlost := hkept [fileName "logs", fileName "PlaygroundEngine-kept.log"] (bytesOf "line")
    (Or.inr (by decide)) rfl
  exact absurd hlost (by decide +kernel)

theorem configure_keepsLogging_iff_unusable :
    KeepsLogging keptState (obliging.configure unusableConfiguration keptState) ↔
      obliging.RetentionIdle unusableConfiguration keptState :=
  obliging.configure_keepsLogging_iff unusable_cannotOpen

end Unusable

end PlaygroundEngine.Log
