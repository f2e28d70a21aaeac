import PlaygroundEngine.Log.Retention

/-!
# The history that a run keeps

A run that opens its log keeps the logs that retention left and its own. Retention counts with
one place for the new log, which is one too many where the log is already there and stays.
-/

namespace PlaygroundEngine.Log

set_option autoImplicit false

/-- Of the logs in the directory, the new one and the last of the others are left, `maximumFiles`
at most; every file that is not one of these logs is as before. -/
def KeepsHistory (before after : FileSystem) (directory : Location) (name : FileName)
    (maximumFiles : Nat) : Prop :=
  let others := (logNames before directory).erase name
  (logNames after directory).Perm (name :: newest (maximumFiles - 1) others) ∧
    (logNames after directory).length = min maximumFiles (others.length + 1) ∧
    ∀ location contents,
      (∀ other, hasLogName other = true → location ≠ directory ++ [other]) →
      before.node location = some (.file contents) → after.node location = some (.file contents)

theorem filename_ordinary {name : FileName} (hname : hasLogName name = true) :
    name ≠ fileName "" ∧ name ≠ fileName "." ∧ name ≠ fileName ".." := by
  refine ⟨?_, ?_, ?_⟩ <;> rintro rfl <;> revert hname <;> decide

/-- A log's location is its name in the directory that retention looks at. -/
theorem locate_log {path : Path} (hname : hasLogName path.filename = true)
    (workingDirectory : Location) :
    path.locate workingDirectory = path.parentPath.locate workingDirectory ++ [path.filename] := by
  obtain ⟨hempty, hdot, hdots⟩ := filename_ordinary hname
  have hnames : path.names ≠ [] := by
    intro hnil
    apply hempty
    simp [Path.filename, hnil, fileName, bytesOf]
  have hlast : path.filename = path.names.getLast hnames := by
    simp [Path.filename, List.getLastD_eq_getLast?, List.getLast?_eq_some_getLast hnames]
  have hsplit : path.names = path.names.dropLast ++ [path.filename] := by
    rw [hlast, List.dropLast_append_getLast hnames]
  unfold Path.locate Path.parentPath
  conv_lhs => rw [hsplit, List.foldl_append]
  simp [enterName, hempty, hdot, hdots]

namespace Process

variable (process : Process)

def keptLogs (files : FileSystem) (logDirectory : Path) (maximumFilesToKeep : Nat) :
    List FileName :=
  let logs := logNames files (logDirectory.locate process.system.workingDirectory)
  if (process.system.listDirectory files logDirectory).isSome then newest maximumFilesToKeep logs
  else logs

theorem mem_keptLogs {files : FileSystem} {logDirectory : Path} {k : Nat} {name : FileName}
    (hobliges : ∀ call, process.system.refuses call = false) :
    name ∈ process.keptLogs files logDirectory k ↔
      name ∈ logNames files (logDirectory.locate process.system.workingDirectory) ∧
        ¬ process.Removes files logDirectory k
          (logDirectory.locate process.system.workingDirectory ++ [name]) := by
  have hnodup := nodup_logNames files (logDirectory.locate process.system.workingDirectory)
  unfold keptLogs
  dsimp only
  split
  · rename_i hlist
    constructor
    · intro hnew
      refine ⟨mem_newest k hnew, ?_⟩
      intro hgiven
      obtain ⟨_, _, other, hother, houtranked⟩ := hgiven
      obtain rfl := append_singleton_inj hother
      exact oldest_not_newest k hnodup (mem_oldest_logs.mpr houtranked) hnew
    · intro hgiven
      obtain ⟨hmem, hkept⟩ := hgiven
      apply (mem_oldest_or_newest k hmem).resolve_left
      intro hold
      exact hkept ⟨hlist, hobliges _, name, rfl, mem_oldest_logs.mp hold⟩
  · rename_i hlist
    constructor
    · intro hmem
      exact ⟨hmem, fun hremoves => hlist hremoves.1⟩
    · intro hgiven
      obtain ⟨hmem, _⟩ := hgiven
      exact hmem

theorem nodup_keptLogs (files : FileSystem) (logDirectory : Path) (k : Nat) :
    (process.keptLogs files logDirectory k).Nodup := by
  have hnodup := nodup_logNames files (logDirectory.locate process.system.workingDirectory)
  unfold keptLogs
  dsimp only
  split
  · exact nodup_newest k hnodup
  · exact hnodup

theorem configure_opened {configuration : LogConfiguration} {state : LogState}
    (hopens : ¬ process.CannotOpen configuration state) :
    ∃ created, OnlyAddsDirectories (process.prunedFiles configuration state) created ∧
      (process.configure configuration state).files =
        created.put ((process.resolveLogPath configuration).locate
          process.system.workingDirectory) (.file []) := by
  rcases process.configure_cases configuration state with
    ⟨hempty, _⟩ | ⟨_, created, honly, ⟨hnone, _⟩ | ⟨_, hrun⟩⟩
  · exact absurd (Or.inl hempty) hopens
  · exact absurd (Or.inr hnone) hopens
  · exact ⟨created, honly, by rw [hrun]; rfl⟩

section Opened

variable {process : Process} {configuration : LogConfiguration} {state : LogState}

theorem isRegularFile_opened {created : FileSystem} {pruned : FileSystem}
    (honly : OnlyAddsDirectories pruned created) (opened location : Location) :
    isRegularFile (created.put opened (.file [])) location = true ↔
      location = opened ∨ isRegularFile pruned location = true := by
  simp only [isRegularFile_iff, FileSystem.node_put]
  by_cases heq : location = opened
  · simp [heq]
  · simp [heq, honly.file_iff]

theorem isRegularFile_pruned (files : FileSystem) (logDirectory : Path) (k : Nat)
    (location : Location) :
    isRegularFile (process.pruneLogHistory files logDirectory k) location = true ↔
      isRegularFile files location = true ∧ ¬ process.Removes files logDirectory k location := by
  simp only [isRegularFile_iff]
  by_cases hremoves : process.Removes files logDirectory k location
  · simp [hremoves, process.pruneLogHistory_removed hremoves]
  · simp [hremoves, process.pruneLogHistory_kept hremoves]

theorem logNames_opened (hobliges : ∀ call, process.system.refuses call = false)
    (hname : hasLogName (process.resolveLogPath configuration).filename = true)
    (hopens : ¬ process.CannotOpen configuration state) :
    let path := process.resolveLogPath configuration
    (logNames (process.configure configuration state).files
        (path.parentPath.locate process.system.workingDirectory)).Perm
      (path.filename :: (process.keptLogs state.files path.parentPath
        (configuration.maximumFiles - 1).toNat).erase path.filename) := by
  intro path
  obtain ⟨created, honly, hfiles⟩ := process.configure_opened hopens
  have hkept := process.nodup_keptLogs state.files path.parentPath
    (configuration.maximumFiles - 1).toNat
  have hnodup : (path.filename :: (process.keptLogs state.files path.parentPath
      (configuration.maximumFiles - 1).toNat).erase path.filename).Nodup :=
    List.nodup_cons.mpr ⟨hkept.not_mem_erase, hkept.erase _⟩
  rw [List.perm_ext_iff_of_nodup (nodup_logNames _ _) hnodup]
  intro name
  rw [mem_logNames, hfiles, isRegularFile_opened honly, locate_log hname, List.mem_cons,
    hkept.mem_erase_iff, process.mem_keptLogs hobliges, mem_logNames, prunedFiles,
    isRegularFile_pruned]
  constructor
  · intro hgiven
    rcases hgiven with ⟨hlog, hnew | ⟨hfile, hremoves⟩⟩
    · exact Or.inl (append_singleton_inj hnew)
    · by_cases heq : name = path.filename
      · exact Or.inl heq
      · exact Or.inr ⟨heq, ⟨hlog, hfile⟩, hremoves⟩
  · intro hgiven
    rcases hgiven with rfl | ⟨_, ⟨hlog, hfile⟩, hremoves⟩
    · exact ⟨hname, Or.inl rfl⟩
    · exact ⟨hlog, Or.inr ⟨hfile, hremoves⟩⟩

theorem configure_untouched
    (hname : hasLogName (process.resolveLogPath configuration).filename = true)
    (hopens : ¬ process.CannotOpen configuration state) {location : Location} {contents : Bytes}
    (hother : ∀ other, hasLogName other = true → location ≠
      (process.resolveLogPath configuration).parentPath.locate process.system.workingDirectory ++
        [other])
    (hnode : state.files.node location = some (.file contents)) :
    (process.configure configuration state).files.node location = some (.file contents) := by
  obtain ⟨created, honly, hfiles⟩ := process.configure_opened hopens
  have hnew : location ≠ (process.resolveLogPath configuration).locate
      process.system.workingDirectory := by
    rw [locate_log hname]
    exact hother _ hname
  have hkept : ¬ process.Removes state.files
      (process.resolveLogPath configuration).parentPath
      (configuration.maximumFiles - 1).toNat location := by
    intro hgiven
    obtain ⟨_, _, other, hlocation, hlog, _⟩ := hgiven
    exact hother other (mem_logNames.mp hlog).1 hlocation
  rw [hfiles, FileSystem.node_put, if_neg hnew]
  apply (honly.file_iff location contents).mpr
  rw [prunedFiles, process.pruneLogHistory_kept hkept]
  exact hnode

/-- The new log is not there yet, or there are fewer than `MaximumFiles` logs, or it goes first
itself because at least `MaximumFiles - 1` others sort after it; where the directory cannot be
listed, the others are few enough. -/
def HistoryFits (process : Process) (configuration : LogConfiguration) (state : LogState) : Prop :=
  let path := process.resolveLogPath configuration
  let logs := logNames state.files (path.parentPath.locate process.system.workingDirectory)
  if (process.system.listDirectory state.files path.parentPath).isSome then
    path.filename ∉ logs ∨ logs.length < configuration.maximumFiles.toNat ∨
      configuration.maximumFiles.toNat - 1 ≤ (greater path.filename logs).length
  else (logs.erase path.filename).length < configuration.maximumFiles.toNat

theorem keptLogs_erase_perm_iff :
    let path := process.resolveLogPath configuration
    let logs := logNames state.files (path.parentPath.locate process.system.workingDirectory)
    ((process.keptLogs state.files path.parentPath
        (configuration.maximumFiles.toNat - 1)).erase path.filename).Perm
      (newest (configuration.maximumFiles.toNat - 1) (logs.erase path.filename)) ↔
      process.HistoryFits configuration state := by
  intro path logs
  have hpos := (maximumFiles_sub_one configuration).2
  unfold keptLogs HistoryFits
  dsimp only
  split
  · refine (erase_newest_perm_iff _ (nodup_logNames _ _) _).trans ?_
    apply or_congr_right
    apply or_congr_left
    exact Nat.le_sub_one_iff_lt hpos
  · exact (perm_newest_iff _ _).trans (Nat.le_sub_one_iff_lt hpos)

/-- Exactly when a run that opens its log keeps the history it is asked to keep. -/
theorem configure_keepsHistory_iff (hobliges : ∀ call, process.system.refuses call = false)
    (hname : hasLogName (process.resolveLogPath configuration).filename = true)
    (hopens : ¬ process.CannotOpen configuration state) :
    KeepsHistory state.files (process.configure configuration state).files
        ((process.resolveLogPath configuration).parentPath.locate process.system.workingDirectory)
        (process.resolveLogPath configuration).filename configuration.maximumFiles.toNat ↔
      process.HistoryFits configuration state := by
  obtain ⟨hsub, hpos⟩ := maximumFiles_sub_one configuration
  have hlogs := logNames_opened hobliges hname hopens
  rw [hsub] at hlogs
  refine Iff.trans ?_ keptLogs_erase_perm_iff
  constructor
  · intro hgiven
    obtain ⟨hperm, _⟩ := hgiven
    exact (List.perm_cons _).mp (hlogs.symm.trans hperm)
  · intro hfits
    have hperm := hlogs.trans ((List.perm_cons _).mpr hfits)
    refine ⟨hperm, ?_, fun location contents hother hnode =>
      configure_untouched hname hopens hother hnode⟩
    have hlength := hperm.length_eq
    rw [List.length_cons, length_newest] at hlength
    omega

end Opened

end Process

section Reopened

def twoRunsState : LogState where
  files := {
    entries := [([fileName "logs"], .directory),
      ([fileName "logs", fileName "PlaygroundEngine-1.log"], .file []),
      ([fileName "logs", fileName "PlaygroundEngine-2.log"], .file [])]
    distinct := by decide }
  logger := ⟨[.console], rfl⟩

def reopenedConfiguration : LogConfiguration where
  filePath := logDirectory.append (fileName "PlaygroundEngine-2.log")
  maximumFiles := 2

/-- Two logs are to be kept and one is. -/
theorem configure_reopened_keeps_one :
    ¬ KeepsHistory twoRunsState.files
      (obliging.configure reopenedConfiguration twoRunsState).files [fileName "logs"]
      (fileName "PlaygroundEngine-2.log") 2 := by
  intro hgiven
  obtain ⟨_, hlength, _⟩ := hgiven
  exact absurd hlength (by decide +kernel)

def nextConfiguration : LogConfiguration where
  filePath := logDirectory.append (fileName "PlaygroundEngine-3.log")
  maximumFiles := 2

/-- The next log takes the place of the first one. -/
theorem configure_keepsHistory_iff_next :
    KeepsHistory twoRunsState.files (obliging.configure nextConfiguration twoRunsState).files
        ((obliging.resolveLogPath nextConfiguration).parentPath.locate
          obliging.system.workingDirectory)
        (obliging.resolveLogPath nextConfiguration).filename
        nextConfiguration.maximumFiles.toNat ↔
      obliging.HistoryFits nextConfiguration twoRunsState := by
  have hopens : ¬ obliging.CannotOpen nextConfiguration twoRunsState := by
    intro hgiven
    rcases hgiven with hempty | hnone
    · exact absurd hempty (by decide)
    · exact absurd hnone (by decide +kernel)
  exact Process.configure_keepsHistory_iff (fun _ => rfl) (by decide +kernel) hopens

end Reopened

end PlaygroundEngine.Log
