import Mathlib.Tactic.LinearCombination
import Mathlib.Tactic.Positivity
import PlaygroundEngine.Library.Calendar
import PlaygroundEngine.Library.Numerals
import PlaygroundEngine.Log.Retention

/-!
# The names of default logs

A name spells the start of the run, down to the millisecond, in fields of a fixed width. Retention
takes the order of the names for the order of the starts.
-/

namespace PlaygroundEngine.Log

open Library
set_option autoImplicit false

def digitByte (digit : Nat) : UInt8 := UInt8.ofNat (48 + digit)

def padded (width n : Nat) : Bytes := (numeral 10 width n).map digitByte

/-- `%Y` -/
def formatYear (year : Int) : Bytes :=
  (if year < 0 then bytesOf "-" else []) ++ padded 4 year.natAbs

/-- `%Y%m%d` -/
def formatDate (date : Date) : Bytes :=
  formatYear date.year ++ (padded 2 date.month ++ padded 2 date.day)

/-- `%H%M%S` -/
def formatTimeOfDay (second : Nat) : Bytes :=
  padded 2 (second / 3600) ++ (padded 2 (second / 60 % 60) ++ padded 2 (second % 60))

def unixEpoch : Date := ⟨1970, 1, 1, by decide, by decide⟩

/-- The date in UTC of a count of seconds from the start of 1970. -/
def dateOf (second : Int) : Date := Date.ofDayNumber (unixEpoch.dayNumber + second / 86400)

/-- `{:%Y%m%d-%H%M%S}` -/
def formatSecond (second : Int) : Bytes :=
  formatDate (dateOf second) ++ (bytesOf "-" ++ formatTimeOfDay (second % 86400).toNat)

/-- A time point is a count of ticks from the start of 1970. -/
structure SystemClock where
  ticksPerMillisecond : Nat
  ticksPerMillisecond_pos : 0 < ticksPerMillisecond

namespace SystemClock

variable (clock : SystemClock)

def ticksPerSecond : Nat := 1000 * clock.ticksPerMillisecond

def floorMilliseconds (timePoint : Int) : Int := timePoint / clock.ticksPerMillisecond

def floorSeconds (timePoint : Int) : Int := timePoint / clock.ticksPerSecond

/-- `duration_cast` drops the rest towards zero. -/
def generateLogFileName (startedAt : Int) : FileName :=
  let startedAtSecond := clock.floorSeconds startedAt
  let millisecondsIntoSecond :=
    (startedAt - startedAtSecond * clock.ticksPerSecond).tdiv clock.ticksPerMillisecond
  ⟨logFileNamePrefix ++ (formatSecond startedAtSecond ++ (bytesOf "-" ++
    (padded 3 millisecondsIntoSecond.toNat ++ bytesOf ".log")))⟩

/-- The year of the start is written with four digits and no sign. -/
def FourDigitYear (startedAt : Int) : Prop :=
  1000 ≤ (dateOf (clock.floorSeconds startedAt)).year ∧
    (dateOf (clock.floorSeconds startedAt)).year ≤ 9999

end SystemClock

def Sorts (front back : Bytes) : Prop := front.map UInt8.toNat < back.map UInt8.toNat

theorem codes_padded (width n : Nat) :
    (padded width n).map UInt8.toNat = (numeral 10 width n).map (48 + ·) := by
  rw [padded, List.map_map]
  apply List.map_congr_left
  intro digit hdigit
  have hlt := lt_of_mem_numeral (by decide) hdigit
  simp only [Function.comp_apply, digitByte, UInt8.toNat_ofNat']
  omega

variable {front back : Bytes}

theorem sorts_append_iff (bytes : Bytes) :
    Sorts (bytes ++ front) (bytes ++ back) ↔ Sorts front back := by
  unfold Sorts
  rw [List.map_append, List.map_append, append_left_lt_iff]

theorem sorts_padded_iff {width n m : Nat} (hn : n < 10 ^ width) (hm : m < 10 ^ width) :
    Sorts (padded width n ++ front) (padded width m ++ back) ↔
      n < m ∨ n = m ∧ Sorts front back := by
  have hletter : StrictMono (48 + · : Nat → Nat) := fun _ _ h => Nat.add_lt_add_left h 48
  unfold Sorts
  rw [List.map_append, List.map_append, codes_padded, codes_padded]
  exact numeral_append_lt_iff (by decide) hletter hn hm

theorem sorts_formatYear_iff {year later : Int} (hyear : 1000 ≤ year ∧ year ≤ 9999)
    (hlater : 1000 ≤ later ∧ later ≤ 9999) :
    Sorts (formatYear year ++ front) (formatYear later ++ back) ↔
      year < later ∨ year = later ∧ Sorts front back := by
  obtain ⟨year, rfl⟩ := Int.eq_ofNat_of_zero_le (show 0 ≤ year by omega)
  obtain ⟨later, rfl⟩ := Int.eq_ofNat_of_zero_le (show 0 ≤ later by omega)
  unfold formatYear
  rw [if_neg (by omega), if_neg (by omega), List.nil_append, List.nil_append, Int.natAbs_natCast,
    Int.natAbs_natCast, sorts_padded_iff (by omega) (by omega), Int.ofNat_lt, Int.ofNat_inj]

theorem sorts_formatDate_iff {date later : Date} (hyear : 1000 ≤ date.year ∧ date.year ≤ 9999)
    (hlater : 1000 ≤ later.year ∧ later.year ≤ 9999) :
    Sorts (formatDate date ++ front) (formatDate later ++ back) ↔
      date.Before later ∨ date = later ∧ Sorts front back := by
  obtain ⟨_, hmonth⟩ := date.month_range
  obtain ⟨_, hmonth'⟩ := later.month_range
  have hday := date.day_le
  have hday' := later.day_le
  unfold formatDate
  simp only [List.append_assoc]
  rw [sorts_formatYear_iff hyear hlater, sorts_padded_iff (by omega) (by omega),
    sorts_padded_iff (by omega) (by omega), Date.ext_iff]
  unfold Date.Before
  tauto

theorem sorts_formatTimeOfDay_iff {second later : Nat} (hsecond : second < 86400)
    (hlater : later < 86400) :
    Sorts (formatTimeOfDay second ++ front) (formatTimeOfDay later ++ back) ↔
      second < later ∨ second = later ∧ Sorts front back := by
  unfold formatTimeOfDay
  simp only [List.append_assoc]
  rw [sorts_padded_iff (by omega) (by omega), sorts_padded_iff (by omega) (by omega),
    sorts_padded_iff (by omega) (by omega)]
  generalize Sorts front back = rest
  by_cases hrest : rest
  · simp only [hrest, and_true]
    omega
  · simp only [hrest, and_false, or_false]
    omega

/-- The fields of a second sort as the seconds do. -/
theorem sorts_formatSecond_iff {second later : Int}
    (hyear : 1000 ≤ (dateOf second).year ∧ (dateOf second).year ≤ 9999)
    (hlater : 1000 ≤ (dateOf later).year ∧ (dateOf later).year ≤ 9999) :
    Sorts (formatSecond second ++ front) (formatSecond later ++ back) ↔
      second < later ∨ second = later ∧ Sorts front back := by
  unfold formatSecond
  simp only [List.append_assoc]
  rw [sorts_formatDate_iff hyear hlater, sorts_append_iff,
    sorts_formatTimeOfDay_iff (by omega) (by omega)]
  unfold dateOf
  rw [Date.before_ofDayNumber_iff, Date.ofDayNumber_inj]
  generalize Sorts front back = rest
  by_cases hrest : rest
  · simp only [hrest, and_true]
    omega
  · simp only [hrest, and_false, or_false]
    omega

namespace SystemClock

variable {clock : SystemClock} {startedAt later : Int}

theorem ticks_pos (clock : SystemClock) : (0 : Int) < clock.ticksPerMillisecond :=
  Int.natCast_pos.mpr clock.ticksPerMillisecond_pos

theorem floorSeconds_eq (clock : SystemClock) (timePoint : Int) :
    clock.floorSeconds timePoint = clock.floorMilliseconds timePoint / 1000 := by
  unfold floorSeconds floorMilliseconds ticksPerSecond
  rw [Int.ediv_ediv_of_nonneg (by omega)]
  congr 1
  push_cast
  exact Int.mul_comm _ _

theorem millisecondsIntoSecond_eq (clock : SystemClock) (timePoint : Int) :
    (timePoint - clock.floorSeconds timePoint * clock.ticksPerSecond).tdiv
      clock.ticksPerMillisecond = clock.floorMilliseconds timePoint % 1000 := by
  have hpos := clock.ticks_pos
  rw [floorSeconds_eq]
  unfold floorMilliseconds ticksPerSecond
  have hticks := Int.emod_add_mul_ediv timePoint clock.ticksPerMillisecond
  have hrest := Int.emod_nonneg timePoint hpos.ne'
  have hrest' := Int.emod_lt_of_pos timePoint hpos
  generalize timePoint / clock.ticksPerMillisecond = milliseconds at *
  have hsecond := Int.emod_add_mul_ediv milliseconds 1000
  have hmillisecond := Int.emod_nonneg milliseconds (show (1000 : Int) ≠ 0 by decide)
  have hsplit : timePoint - milliseconds / 1000 * ((1000 * clock.ticksPerMillisecond : Nat) : Int) =
      timePoint % clock.ticksPerMillisecond +
        milliseconds % 1000 * clock.ticksPerMillisecond := by
    push_cast
    linear_combination (-1 : Int) * hticks - clock.ticksPerMillisecond * hsecond
  rw [hsplit, Int.tdiv_eq_ediv_of_nonneg (by positivity), Int.add_mul_ediv_right _ _ hpos.ne',
    Int.ediv_eq_zero_of_lt hrest hrest', Int.zero_add]

theorem generateLogFileName_lt_iff (hyear : clock.FourDigitYear startedAt)
    (hlater : clock.FourDigitYear later) :
    clock.generateLogFileName startedAt < clock.generateLogFileName later ↔
      clock.floorMilliseconds startedAt < clock.floorMilliseconds later := by
  change Sorts _ _ ↔ _
  rw [generateLogFileName, generateLogFileName]
  dsimp only
  rw [millisecondsIntoSecond_eq, millisecondsIntoSecond_eq, sorts_append_iff,
    sorts_formatSecond_iff hyear hlater, sorts_append_iff,
    sorts_padded_iff (by omega) (by omega), floorSeconds_eq, floorSeconds_eq]
  have hirrefl : ¬ Sorts (bytesOf ".log") (bytesOf ".log") := lt_irrefl _
  simp only [hirrefl, and_false, or_false]
  omega

theorem extension_log {front : Bytes} (hfront : front ≠ []) :
    (⟨front ++ bytesOf ".log"⟩ : FileName).extension = bytesOf ".log" := by
  have hlength := List.length_pos_iff.mpr hfront
  have hdots : (⟨front ++ bytesOf ".log"⟩ : FileName) ≠ fileName ".." := by
    intro h
    have hbytes := congrArg (fun name => name.bytes.length) h
    rw [List.length_append] at hbytes
    change front.length + 4 = 2 at hbytes
    omega
  have hsuffix : ((front ++ bytesOf ".log").reverse.takeWhile (· != '.'.val.toUInt8)).reverse =
      bytesOf "log" := by
    rw [List.reverse_append]
    rfl
  unfold FileName.extension
  dsimp only
  rw [if_neg hdots, hsuffix, if_pos]
  · rfl
  · rw [List.length_append]
    change 3 + 2 ≤ front.length + 4
    omega

theorem hasLogName_generateLogFileName (clock : SystemClock) (startedAt : Int) :
    hasLogName (clock.generateLogFileName startedAt) = true := by
  unfold hasLogName generateLogFileName
  rw [Bool.and_eq_true]
  constructor
  · exact List.isPrefixOf_iff_prefix.mpr (List.prefix_append _ _)
  · simp only [← List.append_assoc]
    rw [extension_log]
    · rfl
    · simp [logFileNamePrefix, bytesOf]

theorem floorMilliseconds_mono (clock : SystemClock) {timePoint other : Int}
    (h : timePoint ≤ other) : clock.floorMilliseconds timePoint ≤ clock.floorMilliseconds other :=
  Int.ediv_le_ediv clock.ticks_pos h

def Apart (clock : SystemClock) (startTimes : List Int) : Prop :=
  (startTimes.map clock.floorMilliseconds).Nodup

theorem generateLogFileName_le_iff {startTimes : List Int} (hapart : clock.Apart startTimes)
    (hyears : ∀ startedAt ∈ startTimes, clock.FourDigitYear startedAt)
    (hstart : startedAt ∈ startTimes) (hlater : later ∈ startTimes) :
    startedAt ≤ later ↔
      clock.generateLogFileName startedAt ≤ clock.generateLogFileName later := by
  rw [← not_lt, ← not_lt, not_iff_not,
    generateLogFileName_lt_iff (hyears later hlater) (hyears startedAt hstart)]
  constructor
  · intro hlt
    apply lt_of_le_of_ne (clock.floorMilliseconds_mono hlt.le)
    intro heq
    exact hlt.ne (List.inj_on_of_nodup_map hapart hlater hstart heq)
  · intro hlt
    by_contra hle
    exact absurd (clock.floorMilliseconds_mono (not_lt.mp hle)) (not_le.mpr hlt)

/-- Names sort as the starts that they spell, at the resolution of a millisecond; retention counts
them all and removes the logs of the runs that started first. -/
theorem oldest_starts_go_first (clock : SystemClock) :
    (∀ startedAt later, clock.FourDigitYear startedAt → clock.FourDigitYear later →
      (clock.generateLogFileName startedAt < clock.generateLogFileName later ↔
        clock.floorMilliseconds startedAt < clock.floorMilliseconds later)) ∧
    (∀ startedAt, hasLogName (clock.generateLogFileName startedAt) = true) ∧
    ∀ (process : Process) (files : FileSystem) (logDirectory : Path) (maximumFilesToKeep : Nat)
      (names : List FileName) (startTimes : List Int),
      let location := logDirectory.locate process.system.workingDirectory
      (∀ startedAt ∈ startTimes, clock.FourDigitYear startedAt) → clock.Apart startTimes →
      process.system.listDirectory files logDirectory = some names →
      names.filter (isLogFile files location) = startTimes.map clock.generateLogFileName →
      process.pruneLogHistory files logDirectory maximumFilesToKeep =
        (oldest maximumFilesToKeep startTimes).foldl (fun files startedAt =>
          process.system.remove files
            (location ++ [clock.generateLogFileName startedAt])) files := by
  refine ⟨?_, clock.hasLogName_generateLogFileName, ?_⟩
  · intro startedAt later hyear hlater
    exact generateLogFileName_lt_iff hyear hlater
  · intro process files logDirectory k names startTimes location hyears hapart hlist hlogs
    have hsorted := List.map_insertionSort (· ≤ ·) (· ≤ ·) clock.generateLogFileName startTimes
      fun _ hstart _ hlater => generateLogFileName_le_iff hapart hyears hstart hlater
    unfold Process.pruneLogHistory oldest
    simp only [hlist]
    rw [hlogs, List.length_map, ← hsorted, ← List.map_take, List.foldl_map]
    split
    · rename_i hfew
      rw [Nat.sub_eq_zero_of_le hfew]
      rfl
    · rfl

def milliseconds : SystemClock := ⟨1, by decide⟩

def newYearFiles : FileSystem where
  entries :=
    [([fileName "logs"], .directory),
      ([fileName "logs", milliseconds.generateLogFileName 946684800000], .file []),
      ([fileName "logs", milliseconds.generateLogFileName 946684799999], .file [])]
  distinct := by decide +kernel

theorem oldest_starts_go_first_newYear :
    milliseconds.generateLogFileName 946684799999 <
        milliseconds.generateLogFileName 946684800000 ∧
      obliging.pruneLogHistory newYearFiles logDirectory 1 =
        obliging.system.remove newYearFiles
          [fileName "logs", milliseconds.generateLogFileName 946684799999] := by
  obtain ⟨hnames, _, hprune⟩ := oldest_starts_go_first milliseconds
  constructor
  · exact (hnames 946684799999 946684800000 ⟨by decide, by decide⟩ ⟨by decide, by decide⟩).mpr
      (by decide)
  · exact hprune obliging newYearFiles logDirectory 1 _ [946684800000, 946684799999]
      (by unfold FourDigitYear; decide) (by unfold Apart; decide) rfl (by decide +kernel)

end SystemClock

end PlaygroundEngine.Log
