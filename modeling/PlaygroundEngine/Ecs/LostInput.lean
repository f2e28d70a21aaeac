import PlaygroundEngine.Ecs.InputEdges

/-!
# Input the fold loses

A frame shows the state at its end only, so a press that the same record undoes
shows nowhere. A loss of focus releases nothing by itself.
-/

namespace PlaygroundEngine

open Library Reflection
set_option autoImplicit false

section Append
variable {F : Type} [Zero F] {code : InputCode} {before after : List (PlatformEvent F)}

theorem carrying_of_press {event : PlatformEvent F} (hmem : event ∈ after)
    (hpress : IsPressOf code event) : carrying code after ≠ [] := by
  apply List.ne_nil_of_mem
  exact List.mem_filter.mpr ⟨hmem, decide_eq_true hpress.carries⟩

theorem endsPressed_append (h : carrying code after ≠ []) :
    EndsPressed code (before ++ after) ↔ EndsPressed code after := by
  have hlast : ((carrying code (before ++ after)).getLast?) = (carrying code after).getLast? := by
    rw [carrying_append, List.getLast?_append, List.getLast?_eq_some_getLast h]
    rfl
  rw [EndsPressed, EndsPressed, hlast]

theorem EndsPressed.of_append (hnone : ∀ event ∈ after, ¬ IsPressOf code event)
    (h : EndsPressed code (before ++ after)) : EndsPressed code before := by
  by_cases hafter : carrying code after = []
  · rw [EndsPressed, carrying_append, hafter, List.append_nil] at h
    exact h
  · rw [endsPressed_append hafter] at h
    obtain ⟨event, hlast, hpress⟩ := h
    have hmem := (List.mem_filter.mp (List.mem_of_getLast? hlast)).1
    exact absurd hpress (hnone event hmem)

end Append

section Runs
variable {T F : Type} [LinearOrder T] [Zero F] {inputType : T} {history : List (InputFrame F)}
  {system : InputSystem T F}

def eventsBefore (history : List (InputFrame F)) (n : Nat) : List (PlatformEvent F) :=
  eventsOf (recordsOf (history.take n))

theorem eventsBefore_succ {n : Nat} {frame : InputFrame F} (hframe : history[n]? = some frame) :
    eventsBefore history (n + 1) = eventsBefore history n ++ frame.record.events := by
  rw [eventsBefore, List.take_add_one, hframe, Option.toList_some, recordsOf_concat,
    eventsOf_concat]
  rfl

def Presses (code : InputCode) (record : PlatformEventRecord F) : Prop :=
  ∃ event ∈ record.events, IsPressOf code event

/-- A press of a code that was up shows as an edge of its frame. -/
def ShowsPresses (code : InputCode) (history : List (InputFrame F)) : Prop :=
  ∀ (n : Nat) (frame : InputFrame F), history[n]? = some frame →
    ¬ pressedBefore code history n → Presses code frame.record →
    frame.inputState.wasPressedThisFrame code

/-- A record that presses a code that was up leaves it down. -/
def PressesLast (code : InputCode) (history : List (InputFrame F)) : Prop :=
  ∀ (n : Nat) (frame : InputFrame F), history[n]? = some frame →
    ¬ EndsPressed code (eventsBefore history n) → Presses code frame.record →
    EndsPressed code frame.record.events

theorem wasPressed_iff (hstates : Replayed history) {code : InputCode} {n : Nat}
    {frame : InputFrame F} (hframe : history[n]? = some frame)
    (hup : ¬ pressedBefore code history n) (hpress : Presses code frame.record) :
    frame.inputState.wasPressedThisFrame code ↔ EndsPressed code frame.record.events := by
  obtain ⟨event, hmem, hpress⟩ := hpress
  have hlevel := pressedBefore_iff hstates code (List.getElem?_eq_some_iff.mp hframe).1
  change _ ↔ EndsPressed code (eventsBefore history (n + 1)) at hlevel
  rw [eventsBefore_succ hframe, endsPressed_append (carrying_of_press hmem hpress)] at hlevel
  rw [wasPressed_frame hstates code hframe, ← hlevel, Bool.and_eq_true, Bool.not_eq_true',
    ← Bool.not_eq_true]
  exact and_iff_left hup

/-- A run shows every press of a code exactly where no record undoes one. -/
theorem InputRun.showsPresses_iff (h : InputRun inputType history system) (code : InputCode) :
    ShowsPresses code history ↔ PressesLast code history := by
  have hstates := h.replays.states
  have hlevel : ∀ (n : Nat) (frame : InputFrame F), history[n]? = some frame →
      (pressedBefore code history n ↔ EndsPressed code (eventsBefore history n)) := by
    intro n frame hframe
    exact pressedBefore_iff hstates code (Nat.le_of_lt (List.getElem?_eq_some_iff.mp hframe).1)
  constructor
  · intro hshows n frame hframe hup hpress
    rw [← hlevel n frame hframe] at hup
    exact (wasPressed_iff hstates hframe hup hpress).mp (hshows n frame hframe hup hpress)
  · intro hlast n frame hframe hup hpress
    apply (wasPressed_iff hstates hframe hup hpress).mpr
    rw [hlevel n frame hframe] at hup
    exact hlast n frame hframe hup hpress

theorem showsPresses_tap : ∃ (history : List (InputFrame Int)) (system : InputSystem Nat Int),
    InputRun 0 history system ∧ recordsOf history = tapRecords ∧
      (ShowsPresses ⟨23⟩ history ↔ PressesLast ⟨23⟩ history) := by
  obtain ⟨history, system, hrun, hrecords⟩ := exists_inputRun 0 tapRecords
  exact ⟨history, system, hrun, hrecords, hrun.showsPresses_iff ⟨23⟩⟩

def quickTap : PlatformEventRecord Int := ⟨[keyDown, keyUp]⟩

theorem showsPresses_quickTap :
    ∃ (history : List (InputFrame Int)) (system : InputSystem Nat Int),
      InputRun 0 history system ∧ recordsOf history = [quickTap] ∧
        ¬ ShowsPresses ⟨23⟩ history := by
  obtain ⟨frame, system, hrun, hrecord⟩ := exists_inputFrame 0 quickTap
  refine ⟨[frame], system, hrun, congrArg ([·]) hrecord, fun hshows => ?_⟩
  have hpress : Presses ⟨23⟩ frame.record := by
    rw [hrecord]
    exact ⟨_, List.mem_cons_self, rfl, Or.inl ⟨rfl, rfl⟩⟩
  have hup : ¬ pressedBefore ⟨23⟩ [frame] 0 := Bool.false_ne_true
  have hshown := hshows 0 frame rfl hup hpress
  rw [wasPressed_iff hrun.replays.states rfl hup hpress, hrecord] at hshown
  have hcode : keyUp.code = ⟨23⟩ := rfl
  have hlast : IsPressOf ⟨23⟩ keyUp := (endsPressed_concat_own hcode [keyDown]).mp hshown
  rcases hlast.presses with ⟨_, htype⟩ | ⟨_, htype⟩
  · exact PlatformEventType.noConfusion htype
  · exact PlatformEventType.noConfusion htype

/-- The record has a loss of focus that no later press of the code follows. -/
def LosesFocus (code : InputCode) (record : PlatformEventRecord F) : Prop :=
  ∃ before lost after, record.events = before ++ lost :: after ∧ lost.type = .focusLost ∧
    ∀ event ∈ after, ¬ IsPressOf code event

/-- After a loss of focus a code is up until a later press. -/
def ReleasesOnFocusLost (code : InputCode) (history : List (InputFrame F)) : Prop :=
  ∀ (n : Nat) (frame : InputFrame F), history[n]? = some frame → LosesFocus code frame.record →
    ∀ (m : Nat) (later : InputFrame F), n ≤ m → history[m]? = some later →
      (∀ (k : Nat) (between : InputFrame F), n < k → k ≤ m → history[k]? = some between →
        ¬ Presses code between.record) →
      ¬ later.inputState.isPressed code

/-- The events themselves release a code by the end of a frame that loses the focus. -/
def ReleasedByEvents (code : InputCode) (history : List (InputFrame F)) : Prop :=
  ∀ (n : Nat) (frame : InputFrame F), history[n]? = some frame → LosesFocus code frame.record →
    ¬ EndsPressed code (eventsBefore history (n + 1))

theorem not_endsPressed_of_quiet {code : InputCode} {n m : Nat} (hle : n ≤ m)
    (hup : ¬ EndsPressed code (eventsBefore history (n + 1)))
    (hquiet : ∀ (k : Nat) (between : InputFrame F), n < k → k ≤ m →
      history[k]? = some between → ¬ Presses code between.record) :
    ¬ EndsPressed code (eventsBefore history (m + 1)) := by
  induction m, hle using Nat.le_induction with
  | base => exact hup
  | succ m hle ih =>
    have hbefore := ih (fun k between hk hkm => hquiet k between hk (Nat.le_succ_of_le hkm))
    cases hlast : history[m + 1]? with
    | none =>
      rw [eventsBefore, List.take_add_one, hlast, Option.toList_none, List.append_nil]
      exact hbefore
    | some last =>
      rw [eventsBefore_succ hlast]
      intro hends
      apply hbefore
      apply hends.of_append
      intro event hmem hpress
      exact hquiet (m + 1) last (by omega) (Nat.le_refl _) hlast ⟨event, hmem, hpress⟩

/-- A run releases a code on every loss of focus exactly where the events do. -/
theorem InputRun.releasesOnFocusLost_iff (h : InputRun inputType history system)
    (code : InputCode) : ReleasesOnFocusLost code history ↔ ReleasedByEvents code history := by
  have hstates := h.replays.states
  have hlevel : ∀ (n : Nat) (frame : InputFrame F), history[n]? = some frame →
      (frame.inputState.isPressed code ↔ EndsPressed code (eventsBefore history (n + 1))) := by
    intro n frame hframe
    rw [isPressed_frame code hframe]
    exact pressedBefore_iff hstates code (List.getElem?_eq_some_iff.mp hframe).1
  constructor
  · intro hreleases n frame hframe hlost
    rw [← hlevel n frame hframe]
    apply hreleases n frame hframe hlost n frame (Nat.le_refl n) hframe
    intro k between hlt hle
    omega
  · intro hreleased n frame hframe hlost m later hle hlater hquiet
    rw [hlevel m later hlater]
    exact not_endsPressed_of_quiet hle (hreleased n frame hframe hlost) hquiet

theorem releasesOnFocusLost_tap :
    ∃ (history : List (InputFrame Int)) (system : InputSystem Nat Int),
      InputRun 0 history system ∧ recordsOf history = tapRecords ∧
        (ReleasesOnFocusLost ⟨23⟩ history ↔ ReleasedByEvents ⟨23⟩ history) := by
  obtain ⟨history, system, hrun, hrecords⟩ := exists_inputRun 0 tapRecords
  exact ⟨history, system, hrun, hrecords, hrun.releasesOnFocusLost_iff ⟨23⟩⟩

def focusLostWhileDown : PlatformEventRecord Int := ⟨[keyDown, { type := .focusLost }]⟩

theorem releasesOnFocusLost_whileDown :
    ∃ (history : List (InputFrame Int)) (system : InputSystem Nat Int),
      InputRun 0 history system ∧ recordsOf history = [focusLostWhileDown] ∧
        ¬ ReleasesOnFocusLost ⟨23⟩ history := by
  obtain ⟨frame, system, hrun, hrecord⟩ := exists_inputFrame 0 focusLostWhileDown
  refine ⟨[frame], system, hrun, congrArg ([·]) hrecord, fun hreleases => ?_⟩
  have hlost : LosesFocus ⟨23⟩ frame.record := by
    rw [hrecord]
    exact ⟨[keyDown], { type := .focusLost }, [], rfl, rfl,
      fun event hmem => absurd hmem List.not_mem_nil⟩
  have hends : EndsPressed ⟨23⟩ (eventsBefore [frame] (0 + 1)) := by
    have hcode : keyDown.code = ⟨23⟩ := rfl
    rw [eventsBefore_succ rfl, hrecord]
    apply (endsPressed_concat_other (by decide) [keyDown]).mpr
    exact (endsPressed_concat_own hcode []).mpr ⟨rfl, Or.inl ⟨rfl, rfl⟩⟩
  apply hreleases 0 frame rfl hlost 0 frame (Nat.le_refl 0) rfl
  · intro k between hlt hle
    omega
  · have hframe : [frame][0]? = some frame := rfl
    rw [isPressed_frame _ hframe, pressedBefore_iff hrun.replays.states _ (Nat.le_refl 1)]
    exact hends

end Runs

end PlaygroundEngine
