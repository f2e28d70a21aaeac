import PlaygroundEngine.DebugUi.InputTranslation
import PlaygroundEngine.Ecs.InputEdges
import PlaygroundEngine.EventDelivery
import PlaygroundEngine.GlfwInputTranslation
import PlaygroundEngine.Library.LastWord

/-!
# The game and the debug UI hold the same keys

Both read every frame's record. They agree on what is down as long as each event's code belongs to
its type, and all that the callbacks and the agent channel produce are such events.
-/

namespace PlaygroundEngine

open Library AgentChannel
set_option autoImplicit false

variable {F : Type}

theorem imGuiKeys_named : ∀ row ∈ imGuiKeys, isKeyboardCode row.1 = true ∧ row.2 ≠ .none ∧
    row.2 ≠ .modCtrl ∧ row.2 ≠ .modShift ∧ row.2 ≠ .modAlt ∧ row.2 ≠ .modSuper := by
  decide +kernel

theorem imGuiKeys_distinct : (imGuiKeys.map Prod.snd).Nodup := by
  decide +kernel

theorem glfwKeys_keyboard : ∀ row ∈ glfwKeys, isKeyboardCode row.2 = true := by
  decide +kernel

theorem glfwPointerButtons_pointer : ∀ row ∈ glfwPointerButtons, isPointerCode row.2 = true := by
  decide +kernel

theorem mem_of_lookup {α β : Type} [BEq α] [LawfulBEq α] {rows : List (α × β)} {a : α} {b : β}
    (h : rows.lookup a = some b) : (a, b) ∈ rows := by
  obtain ⟨before, after, rfl, _⟩ := List.lookup_eq_some_iff.mp h
  exact List.mem_append_right before List.mem_cons_self

theorem translateKeyCode_mem {code : InputCode} (h : translateKeyCode code ≠ .none) :
    (code, translateKeyCode code) ∈ imGuiKeys := by
  unfold translateKeyCode at *
  cases hlookup : imGuiKeys.lookup code with
  | none =>
    rw [hlookup] at h
    exact absurd rfl h
  | some key => exact mem_of_lookup hlookup

theorem translateKeyCode_inj {code other : InputCode} (h : translateKeyCode code ≠ .none)
    (hsame : translateKeyCode other = translateKeyCode code) : other = code := by
  have hother : translateKeyCode other ≠ .none := hsame ▸ h
  have hrows := List.inj_on_of_nodup_map imGuiKeys_distinct (translateKeyCode_mem hother)
    (translateKeyCode_mem h) hsame
  exact congrArg Prod.fst hrows

theorem translatePointerButton_inj {code other : InputCode}
    (h : 0 ≤ translatePointerButton code)
    (hsame : translatePointerButton other = translatePointerButton code) : other = code := by
  have hvalue : other.value = code.value := by
    unfold translatePointerButton at *
    grind
  cases code
  cases other
  exact congrArg InputCode.mk hvalue

theorem translatePointerButton_pointer {code : InputCode} (h : 0 ≤ translatePointerButton code) :
    isPointerCode code = true := by
  unfold translatePointerButton at h
  split_ifs at h with h₀ h₁ h₂ h₃ h₄
  · simp [isPointerCode, h₀, InputCode.pointerRangeFirst, InputCode.pointerRangeLast]
  · simp [isPointerCode, h₁, InputCode.pointerRangeFirst, InputCode.pointerRangeLast]
  · simp [isPointerCode, h₂, InputCode.pointerRangeFirst, InputCode.pointerRangeLast]
  · simp [isPointerCode, h₃, InputCode.pointerRangeFirst, InputCode.pointerRangeLast]
  · simp [isPointerCode, h₄, InputCode.pointerRangeFirst, InputCode.pointerRangeLast]
  · exact absurd h (by decide)

section Classed

variable [Zero F]

def PlatformEvent.Classed (event : PlatformEvent F) : Prop :=
  match event.type with
  | .keyPressed | .keyReleased => isKeyboardCode event.code = true ∨ event.code = .unknown
  | .pointerButtonPressed | .pointerButtonReleased =>
    isPointerCode event.code = true ∨ event.code = .unknown
  | _ => event.code = .unknown

theorem translateGlfwKey_keyboard (key : Int) :
    isKeyboardCode (translateGlfwKey key) = true ∨ translateGlfwKey key = .unknown := by
  unfold translateGlfwKey
  cases hlookup : glfwKeys.lookup key with
  | none => exact Or.inr rfl
  | some code => exact Or.inl (glfwKeys_keyboard _ (mem_of_lookup hlookup))

theorem translateGlfwPointerButton_pointer (button : Int) :
    isPointerCode (translateGlfwPointerButton button) = true ∨
      translateGlfwPointerButton button = .unknown := by
  unfold translateGlfwPointerButton
  cases hlookup : glfwPointerButtons.lookup button with
  | none => exact Or.inr rfl
  | some code => exact Or.inl (glfwPointerButtons_pointer _ (mem_of_lookup hlookup))

theorem GlfwCallback.classed {callback : GlfwCallback F} {event : PlatformEvent F}
    (h : callback.event = some event) : event.Classed := by
  cases callback with
  | key number scancode action modifiers =>
    rw [GlfwCallback.event, onKey] at h
    split at h
    · cases h
    · cases h
      have hcode := translateGlfwKey_keyboard number
      by_cases haction : action = 0
      · simp only [PlatformEvent.Classed, if_pos haction]
        exact hcode
      · simp only [PlatformEvent.Classed, if_neg haction]
        exact hcode
  | pointerButton button action modifiers =>
    cases h
    have hcode := translateGlfwPointerButton_pointer button
    by_cases haction : action = 0
    · simp only [PlatformEvent.Classed, onPointerButton, if_pos haction]
      exact hcode
    · simp only [PlatformEvent.Classed, onPointerButton, if_neg haction]
      exact hcode
  | windowFocus focused =>
    cases h
    cases focused <;> exact rfl
  | _ =>
    cases h
    exact rfl

section Parsing

variable {reader : FloatReader F} {type : PlatformEventType} {arguments : List Bytes}
  {event : PlatformEvent F}

theorem parseKey_code (h : parseKey type arguments = .ok event) :
    event.type = type ∧ isKeyboardCode event.code = true := by
  unfold parseKey at h
  grind

theorem parsePointerButton_code (h : parsePointerButton type arguments = .ok event) :
    event.type = type ∧ isPointerCode event.code = true := by
  unfold parsePointerButton at h
  grind

theorem parseCoordinates_code (h : parseCoordinates reader type arguments = .ok event) :
    event.type = type ∧ event.code = .unknown := by
  unfold parseCoordinates at h
  grind

theorem parseCharacter_code (h : parseCharacter type arguments = .ok event) :
    event.type = type ∧ event.code = .unknown := by
  unfold parseCharacter at h
  grind

theorem parseBare_code (h : parseBare type arguments = .ok event) :
    event.type = type ∧ event.code = .unknown := by
  unfold parseBare at h
  grind

theorem parseEvent_classed (h : parseEvent reader type arguments = .ok event) :
    event.Classed := by
  unfold parseEvent at h
  cases type with
  | keyPressed | keyReleased =>
    obtain ⟨htype, hcode⟩ := parseKey_code h
    simp only [PlatformEvent.Classed, htype]
    exact Or.inl hcode
  | pointerButtonPressed | pointerButtonReleased =>
    obtain ⟨htype, hcode⟩ := parsePointerButton_code h
    simp only [PlatformEvent.Classed, htype]
    exact Or.inl hcode
  | pointerMoved | pointerMovedRelative | pointerScrolled =>
    obtain ⟨htype, hcode⟩ := parseCoordinates_code h
    simp only [PlatformEvent.Classed, htype]
    exact hcode
  | characterTyped =>
    obtain ⟨htype, hcode⟩ := parseCharacter_code h
    simp only [PlatformEvent.Classed, htype]
    exact hcode
  | focusGained | focusLost | closeRequested =>
    obtain ⟨htype, hcode⟩ := parseBare_code h
    simp only [PlatformEvent.Classed, htype]
    exact hcode
  | windowResized => cases h

theorem parseCommand_classed {line : Bytes} (h : parseCommand reader line = .ok event) :
    event.Classed := by
  unfold parseCommand at h
  split at h
  · cases h
  · split at h
    · cases h
    · exact parseEvent_classed h

end Parsing

/-- What an event says about a code to the input system. -/
def codeWord (code : InputCode) (event : PlatformEvent F) : Option Bool :=
  if event.code = code then
    some ((isKeyboardCode code && event.type = .keyPressed) ||
      (isPointerCode code && event.type = .pointerButtonPressed))
  else none

theorem endsPressed_iff_lastWord (code : InputCode) (events : List (PlatformEvent F)) :
    EndsPressed code events ↔ lastWord (codeWord code) events = some true := by
  induction events using List.reverseRecOn with
  | nil =>
    constructor
    · rintro ⟨event, hlast, _⟩
      exact absurd hlast.symm (Option.some_ne_none event)
    · exact fun h => nomatch h
  | append_singleton events event ih =>
    rw [lastWord_concat, codeWord]
    by_cases hcode : event.code = code
    · rw [endsPressed_concat_own hcode, if_pos hcode, Option.some_or, Option.some_inj,
        Bool.or_eq_true, Bool.and_eq_true, Bool.and_eq_true, decide_eq_true_eq, decide_eq_true_eq]
      exact ⟨fun h => h.presses, fun h => ⟨hcode, h⟩⟩
    · rw [endsPressed_concat_other hcode, if_neg hcode, Option.none_or]
      exact ih

end Classed

def keyWord (key : ImGuiKey) : IoCall F → Option Bool
  | .addKeyEvent other down => if other = key then some down else none
  | _ => none

def buttonWord (button : Int) : IoCall F → Option Bool
  | .addMouseButtonEvent other down => if other = button then some down else none
  | _ => none

theorem keyWord_modifiers {code : InputCode} (h : translateKeyCode code ≠ .none)
    (modifiers : InputModifiers) :
    lastWord (keyWord (translateKeyCode code)) (submitKeyModifiers modifiers : List (IoCall F)) =
      none := by
  obtain ⟨_, _, hctrl, hshift, halt, hsuper⟩ := imGuiKeys_named _ (translateKeyCode_mem h)
  refine lastWord_silent fun call hcall => ?_
  simp only [submitKeyModifiers, List.mem_cons, List.not_mem_nil, or_false] at hcall
  rcases hcall with rfl | rfl | rfl | rfl
  · exact if_neg (Ne.symm hctrl)
  · exact if_neg (Ne.symm hshift)
  · exact if_neg (Ne.symm halt)
  · exact if_neg (Ne.symm hsuper)

theorem buttonWord_modifiers (button : Int) (modifiers : InputModifiers) :
    lastWord (buttonWord button) (submitKeyModifiers modifiers : List (IoCall F)) = none := by
  refine lastWord_silent fun call hcall => ?_
  simp only [submitKeyModifiers, List.mem_cons, List.not_mem_nil, or_false] at hcall
  rcases hcall with rfl | rfl | rfl | rfl <;> rfl

theorem code_ne_of_pointer {code other : InputCode} (hcode : isKeyboardCode code = true)
    (hother : isPointerCode other = true ∨ other = .unknown) : other ≠ code := by
  rintro rfl
  rcases hother with hpointer | hunknown
  · exact keyboard_not_pointer hcode hpointer
  · rw [hunknown] at hcode
    exact absurd hcode (by decide)

theorem code_ne_of_keyboard {code other : InputCode} (hcode : isPointerCode code = true)
    (hother : isKeyboardCode other = true ∨ other = .unknown) : other ≠ code := by
  rintro rfl
  rcases hother with hkeyboard | hunknown
  · exact keyboard_not_pointer hkeyboard hcode
  · rw [hunknown] at hcode
    exact absurd hcode (by decide)

section Agreement

variable [Zero F]

theorem keyWord_submit {code : InputCode} (h : translateKeyCode code ≠ .none)
    {event : PlatformEvent F} (hevent : event.Classed) :
    lastWord (keyWord (translateKeyCode code)) (submitPlatformEvent event) =
      codeWord code event := by
  obtain ⟨hkeyboard, _⟩ := imGuiKeys_named _ (translateKeyCode_mem h)
  unfold PlatformEvent.Classed at hevent
  unfold submitPlatformEvent codeWord
  cases htype : event.type with
  | keyPressed | keyReleased =>
    dsimp only
    by_cases hcode : event.code = code
    · rw [hcode, if_pos h, lastWord_concat, keyWord, if_pos rfl, if_pos rfl]
      simp [hkeyboard]
    · have hother : translateKeyCode event.code ≠ translateKeyCode code :=
        fun hsame => hcode (translateKeyCode_inj h hsame)
      rw [if_neg hcode]
      split
      · rw [lastWord_concat, keyWord, if_neg hother, keyWord_modifiers h]
        rfl
      · rfl
  | pointerButtonPressed | pointerButtonReleased =>
    simp only [htype] at hevent ⊢
    rw [if_neg (code_ne_of_pointer hkeyboard hevent)]
    split
    · rw [lastWord_concat, keyWord_modifiers h]
      rfl
    · rfl
  | _ =>
    simp only [htype] at hevent ⊢
    rw [if_neg (code_ne_of_pointer hkeyboard (Or.inr hevent))]
    rfl

theorem buttonWord_submit {code : InputCode} (h : 0 ≤ translatePointerButton code)
    {event : PlatformEvent F} (hevent : event.Classed) :
    lastWord (buttonWord (translatePointerButton code)) (submitPlatformEvent event) =
      codeWord code event := by
  have hpointer := translatePointerButton_pointer h
  unfold PlatformEvent.Classed at hevent
  unfold submitPlatformEvent codeWord
  cases htype : event.type with
  | pointerButtonPressed | pointerButtonReleased =>
    dsimp only
    by_cases hcode : event.code = code
    · rw [hcode, if_pos h, lastWord_concat, buttonWord, if_pos rfl, if_pos rfl]
      simp [hpointer]
    · have hother : translatePointerButton event.code ≠ translatePointerButton code :=
        fun hsame => hcode (translatePointerButton_inj h hsame)
      rw [if_neg hcode]
      split
      · rw [lastWord_concat, buttonWord, if_neg hother, buttonWord_modifiers]
        rfl
      · rfl
  | keyPressed | keyReleased =>
    simp only [htype] at hevent ⊢
    rw [if_neg (code_ne_of_keyboard hpointer hevent)]
    split
    · rw [lastWord_concat, buttonWord_modifiers]
      rfl
    · rfl
  | _ =>
    simp only [htype] at hevent ⊢
    rw [if_neg (code_ne_of_keyboard hpointer (Or.inr hevent))]
    rfl

/-! ### Runs -/

/-- Every call on the input queue up to the end of the frames with these records. -/
def submitted (records : List (PlatformEventRecord F)) : List (IoCall F) :=
  records.flatMap submitPlatformEvents

/-- What the queue was last told is what the input component shows. -/
structure ConsumersAgree (records : List (PlatformEventRecord F)) : Prop where
  keys : ∀ code, translateKeyCode code ≠ .none →
    (lastWord (keyWord (translateKeyCode code)) (submitted records) = some true ↔
      (stateAfter records).isPressed code = true)
  buttons : ∀ code, 0 ≤ translatePointerButton code →
    (lastWord (buttonWord (translatePointerButton code)) (submitted records) = some true ↔
      (stateAfter records).isPressed code = true)

theorem submitted_eq (records : List (PlatformEventRecord F)) :
    submitted records = (eventsOf records).flatMap submitPlatformEvent :=
  (List.flatMap_assoc ..).symm

theorem consumersAgree_of_classed {records : List (PlatformEventRecord F)}
    (h : ∀ record ∈ records, ∀ event ∈ record.events, event.Classed) :
    ConsumersAgree records := by
  have hevents : ∀ event ∈ eventsOf records, event.Classed := by
    intro event hmem
    obtain ⟨record, hrecord, hevent⟩ := List.mem_flatMap.mp hmem
    exact h record hrecord event hevent
  constructor
  · intro code hcode
    rw [submitted_eq, lastWord_flatMap, isPressed_stateAfter, endsPressed_iff_lastWord,
      lastWord_congr fun event hmem => keyWord_submit hcode (hevents event hmem)]
  · intro code hcode
    rw [submitted_eq, lastWord_flatMap, isPressed_stateAfter, endsPressed_iff_lastWord,
      lastWord_congr fun event hmem => buttonWord_submit hcode (hevents event hmem)]

variable {reader : FloatReader F} {e : Execution F}

theorem PlatformEvent.Classed.stamp {event : PlatformEvent F} (h : event.Classed)
    (now : UInt64) : PlatformEvent.Classed { event with timestamp := now } := h

theorem Request.event_classed {request : Request} {event : PlatformEvent F}
    (h : request.event reader = some event) : event.Classed := by
  unfold Request.event at h
  split at h
  · split at h
    · rename_i parsed hparse
      cases h
      exact (parseCommand_classed hparse).stamp request.now
    · cases h
  · cases h

theorem acknowledged_classed {event : PlatformEvent F} (h : event ∈ e.acknowledged reader) :
    event.Classed := by
  obtain ⟨answer, _, hanswer⟩ := List.mem_filterMap.mp h
  split_ifs at hanswer with hok
  exact Request.event_classed hanswer

theorem unanswered_classed {event : PlatformEvent F} (h : event ∈ e.unanswered reader) :
    event.Classed := by
  unfold Execution.unanswered at h
  split at h
  · split_ifs at h with hok
    · exact Request.event_classed (Option.mem_toList.mp h)
    · cases h
  · cases h

theorem mem_fired_or_staged (h : Reachable reader e) {record : List (PlatformEvent F)}
    (hrecord : record ∈ e.records) {event : PlatformEvent F} (hevent : event ∈ record) :
    event ∈ e.fired ∨ event ∈ e.staged := by
  obtain ⟨past, window, injected, hparts⟩ := attributed_reachable h
  have hrecords : e.records =
      (past ++ [(window, injected)]).map fun part => part.1 ++ part.2 := by
    rw [Execution.records, hparts.pastRecords, hparts.current, List.map_append, List.map_singleton]
  have hfired : ((past ++ [(window, injected)]).map Prod.fst).flatten ++
      e.windowServer.pendingEvents.events = e.fired := by
    rw [List.map_append, List.map_singleton]
    exact hparts.fired
  have hstaged : ((past ++ [(window, injected)]).map Prod.snd).flatten ++ e.channelPending =
      e.staged := by
    rw [List.map_append, List.map_singleton]
    exact hparts.staged
  rw [hrecords] at hrecord
  obtain ⟨part, hpart, rfl⟩ := List.mem_map.mp hrecord
  rcases List.mem_append.mp hevent with hwindow | hinjected
  · left
    rw [← hfired]
    exact List.mem_append_left _
      (List.mem_flatten.mpr ⟨part.1, List.mem_map_of_mem hpart, hwindow⟩)
  · right
    rw [← hstaged]
    exact List.mem_append_left _
      (List.mem_flatten.mpr ⟨part.2, List.mem_map_of_mem hpart, hinjected⟩)

/-- The callbacks have appended what GLFW's callbacks make, each with its own time. -/
def FiredByGlfw (e : Execution F) : Prop :=
  ∀ event ∈ e.fired, ∃ (callback : GlfwCallback F) (made : PlatformEvent F) (now : UInt64),
    callback.event = some made ∧ event = { made with timestamp := now }

theorem records_classed (h : Reachable reader e) (hfired : FiredByGlfw e)
    {record : List (PlatformEvent F)} (hrecord : record ∈ e.records) {event : PlatformEvent F}
    (hevent : event ∈ record) : event.Classed := by
  rcases mem_fired_or_staged h hrecord hevent with happended | hstaged
  · obtain ⟨callback, made, now, hmade, rfl⟩ := hfired event happended
    exact (GlfwCallback.classed hmade).stamp now
  · rw [(answered_reachable h).staged] at hstaged
    rcases List.mem_append.mp hstaged with hacknowledged | hunanswered
    · exact acknowledged_classed hacknowledged
    · exact unanswered_classed hunanswered

/-- At any point of any interleaving, up to any frame: each key or button that ImGui has a name
for was last reported down to its queue exactly when the game's input component shows it down. -/
theorem consumers_agree (h : Reachable reader e) (hfired : FiredByGlfw e) (frames : Nat) :
    ConsumersAgree ((e.records.take frames).map PlatformEventRecord.mk) := by
  refine consumersAgree_of_classed fun record hrecord event hevent => ?_
  obtain ⟨events, hevents, rfl⟩ := List.mem_map.mp hrecord
  exact records_classed h hfired (List.mem_of_mem_take hevents) hevent

end Agreement

def keyHeld : Execution Nat :=
  { (((({} : Execution Nat).fire { type := .keyPressed, code := ⟨23⟩ } 3).clear).pump) with
    phase := .consuming }

theorem reachable_keyHeld : Reachable naturalReader keyHeld :=
  (((Relation.ReflTransGen.single (.callback _ _ _)).tail (.clear _ rfl)).tail
    (.pump _ rfl)).tail (.withoutChannel _ rfl)

theorem firedByGlfw_keyHeld : FiredByGlfw keyHeld := by
  intro event hevent
  refine ⟨.key 87 0 1 0, { type := .keyPressed, code := ⟨23⟩ }, 3, by decide, ?_⟩
  exact List.mem_singleton.mp hevent

theorem consumers_agree_keyHeld :
    lastWord (keyWord .w) (submitted ((keyHeld.records.take 2).map PlatformEventRecord.mk)) =
        some true ∧
      (stateAfter ((keyHeld.records.take 2).map PlatformEventRecord.mk)).isPressed ⟨23⟩ = true :=
  have hshown : (stateAfter ((keyHeld.records.take 2).map
      PlatformEventRecord.mk)).isPressed ⟨23⟩ = true := by decide
  ⟨((consumers_agree reachable_keyHeld firedByGlfw_keyHeld 2).keys ⟨23⟩ (by decide)).mpr hshown,
    hshown⟩

end PlaygroundEngine
