import PlaygroundEngine.PlatformEvents

/-!
# Input for the debug UI

What a frame's record becomes as calls on ImGui's input queue.
-/

namespace PlaygroundEngine

set_option autoImplicit false

/-- The keys that are named here; the last four are the modifiers' own slots. -/
inductive ImGuiKey where
  | none | a | b | c | d | e | f | g | h | i | j | k | l | m | n | o | p | q | r | s | t | u | v
  | w | x | y | z | digit0 | digit1 | digit2 | digit3 | digit4 | digit5 | digit6 | digit7 | digit8
  | digit9 | space | apostrophe | comma | minus | period | slash | semicolon | equal | leftBracket
  | backslash | rightBracket | graveAccent | oem102 | escape | enter | tab | backspace | insert
  | delete | rightArrow | leftArrow | downArrow | upArrow | pageUp | pageDown | home | endKey
  | capsLock | scrollLock | numLock | printScreen | pause | menu | f1 | f2 | f3 | f4 | f5 | f6
  | f7 | f8 | f9 | f10 | f11 | f12 | f13 | f14 | f15 | f16 | f17 | f18 | f19 | f20 | f21 | f22
  | f23 | f24 | keypad0 | keypad1 | keypad2 | keypad3 | keypad4 | keypad5 | keypad6 | keypad7
  | keypad8 | keypad9 | keypadDecimal | keypadDivide | keypadMultiply | keypadSubtract | keypadAdd
  | keypadEnter | keypadEqual | leftShift | leftCtrl | leftAlt | leftSuper | rightShift
  | rightCtrl | rightAlt | rightSuper | modCtrl | modShift | modAlt | modSuper
  deriving DecidableEq

/-- The rows of the switch in its order. -/
def imGuiKeys : List (InputCode × ImGuiKey) :=
  [(⟨1⟩, .a), (⟨2⟩, .b), (⟨3⟩, .c), (⟨4⟩, .d), (⟨5⟩, .e), (⟨6⟩, .f), (⟨7⟩, .g), (⟨8⟩, .h),
   (⟨9⟩, .i), (⟨10⟩, .j), (⟨11⟩, .k), (⟨12⟩, .l), (⟨13⟩, .m), (⟨14⟩, .n), (⟨15⟩, .o), (⟨16⟩, .p),
   (⟨17⟩, .q), (⟨18⟩, .r), (⟨19⟩, .s), (⟨20⟩, .t), (⟨21⟩, .u), (⟨22⟩, .v), (⟨23⟩, .w), (⟨24⟩, .x),
   (⟨25⟩, .y), (⟨26⟩, .z), (⟨27⟩, .digit0), (⟨28⟩, .digit1), (⟨29⟩, .digit2), (⟨30⟩, .digit3),
   (⟨31⟩, .digit4), (⟨32⟩, .digit5), (⟨33⟩, .digit6), (⟨34⟩, .digit7), (⟨35⟩, .digit8),
   (⟨36⟩, .digit9), (⟨37⟩, .space), (⟨38⟩, .apostrophe), (⟨39⟩, .comma), (⟨40⟩, .minus),
   (⟨41⟩, .period), (⟨42⟩, .slash), (⟨43⟩, .semicolon), (⟨44⟩, .equal), (⟨45⟩, .leftBracket),
   (⟨46⟩, .backslash), (⟨47⟩, .rightBracket), (⟨48⟩, .graveAccent), (⟨49⟩, .oem102),
   (⟨51⟩, .escape), (⟨52⟩, .enter), (⟨53⟩, .tab), (⟨54⟩, .backspace), (⟨55⟩, .insert),
   (⟨56⟩, .delete), (⟨57⟩, .rightArrow), (⟨58⟩, .leftArrow), (⟨59⟩, .downArrow), (⟨60⟩, .upArrow),
   (⟨61⟩, .pageUp), (⟨62⟩, .pageDown), (⟨63⟩, .home), (⟨64⟩, .endKey), (⟨65⟩, .capsLock),
   (⟨66⟩, .scrollLock), (⟨67⟩, .numLock), (⟨68⟩, .printScreen), (⟨69⟩, .pause), (⟨70⟩, .menu),
   (⟨71⟩, .f1), (⟨72⟩, .f2), (⟨73⟩, .f3), (⟨74⟩, .f4), (⟨75⟩, .f5), (⟨76⟩, .f6), (⟨77⟩, .f7),
   (⟨78⟩, .f8), (⟨79⟩, .f9), (⟨80⟩, .f10), (⟨81⟩, .f11), (⟨82⟩, .f12), (⟨83⟩, .f13), (⟨84⟩, .f14),
   (⟨85⟩, .f15), (⟨86⟩, .f16), (⟨87⟩, .f17), (⟨88⟩, .f18), (⟨89⟩, .f19), (⟨90⟩, .f20),
   (⟨91⟩, .f21), (⟨92⟩, .f22), (⟨93⟩, .f23), (⟨94⟩, .f24), (⟨96⟩, .keypad0), (⟨97⟩, .keypad1),
   (⟨98⟩, .keypad2), (⟨99⟩, .keypad3), (⟨100⟩, .keypad4), (⟨101⟩, .keypad5), (⟨102⟩, .keypad6),
   (⟨103⟩, .keypad7), (⟨104⟩, .keypad8), (⟨105⟩, .keypad9), (⟨106⟩, .keypadDecimal),
   (⟨107⟩, .keypadDivide), (⟨108⟩, .keypadMultiply), (⟨109⟩, .keypadSubtract),
   (⟨110⟩, .keypadAdd), (⟨111⟩, .keypadEnter), (⟨112⟩, .keypadEqual), (⟨113⟩, .leftShift),
   (⟨114⟩, .leftCtrl), (⟨115⟩, .leftAlt), (⟨116⟩, .leftSuper), (⟨117⟩, .rightShift),
   (⟨118⟩, .rightCtrl), (⟨119⟩, .rightAlt), (⟨120⟩, .rightSuper)]

def translateKeyCode (code : InputCode) : ImGuiKey := (imGuiKeys.lookup code).getD .none

def translatePointerButton (code : InputCode) : Int :=
  if code.value = 256 then 0
  else if code.value = 257 then 1
  else if code.value = 258 then 2
  else if code.value = 259 then 3
  else if code.value = 260 then 4
  else -1

inductive IoCall (F : Type) where
  | addKeyEvent (key : ImGuiKey) (down : Bool)
  | addInputCharacter (codepoint : UInt32)
  | addMousePosEvent (x y : F)
  | addMouseButtonEvent (button : Int) (down : Bool)
  | addMouseWheelEvent (x y : F)
  | addFocusEvent (focused : Bool)

variable {F : Type}

def submitKeyModifiers (modifiers : InputModifiers) : List (IoCall F) :=
  [.addKeyEvent .modCtrl modifiers.control, .addKeyEvent .modShift modifiers.shift,
    .addKeyEvent .modAlt modifiers.alt, .addKeyEvent .modSuper modifiers.super]

def submitPlatformEvent [Zero F] (event : PlatformEvent F) : List (IoCall F) :=
  match event.type with
  | .keyPressed | .keyReleased =>
    let key := translateKeyCode event.code
    if key ≠ .none then
      submitKeyModifiers event.modifiers ++ [.addKeyEvent key (event.type = .keyPressed)]
    else []
  | .characterTyped => [.addInputCharacter event.codepoint]
  | .pointerMoved => [.addMousePosEvent event.x event.y]
  | .pointerButtonPressed | .pointerButtonReleased =>
    let button := translatePointerButton event.code
    if 0 ≤ button then
      submitKeyModifiers event.modifiers ++
        [.addMouseButtonEvent button (event.type = .pointerButtonPressed)]
    else []
  | .pointerScrolled => [.addMouseWheelEvent event.x event.y]
  | .focusGained => [.addFocusEvent true]
  | .focusLost => [.addFocusEvent false]
  | .pointerMovedRelative | .windowResized | .closeRequested => []

def submitPlatformEvents [Zero F] (record : PlatformEventRecord F) : List (IoCall F) :=
  record.events.flatMap submitPlatformEvent

end PlaygroundEngine
