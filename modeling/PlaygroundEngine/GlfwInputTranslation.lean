import PlaygroundEngine.PlatformEvents

/-!
# The window system's callbacks

What the GLFW backend makes of the arguments of each callback, before it stamps the time.
-/

namespace PlaygroundEngine

set_option autoImplicit false

def glfwKeys : List (Int × InputCode) :=
  [(65, ⟨1⟩), (66, ⟨2⟩), (67, ⟨3⟩), (68, ⟨4⟩), (69, ⟨5⟩), (70, ⟨6⟩), (71, ⟨7⟩), (72, ⟨8⟩),
   (73, ⟨9⟩), (74, ⟨10⟩), (75, ⟨11⟩), (76, ⟨12⟩), (77, ⟨13⟩), (78, ⟨14⟩), (79, ⟨15⟩), (80, ⟨16⟩),
   (81, ⟨17⟩), (82, ⟨18⟩), (83, ⟨19⟩), (84, ⟨20⟩), (85, ⟨21⟩), (86, ⟨22⟩), (87, ⟨23⟩), (88, ⟨24⟩),
   (89, ⟨25⟩), (90, ⟨26⟩), (48, ⟨27⟩), (49, ⟨28⟩), (50, ⟨29⟩), (51, ⟨30⟩), (52, ⟨31⟩), (53, ⟨32⟩),
   (54, ⟨33⟩), (55, ⟨34⟩), (56, ⟨35⟩), (57, ⟨36⟩), (32, ⟨37⟩), (39, ⟨38⟩), (44, ⟨39⟩), (45, ⟨40⟩),
   (46, ⟨41⟩), (47, ⟨42⟩), (59, ⟨43⟩), (61, ⟨44⟩), (91, ⟨45⟩), (92, ⟨46⟩), (93, ⟨47⟩), (96, ⟨48⟩),
   (161, ⟨49⟩), (162, ⟨50⟩), (256, ⟨51⟩), (257, ⟨52⟩), (258, ⟨53⟩), (259, ⟨54⟩), (260, ⟨55⟩),
   (261, ⟨56⟩), (262, ⟨57⟩), (263, ⟨58⟩), (264, ⟨59⟩), (265, ⟨60⟩), (266, ⟨61⟩), (267, ⟨62⟩),
   (268, ⟨63⟩), (269, ⟨64⟩), (280, ⟨65⟩), (281, ⟨66⟩), (282, ⟨67⟩), (283, ⟨68⟩), (284, ⟨69⟩),
   (348, ⟨70⟩), (290, ⟨71⟩), (291, ⟨72⟩), (292, ⟨73⟩), (293, ⟨74⟩), (294, ⟨75⟩), (295, ⟨76⟩),
   (296, ⟨77⟩), (297, ⟨78⟩), (298, ⟨79⟩), (299, ⟨80⟩), (300, ⟨81⟩), (301, ⟨82⟩), (302, ⟨83⟩),
   (303, ⟨84⟩), (304, ⟨85⟩), (305, ⟨86⟩), (306, ⟨87⟩), (307, ⟨88⟩), (308, ⟨89⟩), (309, ⟨90⟩),
   (310, ⟨91⟩), (311, ⟨92⟩), (312, ⟨93⟩), (313, ⟨94⟩), (314, ⟨95⟩), (320, ⟨96⟩), (321, ⟨97⟩),
   (322, ⟨98⟩), (323, ⟨99⟩), (324, ⟨100⟩), (325, ⟨101⟩), (326, ⟨102⟩), (327, ⟨103⟩), (328, ⟨104⟩),
   (329, ⟨105⟩), (330, ⟨106⟩), (331, ⟨107⟩), (332, ⟨108⟩), (333, ⟨109⟩), (334, ⟨110⟩),
   (335, ⟨111⟩), (336, ⟨112⟩), (340, ⟨113⟩), (341, ⟨114⟩), (342, ⟨115⟩), (343, ⟨116⟩),
   (344, ⟨117⟩), (345, ⟨118⟩), (346, ⟨119⟩), (347, ⟨120⟩)]

def translateGlfwKey (key : Int) : InputCode := (glfwKeys.lookup key).getD .unknown

/-- Buttons count from zero. -/
def glfwPointerButtons : List (Int × InputCode) :=
  [(0, ⟨256⟩), (1, ⟨257⟩), (2, ⟨258⟩), (3, ⟨259⟩), (4, ⟨260⟩), (5, ⟨261⟩), (6, ⟨262⟩), (7, ⟨263⟩)]

def translateGlfwPointerButton (button : Int) : InputCode :=
  (glfwPointerButtons.lookup button).getD .unknown

def translateGlfwModifiers (modifiers : BitVec 32) : InputModifiers where
  shift := modifiers &&& 0x1 ≠ 0
  control := modifiers &&& 0x2 ≠ 0
  alt := modifiers &&& 0x4 ≠ 0
  super := modifiers &&& 0x8 ≠ 0

def translateGlfwLockState (modifiers : BitVec 32) : InputLockState where
  capsLock := modifiers &&& 0x10 ≠ 0
  numLock := modifiers &&& 0x20 ≠ 0

/-- `GLFW_RELEASE`, `GLFW_PRESS` and `GLFW_REPEAT` are 0, 1 and 2; coordinates are narrowed to
`float`. -/
inductive GlfwCallback (F : Type) where
  | key (key : Int) (scancode : Int32) (action : Int) (modifiers : BitVec 32)
  | character (codepoint : UInt32)
  | cursorPosition (x y : F)
  | pointerButton (button action : Int) (modifiers : BitVec 32)
  | scroll (xOffset yOffset : F)
  | windowFocus (focused : Bool)
  | framebufferSize (width height : F)
  | windowClose

variable {F : Type} [Zero F]

/-- An action of a later GLFW makes no event. -/
def onKey (key : Int) (scancode : Int32) (action : Int) (modifiers : BitVec 32) :
    Option (PlatformEvent F) :=
  if action ≠ 1 ∧ action ≠ 0 ∧ action ≠ 2 then none
  else some {
    type := if action = 0 then .keyReleased else .keyPressed
    code := translateGlfwKey key
    modifiers := translateGlfwModifiers modifiers
    locks := translateGlfwLockState modifiers
    repeated := action = 2
    token := ⟨scancode⟩ }

def onPointerButton (button action : Int) (modifiers : BitVec 32) : PlatformEvent F where
  type := if action = 0 then .pointerButtonReleased else .pointerButtonPressed
  code := translateGlfwPointerButton button
  modifiers := translateGlfwModifiers modifiers
  locks := translateGlfwLockState modifiers

def GlfwCallback.event : GlfwCallback F → Option (PlatformEvent F)
  | .key number scancode action modifiers => onKey number scancode action modifiers
  | .character codepoint => some { type := .characterTyped, codepoint }
  | .cursorPosition x y => some { type := .pointerMoved, x, y }
  | .pointerButton button action modifiers => some (onPointerButton button action modifiers)
  | .scroll x y => some { type := .pointerScrolled, x, y }
  | .windowFocus focused => some { type := if focused then .focusGained else .focusLost }
  | .framebufferSize width height => some { type := .windowResized, x := width, y := height }
  | .windowClose => some { type := .closeRequested }

end PlaygroundEngine
