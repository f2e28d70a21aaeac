import PlaygroundEngine.Reflection.Enumeration

/-!
# Platform events

The flat event every producer fills, the code space it draws from and the
per-frame record. Coordinates live in an arbitrary type `F` with a zero.
-/

namespace PlaygroundEngine

open Reflection
set_option autoImplicit false

/-- One code space for every digital input. Unnamed values are values too. -/
structure InputCode where
  value : UInt16 := 0
  deriving DecidableEq, Repr

namespace InputCode

def unknown : InputCode := ⟨0⟩
def keyboardRangeFirst : InputCode := ⟨1⟩
def keyboardRangeLast : InputCode := ⟨120⟩
def pointerRangeFirst : InputCode := ⟨256⟩
def pointerRangeLast : InputCode := ⟨263⟩

/-- Declaration order, range markers and aliases included. -/
def declarations : List (String × UInt16) :=
  [("Unknown", 0), ("KeyboardRangeFirst", 1), ("KeyA", 1), ("KeyB", 2), ("KeyC", 3), ("KeyD", 4),
   ("KeyE", 5), ("KeyF", 6), ("KeyG", 7), ("KeyH", 8), ("KeyI", 9), ("KeyJ", 10), ("KeyK", 11),
   ("KeyL", 12), ("KeyM", 13), ("KeyN", 14), ("KeyO", 15), ("KeyP", 16), ("KeyQ", 17), ("KeyR", 18),
   ("KeyS", 19), ("KeyT", 20), ("KeyU", 21), ("KeyV", 22), ("KeyW", 23), ("KeyX", 24), ("KeyY", 25),
   ("KeyZ", 26), ("Key0", 27), ("Key1", 28), ("Key2", 29), ("Key3", 30), ("Key4", 31), ("Key5", 32),
   ("Key6", 33), ("Key7", 34), ("Key8", 35), ("Key9", 36), ("KeySpace", 37), ("KeyApostrophe", 38),
   ("KeyComma", 39), ("KeyMinus", 40), ("KeyPeriod", 41), ("KeySlash", 42), ("KeySemicolon", 43),
   ("KeyEqual", 44), ("KeyLeftBracket", 45), ("KeyBackslash", 46), ("KeyRightBracket", 47),
   ("KeyGraveAccent", 48), ("KeyWorld1", 49), ("KeyWorld2", 50), ("KeyEscape", 51),
   ("KeyEnter", 52), ("KeyTab", 53), ("KeyBackspace", 54), ("KeyInsert", 55), ("KeyDelete", 56),
   ("KeyRight", 57), ("KeyLeft", 58), ("KeyDown", 59), ("KeyUp", 60), ("KeyPageUp", 61),
   ("KeyPageDown", 62), ("KeyHome", 63), ("KeyEnd", 64), ("KeyCapsLock", 65), ("KeyScrollLock", 66),
   ("KeyNumLock", 67), ("KeyPrintScreen", 68), ("KeyPause", 69), ("KeyMenu", 70), ("KeyF1", 71),
   ("KeyF2", 72), ("KeyF3", 73), ("KeyF4", 74), ("KeyF5", 75), ("KeyF6", 76), ("KeyF7", 77),
   ("KeyF8", 78), ("KeyF9", 79), ("KeyF10", 80), ("KeyF11", 81), ("KeyF12", 82), ("KeyF13", 83),
   ("KeyF14", 84), ("KeyF15", 85), ("KeyF16", 86), ("KeyF17", 87), ("KeyF18", 88), ("KeyF19", 89),
   ("KeyF20", 90), ("KeyF21", 91), ("KeyF22", 92), ("KeyF23", 93), ("KeyF24", 94), ("KeyF25", 95),
   ("KeyNumpad0", 96), ("KeyNumpad1", 97), ("KeyNumpad2", 98), ("KeyNumpad3", 99),
   ("KeyNumpad4", 100), ("KeyNumpad5", 101), ("KeyNumpad6", 102), ("KeyNumpad7", 103),
   ("KeyNumpad8", 104), ("KeyNumpad9", 105), ("KeyNumpadDecimal", 106), ("KeyNumpadDivide", 107),
   ("KeyNumpadMultiply", 108), ("KeyNumpadSubtract", 109), ("KeyNumpadAdd", 110),
   ("KeyNumpadEnter", 111), ("KeyNumpadEqual", 112), ("KeyLeftShift", 113), ("KeyLeftControl", 114),
   ("KeyLeftAlt", 115), ("KeyLeftSuper", 116), ("KeyRightShift", 117), ("KeyRightControl", 118),
   ("KeyRightAlt", 119), ("KeyRightSuper", 120), ("KeyboardRangeLast", 120),
   ("PointerRangeFirst", 256), ("PointerButtonLeft", 256), ("PointerButtonRight", 257),
   ("PointerButtonMiddle", 258), ("PointerButtonExtra1", 259), ("PointerButtonExtra2", 260),
   ("PointerButtonExtra3", 261), ("PointerButtonExtra4", 262), ("PointerButtonExtra5", 263),
   ("PointerRangeLast", 263), ("GamepadButtonRangeFirst", 512), ("GamepadButtonRangeLast", 639),
   ("AnalogRangeFirst", 640), ("AnalogRangeLast", 767)]

/-- A name as one number, so that distinctness is decided on numbers. -/
def nameNumber (name : Bytes) : Nat := name.foldl (fun number c => number * 256 + c.toNat) 0

def enumeration : EnumerationFacet InputCode where
  enumerators := declarations.map fun (name, value) => ⟨bytesOf name, ⟨value⟩⟩
  distinct := List.Nodup.of_map nameNumber (by
    rw [List.map_map, List.map_map]
    decide +kernel)

end InputCode

def isKeyboardCode (code : InputCode) : Bool :=
  InputCode.keyboardRangeFirst.value ≤ code.value && code.value ≤ InputCode.keyboardRangeLast.value

def isPointerCode (code : InputCode) : Bool :=
  InputCode.pointerRangeFirst.value ≤ code.value && code.value ≤ InputCode.pointerRangeLast.value

inductive PlatformEventType where
  | keyPressed
  | keyReleased
  | characterTyped
  | pointerMoved
  | pointerMovedRelative
  | pointerButtonPressed
  | pointerButtonReleased
  | pointerScrolled
  | focusGained
  | focusLost
  | windowResized
  | closeRequested
  deriving DecidableEq, Repr

def PlatformEventType.enumeration : EnumerationFacet PlatformEventType where
  enumerators :=
    [⟨bytesOf "KeyPressed", .keyPressed⟩, ⟨bytesOf "KeyReleased", .keyReleased⟩,
     ⟨bytesOf "CharacterTyped", .characterTyped⟩, ⟨bytesOf "PointerMoved", .pointerMoved⟩,
     ⟨bytesOf "PointerMovedRelative", .pointerMovedRelative⟩,
     ⟨bytesOf "PointerButtonPressed", .pointerButtonPressed⟩,
     ⟨bytesOf "PointerButtonReleased", .pointerButtonReleased⟩,
     ⟨bytesOf "PointerScrolled", .pointerScrolled⟩, ⟨bytesOf "FocusGained", .focusGained⟩,
     ⟨bytesOf "FocusLost", .focusLost⟩, ⟨bytesOf "WindowResized", .windowResized⟩,
     ⟨bytesOf "CloseRequested", .closeRequested⟩]
  distinct := by decide +kernel

structure InputModifiers where
  shift : Bool := false
  control : Bool := false
  alt : Bool := false
  super : Bool := false
  deriving DecidableEq, Repr

structure InputLockState where
  capsLock : Bool := false
  numLock : Bool := false
  deriving DecidableEq, Repr

/-- Opaque to everything but the backend that produced it. -/
structure PlatformKeyToken where
  value : Int32 := 0
  deriving DecidableEq, Repr

structure PlatformEvent (F : Type) [Zero F] where
  type : PlatformEventType
  code : InputCode := .unknown
  modifiers : InputModifiers := {}
  locks : InputLockState := {}
  repeated : Bool := false
  token : PlatformKeyToken := {}
  codepoint : UInt32 := 0
  x : F := 0
  y : F := 0
  timestamp : UInt64 := 0
  deriving DecidableEq

structure PlatformEventRecord (F : Type) [Zero F] where
  events : List (PlatformEvent F) := []

namespace PlatformEventRecord

variable {F : Type} [Zero F]

def clear (_ : PlatformEventRecord F) : PlatformEventRecord F := ⟨[]⟩

def append (record : PlatformEventRecord F) (event : PlatformEvent F) : PlatformEventRecord F :=
  ⟨record.events ++ [event]⟩

def appendBatch (record : PlatformEventRecord F) (events : List (PlatformEvent F)) :
    PlatformEventRecord F :=
  ⟨record.events ++ events⟩

end PlatformEventRecord

end PlaygroundEngine
