import PlaygroundEngine.PlatformEvents

/-!
# Parsing one agent command

The pure string-to-event function of the agent channel. The floating-point
reader of the standard library is a parameter; the unsigned one is written out.
-/

namespace PlaygroundEngine.AgentChannel

open Reflection
set_option autoImplicit false

inductive AgentCommandError where
  | unknownCommand
  | badArgumentCount
  | badArgument
  deriving DecidableEq, Repr

def AgentCommandError.enumeration : EnumerationFacet AgentCommandError where
  enumerators :=
    [⟨bytesOf "UnknownCommand", .unknownCommand⟩, ⟨bytesOf "BadArgumentCount", .badArgumentCount⟩,
     ⟨bytesOf "BadArgument", .badArgument⟩]
  distinct := by decide +kernel

def isSeparator (c : UInt8) : Bool := c == 32 || c == 9 || c == 13 || c == 10

/-- Each step skips separators to the next start and cuts at the next separator;
`line` is the part of the source's line from `position` on. -/
def tokenize (line : Bytes) : List Bytes :=
  match _start : line.dropWhile isSeparator with
  | [] => []
  | c :: rest =>
    (c :: rest).takeWhile (fun c => !isSeparator c) ::
      tokenize ((c :: rest).dropWhile fun c => !isSeparator c)
termination_by line.length
decreasing_by
  have hstart : isSeparator c = false := by
    have hhead := List.head_dropWhile_not isSeparator (l := line)
      (by rw [_start]; exact List.cons_ne_nil _ _)
    simpa [_start] using hhead
  rw [List.dropWhile_cons_of_pos (by simp [hstart])]
  have hrest := (List.dropWhile_sublist (fun c => !isSeparator c) (l := rest)).length_le
  have hline := (List.dropWhile_sublist isSeparator (l := line)).length_le
  rw [_start, List.length_cons] at hline
  omega

/-- `std::from_chars` into a `float`: the value read and the text left at `ptr`,
or `none` when the error code is set. -/
structure FloatReader (F : Type) where
  fromChars : Bytes → Option (F × Bytes)
  isFinite : F → Bool

def isDigit (c : UInt8) : Bool := 48 ≤ c && c ≤ 57

def decimalValue (digits : Bytes) : Nat :=
  digits.foldl (fun value c => value * 10 + (c.toNat - 48)) 0

/-- `std::from_chars` into a `std::uint32_t`: the longest run of digits, refused
when empty or out of range. -/
def fromCharsUnsigned (text : Bytes) : Option (UInt32 × Bytes) :=
  let digits := text.takeWhile isDigit
  if digits = [] then none
  else if 2 ^ 32 ≤ decimalValue digits then none
  else some (UInt32.ofNat (decimalValue digits), text.dropWhile isDigit)

variable {F : Type} [Zero F]

def parseFloat (reader : FloatReader F) (text : Bytes) : Option F :=
  match reader.fromChars text with
  | some (value, []) => if reader.isFinite value then some value else none
  | _ => none

def parseUnsigned (text : Bytes) : Option UInt32 :=
  match fromCharsUnsigned text with
  | some (value, []) => some value
  | _ => none

/-! The cases of the switch, one definition per argument shape. -/

def parseCoordinates (reader : FloatReader F) (type : PlatformEventType) (arguments : List Bytes) :
    Except AgentCommandError (PlatformEvent F) :=
  match arguments with
  | [first, second] =>
    match parseFloat reader first, parseFloat reader second with
    | some x, some y => .ok { type, x, y }
    | _, _ => .error .badArgument
  | _ => .error .badArgumentCount

def parseKey (type : PlatformEventType) (arguments : List Bytes) :
    Except AgentCommandError (PlatformEvent F) :=
  match arguments with
  | [] => .error .badArgumentCount
  | name :: options =>
    if 1 < options.length then .error .badArgumentCount
    else
      match InputCode.enumeration.enumFromName name with
      | none => .error .badArgument
      | some code =>
        if !isKeyboardCode code then .error .badArgument
        else
          match options with
          | [] => .ok { type, code }
          | option :: _ =>
            if type ≠ .keyPressed ∨ option ≠ bytesOf "repeat" then .error .badArgument
            else .ok { type, code, repeated := true }

def parsePointerButton (type : PlatformEventType) (arguments : List Bytes) :
    Except AgentCommandError (PlatformEvent F) :=
  match arguments with
  | [name] =>
    match InputCode.enumeration.enumFromName name with
    | none => .error .badArgument
    | some code => if isPointerCode code then .ok { type, code } else .error .badArgument
  | _ => .error .badArgumentCount

def parseCharacter (type : PlatformEventType) (arguments : List Bytes) :
    Except AgentCommandError (PlatformEvent F) :=
  match arguments with
  | [text] =>
    match parseUnsigned text with
    | none => .error .badArgument
    | some codepoint => .ok { type, codepoint }
  | _ => .error .badArgumentCount

def parseBare (type : PlatformEventType) (arguments : List Bytes) :
    Except AgentCommandError (PlatformEvent F) :=
  match arguments with
  | [] => .ok { type }
  | _ => .error .badArgumentCount

def parseEvent (reader : FloatReader F) (type : PlatformEventType) (arguments : List Bytes) :
    Except AgentCommandError (PlatformEvent F) :=
  match type with
  | .pointerMoved | .pointerMovedRelative | .pointerScrolled =>
    parseCoordinates reader type arguments
  | .keyPressed | .keyReleased => parseKey type arguments
  | .pointerButtonPressed | .pointerButtonReleased => parsePointerButton type arguments
  | .characterTyped => parseCharacter type arguments
  | .focusGained | .focusLost | .closeRequested => parseBare type arguments
  | .windowResized => .error .unknownCommand

def parseCommand (reader : FloatReader F) (line : Bytes) :
    Except AgentCommandError (PlatformEvent F) :=
  match tokenize line with
  | [] => .error .unknownCommand
  | verb :: arguments =>
    match PlatformEventType.enumeration.enumFromName verb with
    | none => .error .unknownCommand
    | some type => parseEvent reader type arguments

end PlaygroundEngine.AgentChannel
