import PlaygroundEngine.Windows.Glfw

/-!
# The window server and its windows

A window keeps the cursors it has once asked for, and the shape it was last set to. The windows go
before the connection.
-/

namespace PlaygroundEngine.Windows

set_option autoImplicit false

inductive CursorShape where
  | arrow
  | textInput
  | hand
  | notAllowed
  | resizeHorizontal
  | resizeVertical
  | resizeTopLeftBottomRight
  | resizeTopRightBottomLeft
  | resizeAll
  | hidden
  deriving DecidableEq

def toGlfwCursorShape : CursorShape → GlfwCursorShape
  | .textInput => .ibeam
  | .hand => .pointingHand
  | .notAllowed => .notAllowed
  | .resizeHorizontal => .resizeEw
  | .resizeVertical => .resizeNs
  | .resizeTopLeftBottomRight => .resizeNwse
  | .resizeTopRightBottomLeft => .resizeNesw
  | .resizeAll => .resizeAll
  | .arrow | .hidden => .arrow

def cursorSlots : List CursorShape :=
  [.arrow, .textInput, .hand, .notAllowed, .resizeHorizontal, .resizeVertical,
    .resizeTopLeftBottomRight, .resizeTopRightBottomLeft, .resizeAll, .hidden]

structure WindowBackend where
  handle : WindowHandle
  cursors : CursorShape → Option CursorHandle := fun _ => none
  currentShape : CursorShape := .arrow
  /-- The shapes that the library had no cursor of when it was asked. -/
  refusals : List CursorShape := []

variable {State : Type} (G : Glfw State)

namespace WindowBackend

/-- Every shape has a slot. -/
def getCursor (shape : CursorShape) (backend : WindowBackend) (state : State) :
    Option (Option CursorHandle × WindowBackend × State) :=
  match backend.cursors shape with
  | some cursor => some (some cursor, backend, state)
  | none => do
    let (answer, state) ← G.createStandardCursor (toGlfwCursorShape shape) state
    let refusals := if answer.isNone then shape :: backend.refusals else backend.refusals
    return (answer,
      { backend with cursors := Function.update backend.cursors shape answer, refusals }, state)

def setCursorShape (shape : CursorShape) (backend : WindowBackend) (state : State) :
    Option (WindowBackend × State) := do
  if shape = backend.currentShape then return (backend, state)
  let backend := { backend with currentShape := shape }
  if shape = .hidden then
    let state ← G.setCursorHidden backend.handle true state
    return (backend, state)
  let (cursor, backend, state) ← backend.getCursor G shape state
  let state ← G.setCursor backend.handle cursor state
  let state ← G.setCursorHidden backend.handle false state
  return (backend, state)

def destroyCursors (backend : WindowBackend) : List CursorShape → State → Option State
  | [], state => some state
  | shape :: shapes, state => do
    let state ← match backend.cursors shape with
      | none => some state
      | some cursor => G.destroyCursor cursor state
    backend.destroyCursors shapes state

def destroy (backend : WindowBackend) (state : State) : Option State := do
  G.destroyWindow backend.handle (← backend.destroyCursors G cursorSlots state)

end WindowBackend

/-- Windows are known by the addresses that their users hold. -/
structure WindowServer where
  /-- The backend's address, which the callbacks are given. -/
  backend : Nat
  windows : List (Nat × WindowBackend) := []

namespace WindowServer

/-- `window` is the address that the new window gets. -/
def createWindow (window : Nat) (server : WindowServer) (state : State) :
    Option (Option Nat × WindowServer × State) := do
  let (answer, state) ← G.createWindow state
  match answer with
  | none => return (none, server, state)
  | some handle =>
    let state ← G.setWindowUserPointer handle server.backend state
    return (some window, { server with windows := server.windows ++ [(window, { handle })] }, state)

def destroyEach : List (Nat × WindowBackend) → State → Option State
  | [], state => some state
  | (_, backend) :: windows, state => do
    destroyEach windows (← backend.destroy G state)

/-- The windows with this address are erased; there may be none. -/
def destroyWindow (window : Nat) (server : WindowServer) (state : State) :
    Option (WindowServer × State) := do
  let state ← destroyEach G (server.windows.filter fun owned => owned.1 = window) state
  return ({ server with windows := server.windows.filter fun owned => owned.1 ≠ window }, state)

/-- A call on the window at the address; a call on a window that is gone has no result. -/
def setCursorShape (window : Nat) (shape : CursorShape) (server : WindowServer) (state : State) :
    Option (WindowServer × State) :=
  match server.windows.find? fun owned => owned.1 = window with
  | none => none
  | some (_, backend) => do
    let (backend, state) ← backend.setCursorShape G shape state
    return ({ server with
      windows := server.windows.map fun owned =>
        if owned.1 = window then (window, backend) else owned }, state)

def destroy (server : WindowServer) (state : State) : Option State := do
  return G.terminate (← destroyEach G server.windows state)

end WindowServer

end PlaygroundEngine.Windows
