import Mathlib.Logic.Function.Basic

/-!
# What the windows ask of GLFW

The library is a parameter: its calls, and the windows and cursors it has. `Conforms` is what its
documentation promises of the calls. A call on something that is not there breaks its contract and
need not have a result.
-/

namespace PlaygroundEngine.Windows

set_option autoImplicit false

abbrev WindowHandle := Nat
abbrev CursorHandle := Nat

inductive GlfwCursorShape where
  | arrow
  | ibeam
  | pointingHand
  | notAllowed
  | resizeEw
  | resizeNs
  | resizeNwse
  | resizeNesw
  | resizeAll
  deriving DecidableEq

structure GlfwWindow where
  /-- The cursor it shows; `none` is the system's default. -/
  cursor : Option CursorHandle := none
  cursorHidden : Bool := false
  /-- Whom its callbacks find; `none` until it is set. -/
  userPointer : Option Nat := none

structure GlfwContents where
  initialized : Bool := false
  windows : WindowHandle → Option GlfwWindow := fun _ => none
  cursors : CursorHandle → Option GlfwCursorShape := fun _ => none

namespace GlfwContents

def setWindow (handle : WindowHandle) (window : Option GlfwWindow) (contents : GlfwContents) :
    GlfwContents :=
  { contents with windows := Function.update contents.windows handle window }

def addCursor (cursor : CursorHandle) (shape : GlfwCursorShape) (contents : GlfwContents) :
    GlfwContents :=
  { contents with cursors := Function.update contents.cursors cursor (some shape) }

/-- A window that shows the cursor goes back to the default. -/
def removeCursor (cursor : CursorHandle) (contents : GlfwContents) : GlfwContents :=
  { contents with
    cursors := Function.update contents.cursors cursor none
    windows := fun handle => (contents.windows handle).map fun window =>
      if window.cursor = some cursor then { window with cursor := none } else window }

@[simp] theorem setWindow_windows (handle : WindowHandle) (window : Option GlfwWindow)
    (contents : GlfwContents) : (contents.setWindow handle window).windows handle = window :=
  Function.update_self ..

@[simp] theorem setWindow_setWindow (handle : WindowHandle) (window window' : Option GlfwWindow)
    (contents : GlfwContents) :
    (contents.setWindow handle window).setWindow handle window' =
      contents.setWindow handle window' := by
  simp only [setWindow, Function.update_idem]

theorem setWindow_eq_self {handle : WindowHandle} {window : Option GlfwWindow}
    {contents : GlfwContents} (h : contents.windows handle = window) :
    contents.setWindow handle window = contents := by
  rw [setWindow, Function.update_eq_self_iff.mpr h.symm]

@[simp] theorem addCursor_cursors (cursor : CursorHandle) (shape : GlfwCursorShape)
    (contents : GlfwContents) : (contents.addCursor cursor shape).cursors cursor = some shape :=
  Function.update_self ..

end GlfwContents

structure Glfw (State : Type) where
  contents : State → GlfwContents
  /-- The new window, or null. -/
  createWindow : State → Option (Option WindowHandle × State)
  setWindowUserPointer : WindowHandle → Nat → State → Option State
  /-- The input mode of the cursor. -/
  setCursorHidden : WindowHandle → Bool → State → Option State
  setCursor : WindowHandle → Option CursorHandle → State → Option State
  /-- The new cursor, or null. -/
  createStandardCursor : GlfwCursorShape → State → Option (Option CursorHandle × State)
  destroyCursor : CursorHandle → State → Option State
  destroyWindow : WindowHandle → State → Option State
  terminate : State → State

structure Glfw.Conforms {State : Type} (G : Glfw State) : Prop where
  /-- A new window is none of those that are there, and shows the default cursor. -/
  createWindow : ∀ {state}, (G.contents state).initialized = true →
    ∃ answer after, G.createWindow state = some (answer, after) ∧
      (answer = none → G.contents after = G.contents state) ∧
      ∀ handle, answer = some handle → (G.contents state).windows handle = none ∧
        G.contents after = (G.contents state).setWindow handle (some {})
  setWindowUserPointer : ∀ {state handle window} pointer,
    (G.contents state).windows handle = some window →
    ∃ after, G.setWindowUserPointer handle pointer state = some after ∧
      G.contents after =
        (G.contents state).setWindow handle (some { window with userPointer := some pointer })
  setCursorHidden : ∀ {state handle window} hidden,
    (G.contents state).windows handle = some window →
    ∃ after, G.setCursorHidden handle hidden state = some after ∧
      G.contents after =
        (G.contents state).setWindow handle (some { window with cursorHidden := hidden })
  /-- A null cursor is the system's default. -/
  setCursor : ∀ {state handle window} cursor,
    (G.contents state).windows handle = some window →
    (∀ shown, cursor = some shown → ((G.contents state).cursors shown).isSome) →
    ∃ after, G.setCursor handle cursor state = some after ∧
      G.contents after = (G.contents state).setWindow handle (some { window with cursor })
  /-- A new cursor is none of those that are there. -/
  createStandardCursor : ∀ {state} shape, (G.contents state).initialized = true →
    ∃ answer after, G.createStandardCursor shape state = some (answer, after) ∧
      (answer = none → G.contents after = G.contents state) ∧
      ∀ cursor, answer = some cursor → (G.contents state).cursors cursor = none ∧
        G.contents after = (G.contents state).addCursor cursor shape
  destroyCursor : ∀ {state cursor}, ((G.contents state).cursors cursor).isSome →
    ∃ after, G.destroyCursor cursor state = some after ∧
      G.contents after = (G.contents state).removeCursor cursor
  destroyWindow : ∀ {state handle}, ((G.contents state).windows handle).isSome →
    ∃ after, G.destroyWindow handle state = some after ∧
      G.contents after = (G.contents state).setWindow handle none

end PlaygroundEngine.Windows
