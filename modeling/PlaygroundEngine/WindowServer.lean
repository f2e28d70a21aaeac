import PlaygroundEngine.PlatformEvents

/-!
# The window server's batch

What the window system's callbacks leave behind until the frame pumps it.
-/

namespace PlaygroundEngine

set_option autoImplicit false

structure WindowServerBackend (F : Type) [Zero F] where
  pendingEvents : PlatformEventRecord F := {}

namespace WindowServerBackend

variable {F : Type} [Zero F]

/-- `now` is the reading of the clock. -/
def appendEvent (backend : WindowServerBackend F) (event : PlatformEvent F) (now : UInt64) :
    WindowServerBackend F :=
  { backend with pendingEvents := backend.pendingEvents.append { event with timestamp := now } }

/-- After the poll, whose callbacks append through `appendEvent`. -/
def pump (backend : WindowServerBackend F) (record : PlatformEventRecord F) :
    PlatformEventRecord F × WindowServerBackend F :=
  (record.appendBatch backend.pendingEvents.events,
    { backend with pendingEvents := backend.pendingEvents.clear })

end WindowServerBackend

end PlaygroundEngine
