import PlaygroundEngine.Windows.CursorLives

/-!
# Windows over whole runs

Windows are created, set to shapes and destroyed in any order, whatever the window system answers.
-/

namespace PlaygroundEngine.Windows

open Library
set_option autoImplicit false

/-- A call of a user of the windows; a new window gets the address. -/
inductive Call where
  | createWindow (window : Nat)
  | destroyWindow (window : Nat)
  | setCursorShape (window : Nat) (shape : CursorShape)

variable {State : Type}

def perform (G : Glfw State) (windowServer : WindowServer) (state : State) :
    Call → Option (WindowServer × State)
  | .createWindow window => (windowServer.createWindow G window state).map Prod.snd
  | .destroyWindow window => windowServer.destroyWindow G window state
  | .setCursorShape window shape => windowServer.setCursorShape G window shape state

/-- A new window's address is not that of another, and a shape is set on a window that is there. A
window to destroy may be gone. -/
def Allowed (windowServer : WindowServer) : Call → Prop
  | .createWindow window => window ∉ windowServer.windows.map Prod.fst
  | .destroyWindow _ => True
  | .setCursorShape window _ => window ∈ windowServer.windows.map Prod.fst

/-- From a new connection, whose backend is at the address. -/
inductive Run (G : Glfw State) (backend : Nat) : List Call → WindowServer → State → Prop
  | connected {state : State} : G.contents state = { initialized := true } →
      Run G backend [] { backend } state
  | call {calls : List Call} {windowServer windowServer' : WindowServer} {state state' : State}
      {call : Call} (before : Run G backend calls windowServer state)
      (hallowed : Allowed windowServer call)
      (hperform : perform G windowServer state call = some (windowServer', state')) :
      Run G backend (calls ++ [call]) windowServer' state'

/-- A new window starts as the arrow. -/
def shapeWord (window : Nat) : Call → Option CursorShape
  | .createWindow address => if address = window then some .arrow else none
  | .setCursorShape address shape => if address = window then some shape else none
  | .destroyWindow _ => none

def requested (calls : List Call) (window : Nat) : CursorShape :=
  (lastWord (shapeWord window) calls).getD .arrow

theorem requested_concat (calls : List Call) (call : Call) (window : Nat) :
    requested (calls ++ [call]) window = (shapeWord window call).getD (requested calls window) := by
  rw [requested, lastWord_concat]
  cases shapeWord window call <;> rfl

theorem requested_silent {calls : List Call} {call : Call} {window : Nat}
    (h : shapeWord window call = none) :
    requested (calls ++ [call]) window = requested calls window := by
  rw [requested_concat, h]
  rfl

structure Kept (G : Glfw State) (backend : Nat) (calls : List Call) (windowServer : WindowServer)
    (state : State) : Prop where
  address : windowServer.backend = backend
  coherent : Coherent backend windowServer.windows (G.contents state)
  shape : ∀ owned ∈ windowServer.windows, owned.2.currentShape = requested calls owned.1
  refused : ∀ owned ∈ windowServer.windows, owned.2.currentShape ≠ .arrow →
    owned.2.currentShape ≠ .hidden → owned.2.cursors owned.2.currentShape = none →
      owned.2.currentShape ∈ owned.2.refusals

namespace Kept

variable {G : Glfw State} (hG : G.Conforms) {backend : Nat} {calls : List Call}
  {windowServer : WindowServer} {state : State}
include hG

theorem createWindow (h : Kept G backend calls windowServer state) {window : Nat}
    (haddress : window ∉ windowServer.windows.map Prod.fst) :
    ∃ windowServer' after,
      perform G windowServer state (.createWindow window) = some (windowServer', after) ∧
        Kept G backend (calls ++ [.createWindow window]) windowServer' after := by
  have hshape : ∀ owned ∈ windowServer.windows,
      owned.2.currentShape = requested (calls ++ [.createWindow window]) owned.1 := by
    intro owned howned
    have hsilent : shapeWord owned.1 (.createWindow window) = none := by
      refine if_neg ?_
      rintro rfl
      exact haddress (List.mem_map_of_mem howned)
    rw [requested_silent hsilent]
    exact h.shape owned howned
  obtain ⟨answer, created, hcreated, hrefused, hmade⟩ := hG.createWindow h.coherent.initialized
  cases answer with
  | none =>
    have hcoherent := h.coherent
    rw [← hrefused rfl] at hcoherent
    refine ⟨windowServer, created, ?_, h.address, hcoherent, hshape, h.refused⟩
    simp [perform, WindowServer.createWindow, hcreated]
  | some handle =>
    obtain ⟨hfresh, hcontents⟩ := hmade handle rfl
    have hthere : (G.contents created).windows handle = some {} := by
      rw [hcontents, GlfwContents.setWindow_windows]
    obtain ⟨after, hafter, hpointed⟩ := hG.setWindowUserPointer windowServer.backend hthere
    rw [hcontents, GlfwContents.setWindow_setWindow, h.address] at hpointed
    have hcoherent := h.coherent.create haddress hfresh
    rw [← hpointed] at hcoherent
    refine ⟨{ windowServer with
      windows := windowServer.windows ++ [(window, { handle := handle })] }, after, ?_, h.address,
      hcoherent, ?_, ?_⟩
    · simp [perform, WindowServer.createWindow, hcreated, hafter]
    · intro owned howned
      rcases List.mem_append.mp howned with hold | hnew
      · exact hshape owned hold
      · rw [List.mem_singleton.mp hnew, requested_concat, shapeWord, if_pos rfl]
        rfl
    · intro owned howned harrow hhidden hnone
      rcases List.mem_append.mp howned with hold | hnew
      · exact h.refused owned hold harrow hhidden hnone
      · rw [List.mem_singleton.mp hnew] at harrow
        exact absurd rfl harrow

theorem destroyWindow (h : Kept G backend calls windowServer state) (window : Nat) :
    ∃ windowServer' after,
      perform G windowServer state (.destroyWindow window) = some (windowServer', after) ∧
        Kept G backend (calls ++ [.destroyWindow window]) windowServer' after := by
  -- At most one window is at the address, and the rest is as it was.
  have hdestroyed : ∃ after,
      WindowServer.destroyEach G (windowServer.windows.filter fun owned => owned.1 = window)
        state = some after ∧
      Coherent backend (windowServer.windows.filter fun owned => owned.1 ≠ window)
        (G.contents after) := by
    rcases h.coherent.at_address window with ⟨owned, howned, rfl, honly⟩ | ⟨hgone, hnone⟩
    · obtain ⟨after, hdestroy, hcoherent⟩ := Coherent.destroy hG h.coherent howned
      refine ⟨after, ?_, hcoherent⟩
      rw [honly]
      simp only [WindowServer.destroyEach, hdestroy, Option.bind_eq_bind, Option.bind_some]
    · have hall : windowServer.windows.filter (fun owned => owned.1 ≠ window) =
          windowServer.windows := by
        refine List.filter_eq_self.mpr fun owned howned => decide_eq_true fun hsame => hgone ?_
        exact hsame ▸ List.mem_map_of_mem howned
      refine ⟨state, ?_, ?_⟩
      · rw [hnone]
        rfl
      · rw [hall]
        exact h.coherent
  obtain ⟨after, hdestroy, hcoherent⟩ := hdestroyed
  refine ⟨{ windowServer with
    windows := windowServer.windows.filter fun owned => owned.1 ≠ window }, after, ?_, h.address,
    hcoherent, fun owned howned => ?_, fun owned howned harrow hhidden hnone => ?_⟩
  · simp only [perform, WindowServer.destroyWindow, hdestroy, Option.bind_eq_bind,
      Option.bind_some]
    rfl
  · rw [requested_silent rfl]
    exact h.shape owned (List.mem_of_mem_filter howned)
  · exact h.refused owned (List.mem_of_mem_filter howned) harrow hhidden hnone

theorem setCursorShape (h : Kept G backend calls windowServer state) {window : Nat}
    {shape : CursorShape} (hwindow : window ∈ windowServer.windows.map Prod.fst) :
    ∃ windowServer' after,
      perform G windowServer state (.setCursorShape window shape) =
          some (windowServer', after) ∧
        Kept G backend (calls ++ [.setCursorShape window shape]) windowServer' after := by
  rcases h.coherent.at_address window with ⟨owned, howned, rfl, honly⟩ | ⟨hgone, _⟩
  case inr => exact absurd hwindow hgone
  obtain ⟨backend', after, hset, hbecomes, hshape, hrefused, hkept⟩ :=
    Coherent.setCursorShape hG h.coherent howned shape
  refine ⟨{ windowServer with windows := Coherent.replaced windowServer.windows owned.1 backend' },
    after, ?_, h.address, h.coherent.replace howned hbecomes, fun other hother => ?_,
    fun other hother harrow hhidden hnone => ?_⟩
  · have hfind : windowServer.windows.find? (fun other => other.1 = owned.1) = some owned := by
      rw [← List.head?_filter, honly]
      rfl
    simp only [perform, WindowServer.setCursorShape, hfind, hset, Option.bind_eq_bind,
      Option.bind_some]
    rfl
  · rcases (Coherent.mem_replaced howned _ _).mp hother with rfl | ⟨hother, hne⟩
    · rw [requested_concat, shapeWord, if_pos rfl]
      exact hshape
    · have hsilent : shapeWord other.1 (.setCursorShape owned.1 shape) = none :=
        if_neg hne.symm
      rw [requested_silent hsilent]
      exact h.shape other hother
  · rcases (Coherent.mem_replaced howned _ _).mp hother with rfl | ⟨hother, _⟩
    · dsimp only at harrow hhidden hnone ⊢
      rw [hshape] at harrow hhidden hnone ⊢
      by_cases hsame : shape = owned.2.currentShape
      · -- The slot was empty before, and has stayed so.
        have hempty : owned.2.cursors shape = none := by
          cases hslot : owned.2.cursors shape with
          | none => rfl
          | some cursor =>
            rw [hbecomes.kept shape cursor hslot] at hnone
            cases hnone
        subst hsame
        exact hkept _ (h.refused owned howned harrow hhidden hempty)
      · exact hrefused hsame hhidden hnone
    · exact h.refused other hother harrow hhidden hnone

theorem step (h : Kept G backend calls windowServer state) {call : Call}
    (hallowed : Allowed windowServer call) :
    ∃ windowServer' after, perform G windowServer state call = some (windowServer', after) ∧
      Kept G backend (calls ++ [call]) windowServer' after := by
  cases call with
  | createWindow => exact createWindow hG h hallowed
  | destroyWindow window => exact destroyWindow hG h window
  | setCursorShape => exact setCursorShape hG h hallowed

end Kept

theorem kept_of_run {G : Glfw State} (hG : G.Conforms) {backend : Nat} {calls : List Call}
    {windowServer : WindowServer} {state : State} (h : Run G backend calls windowServer state) :
    Kept G backend calls windowServer state := by
  induction h with
  | connected hcontents =>
    refine ⟨rfl, ?_, nofun, nofun⟩
    rw [hcontents]
    exact Coherent.connected backend
  | call _ hallowed hperform ih =>
    obtain ⟨_, _, hperformed, hkept⟩ := Kept.step hG ih hallowed
    rw [hperform, Option.some_inj, Prod.mk.injEq] at hperformed
    rwa [← hperformed.1, ← hperformed.2] at hkept

/-- What GLFW shows for the windows, and what it can be asked. -/
structure Served (G : Glfw State) (backend : Nat) (calls : List Call)
    (windowServer : WindowServer) (state : State) : Prop where
  /-- Each window shows the shape it was last set to: hidden, the cursor of the shape, or the
  default where the library had no cursor of the shape for it. -/
  shown : ∀ owned ∈ windowServer.windows, ∃ window,
    (G.contents state).windows owned.2.handle = some window ∧
    (window.cursorHidden = true ↔ requested calls owned.1 = .hidden) ∧
    (requested calls owned.1 ≠ .hidden →
      (∃ cursor, window.cursor = some cursor ∧
        (G.contents state).cursors cursor =
          some (toGlfwCursorShape (requested calls owned.1))) ∨
      window.cursor = none ∧ (requested calls owned.1 = .arrow ∨
        requested calls owned.1 ∈ owned.2.refusals))
  /-- The callbacks of every window find the backend. -/
  calledBack : ∀ handle window, (G.contents state).windows handle = some window →
    window.userPointer = some backend
  /-- Every cursor is kept for one shape by one window. -/
  cursors : ∀ cursor, ((G.contents state).cursors cursor).isSome →
    ∃! slot : (Nat × WindowBackend) × CursorShape,
      slot.1 ∈ windowServer.windows ∧ slot.1.2.cursors slot.2 = some cursor
  goesOn : ∀ call, Allowed windowServer call → (perform G windowServer state call).isSome
  /-- Destroying the windows has a result, and nothing is left for the connection to destroy. -/
  ends : ∃ after, WindowServer.destroyEach G windowServer.windows state = some after ∧
    windowServer.destroy G state = some (G.terminate after) ∧
    (∀ handle, (G.contents after).windows handle = none) ∧
    ∀ cursor, (G.contents after).cursors cursor = none

theorem windows_served {G : Glfw State} (hG : G.Conforms) {backend : Nat} {calls : List Call}
    {windowServer : WindowServer} {state : State} (h : Run G backend calls windowServer state) :
    Served G backend calls windowServer state := by
  have hkept := kept_of_run hG h
  constructor
  case shown =>
    intro owned howned
    obtain ⟨window, hwindow, hshown⟩ := hkept.coherent.shown owned howned
    rw [← hkept.shape owned howned]
    refine ⟨window, hwindow, hshown.hidden, fun hhidden => ?_⟩
    rw [hshown.cursor hhidden]
    cases hslot : owned.2.cursors owned.2.currentShape with
    | some cursor => exact Or.inl ⟨cursor, rfl, hkept.coherent.cached owned howned _ _ hslot⟩
    | none =>
      refine Or.inr ⟨rfl, ?_⟩
      by_cases harrow : owned.2.currentShape = .arrow
      · exact Or.inl harrow
      · exact Or.inr (hkept.refused owned howned harrow hhidden hslot)
  case calledBack =>
    intro handle window hwindow
    obtain ⟨owned, howned, rfl⟩ := hkept.coherent.onlyWindows handle (by rw [hwindow]; rfl)
    obtain ⟨window', hwindow', hshown⟩ := hkept.coherent.shown owned howned
    rw [hwindow, Option.some_inj] at hwindow'
    rw [hwindow']
    exact hshown.userPointer
  case cursors =>
    intro cursor hlive
    obtain ⟨owned, howned, shape, hslot⟩ := hkept.coherent.onlyCursors cursor hlive
    refine ⟨(owned, shape), ⟨howned, hslot⟩, ?_⟩
    rintro ⟨other, shape'⟩ ⟨hother, hslot'⟩
    obtain ⟨hsame, hshape⟩ :=
      hkept.coherent.apart other hother owned howned shape' shape cursor hslot' hslot
    rw [hsame, hshape]
  case goesOn =>
    intro call hallowed
    obtain ⟨_, _, hperformed, _⟩ := hkept.step hG hallowed
    rw [hperformed]
    rfl
  case ends =>
    obtain ⟨after, hdestroyed, hnone⟩ := Coherent.destroyEach hG hkept.coherent
    refine ⟨after, hdestroyed, ?_, hnone.none_left⟩
    simp only [WindowServer.destroy, hdestroyed, Option.bind_eq_bind, Option.bind_some]
    rfl

/-- Handles are given out in order, of windows and cursors alike. -/
structure OrderedContents where
  contents : GlfwContents := { initialized := true }
  next : Nat := 0
  fresh : ∀ handle, next ≤ handle →
    contents.windows handle = none ∧ contents.cursors handle = none := by
      exact fun _ _ => ⟨rfl, rfl⟩

namespace OrderedContents

def setWindow (handle : WindowHandle) (window : Option GlfwWindow) (ordered : OrderedContents) :
    Option OrderedContents :=
  if hgiven : handle < ordered.next then
    some {
      contents := ordered.contents.setWindow handle window
      next := ordered.next
      fresh := fun other hother => by
        have hne : other ≠ handle := Nat.ne_of_gt (Nat.lt_of_lt_of_le hgiven hother)
        exact ⟨(Function.update_of_ne hne ..).trans (ordered.fresh other hother).1,
          (ordered.fresh other hother).2⟩ }
  else none

theorem lt_next {ordered : OrderedContents} {handle : WindowHandle}
    (h : (ordered.contents.windows handle).isSome) : handle < ordered.next := by
  by_contra hnot
  rw [(ordered.fresh handle (Nat.le_of_not_lt hnot)).1] at h
  cases h

theorem exists_setWindow {ordered : OrderedContents} {handle : WindowHandle}
    (h : (ordered.contents.windows handle).isSome) (window : Option GlfwWindow) :
    ∃ after, ordered.setWindow handle window = some after ∧
      after.contents = ordered.contents.setWindow handle window :=
  ⟨_, dif_pos (lt_next h), rfl⟩

def modify (handle : WindowHandle) (change : GlfwWindow → GlfwWindow)
    (ordered : OrderedContents) : Option OrderedContents :=
  (ordered.contents.windows handle).bind fun window =>
    ordered.setWindow handle (some (change window))

theorem exists_modify {ordered : OrderedContents} {handle : WindowHandle} {window : GlfwWindow}
    (h : ordered.contents.windows handle = some window) (change : GlfwWindow → GlfwWindow) :
    ∃ after, ordered.modify handle change = some after ∧
      after.contents = ordered.contents.setWindow handle (some (change window)) := by
  obtain ⟨after, hafter, hcontents⟩ :=
    exists_setWindow (by rw [h]; rfl) (some (change window))
  refine ⟨after, ?_, hcontents⟩
  rw [modify, h]
  exact hafter

def createWindow (ordered : OrderedContents) : OrderedContents where
  contents := ordered.contents.setWindow ordered.next (some {})
  next := ordered.next + 1
  fresh other hother := by
    have hne : other ≠ ordered.next := by omega
    have hold := ordered.fresh other (by omega)
    exact ⟨(Function.update_of_ne hne ..).trans hold.1, hold.2⟩

def createCursor (shape : GlfwCursorShape) (ordered : OrderedContents) : OrderedContents where
  contents := ordered.contents.addCursor ordered.next shape
  next := ordered.next + 1
  fresh other hother := by
    have hne : other ≠ ordered.next := by omega
    have hold := ordered.fresh other (by omega)
    exact ⟨hold.1, (Function.update_of_ne hne ..).trans hold.2⟩

def destroyCursor (cursor : CursorHandle) (ordered : OrderedContents) : OrderedContents where
  contents := ordered.contents.removeCursor cursor
  next := ordered.next
  fresh other hother := by
    obtain ⟨hwindow, hcursor⟩ := ordered.fresh other hother
    refine ⟨congrArg (Option.map _) hwindow, ?_⟩
    by_cases hsame : other = cursor
    · subst hsame
      exact Function.update_self ..
    · exact (Function.update_of_ne hsame ..).trans hcursor

end OrderedContents

def orderedGlfw (carries : GlfwCursorShape → Bool) : Glfw OrderedContents where
  contents := OrderedContents.contents
  createWindow ordered := some (some ordered.next, ordered.createWindow)
  setWindowUserPointer handle pointer :=
    OrderedContents.modify handle fun window => { window with userPointer := some pointer }
  setCursorHidden handle hidden :=
    OrderedContents.modify handle fun window => { window with cursorHidden := hidden }
  setCursor handle cursor := OrderedContents.modify handle fun window => { window with cursor }
  createStandardCursor shape ordered :=
    some (if carries shape then (some ordered.next, ordered.createCursor shape)
      else (none, ordered))
  destroyCursor cursor ordered := some (ordered.destroyCursor cursor)
  destroyWindow handle ordered := ordered.setWindow handle none
  terminate _ := { contents := {} }

theorem orderedGlfw_conforms (carries : GlfwCursorShape → Bool) :
    (orderedGlfw carries).Conforms where
  createWindow {ordered} _ := by
    refine ⟨_, _, rfl, nofun, ?_⟩
    rintro _ ⟨⟩
    exact ⟨(ordered.fresh _ (Nat.le_refl _)).1, rfl⟩
  setWindowUserPointer pointer h := OrderedContents.exists_modify h _
  setCursorHidden hidden h := OrderedContents.exists_modify h _
  setCursor cursor h _ := OrderedContents.exists_modify h _
  createStandardCursor {ordered} shape _ := by
    cases hcarries : carries shape with
    | false =>
      refine ⟨none, ordered, ?_, fun _ => rfl, nofun⟩
      simp [orderedGlfw, hcarries]
    | true =>
      refine ⟨some ordered.next, ordered.createCursor shape, ?_, nofun, ?_⟩
      · simp [orderedGlfw, hcarries]
      · rintro _ ⟨⟩
        exact ⟨(ordered.fresh _ (Nat.le_refl _)).2, rfl⟩
  destroyCursor _ := ⟨_, rfl, rfl⟩
  destroyWindow h := OrderedContents.exists_setWindow h none

def handThenText : List Call :=
  [.createWindow 7, .setCursorShape 7 .hand, .setCursorShape 7 .textInput]

def handsOnly : Glfw OrderedContents := orderedGlfw fun shape => decide (shape = .pointingHand)

theorem windows_served_handThenText :
    ∃ windowServer state, Run handsOnly 9 handThenText windowServer state ∧
      Served handsOnly 9 handThenText windowServer state ∧
      (state.contents.windows 0).map GlfwWindow.cursor = some none ∧
      state.contents.cursors 1 = some .pointingHand := by
  have hcreated := @Run.call _ handsOnly 9 [] _ _ _ _ (.createWindow 7)
    (@Run.connected _ handsOnly 9 {} rfl) nofun rfl
  have hhand := @Run.call _ handsOnly 9 _ _ _ _ _ (.setCursorShape 7 .hand) hcreated
    (List.mem_singleton_self 7) rfl
  have htext := @Run.call _ handsOnly 9 _ _ _ _ _ (.setCursorShape 7 .textInput) hhand
    (List.mem_singleton_self 7) rfl
  exact ⟨_, _, htext, windows_served (orderedGlfw_conforms _) htext, rfl, rfl⟩

end PlaygroundEngine.Windows
