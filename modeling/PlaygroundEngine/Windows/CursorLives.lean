import Mathlib.Data.List.Nodup
import PlaygroundEngine.Library.LastWord
import PlaygroundEngine.Windows.WindowServer

/-!
# The cursors that the windows show

Whatever windows come and go and whatever shapes they are set to: each shows the last one, each
cursor is made at most once for its window, and nothing outlives the connection.
-/

namespace PlaygroundEngine.Windows

open Library
set_option autoImplicit false

/-- The window library's side of one window. -/
structure Shown (server : Nat) (backend : WindowBackend) (window : GlfwWindow) : Prop where
  userPointer : window.userPointer = some server
  hidden : window.cursorHidden = true ↔ backend.currentShape = .hidden
  cursor : backend.currentShape ≠ .hidden → window.cursor = backend.cursors backend.currentShape
  own : ∀ cursor, window.cursor = some cursor → ∃ shape, backend.cursors shape = some cursor

/-- The library's windows and cursors are those of the server's windows, each cursor in one slot of
one window. -/
structure Coherent (server : Nat) (windows : List (Nat × WindowBackend)) (glfw : GlfwContents) :
    Prop where
  initialized : glfw.initialized = true
  addresses : (windows.map Prod.fst).Nodup
  handles : ∀ owned ∈ windows, ∀ other ∈ windows, owned.2.handle = other.2.handle → owned = other
  shown : ∀ owned ∈ windows, ∃ window, glfw.windows owned.2.handle = some window ∧
    Shown server owned.2 window
  onlyWindows : ∀ handle, (glfw.windows handle).isSome → ∃ owned ∈ windows, owned.2.handle = handle
  cached : ∀ owned ∈ windows, ∀ shape cursor, owned.2.cursors shape = some cursor →
    glfw.cursors cursor = some (toGlfwCursorShape shape)
  apart : ∀ owned ∈ windows, ∀ other ∈ windows, ∀ shape shape' cursor,
    owned.2.cursors shape = some cursor → other.2.cursors shape' = some cursor →
      owned = other ∧ shape = shape'
  onlyCursors : ∀ cursor, (glfw.cursors cursor).isSome →
    ∃ owned ∈ windows, ∃ shape, owned.2.cursors shape = some cursor

/-- These cursors are gone; windows that showed none of them are as they were. -/
structure Released (gone : CursorHandle → Prop) (glfw glfw' : GlfwContents) : Prop where
  initialized : glfw'.initialized = glfw.initialized
  cursors : ∀ cursor shape, glfw'.cursors cursor = some shape ↔
    glfw.cursors cursor = some shape ∧ ¬ gone cursor
  windows : ∀ handle, (glfw'.windows handle).isSome = (glfw.windows handle).isSome
  others : ∀ handle window, glfw.windows handle = some window →
    (∀ cursor, window.cursor = some cursor → ¬ gone cursor) → glfw'.windows handle = some window

namespace Released

variable {gone gone' : CursorHandle → Prop} {glfw glfw' glfw'' : GlfwContents}

theorem refl (hnone : ∀ cursor, ¬ gone cursor) : Released gone glfw glfw where
  initialized := rfl
  cursors cursor _ := (and_iff_left (hnone cursor)).symm
  windows _ := rfl
  others _ _ hwindow _ := hwindow

theorem trans (h : Released gone glfw glfw') (h' : Released gone' glfw' glfw'') :
    Released (fun cursor => gone cursor ∨ gone' cursor) glfw glfw'' where
  initialized := h'.initialized.trans h.initialized
  cursors cursor shape := by rw [h'.cursors, h.cursors, not_or, and_assoc]
  windows handle := (h'.windows handle).trans (h.windows handle)
  others handle window hwindow hkept :=
    h'.others handle window
      (h.others handle window hwindow fun cursor hcursor hgone => hkept cursor hcursor (.inl hgone))
      fun cursor hcursor hgone => hkept cursor hcursor (.inr hgone)

theorem congr (h : Released gone glfw glfw') (hgone : ∀ cursor, gone' cursor ↔ gone cursor) :
    Released gone' glfw glfw' := by
  rwa [show gone' = gone from funext fun cursor => propext (hgone cursor)]

end Released

theorem removeCursor_released (glfw : GlfwContents) (cursor : CursorHandle) :
    Released (· = cursor) glfw (glfw.removeCursor cursor) := by
  refine ⟨rfl, ?_, ?_, ?_⟩
  · intro other shape'
    dsimp only [GlfwContents.removeCursor]
    by_cases hother : other = cursor
    · subst hother
      simp
    · rw [Function.update_of_ne hother, and_iff_left hother]
  · intro handle
    rw [GlfwContents.removeCursor, Option.isSome_map]
  · intro handle window hwindow hkept
    have hne : window.cursor ≠ some cursor := fun hcursor => hkept cursor hcursor rfl
    simp only [GlfwContents.removeCursor, hwindow, Option.map_some, if_neg hne]

section Library

variable {State : Type} {G : Glfw State} (hG : G.Conforms)
include hG

theorem destroyCursors_released {backend : WindowBackend} {shapes : List CursorShape}
    (hshapes : shapes.Nodup) {state : State}
    (hlive : ∀ shape ∈ shapes, ∀ cursor, backend.cursors shape = some cursor →
      ((G.contents state).cursors cursor).isSome)
    (hapart : ∀ shape shape' cursor, backend.cursors shape = some cursor →
      backend.cursors shape' = some cursor → shape = shape') :
    ∃ after, backend.destroyCursors G shapes state = some after ∧
      Released (fun cursor => ∃ shape ∈ shapes, backend.cursors shape = some cursor)
        (G.contents state) (G.contents after) := by
  induction shapes generalizing state with
  | nil => exact ⟨state, rfl, .refl fun cursor h => by simp at h⟩
  | cons shape shapes ih =>
    obtain ⟨hfresh, hrest⟩ := List.nodup_cons.mp hshapes
    cases hslot : backend.cursors shape with
    | none =>
      obtain ⟨after, hdestroyed, hreleased⟩ :=
        ih hrest fun other hother => hlive other (List.mem_cons_of_mem _ hother)
      refine ⟨after, ?_, hreleased.congr fun cursor => ?_⟩
      · simp only [WindowBackend.destroyCursors, hslot, Option.bind_eq_bind, Option.bind_some]
        exact hdestroyed
      · rw [List.exists_mem_cons_iff, hslot]
        exact or_iff_right nofun
    | some cursor =>
      obtain ⟨middle, hmiddle, hcontents⟩ :=
        hG.destroyCursor (hlive shape List.mem_cons_self cursor hslot)
      have hfirst := removeCursor_released (G.contents state) cursor
      rw [← hcontents] at hfirst
      have hstill : ∀ other ∈ shapes, ∀ cursor', backend.cursors other = some cursor' →
          ((G.contents middle).cursors cursor').isSome := by
        intro other hother cursor' hcursor
        obtain ⟨kind, hkind⟩ := Option.isSome_iff_exists.mp
          (hlive other (List.mem_cons_of_mem _ hother) cursor' hcursor)
        refine Option.isSome_iff_exists.mpr ⟨kind, (hfirst.cursors _ _).mpr ⟨hkind, ?_⟩⟩
        rintro rfl
        exact hfresh (hapart _ _ _ hslot hcursor ▸ hother)
      obtain ⟨after, hdestroyed, hreleased⟩ := ih hrest hstill
      refine ⟨after, ?_, (hfirst.trans hreleased).congr fun other => ?_⟩
      · simp only [WindowBackend.destroyCursors, hslot, hmiddle, Option.bind_eq_bind,
          Option.bind_some]
        exact hdestroyed
      · rw [List.exists_mem_cons_iff, hslot, Option.some_inj, eq_comm]

end Library

theorem mem_cursorSlots (shape : CursorShape) : shape ∈ cursorSlots := by
  cases shape <;> decide

theorem cursorSlots_nodup : cursorSlots.Nodup := by decide

namespace Coherent

variable {server : Nat} {windows : List (Nat × WindowBackend)} {glfw : GlfwContents}
  {owned : Nat × WindowBackend}

theorem mem_rest {other : Nat × WindowBackend} :
    (other ∈ windows.filter fun other => other.1 ≠ owned.1) ↔
      other ∈ windows ∧ other.1 ≠ owned.1 := by
  simp

theorem address_ne (h : Coherent server windows glfw) (howned : owned ∈ windows)
    {other : Nat × WindowBackend} (hother : other ∈ windows) (hne : other ≠ owned) :
    other.1 ≠ owned.1 :=
  fun haddress => hne (List.inj_on_of_nodup_map h.addresses hother howned haddress)

theorem handle_ne (h : Coherent server windows glfw) (howned : owned ∈ windows)
    {other : Nat × WindowBackend} (hother : other ∈ windows) (hne : other.1 ≠ owned.1) :
    other.2.handle ≠ owned.2.handle :=
  fun hsame => hne (congrArg Prod.fst (h.handles other hother owned howned hsame))

theorem shape_eq (h : Coherent server windows glfw) (howned : owned ∈ windows)
    {shape shape' : CursorShape} {cursor : CursorHandle}
    (hcursor : owned.2.cursors shape = some cursor)
    (hcursor' : owned.2.cursors shape' = some cursor) : shape = shape' :=
  (h.apart owned howned owned howned shape shape' cursor hcursor hcursor').2

theorem slot_ne_of_none (h : Coherent server windows glfw) (howned : owned ∈ windows)
    {cursor : CursorHandle} (hnone : glfw.cursors cursor = none) (shape : CursorShape) :
    owned.2.cursors shape ≠ some cursor := by
  intro hcursor
  rw [h.cached owned howned shape cursor hcursor] at hnone
  cases hnone

theorem destroy {State : Type} {G : Glfw State} (hG : G.Conforms) {state : State}
    (h : Coherent server windows (G.contents state)) (howned : owned ∈ windows) :
    ∃ after, owned.2.destroy G state = some after ∧
      Coherent server (windows.filter fun other => other.1 ≠ owned.1) (G.contents after) := by
  obtain ⟨middle, hmiddle, hreleased⟩ := destroyCursors_released hG cursorSlots_nodup
    (fun shape _ cursor hcursor =>
      Option.isSome_iff_exists.mpr ⟨_, h.cached owned howned shape cursor hcursor⟩)
    (fun _ _ _ hcursor hcursor' => h.shape_eq howned hcursor hcursor')
  obtain ⟨window, hwindow, _⟩ := h.shown owned howned
  have hthere : ((G.contents middle).windows owned.2.handle).isSome := by
    rw [hreleased.windows, hwindow]
    rfl
  obtain ⟨after, hafter, hcontents⟩ := hG.destroyWindow hthere
  refine ⟨after, ?_, ?_⟩
  · simp only [WindowBackend.destroy, hmiddle, Option.bind_eq_bind, Option.bind_some, hafter]
  rw [hcontents]
  -- Nobody else has a cursor of this window.
  have hkept : ∀ other ∈ windows, other.1 ≠ owned.1 → ∀ shape cursor,
      other.2.cursors shape = some cursor →
        ¬ ∃ shape ∈ cursorSlots, owned.2.cursors shape = some cursor := by
    rintro other hother hne shape cursor hcursor ⟨shape', _, hcursor'⟩
    exact hne (congrArg Prod.fst
      (h.apart other hother owned howned shape shape' cursor hcursor hcursor').1)
  constructor
  case initialized => exact hreleased.initialized.trans h.initialized
  case addresses => exact h.addresses.sublist (List.filter_sublist.map _)
  case handles =>
    exact fun other hother another hanother =>
      h.handles other (mem_rest.mp hother).1 another (mem_rest.mp hanother).1
  case shown =>
    intro other hother
    obtain ⟨hmem, hne⟩ := mem_rest.mp hother
    obtain ⟨shownWindow, hshownWindow, hshown⟩ := h.shown other hmem
    refine ⟨shownWindow, ?_, hshown⟩
    dsimp only [GlfwContents.setWindow]
    rw [Function.update_of_ne (h.handle_ne howned hmem hne)]
    refine hreleased.others _ _ hshownWindow fun cursor hcursor => ?_
    obtain ⟨shape, hshape⟩ := hshown.own cursor hcursor
    exact hkept other hmem hne shape cursor hshape
  case onlyWindows =>
    intro handle hsome
    dsimp only [GlfwContents.setWindow] at hsome
    by_cases hsame : handle = owned.2.handle
    · subst hsame
      rw [Function.update_self] at hsome
      cases hsome
    · rw [Function.update_of_ne hsame, hreleased.windows] at hsome
      obtain ⟨other, hother, rfl⟩ := h.onlyWindows handle hsome
      have hne : other ≠ owned := fun heq => hsame (congrArg (fun w => w.2.handle) heq)
      exact ⟨other, mem_rest.mpr ⟨hother, h.address_ne howned hother hne⟩, rfl⟩
  case cached =>
    intro other hother shape cursor hcursor
    obtain ⟨hmem, hne⟩ := mem_rest.mp hother
    exact (hreleased.cursors cursor _).mpr
      ⟨h.cached other hmem shape cursor hcursor, hkept other hmem hne shape cursor hcursor⟩
  case apart =>
    exact fun other hother another hanother =>
      h.apart other (mem_rest.mp hother).1 another (mem_rest.mp hanother).1
  case onlyCursors =>
    intro cursor hsome
    obtain ⟨kind, hkind⟩ := Option.isSome_iff_exists.mp hsome
    obtain ⟨hlive, hnot⟩ := (hreleased.cursors cursor kind).mp hkind
    obtain ⟨other, hother, shape, hcursor⟩ :=
      h.onlyCursors cursor (Option.isSome_iff_exists.mpr ⟨kind, hlive⟩)
    have hne : other ≠ owned := by
      rintro rfl
      exact hnot ⟨shape, mem_cursorSlots shape, hcursor⟩
    exact ⟨other, mem_rest.mpr ⟨hother, h.address_ne howned hother hne⟩, shape, hcursor⟩

def replaced (windows : List (Nat × WindowBackend)) (address : Nat) (backend : WindowBackend) :
    List (Nat × WindowBackend) :=
  windows.map fun other => if other.1 = address then (address, backend) else other

theorem mem_replaced (howned : owned ∈ windows) (backend : WindowBackend)
    (other : Nat × WindowBackend) :
    other ∈ replaced windows owned.1 backend ↔
      other = (owned.1, backend) ∨ other ∈ windows ∧ other.1 ≠ owned.1 := by
  rw [replaced, List.mem_map]
  constructor
  · rintro ⟨before, hbefore, rfl⟩
    split_ifs with hsame
    · exact Or.inl rfl
    · exact Or.inr ⟨hbefore, hsame⟩
  · rintro (rfl | ⟨hother, hne⟩)
    · exact ⟨owned, howned, if_pos rfl⟩
    · exact ⟨other, hother, if_neg hne⟩

theorem addresses_replaced (windows : List (Nat × WindowBackend)) (address : Nat)
    (backend : WindowBackend) :
    (replaced windows address backend).map Prod.fst = windows.map Prod.fst := by
  rw [replaced, List.map_map]
  refine List.map_congr_left fun other _ => ?_
  simp only [Function.comp_apply]
  split_ifs with hsame
  · exact hsame.symm
  · rfl

/-- What a window may become, and the library with it: its cursors are kept, and a new one is one
that nobody had. -/
structure Becomes (server : Nat) (backend backend' : WindowBackend) (glfw glfw' : GlfwContents) :
    Prop where
  handle : backend'.handle = backend.handle
  initialized : glfw'.initialized = glfw.initialized
  shown : ∃ window, Shown server backend' window ∧
    glfw'.windows = Function.update glfw.windows backend.handle (some window)
  kept : ∀ shape cursor, backend.cursors shape = some cursor →
    backend'.cursors shape = some cursor
  fresh : ∀ shape cursor, backend'.cursors shape = some cursor →
    backend.cursors shape = some cursor ∨ glfw.cursors cursor = none
  apart : ∀ shape shape' cursor, backend'.cursors shape = some cursor →
    backend'.cursors shape' = some cursor → shape = shape'
  cached : ∀ shape cursor, backend'.cursors shape = some cursor →
    glfw'.cursors cursor = some (toGlfwCursorShape shape)
  others : ∀ cursor, (glfw.cursors cursor).isSome → glfw'.cursors cursor = glfw.cursors cursor
  only : ∀ cursor, (glfw'.cursors cursor).isSome →
    (glfw.cursors cursor).isSome ∨ ∃ shape, backend'.cursors shape = some cursor

theorem replace (h : Coherent server windows glfw) (howned : owned ∈ windows)
    {backend' : WindowBackend} {glfw' : GlfwContents}
    (hbecomes : Becomes server owned.2 backend' glfw glfw') :
    Coherent server (replaced windows owned.1 backend') glfw' := by
  obtain ⟨window, hshown, hwindows⟩ := hbecomes.shown
  -- Nobody else has a cursor of the window, old or new.
  have hforeign : ∀ other ∈ windows, other.1 ≠ owned.1 → ∀ shape shape' cursor,
      other.2.cursors shape = some cursor → backend'.cursors shape' ≠ some cursor := by
    intro other hother hne shape shape' cursor hcursor hcursor'
    rcases hbecomes.fresh shape' cursor hcursor' with hold | hnone
    · exact hne (congrArg Prod.fst (h.apart other hother owned howned _ _ _ hcursor hold).1)
    · exact h.slot_ne_of_none hother hnone shape hcursor
  constructor
  case initialized => exact hbecomes.initialized.trans h.initialized
  case addresses =>
    rw [addresses_replaced]
    exact h.addresses
  case handles =>
    intro other hother another hanother hsame
    rcases (mem_replaced howned _ _).mp hother with rfl | ⟨hother, hne⟩ <;>
      rcases (mem_replaced howned _ _).mp hanother with rfl | ⟨hanother, hne'⟩
    · rfl
    · exact absurd (hsame.symm.trans hbecomes.handle) (h.handle_ne howned hanother hne')
    · exact absurd (hsame.trans hbecomes.handle) (h.handle_ne howned hother hne)
    · exact h.handles other hother another hanother hsame
  case shown =>
    intro other hother
    rw [hwindows]
    rcases (mem_replaced howned _ _).mp hother with rfl | ⟨hother, hne⟩
    · refine ⟨window, ?_, hshown⟩
      rw [hbecomes.handle, Function.update_self]
    · rw [Function.update_of_ne (h.handle_ne howned hother hne)]
      exact h.shown other hother
  case onlyWindows =>
    intro handle hsome
    rw [hwindows] at hsome
    by_cases hsame : handle = owned.2.handle
    · exact ⟨_, (mem_replaced howned _ _).mpr (.inl rfl), hbecomes.handle.trans hsame.symm⟩
    · rw [Function.update_of_ne hsame] at hsome
      obtain ⟨other, hother, rfl⟩ := h.onlyWindows handle hsome
      have hne : other ≠ owned := fun heq => hsame (congrArg (fun w => w.2.handle) heq)
      exact ⟨other, (mem_replaced howned _ _).mpr
        (.inr ⟨hother, h.address_ne howned hother hne⟩), rfl⟩
  case cached =>
    intro other hother shape cursor hcursor
    rcases (mem_replaced howned _ _).mp hother with rfl | ⟨hother, hne⟩
    · exact hbecomes.cached shape cursor hcursor
    · have hlive := h.cached other hother shape cursor hcursor
      rw [hbecomes.others cursor (by rw [hlive]; rfl), hlive]
  case apart =>
    intro other hother another hanother shape shape' cursor hcursor hcursor'
    rcases (mem_replaced howned _ _).mp hother with rfl | ⟨hother, hne⟩ <;>
      rcases (mem_replaced howned _ _).mp hanother with rfl | ⟨hanother, hne'⟩
    · exact ⟨rfl, hbecomes.apart shape shape' cursor hcursor hcursor'⟩
    · exact absurd hcursor (hforeign another hanother hne' _ _ _ hcursor')
    · exact absurd hcursor' (hforeign other hother hne _ _ _ hcursor)
    · exact h.apart other hother another hanother shape shape' cursor hcursor hcursor'
  case onlyCursors =>
    intro cursor hsome
    rcases hbecomes.only cursor hsome with hold | ⟨shape, hnew⟩
    · obtain ⟨other, hother, shape, hcursor⟩ := h.onlyCursors cursor hold
      by_cases hsame : other = owned
      · subst hsame
        exact ⟨_, (mem_replaced howned _ _).mpr (.inl rfl), shape,
          hbecomes.kept shape cursor hcursor⟩
      · exact ⟨other, (mem_replaced howned _ _).mpr
          (.inr ⟨hother, h.address_ne howned hother hsame⟩), shape, hcursor⟩
    · exact ⟨_, (mem_replaced howned _ _).mpr (.inl rfl), shape, hnew⟩

theorem becomes_of_same (h : Coherent server windows glfw) (howned : owned ∈ windows)
    {shape : CursorShape} (refusals : List CursorShape) {window : GlfwWindow}
    (hshown : Shown server { owned.2 with currentShape := shape, refusals } window) :
    Becomes server owned.2 { owned.2 with currentShape := shape, refusals } glfw
      (glfw.setWindow owned.2.handle (some window)) where
  handle := rfl
  initialized := rfl
  shown := ⟨window, hshown, rfl⟩
  kept _ _ hold := hold
  fresh _ _ hold := Or.inl hold
  apart _ _ _ hcursor hcursor' := h.shape_eq howned hcursor hcursor'
  cached shape cursor hcursor := h.cached owned howned shape cursor hcursor
  others _ _ := rfl
  only _ hsome := Or.inl hsome

theorem becomes_of_created (h : Coherent server windows glfw) (howned : owned ∈ windows)
    {shape : CursorShape} {cursor : CursorHandle} {window : GlfwWindow}
    (hnone : glfw.cursors cursor = none) (hslot : owned.2.cursors shape = none)
    (hshown : Shown server
      { owned.2 with
        cursors := Function.update owned.2.cursors shape (some cursor)
        currentShape := shape } window) :
    Becomes server owned.2
      { owned.2 with
        cursors := Function.update owned.2.cursors shape (some cursor)
        currentShape := shape } glfw
      ((glfw.addCursor cursor (toGlfwCursorShape shape)).setWindow owned.2.handle
        (some window)) := by
  have hslots : ∀ shape' cursor',
      Function.update owned.2.cursors shape (some cursor) shape' = some cursor' →
        (shape' = shape ∧ cursor' = cursor) ∨
          (shape' ≠ shape ∧ owned.2.cursors shape' = some cursor') := by
    intro shape' cursor' hcursor
    by_cases hsame : shape' = shape
    · subst hsame
      rw [Function.update_self, Option.some_inj] at hcursor
      exact Or.inl ⟨rfl, hcursor.symm⟩
    · rw [Function.update_of_ne hsame] at hcursor
      exact Or.inr ⟨hsame, hcursor⟩
  constructor
  case handle => rfl
  case initialized => rfl
  case shown => exact ⟨window, hshown, rfl⟩
  case kept =>
    intro shape' cursor' hold
    have hne : shape' ≠ shape := by
      rintro rfl
      rw [hslot] at hold
      cases hold
    dsimp only
    rw [Function.update_of_ne hne, hold]
  case fresh =>
    intro shape' cursor' hcursor
    rcases hslots _ _ hcursor with ⟨_, rfl⟩ | ⟨_, hold⟩
    · exact Or.inr hnone
    · exact Or.inl hold
  case apart =>
    intro shape₁ shape₂ cursor' h₁ h₂
    rcases hslots _ _ h₁ with ⟨rfl, rfl⟩ | ⟨_, hold₁⟩ <;>
      rcases hslots _ _ h₂ with ⟨rfl, hcursor₂⟩ | ⟨_, hold₂⟩
    · rfl
    · exact absurd hold₂ (h.slot_ne_of_none howned hnone _)
    · exact absurd (hcursor₂ ▸ hold₁) (h.slot_ne_of_none howned hnone _)
    · exact h.shape_eq howned hold₁ hold₂
  case cached =>
    intro shape' cursor' hcursor
    dsimp only [GlfwContents.setWindow, GlfwContents.addCursor]
    rcases hslots _ _ hcursor with ⟨rfl, rfl⟩ | ⟨_, hold⟩
    · exact Function.update_self ..
    · have hne : cursor' ≠ cursor :=
        fun heq => h.slot_ne_of_none howned hnone shape' (heq ▸ hold)
      rw [Function.update_of_ne hne]
      exact h.cached owned howned shape' cursor' hold
  case others =>
    intro cursor' hlive
    have hne : cursor' ≠ cursor := by
      rintro rfl
      rw [hnone] at hlive
      cases hlive
    exact Function.update_of_ne hne ..
  case only =>
    intro cursor' hsome
    dsimp only [GlfwContents.setWindow, GlfwContents.addCursor] at hsome
    by_cases hsame : cursor' = cursor
    · subst hsame
      exact Or.inr ⟨shape, Function.update_self ..⟩
    · rw [Function.update_of_ne hsame] at hsome
      exact Or.inl hsome

section Setting

variable {State : Type} {G : Glfw State} (hG : G.Conforms)
include hG

theorem exists_shown {state : State} {handle : WindowHandle} {window : GlfwWindow}
    (hwindow : (G.contents state).windows handle = some window) {cursor : Option CursorHandle}
    (hlive : ∀ shown, cursor = some shown → ((G.contents state).cursors shown).isSome) :
    ∃ middle after, G.setCursor handle cursor state = some middle ∧
      G.setCursorHidden handle false middle = some after ∧
      G.contents after = (G.contents state).setWindow handle
        (some { window with cursor, cursorHidden := false }) := by
  obtain ⟨middle, hmiddle, hcontents⟩ := hG.setCursor cursor hwindow hlive
  have hthere : (G.contents middle).windows handle = some { window with cursor } := by
    rw [hcontents, GlfwContents.setWindow_windows]
  obtain ⟨after, hafter, hcontents'⟩ := hG.setCursorHidden false hthere
  refine ⟨middle, after, hmiddle, hafter, ?_⟩
  rw [hcontents', hcontents, GlfwContents.setWindow_setWindow]

theorem setCursorShape {state : State} (h : Coherent server windows (G.contents state))
    (howned : owned ∈ windows) (shape : CursorShape) :
    ∃ backend' after, owned.2.setCursorShape G shape state = some (backend', after) ∧
      Becomes server owned.2 backend' (G.contents state) (G.contents after) ∧
      backend'.currentShape = shape ∧
      (shape ≠ owned.2.currentShape → shape ≠ .hidden → backend'.cursors shape = none →
        shape ∈ backend'.refusals) ∧
      ∀ refused ∈ owned.2.refusals, refused ∈ backend'.refusals := by
  obtain ⟨window, hwindow, hshown⟩ := h.shown owned howned
  by_cases hsame : shape = owned.2.currentShape
  · subst hsame
    refine ⟨owned.2, state, ?_, ?_, rfl, fun hne => absurd rfl hne, fun _ hold => hold⟩
    · simp only [WindowBackend.setCursorShape, if_true]
      rfl
    · have hbecomes := h.becomes_of_same howned owned.2.refusals hshown
      rwa [GlfwContents.setWindow_eq_self hwindow] at hbecomes
  by_cases hhidden : shape = .hidden
  · subst hhidden
    obtain ⟨after, hafter, hcontents⟩ := hG.setCursorHidden true hwindow
    have hshown' : Shown server { owned.2 with currentShape := .hidden }
        { window with cursorHidden := true } :=
      ⟨hshown.userPointer, iff_of_true rfl rfl, fun hne => absurd rfl hne, hshown.own⟩
    refine ⟨{ owned.2 with currentShape := .hidden }, after, ?_, ?_, rfl,
      fun _ hne => absurd rfl hne, fun _ hold => hold⟩
    · simp only [WindowBackend.setCursorShape, if_neg hsame, if_true, hafter, Option.bind_eq_bind,
        Option.bind_some]
      rfl
    · rw [hcontents]
      exact h.becomes_of_same howned owned.2.refusals hshown'
  -- The slots stay as they are, unless a new cursor comes into the one of the shape.
  have hset (cursors : CursorShape → Option CursorHandle) (refusals : List CursorShape) :
      Shown server { owned.2 with cursors, currentShape := shape, refusals }
        { window with cursor := cursors shape, cursorHidden := false } :=
    ⟨hshown.userPointer, iff_of_false Bool.false_ne_true hhidden, fun _ => rfl,
      fun _ hcursor => ⟨shape, hcursor⟩⟩
  cases hslot : owned.2.cursors shape with
  | some cursor =>
    have hkeptLive : ∀ shown, some cursor = some shown →
        ((G.contents state).cursors shown).isSome := by
      intro shown hcursor
      rw [← Option.some_inj.mp hcursor, h.cached owned howned shape _ hslot]
      rfl
    obtain ⟨middle, after, hmiddle, hafter, hcontents⟩ :=
      exists_shown hG hwindow hkeptLive
    refine ⟨{ owned.2 with currentShape := shape }, after, ?_, ?_, rfl, fun _ _ hnone => ?_,
      fun _ hold => hold⟩
    · simp [WindowBackend.setCursorShape, WindowBackend.getCursor, hsame, hhidden, hslot, hmiddle,
        hafter]
    · rw [hcontents, ← hslot]
      exact h.becomes_of_same howned owned.2.refusals (hset owned.2.cursors _)
    · rw [hslot] at hnone
      cases hnone
  | none =>
    obtain ⟨answer, created, hcreated, hrefused, hmade⟩ :=
      hG.createStandardCursor (toGlfwCursorShape shape) h.initialized
    cases answer with
    | none =>
      have hsameContents := hrefused rfl
      have hthere : (G.contents created).windows owned.2.handle = some window := by
        rw [hsameContents]
        exact hwindow
      have hdefault : ∀ shown, (none : Option CursorHandle) = some shown →
          ((G.contents created).cursors shown).isSome := nofun
      obtain ⟨middle, after, hmiddle, hafter, hcontents⟩ := exists_shown hG hthere hdefault
      have hcursors : Function.update owned.2.cursors shape none = owned.2.cursors :=
        Function.update_eq_self_iff.mpr hslot.symm
      refine ⟨{ owned.2 with currentShape := shape, refusals := shape :: owned.2.refusals }, after,
        ?_, ?_, rfl, fun _ _ _ => List.mem_cons_self, fun _ hold => List.mem_cons_of_mem _ hold⟩
      · simp [WindowBackend.setCursorShape, WindowBackend.getCursor, hsame, hhidden, hslot,
          hcreated, hcursors, hmiddle, hafter]
      · rw [hcontents, hsameContents, ← hslot]
        exact h.becomes_of_same howned _ (hset owned.2.cursors _)
    | some cursor =>
      obtain ⟨hfresh, hadded⟩ := hmade cursor rfl
      have hthere : (G.contents created).windows owned.2.handle = some window := by
        rw [hadded]
        exact hwindow
      have hmadeLive : ∀ shown, some cursor = some shown →
          ((G.contents created).cursors shown).isSome := by
        intro shown hcursor
        rw [← Option.some_inj.mp hcursor, hadded, GlfwContents.addCursor_cursors]
        rfl
      obtain ⟨middle, after, hmiddle, hafter, hcontents⟩ := exists_shown hG hthere hmadeLive
      refine ⟨{ owned.2 with
          cursors := Function.update owned.2.cursors shape (some cursor)
          currentShape := shape }, after, ?_, ?_, rfl, fun _ _ hnone => ?_, fun _ hold => hold⟩
      · simp [WindowBackend.setCursorShape, WindowBackend.getCursor, hsame, hhidden, hslot,
          hcreated, hmiddle, hafter]
      · rw [hcontents, hadded]
        have hnow := hset (Function.update owned.2.cursors shape (some cursor)) owned.2.refusals
        rw [Function.update_self] at hnow
        exact h.becomes_of_created howned hfresh hslot hnow
      · dsimp only at hnone
        rw [Function.update_self] at hnone
        cases hnone

end Setting

theorem connected (server : Nat) : Coherent server [] { initialized := true } where
  initialized := rfl
  addresses := List.nodup_nil
  handles _ hmem := nomatch hmem
  shown _ hmem := nomatch hmem
  onlyWindows _ hsome := nomatch hsome
  cached _ hmem := nomatch hmem
  apart _ hmem := nomatch hmem
  onlyCursors _ hsome := nomatch hsome

theorem create (h : Coherent server windows glfw) {address : Nat} {handle : WindowHandle}
    (haddress : address ∉ windows.map Prod.fst) (hhandle : glfw.windows handle = none) :
    Coherent server (windows ++ [(address, { handle := handle })])
      (glfw.setWindow handle (some { userPointer := some server })) := by
  have hmem (other : Nat × WindowBackend) :
      other ∈ windows ++ [(address, { handle := handle })] ↔
        other ∈ windows ∨ other = (address, { handle := handle }) := by
    rw [List.mem_append, List.mem_singleton]
  have hother : ∀ other ∈ windows, other.2.handle ≠ handle := by
    intro other hother hsame
    obtain ⟨window, hwindow, _⟩ := h.shown other hother
    rw [hsame, hhandle] at hwindow
    cases hwindow
  constructor
  case initialized => exact h.initialized
  case addresses =>
    rw [List.map_append, List.map_singleton]
    refine List.nodup_append.mpr ⟨h.addresses, List.nodup_singleton _, ?_⟩
    rintro other hold _ hnew rfl
    rw [List.mem_singleton.mp hnew] at hold
    exact haddress hold
  case handles =>
    intro other hin another hin' hsame
    rcases (hmem _).mp hin with hin | rfl <;> rcases (hmem _).mp hin' with hin' | rfl
    · exact h.handles other hin another hin' hsame
    · exact absurd hsame (hother other hin)
    · exact absurd hsame.symm (hother another hin')
    · rfl
  case shown =>
    intro other hin
    dsimp only [GlfwContents.setWindow]
    rcases (hmem _).mp hin with hin | rfl
    · rw [Function.update_of_ne (hother other hin)]
      exact h.shown other hin
    · exact ⟨_, Function.update_self .., rfl, ⟨nofun, nofun⟩, fun _ => rfl, nofun⟩
  case onlyWindows =>
    intro handle' hsome
    dsimp only [GlfwContents.setWindow] at hsome
    by_cases hsame : handle' = handle
    · exact ⟨_, (hmem _).mpr (Or.inr rfl), hsame.symm⟩
    · rw [Function.update_of_ne hsame] at hsome
      obtain ⟨other, hin, hhandle⟩ := h.onlyWindows handle' hsome
      exact ⟨other, (hmem _).mpr (Or.inl hin), hhandle⟩
  case cached =>
    intro other hin shape cursor hcursor
    rcases (hmem _).mp hin with hin | rfl
    · exact h.cached other hin shape cursor hcursor
    · cases hcursor
  case apart =>
    intro other hin another hin' shape shape' cursor hcursor hcursor'
    rcases (hmem _).mp hin with hin | rfl
    · rcases (hmem _).mp hin' with hin' | rfl
      · exact h.apart other hin another hin' shape shape' cursor hcursor hcursor'
      · cases hcursor'
    · cases hcursor
  case onlyCursors =>
    intro cursor hsome
    obtain ⟨other, hin, shape, hcursor⟩ := h.onlyCursors cursor hsome
    exact ⟨other, (hmem _).mpr (Or.inl hin), shape, hcursor⟩

theorem none_left (h : Coherent server [] glfw) :
    (∀ handle, glfw.windows handle = none) ∧ ∀ cursor, glfw.cursors cursor = none := by
  constructor
  · intro handle
    by_contra hwindow
    obtain ⟨_, hmem, _⟩ := h.onlyWindows handle (Option.isSome_iff_ne_none.mpr hwindow)
    cases hmem
  · intro cursor
    by_contra hcursor
    obtain ⟨_, hmem, _⟩ := h.onlyCursors cursor (Option.isSome_iff_ne_none.mpr hcursor)
    cases hmem

theorem destroyEach {State : Type} {G : Glfw State} (hG : G.Conforms) {state : State}
    (h : Coherent server windows (G.contents state)) :
    ∃ after, WindowServer.destroyEach G windows state = some after ∧
      Coherent server [] (G.contents after) := by
  induction windows generalizing state with
  | nil => exact ⟨state, rfl, h⟩
  | cons owned windows ih =>
    obtain ⟨middle, hdestroyed, hmiddle⟩ := h.destroy hG List.mem_cons_self
    have hrest : (owned :: windows).filter (fun other => other.1 ≠ owned.1) = windows := by
      have hfresh : owned.1 ∉ windows.map Prod.fst := (List.nodup_cons.mp h.addresses).1
      rw [List.filter_cons_of_neg (by simp), List.filter_eq_self]
      intro other hother
      rw [decide_eq_true_eq]
      rintro hsame
      exact hfresh (hsame ▸ List.mem_map_of_mem hother)
    rw [hrest] at hmiddle
    obtain ⟨after, hall, hnone⟩ := ih hmiddle
    refine ⟨after, ?_, hnone⟩
    simp only [WindowServer.destroyEach, hdestroyed, Option.bind_eq_bind, Option.bind_some, hall]

theorem at_address (h : Coherent server windows glfw) (address : Nat) :
    (∃ owned ∈ windows, owned.1 = address ∧
      windows.filter (fun other => other.1 = address) = [owned]) ∨
    address ∉ windows.map Prod.fst ∧ windows.filter (fun other => other.1 = address) = [] := by
  by_cases hmem : address ∈ windows.map Prod.fst
  · obtain ⟨owned, howned, rfl⟩ := List.mem_map.mp hmem
    refine Or.inl ⟨owned, howned, rfl, ?_⟩
    have hfirsts : (windows.map Prod.fst).filter (· = owned.1) = [owned.1] := by
      rw [List.filter_eq, List.count_eq_one_of_mem h.addresses hmem, List.replicate_one]
    rw [List.filter_map] at hfirsts
    obtain ⟨only, hfilter, _⟩ := List.map_eq_singleton_iff.mp hfirsts
    rw [Function.comp_def] at hfilter
    have howned' : owned ∈ windows.filter fun other => other.1 = owned.1 :=
      List.mem_filter.mpr ⟨howned, decide_eq_true rfl⟩
    rw [hfilter, List.mem_singleton] at howned'
    rw [hfilter, howned']
  · refine Or.inr ⟨hmem, List.filter_eq_nil_iff.mpr fun other hother hsame => hmem ?_⟩
    exact of_decide_eq_true hsame ▸ List.mem_map_of_mem hother

end Coherent

end PlaygroundEngine.Windows
