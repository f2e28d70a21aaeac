import Mathlib.Data.List.Nodup
import Mathlib.Logic.Function.Basic

/-!
# Slots that share a queue

A slot owns a semaphore and a fence. In its turn the semaphore gets a signal, a
submission waits for that signal, and the fence tells when the submission is
complete. A slot may start over once its fence has been waited for; the queue
completes what it likes in the meantime.
-/

namespace Library

set_option autoImplicit false

variable {φ σ κ : Type}

structure Submission (φ σ : Type) where
  waits : σ
  fence : φ
  deriving DecidableEq

/-- `outstanding` is a signal that nothing waits for yet, `record` what the queue was asked for. -/
structure QueueState (φ σ κ : Type) where
  signalled : φ → Bool
  outstanding : σ → Bool
  pending : List (Submission φ σ)
  semaphores : List σ
  record : List κ

namespace QueueState

def note (state : QueueState φ σ κ) (entry : κ) : QueueState φ σ κ :=
  { state with record := state.record ++ [entry] }

section Fences
variable [DecidableEq φ] (state : QueueState φ σ κ) (fence : φ)

/-- A wait for the fence ends. -/
def waitable : Bool := state.signalled fence || state.pending.any (·.fence = fence)

/-- No submission will signal the fence. -/
def unused : Bool := state.pending.all (·.fence ≠ fence)

def reset : QueueState φ σ κ :=
  { state with signalled := Function.update state.signalled fence false }

def addSignalledFence : QueueState φ σ κ :=
  { state with signalled := Function.update state.signalled fence true }

theorem waitable_iff : state.waitable fence ↔
    state.signalled fence ∨ ∃ submission ∈ state.pending, submission.fence = fence := by
  rw [waitable, Bool.or_eq_true, List.any_eq_true]
  simp only [decide_eq_true_eq]

theorem unused_iff : state.unused fence ↔
    ∀ submission ∈ state.pending, submission.fence ≠ fence := by
  rw [unused, List.all_eq_true]
  simp only [decide_eq_true_eq]

theorem signalled_reset (other : φ) : (state.reset fence).signalled other =
    if other = fence then false else state.signalled other :=
  Function.update_apply state.signalled fence false other

theorem signalled_addSignalledFence (other : φ) : (state.addSignalledFence fence).signalled other =
    if other = fence then true else state.signalled other :=
  Function.update_apply state.signalled fence true other

end Fences

section Semaphores
variable [DecidableEq σ] (state : QueueState φ σ κ) (semaphore : σ)

/-- Neither a signal nor a wait is under way. -/
def idle : Bool :=
  !state.outstanding semaphore && state.pending.all (·.waits ≠ semaphore)

def signal : QueueState φ σ κ :=
  { state with outstanding := Function.update state.outstanding semaphore true }

def submit (submission : Submission φ σ) : QueueState φ σ κ :=
  { state with
    outstanding := Function.update state.outstanding submission.waits false
    pending := state.pending ++ [submission] }

/-- Something else than a submission waits for the signal. -/
def consume : QueueState φ σ κ :=
  { state with outstanding := Function.update state.outstanding semaphore false }

def addSemaphore : QueueState φ σ κ :=
  { state.consume semaphore with semaphores := semaphore :: state.semaphores }

theorem idle_iff : state.idle semaphore ↔ ¬ state.outstanding semaphore ∧
    ∀ submission ∈ state.pending, submission.waits ≠ semaphore := by
  rw [idle, Bool.and_eq_true, Bool.not_eq_true', Bool.not_eq_true, List.all_eq_true]
  simp only [decide_eq_true_eq]

theorem outstanding_signal (other : σ) : (state.signal semaphore).outstanding other =
    if other = semaphore then true else state.outstanding other :=
  Function.update_apply state.outstanding semaphore true other

theorem outstanding_submit (submission : Submission φ σ) (other : σ) :
    (state.submit submission).outstanding other =
      if other = submission.waits then false else state.outstanding other :=
  Function.update_apply state.outstanding submission.waits false other

theorem outstanding_consume (other : σ) : (state.consume semaphore).outstanding other =
    if other = semaphore then false else state.outstanding other :=
  Function.update_apply state.outstanding semaphore false other

end Semaphores

end QueueState

variable [DecidableEq φ]

/-- Submissions complete on their own, and each signals its fence. -/
structure Progress (before after : QueueState φ σ κ) : Prop where
  kept : ∀ fence, before.signalled fence → after.signalled fence
  signals : ∀ fence, after.signalled fence → before.waitable fence
  shrinks : ∀ submission ∈ after.pending, submission ∈ before.pending
  completes : ∀ submission ∈ before.pending, submission ∉ after.pending →
    after.signalled submission.fence
  outstanding : ∀ semaphore, after.outstanding semaphore = before.outstanding semaphore
  semaphores : after.semaphores = before.semaphores
  record : after.record = before.record

/-- Between turns every fence can be waited for and every semaphore is free of signals. -/
structure SlotsReady (slots : List (φ × σ)) (state : QueueState φ σ κ) : Prop where
  waitable : ∀ slot ∈ slots, state.waitable slot.1
  paired : ∀ slot ∈ slots, ∀ submission ∈ state.pending,
    submission.waits = slot.2 → submission.fence = slot.1
  quiet : ∀ slot ∈ slots, ¬ state.outstanding slot.2

/-- In a slot's turn its own fence and semaphore are its own business. -/
structure SlotsTurn (slots : List (φ × σ)) (slot : φ × σ) (state : QueueState φ σ κ) : Prop where
  waitable : ∀ other ∈ slots, other.1 ≠ slot.1 → state.waitable other.1
  paired : ∀ other ∈ slots, ∀ submission ∈ state.pending,
    submission.waits = other.2 → submission.fence = other.1
  quiet : ∀ other ∈ slots, other.2 ≠ slot.2 → ¬ state.outstanding other.2
  unused : state.unused slot.1

namespace Progress

variable {before after last : QueueState φ σ κ}

theorem refl (state : QueueState φ σ κ) : Progress state state where
  kept _ h := h
  signals fence h := (state.waitable_iff fence).mpr (Or.inl h)
  shrinks _ h := h
  completes _ h hgone := absurd h hgone
  outstanding _ := rfl
  semaphores := rfl
  record := rfl

theorem trans (h : Progress before after) (hlast : Progress after last) :
    Progress before last where
  kept fence hfence := hlast.kept fence (h.kept fence hfence)
  signals fence hfence := by
    rw [QueueState.waitable_iff]
    rcases (after.waitable_iff fence).mp (hlast.signals fence hfence) with
      hsignalled | ⟨submission, hmem, hsame⟩
    · exact (before.waitable_iff fence).mp (h.signals fence hsignalled)
    · exact Or.inr ⟨submission, h.shrinks submission hmem, hsame⟩
  shrinks submission hmem := h.shrinks submission (hlast.shrinks submission hmem)
  completes submission hmem hgone := by
    by_cases hafter : submission ∈ after.pending
    · exact hlast.completes submission hafter hgone
    · exact hlast.kept _ (h.completes submission hmem hafter)
  outstanding semaphore := (hlast.outstanding semaphore).trans (h.outstanding semaphore)
  semaphores := hlast.semaphores.trans h.semaphores
  record := hlast.record.trans h.record

theorem waitable (h : Progress before after) {fence : φ} (hfence : before.waitable fence) :
    after.waitable fence := by
  rw [QueueState.waitable_iff] at hfence ⊢
  rcases hfence with hsignalled | ⟨submission, hmem, hfence⟩
  · exact Or.inl (h.kept fence hsignalled)
  · by_cases hpending : submission ∈ after.pending
    · exact Or.inr ⟨submission, hpending, hfence⟩
    · rw [← hfence]
      exact Or.inl (h.completes submission hmem hpending)

theorem unused (h : Progress before after) {fence : φ} (hfence : before.unused fence) :
    after.unused fence := by
  rw [QueueState.unused_iff] at hfence ⊢
  intro submission hmem
  exact hfence submission (h.shrinks submission hmem)

theorem unsignalled (h : Progress before after) {fence : φ} (hunused : before.unused fence)
    (hfence : ¬ before.signalled fence) : ¬ after.signalled fence := by
  intro hsignalled
  rcases (before.waitable_iff fence).mp (h.signals fence hsignalled) with hold | ⟨_, hmem, hsame⟩
  · exact hfence hold
  · exact (before.unused_iff fence).mp hunused _ hmem hsame

theorem idle [DecidableEq σ] (h : Progress before after) {semaphore : σ}
    (hidle : before.idle semaphore) : after.idle semaphore := by
  rw [QueueState.idle_iff] at hidle ⊢
  rw [h.outstanding semaphore]
  exact ⟨hidle.1, fun submission hmem => hidle.2 submission (h.shrinks submission hmem)⟩

end Progress

/-! ### Turns -/

section Turns
variable {slots : List (φ × σ)} {slot : φ × σ} {state after : QueueState φ σ κ}

theorem SlotsReady.progress (h : SlotsReady slots state) (hprogress : Progress state after) :
    SlotsReady slots after where
  waitable slot hslot := hprogress.waitable (h.waitable slot hslot)
  paired slot hslot submission hmem :=
    h.paired slot hslot submission (hprogress.shrinks submission hmem)
  quiet slot hslot := by
    rw [hprogress.outstanding]
    exact h.quiet slot hslot

theorem SlotsTurn.progress (h : SlotsTurn slots slot state) (hprogress : Progress state after) :
    SlotsTurn slots slot after where
  waitable other hother hne := hprogress.waitable (h.waitable other hother hne)
  paired other hother submission hmem :=
    h.paired other hother submission (hprogress.shrinks submission hmem)
  quiet other hother hne := by
    rw [hprogress.outstanding]
    exact h.quiet other hother hne
  unused := hprogress.unused h.unused

theorem SlotsReady.note (h : SlotsReady slots state) (entry : κ) :
    SlotsReady slots (state.note entry) :=
  ⟨h.waitable, h.paired, h.quiet⟩

theorem SlotsReady.turn (h : SlotsReady slots state) (hunused : state.unused slot.1) :
    SlotsTurn slots slot state where
  waitable other hother _ := h.waitable other hother
  paired := h.paired
  quiet other hother _ := h.quiet other hother
  unused := hunused

theorem SlotsTurn.reset (h : SlotsTurn slots slot state) :
    SlotsTurn slots slot (state.reset slot.1) where
  waitable other hother hne := by
    have hold := h.waitable other hother hne
    rw [QueueState.waitable_iff] at hold ⊢
    rw [state.signalled_reset, if_neg hne]
    exact hold
  paired := h.paired
  quiet := h.quiet
  unused := h.unused

theorem SlotsReady.addSignalledFence (h : SlotsReady slots state) (fence : φ) :
    SlotsReady slots (state.addSignalledFence fence) where
  waitable slot hslot := by
    have hold := h.waitable slot hslot
    rw [QueueState.waitable_iff] at hold ⊢
    rw [state.signalled_addSignalledFence]
    rcases hold with hsignalled | hpending
    · left
      split
      · rfl
      · exact hsignalled
    · exact Or.inr hpending
  paired := h.paired
  quiet := h.quiet

variable [DecidableEq σ]

theorem SlotsReady.of_idle (hfences : ∀ slot ∈ slots, state.signalled slot.1)
    (hsemaphores : ∀ slot ∈ slots, state.idle slot.2) : SlotsReady slots state where
  waitable slot hslot := (state.waitable_iff slot.1).mpr (Or.inl (hfences slot hslot))
  paired slot hslot submission hmem hwaits :=
    absurd hwaits (((state.idle_iff slot.2).mp (hsemaphores slot hslot)).2 submission hmem)
  quiet slot hslot := ((state.idle_iff slot.2).mp (hsemaphores slot hslot)).1

theorem SlotsReady.idle (h : SlotsReady slots state) (hslot : slot ∈ slots)
    (hunused : state.unused slot.1) : state.idle slot.2 := by
  rw [QueueState.idle_iff]
  refine ⟨h.quiet slot hslot, fun submission hmem hwaits => ?_⟩
  exact (state.unused_iff slot.1).mp hunused submission hmem
    (h.paired slot hslot submission hmem hwaits)

theorem SlotsTurn.signal (h : SlotsTurn slots slot state) :
    SlotsTurn slots slot (state.signal slot.2) where
  waitable := h.waitable
  paired := h.paired
  quiet other hother hne := by
    rw [state.outstanding_signal, if_neg hne]
    exact h.quiet other hother hne
  unused := h.unused

theorem SlotsTurn.submit (h : SlotsTurn slots slot state) (hnodup : (slots.map Prod.snd).Nodup)
    (hslot : slot ∈ slots) : SlotsReady slots (state.submit ⟨slot.2, slot.1⟩) where
  waitable other hother := by
    rw [QueueState.waitable_iff]
    by_cases hsame : other.1 = slot.1
    · refine Or.inr ⟨⟨slot.2, slot.1⟩, ?_, hsame.symm⟩
      exact List.mem_append_right _ (List.mem_singleton_self _)
    · rcases (state.waitable_iff other.1).mp (h.waitable other hother hsame) with
        hsignalled | ⟨submission, hmem, hfence⟩
      · exact Or.inl hsignalled
      · exact Or.inr ⟨submission, List.mem_append_left _ hmem, hfence⟩
  paired other hother submission hmem hwaits := by
    rcases List.mem_append.mp hmem with hold | hnew
    · exact h.paired other hother submission hold hwaits
    · rw [List.mem_singleton.mp hnew] at hwaits ⊢
      have hsame : slot = other := List.inj_on_of_nodup_map hnodup hslot hother hwaits
      rw [hsame]
  quiet other hother := by
    rw [state.outstanding_submit]
    split
    · exact Bool.false_ne_true
    · rename_i hne
      exact h.quiet other hother hne

theorem SlotsReady.signalOther (h : SlotsReady slots state) {semaphore : σ}
    (hother : ∀ slot ∈ slots, slot.2 ≠ semaphore) : SlotsReady slots (state.signal semaphore) where
  waitable := h.waitable
  paired := h.paired
  quiet slot hslot := by
    rw [state.outstanding_signal, if_neg (hother slot hslot)]
    exact h.quiet slot hslot

theorem SlotsReady.consume (h : SlotsReady slots state) (semaphore : σ) :
    SlotsReady slots (state.consume semaphore) where
  waitable := h.waitable
  paired := h.paired
  quiet slot hslot := by
    rw [state.outstanding_consume]
    split
    · exact Bool.false_ne_true
    · exact h.quiet slot hslot

theorem SlotsReady.addSemaphore (h : SlotsReady slots state) (semaphore : σ) :
    SlotsReady slots (state.addSemaphore semaphore) where
  waitable := h.waitable
  paired := h.paired
  quiet := (h.consume semaphore).quiet

end Turns

variable [DecidableEq σ]

/-- New semaphores and fences leave the old ones alone. -/
structure Grows (before after : QueueState φ σ κ) : Prop where
  ready : ∀ slots, SlotsReady slots before → SlotsReady slots after
  idle : ∀ semaphore, before.idle semaphore → after.idle semaphore
  signalled : ∀ fence, before.signalled fence → after.signalled fence
  semaphores : ∀ semaphore ∈ before.semaphores, semaphore ∈ after.semaphores
  record : after.record = before.record

namespace Grows

variable {before after last : QueueState φ σ κ}

theorem refl (state : QueueState φ σ κ) : Grows state state :=
  ⟨fun _ h => h, fun _ h => h, fun _ h => h, fun _ h => h, rfl⟩

theorem trans (h : Grows before after) (hlast : Grows after last) : Grows before last where
  ready slots hready := hlast.ready slots (h.ready slots hready)
  idle semaphore hidle := hlast.idle semaphore (h.idle semaphore hidle)
  signalled fence hfence := hlast.signalled fence (h.signalled fence hfence)
  semaphores semaphore hmem := hlast.semaphores semaphore (h.semaphores semaphore hmem)
  record := hlast.record.trans h.record

theorem of_progress (h : Progress before after) : Grows before after where
  ready _ hready := hready.progress h
  idle _ hidle := h.idle hidle
  signalled := h.kept
  semaphores semaphore hmem := by
    rw [h.semaphores]
    exact hmem
  record := h.record

theorem addSemaphore (state : QueueState φ σ κ) (semaphore : σ) :
    Grows state (state.addSemaphore semaphore) where
  ready _ hready := hready.addSemaphore semaphore
  idle other hidle := by
    rw [QueueState.idle_iff] at hidle ⊢
    refine ⟨?_, hidle.2⟩
    show ¬ (state.consume semaphore).outstanding other
    rw [state.outstanding_consume]
    split
    · exact Bool.false_ne_true
    · exact hidle.1
  signalled _ hfence := hfence
  semaphores _ hmem := List.mem_cons_of_mem semaphore hmem
  record := rfl

theorem addSignalledFence (state : QueueState φ σ κ) (fence : φ) :
    Grows state (state.addSignalledFence fence) where
  ready _ hready := hready.addSignalledFence fence
  idle _ hidle := hidle
  signalled other hfence := by
    rw [state.signalled_addSignalledFence]
    split
    · rfl
    · exact hfence
  semaphores _ hmem := hmem
  record := rfl

end Grows

end Library
