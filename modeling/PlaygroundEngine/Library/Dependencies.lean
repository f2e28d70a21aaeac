import Mathlib.Data.List.Induction
import Mathlib.Logic.Function.Basic

/-!
# Uses of resources that only barriers put in order

A queue runs its operations in any overlap unless a barrier orders them. A barrier begins with
stages and accesses it waits for, and ends with those it lets go on; in between it may change the
layout of its resource, of which the default is that of contents which do not count. `Allowed` is
what a checker finds by going through the operations, `Ordered` what that comes to.
-/

namespace Library

set_option autoImplicit false

universe u

/-- A resource may be handed to somebody outside, who hands it back through a signal. -/
inductive LastWork (S : Type u) where
  /-- Nothing that is still under way. -/
  | nothing
  /-- A use in these stages. -/
  | used (stages : List S)
  /-- A barrier that these stages wait for. -/
  | barred (stages : List S)
  /-- A signal that these stages wait for. -/
  | handedBack (stages : List S)
  /-- The resource is somebody else's. -/
  | away

structure ResourceState (S A L : Type u) where
  layout : L
  last : LastWork S
  /-- Writes that no barrier has made available. -/
  writes : List A
  /-- What the last barrier has made them visible to. -/
  visible : List A

structure Barrier (S A L : Type u) where
  srcStages : List S
  srcAccesses : List A
  dstStages : List S
  dstAccesses : List A
  /-- The default where the contents may be lost. -/
  oldLayout : L
  newLayout : L

structure Usage (S A L : Type u) where
  stages : List S
  accesses : List A
  /-- Those of the accesses that write. -/
  writes : List A
  layout : L

inductive QueueOperation (R S A L : Type u) where
  | barrier (resource : R) (barrier : Barrier S A L)
  | use (resource : R) (usage : Usage S A L)
  /-- The host waits until all that was submitted is done. -/
  | settle
  | handBack (resource : R) (stages : List S)
  /-- In this layout. -/
  | handOver (resource : R) (layout : L)
  /-- A new resource, ours or not yet, takes the place of this one. -/
  | replace (resource : R) (ours : Bool)

variable {R S A L : Type u} [Inhabited L]

/-- A barrier that begins with these stages comes after the last work. -/
def LastWork.Precedes (stages : List S) : LastWork S → Prop
  | .nothing => True
  | .used others => others ⊆ stages
  | .barred others | .handedBack others => ∃ stage ∈ others, stage ∈ stages
  | .away => False

section Precedes
variable (stages others : List S)

@[simp] theorem LastWork.precedes_nothing : LastWork.nothing.Precedes stages ↔ True := Iff.rfl

@[simp] theorem LastWork.precedes_used :
    (LastWork.used others).Precedes stages ↔ others ⊆ stages := Iff.rfl

@[simp] theorem LastWork.precedes_barred :
    (LastWork.barred others).Precedes stages ↔ ∃ stage ∈ others, stage ∈ stages := Iff.rfl

@[simp] theorem LastWork.precedes_handedBack :
    (LastWork.handedBack others).Precedes stages ↔ ∃ stage ∈ others, stage ∈ stages := Iff.rfl

end Precedes

/-- Nothing of it is under way. -/
def LastWork.Idle : LastWork S → Prop
  | .nothing | .away => True
  | .used _ | .barred _ | .handedBack _ => False

def LastWork.settled : LastWork S → LastWork S
  | .away => .away
  | .nothing | .used _ | .barred _ | .handedBack _ => .nothing

def ResourceState.fresh (ours : Bool) : ResourceState S A L :=
  ⟨default, if ours then .nothing else .away, [], []⟩

def ResourceState.settled (state : ResourceState S A L) : ResourceState S A L :=
  { state with last := state.last.settled, writes := [], visible := [] }

def Barrier.Permitted (barrier : Barrier S A L) (state : ResourceState S A L) : Prop :=
  state.last.Precedes barrier.srcStages ∧ state.writes ⊆ barrier.srcAccesses ∧
    (barrier.oldLayout = default ∨ state.layout = barrier.oldLayout)

def Usage.Permitted (usage : Usage S A L) (state : ResourceState S A L) : Prop :=
  (∃ stages, state.last = .barred stages ∧ usage.stages ⊆ stages) ∧
    usage.accesses ⊆ state.visible ∧ state.layout = usage.layout

/-- The resource may be given to somebody who waits for all that was submitted. -/
def ResourceState.Released (state : ResourceState S A L) (layout : L) : Prop :=
  (state.last = .nothing ∨ ∃ stages, state.last = .barred stages) ∧ state.writes = [] ∧
    state.layout = layout

namespace QueueOperation

section Execution
variable [DecidableEq R] (states : R → ResourceState S A L)

def Permitted : QueueOperation R S A L → Prop
  | .barrier resource next => next.Permitted (states resource)
  | .use resource usage => usage.Permitted (states resource)
  | .settle => True
  | .handBack resource _ => (states resource).last = .away
  | .handOver resource layout => (states resource).Released layout
  | .replace resource _ => (states resource).last.Idle

def execute : QueueOperation R S A L → R → ResourceState S A L
  | .barrier resource next => Function.update states resource
      ⟨next.newLayout, .barred next.dstStages, [], next.dstAccesses⟩
  | .use resource usage => Function.update states resource
      ⟨(states resource).layout, .used usage.stages, usage.writes, []⟩
  | .settle => fun resource => (states resource).settled
  | .handBack resource stages => Function.update states resource
      ⟨(states resource).layout, .handedBack stages, [], []⟩
  | .handOver resource _ => Function.update states resource
      ⟨(states resource).layout, .away, [], []⟩
  | .replace resource ours => Function.update states resource (.fresh ours)

end Execution

def Touches (resource : R) : QueueOperation R S A L → Prop
  | .barrier other _ | .use other _ | .handBack other _ | .handOver other _
  | .replace other _ => other = resource
  | .settle => True

end QueueOperation

open QueueOperation

section Runs

variable [DecidableEq R] {states : R → ResourceState S A L}
  {operations later : List (QueueOperation R S A L)} {resource : R}

def executeEach (states : R → ResourceState S A L) (operations : List (QueueOperation R S A L)) :
    R → ResourceState S A L :=
  operations.foldl execute states

def Allowed (states : R → ResourceState S A L) : List (QueueOperation R S A L) → Prop
  | [] => True
  | operation :: later => operation.Permitted states ∧ Allowed (operation.execute states) later

theorem executeEach_append : executeEach states (operations ++ later) =
    executeEach (executeEach states operations) later :=
  List.foldl_append

theorem allowed_append : Allowed states (operations ++ later) ↔
    Allowed states operations ∧ Allowed (executeEach states operations) later := by
  induction operations generalizing states with
  | nil => exact (and_iff_right trivial).symm
  | cons operation operations ih =>
    rw [List.cons_append, Allowed, Allowed, ih, and_assoc]
    rfl

theorem Allowed.permitted {before after : List (QueueOperation R S A L)}
    {operation : QueueOperation R S A L} (h : Allowed states (before ++ operation :: after)) :
    operation.Permitted (executeEach states before) :=
  (allowed_append.mp h).2.1

theorem execute_untouched {operation : QueueOperation R S A L}
    (h : ¬ operation.Touches resource) : operation.execute states resource = states resource := by
  cases operation with
  | settle => exact absurd trivial h
  | barrier other _ => exact Function.update_of_ne (Ne.symm h) _ _
  | use other _ => exact Function.update_of_ne (Ne.symm h) _ _
  | handBack other _ => exact Function.update_of_ne (Ne.symm h) _ _
  | handOver other _ => exact Function.update_of_ne (Ne.symm h) _ _
  | replace other _ => exact Function.update_of_ne (Ne.symm h) _ _

theorem executeEach_untouched (h : ∀ operation ∈ operations, ¬ operation.Touches resource) :
    executeEach states operations resource = states resource := by
  induction operations generalizing states with
  | nil => rfl
  | cons operation operations ih =>
    obtain ⟨hfirst, hrest⟩ := List.forall_mem_cons.mp h
    exact (ih hrest).trans (execute_untouched hfirst)

theorem executeEach_last {before between : List (QueueOperation R S A L)}
    {operation : QueueOperation R S A L}
    (h : ∀ other ∈ between, ¬ other.Touches resource) :
    executeEach states (before ++ operation :: between) resource =
      operation.execute (executeEach states before) resource := by
  rw [executeEach_append, executeEach, List.foldl_cons]
  exact executeEach_untouched h

/-- From states with the one property, the operations are allowed and lead to the other. -/
def Leads (pre : (R → ResourceState S A L) → Prop) (operations : List (QueueOperation R S A L))
    (post : (R → ResourceState S A L) → Prop) : Prop :=
  ∀ states : R → ResourceState S A L,
    pre states → Allowed states operations ∧ post (executeEach states operations)

theorem Leads.nil (property : (R → ResourceState S A L) → Prop) : Leads property [] property :=
  fun _ h => ⟨trivial, h⟩

theorem Leads.weaken {pre post weaker : (R → ResourceState S A L) → Prop}
    (h : Leads pre operations post) (hweaker : ∀ states, post states → weaker states) :
    Leads pre operations weaker :=
  fun states hpre => ⟨(h states hpre).1, hweaker _ (h states hpre).2⟩

theorem Leads.append {pre between post : (R → ResourceState S A L) → Prop}
    (h : Leads pre operations between) (hlater : Leads between later post) :
    Leads pre (operations ++ later) post := by
  intro states hpre
  obtain ⟨hallowed, hbetween⟩ := h states hpre
  obtain ⟨hrest, hpost⟩ := hlater _ hbetween
  refine ⟨allowed_append.mpr ⟨hallowed, hrest⟩, ?_⟩
  rw [executeEach_append]
  exact hpost

end Runs

/-- The operations between two on a resource leave it alone. -/
def Apart (resource : R) (between : List (QueueOperation R S A L)) : Prop :=
  ∀ operation ∈ between, ¬ operation.Touches resource

def QueueOperation.KeepsLayout (resource : R) (operation : QueueOperation R S A L) : Prop :=
  (∀ barrier, operation ≠ .barrier resource barrier) ∧ ∀ ours, operation ≠ .replace resource ours

structure Ordered (operations : List (QueueOperation R S A L)) : Prop where
  /-- The last that happened to what is used is a barrier, which waits with the use for it, makes
  its accesses see what was there before, and leaves the layout that it expects. -/
  barred : ∀ before resource usage after, operations = before ++ .use resource usage :: after →
    ∃ earlier barrier between, before = earlier ++ .barrier resource barrier :: between ∧
      Apart resource between ∧ usage.stages ⊆ barrier.dstStages ∧
      usage.accesses ⊆ barrier.dstAccesses ∧ barrier.newLayout = usage.layout
  /-- A use is over, and its writes available, before the next barrier goes on. -/
  waited : ∀ before resource usage between barrier after,
    operations = before ++ .use resource usage :: between ++ .barrier resource barrier :: after →
    Apart resource between → usage.stages ⊆ barrier.srcStages ∧
      usage.writes ⊆ barrier.srcAccesses ∧
      (barrier.oldLayout = default ∨ usage.layout = barrier.oldLayout)
  /-- One barrier after another begins where that one ends. -/
  chained : ∀ before resource first between second after,
    operations = before ++ .barrier resource first :: between ++
      .barrier resource second :: after →
    Apart resource between → (∃ stage ∈ first.dstStages, stage ∈ second.srcStages) ∧
      (second.oldLayout = default ∨ first.newLayout = second.oldLayout)
  /-- Somebody else's work is over before the first barrier goes on. -/
  handedBack : ∀ before resource stages between barrier after,
    operations = before ++ .handBack resource stages :: between ++
      .barrier resource barrier :: after →
    Apart resource between → ∃ stage ∈ stages, stage ∈ barrier.srcStages
  /-- What is handed over was brought into its layout. -/
  handedOver : ∀ before resource layout after,
    operations = before ++ .handOver resource layout :: after → layout ≠ default →
    ∃ earlier barrier between, before = earlier ++ .barrier resource barrier :: between ∧
      (∀ operation ∈ between, operation.KeepsLayout resource) ∧ barrier.newLayout = layout
  /-- No use of it goes on then, whoever has it. -/
  finished : ∀ before resource usage between layout after,
    operations = before ++ .use resource usage :: between ++ .handOver resource layout :: after →
    ¬ Apart resource between
  /-- Nothing is done with what was handed over before it comes back. -/
  away : ∀ before resource layout between next after,
    operations = before ++ .handOver resource layout :: between ++ next :: after →
    Apart resource between → next.Touches resource →
    next = .settle ∨ (∃ stages, next = .handBack resource stages) ∨
      ∃ ours, next = .replace resource ours

omit [Inhabited L] in
theorem exists_last_touching (resource : R) (operations : List (QueueOperation R S A L)) :
    Apart resource operations ∨ ∃ before operation between,
      operations = before ++ operation :: between ∧ operation.Touches resource ∧
        Apart resource between := by
  induction operations using List.reverseRecOn with
  | nil => exact Or.inl fun _ hmem => absurd hmem List.not_mem_nil
  | append_singleton operations last ih =>
    by_cases hlast : last.Touches resource
    · exact Or.inr ⟨operations, last, [], rfl, hlast, fun _ hmem => absurd hmem List.not_mem_nil⟩
    · have hend : ∀ between : List (QueueOperation R S A L), Apart resource between →
          Apart resource (between ++ [last]) := by
        intro between h operation hmem
        rcases List.mem_append.mp hmem with hold | hnew
        · exact h operation hold
        · exact List.mem_singleton.mp hnew ▸ hlast
      rcases ih with hnone | ⟨before, operation, between, rfl, htouches, hbetween⟩
      · exact Or.inl (hend operations hnone)
      · exact Or.inr ⟨before, operation, between ++ [last], by simp, htouches,
          hend between hbetween⟩

section Order

variable [DecidableEq R] {states : R → ResourceState S A L}
  {operations : List (QueueOperation R S A L)}

def Untouched (states : R → ResourceState S A L) : Prop :=
  ∀ resource, ∃ ours, states resource = .fresh ours

theorem exists_barrier (hstates : Untouched states) {resource : R} {stages : List S}
    (h : (executeEach states operations resource).last = .barred stages) :
    ∃ earlier barrier between, operations = earlier ++ .barrier resource barrier :: between ∧
      Apart resource between ∧ executeEach states operations resource =
        ⟨barrier.newLayout, .barred barrier.dstStages, [], barrier.dstAccesses⟩ := by
  rcases exists_last_touching resource operations with
    hnone | ⟨before, operation, between, rfl, htouches, hbetween⟩
  · obtain ⟨ours, hfresh⟩ := hstates resource
    rw [executeEach_untouched hnone, hfresh] at h
    cases ours <;> cases h
  · rw [executeEach_last hbetween] at h ⊢
    cases operation with
    | barrier other barrier =>
      cases htouches
      exact ⟨before, barrier, between, rfl, hbetween, Function.update_self ..⟩
    | use other usage =>
      cases htouches
      simp [execute] at h
    | settle =>
      change (executeEach states before resource).last.settled = _ at h
      cases hlast : (executeEach states before resource).last <;> rw [hlast] at h <;> cases h
    | handBack other stages =>
      cases htouches
      simp [execute] at h
    | handOver other layout =>
      cases htouches
      simp [execute] at h
    | replace other ours =>
      cases htouches
      cases ours <;> simp [execute, ResourceState.fresh] at h

theorem executeEach_use {before between : List (QueueOperation R S A L)} {resource : R}
    {usage : Usage S A L} (h : Apart resource between) :
    executeEach states (before ++ .use resource usage :: between) resource =
      ⟨(executeEach states before resource).layout, .used usage.stages, usage.writes, []⟩ := by
  rw [executeEach_last h]
  exact Function.update_self ..

theorem executeEach_barrier {before between : List (QueueOperation R S A L)} {resource : R}
    {barrier : Barrier S A L} (h : Apart resource between) :
    executeEach states (before ++ .barrier resource barrier :: between) resource =
      ⟨barrier.newLayout, .barred barrier.dstStages, [], barrier.dstAccesses⟩ := by
  rw [executeEach_last h]
  exact Function.update_self ..

theorem execute_keepsLayout {operation : QueueOperation R S A L} {resource : R}
    (h : operation.KeepsLayout resource) :
    (operation.execute states resource).layout = (states resource).layout := by
  by_cases htouches : operation.Touches resource
  · cases operation with
    | barrier other barrier =>
      cases htouches
      exact absurd rfl (h.1 barrier)
    | settle => rfl
    | replace other ours =>
      cases htouches
      exact absurd rfl (h.2 ours)
    | use other _ | handBack other _ | handOver other _ =>
      cases htouches
      rw [execute, Function.update_self]
  · rw [execute_untouched htouches]

theorem exists_layout_barrier (hstates : Untouched states) (resource : R)
    (h : (executeEach states operations resource).layout ≠ default) :
    ∃ earlier barrier between, operations = earlier ++ .barrier resource barrier :: between ∧
      (∀ operation ∈ between, operation.KeepsLayout resource) ∧
      barrier.newLayout = (executeEach states operations resource).layout := by
  induction operations using List.reverseRecOn with
  | nil =>
    obtain ⟨ours, hfresh⟩ := hstates resource
    exact absurd (congrArg ResourceState.layout hfresh) h
  | append_singleton operations last ih =>
    rw [executeEach_append] at h ⊢
    change (last.execute (executeEach states operations) resource).layout ≠ default at h
    change ∃ earlier barrier between, _ ∧ _ ∧
      _ = (last.execute (executeEach states operations) resource).layout
    by_cases hkeeps : last.KeepsLayout resource
    · rw [execute_keepsLayout hkeeps] at h ⊢
      obtain ⟨earlier, barrier, between, rfl, hbetween, hlayout⟩ := ih h
      refine ⟨earlier, barrier, between ++ [last], by simp, ?_, hlayout⟩
      intro operation hmem
      rcases List.mem_append.mp hmem with hold | hnew
      · exact hbetween operation hold
      · exact List.mem_singleton.mp hnew ▸ hkeeps
    · rw [KeepsLayout, not_and_or, not_forall_not, not_forall_not] at hkeeps
      rcases hkeeps with ⟨barrier, rfl⟩ | ⟨ours, rfl⟩
      · refine ⟨operations, barrier, [], rfl, fun _ hmem => absurd hmem List.not_mem_nil, ?_⟩
        rw [execute, Function.update_self]
      · rw [execute, Function.update_self] at h
        exact absurd rfl h

theorem ordered_of_allowed (hstates : Untouched states) (h : Allowed states operations) :
    Ordered operations where
  barred := by
    rintro before resource usage after rfl
    obtain ⟨⟨stages, hlast, hstages⟩, haccesses, hlayout⟩ := h.permitted
    obtain ⟨earlier, barrier, between, hbefore, hbetween, hstate⟩ := exists_barrier hstates hlast
    rw [hstate] at hlast haccesses hlayout
    cases hlast
    exact ⟨earlier, barrier, between, hbefore, hbetween, hstages, haccesses, hlayout⟩
  waited := by
    rintro before resource usage between barrier after rfl hbetween
    obtain ⟨hprecedes, hwrites, hlayout⟩ := h.permitted
    rw [List.append_assoc, List.cons_append] at h
    obtain ⟨_, _, husage⟩ := h.permitted
    rw [executeEach_use hbetween] at hprecedes hwrites hlayout
    exact ⟨hprecedes, hwrites, hlayout.imp id husage.symm.trans⟩
  chained := by
    rintro before resource first between second after rfl hbetween
    obtain ⟨hprecedes, _, hlayout⟩ := h.permitted
    rw [executeEach_barrier hbetween] at hprecedes hlayout
    exact ⟨hprecedes, hlayout⟩
  handedBack := by
    rintro before resource stages between barrier after rfl hbetween
    obtain ⟨hprecedes, _⟩ := h.permitted
    rw [executeEach_last hbetween, execute, Function.update_self] at hprecedes
    exact hprecedes
  handedOver := by
    rintro before resource layout after rfl hcounts
    obtain ⟨_, _, hlayout⟩ := h.permitted
    rw [← hlayout] at hcounts ⊢
    exact exists_layout_barrier hstates resource hcounts
  finished := by
    rintro before resource usage between layout after rfl hbetween
    obtain ⟨hlast, _⟩ := h.permitted
    rw [executeEach_use hbetween] at hlast
    rcases hlast with hlast | ⟨stages, hlast⟩ <;> cases hlast
  away := by
    rintro before resource layout between next after rfl hbetween htouches
    have hnext := h.permitted
    have hstate : (executeEach states (before ++ .handOver resource layout :: between)
        resource).last = .away := by
      rw [executeEach_last hbetween, execute, Function.update_self]
    cases next with
    | barrier other barrier =>
      cases htouches
      have hprecedes := hnext.1
      rw [hstate] at hprecedes
      exact hprecedes.elim
    | use other usage =>
      cases htouches
      obtain ⟨⟨stages, hlast, _⟩, _⟩ := hnext
      rw [hstate] at hlast
      cases hlast
    | settle => exact Or.inl rfl
    | handBack other stages =>
      cases htouches
      exact Or.inr (Or.inl ⟨stages, rfl⟩)
    | handOver other layout =>
      cases htouches
      have hlast := hnext.1
      rw [hstate] at hlast
      rcases hlast with hlast | ⟨stages, hlast⟩ <;> cases hlast
    | replace other ours =>
      cases htouches
      exact Or.inr (Or.inr ⟨ours, rfl⟩)

end Order

end Library
