import PlaygroundEngine.Reflection.FunctionInfo
import PlaygroundEngine.Reflection.TypeGraph

/-!
# Borrows of borrows

Every operation that makes a borrow from a borrow, chains of them, and what is
left of the object's constness at the end of a chain.
-/

namespace PlaygroundEngine.Reflection

set_option autoImplicit false

variable {T : Type}

inductive Hop (T : Type) where
  | upcast (base : BaseInfo T)
  | fieldRef (member : MemberDeclaration T)
  | elementRef (sequence : SequenceDeclaration T) (index : UInt64)
  | dereference

namespace Hop

/-- A mutable member, a reference member or a pointer: C++ starts a new object here,
which the constness so far does not qualify. -/
def BreaksConst : Hop T → Prop
  | .upcast _ => False
  | .fieldRef member => member.isMutable ∨ member.reference ≠ .none
  | .elementRef _ _ => False
  | .dereference => True

/-- The member, element or pointee type is const. -/
def TargetsConst (graph : TypeGraph T) (source : TypedRef T) : Hop T → Prop
  | .upcast _ => False
  | .fieldRef member => member.isConst
  | .elementRef (.resizable _ _ _ _) _ => False
  | .elementRef (.fixed _ readOnly) _ => readOnly
  | .dereference => ∃ type pointee, source.type = some type ∧
      (graph.info type).innerType = some pointee ∧ (graph.info pointee).traits.isConst

/-- The borrow a hop yields, when it does not answer with an error. -/
def follow [DecidableEq T] (graph : TypeGraph T) (memory : Memory) (source : TypedRef T) :
    Hop T → Option (TypedRef T)
  | .upcast base => some (base.upcast source)
  | .fieldRef member => ((makeField member).getRef source ⟨memory, []⟩).1.toOption
  | .elementRef sequence index => some (sequence.facet.elementRef source index memory)
  | .dereference => (source.dereference graph memory).toOption

end Hop

/-- A hop from a borrow, in the memory of its moment. -/
structure Step (T : Type) where
  hop : Hop T
  memory : Memory
  source : TypedRef T

variable [DecidableEq T] {graph : TypeGraph T}

inductive Chain (graph : TypeGraph T) : TypedRef T → List (Step T) → TypedRef T → Prop where
  | nil (ref : TypedRef T) : Chain graph ref [] ref
  | cons {hop : Hop T} {memory : Memory} {source mid last : TypedRef T} {steps : List (Step T)} :
      hop.follow graph memory source = some mid → Chain graph mid steps last →
      Chain graph source (⟨hop, memory, source⟩ :: steps) last

/-- No mutator accepts the borrow as its object. -/
structure ReadOnly (object : TypedRef T) : Prop where
  setValue : ∀ (member : MemberDeclaration T) (input : TypedRef T) (machine : Machine),
    ¬ member.isMutable → Refused ((makeField member).setValue object input machine) machine
  append : ∀ (facet : SequenceFacet T) (input : TypedRef T) (machine : Machine),
    Refused (facet.append object input machine) machine
  clear : ∀ (facet : SequenceFacet T) (machine : Machine),
    Refused (facet.clear object machine) machine
  reserve : ∀ (facet : SequenceFacet T) (capacity : UInt64) (machine : Machine),
    Refused (facet.reserve object capacity machine) machine
  assignString : ∀ (facet : StringFacet T) (value : String) (machine : Machine),
    Refused (facet.assign object value machine) machine
  assignEnumeration : ∀ (facet : ErasedEnumerationFacet T) (value : UInt64) (machine : Machine),
    Refused (facet.assign object value machine) machine
  invoke : ∀ (function : FunctionInfo T) (args : List (TypedRef T)) (ret : TypedRef T)
    (machine : Machine), ¬ function.traits.isConstCallable →
    Refused (function.invoke object args ret machine) machine

theorem eq_ok_of_toOption {E A : Type} {result : Except E A} {a : A}
    (h : result.toOption = some a) : result = .ok a := by
  cases result with
  | error error => cases h
  | ok a' =>
    cases h
    rfl

theorem getRef_eq_ok {member : MemberDeclaration T} {object ref : TypedRef T} {machine : Machine}
    (h : ((makeField member).getRef object machine).1 = .ok ref) :
    ref.type = some member.type ∧ ref.movable = false ∧ ref.isConst = (member.isConst ||
      (object.isConst && !(makeFieldTraits member).writableThroughConstObject)) := by
  unfold FieldInfo.getRef at h
  cases hchecked : (makeField member).checkDeclaringInstance object with
  | error error =>
    rw [hchecked] at h
    cases h
  | ok _ =>
    rw [hchecked] at h
    simp only [makeField_referencer, makeFieldReferencer] at h
    cases hbit : member.isBitField with
    | true =>
      rw [hbit] at h
      cases h
    | false =>
      rw [hbit] at h
      cases h
      exact ⟨rfl, rfl, rfl⟩

omit [DecidableEq T] in
theorem dereference_eq_ok {source ref : TypedRef T} {memory : Memory}
    (h : source.dereference graph memory = .ok ref) :
    ref.type.isSome ∧ ref.movable = false ∧ ∃ type pointee, source.type = some type ∧
      (graph.info type).innerType = some pointee ∧
      ref.isConst = (graph.info pointee).traits.isConst := by
  unfold TypedRef.dereference at h
  split at h
  · cases h
  rename_i type htype
  split at h
  · cases h
  split at h
  · cases h
  rename_i pointee hpointee
  dsimp only at h
  split_ifs at h
  cases h
  refine ⟨rfl, rfl, type, pointee, htype, hpointee, ?_⟩
  rw [graph.peelQualifiers_isConst, Bool.false_or]

theorem elementRef_spec (sequence : SequenceDeclaration T) (object : TypedRef T)
    (index : UInt64) (memory : Memory) :
    (sequence.facet.elementRef object index memory).type.isSome ∧
      (sequence.facet.elementRef object index memory).movable = false ∧
      ((sequence.facet.elementRef object index memory).isConst ↔
        object.isConst ∨ (Hop.elementRef sequence index).TargetsConst graph object) := by
  unfold SequenceFacet.elementRef
  cases sequence with
  | resizable container clear reserve pushBack =>
    cases hconst : object.isConst <;> simp [SequenceDeclaration.facet, Hop.TargetsConst,
      makeResizableSequenceFacet, sequenceElementRefThunk, typedRefOf]
  | fixed container readOnly =>
    cases hconst : object.isConst <;> cases readOnly <;>
      simp [SequenceDeclaration.facet, Hop.TargetsConst, makeFixedSequenceFacet,
        sequenceElementRefThunk, typedRefOf]

/-- What one hop does to a borrow: it has a tag and is no offer to move, and it is read-only when
the target type is or when the constness so far reaches it. -/
theorem follow_spec {hop : Hop T} {memory : Memory} {source ref : TypedRef T}
    (h : hop.follow graph memory source = some ref) :
    ref.type.isSome ∧ ref.movable = false ∧
      (ref.isConst ↔ (¬ hop.BreaksConst ∧ source.isConst) ∨ hop.TargetsConst graph source) := by
  cases hop with
  | upcast base =>
    cases h
    exact ⟨rfl, rfl, by simp [BaseInfo.upcast, Hop.BreaksConst, Hop.TargetsConst]⟩
  | fieldRef member =>
    have hok := eq_ok_of_toOption h
    obtain ⟨htype, hmovable, hconst⟩ := getRef_eq_ok hok
    refine ⟨Option.isSome_of_eq_some htype, hmovable, ?_⟩
    rw [hconst, Bool.or_eq_true, Bool.and_eq_true, Bool.not_eq_true', ← Bool.not_eq_true,
      writableThroughConstObject_iff, or_comm, and_comm (a := source.isConst = true)]
    exact Iff.rfl
  | elementRef sequence index =>
    cases h
    obtain ⟨htype, hmovable, hconst⟩ := @elementRef_spec _ _ graph sequence source index memory
    refine ⟨htype, hmovable, hconst.trans ?_⟩
    simp [Hop.BreaksConst]
  | dereference =>
    have hok := eq_ok_of_toOption h
    obtain ⟨hsome, hmovable, type, pointee, htype, hpointee, hconst⟩ := dereference_eq_ok hok
    refine ⟨hsome, hmovable, ?_⟩
    rw [hconst]
    constructor
    · intro hp
      exact Or.inr ⟨type, pointee, htype, hpointee, hp⟩
    · intro hp
      rcases hp with ⟨hbreaks, _⟩ | ⟨type', pointee', htype', hpointee', hp⟩
      · exact absurd trivial hbreaks
      · rw [htype] at htype'
        cases htype'
        rw [hpointee] at hpointee'
        cases hpointee'
        exact hp

namespace Chain

variable {ref last : TypedRef T} {steps : List (Step T)}

theorem split {before after : List (Step T)} (h : Chain graph ref (before ++ after) last) :
    ∃ mid, Chain graph ref before mid ∧ Chain graph mid after last := by
  induction before generalizing ref with
  | nil => exact ⟨ref, .nil ref, h⟩
  | cons step before ih =>
    cases h with
    | cons hfollow hrest =>
      obtain ⟨mid, hbefore, hafter⟩ := ih hrest
      exact ⟨mid, .cons hfollow hbefore, hafter⟩

theorem split_cons {before after : List (Step T)} {step : Step T}
    (h : Chain graph ref (before ++ step :: after) last) :
    ∃ mid, Chain graph ref before step.source ∧
      step.hop.follow graph step.memory step.source = some mid ∧ Chain graph mid after last := by
  obtain ⟨source, hbefore, hrest⟩ := h.split
  cases hrest with
  | cons hfollow hafter => exact ⟨_, hbefore, hfollow, hafter⟩

theorem concat {hop : Hop T} {memory : Memory} {next : TypedRef T}
    (h : Chain graph ref steps last) (hfollow : hop.follow graph memory last = some next) :
    Chain graph ref (steps ++ [⟨hop, memory, last⟩]) next := by
  induction h with
  | nil ref => exact .cons hfollow (.nil next)
  | cons hfirst _ ih => exact .cons hfirst (ih hfollow)

theorem type (h : Chain graph ref steps last) (hroot : ref.type.isSome) : last.type.isSome := by
  induction h with
  | nil ref => exact hroot
  | cons hfollow _ ih => exact ih (follow_spec hfollow).1

theorem movable (h : Chain graph ref steps last) (hsteps : steps ≠ []) : last.movable = false := by
  induction h with
  | nil ref => exact absurd rfl hsteps
  | @cons hop memory source mid last steps hfollow hrest ih =>
    cases steps with
    | nil =>
      cases hrest
      exact (follow_spec hfollow).2.1
    | cons step steps => exact ih (by simp)

/-- Without a hop that breaks constness, the constness of the first borrow and that
of every target reach the last borrow. -/
theorem isConst_iff (h : Chain graph ref steps last)
    (hkeeps : ∀ step ∈ steps, ¬ step.hop.BreaksConst) :
    last.isConst ↔ ref.isConst ∨ ∃ step ∈ steps, step.hop.TargetsConst graph step.source := by
  induction h with
  | nil ref => simp
  | cons hfollow hrest ih =>
    have hfirst := hkeeps _ List.mem_cons_self
    rw [ih fun step hstep => hkeeps step (List.mem_cons_of_mem _ hstep),
      (follow_spec hfollow).2.2, and_iff_right hfirst, or_assoc]
    simp only [List.mem_cons, exists_eq_or_imp]

theorem isConst_eq_false_iff (h : Chain graph ref steps last)
    (hkeeps : ∀ step ∈ steps, ¬ step.hop.BreaksConst) :
    last.isConst = false ↔ ref.isConst = false ∧
      ∀ step ∈ steps, ¬ step.hop.TargetsConst graph step.source := by
  have hconst := not_congr (h.isConst_iff hkeeps)
  rw [Bool.not_eq_true, not_or, Bool.not_eq_true, not_exists] at hconst
  rw [hconst]
  refine and_congr_right fun _ => forall_congr' fun step => ?_
  rw [not_and]

end Chain

theorem setValue_const {member : MemberDeclaration T} {object : TypedRef T}
    (hconst : object.isConst) (hmutable : ¬ member.isMutable) (input : TypedRef T)
    (machine : Machine) : Refused ((makeField member).setValue object input machine) machine := by
  unfold FieldInfo.setValue
  cases (makeField member).checkDeclaringInstance object with
  | error error => exact refused_error error machine
  | ok _ =>
    dsimp only
    split
    · exact refused_error _ machine
    · rename_i hwritable
      rw [hconst, Bool.true_and, Bool.not_eq_true', makeField_traits, Bool.not_eq_false,
        writableThroughConstObject_iff] at hwritable
      -- only a reference member is writable through the object, and it has no setter
      have hreference : member.reference ≠ .none := hwritable.resolve_left hmutable
      have hsetter : makeFieldSetter member = none := by
        rw [makeFieldSetter, if_pos]
        rw [Bool.or_eq_true, bne_iff_ne]
        exact Or.inr hreference
      rw [makeField_setter, hsetter]
      exact refused_error _ machine

theorem invoke_const {function : FunctionInfo T} {object : TypedRef T} (hconst : object.isConst)
    (hcallable : ¬ function.traits.isConstCallable) (args : List (TypedRef T)) (ret : TypedRef T)
    (machine : Machine) : Refused (function.invoke object args ret machine) machine := by
  unfold FunctionInfo.invoke
  have hobject : function.traits.callsWithoutObject = false := by
    simp only [FunctionTraits.isConstCallable, Bool.or_assoc, Bool.or_eq_true, not_or] at hcallable
    simpa [FunctionTraits.callsWithoutObject] using hcallable.2
  split
  · exact refused_error _ machine
  · rename_i invoker _
    simp only [hobject, hconst, Bool.eq_false_iff.mpr hcallable, Bool.not_false, Bool.true_and,
      if_true]
    split_ifs
    · exact refused_error _ machine
    · exact refused_error _ machine
    · exact refused_error _ machine

theorem readOnly_of_isConst {object : TypedRef T} (hconst : object.isConst) : ReadOnly object where
  setValue := fun _ input machine hmutable => setValue_const hconst hmutable input machine
  append := fun _ _ machine => mutateFacet_const hconst _ _ machine
  clear := fun _ machine => mutateFacet_const hconst _ _ machine
  reserve := fun _ _ machine => mutateFacet_const hconst _ _ machine
  assignString := fun _ _ machine => mutateFacet_const hconst _ _ machine
  assignEnumeration := fun _ _ machine => mutateFacet_const hconst _ _ machine
  invoke := fun _ args ret machine hcallable => invoke_const hconst hcallable args ret machine

/-- Every hop of a chain yields a read-only borrow exactly when its target type is const or
when the constness so far reaches it; the last borrow offers no move, it is writable exactly
when neither the borrow at the last hop that breaks constness nor a later target is const,
and a read-only one is refused by every mutator. -/
theorem borrow_chains_respect_const {ref last : TypedRef T} {steps : List (Step T)}
    (h : Chain graph ref steps last) :
    (steps ≠ [] → last.movable = false) ∧
    (∀ before step after, steps = before ++ step :: after →
      ∃ mid, Chain graph ref before step.source ∧
        step.hop.follow graph step.memory step.source = some mid ∧ Chain graph mid after last ∧
        mid.movable = false ∧
        (mid.isConst ↔ (¬ step.hop.BreaksConst ∧ step.source.isConst) ∨
          step.hop.TargetsConst graph step.source)) ∧
    (∀ before step after, steps = before ++ step :: after → step.hop.BreaksConst →
      (∀ later ∈ after, ¬ later.hop.BreaksConst) →
      (last.isConst = false ↔ ∀ later ∈ step :: after,
        ¬ later.hop.TargetsConst graph later.source)) ∧
    (∀ before after, steps = before ++ after →
      (∀ step ∈ after, ¬ step.hop.BreaksConst) →
      ∃ mid, Chain graph ref before mid ∧ Chain graph mid after last ∧
        (last.isConst = false ↔ mid.isConst = false ∧
          ∀ step ∈ after, ¬ step.hop.TargetsConst graph step.source)) ∧
    (ref.isConst → (∀ step ∈ steps, ¬ step.hop.BreaksConst) → last.isConst) ∧
    (last.isConst → ReadOnly last) := by
  refine ⟨h.movable, ?_, ?_, ?_, ?_, readOnly_of_isConst⟩
  · intro before step after hsplit
    rw [hsplit] at h
    obtain ⟨mid, hbefore, hfollow, hafter⟩ := h.split_cons
    obtain ⟨_, hmovable, hconst⟩ := follow_spec hfollow
    exact ⟨mid, hbefore, hfollow, hafter, hmovable, hconst⟩
  · intro before step after hsplit hbreaks hkeeps
    rw [hsplit] at h
    obtain ⟨mid, _, hfollow, hafter⟩ := h.split_cons
    have hmid : mid.isConst = false ↔ ¬ step.hop.TargetsConst graph step.source := by
      rw [← Bool.not_eq_true, (follow_spec hfollow).2.2]
      simp [hbreaks]
    rw [hafter.isConst_eq_false_iff hkeeps, hmid, List.forall_mem_cons]
  · intro before after hsplit hkeeps
    rw [hsplit] at h
    obtain ⟨mid, hbefore, hafter⟩ := h.split
    exact ⟨mid, hbefore, hafter, hafter.isConst_eq_false_iff hkeeps⟩
  · intro hconst hkeeps
    exact (h.isConst_iff hkeeps).mpr (Or.inl hconst)

/-- `struct Holder { int* Link; }`, with tags 0 for it, 1 for `int*` and 2 for `int`. -/
def linkMember : MemberDeclaration (Fin 3) where
  identifier := "Link"
  type := 1
  declaringType := 0
  byteOffset := 8
  copyConstruct := none
  assign := none

def holderInfo (t : Fin 3) : TypeInfo (Fin 3) where
  displayName := "Holder"
  traits := { kind := if t = 0 then .classType else if t = 1 then .pointer else .integral }
  innerType := if t = 1 then some 2 else none
  members := if t = 0 then [linkMember] else []

def holderGraph : TypeGraph (Fin 3) where
  info := holderInfo
  const_inner := by decide
  volatile_inner := by decide
  pointer_inner := by decide
  member_declaringType := by decide
  bitField_leaf := by
    intro t member hmember hbit
    change member ∈ if t = 0 then [linkMember] else [] at hmember
    split at hmember
    · cases List.mem_singleton.mp hmember
      cases hbit
    · cases hmember

/-- A `Holder` at address 16 whose `Link` points to address 40. -/
def holderMemory : Memory := fun byte => if byte = 24 then 40 else 0

/-- Nothing writes through the `Link` of a const `Holder`; the `int` behind it is writable. -/
theorem borrow_chains_respect_const_holder :
    ReadOnly ({ type := some 1, data := 24, isConst := true } : TypedRef (Fin 3)) ∧
      ({ type := some 2, data := 40 } : TypedRef (Fin 3)).isConst = false :=
  have hlink : (Hop.fieldRef linkMember).follow holderGraph holderMemory
      { type := some 0, data := 16, isConst := true } =
        some { type := some 1, data := 24, isConst := true } := rfl
  have hread : readPointer holderMemory 24 = 40 := by decide
  have hpointee : (Hop.dereference (T := Fin 3)).follow holderGraph holderMemory
      { type := some 1, data := 24, isConst := true } = some { type := some 2, data := 40 } := by
    simp [Hop.follow, TypedRef.dereference, TypeGraph.peelQualifiers, holderGraph, holderInfo,
      TypeInfo.isQualified, Except.toOption, hread]
  ⟨(borrow_chains_respect_const (.cons hlink (.nil _))).2.2.2.2.2 rfl,
    ((borrow_chains_respect_const (.cons hlink (.cons hpointee (.nil _)))).2.2.1 [_] _ [] rfl
      trivial (by simp)).mpr (by
        intro later hlater
        cases List.mem_singleton.mp hlater
        rintro ⟨type, pointee, htype, hinner, hconst⟩
        cases htype
        cases hinner
        cases hconst)⟩

end PlaygroundEngine.Reflection
