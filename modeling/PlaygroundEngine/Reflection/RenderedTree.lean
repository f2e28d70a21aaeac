import PlaygroundEngine.Reflection.RenderingTermination
import PlaygroundEngine.Reflection.SubobjectTree

/-!
# Rendering prints the subobject tree

The walk collects one entry for each stateful leaf, in order, and writes a separator
between any two of them. So whatever a rendering returns prints the subobject tree.
-/

namespace PlaygroundEngine.Reflection

open Library
set_option autoImplicit false

variable {T : Type}

namespace Entries

def addEntry (entries : Entries) (text : String) : Entries where
  out := (if entries.firstEntry then entries.out else entries.out ++ ", ") ++ text
  firstEntry := false

def addEntries (entries : Entries) (texts : List String) : Entries := texts.foldl addEntry entries

theorem beginEntry_append (entries : Entries) (identifier value : String) :
    (beginEntry entries identifier).append value =
      entries.addEntry (identifier ++ (": " ++ value)) := by
  simp only [beginEntry, append, addEntry, String.append_assoc]

theorem addEntries_later (out text : String) (texts : List String) :
    (addEntries ⟨out ++ text, false⟩ texts).out =
      out ++ String.intercalate ", " (text :: texts) := by
  induction texts generalizing out text with
  | nil => rw [String.intercalate_singleton]; rfl
  | cons next texts ih =>
    rw [String.intercalate_cons_cons, addEntries, List.foldl_cons]
    simp only [addEntry, Bool.false_eq_true, if_false]
    rw [← addEntries, ih (out ++ text ++ ", ") next]
    simp only [String.append_assoc]

theorem addEntries_first (out : String) (texts : List String) :
    (addEntries ⟨out, true⟩ texts).out = out ++ String.intercalate ", " texts := by
  cases texts with
  | nil => rw [String.intercalate_nil, String.append_empty]; rfl
  | cons text texts => exact addEntries_later out text texts

def addLeaves (graph : TypeGraph T) (entries : Entries) (leaves : List (Leaf T × String)) :
    Entries :=
  entries.addEntries (leaves.map (entryText graph))

theorem addLeaves_nil (graph : TypeGraph T) (entries : Entries) :
    entries.addLeaves graph [] = entries := rfl

theorem addLeaves_append (graph : TypeGraph T) (entries : Entries)
    (front back : List (Leaf T × String)) :
    (entries.addLeaves graph front).addLeaves graph back =
      entries.addLeaves graph (front ++ back) := by
  simp only [addLeaves, addEntries, List.map_append, List.foldl_append]

end Entries

section
variable {graph : TypeGraph T} {slot : Address} {memory : Memory}

theorem foldlM_appendElement {toString : TypedRef T → Option String}
    {container : ContainerDeclaration T} {obj : Address} {count : Nat} {out : String}
    (h : (List.range count).foldlM (appendElement toString container memory obj) "[" = some out) :
    ∃ texts : List String, texts.length = count ∧
      (∀ (index : Nat) text, texts[index]? = some text →
        toString (typedRefOf container.element
          (container.elementAddress memory obj (UInt64.ofNat index)) true true) = some text) ∧
      out = "[" ++ String.intercalate ", " texts := by
  induction count generalizing out with
  | zero =>
    cases h
    exact ⟨[], rfl, (fun _ _ h => nomatch h), rfl⟩
  | succ count ih =>
    rw [List.range_succ, List.foldlM_append] at h
    obtain ⟨before, hbefore, hlast⟩ := Option.bind_eq_some_iff.mp h
    obtain ⟨texts, hlength, htexts, rfl⟩ := ih hbefore
    rw [List.foldlM_cons] at hlast
    obtain ⟨_, happend, hout⟩ := Option.bind_eq_some_iff.mp hlast
    cases hout
    obtain ⟨text, htext, rfl⟩ := Option.map_eq_some_iff.mp happend
    refine ⟨texts ++ [text], ?_, ?_, ?_⟩
    · rw [List.length_append, hlength, List.length_singleton]
    · intro index text' hindex
      rcases Nat.lt_or_ge index texts.length with hlt | hge
      · rw [List.getElem?_append_left hlt] at hindex
        exact htexts index text' hindex
      · rw [List.getElem?_append_right hge] at hindex
        cases hoffset : index - texts.length with
        | zero =>
          rw [hoffset] at hindex
          cases hindex
          have hcount : index = count := by omega
          rw [hcount]
          exact htext
        | succ offset =>
          rw [hoffset] at hindex
          cases hindex
    · rcases Nat.eq_zero_or_pos count with rfl | hpos
      · rw [List.length_eq_zero_iff.mp hlength]
        simp
      · have hne : texts ≠ [] := by
          rw [← List.length_pos_iff, hlength]
          exact hpos
        rw [if_pos (Nat.pos_iff_ne_zero.mp hpos),
          String.intercalate_append_of_ne_nil hne (List.cons_ne_nil _ _),
          String.intercalate_singleton]
        simp only [String.append_assoc]

theorem stringify_renders {toString : TypedRef T → Option String}
    (htoString : ∀ (type : T) data text,
      toString (typedRefOf type data true true) = some text →
        Renders graph slot memory (.object type data) text)
    {type : T} {obj : Address} {text : String} (hthunk : (graph.info type).canStringify)
    (h : (graph.info type).stringify toString memory obj = some text) :
    Renders graph slot memory (.byThunk type obj) text := by
  unfold TypeInfo.stringify at h
  split at h
  · rename_i hnone
    simp [TypeInfo.canStringify, hnone] at hthunk
  · rename_i render hrender
    cases h
    exact .leaf hrender
  · rename_i container hcontainer
    obtain ⟨out, hout, rfl⟩ := Option.map_eq_some_iff.mp h
    obtain ⟨texts, hlength, htexts, rfl⟩ := foldlM_appendElement hout
    have hrenders := Renders.sequence hcontainer hlength fun index text htext =>
      htoString _ _ text (htexts index text htext)
    split
    · rename_i hlong
      rw [if_pos hlong] at hrenders
      exact hrenders
    · rename_i hshort
      rw [if_neg hshort, String.append_empty] at hrenders
      exact hrenders

theorem appendFieldValue_renders [DecidableEq T] {toString : Memory → TypedRef T → Option String}
    (htoString : ∀ memory (ref : TypedRef T) type text, ref.type = some type →
      toString memory ref = some text → Renders graph slot memory (.object type ref.data) text)
    {member : MemberDeclaration T} {object : TypedRef T} {entries final : Entries}
    (htype : object.type = some member.declaringType)
    (h : appendFieldValue toString slot memory member object entries = some final) :
    ∃ text, (∀ path, Renders graph slot memory (.leaf ⟨path, .field member, object.data⟩) text) ∧
      final = entries.append text := by
  have hchecked := checkDeclaringInstance_eq member htype
  unfold appendFieldValue at h
  simp only [FieldInfo.getRef, FieldInfo.getValue, makeField_referencer, makeField_getter,
    makeFieldReferencer, makeFieldGetter] at h
  by_cases hdata : object.data = 0
  · rw [if_pos hdata] at hchecked
    simp only [hchecked] at h
    cases h
    exact ⟨_, fun _ => .unreadable (.inl hdata), rfl⟩
  rw [if_neg hdata] at hchecked
  simp only [hchecked] at h
  by_cases hbit : member.isBitField
  · simp only [hbit, if_true] at h
    cases hconstruct : member.copyConstruct with
    | none =>
      simp only [hconstruct, Option.map_none] at h
      cases h
      exact ⟨_, fun _ => .unreadable (.inr ⟨hbit, hconstruct⟩), rfl⟩
    | some construct =>
      simp only [hconstruct, Option.map_some, fieldGetThunk, ne_eq, not_true_eq_false, if_false,
        Bool.false_eq_true] at h
      obtain ⟨text, htext, rfl⟩ := Option.map_eq_some_iff.mp h
      exact ⟨text, fun _ => .bitField hdata hbit hconstruct (htoString _ _ _ _ rfl htext), rfl⟩
  · rw [Bool.not_eq_true] at hbit
    simp only [hbit, Bool.false_eq_true, if_false] at h
    obtain ⟨text, htext, rfl⟩ := Option.map_eq_some_iff.mp h
    exact ⟨text, fun _ => .field hdata hbit (htoString _ _ _ _ rfl htext), rfl⟩

end

section
variable {graph : TypeGraph T} {slot : Address} {memory : Memory}

theorem appendBase_collects {walk : T → TypedRef T → Entries → Option Entries}
    {toString : TypedRef T → Option String}
    (hwalk : ∀ (base : BaseInfo T) object entries final,
      walk base.typeInfo (base.upcast object) entries = some final →
        ∃ collected, Collects graph slot memory
          (HasLeaf graph base.typeInfo (object.data + base.offset)) collected ∧
          final = entries.addLeaves graph collected)
    (htoString : ∀ (type : T) data text,
      toString (typedRefOf type data true true) = some text →
        Renders graph slot memory (.object type data) text)
    {type : T} {object : TypedRef T} {index : Nat} {base : BaseInfo T}
    (hbase : (graph.info type).bases[index]? = some base) {entries final : Entries}
    (h : appendBase graph walk toString memory object entries base = some final) :
    ∃ block, Collects graph slot memory (HasLeafVia graph type object.data (.base index)) block ∧
      final = entries.addLeaves graph block := by
  have hvia : ∀ leaf, HasLeafVia graph type object.data (.base index) leaf ↔
      ((graph.info base.typeInfo).rendersThroughFacet ∧
          leaf = { path := [.base index], kind := .facet base.typeInfo,
                   object := object.data + base.offset }) ∨
        ∃ inner, HasLeaf graph base.typeInfo (object.data + base.offset) inner ∧
          inner.within index = leaf := by
    intro leaf
    rw [hasLeafVia_base_iff]
    simp only [hbase, Option.some.injEq, exists_eq_left']
  unfold appendBase at h
  dsimp only at h
  split at h
  · rename_i hmembers
    obtain ⟨collected, hcollected, rfl⟩ := hwalk base object entries final h
    refine ⟨_, hcollected.within index fun leaf => (hvia leaf).trans ?_, ?_⟩
    · simp [TypeInfo.rendersThroughFacet, hmembers]
    · rw [Entries.addLeaves, Entries.addLeaves, List.map_map]
      rfl
  · rename_i hmembers
    have hnone : ∀ inner, ¬ HasLeaf graph base.typeInfo (object.data + base.offset) inner :=
      fun inner hinner => hmembers hinner.hasMembersToWalk
    simp only [hnone, false_and, exists_false, or_false] at hvia
    split at h
    · rename_i hfacet
      obtain ⟨text, htext, rfl⟩ := Option.map_eq_some_iff.mp h
      have hthunk : (graph.info base.typeInfo).canStringify := by
        simp only [TypeInfo.rendersThroughFacet, Bool.and_eq_true] at hfacet
        exact hfacet.2
      refine ⟨_, .singleton (fun leaf => (hvia leaf).trans (and_iff_right hfacet))
        (.facet (stringify_renders htoString hthunk htext)), ?_⟩
      rw [Entries.beginEntry_append]
      rfl
    · rename_i hfacet
      cases h
      exact ⟨[], .nil fun leaf hleaf => hfacet ((hvia leaf).mp hleaf).1, rfl⟩

theorem appendMember_collects [DecidableEq T] {toString : Memory → TypedRef T → Option String}
    (htoString : ∀ memory (ref : TypedRef T) type text, ref.type = some type →
      toString memory ref = some text → Renders graph slot memory (.object type ref.data) text)
    {type : T} {object : TypedRef T} (htype : object.type = some type) {index : Nat}
    {member : MemberDeclaration T} (hmember : (graph.info type).members[index]? = some member)
    {entries final : Entries}
    (h : appendFieldValue toString slot memory member object
      (beginEntry entries member.identifier) = some final) :
    ∃ block, Collects graph slot memory (HasLeafVia graph type object.data (.field index)) block ∧
      final = entries.addLeaves graph block := by
  have hdeclaring := graph.member_declaringType type member (List.mem_of_getElem? hmember)
  rw [← hdeclaring] at htype
  obtain ⟨text, htext, rfl⟩ := appendFieldValue_renders htoString htype h
  refine ⟨_, .singleton (fun leaf => ?_) (htext [.field index]), ?_⟩
  · rw [hasLeafVia_field_iff]
    simp only [hmember, Option.some.injEq, exists_eq_left']
  · rw [Entries.beginEntry_append]
    rfl

theorem renders_of_objectToString [DecidableEq T] (fuel : Nat) :
    (∀ memory (object : TypedRef T) type text, object.type = some type →
      objectToString graph slot fuel memory object = some text →
        Renders graph slot memory (.object type object.data) text) ∧
    (∀ memory type (object : TypedRef T) entries final, object.type = some type →
      appendMembers graph slot fuel memory type object entries = some final →
        ∃ collected, Collects graph slot memory (HasLeaf graph type object.data) collected ∧
          final = entries.addLeaves graph collected) := by
  induction fuel with
  | zero =>
    constructor
    · intro memory object type text _ h
      rw [objectToString] at h
      cases h
    · intro memory type object entries final _ h
      rw [appendMembers] at h
      cases h
  | succ fuel ih =>
    obtain ⟨ihObject, ihMembers⟩ := ih
    constructor
    · intro memory object type text htype h
      simp only [objectToString, htype] at h
      split at h
      · rename_i hunion
        cases h
        exact .union hunion
      · rename_i hunion
        split at h
        · rename_i hthunk
          simp only [Bool.and_eq_true, Bool.not_eq_true'] at hthunk
          apply Renders.byThunk hunion hthunk
          exact stringify_renders (fun t data text => ihObject memory _ t text rfl) hthunk.2 h
        · rename_i hthunk
          obtain ⟨entries, hentries, rfl⟩ := Option.map_eq_some_iff.mp h
          obtain ⟨collected, hcollected, rfl⟩ := ihMembers memory type object _ _ htype hentries
          rw [Entries.addLeaves, Entries.addEntries_first]
          refine .members hunion ?_ hcollected.ordered hcollected.complete hcollected.values
          intro hcan
          simpa [hcan] using hthunk
    · intro memory type object entries final htype h
      rw [appendMembers] at h
      obtain ⟨middle, hbases, hmembers⟩ := Option.bind_eq_some_iff.mp h
      have hnil := Entries.addLeaves_nil graph
      have happend := Entries.addLeaves_append graph
      obtain ⟨baseBlocks, hbaseLength, hbaseBlocks, rfl⟩ := foldlM_blocks hnil happend _
        (fun index base hbase state next hnext =>
          appendBase_collects (fun base ref entries final => ihMembers memory _ _ entries final rfl)
            (fun t data text => ihObject memory _ t text rfl) hbase hnext) hbases
      obtain ⟨fieldBlocks, hfieldLength, hfieldBlocks, rfl⟩ := foldlM_blocks hnil happend _
        (fun index member hmember state next hnext =>
          appendMember_collects (fun memory ref t text => ihObject memory ref t text) htype
            hmember hnext) hmembers
      have hbaseLeaves := Collects.flatten (fun _ _ => SubobjectStep.Before.bases) hbaseBlocks (by
        intro index leaf hleaf
        obtain ⟨base, hbase, _⟩ := hasLeafVia_base_iff.mp hleaf
        rw [hbaseLength]
        exact (List.getElem?_eq_some_iff.mp hbase).1)
      have hfieldLeaves := Collects.flatten (fun _ _ => SubobjectStep.Before.fields) hfieldBlocks
        (by
          intro index leaf hleaf
          obtain ⟨member, hmember, _⟩ := hasLeafVia_field_iff.mp hleaf
          rw [hfieldLength]
          exact (List.getElem?_eq_some_iff.mp hmember).1)
      refine ⟨baseBlocks.flatten ++ fieldBlocks.flatten, ?_, happend _ _ _⟩
      apply (hbaseLeaves.append hfieldLeaves _).congr
      · intro leaf
        refine ⟨fun hleaf => ?_, HasLeaf.via⟩
        rcases hleaf with ⟨_, hleaf⟩ | ⟨_, hleaf⟩
        · exact hleaf.1
        · exact hleaf.1
      · intro a b ha hb
        obtain ⟨_, ha⟩ := ha
        obtain ⟨_, hb⟩ := hb
        exact Leaf.precedes_of_head ha.2 hb.2 .baseField

end

/-- Rendering an acyclic object graph returns the one text that prints its subobject
tree, and a union is answered without a look at the memory. -/
theorem objectToString_renders [DecidableEq T] [Finite T] (graph : TypeGraph T) (slot : Address)
    (memory : Memory) (type : T) (data : Address) (isConst movable : Bool)
    (hacyclic : ¬ ReachesCycle (Visits graph slot memory) (.object type data)) :
    (∃ text,
      (∃ fuel, objectToString graph slot fuel memory
        { type := some type, data := data, isConst := isConst, movable := movable } =
          some text) ∧
      ∀ other, Renders graph slot memory (.object type data) other ↔ other = text) ∧
    ((graph.info type).traits.kind = .union → ∀ memory' fuel,
      objectToString graph slot (fuel + 1) memory'
        { type := some type, data := data, isConst := isConst, movable := movable } =
          some "<union>") := by
  constructor
  · obtain ⟨fuel, text, htext⟩ := (objectToString_returns_iff graph slot memory type data
      isConst movable).mpr hacyclic
    have hrenders := (renders_of_objectToString fuel).1 memory _ type text rfl htext
    refine ⟨text, ⟨fuel, htext⟩, fun other => ⟨fun hother => hother.unique hrenders, ?_⟩⟩
    intro heq
    rw [heq]
    exact hrenders
  · intro hunion memory' fuel
    simp only [objectToString, hunion, if_true]

/-- `struct Tag {}; struct Root { unsigned char X; }; struct Left : Root {};
struct Right : Root {}; struct Diamond : Tag, Left, Right { unsigned char Y; };` -/
inductive DiamondType where
  | byte
  | tag
  | root
  | left
  | right
  | diamond
  deriving DecidableEq

instance finiteDiamondType : Finite DiamondType := by
  let place : DiamondType → Fin 6
    | .byte => 0
    | .tag => 1
    | .root => 2
    | .left => 3
    | .right => 4
    | .diamond => 5
  apply Finite.of_injective place
  intro a b h
  cases a <;> cases b <;> first | rfl | cases h

def byteMember (identifier : String) (declaringType : DiamondType) (byteOffset : Address) :
    MemberDeclaration DiamondType where
  identifier := identifier
  type := .byte
  declaringType := declaringType
  byteOffset := byteOffset
  copyConstruct := none
  assign := none

def diamondInfo : DiamondType → TypeInfo DiamondType
  | .byte =>
    { displayName := "unsigned char"
      traits := { kind := .integral }
      stringifyThunk := some (.leaf fun memory obj => toString (memory obj).toNat) }
  | .tag =>
    { displayName := "Tag"
      traits := { kind := .classType }
      stringifyThunk := some (.leaf fun _ _ => "Tag") }
  | .root =>
    { displayName := "Root"
      traits := { kind := .classType }
      members := [byteMember "X" .root 0] }
  | .left =>
    { displayName := "Left", traits := { kind := .classType }, bases := [⟨.root, .left, 0⟩] }
  | .right =>
    { displayName := "Right", traits := { kind := .classType }, bases := [⟨.root, .right, 0⟩] }
  | .diamond =>
    { displayName := "Diamond"
      traits := { kind := .classType }
      bases := [⟨.tag, .diamond, 0⟩, ⟨.left, .diamond, 0⟩, ⟨.right, .diamond, 1⟩]
      members := [byteMember "Y" .diamond 2] }

def diamondGraph : TypeGraph DiamondType where
  info := diamondInfo
  const_inner := by
    intro t h
    cases t <;> cases h
  volatile_inner := by
    intro t _ h
    cases t <;> cases h
  pointer_inner := by
    intro t h
    cases t <;> cases h
  member_declaringType := by
    intro t member hmember
    cases t <;> simp_all [diamondInfo, byteMember]
  bitField_leaf := by
    intro t member hmember hbit
    cases t <;> simp_all [diamondInfo, byteMember]

theorem objectToString_renders_diamond :
    Renders diamondGraph 8 (fun address => (address - 15).toUInt8) (.object .diamond 16)
      "{X: 1, X: 2, Y: 3}" := by
  have htext : objectToString diamondGraph 8 6 (fun address => (address - 15).toUInt8)
      { type := some .diamond, data := 16, isConst := true, movable := false } =
        some "{X: 1, X: 2, Y: 3}" := by
    rfl
  have hacyclic := (objectToString_returns_iff diamondGraph 8 _ .diamond 16 true false).mp
    ⟨6, _, htext⟩
  obtain ⟨⟨text, ⟨fuel, hreturns⟩, hunique⟩, _⟩ :=
    objectToString_renders diamondGraph 8 _ .diamond 16 true false hacyclic
  apply (hunique _).mpr
  -- both fuels return, so they return the same text
  have hmore := objectToString_mono (Nat.le_max_left 6 fuel) htext
  rw [objectToString_mono (Nat.le_max_right 6 fuel) hreturns] at hmore
  exact (Option.some.inj hmore).symm

end PlaygroundEngine.Reflection
