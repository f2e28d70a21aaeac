import PlaygroundEngine.Library.Blocks
import PlaygroundEngine.Reflection.Rendering

/-!
# The subobject tree a rendering prints

The stateful leaves of a type are its members and its facet-backed bases, through
every chain of base subobjects. A rendering of a type with members is one entry for
each leaf, bases before members, between braces.
-/

namespace PlaygroundEngine.Reflection

open Library
set_option autoImplicit false

variable {T : Type}

/-- From a subobject to one of its direct bases or members, by place of declaration. -/
inductive SubobjectStep where
  | base (index : Nat)
  | field (index : Nat)

/-- Bases come before members. -/
inductive SubobjectStep.Before : SubobjectStep → SubobjectStep → Prop
  | bases {i j : Nat} (h : i < j) : Before (.base i) (.base j)
  | baseField {i j : Nat} : Before (.base i) (.field j)
  | fields {i j : Nat} (h : i < j) : Before (.field i) (.field j)

instance asymmBefore : Std.Asymm SubobjectStep.Before where
  asymm := by
    intro a b hab hba
    cases hab <;> cases hba
    · omega
    · omega

inductive LeafKind (T : Type) where
  | field (member : MemberDeclaration T)
  | facet (type : T)

/-- `object` is where the subobject lies that declares the member, or that renders
through its facet. -/
structure Leaf (T : Type) where
  path : List SubobjectStep
  kind : LeafKind T
  object : Address

def Leaf.within (leaf : Leaf T) (index : Nat) : Leaf T :=
  { leaf with path := .base index :: leaf.path }

def Leaf.Precedes (a b : Leaf T) : Prop := List.Lex SubobjectStep.Before a.path b.path

def Leaf.name (graph : TypeGraph T) (leaf : Leaf T) : String :=
  match leaf.kind with
  | .field member => member.identifier
  | .facet type => (graph.info type).displayName

/-- The stateful leaves of an object of a type. -/
inductive HasLeaf (graph : TypeGraph T) : T → Address → Leaf T → Prop
  | field {type : T} {obj : Address} {index : Nat} {member : MemberDeclaration T}
      (hmember : (graph.info type).members[index]? = some member) :
      HasLeaf graph type obj { path := [.field index], kind := .field member, object := obj }
  | facet {type : T} {obj : Address} {index : Nat} {base : BaseInfo T}
      (hbase : (graph.info type).bases[index]? = some base)
      (hfacet : (graph.info base.typeInfo).rendersThroughFacet) :
      HasLeaf graph type obj
        { path := [.base index], kind := .facet base.typeInfo, object := obj + base.offset }
  | base {type : T} {obj : Address} {index : Nat} {base : BaseInfo T} {leaf : Leaf T}
      (hbase : (graph.info type).bases[index]? = some base)
      (hleaf : HasLeaf graph base.typeInfo (obj + base.offset) leaf) :
      HasLeaf graph type obj (leaf.within index)

/-- What is rendered: an object, an object by the thunk of its type, or the value of
a leaf. -/
inductive Part (T : Type) where
  | object (type : T) (data : Address)
  | byThunk (type : T) (data : Address)
  | leaf (leaf : Leaf T)

def entryText (graph : TypeGraph T) (entry : Leaf T × String) : String :=
  entry.1.name graph ++ (": " ++ entry.2)

/-- The texts that print the subobject tree. -/
inductive Renders (graph : TypeGraph T) (slot : Address) : Memory → Part T → String → Prop
  /-- Whatever the union holds. -/
  | union {memory : Memory} {type : T} {data : Address}
      (hunion : (graph.info type).traits.kind = .union) :
      Renders graph slot memory (.object type data) "<union>"
  | byThunk {memory : Memory} {type : T} {data : Address} {text : String}
      (hunion : (graph.info type).traits.kind ≠ .union)
      (hthunk : (graph.info type).hasMembersToWalk = false ∧ (graph.info type).canStringify)
      (htext : Renders graph slot memory (.byThunk type data) text) :
      Renders graph slot memory (.object type data) text
  | members {memory : Memory} {type : T} {data : Address} {entries : List (Leaf T × String)}
      (hunion : (graph.info type).traits.kind ≠ .union)
      (hwalk : (graph.info type).canStringify → (graph.info type).hasMembersToWalk)
      (hordered : entries.Pairwise fun a b => a.1.Precedes b.1)
      (hleaves : ∀ leaf, (∃ text, (leaf, text) ∈ entries) ↔ HasLeaf graph type data leaf)
      (hvalues : ∀ leaf text, (leaf, text) ∈ entries →
        Renders graph slot memory (.leaf leaf) text) :
      Renders graph slot memory (.object type data)
        ("\x7b" ++ String.intercalate ", " (entries.map (entryText graph)) ++ "\x7d")
  | leaf {memory : Memory} {type : T} {data : Address} {render : Memory → Address → String}
      (hthunk : (graph.info type).stringifyThunk = some (.leaf render)) :
      Renders graph slot memory (.byThunk type data) (render memory data)
  | sequence {memory : Memory} {type : T} {data : Address} {container : ContainerDeclaration T}
      {texts : List String}
      (hthunk : (graph.info type).stringifyThunk = some (.sequence container))
      (hlength : texts.length = elementsToRender container memory data)
      (helements : ∀ (index : Nat) text, texts[index]? = some text →
        Renders graph slot memory (.object container.element
          (container.elementAddress memory data (UInt64.ofNat index))) text) :
      Renders graph slot memory (.byThunk type data)
        ("[" ++ String.intercalate ", " texts ++
          (if longSequenceThreshold < (container.size memory data).toNat then ", ..." else "") ++
          "]")
  | facet {memory : Memory} {path : List SubobjectStep} {type : T} {data : Address} {text : String}
      (htext : Renders graph slot memory (.byThunk type data) text) :
      Renders graph slot memory (.leaf ⟨path, .facet type, data⟩) text
  | field {memory : Memory} {path : List SubobjectStep} {member : MemberDeclaration T}
      {obj : Address} {text : String} (hobj : obj ≠ 0) (hbit : member.isBitField = false)
      (htext : Renders graph slot memory
        (.object member.type (member.location obj memory)) text) :
      Renders graph slot memory (.leaf ⟨path, .field member, obj⟩) text
  /-- A bit-field is copied to the stack slot first. -/
  | bitField {memory : Memory} {path : List SubobjectStep} {member : MemberDeclaration T}
      {obj : Address} {construct : Transfer} {text : String} (hobj : obj ≠ 0)
      (hbit : member.isBitField)
      (hconstruct : member.copyConstruct = some construct)
      (htext : Renders graph slot (construct slot (member.location obj memory) memory)
        (.object member.type slot) text) :
      Renders graph slot memory (.leaf ⟨path, .field member, obj⟩) text
  | unreadable {memory : Memory} {path : List SubobjectStep} {member : MemberDeclaration T}
      {obj : Address} (h : obj = 0 ∨ member.isBitField ∧ member.copyConstruct = none) :
      Renders graph slot memory (.leaf ⟨path, .field member, obj⟩) "<unreadable>"

instance asymmPrecedes : Std.Asymm fun a b : Leaf T × String => a.1.Precedes b.1 where
  asymm a b := (List.Lex.asymm SubobjectStep.Before).asymm a.1.path b.1.path

section
variable {graph : TypeGraph T} {slot : Address}

theorem Renders.unique {memory : Memory} {part : Part T} {text text' : String}
    (h : Renders graph slot memory part text) (h' : Renders graph slot memory part text') :
    text = text' := by
  induction h generalizing text' with
  | union hunion =>
    cases h' with
    | union _ => rfl
    | byThunk hunion' _ _ => exact absurd hunion hunion'
    | members hunion' _ _ _ _ => exact absurd hunion hunion'
  | byThunk hunion hthunk _ ih =>
    cases h' with
    | union hunion' => exact absurd hunion' hunion
    | byThunk _ _ htext' => exact ih htext'
    | members _ hwalk' _ _ _ => simp [hwalk' hthunk.2] at hthunk
  | @members _ _ _ entries hunion hwalk hordered hleaves _ ih =>
    cases h' with
    | union hunion' => exact absurd hunion' hunion
    | byThunk _ hthunk' _ => simp [hwalk hthunk'.2] at hthunk'
    | @members _ _ _ entries' _ _ hordered' hleaves' hvalues' =>
      have hentries : entries = entries' := by
        apply eq_of_strictly_ordered hordered hordered'
        intro entry
        obtain ⟨place, value⟩ := entry
        constructor
        · intro hmem
          obtain ⟨value', hmem'⟩ := (hleaves' place).mpr ((hleaves place).mp ⟨value, hmem⟩)
          rw [ih place value hmem (hvalues' place value' hmem')]
          exact hmem'
        · intro hmem'
          obtain ⟨value', hmem⟩ := (hleaves place).mpr ((hleaves' place).mp ⟨value, hmem'⟩)
          rw [← ih place value' hmem (hvalues' place value hmem')]
          exact hmem
      rw [hentries]
  | leaf hthunk =>
    cases h' with
    | leaf hthunk' =>
      cases hthunk.symm.trans hthunk'
      rfl
    | sequence hthunk' _ _ => cases hthunk.symm.trans hthunk'
  | @sequence _ _ _ _ texts hthunk hlength _ ih =>
    cases h' with
    | leaf hthunk' => cases hthunk.symm.trans hthunk'
    | @sequence _ _ _ _ texts' hthunk' hlength' helements' =>
      cases hthunk.symm.trans hthunk'
      have htexts : texts = texts' := by
        apply List.ext_getElem (hlength.trans hlength'.symm)
        intro index hindex hindex'
        apply ih index _ (List.getElem?_eq_getElem hindex)
        exact helements' index _ (List.getElem?_eq_getElem hindex')
      rw [htexts]
  | facet _ ih =>
    cases h' with
    | facet htext' => exact ih htext'
  | field hobj hbit _ ih =>
    cases h' with
    | field _ _ htext' => exact ih htext'
    | bitField _ hbit' _ _ => simp [hbit] at hbit'
    | unreadable h => simp [hobj, hbit] at h
  | bitField hobj hbit hconstruct _ ih =>
    cases h' with
    | field _ hbit' _ => simp [hbit'] at hbit
    | bitField _ _ hconstruct' htext' =>
      cases hconstruct.symm.trans hconstruct'
      exact ih htext'
    | unreadable h => simp [hobj, hconstruct] at h
  | unreadable h =>
    cases h' with
    | field hobj hbit _ => simp [hobj, hbit] at h
    | bitField hobj _ hconstruct _ => simp [hobj, hconstruct] at h
    | unreadable _ => rfl

theorem Renders.of_path {memory : Memory} {path path' : List SubobjectStep} {kind : LeafKind T}
    {obj : Address} {text : String}
    (h : Renders graph slot memory (.leaf ⟨path, kind, obj⟩) text) :
    Renders graph slot memory (.leaf ⟨path', kind, obj⟩) text := by
  cases h with
  | facet htext => exact .facet htext
  | field hobj hbit htext => exact .field hobj hbit htext
  | bitField hobj hbit hconstruct htext => exact .bitField hobj hbit hconstruct htext
  | unreadable h => exact .unreadable h

end

section
variable {graph : TypeGraph T}

def HasLeafVia (graph : TypeGraph T) (type : T) (obj : Address) (step : SubobjectStep)
    (leaf : Leaf T) : Prop :=
  HasLeaf graph type obj leaf ∧ leaf.path.head? = some step

theorem hasLeafVia_field_iff {type : T} {obj : Address} {index : Nat} {leaf : Leaf T} :
    HasLeafVia graph type obj (.field index) leaf ↔
      ∃ member, (graph.info type).members[index]? = some member ∧
        leaf = { path := [.field index], kind := .field member, object := obj } := by
  constructor
  · intro h
    obtain ⟨hleaf, hhead⟩ := h
    cases hleaf with
    | field hmember =>
      cases hhead
      exact ⟨_, hmember, rfl⟩
    | facet _ _ => cases hhead
    | base _ _ => cases hhead
  · intro h
    obtain ⟨member, hmember, rfl⟩ := h
    exact ⟨.field hmember, rfl⟩

theorem hasLeafVia_base_iff {type : T} {obj : Address} {index : Nat} {leaf : Leaf T} :
    HasLeafVia graph type obj (.base index) leaf ↔
      ∃ base, (graph.info type).bases[index]? = some base ∧
        ((graph.info base.typeInfo).rendersThroughFacet ∧
            leaf = { path := [.base index], kind := .facet base.typeInfo,
                     object := obj + base.offset } ∨
          ∃ inner, HasLeaf graph base.typeInfo (obj + base.offset) inner ∧
            inner.within index = leaf) := by
  constructor
  · intro h
    obtain ⟨hleaf, hhead⟩ := h
    cases hleaf with
    | field _ => cases hhead
    | facet hbase hfacet =>
      cases hhead
      exact ⟨_, hbase, .inl ⟨hfacet, rfl⟩⟩
    | base hbase hleaf =>
      cases hhead
      exact ⟨_, hbase, .inr ⟨_, hleaf, rfl⟩⟩
  · intro h
    obtain ⟨base, hbase, ⟨hfacet, rfl⟩ | ⟨inner, hinner, rfl⟩⟩ := h
    · exact ⟨.facet hbase hfacet, rfl⟩
    · exact ⟨.base hbase hinner, rfl⟩

theorem HasLeaf.via {type : T} {obj : Address} {leaf : Leaf T} (h : HasLeaf graph type obj leaf) :
    (∃ index, HasLeafVia graph type obj (.base index) leaf) ∨
      ∃ index, HasLeafVia graph type obj (.field index) leaf := by
  have hleaf := h
  cases h with
  | field _ => exact .inr ⟨_, hleaf, rfl⟩
  | facet _ _ => exact .inl ⟨_, hleaf, rfl⟩
  | base _ _ => exact .inl ⟨_, hleaf, rfl⟩

theorem HasLeaf.hasMembersToWalk {type : T} {obj : Address} {leaf : Leaf T}
    (h : HasLeaf graph type obj leaf) : (graph.info type).hasMembersToWalk := by
  have hne : ∀ {A : Type} {list : List A} {i : Nat} {a : A}, list[i]? = some a →
      list.isEmpty = false := by
    intro A list i a ha
    cases list with
    | nil => cases ha
    | cons _ _ => rfl
  cases h with
  | field hmember => simp [TypeInfo.hasMembersToWalk, hne hmember]
  | facet hbase _ => simp [TypeInfo.hasMembersToWalk, hne hbase]
  | base hbase _ => simp [TypeInfo.hasMembersToWalk, hne hbase]

end

/-- One entry, with its text, for each of the leaves, in order. -/
structure Collects (graph : TypeGraph T) (slot : Address) (memory : Memory)
    (leaves : Leaf T → Prop) (entries : List (Leaf T × String)) : Prop where
  ordered : entries.Pairwise fun a b => a.1.Precedes b.1
  complete : ∀ leaf, (∃ text, (leaf, text) ∈ entries) ↔ leaves leaf
  values : ∀ leaf text, (leaf, text) ∈ entries → Renders graph slot memory (.leaf leaf) text

theorem Leaf.precedes_of_head {a b : Leaf T} {step step' : SubobjectStep}
    (ha : a.path.head? = some step) (hb : b.path.head? = some step') (h : step.Before step') :
    a.Precedes b := by
  obtain ⟨rest, hrest⟩ := List.head?_eq_some_iff.mp ha
  obtain ⟨rest', hrest'⟩ := List.head?_eq_some_iff.mp hb
  rw [Leaf.Precedes, hrest, hrest']
  exact .rel h

namespace Collects
variable {graph : TypeGraph T} {slot : Address} {memory : Memory}

theorem congr {leaves leaves' : Leaf T → Prop} {entries : List (Leaf T × String)}
    (h : Collects graph slot memory leaves entries) (hiff : ∀ leaf, leaves leaf ↔ leaves' leaf) :
    Collects graph slot memory leaves' entries where
  ordered := h.ordered
  complete leaf := (h.complete leaf).trans (hiff leaf)
  values := h.values

theorem leaf_of_mem {leaves : Leaf T → Prop} {entries : List (Leaf T × String)}
    (h : Collects graph slot memory leaves entries) {entry : Leaf T × String}
    (hmem : entry ∈ entries) : leaves entry.1 :=
  (h.complete entry.1).mp ⟨entry.2, hmem⟩

theorem nil {leaves : Leaf T → Prop} (h : ∀ leaf, ¬ leaves leaf) :
    Collects graph slot memory leaves [] where
  ordered := .nil
  complete leaf := by
    refine iff_of_false ?_ (h leaf)
    intro hmem
    obtain ⟨_, hmem⟩ := hmem
    cases hmem
  values _ _ hmem := nomatch hmem

theorem singleton {leaves : Leaf T → Prop} {leaf : Leaf T} {text : String}
    (hleaf : ∀ other, leaves other ↔ other = leaf)
    (htext : Renders graph slot memory (.leaf leaf) text) :
    Collects graph slot memory leaves [(leaf, text)] where
  ordered := List.pairwise_singleton _ _
  complete other := by
    rw [hleaf]
    constructor
    · intro h
      obtain ⟨_, hmem⟩ := h
      cases List.mem_singleton.mp hmem
      rfl
    · intro h
      rw [h]
      exact ⟨text, List.mem_singleton_self _⟩
  values other text' hmem := by
    cases List.mem_singleton.mp hmem
    exact htext

theorem append {front back : Leaf T → Prop} {entries entries' : List (Leaf T × String)}
    (h : Collects graph slot memory front entries) (h' : Collects graph slot memory back entries')
    (hbefore : ∀ a b, front a → back b → a.Precedes b) :
    Collects graph slot memory (fun leaf => front leaf ∨ back leaf) (entries ++ entries') where
  ordered := by
    apply List.pairwise_append.mpr
    refine ⟨h.ordered, h'.ordered, ?_⟩
    intro a ha b hb
    exact hbefore a.1 b.1 (h.leaf_of_mem ha) (h'.leaf_of_mem hb)
  complete leaf := by
    rw [← h.complete leaf, ← h'.complete leaf, ← exists_or]
    exact exists_congr fun text => List.mem_append
  values leaf text hmem := by
    rcases List.mem_append.mp hmem with hmem | hmem
    · exact h.values leaf text hmem
    · exact h'.values leaf text hmem

theorem flatten {type : T} {obj : Address} {stepAt : Nat → SubobjectStep}
    (hsteps : ∀ i j, i < j → (stepAt i).Before (stepAt j))
    {blocks : List (List (Leaf T × String))}
    (h : ∀ i block, blocks[i]? = some block →
      Collects graph slot memory (HasLeafVia graph type obj (stepAt i)) block)
    (hlength : ∀ i leaf, HasLeafVia graph type obj (stepAt i) leaf → i < blocks.length) :
    Collects graph slot memory (fun leaf => ∃ i, HasLeafVia graph type obj (stepAt i) leaf)
      blocks.flatten where
  ordered := by
    apply pairwise_flatten_getElem?
    · exact fun i block hblock => (h i block hblock).ordered
    · intro i j front back hij hfront hback a ha b hb
      exact Leaf.precedes_of_head ((h i front hfront).leaf_of_mem ha).2
        ((h j back hback).leaf_of_mem hb).2 (hsteps i j hij)
  complete leaf := by
    constructor
    · intro hmem
      obtain ⟨text, hmem⟩ := hmem
      obtain ⟨i, block, hblock, hmem⟩ := mem_flatten_iff_getElem?.mp hmem
      exact ⟨i, (h i block hblock).leaf_of_mem hmem⟩
    · intro hleaf
      obtain ⟨i, hleaf⟩ := hleaf
      have hblock := List.getElem?_eq_getElem (hlength i leaf hleaf)
      obtain ⟨text, hmem⟩ := ((h i _ hblock).complete leaf).mpr hleaf
      exact ⟨text, mem_flatten_iff_getElem?.mpr ⟨i, _, hblock, hmem⟩⟩
  values leaf text hmem := by
    obtain ⟨i, block, hblock, hmem⟩ := mem_flatten_iff_getElem?.mp hmem
    exact (h i block hblock).values leaf text hmem

theorem within {leaves leaves' : Leaf T → Prop} {entries : List (Leaf T × String)} (index : Nat)
    (h : Collects graph slot memory leaves entries)
    (hleaves : ∀ leaf, leaves' leaf ↔ ∃ inner, leaves inner ∧ inner.within index = leaf) :
    Collects graph slot memory leaves'
      (entries.map fun entry => (entry.1.within index, entry.2)) where
  ordered := List.pairwise_map.mpr (h.ordered.imp fun hlex => .cons hlex)
  complete leaf := by
    rw [hleaves]
    constructor
    · intro hmem
      obtain ⟨text, hmem⟩ := hmem
      obtain ⟨entry, hentry, heq⟩ := List.mem_map.mp hmem
      cases heq
      exact ⟨entry.1, h.leaf_of_mem hentry, rfl⟩
    · intro hinner
      obtain ⟨inner, hinner, rfl⟩ := hinner
      obtain ⟨text, hmem⟩ := (h.complete inner).mpr hinner
      exact ⟨text, List.mem_map.mpr ⟨_, hmem, rfl⟩⟩
  values leaf text hmem := by
    obtain ⟨entry, hentry, heq⟩ := List.mem_map.mp hmem
    cases heq
    exact (h.values entry.1 entry.2 hentry).of_path

end Collects

end PlaygroundEngine.Reflection
