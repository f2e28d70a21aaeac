import PlaygroundEngine.Mesh

/-!
# Merging index triples onto one vertex list

The builder numbers the triples by their first occurrence. It goes on exactly as
long as every triple stays inside the attribute arrays.
-/

namespace PlaygroundEngine

open Library
set_option autoImplicit false

variable {F : Type} [Zero F] [One F] [Sub F]

def vertexNumber (triples : List ObjectIndex) (index : ObjectIndex) : UInt32 :=
  UInt32.ofNat (internIndex triples index)

structure Builds (attributes : Attributes F) (triples : List ObjectIndex)
    (builder : MeshBuilder F) : Prop where
  vertices : List.Forall₂ (fun index vertex => makeVertex attributes index = some vertex)
    (firstOccurrences triples) builder.mesh.vertices
  indices : builder.mesh.indices = triples.map (vertexNumber triples)
  vertexIndices : ∀ index, builder.vertexIndices.lookup index.key =
    if index ∈ triples then some (vertexNumber triples index) else none

theorem vertexNumber_concat {triples : List ObjectIndex} {index : ObjectIndex}
    (h : index ∈ triples) (last : ObjectIndex) :
    vertexNumber (triples ++ [last]) index = vertexNumber triples index :=
  congrArg UInt32.ofNat (internIndex_concat h last)

theorem map_vertexNumber_concat (triples : List ObjectIndex) (last : ObjectIndex) :
    (triples ++ [last]).map (vertexNumber (triples ++ [last])) =
      triples.map (vertexNumber triples) ++ [vertexNumber (triples ++ [last]) last] := by
  rw [List.map_append, List.map_singleton]
  congr 1
  apply List.map_congr_left
  intro index hindex
  exact vertexNumber_concat hindex last

theorem knownNumber_concat {triples : List ObjectIndex} {index other : ObjectIndex}
    (h : other ∈ triples ∨ other ≠ index) :
    (if other ∈ triples ++ [index] then some (vertexNumber (triples ++ [index]) other)
      else none) = if other ∈ triples then some (vertexNumber triples other) else none := by
  by_cases hother : other ∈ triples
  · rw [if_pos hother, if_pos (List.mem_append_left _ hother), vertexNumber_concat hother]
  · have hnone : other ∉ triples ++ [index] := by
      rw [List.mem_append, List.mem_singleton]
      rintro (hmem | hsame)
      · exact hother hmem
      · exact (h.resolve_left hother) hsame
    rw [if_neg hother, if_neg hnone]

theorem Builds.nil (attributes : Attributes F) : Builds attributes [] ({} : MeshBuilder F) where
  vertices := List.Forall₂.nil
  indices := rfl
  vertexIndices := fun _ => rfl

section Step
variable {attributes : Attributes F} {triples : List ObjectIndex} {builder : MeshBuilder F}

/-- Whatever is in the mesh was read inside the arrays. -/
theorem Builds.inside (h : Builds attributes triples builder) {index : ObjectIndex}
    (hindex : index ∈ triples) : Inside attributes index := by
  rw [← mem_firstOccurrences] at hindex
  obtain ⟨position, hposition, hget⟩ := List.getElem_of_mem hindex
  have hvertex := h.vertices.get hposition (h.vertices.length_eq ▸ hposition)
  rw [← makeVertex_isSome_iff, ← hget]
  exact Option.isSome_of_eq_some hvertex

theorem addIndex_old (h : Builds attributes triples builder) {index : ObjectIndex}
    (hindex : index ∈ triples) :
    ∃ builder', addIndex attributes builder index = some builder' ∧
      Builds attributes (triples ++ [index]) builder' := by
  have hlookup := h.vertexIndices index
  rw [if_pos hindex] at hlookup
  refine ⟨_, by rw [addIndex, hlookup], ?_, ?_, ?_⟩
  · rw [firstOccurrences_concat_old hindex]
    exact h.vertices
  · rw [map_vertexNumber_concat, vertexNumber_concat hindex]
    exact congrArg (· ++ [vertexNumber triples index]) h.indices
  · intro other
    show builder.vertexIndices.lookup other.key = _
    rw [h.vertexIndices other, knownNumber_concat]
    by_cases hother : other ∈ triples
    · exact Or.inl hother
    · refine Or.inr fun hsame => hother ?_
      rw [hsame]
      exact hindex

theorem addIndex_new (h : Builds attributes triples builder) {index : ObjectIndex}
    (hindex : index ∉ triples) {vertex : MeshVertex F}
    (hvertex : makeVertex attributes index = some vertex) :
    ∃ builder', addIndex attributes builder index = some builder' ∧
      Builds attributes (triples ++ [index]) builder' := by
  have hlookup := h.vertexIndices index
  rw [if_neg hindex] at hlookup
  have hnumber : UInt32.ofNat builder.mesh.vertices.length =
      vertexNumber (triples ++ [index]) index := by
    rw [vertexNumber, internIndex_concat_new hindex, h.vertices.length_eq]
  refine ⟨_, by rw [addIndex, hlookup, hvertex]; rfl, ?_, ?_, ?_⟩
  · rw [firstOccurrences_concat_new hindex]
    exact List.rel_append h.vertices (List.Forall₂.cons hvertex List.Forall₂.nil)
  · rw [map_vertexNumber_concat, ← hnumber]
    exact congrArg (· ++ [UInt32.ofNat builder.mesh.vertices.length]) h.indices
  · intro other
    show (builder.vertexIndices.insert index.key _).lookup other.key = _
    by_cases hsame : other = index
    · subst hsame
      rw [AList.lookup_insert, if_pos (List.mem_append_right _ (List.mem_singleton_self _)),
        hnumber]
    · rw [AList.lookup_insert_ne (fun hkey => hsame (ObjectIndex.key_inj.mp hkey)),
        h.vertexIndices other, knownNumber_concat (Or.inr hsame)]

theorem addIndex_outside (h : Builds attributes triples builder) {index : ObjectIndex}
    (houtside : ¬ Inside attributes index) : addIndex attributes builder index = none := by
  have hindex : index ∉ triples := fun hmem => houtside (h.inside hmem)
  have hlookup := h.vertexIndices index
  rw [if_neg hindex] at hlookup
  have hvertex : makeVertex attributes index = none := by
    rw [← makeVertex_isSome_iff, Bool.not_eq_true, Option.isSome_eq_false_iff,
      Option.isNone_iff_eq_none] at houtside
    exact houtside
  rw [addIndex, hlookup, hvertex]
  rfl

theorem addIndex_inside (h : Builds attributes triples builder) {index : ObjectIndex}
    (hinside : Inside attributes index) :
    ∃ builder', addIndex attributes builder index = some builder' ∧
      Builds attributes (triples ++ [index]) builder' := by
  by_cases hindex : index ∈ triples
  · exact addIndex_old h hindex
  · rw [← makeVertex_isSome_iff, Option.isSome_iff_exists] at hinside
    obtain ⟨vertex, hvertex⟩ := hinside
    exact addIndex_new h hindex hvertex

end Step

theorem addShapes_eq (attributes : Attributes F) (shapes : List (List ObjectIndex))
    (builder : MeshBuilder F) :
    shapes.foldlM (fun builder shape => shape.foldlM (addIndex attributes) builder) builder =
      shapes.flatten.foldlM (addIndex attributes) builder := by
  induction shapes generalizing builder with
  | nil => rfl
  | cons shape shapes ih =>
    rw [List.foldlM_cons, List.flatten_cons, List.foldlM_append]
    exact congrArg _ (funext ih)

theorem addTriples_concat (attributes : Attributes F) (triples : List ObjectIndex)
    (last : ObjectIndex) (builder : MeshBuilder F) :
    (triples ++ [last]).foldlM (addIndex attributes) builder =
      (triples.foldlM (addIndex attributes) builder).bind
        (fun builder => addIndex attributes builder last) := by
  rw [List.foldlM_append]
  apply congrArg (Option.bind _)
  funext builder
  exact Option.bind_fun_some (addIndex attributes builder last)

theorem addTriples_inside {attributes : Attributes F} {triples : List ObjectIndex}
    (hinside : ∀ index ∈ triples, Inside attributes index) :
    ∃ builder, triples.foldlM (addIndex attributes) {} = some builder ∧
      Builds attributes triples builder := by
  induction triples using List.reverseRecOn with
  | nil => exact ⟨{}, rfl, Builds.nil attributes⟩
  | append_singleton triples last ih =>
    obtain ⟨builder, hrun, hbuilds⟩ :=
      ih (fun index hindex => hinside index (List.mem_append_left _ hindex))
    have hlast := hinside last (List.mem_append_right _ (List.mem_singleton_self last))
    obtain ⟨builder', hstep, hbuilds'⟩ := addIndex_inside hbuilds hlast
    refine ⟨builder', ?_, hbuilds'⟩
    rw [addTriples_concat, hrun]
    exact hstep

theorem addTriples_builds {attributes : Attributes F} {triples : List ObjectIndex}
    {builder : MeshBuilder F} (hrun : triples.foldlM (addIndex attributes) {} = some builder) :
    Builds attributes triples builder := by
  induction triples using List.reverseRecOn generalizing builder with
  | nil =>
    cases hrun
    exact Builds.nil attributes
  | append_singleton triples last ih =>
    rw [addTriples_concat, Option.bind_eq_some_iff] at hrun
    obtain ⟨before, hbefore, hlast⟩ := hrun
    by_cases hinside : Inside attributes last
    · obtain ⟨after, hstep, hbuilds⟩ := addIndex_inside (ih hbefore) hinside
      rw [hstep] at hlast
      cases hlast
      exact hbuilds
    · rw [addIndex_outside (ih hbefore) hinside] at hlast
      exact absurd hlast.symm (Option.some_ne_none builder)

theorem parseWavefrontMesh_document {parseFromString : Bytes → Option (ObjectDocument F)}
    {objectText : Bytes} {document : ObjectDocument F}
    (hparsed : parseFromString objectText = some document) :
    parseWavefrontMesh parseFromString objectText =
      (document.triples.foldlM (addIndex document.attributes) {}).bind fun builder =>
        if builder.mesh.indices.isEmpty then some (.error .noGeometry)
        else some (.ok builder.mesh) := by
  rw [parseWavefrontMesh, hparsed, ObjectDocument.triples, ← addShapes_eq]
  rfl

/-- A mesh that holds each triple once and names every triple's vertex in order. -/
structure Merges (attributes : Attributes F) (triples : List ObjectIndex) (mesh : Mesh F) :
    Prop where
  length : mesh.indices.length = triples.length
  bounded : ∀ number ∈ mesh.indices, number.toNat < mesh.vertices.length
  vertex : ∀ (k : Nat) (index : ObjectIndex), triples[k]? = some index →
    ∃ (number : UInt32) (vertex : MeshVertex F), mesh.indices[k]? = some number ∧
      mesh.vertices[number.toNat]? = some vertex ∧ makeVertex attributes index = some vertex
  shared : ∀ j k : Nat, j < triples.length → k < triples.length →
    (mesh.indices[j]? = mesh.indices[k]? ↔ triples[j]? = triples[k]?)
  ordered : ∃ distinct : List ObjectIndex,
    distinct.Nodup ∧ (∀ index, index ∈ distinct ↔ index ∈ triples) ∧
      (distinct.Pairwise fun a b => triples.idxOf a < triples.idxOf b) ∧
      List.Forall₂ (fun index vertex => makeVertex attributes index = some vertex)
        distinct mesh.vertices

section Merged
variable {attributes : Attributes F} {triples : List ObjectIndex} {builder : MeshBuilder F}

theorem vertexNumber_toNat (hcount : triples.dedup.length < 2 ^ 32) {index : ObjectIndex}
    (hindex : index ∈ triples) :
    (vertexNumber triples index).toNat = internIndex triples index := by
  have hlt := internIndex_lt hindex
  rw [length_firstOccurrences] at hlt
  exact UInt32.toNat_ofNat_of_lt' (Nat.lt_trans hlt hcount)

theorem vertexNumber_inj (hcount : triples.dedup.length < 2 ^ 32) {a b : ObjectIndex}
    (ha : a ∈ triples) (hb : b ∈ triples) :
    vertexNumber triples a = vertexNumber triples b ↔ a = b := by
  rw [← UInt32.toNat_inj, vertexNumber_toNat hcount ha, vertexNumber_toNat hcount hb,
    internIndex_inj ha]

theorem Builds.vertexAt (h : Builds attributes triples builder)
    (hcount : triples.dedup.length < 2 ^ 32) {index : ObjectIndex} (hindex : index ∈ triples) :
    ∃ vertex, builder.mesh.vertices[(vertexNumber triples index).toNat]? = some vertex ∧
      makeVertex attributes index = some vertex := by
  rw [vertexNumber_toNat hcount hindex]
  have hfirst := internIndex_lt hindex
  have hplace : internIndex triples index < builder.mesh.vertices.length := by
    rw [← h.vertices.length_eq]
    exact hfirst
  have hown := h.vertices.get hfirst hplace
  rw [List.get_eq_getElem, List.get_eq_getElem] at hown
  refine ⟨_, List.getElem?_eq_getElem hplace, ?_⟩
  rw [← hown]
  congr 1
  exact (List.getElem_idxOf hfirst).symm

theorem Builds.merges (h : Builds attributes triples builder)
    (hcount : triples.dedup.length < 2 ^ 32) : Merges attributes triples builder.mesh where
  length := by rw [h.indices, List.length_map]
  bounded := by
    intro number hnumber
    rw [h.indices, List.mem_map] at hnumber
    obtain ⟨index, hindex, rfl⟩ := hnumber
    obtain ⟨vertex, hvertex, _⟩ := h.vertexAt hcount hindex
    exact (List.getElem?_eq_some_iff.mp hvertex).1
  vertex := by
    intro k index hk
    obtain ⟨vertex, hvertex, hmake⟩ := h.vertexAt hcount (List.mem_of_getElem? hk)
    refine ⟨vertexNumber triples index, vertex, ?_, hvertex, hmake⟩
    rw [h.indices, List.getElem?_map, hk]
    rfl
  shared := by
    intro j k hj hk
    rw [h.indices, List.getElem?_map, List.getElem?_map, List.getElem?_eq_getElem hj,
      List.getElem?_eq_getElem hk, Option.map_some, Option.map_some, Option.some_inj,
      Option.some_inj]
    exact vertexNumber_inj hcount (List.getElem_mem hj) (List.getElem_mem hk)
  ordered := ⟨firstOccurrences triples, nodup_firstOccurrences triples,
    mem_firstOccurrences triples, firstOccurrences_ascending triples, h.vertices⟩

end Merged

/-- Of triples inside the arrays the parse makes the merged mesh, unless there are none. -/
theorem parseWavefrontMesh_merges (parseFromString : Bytes → Option (ObjectDocument F))
    (objectText : Bytes) (document : ObjectDocument F)
    (hparsed : parseFromString objectText = some document)
    (hcount : document.triples.dedup.length < 2 ^ 32)
    (hinside : ∀ index ∈ document.triples, Inside document.attributes index) :
    (parseWavefrontMesh parseFromString objectText = some (.error .noGeometry) ↔
      document.triples = []) ∧
    (document.triples ≠ [] → ∃ mesh, parseWavefrontMesh parseFromString objectText =
      some (.ok mesh) ∧ Merges document.attributes document.triples mesh) := by
  obtain ⟨builder, hrun, hbuilds⟩ := addTriples_inside hinside
  have hresult := parseWavefrontMesh_document hparsed
  rw [hrun, Option.bind_some] at hresult
  by_cases hnone : document.triples = []
  · have hempty : builder.mesh.indices.isEmpty := by
      rw [hbuilds.indices, hnone]
      rfl
    rw [if_pos hempty] at hresult
    exact ⟨⟨fun _ => hnone, fun _ => hresult⟩, fun hsome => absurd hnone hsome⟩
  · have hempty : ¬ builder.mesh.indices.isEmpty := by
      rw [hbuilds.indices, List.isEmpty_iff, List.map_eq_nil_iff]
      exact hnone
    rw [if_neg hempty] at hresult
    refine ⟨⟨fun hno => ?_, fun h => absurd h hnone⟩,
      fun _ => ⟨builder.mesh, hresult, hbuilds.merges hcount⟩⟩
    rw [hresult] at hno
    cases hno

def square : ObjectDocument Int where
  attributes := ⟨[-1, -1, 0, 1, -1, 0, 1, 1, 0, -1, 1, 0], [0, 0, 1], [0, 0, 1, 0, 1, 1, 0, 1]⟩
  shapes := [[⟨0, 0, 0⟩, ⟨1, 0, 1⟩, ⟨2, 0, 2⟩], [⟨0, 0, 0⟩, ⟨2, 0, 2⟩, ⟨3, 0, 3⟩]]

def squareText : Bytes :=
  bytesOf "v -1 -1 0\nv 1 -1 0\nv 1 1 0\nv -1 1 0\nvt 0 0\nvt 1 0\nvt 1 1\nvt 0 1\nvn 0 0 1\n" ++
    bytesOf "o lower\nf 1/1/1 2/2/1 3/3/1\no upper\nf 1/1/1 3/3/1 4/4/1\n"

def readSquare (text : Bytes) : Option (ObjectDocument Int) :=
  if text = squareText then some square else none

theorem parseWavefrontMesh_square :
    square.triples ≠ [] ∧ ∃ mesh, parseWavefrontMesh readSquare squareText =
      some (.ok mesh) ∧ Merges square.attributes square.triples mesh := by
  have hsome : square.triples ≠ [] := by decide
  have hcount : square.triples.dedup.length < 2 ^ 32 := by decide
  have hinside : ∀ index ∈ square.triples, Inside square.attributes index := by
    intro index hindex
    rw [← makeVertex_isSome_iff]
    revert index
    decide
  exact ⟨hsome, (parseWavefrontMesh_merges readSquare squareText square (if_pos rfl) hcount
    hinside).2 hsome⟩

/-- The parse stays inside the attribute arrays exactly where the reader's indices do. -/
theorem parseWavefrontMesh_isSome_iff (parseFromString : Bytes → Option (ObjectDocument F))
    (objectText : Bytes) :
    (parseWavefrontMesh parseFromString objectText).isSome ↔
      ∀ document, parseFromString objectText = some document →
        ∀ index ∈ document.triples, Inside document.attributes index := by
  cases hparsed : parseFromString objectText with
  | none =>
    rw [parseWavefrontMesh, hparsed]
    exact ⟨fun _ document h => absurd h.symm (Option.some_ne_none document), fun _ => rfl⟩
  | some document =>
    rw [parseWavefrontMesh_document hparsed]
    constructor
    · intro hsome other hother index hindex
      cases hother
      cases hrun : document.triples.foldlM (addIndex document.attributes)
          ({} : MeshBuilder F) with
      | none =>
        rw [hrun] at hsome
        exact absurd hsome Bool.false_ne_true
      | some builder => exact (addTriples_builds hrun).inside hindex
    · intro hinside
      obtain ⟨builder, hrun, _⟩ := addTriples_inside (hinside document rfl)
      rw [hrun, Option.bind_some]
      split <;> rfl

/-- What the reader makes of one face `f 1 2 3` where no position is declared. -/
def undeclaredPositions : ObjectDocument Int where
  attributes := ⟨[], [], []⟩
  shapes := [[⟨0, -1, -1⟩, ⟨1, -1, -1⟩, ⟨2, -1, -1⟩]]

def readUndeclared (text : Bytes) : Option (ObjectDocument Int) :=
  if text = bytesOf "f 1 2 3" then some undeclaredPositions else none

theorem parseWavefrontMesh_undeclared :
    ¬ (parseWavefrontMesh readUndeclared (bytesOf "f 1 2 3")).isSome := by
  rw [parseWavefrontMesh, readUndeclared, if_pos rfl]
  decide

end PlaygroundEngine
