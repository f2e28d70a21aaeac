import PlaygroundEngine.Library.Interning
import PlaygroundEngine.Reflection.Enumeration
import Mathlib.Data.List.AList
import Mathlib.Data.List.Forall2

/-!
# Meshes from Wavefront text

The index triples of all shapes are merged onto one vertex list. The reader is a
library of its own, so a document is whatever it hands back; its indices are not
promised to be inside the attribute arrays.
-/

namespace PlaygroundEngine

open Library
set_option autoImplicit false

structure Vec3 (F : Type) where
  x : F
  y : F
  z : F
  deriving DecidableEq

structure Vec2 (F : Type) where
  x : F
  y : F
  deriving DecidableEq

structure MeshVertex (F : Type) where
  position : Vec3 F
  normal : Vec3 F
  textureCoordinate : Vec2 F
  deriving DecidableEq

structure Mesh (F : Type) where
  vertices : List (MeshVertex F) := []
  indices : List UInt32 := []

inductive MeshError where
  | parseFailed
  | noGeometry
  deriving DecidableEq

structure Attributes (F : Type) where
  vertices : List F
  normals : List F
  texcoords : List F

/-- A negative index stands for an omitted attribute. -/
structure ObjectIndex where
  vertexIndex : Int32
  normalIndex : Int32
  texcoordIndex : Int32
  deriving DecidableEq

structure ObjectDocument (F : Type) where
  attributes : Attributes F
  shapes : List (List ObjectIndex)

def ObjectDocument.triples {F : Type} (document : ObjectDocument F) : List ObjectIndex :=
  document.shapes.flatten

structure VertexIndexKey where
  positionIndex : Int32
  normalIndex : Int32
  textureCoordinateIndex : Int32
  deriving DecidableEq

def ObjectIndex.key (index : ObjectIndex) : VertexIndexKey :=
  ⟨index.vertexIndex, index.normalIndex, index.texcoordIndex⟩

theorem ObjectIndex.key_inj {a b : ObjectIndex} : a.key = b.key ↔ a = b := by
  constructor
  · intro h
    cases a
    cases b
    cases h
    rfl
  · exact congrArg ObjectIndex.key

variable {F : Type}

/-- Three numbers from an offset on; `none` is a read outside of the array. -/
def readVec3 (values : List F) (offset : Nat) : Option (Vec3 F) := do
  let x ← values[offset]?
  let y ← values[offset + 1]?
  let z ← values[offset + 2]?
  return ⟨x, y, z⟩

/-- The second coordinate is flipped to a top-left origin. -/
def readTextureCoordinate [One F] [Sub F] (values : List F) (offset : Nat) : Option (Vec2 F) := do
  let x ← values[offset]?
  let y ← values[offset + 1]?
  return ⟨x, 1 - y⟩

variable [Zero F]

/-- A position or a normal. An offset is at most three times an `int`, so it does not wrap. -/
def attributeVec3 (values : List F) (index : Int32) : Option (Vec3 F) :=
  if 0 ≤ index.toInt then readVec3 values (3 * index.toInt.toNat) else some ⟨0, 0, 0⟩

def attributeTextureCoordinate [One F] [Sub F] (values : List F) (index : Int32) :
    Option (Vec2 F) :=
  if 0 ≤ index.toInt then readTextureCoordinate values (2 * index.toInt.toNat) else some ⟨0, 0⟩

variable [One F] [Sub F]

def makeVertex (attributes : Attributes F) (index : ObjectIndex) : Option (MeshVertex F) := do
  let position ← attributeVec3 attributes.vertices index.vertexIndex
  let normal ← attributeVec3 attributes.normals index.normalIndex
  let textureCoordinate ← attributeTextureCoordinate attributes.texcoords index.texcoordIndex
  return ⟨position, normal, textureCoordinate⟩

/-- The mesh so far, and the index of each key that was met. -/
structure MeshBuilder (F : Type) where
  mesh : Mesh F := {}
  vertexIndices : AList fun _ : VertexIndexKey => UInt32 := ∅

def addIndex (attributes : Attributes F) (builder : MeshBuilder F) (index : ObjectIndex) :
    Option (MeshBuilder F) :=
  match builder.vertexIndices.lookup index.key with
  | some existingIndex =>
    some { builder with
      mesh := { builder.mesh with indices := builder.mesh.indices ++ [existingIndex] } }
  | none => do
    let newIndex := UInt32.ofNat builder.mesh.vertices.length
    let vertex ← makeVertex attributes index
    return {
      mesh := {
        vertices := builder.mesh.vertices ++ [vertex]
        indices := builder.mesh.indices ++ [newIndex] }
      vertexIndices := builder.vertexIndices.insert index.key newIndex }

/-- `parseFromString` is the reader, without a document where it fails. The outcome is
`none` when an attribute array is read outside of its bounds. -/
def parseWavefrontMesh (parseFromString : Bytes → Option (ObjectDocument F))
    (objectText : Bytes) : Option (Except MeshError (Mesh F)) :=
  match parseFromString objectText with
  | none => some (.error .parseFailed)
  | some document => do
    let builder ← document.shapes.foldlM
      (fun builder shape => shape.foldlM (addIndex document.attributes) builder) {}
    if builder.mesh.indices.isEmpty then return .error .noGeometry
    return .ok builder.mesh

/-- An index that is given names an entry of `width` numbers of its array. -/
def IndexInside (width : Nat) (values : List F) (index : Int32) : Prop :=
  0 ≤ index.toInt → width * index.toInt.toNat + width ≤ values.length

structure Inside (attributes : Attributes F) (index : ObjectIndex) : Prop where
  vertices : IndexInside 3 attributes.vertices index.vertexIndex
  normals : IndexInside 3 attributes.normals index.normalIndex
  texcoords : IndexInside 2 attributes.texcoords index.texcoordIndex

omit [Zero F] [One F] [Sub F] in
theorem readVec3_isSome_iff (values : List F) (offset : Nat) :
    (readVec3 values offset).isSome ↔ offset + 3 ≤ values.length := by
  unfold readVec3
  constructor
  · intro h
    by_contra hshort
    have hlast : values[offset + 2]? = none := List.getElem?_eq_none (by omega)
    rw [hlast] at h
    cases hx : values[offset]? <;> cases hy : values[offset + 1]? <;> simp [hx, hy] at h
  · intro h
    have hx : offset < values.length := by omega
    have hy : offset + 1 < values.length := by omega
    have hz : offset + 2 < values.length := by omega
    simp [hx, hy, hz]

omit [Zero F] in
theorem readTextureCoordinate_isSome_iff (values : List F) (offset : Nat) :
    (readTextureCoordinate values offset).isSome ↔ offset + 2 ≤ values.length := by
  unfold readTextureCoordinate
  constructor
  · intro h
    by_contra hshort
    have hlast : values[offset + 1]? = none := List.getElem?_eq_none (by omega)
    rw [hlast] at h
    cases hx : values[offset]? <;> simp [hx] at h
  · intro h
    have hx : offset < values.length := by omega
    have hy : offset + 1 < values.length := by omega
    simp [hx, hy]

omit [One F] [Sub F] in
theorem attributeVec3_isSome_iff (values : List F) (index : Int32) :
    (attributeVec3 values index).isSome ↔ IndexInside 3 values index := by
  rw [attributeVec3, IndexInside]
  split
  · rename_i hgiven
    rw [readVec3_isSome_iff]
    exact ⟨fun h _ => h, fun h => h hgiven⟩
  · rename_i homitted
    exact ⟨fun _ h => absurd h homitted, fun _ => rfl⟩

theorem attributeTextureCoordinate_isSome_iff (values : List F) (index : Int32) :
    (attributeTextureCoordinate values index).isSome ↔ IndexInside 2 values index := by
  rw [attributeTextureCoordinate, IndexInside]
  split
  · rename_i hgiven
    rw [readTextureCoordinate_isSome_iff]
    exact ⟨fun h _ => h, fun h => h hgiven⟩
  · rename_i homitted
    exact ⟨fun _ h => absurd h homitted, fun _ => rfl⟩

theorem makeVertex_isSome_iff (attributes : Attributes F) (index : ObjectIndex) :
    (makeVertex attributes index).isSome ↔ Inside attributes index := by
  have hsplit : (makeVertex attributes index).isSome ↔
      (attributeVec3 attributes.vertices index.vertexIndex).isSome ∧
      (attributeVec3 attributes.normals index.normalIndex).isSome ∧
      (attributeTextureCoordinate attributes.texcoords index.texcoordIndex).isSome := by
    unfold makeVertex
    cases attributeVec3 attributes.vertices index.vertexIndex with
    | none => simp
    | some position =>
      cases attributeVec3 attributes.normals index.normalIndex with
      | none => simp
      | some normal =>
        cases attributeTextureCoordinate attributes.texcoords index.texcoordIndex with
        | none => simp
        | some textureCoordinate => simp
  rw [hsplit, attributeVec3_isSome_iff, attributeVec3_isSome_iff,
    attributeTextureCoordinate_isSome_iff]
  exact ⟨fun h => ⟨h.1, h.2.1, h.2.2⟩, fun h => ⟨h.vertices, h.normals, h.texcoords⟩⟩

end PlaygroundEngine
