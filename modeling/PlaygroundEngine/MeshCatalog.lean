import PlaygroundEngine.Library.SortedMap
import PlaygroundEngine.Reflection.Enumeration
import Mathlib.Data.List.Lex

/-!
# Mesh handles

The catalog from paths to handles, and the renderer's mesh table that issues
them. A handle is one more than an index into the table, cut to 32 bits.
-/

namespace PlaygroundEngine

open Library
set_option autoImplicit false

/-- A string, ordered byte by byte. -/
structure Text where
  bytes : Bytes
  deriving DecidableEq

theorem Text.toNat_injective :
    Function.Injective fun text : Text => text.bytes.map UInt8.toNat := by
  intro a b h
  have hbytes : a.bytes = b.bytes := List.map_injective_iff.mpr (fun _ _ => UInt8.toNat_inj.mp) h
  cases a
  cases b
  exact congrArg Text.mk hbytes

instance textLinearOrder : LinearOrder Text :=
  LinearOrder.lift' (fun text => text.bytes.map UInt8.toNat) Text.toNat_injective

structure MeshHandle where
  index : UInt32 := 0
  deriving DecidableEq

def MeshHandle.invalidIndex : UInt32 := 0

structure MeshCatalog where
  handlesPerPath : SortedMap Text MeshHandle := .empty

namespace MeshCatalog

def find (catalog : MeshCatalog) (path : Text) : MeshHandle :=
  (catalog.handlesPerPath.find? path).getD {}

def contains (catalog : MeshCatalog) (path : Text) : Bool :=
  catalog.handlesPerPath.contains path

def insert (catalog : MeshCatalog) (path : Text) (handle : MeshHandle) : MeshCatalog :=
  ⟨catalog.handlesPerPath.insert path handle⟩

theorem contains_iff (catalog : MeshCatalog) (path : Text) :
    catalog.contains path ↔ ∃ handle, catalog.handlesPerPath.find? path = some handle := by
  rw [contains, SortedMap.contains_eq, Option.isSome_iff_exists]

theorem find_insert (catalog : MeshCatalog) (path path' : Text) (handle : MeshHandle) :
    (catalog.insert path handle).find path' =
      if path' = path then handle else catalog.find path' := by
  rw [find, insert, SortedMap.find?_insert]
  split
  · rfl
  · rfl

theorem contains_insert (catalog : MeshCatalog) (path path' : Text) (handle : MeshHandle) :
    (catalog.insert path handle).contains path' ↔ path' = path ∨ catalog.contains path' := by
  rw [contains_iff, contains_iff, insert, SortedMap.find?_insert]
  split
  · rename_i heq
    exact ⟨fun _ => Or.inl heq, fun _ => ⟨handle, rfl⟩⟩
  · rename_i hne
    exact ⟨Or.inr, fun h => h.resolve_left hne⟩

end MeshCatalog

/-- The renderer's meshes, and what every acquisition so far came to. -/
structure MeshTable (M : Type) where
  meshes : List M := []
  acquisitions : List (Text × Option M) := []

namespace MeshTable

variable {M : Type}

/-- `load` is what the `n`-th call makes of a file: the uploaded mesh, or `none` where reading or
uploading fails. The answer is `none` for an error. -/
def acquireMesh (table : MeshTable M) (load : Nat → Text → Option M) (modelFileName : Text) :
    Option MeshHandle × MeshTable M :=
  match load table.acquisitions.length modelFileName with
  | none => (none, { table with acquisitions := table.acquisitions ++ [(modelFileName, none)] })
  | some mesh =>
    let meshes := table.meshes ++ [mesh]
    (some ⟨UInt32.ofNat meshes.length⟩,
      { meshes, acquisitions := table.acquisitions ++ [(modelFileName, some mesh)] })

def loaded (table : MeshTable M) : List (Text × M) :=
  table.acquisitions.filterMap fun acquisition =>
    acquisition.2.map fun mesh => (acquisition.1, mesh)

end MeshTable

end PlaygroundEngine
