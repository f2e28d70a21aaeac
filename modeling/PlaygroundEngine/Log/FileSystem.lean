import Mathlib.Data.List.Infix
import Mathlib.Data.List.Lex
import Mathlib.Data.List.Nodup
import Mathlib.Order.Lattice
import PlaygroundEngine.Reflection.Enumeration

/-!
# The file system under the log

Regular files and directories at locations without links. The operating system may refuse any
call; a listing comes in no particular order.
-/

namespace PlaygroundEngine

set_option autoImplicit false

structure FileName where
  bytes : Bytes

/-- Paths in one directory compare by the bytes of their names. -/
instance fileNameLinearOrder : LinearOrder FileName :=
  LinearOrder.lift' (fun name => name.bytes.map UInt8.toNat) fun left right h => by
    have hbytes := List.map_injective_iff.mpr (fun a b => UInt8.toNat_inj.mp) h
    cases left
    cases right
    exact congrArg _ hbytes

def fileName (text : String) : FileName := ⟨bytesOf text⟩

/-- `path::extension` of one name: from its last dot on, which is not its first byte. -/
def FileName.extension (name : FileName) : Bytes :=
  let suffix := (name.bytes.reverse.takeWhile (· != '.'.val.toUInt8)).reverse
  if name = fileName ".." then []
  else if suffix.length + 2 ≤ name.bytes.length then '.'.val.toUInt8 :: suffix
  else []

/-- The elements of a path after its root. -/
structure Path where
  absolute : Bool
  names : List FileName
  deriving DecidableEq

namespace Path

def isEmpty (path : Path) : Bool := !path.absolute && path.names.isEmpty

def parentPath (path : Path) : Path := { path with names := path.names.dropLast }

def filename (path : Path) : FileName := path.names.getLastD ⟨[]⟩

def append (path : Path) (name : FileName) : Path := { path with names := path.names ++ [name] }

end Path

/-- The names from the root on. -/
abbrev Location := List FileName

def enterName (location : Location) (name : FileName) : Location :=
  if name = fileName "" ∨ name = fileName "." then location
  else if name = fileName ".." then location.dropLast
  else location ++ [name]

def Path.locate (workingDirectory : Location) (path : Path) : Location :=
  path.names.foldl enterName (if path.absolute then [] else workingDirectory)

inductive Node where
  | file (contents : Bytes)
  | directory
  deriving DecidableEq

structure FileSystem where
  entries : List (Location × Node)
  distinct : (entries.map (·.1)).Nodup

namespace FileSystem

def node (files : FileSystem) (location : Location) : Option Node :=
  (files.entries.find? fun entry => entry.1 == location).map (·.2)

def removeEntry (files : FileSystem) (location : Location) : FileSystem where
  entries := files.entries.filter fun entry => entry.1 != location
  distinct := files.distinct.sublist (List.filter_sublist.map _)

def put (files : FileSystem) (location : Location) (node : Node) : FileSystem where
  entries := (files.removeEntry location).entries ++ [(location, node)]
  distinct := by
    rw [List.map_append, List.nodup_append]
    refine ⟨(files.removeEntry location).distinct, by simp, ?_⟩
    intro other hother last hlast
    obtain ⟨entry, hentry, rfl⟩ := List.mem_map.mp hother
    have hne : entry.1 ≠ location := by simpa using (List.mem_filter.mp hentry).2
    simpa [List.mem_singleton.mp hlast] using hne

def names (files : FileSystem) (location : Location) : List FileName :=
  files.entries.filterMap fun entry =>
    if entry.1.dropLast = location then entry.1.getLast? else none

theorem node_eq_some_iff {files : FileSystem} {location : Location} {node : Node} :
    files.node location = some node ↔ (location, node) ∈ files.entries := by
  obtain ⟨entries, hdistinct⟩ := files
  simp only [FileSystem.node]
  induction entries with
  | nil => simp
  | cons first rest ih =>
    obtain ⟨hfresh, hrest⟩ := List.nodup_cons.mp hdistinct
    by_cases heq : first.1 = location
    · subst heq
      have hlater : (first.1, node) ∉ rest := fun h => hfresh (List.mem_map.mpr ⟨_, h, rfl⟩)
      simp only [List.find?_cons, BEq.rfl, List.mem_cons, hlater, or_false, Option.map_some,
        Option.some.injEq]
      constructor
      · rintro rfl
        rfl
      · intro h
        exact (congrArg Prod.snd h).symm
    · have hne : (location, node) ≠ first := fun h => heq (congrArg Prod.fst h).symm
      simpa [List.find?_cons, heq, hne] using ih hrest

@[simp] theorem node_removeEntry (files : FileSystem) (location other : Location) :
    (files.removeEntry location).node other =
      if other = location then none else files.node other := by
  ext node
  rw [node_eq_some_iff]
  by_cases heq : other = location
  · simp [removeEntry, heq]
  · simp [removeEntry, heq, ← node_eq_some_iff]

@[simp] theorem node_put (files : FileSystem) (location other : Location) (node : Node) :
    (files.put location node).node other =
      if other = location then some node else files.node other := by
  ext found
  rw [node_eq_some_iff]
  by_cases heq : other = location
  · simp [put, removeEntry, heq, eq_comm]
  · simp [put, removeEntry, heq, ← node_eq_some_iff]

theorem getLast_of_parent {location other : Location} {name : FileName} :
    (if other.dropLast = location then other.getLast? else none) = some name ↔
      other = location ++ [name] := by
  constructor
  · intro h
    split at h
    · rename_i hparent
      rw [← hparent, List.dropLast_append_getLast? name h]
    · cases h
  · rintro rfl
    simp

theorem mem_names {files : FileSystem} {location : Location} {name : FileName} :
    name ∈ files.names location ↔ (files.node (location ++ [name])).isSome := by
  simp only [names, List.mem_filterMap, getLast_of_parent, Option.isSome_iff_exists,
    node_eq_some_iff]
  constructor
  · intro hgiven
    obtain ⟨⟨other, node⟩, hmem, rfl⟩ := hgiven
    exact ⟨node, hmem⟩
  · intro hgiven
    obtain ⟨node, hmem⟩ := hgiven
    exact ⟨(location ++ [name], node), hmem, rfl⟩

theorem nodup_names (files : FileSystem) (location : Location) :
    (files.names location).Nodup := by
  obtain ⟨entries, hdistinct⟩ := files
  simp only [names]
  induction entries with
  | nil => simp
  | cons first rest ih =>
    obtain ⟨hfresh, hrest⟩ := List.nodup_cons.mp hdistinct
    rw [List.filterMap_cons]
    split
    · exact ih hrest
    · rename_i name hname
      refine List.nodup_cons.mpr ⟨?_, ih hrest⟩
      intro hmem
      obtain ⟨other, hother, hsame⟩ := List.mem_filterMap.mp hmem
      rw [getLast_of_parent] at hname hsame
      exact hfresh (List.mem_map.mpr ⟨other, hother, hsame.trans hname.symm⟩)

end FileSystem

end PlaygroundEngine
