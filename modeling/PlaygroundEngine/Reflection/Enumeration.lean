import Mathlib.Data.UInt

/-!
# Reflected enumerations

The enumerator table of one enumeration type and the typed name lookups over it.
Identifiers are the bytes of the source spelling.
-/

namespace PlaygroundEngine

set_option autoImplicit false

abbrev Bytes := List UInt8

def bytesOf (text : String) : Bytes := text.toList.map fun c => c.val.toUInt8

namespace Reflection

variable {E : Type}

structure EnumeratorInfo (E : Type) where
  identifier : Bytes
  value : E
  deriving DecidableEq

/-- A scope declares an identifier once, while two enumerators may share a value. -/
structure EnumerationFacet (E : Type) where
  enumerators : List (EnumeratorInfo E)
  distinct : (enumerators.map (·.identifier)).Nodup

namespace EnumerationFacet

def findByIdentifier (facet : EnumerationFacet E) (identifier : Bytes) :
    Option (EnumeratorInfo E) :=
  facet.enumerators.find? fun enumerator => enumerator.identifier == identifier

/-- The first declared of the aliases wins. -/
def findByValue [DecidableEq E] (facet : EnumerationFacet E) (value : E) :
    Option (EnumeratorInfo E) :=
  facet.enumerators.find? fun enumerator => enumerator.value == value

def enumToName [DecidableEq E] (facet : EnumerationFacet E) (value : E) : Option Bytes :=
  (facet.findByValue value).map (·.identifier)

def enumFromName (facet : EnumerationFacet E) (identifier : Bytes) : Option E :=
  (facet.findByIdentifier identifier).map (·.value)

theorem find?_identifier {enumerators : List (EnumeratorInfo E)}
    (hdistinct : (enumerators.map (·.identifier)).Nodup) {enumerator : EnumeratorInfo E}
    (hmem : enumerator ∈ enumerators) :
    enumerators.find? (fun e => e.identifier == enumerator.identifier) = some enumerator := by
  induction enumerators with
  | nil => cases hmem
  | cons first rest ih =>
    obtain ⟨hfresh, hrest⟩ := List.nodup_cons.mp hdistinct
    rcases List.mem_cons.mp hmem with rfl | hmem
    · rw [List.find?_cons_of_pos (by simp)]
    · rw [List.find?_cons_of_neg, ih hrest hmem]
      intro heq
      exact hfresh (List.mem_map.mpr ⟨enumerator, hmem, (eq_of_beq heq).symm⟩)

theorem enumFromName_eq_some (facet : EnumerationFacet E) (identifier : Bytes) (value : E) :
    facet.enumFromName identifier = some value ↔ ⟨identifier, value⟩ ∈ facet.enumerators := by
  unfold enumFromName findByIdentifier
  constructor
  · intro h
    obtain ⟨enumerator, hfind, rfl⟩ := Option.map_eq_some_iff.mp h
    have hname := List.find?_some hfind
    rw [← eq_of_beq hname]
    exact List.mem_of_find?_eq_some hfind
  · intro h
    rw [find?_identifier facet.distinct h]
    rfl

theorem enumFromName_enumToName [DecidableEq E] {facet : EnumerationFacet E} {value : E}
    {identifier : Bytes} (h : facet.enumToName value = some identifier) :
    facet.enumFromName identifier = some value := by
  obtain ⟨enumerator, hfind, rfl⟩ := Option.map_eq_some_iff.mp h
  have hvalue := List.find?_some hfind
  rw [enumFromName_eq_some, ← eq_of_beq hvalue]
  exact List.mem_of_find?_eq_some hfind

end EnumerationFacet

end Reflection

end PlaygroundEngine
