import Mathlib.Data.List.MinMax
import PlaygroundEngine.DebugUi.PanelRows
import PlaygroundEngine.Library.Unfolding

/-!
# Drawing an object to its end

Only an expanded row leads further into the objects, and each one lengthens the id path, so the
depth of the expanded rows bounds the walk; between two rows it climbs a type's bases.
-/

namespace PlaygroundEngine.DebugUi

open Library Reflection
set_option autoImplicit false

variable {T : Type} [DecidableEq T]

def idDepth (scopes : List (Scope T)) : Nat := (scopes.filterMap Scope.widgetId).length

/-- The length of the longest path of an expanded row. -/
def ImGui.openDepth (imgui : ImGui T) : Nat := (imgui.openRows.map List.length).foldr max 0

omit [DecidableEq T] in
theorem length_le_openDepth {imgui : ImGui T} {path : List (WidgetId T)}
    (hpath : path ∈ imgui.openRows) : path.length ≤ imgui.openDepth :=
  List.le_max_of_le' 0 (List.mem_map_of_mem hpath) (Nat.le_refl _)

/-- The borrow is drawn in the scopes of at least this depth. -/
def DrawsFrom {A : Type} (graph : TypeGraph T) (root : TypedRef T) (initial : Memory) (depth : Nat)
    (draw : TypedRef T → Draw T A) : Prop :=
  ∀ scopes ref, depth ≤ idDepth scopes → Reaches graph root ref →
    Keeps graph root initial scopes (draw ref)

theorem DrawsFrom.mono {A : Type} {graph : TypeGraph T} {root : TypedRef T} {initial : Memory}
    {depth depth' : Nat} {draw : TypedRef T → Draw T A}
    (h : DrawsFrom graph root initial depth draw) (hle : depth ≤ depth') :
    DrawsFrom graph root initial depth' draw :=
  fun scopes ref hdepth => h scopes ref (Nat.le_trans hle hdepth)

abbrev DebugPanel.graph (panel : DebugPanel T) : TypeGraph T := panel.types.toTypeGraph

section
variable {panel : DebugPanel T} {root ref object : TypedRef T} {initial : Memory}
  {scopes : List (Scope T)} {drawValue : String → TypedRef T → Draw T Unit}
  {drawAnnotatedFields : TypedRef T → Draw T Bool}

theorem drawElement_keeps {graph : TypeGraph T}
    (hvalue : ∀ label, DrawsFrom graph root initial (idDepth scopes) (drawValue label))
    (href : Reaches graph root ref) (sequence : SequenceDeclaration T) (index : Nat) :
    Keeps graph root initial scopes (DebugPanel.drawElement drawValue sequence ref index) := by
  unfold DebugPanel.drawElement
  refine (returns_call rfl rfl).seq ?_
  refine (returns_answer _).bind fun element => Returns.given fun helement => ?_
  obtain ⟨state, _, rfl⟩ := helement
  refine (hvalue _ _ _ (Nat.le_succ _) (href.elementRef sequence _ _)).seq ?_
  exact returns_call rfl rfl

theorem drawBaseContents_keeps {base : TypedRef T} {baseType : T}
    (hvalue : ∀ label, DrawsFrom panel.graph root initial (idDepth scopes) (drawValue label))
    (hfields : Keeps panel.graph root initial scopes (drawAnnotatedFields base))
    (hbase : Reaches panel.graph root base) :
    Keeps panel.graph root initial scopes
      (panel.drawBaseContents drawValue drawAnnotatedFields base baseType) := by
  unfold DebugPanel.drawBaseContents
  split
  · exact hfields
  · refine (hvalue _ _ _ (Nat.le_refl _) hbase).seq ?_
    exact Returns.done _

theorem drawBase_keeps {base : BaseInfo T}
    (hvalue : ∀ label, DrawsFrom panel.graph root initial (idDepth scopes) (drawValue label))
    (hfields : ∀ scopes', idDepth scopes ≤ idDepth scopes' →
      Keeps panel.graph root initial scopes' (drawAnnotatedFields (base.upcast object)))
    (hobject : Reaches panel.graph root object) (drewAnnotatedField : Bool) :
    Keeps panel.graph root initial scopes
      (panel.drawBase drawValue drawAnnotatedFields object drewAnnotatedField base) := by
  have hdepth : idDepth scopes ≤ idDepth (.pushedId (.type base.typeInfo) :: scopes) :=
    Nat.le_succ _
  unfold DebugPanel.drawBase
  refine (returns_call rfl rfl).seq ?_
  refine (drawBaseContents_keeps (fun label => (hvalue label).mono hdepth) (hfields _ hdepth)
    (hobject.upcast base)).bind fun drew => ?_
  refine (returns_call rfl rfl).seq ?_
  exact Returns.done _

theorem drawFieldValue_keeps {graph : TypeGraph T}
    (hvalue : ∀ label, DrawsFrom graph root initial (idDepth scopes) (drawValue label))
    (label : String) {result : Except FieldError (TypedRef T)}
    (hresult : ∀ ref, result = .ok ref → Reaches graph root ref) :
    Keeps graph root initial scopes (DebugPanel.drawFieldValue drawValue label result) := by
  cases result with
  | error error => exact drawDisabledText_keeps _ _
  | ok ref => exact hvalue _ _ _ (Nat.le_refl _) (hresult ref rfl)

theorem drawField_keeps
    (hvalue : ∀ label, DrawsFrom panel.graph root initial (idDepth scopes) (drawValue label))
    (hobject : Reaches panel.graph root object) (drewAnnotatedField : Bool)
    (member : MemberDeclaration T) :
    Keeps panel.graph root initial scopes
      (panel.drawField drawValue object drewAnnotatedField member) := by
  unfold DebugPanel.drawField
  split
  · refine (returns_through hobject (careful_getRef member)).bind fun result =>
      Returns.given fun hresult => ?_
    obtain ⟨memory, rfl⟩ := hresult
    refine (drawFieldValue_keeps hvalue _ fun ref href => ?_).seq ?_
    · have hmember : (Hop.fieldRef member).follow panel.graph memory object = some ref := by
        rw [Hop.follow, href]
        rfl
      exact hobject.follow hmember
    · exact Returns.done _
  · exact Returns.done _

theorem drawFields_keeps {graph : TypeGraph T}
    (hfields : Keeps graph root initial scopes (drawAnnotatedFields ref)) :
    Keeps graph root initial scopes (DebugPanel.drawFields drawAnnotatedFields ref) := by
  unfold DebugPanel.drawFields
  refine hfields.bind fun drewAnnotatedField => ?_
  split
  · refine (returns_call rfl rfl).seq ?_
    refine (returns_call rfl rfl).seq ?_
    exact returns_call rfl rfl
  · exact Returns.done _

theorem drawContents_keeps
    (hvalue : ∀ label, DrawsFrom panel.graph root initial (idDepth scopes) (drawValue label))
    (hfields : DrawsFrom panel.graph root initial (idDepth scopes) drawAnnotatedFields)
    (href : Reaches panel.graph root ref) (htype : ref.type.isSome) :
    Keeps panel.graph root initial scopes
      (panel.drawContents drawValue drawAnnotatedFields ref) := by
  obtain ⟨type, htype⟩ := Option.isSome_iff_exists.mp htype
  unfold DebugPanel.drawContents
  rw [htype]
  dsimp only
  split
  · exact drawFields_keeps (hfields _ _ (Nat.le_refl _) href)
  · exact hvalue _ _ _ (Nat.le_refl _) href

/-- What a row at this depth leads to, when it is expanded. -/
structure Expands (panel : DebugPanel T) (root : TypedRef T) (initial : Memory) (depth : Nat)
    (drawValue : String → TypedRef T → Draw T Unit)
    (drawAnnotatedFields : TypedRef T → Draw T Bool) : Prop where
  value : ∀ label, DrawsFrom panel.graph root initial (depth + 1) (drawValue label)
  fields : DrawsFrom panel.graph root initial (depth + 1) drawAnnotatedFields

theorem drawSequence_keeps
    (hopen : idDepth scopes < panel.imgui.openDepth →
      Expands panel root initial (idDepth scopes) drawValue drawAnnotatedFields)
    (href : Reaches panel.graph root ref) (label : String) (sequence : SequenceDeclaration T) :
    Keeps panel.graph root initial scopes (panel.drawSequence drawValue label sequence ref) := by
  unfold DebugPanel.drawSequence
  refine (keeps_answer _).bind fun size => ?_
  refine (returns_beginTreeRow panel label).bind fun isOpen => Returns.given fun hpath => ?_
  refine (returns_call rfl rfl).seq ?_
  cases isOpen with
  | false => exact Returns.done _
  | true =>
    have hbelow := hopen (length_le_openDepth (hpath rfl))
    refine (Returns.forM fun index _ => ?_).seq (returns_call rfl rfl)
    exact drawElement_keeps hbelow.value href sequence index

theorem drawPointer_keeps
    (hopen : idDepth scopes < panel.imgui.openDepth →
      Expands panel root initial (idDepth scopes) drawValue drawAnnotatedFields)
    (href : Reaches panel.graph root ref) (label : String) :
    Keeps panel.graph root initial scopes
      (panel.drawPointer drawValue drawAnnotatedFields label ref) := by
  unfold DebugPanel.drawPointer
  refine (returns_answer _).bind fun pointee => Returns.given fun hpointee => ?_
  obtain ⟨state, _, hpointee⟩ := hpointee
  cases pointee with
  | error error => exact drawDisabledText_keeps _ _
  | ok pointee =>
    have hfollow : Hop.dereference.follow panel.graph state.memory ref = some pointee := by
      rw [Hop.follow, ← hpointee]
      rfl
    refine (returns_beginTreeRow panel label).bind fun isOpen => Returns.given fun hpath => ?_
    refine (returns_call rfl rfl).seq ?_
    cases isOpen with
    | false => exact Returns.done _
    | true =>
      have hbelow := hopen (length_le_openDepth (hpath rfl))
      refine (drawContents_keeps hbelow.value hbelow.fields (href.follow hfollow)
        (follow_spec hfollow).1).seq ?_
      exact returns_call rfl rfl

theorem drawClass_keeps
    (hopen : idDepth scopes < panel.imgui.openDepth →
      Expands panel root initial (idDepth scopes) drawValue drawAnnotatedFields)
    (href : Reaches panel.graph root ref) (label : String) :
    Keeps panel.graph root initial scopes (panel.drawClass drawAnnotatedFields label ref) := by
  unfold DebugPanel.drawClass
  refine (returns_beginTreeRow panel label).bind fun isOpen => Returns.given fun hpath => ?_
  cases isOpen with
  | false => exact Returns.done _
  | true =>
    have hbelow := hopen (length_le_openDepth (hpath rfl))
    refine (drawFields_keeps (hbelow.fields _ _ (Nat.le_refl _) href)).seq ?_
    exact returns_call rfl rfl

/-- A type that is drawn as its text renders it without a walk over elements. -/
theorem drawText_keeps {type : T} {graph : TypeGraph T}
    (hsequence : (panel.types.facets type).findSome? Facet.asSequence = none)
    (toString : Memory → TypedRef T → Option String) (label : String) (ref : TypedRef T) :
    Keeps graph root initial scopes (panel.drawText toString label type ref) := by
  have hstringify : ∀ memory obj, ∃ text,
      (panel.types.info type).stringify (toString memory) memory obj = some text := by
    intro memory obj
    unfold TypeInfo.stringify
    split
    · exact ⟨_, rfl⟩
    · exact ⟨_, rfl⟩
    · rename_i container hthunk
      have hfacet := panel.types.stringify_sequence type container hthunk
      rw [hsequence] at hfacet
      cases hfacet
  have htext : Keeps graph root initial scopes (fun state =>
      if (panel.types.info type).canStringify then
        ((panel.types.info type).stringify (toString state.memory) state.memory ref.data).map
          fun text => (cString text, state)
      else some ("<unsupported>", state) : Draw T String) := by
    intro state hstate
    obtain ⟨text, htext⟩ := hstringify state.memory ref.data
    dsimp only
    split
    · exact ⟨cString text, state, by rw [htext]; rfl, hstate⟩
    · exact ⟨_, state, rfl, hstate⟩
  exact htext.bind fun text => drawDisabledText_keeps label text

theorem drawByType_keeps
    (hopen : idDepth scopes < panel.imgui.openDepth →
      Expands panel root initial (idDepth scopes) drawValue drawAnnotatedFields)
    (href : Reaches panel.graph root ref) (toString : Memory → TypedRef T → Option String)
    (label : String) (type : T) :
    Keeps panel.graph root initial scopes
      (panel.drawByType drawValue drawAnnotatedFields toString label type ref) := by
  unfold DebugPanel.drawByType
  split
  · exact drawEnumeration_keeps panel href label _
  · split
    · exact drawString_keeps panel href label _
    · split
      · exact drawSequence_keeps hopen href label _
      · rename_i hsequence
        split
        · exact drawPointer_keeps hopen href label
        · exact drawDisabledText_keeps label _
        · exact drawClass_keeps hopen href label
        · exact drawText_keeps hsequence toString label ref

theorem drawValue_keeps {fuel : Nat}
    (hopen : idDepth scopes < panel.imgui.openDepth →
      Expands panel root initial (idDepth scopes) (panel.drawValue fuel)
        (panel.drawAnnotatedFields fuel))
    (href : Reaches panel.graph root ref) (htype : ref.type.isSome) (label : String) :
    Keeps panel.graph root initial scopes (panel.drawValue (fuel + 1) label ref) := by
  obtain ⟨type, htype⟩ := Option.isSome_iff_exists.mp htype
  unfold DebugPanel.drawValue
  refine (tryDrawBuiltin_keeps panel href label).bind fun drawn => ?_
  split
  · exact Returns.done _
  · rw [htype]
    exact drawByType_keeps hopen href _ label type

theorem drawAnnotatedFields_keeps {fuel : Nat} {type : T} (htype : object.type = some type)
    (hvalue : ∀ label,
      DrawsFrom panel.graph root initial (idDepth scopes) (panel.drawValue fuel label))
    (hbases : ∀ base ∈ (panel.types.info type).bases, ∀ scopes', idDepth scopes ≤ idDepth scopes' →
      Keeps panel.graph root initial scopes'
        (panel.drawAnnotatedFields fuel (base.upcast object)))
    (hobject : Reaches panel.graph root object) :
    Keeps panel.graph root initial scopes (panel.drawAnnotatedFields (fuel + 1) object) := by
  unfold DebugPanel.drawAnnotatedFields
  rw [htype]
  refine (Returns.foldlM (fun drew base hbase => ?_) false).bind fun drew => ?_
  · exact drawBase_keeps hvalue (hbases base hbase) hobject drew
  · exact Returns.foldlM (fun drew member _ => drawField_keeps hvalue hobject drew member) _

/-- The fuel that the rows below may take, when no type has more generations of bases. -/
def fuelBelow (panel : DebugPanel T) (height : Nat) (scopes : List (Scope T)) : Nat :=
  (panel.imgui.openDepth - idDepth scopes) * (height + 2)

omit [DecidableEq T] in
theorem fuelBelow_le (panel : DebugPanel T) (height : Nat) {scopes' : List (Scope T)}
    (hdepth : idDepth scopes ≤ idDepth scopes') :
    fuelBelow panel height scopes' ≤ fuelBelow panel height scopes :=
  Nat.mul_le_mul_right _ (Nat.sub_le_sub_left hdepth _)

omit [DecidableEq T] in
/-- An expanded row pays for one walk of bases and the rows on it. -/
theorem fuelBelow_expanded (height : Nat) {scopes' : List (Scope T)}
    (hopen : idDepth scopes < panel.imgui.openDepth)
    (hdepth : idDepth scopes + 1 ≤ idDepth scopes') :
    fuelBelow panel height scopes' + height + 2 ≤ fuelBelow panel height scopes := by
  have hlevels : panel.imgui.openDepth - idDepth scopes' + 1 ≤
      panel.imgui.openDepth - idDepth scopes := by omega
  calc fuelBelow panel height scopes' + height + 2
      = (panel.imgui.openDepth - idDepth scopes' + 1) * (height + 2) := by
        rw [fuelBelow, Nat.add_mul, Nat.one_mul, Nat.add_assoc]
    _ ≤ fuelBelow panel height scopes := Nat.mul_le_mul_right _ hlevels

variable {height : Nat}

/-- A row takes what the rows below it take, a walk over the bases also a unit for each generation
of the type. -/
theorem draws_of_fuel
    (hheight : ∀ type, UnfoldsWithin (HasBase panel.graph) height type)
    (hroot : root.type.isSome) (fuel : Nat) :
    (∀ scopes label ref, fuelBelow panel height scopes + 1 ≤ fuel → Reaches panel.graph root ref →
      Keeps panel.graph root initial scopes (panel.drawValue fuel label ref)) ∧
    (∀ scopes object type generations, object.type = some type →
      UnfoldsWithin (HasBase panel.graph) generations type →
      fuelBelow panel height scopes + generations + 1 ≤ fuel → Reaches panel.graph root object →
      Keeps panel.graph root initial scopes (panel.drawAnnotatedFields fuel object)) := by
  induction fuel with
  | zero =>
    constructor
    · intro scopes label ref hfuel
      omega
    · intro scopes object type generations _ _ hfuel
      omega
  | succ fuel ih =>
    obtain ⟨ihValue, ihFields⟩ := ih
    constructor
    · intro scopes label ref hfuel href
      refine drawValue_keeps (fun hopen => ⟨?_, ?_⟩) href (href.type hroot) label
      · intro label' scopes' ref' hdepth href'
        have hbelow := fuelBelow_expanded height hopen hdepth
        exact ihValue scopes' label' ref' (by omega) href'
      · intro scopes' object hdepth hobject
        have hbelow := fuelBelow_expanded height hopen hdepth
        obtain ⟨type, htype⟩ := Option.isSome_iff_exists.mp (hobject.type hroot)
        exact ihFields scopes' object type height htype (hheight type) (by omega) hobject
    · intro scopes object type generations htype hunfolds hfuel hobject
      cases generations with
      | zero => cases hunfolds
      | succ generations =>
        refine drawAnnotatedFields_keeps htype ?_ ?_ hobject
        · intro label scopes' ref' hdepth href'
          have hle := fuelBelow_le panel height hdepth
          exact ihValue scopes' label ref' (by omega) href'
        · intro base hbase scopes' hdepth
          have hle := fuelBelow_le panel height hdepth
          exact ihFields scopes' _ base.typeInfo generations rfl (hunfolds _ ⟨base, hbase, rfl⟩)
            (by omega) (hobject.upcast base)

end

end PlaygroundEngine.DebugUi
