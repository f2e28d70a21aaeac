import PlaygroundEngine.Ecs.Consistency
import PlaygroundEngine.RenderExtraction

/-!
# Keeping the catalog in step with the world

The per-frame path from mesh components to drawn meshes, over any run of frames.
Worlds change arbitrarily from frame to frame, and so do the paths in them.
-/

namespace PlaygroundEngine

open Library Reflection
set_option autoImplicit false

variable {T : Type} [LinearOrder T] {F : Type} [FloatNumber F] {M : Type}
  (load : Nat → Text → Option M)

/-- The stores of the engine that a mesh passes through. -/
structure MeshStores (M : Type) (F : Type) [FloatNumber F] where
  catalog : MeshCatalog := {}
  table : MeshTable M := {}
  frame : ExtractedFrame F := {}

def syncMesh (stores : MeshStores M F) (path : Text) : MeshStores M F :=
  if stores.catalog.contains path then stores
  else
    let (acquired, table) := stores.table.acquireMesh load path
    { stores with catalog := stores.catalog.insert path (acquired.getD {}), table }

def syncMeshCatalog (world : World T F) (stores : MeshStores M F) :
    MeshStores M F :=
  (world.ecs.getComponents world.meshType).foldl
    (fun stores mesh => syncMesh load stores (world.meshComponent mesh).meshPath) stores

/-- The mesh part of a step: the catalog first, then the frame that is read from it. -/
def stepMeshes (stores : MeshStores M F) (world : World T F) :
    MeshStores M F :=
  let stores := syncMeshCatalog load world stores
  { stores with frame := extractFrame world stores.catalog stores.frame }

def runMeshes (worlds : List (World T F)) : MeshStores M F :=
  worlds.foldl (stepMeshes load) {}

def recordMeshes (table : MeshTable M) (frame : ExtractedFrame F) : List (M × Transform F) :=
  frame.meshes.filterMap fun extracted =>
    if extracted.mesh.index = MeshHandle.invalidIndex ∨
        table.meshes.length < extracted.mesh.index.toNat then none
    else (table.meshes[extracted.mesh.index.toNat - 1]?).map (·, extracted.placement)

structure Tracks (catalog : MeshCatalog) (table : MeshTable M) : Prop where
  attempted : ∀ path, catalog.contains path ↔ path ∈ table.acquisitions.map Prod.fst
  once : (table.acquisitions.map Prod.fst).Nodup
  meshes : table.meshes = table.loaded.map Prod.snd
  failed : ∀ path, (path, none) ∈ table.acquisitions → catalog.find path = {}
  handle : ∀ (k : Nat) (path : Text) (mesh : M), table.loaded[k]? = some (path, mesh) →
    catalog.find path = ⟨UInt32.ofNat (k + 1)⟩

theorem tracks_empty : Tracks ({} : MeshCatalog) ({} : MeshTable M) where
  attempted := fun _ => ⟨(fun h => nomatch h), fun h => nomatch h⟩
  once := List.nodup_nil
  meshes := rfl
  failed := fun _ h => nomatch h
  handle := fun _ _ _ h => nomatch h

theorem mem_loaded {table : MeshTable M} {path : Text} {mesh : M} :
    (path, mesh) ∈ table.loaded ↔ (path, some mesh) ∈ table.acquisitions := by
  constructor
  · intro h
    obtain ⟨acquisition, hmem, heq⟩ := List.mem_filterMap.mp h
    obtain ⟨mesh', hmesh, hpair⟩ := Option.map_eq_some_iff.mp heq
    obtain ⟨rfl, rfl⟩ := Prod.mk.inj hpair
    rw [← hmesh]
    exact hmem
  · intro h
    exact List.mem_filterMap.mpr ⟨(path, some mesh), h, rfl⟩

namespace Tracks

variable {catalog : MeshCatalog} {table : MeshTable M}

theorem fresh (h : Tracks catalog table) {path : Text} (hnew : ¬ catalog.contains path)
    {path' : Text} {outcome : Option M} (hmem : (path', outcome) ∈ table.acquisitions) :
    path' ≠ path := by
  intro heq
  subst heq
  exact hnew ((h.attempted path').mpr (List.mem_map.mpr ⟨_, hmem, rfl⟩))

theorem find_old (h : Tracks catalog table) {path : Text} (hnew : ¬ catalog.contains path)
    (handle : MeshHandle) {path' : Text} {outcome : Option M}
    (hmem : (path', outcome) ∈ table.acquisitions) :
    (catalog.insert path handle).find path' = catalog.find path' := by
  rw [MeshCatalog.find_insert, if_neg (h.fresh hnew hmem)]

theorem once_append (h : Tracks catalog table) {path : Text} (hnew : ¬ catalog.contains path)
    (outcome : Option M) :
    ((table.acquisitions ++ [(path, outcome)]).map Prod.fst).Nodup := by
  rw [List.map_append, List.map_singleton]
  refine List.Nodup.append h.once (List.nodup_singleton path) ?_
  intro path' hold hpath
  rw [List.mem_singleton.mp hpath] at hold
  exact hnew ((h.attempted path).mpr hold)

theorem attempted_append (h : Tracks catalog table) (path : Text) (handle : MeshHandle)
    (outcome : Option M) (path' : Text) :
    (catalog.insert path handle).contains path' ↔
      path' ∈ (table.acquisitions ++ [(path, outcome)]).map Prod.fst := by
  rw [MeshCatalog.contains_insert, h.attempted, List.map_append, List.map_singleton,
    List.mem_append, List.mem_singleton, or_comm]

theorem insertFailed (h : Tracks catalog table) {path : Text} (hnew : ¬ catalog.contains path) :
    Tracks (catalog.insert path {})
      { table with acquisitions := table.acquisitions ++ [(path, none)] } := by
  have hloaded : MeshTable.loaded
      { table with acquisitions := table.acquisitions ++ [(path, none)] } = table.loaded := by
    simp only [MeshTable.loaded, List.filterMap_append]
    exact List.append_nil _
  refine ⟨h.attempted_append path {} none, h.once_append hnew none, ?_, ?_, ?_⟩
  · rw [hloaded]
    exact h.meshes
  · intro path' hmem
    rcases List.mem_append.mp hmem with hold | hlast
    · rw [h.find_old hnew {} hold]
      exact h.failed path' hold
    · obtain ⟨rfl, _⟩ := Prod.mk.inj (List.mem_singleton.mp hlast)
      rw [MeshCatalog.find_insert, if_pos rfl]
  · intro k path' mesh hk
    rw [hloaded] at hk
    have hmem := mem_loaded.mp (List.mem_of_getElem? hk)
    rw [h.find_old hnew {} hmem]
    exact h.handle k path' mesh hk

theorem insertLoaded (h : Tracks catalog table) {path : Text} (hnew : ¬ catalog.contains path)
    (mesh : M) :
    Tracks (catalog.insert path ⟨UInt32.ofNat (table.meshes ++ [mesh]).length⟩)
      { meshes := table.meshes ++ [mesh]
        acquisitions := table.acquisitions ++ [(path, some mesh)] } := by
  have hloaded : MeshTable.loaded
      { meshes := table.meshes ++ [mesh]
        acquisitions := table.acquisitions ++ [(path, some mesh)] } =
      table.loaded ++ [(path, mesh)] := by
    simp only [MeshTable.loaded, List.filterMap_append]
    rfl
  have hlength : (table.meshes ++ [mesh]).length = table.loaded.length + 1 := by
    rw [List.length_append, h.meshes, List.length_map]
    rfl
  refine ⟨h.attempted_append path _ (some mesh), h.once_append hnew (some mesh), ?_, ?_, ?_⟩
  · rw [hloaded, List.map_append, h.meshes]
    rfl
  · intro path' hmem
    rcases List.mem_append.mp hmem with hold | hlast
    · rw [h.find_old hnew _ hold]
      exact h.failed path' hold
    · cases (Prod.mk.inj (List.mem_singleton.mp hlast)).2
  · intro k path' mesh' hk
    rw [hloaded] at hk
    rcases Nat.lt_trichotomy k table.loaded.length with hlt | heq | hgt
    · rw [List.getElem?_append_left hlt] at hk
      have hmem := mem_loaded.mp (List.mem_of_getElem? hk)
      rw [h.find_old hnew _ hmem]
      exact h.handle k path' mesh' hk
    · subst heq
      rw [List.getElem?_concat_length] at hk
      obtain ⟨rfl, rfl⟩ := Prod.mk.inj (Option.some.inj hk)
      rw [MeshCatalog.find_insert, if_pos rfl, hlength]
    · rw [List.getElem?_eq_none (by rw [List.length_append, List.length_singleton]; omega)] at hk
      cases hk

end Tracks

/-! ### One step and a run -/

theorem tracks_syncMesh {stores : MeshStores M F}
    (h : Tracks stores.catalog stores.table) (path : Text) :
    Tracks (syncMesh load stores path).catalog (syncMesh load stores path).table := by
  unfold syncMesh
  split
  · exact h
  · rename_i hnew
    simp only [MeshTable.acquireMesh]
    cases load stores.table.acquisitions.length path with
    | none => exact h.insertFailed hnew
    | some mesh => exact h.insertLoaded hnew mesh

theorem contains_syncMesh (stores : MeshStores M F) (path path' : Text) :
    (syncMesh load stores path).catalog.contains path' ↔
      path' = path ∨ stores.catalog.contains path' := by
  unfold syncMesh
  split
  · rename_i hold
    constructor
    · exact Or.inr
    · intro h
      rcases h with rfl | h
      · exact hold
      · exact h
  · exact MeshCatalog.contains_insert _ _ _ _

theorem acquisitions_syncMesh (stores : MeshStores M F) (path : Text) :
    stores.table.acquisitions <+: (syncMesh load stores path).table.acquisitions := by
  unfold syncMesh
  split
  · exact List.prefix_refl _
  · simp only [MeshTable.acquireMesh]
    cases load stores.table.acquisitions.length path with
    | none => exact List.prefix_append _ _
    | some mesh => exact List.prefix_append _ _

theorem syncMesh_foldl (paths : List Text) {stores : MeshStores M F}
    (h : Tracks stores.catalog stores.table) :
    Tracks (paths.foldl (syncMesh load) stores).catalog
        (paths.foldl (syncMesh load) stores).table ∧
      stores.table.acquisitions <+: (paths.foldl (syncMesh load) stores).table.acquisitions ∧
      ∀ path, (paths.foldl (syncMesh load) stores).catalog.contains path ↔
        path ∈ paths ∨ stores.catalog.contains path := by
  induction paths generalizing stores with
  | nil => exact ⟨h, List.prefix_refl _, fun path => ⟨Or.inr, fun h => h.resolve_left nofun⟩⟩
  | cons first rest ih =>
    obtain ⟨htracks, hprefix, hcontains⟩ := ih (tracks_syncMesh load h first)
    refine ⟨htracks, (acquisitions_syncMesh load stores first).trans hprefix, ?_⟩
    intro path
    rw [List.foldl_cons, hcontains, contains_syncMesh, List.mem_cons, or_left_comm, or_assoc]

theorem syncMeshCatalog_eq (world : World T F) (stores : MeshStores M F) :
    syncMeshCatalog load world stores =
      ((world.ecs.getComponents world.meshType).map
        fun mesh => (world.meshComponent mesh).meshPath).foldl (syncMesh load) stores := by
  rw [syncMeshCatalog, List.foldl_map]

theorem tracks_stepMeshes {stores : MeshStores M F}
    (h : Tracks stores.catalog stores.table) (world : World T F) :
    Tracks (stepMeshes load stores world).catalog (stepMeshes load stores world).table ∧
      stores.table.acquisitions <+: (stepMeshes load stores world).table.acquisitions := by
  simp only [stepMeshes, syncMeshCatalog_eq]
  obtain ⟨htracks, hprefix, _⟩ := syncMesh_foldl load _ h
  exact ⟨htracks, hprefix⟩

theorem tracks_foldl (worlds : List (World T F)) {stores : MeshStores M F}
    (h : Tracks stores.catalog stores.table) :
    Tracks (worlds.foldl (stepMeshes load) stores).catalog
        (worlds.foldl (stepMeshes load) stores).table ∧
      stores.table.acquisitions <+:
        (worlds.foldl (stepMeshes load) stores).table.acquisitions := by
  induction worlds generalizing stores with
  | nil => exact ⟨h, List.prefix_refl _⟩
  | cons world worlds ih =>
    obtain ⟨htracks, hprefix⟩ := tracks_stepMeshes load h world
    obtain ⟨hrun, hrest⟩ := ih htracks
    exact ⟨hrun, hprefix.trans hrest⟩

theorem tracks_runMeshes (worlds : List (World T F)) :
    Tracks (runMeshes load worlds : MeshStores M F).catalog (runMeshes load worlds).table :=
  (tracks_foldl load worlds tracks_empty).1

theorem acquisitions_runMeshes (before after : List (World T F)) :
    (runMeshes load before : MeshStores M F).table.acquisitions <+:
      (runMeshes load (before ++ after)).table.acquisitions := by
  rw [runMeshes, runMeshes, List.foldl_append]
  exact (tracks_foldl load after (tracks_runMeshes load before)).2

theorem runMeshes_concat (worlds : List (World T F)) (world : World T F) :
    (runMeshes load (worlds ++ [world]) : MeshStores M F) =
      stepMeshes load (runMeshes load worlds) world := by
  rw [runMeshes, List.foldl_append]
  rfl

/-- An outcome is what some load made of its own path. -/
def LoadedFrom (table : MeshTable M) : Prop :=
  ∀ path outcome, (path, outcome) ∈ table.acquisitions → ∃ attempt, load attempt path = outcome

theorem loadedFrom_syncMesh {stores : MeshStores M F}
    (h : LoadedFrom load stores.table) (path : Text) :
    LoadedFrom load (syncMesh load stores path).table := by
  unfold syncMesh
  split
  · exact h
  · simp only [MeshTable.acquireMesh]
    cases hload : load stores.table.acquisitions.length path with
    | none | some =>
      intro path' outcome hmem
      rcases List.mem_append.mp hmem with hold | hlast
      · exact h path' outcome hold
      · obtain ⟨rfl, rfl⟩ := Prod.mk.inj (List.mem_singleton.mp hlast)
        exact ⟨_, hload⟩

theorem loadedFrom_runMeshes (worlds : List (World T F)) :
    LoadedFrom load (runMeshes load worlds : MeshStores M F).table := by
  have hpaths : ∀ (paths : List Text) (stores : MeshStores M F), LoadedFrom load stores.table →
      LoadedFrom load (paths.foldl (syncMesh load) stores).table := by
    intro paths
    induction paths with
    | nil => exact fun _ h => h
    | cons first rest ih => exact fun stores h => ih _ (loadedFrom_syncMesh load h first)
  induction worlds using List.reverseRecOn with
  | nil => exact fun _ _ hmem => nomatch hmem
  | append_singleton worlds world ih =>
    rw [runMeshes_concat]
    simp only [stepMeshes, syncMeshCatalog_eq]
    exact hpaths _ _ ih

theorem contains_stepMeshes {stores : MeshStores M F}
    (h : Tracks stores.catalog stores.table) (world : World T F) {entity : Entity} {mesh : Address}
    (hmesh : world.ecs.tryGetComponent world.meshType entity = some mesh) :
    (stepMeshes load stores world).catalog.contains (world.meshComponent mesh).meshPath := by
  simp only [stepMeshes, syncMeshCatalog_eq]
  obtain ⟨_, _, hcontains⟩ := syncMesh_foldl load
    ((world.ecs.getComponents world.meshType).map fun mesh => (world.meshComponent mesh).meshPath) h
  refine (hcontains _).mpr (Or.inl (List.mem_map.mpr ⟨mesh, ?_, rfl⟩))
  have hlisted := (Ecs.mem_getComponentsWithEntities world.ecs world.meshType entity mesh).mpr hmesh
  obtain ⟨entry, hentry, heq⟩ := List.mem_map.mp hlisted
  refine List.mem_map.mpr ⟨entry.2, List.mem_map.mpr ⟨entry, hentry, rfl⟩, ?_⟩
  exact (Prod.mk.inj heq).2

namespace Tracks

variable {catalog : MeshCatalog} {table : MeshTable M}

theorem length_meshes (h : Tracks catalog table) : table.meshes.length = table.loaded.length := by
  rw [h.meshes, List.length_map]

theorem find_cases (h : Tracks catalog table) (path : Text) :
    catalog.find path = {} ∨ ∃ k mesh, table.loaded[k]? = some (path, mesh) ∧
      catalog.find path = ⟨UInt32.ofNat (k + 1)⟩ := by
  cases hfind : catalog.handlesPerPath.find? path with
  | none =>
    refine Or.inl ?_
    rw [MeshCatalog.find, hfind]
    rfl
  | some handle =>
    have hcontains := (MeshCatalog.contains_iff catalog path).mpr ⟨handle, hfind⟩
    obtain ⟨⟨path', outcome⟩, hmem, rfl⟩ := List.mem_map.mp ((h.attempted path).mp hcontains)
    cases outcome with
    | none => exact Or.inl (h.failed path' hmem)
    | some mesh =>
      obtain ⟨k, hk⟩ := List.getElem?_of_mem (mem_loaded.mpr hmem)
      exact Or.inr ⟨k, mesh, hk, h.handle k path' mesh hk⟩

theorem index_le (h : Tracks catalog table) (path : Text) :
    (catalog.find path).index.toNat ≤ table.meshes.length := by
  rcases h.find_cases path with hfind | ⟨k, mesh, hk, hfind⟩
  · rw [hfind]
    exact Nat.zero_le _
  · have hlength := (List.getElem?_eq_some_iff.mp hk).1
    rw [hfind, UInt32.toNat_ofNat', h.length_meshes]
    have hmod := Nat.mod_le (k + 1) (2 ^ 32)
    omega

/-- Up to the width of an index, a valid handle names its path's own mesh. -/
theorem names (h : Tracks catalog table) (hroom : table.loaded.length ≤ 2 ^ 32) {path : Text}
    (hvalid : (catalog.find path).index ≠ MeshHandle.invalidIndex) :
    ∃ mesh, table.loaded[(catalog.find path).index.toNat - 1]? = some (path, mesh) ∧
      table.meshes[(catalog.find path).index.toNat - 1]? = some mesh := by
  rcases h.find_cases path with hfind | ⟨k, mesh, hk, hfind⟩
  · rw [hfind] at hvalid
    exact absurd rfl hvalid
  · have hlength := (List.getElem?_eq_some_iff.mp hk).1
    have hindex : (catalog.find path).index.toNat = (k + 1) % 2 ^ 32 := by
      rw [hfind, UInt32.toNat_ofNat']
    have hne : (catalog.find path).index.toNat ≠ 0 := by
      intro hzero
      exact hvalid (UInt32.toNat_inj.mp hzero)
    have hk' : (catalog.find path).index.toNat - 1 = k := by omega
    refine ⟨mesh, by rw [hk', hk], ?_⟩
    rw [hk', h.meshes, List.getElem?_map, hk]
    rfl

/-- Up to the width of an index, handles tell loaded paths apart. -/
theorem find_injective (h : Tracks catalog table) (hroom : table.loaded.length ≤ 2 ^ 32)
    {path path' : Text} {mesh mesh' : M} (hpath : (path, mesh) ∈ table.loaded)
    (hpath' : (path', mesh') ∈ table.loaded) (heq : catalog.find path = catalog.find path') :
    path = path' := by
  obtain ⟨k, hk⟩ := List.getElem?_of_mem hpath
  obtain ⟨k', hk'⟩ := List.getElem?_of_mem hpath'
  have hlength := (List.getElem?_eq_some_iff.mp hk).1
  have hlength' := (List.getElem?_eq_some_iff.mp hk').1
  rw [h.handle k path mesh hk, h.handle k' path' mesh' hk'] at heq
  have hindex : (k + 1) % 2 ^ 32 = (k' + 1) % 2 ^ 32 := by
    have htoNat := congrArg (fun handle : MeshHandle => handle.index.toNat) heq
    simpa only [UInt32.toNat_ofNat'] using htoNat
  have hsame : k = k' := by omega
  rw [hsame, hk'] at hk
  exact (Prod.mk.inj (Option.some.inj hk)).1.symm

end Tracks

theorem extracted_handle {world : World T F} {catalog : MeshCatalog}
    {frame : ExtractedFrame F} {extracted : ExtractedMesh F}
    (h : extracted ∈ (extractFrame world catalog frame).meshes) :
    extracted.mesh.index ≠ MeshHandle.invalidIndex ∧
      ∃ path, extracted.mesh = catalog.find path := by
  obtain ⟨⟨entity, mesh⟩, _, hextract⟩ := List.mem_filterMap.mp h
  simp only [extractMesh] at hextract
  split at hextract
  · cases hextract
  · rename_i hvalid
    split at hextract
    · cases hextract
    · cases hextract
      exact ⟨hvalid, _, rfl⟩

/-- What a run of frames has made of its paths. Handles are 32 bits wide, so the
last two parts are about runs whose table an index can still name. -/
structure Resolved (worlds : List (World T F))
    (stores : MeshStores M F) : Prop where
  acquiredOnce : (stores.table.acquisitions.map Prod.fst).Nodup
  loadedFrom : LoadedFrom load stores.table
  withinTable : ∀ path, (stores.catalog.find path).index.toNat ≤ stores.table.meshes.length
  drawable : ∀ extracted ∈ stores.frame.meshes,
    extracted.mesh.index ≠ MeshHandle.invalidIndex ∧
      extracted.mesh.index.toNat ≤ stores.table.meshes.length
  failedForever : ∀ before after, worlds = before ++ after → ∀ path,
    (path, none) ∈ (runMeshes load before : MeshStores M F).table.acquisitions →
      stores.catalog.find path = {}
  synced : ∀ before world, worlds = before ++ [world] → ∀ entity mesh,
    world.ecs.tryGetComponent world.meshType entity = some mesh →
      stores.catalog.contains (world.meshComponent mesh).meshPath
  names : stores.table.loaded.length ≤ 2 ^ 32 → ∀ path,
    (stores.catalog.find path).index ≠ MeshHandle.invalidIndex → ∃ mesh attempt,
      load attempt path = some mesh ∧
      stores.table.loaded[(stores.catalog.find path).index.toNat - 1]? = some (path, mesh) ∧
      stores.table.meshes[(stores.catalog.find path).index.toNat - 1]? = some mesh
  distinct : stores.table.loaded.length ≤ 2 ^ 32 → ∀ path path' mesh mesh',
    (path, mesh) ∈ stores.table.loaded → (path', mesh') ∈ stores.table.loaded →
      stores.catalog.find path = stores.catalog.find path' → path = path'

theorem frame_runMeshes (worlds : List (World T F))
    {extracted : ExtractedMesh F}
    (h : extracted ∈ (runMeshes load worlds : MeshStores M F).frame.meshes) :
    extracted.mesh.index ≠ MeshHandle.invalidIndex ∧
      ∃ path, extracted.mesh = (runMeshes load worlds : MeshStores M F).catalog.find path := by
  rcases List.eq_nil_or_concat' worlds with hnil | ⟨before, world, hworlds⟩
  · subst hnil
    cases h
  · subst hworlds
    rw [runMeshes_concat] at h ⊢
    exact extracted_handle h

theorem drawable_runMeshes (worlds : List (World T F)) :
    ∀ extracted ∈ (runMeshes load worlds : MeshStores M F).frame.meshes,
      extracted.mesh.index ≠ MeshHandle.invalidIndex ∧ extracted.mesh.index.toNat ≤
        (runMeshes load worlds : MeshStores M F).table.meshes.length := by
  intro extracted hextracted
  obtain ⟨hvalid, path, hpath⟩ := frame_runMeshes load worlds hextracted
  exact ⟨hvalid, hpath ▸ (tracks_runMeshes load worlds).index_le path⟩

theorem recordMeshes_of_drawable {table : MeshTable M} (extracted : List (ExtractedMesh F))
    (view : ExtractedView F)
    (h : ∀ e ∈ extracted, e.mesh.index ≠ MeshHandle.invalidIndex ∧
      e.mesh.index.toNat ≤ table.meshes.length) :
    (recordMeshes table ⟨view, extracted⟩).map Prod.snd = extracted.map (·.placement) := by
  induction extracted with
  | nil => rfl
  | cons first rest ih =>
    obtain ⟨hvalid, hbound⟩ := h first List.mem_cons_self
    have hrest := ih fun e he => h e (List.mem_cons_of_mem first he)
    have hne : first.mesh.index.toNat ≠ 0 := fun hzero => hvalid (UInt32.toNat_inj.mp hzero)
    have hindex : first.mesh.index.toNat - 1 < table.meshes.length := by omega
    have hdrawn : ¬ (first.mesh.index = MeshHandle.invalidIndex ∨
        table.meshes.length < first.mesh.index.toNat) := by
      intro hskip
      rcases hskip with hzero | hbeyond
      · exact hvalid hzero
      · omega
    have hrecord : recordMeshes table ⟨view, first :: rest⟩ =
        (table.meshes[first.mesh.index.toNat - 1], first.placement) ::
          recordMeshes table ⟨view, rest⟩ := by
      simp only [recordMeshes, List.filterMap_cons, if_neg hdrawn,
        List.getElem?_eq_getElem hindex, Option.map_some]
    rw [hrecord, List.map_cons, List.map_cons, hrest]

theorem recordMeshes_runMeshes (worlds : List (World T F)) :
    (recordMeshes (runMeshes load worlds : MeshStores M F).table
      (runMeshes load worlds : MeshStores M F).frame).map Prod.snd =
      (runMeshes load worlds : MeshStores M F).frame.meshes.map (·.placement) :=
  recordMeshes_of_drawable _ _ (drawable_runMeshes load worlds)

theorem meshes_resolve (worlds : List (World T F)) :
    Resolved load worlds (runMeshes load worlds : MeshStores M F) := by
  have htracks : Tracks (runMeshes load worlds : MeshStores M F).catalog
      (runMeshes load worlds : MeshStores M F).table := tracks_runMeshes load worlds
  have hloaded : LoadedFrom load (runMeshes load worlds : MeshStores M F).table :=
    loadedFrom_runMeshes load worlds
  refine ⟨htracks.once, hloaded, htracks.index_le, drawable_runMeshes load worlds, ?_, ?_, ?_,
    fun hroom _ _ _ _ => htracks.find_injective hroom⟩
  · intro before after hworlds path hfailed
    subst hworlds
    exact htracks.failed path ((acquisitions_runMeshes load before after).subset hfailed)
  · intro before world hworlds entity mesh hmesh
    subst hworlds
    rw [runMeshes_concat]
    exact contains_stepMeshes load (tracks_runMeshes load before) world hmesh
  · intro hroom path hvalid
    obtain ⟨mesh, hentry, hnamed⟩ := htracks.names hroom hvalid
    obtain ⟨attempt, hload⟩ := hloaded path (some mesh)
      (mem_loaded.mp (List.mem_of_getElem? hentry))
    exact ⟨mesh, attempt, hload, hentry, hnamed⟩

instance ratFloatNumber : FloatNumber Rat where
  toAdd := inferInstance
  toMul := inferInstance
  toDiv := inferInstance
  toLT := inferInstance
  toOfScientific := inferInstance
  pi := 355 / 113
  decidableLT := fun a b => inferInstanceAs (Decidable (a < b))

def numberedPath (n : Nat) : Text := ⟨List.replicate n 97⟩

theorem numberedPath_injective {n k : Nat} (h : numberedPath n = numberedPath k) : n = k := by
  have hlength := congrArg (fun text : Text => text.bytes.length) h
  simpa [numberedPath] using hlength

/-- A world with one mesh component, whose path is new in every frame. -/
def numberedWorld (n : Nat) : World Nat Rat where
  ecs := Ecs.run [.addEntity, .addComponentToEntity 0 8 ⟨1⟩]
  meshType := 0
  transformType := 1
  cameraType := 2
  meshComponent _ := ⟨numberedPath n⟩
  transformComponent _ := ⟨⟨0, 0, 0⟩, ⟨0, 0, 0, 1⟩, ⟨1, 1, 1⟩⟩
  cameraComponent _ := ⟨45, 1, 1000⟩

def loadFirst (attempt : Nat) (path : Text) : Option Nat :=
  if path = numberedPath 0 then some attempt else none

def twoFrames : MeshStores Nat Rat := runMeshes loadFirst [numberedWorld 0, numberedWorld 1]

theorem meshes_resolve_twoFrames :
    (∃ mesh attempt, loadFirst attempt (numberedPath 0) = some mesh ∧
      twoFrames.table.meshes[0]? = some mesh) ∧
    twoFrames.catalog.find (numberedPath 1) = {} ∧
    twoFrames.catalog.contains (numberedPath 1) := by
  have hresolved : Resolved loadFirst [numberedWorld 0, numberedWorld 1] twoFrames :=
    meshes_resolve loadFirst [numberedWorld 0, numberedWorld 1]
  have hindex : (twoFrames.catalog.find (numberedPath 0)).index = 1 := by decide +kernel
  have hvalid : (twoFrames.catalog.find (numberedPath 0)).index ≠ MeshHandle.invalidIndex := by
    rw [hindex]
    decide
  obtain ⟨mesh, attempt, hload, _, hnamed⟩ :=
    hresolved.names (by decide +kernel) (numberedPath 0) hvalid
  rw [hindex] at hnamed
  refine ⟨⟨mesh, attempt, hload, hnamed⟩, ?_, ?_⟩
  · exact hresolved.failedForever [numberedWorld 0, numberedWorld 1] [] rfl (numberedPath 1)
      (by decide +kernel)
  · exact hresolved.synced [numberedWorld 0] (numberedWorld 1) rfl ⟨1⟩ 8 (by decide +kernel)

def numberedRun (n : Nat) : MeshStores Unit Rat :=
  runMeshes (fun _ _ => some ()) ((List.range n).map numberedWorld)

theorem numberedRun_succ (n : Nat) :
    numberedRun (n + 1) = stepMeshes (fun _ _ => some ()) (numberedRun n) (numberedWorld n) := by
  rw [numberedRun, List.range_succ, List.map_append, List.map_singleton, runMeshes_concat]
  rfl

theorem getComponents_numberedWorld (n : Nat) :
    (numberedWorld n).ecs.getComponents (numberedWorld n).meshType = [8] := by
  rfl

theorem acquisitions_numberedRun (n : Nat) :
    (numberedRun n).table.acquisitions =
      (List.range n).map fun k => (numberedPath k, some ()) := by
  induction n with
  | zero => rfl
  | succ n ih =>
    have htracks : Tracks (numberedRun n).catalog (numberedRun n).table := tracks_runMeshes _ _
    have hnew : ¬ (numberedRun n).catalog.contains (numberedPath n) := by
      intro hcontains
      have hmem := (htracks.attempted _).mp hcontains
      rw [ih, List.map_map] at hmem
      obtain ⟨k, hk, hpath⟩ := List.mem_map.mp hmem
      have hlt := List.mem_range.mp hk
      rw [numberedPath_injective hpath] at hlt
      exact absurd hlt (Nat.lt_irrefl n)
    have hsync : (numberedRun (n + 1)).table.acquisitions =
        (syncMesh (fun _ _ => some ()) (numberedRun n) (numberedPath n)).table.acquisitions := by
      rw [numberedRun_succ, stepMeshes, syncMeshCatalog, getComponents_numberedWorld]
      rfl
    rw [hsync, syncMesh, if_neg hnew, List.range_succ, List.map_append, ← ih]
    rfl

theorem find_numberedRun {n k : Nat} (hk : k < n) :
    (numberedRun n).table.loaded[k]? = some (numberedPath k, ()) ∧
      (numberedRun n).catalog.find (numberedPath k) = ⟨UInt32.ofNat (k + 1)⟩ := by
  have htracks : Tracks (numberedRun n).catalog (numberedRun n).table := tracks_runMeshes _ _
  have hloaded : (numberedRun n).table.loaded =
      (List.range n).map fun k => (numberedPath k, ()) := by
    rw [MeshTable.loaded, acquisitions_numberedRun, List.filterMap_map]
    have hsome : ((fun acquisition : Text × Option Unit =>
        acquisition.2.map fun mesh => (acquisition.1, mesh)) ∘ fun k => (numberedPath k, some ())) =
        some ∘ fun k => (numberedPath k, ()) := rfl
    rw [hsome, List.filterMap_eq_map]
  have hentry : (numberedRun n).table.loaded[k]? = some (numberedPath k, ()) := by
    rw [hloaded, List.getElem?_map, List.getElem?_range hk]
    rfl
  exact ⟨hentry, htracks.handle k _ () hentry⟩

/-- After one load more than there are indices, two loaded paths share a handle. -/
theorem numberedRun_shares_handle :
    numberedPath 0 ≠ numberedPath (2 ^ 32) ∧
      (numberedPath 0, ()) ∈ (numberedRun (2 ^ 32 + 1)).table.loaded ∧
      (numberedPath (2 ^ 32), ()) ∈ (numberedRun (2 ^ 32 + 1)).table.loaded ∧
      (numberedRun (2 ^ 32 + 1)).catalog.find (numberedPath 0) =
        (numberedRun (2 ^ 32 + 1)).catalog.find (numberedPath (2 ^ 32)) ∧
      (numberedRun (2 ^ 32 + 1)).catalog.find (numberedPath (2 ^ 32)) = ⟨1⟩ := by
  obtain ⟨hfirst, hfind⟩ := find_numberedRun (show 0 < 2 ^ 32 + 1 by omega)
  obtain ⟨hlast, hfind'⟩ := find_numberedRun (show 2 ^ 32 < 2 ^ 32 + 1 by omega)
  have hwrap : UInt32.ofNat (2 ^ 32 + 1) = 1 := by
    apply UInt32.toNat_inj.mp
    rw [UInt32.toNat_ofNat']
    rfl
  refine ⟨?_, List.mem_of_getElem? hfirst, List.mem_of_getElem? hlast, ?_, ?_⟩
  · intro h
    have hzero := numberedPath_injective h
    omega
  · rw [hfind, hfind', hwrap]
    rfl
  · rw [hfind', hwrap]

end PlaygroundEngine
