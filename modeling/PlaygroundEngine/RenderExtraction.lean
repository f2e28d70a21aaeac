import PlaygroundEngine.Ecs.Ecs
import PlaygroundEngine.Math.Transform
import PlaygroundEngine.MeshCatalog

/-!
# Extracting a frame from the world

What a frame draws is read from the store and the contents of its components.
Numbers live in an arbitrary type with the operations of `float` used here.
-/

namespace PlaygroundEngine

open Reflection
set_option autoImplicit false

class FloatNumber (F : Type) extends Add F, Mul F, Div F, LT F, OfScientific F where
  pi : F
  decidableLT : DecidableLT F

instance floatDecidableLT {F : Type} [FloatNumber F] : DecidableLT F := FloatNumber.decidableLT

variable {F : Type} [FloatNumber F]

/-- `std::max`, which keeps its first argument when the two do not compare. -/
def floatMax (a b : F) : F := if a < b then b else a

def floatClamp (value low high : F) : F :=
  if value < low then low else if high < value then high else value

def toRadians (degrees : F) : F := degrees * (FloatNumber.pi / 180.0)

structure CameraComponent (F : Type) where
  verticalFieldOfViewDegrees : F
  nearPlaneDistance : F
  farPlaneDistance : F

structure MeshComponent where
  meshPath : Text

structure ExtractedView (F : Type) [FloatNumber F] where
  position : Vector3 F := ⟨0.0, 0.0, 0.0⟩
  rotation : Quaternion F := ⟨0.0, 0.0, 0.0, 1.0⟩
  verticalFieldOfViewRadians : F := toRadians 45.0
  nearPlaneDistance : F := 0.1
  farPlaneDistance : F := 1000.0

structure ExtractedMesh (F : Type) where
  mesh : MeshHandle
  placement : Transform F

structure ExtractedFrame (F : Type) [FloatNumber F] where
  view : ExtractedView F := {}
  meshes : List (ExtractedMesh F) := []

structure World (T : Type) [LinearOrder T] (F : Type) where
  ecs : Ecs T
  meshType : T
  transformType : T
  cameraType : T
  meshComponent : Address → MeshComponent
  transformComponent : Address → Transform F
  cameraComponent : Address → CameraComponent F

variable {T : Type} [LinearOrder T]

def minimumFieldOfViewDegrees : F := 1.0
def maximumFieldOfViewDegrees : F := 179.0
def minimumNearPlaneDistance : F := 0.001
def minimumPlaneSeparation : F := 0.001

def toExtractedView (placement : Transform F) (camera : CameraComponent F) : ExtractedView F :=
  let nearPlaneDistance := floatMax camera.nearPlaneDistance minimumNearPlaneDistance
  { position := placement.position
    rotation := placement.rotation
    verticalFieldOfViewRadians := toRadians (floatClamp camera.verticalFieldOfViewDegrees
      minimumFieldOfViewDegrees maximumFieldOfViewDegrees)
    nearPlaneDistance
    farPlaneDistance := floatMax camera.farPlaneDistance
      (nearPlaneDistance + minimumPlaneSeparation) }

/-- The loop returns at the first camera that has a transform. -/
def extractView (world : World T F) : ExtractedView F :=
  ((world.ecs.getComponentsWithEntities world.cameraType).findSome? fun (entity, camera) =>
    (world.ecs.tryGetComponent world.transformType entity).map fun transform =>
      toExtractedView (world.transformComponent transform) (world.cameraComponent camera)).getD {}

omit [FloatNumber F] in
def extractMesh (world : World T F) (meshes : MeshCatalog) (entity : Entity) (mesh : Address) :
    Option (ExtractedMesh F) :=
  let handle := meshes.find (world.meshComponent mesh).meshPath
  if handle.index = MeshHandle.invalidIndex then none
  else
    match world.ecs.tryGetComponent world.transformType entity with
    | none => none
    | some transform => some ⟨handle, world.transformComponent transform⟩

/-- The previous meshes of the frame are cleared first. -/
def extractMeshes (world : World T F) (meshes : MeshCatalog) (frame : ExtractedFrame F) :
    ExtractedFrame F :=
  { frame with
    meshes := (world.ecs.getComponentsWithEntities world.meshType).filterMap fun (entity, mesh) =>
      extractMesh world meshes entity mesh }

def extractFrame (world : World T F) (meshes : MeshCatalog) (frame : ExtractedFrame F) :
    ExtractedFrame F :=
  extractMeshes world meshes { frame with view := extractView world }

end PlaygroundEngine
