import Mathlib.Data.Nat.Log

/-!
# Filling the levels of a texture

The commands that upload a texture and blit its smaller levels, and the layout protocol they
have to keep on each level. There are at most 32 levels, so level counters are natural numbers.
-/

namespace PlaygroundEngine.Renderer

set_option autoImplicit false

inductive ImageLayout where
  | undefined
  | transferSrcOptimal
  | transferDstOptimal
  | shaderReadOnlyOptimal
  deriving DecidableEq

inductive AccessFlags where
  | none
  | transferWrite
  | transferRead
  | shaderSampledRead
  deriving DecidableEq

inductive PipelineStageFlags where
  | none
  | transfer
  | blit
  | fragmentShader
  deriving DecidableEq

/-- The color aspect of the single array layer. -/
structure ImageSubresourceRange where
  baseMipLevel : Nat
  levelCount : Nat
  deriving DecidableEq

structure Extent where
  width : Int32
  height : Int32
  deriving DecidableEq

inductive Command where
  | pipelineBarrier (srcStage : PipelineStageFlags) (srcAccess : AccessFlags)
      (dstStage : PipelineStageFlags) (dstAccess : AccessFlags)
      (oldLayout newLayout : ImageLayout) (range : ImageSubresourceRange)
  | copyBufferToImage (layout : ImageLayout) (level : Nat) (width height : UInt32)
  | blitImage (srcLayout : ImageLayout) (srcLevel : Nat) (src : Extent)
      (dstLayout : ImageLayout) (dstLevel : Nat) (dst : Extent)
  deriving DecidableEq

def transitionImageLayout (oldLayout newLayout : ImageLayout) (srcAccess dstAccess : AccessFlags)
    (srcStage dstStage : PipelineStageFlags) (range : ImageSubresourceRange) : Command :=
  .pipelineBarrier srcStage srcAccess dstStage dstAccess oldLayout newLayout range

def levelRange (level : Nat) : ImageSubresourceRange := ⟨level, 1⟩

def halvedSide (side : Int32) : Int32 := if side > 1 then side / 2 else 1

def blitCommands (level : Nat) (mip : Extent) : List Command :=
  [transitionImageLayout .transferDstOptimal .transferSrcOptimal .transferWrite .transferRead
      .transfer .blit (levelRange (level - 1)),
    .blitImage .transferSrcOptimal (level - 1) mip .transferDstOptimal level
      ⟨halvedSide mip.width, halvedSide mip.height⟩,
    transitionImageLayout .transferSrcOptimal .shaderReadOnlyOptimal .transferRead
      .shaderSampledRead .blit .fragmentShader (levelRange (level - 1))]

def mipmapLoop : Nat → Nat → Extent → List Command
  | 0, _, _ => []
  | passes + 1, level, mip =>
    blitCommands level mip ++
      mipmapLoop passes (level + 1) ⟨halvedSide mip.width, halvedSide mip.height⟩

def generateMipmaps (width height : Int32) (mipLevels : Nat) : List Command :=
  mipmapLoop (mipLevels - 1) 1 ⟨width, height⟩ ++
    [transitionImageLayout .transferDstOptimal .shaderReadOnlyOptimal .transferWrite
      .shaderSampledRead .transfer .fragmentShader (levelRange (mipLevels - 1))]

/-- `std::log2` is taken as exact. -/
def mipLevelCount (width height : UInt32) : Nat := Nat.log 2 (max width height).toNat + 1

def createTextureImageCommands (width height : UInt32) : List Command :=
  let mipLevels := mipLevelCount width height
  [transitionImageLayout .undefined .transferDstOptimal .none .transferWrite .none .transfer
      ⟨0, mipLevels⟩,
    .copyBufferToImage .transferDstOptimal 0 width height] ++
  generateMipmaps width.toInt32 height.toInt32 mipLevels

structure MippedImage where
  width : Nat
  height : Nat
  mipLevels : Nat

def MippedImage.levelWidth (image : MippedImage) (level : Nat) : Nat :=
  max 1 (image.width >>> level)

def MippedImage.levelHeight (image : MippedImage) (level : Nat) : Nat :=
  max 1 (image.height >>> level)

def MippedImage.IsExtent (image : MippedImage) (level : Nat) (extent : Extent) : Prop :=
  extent.width.toInt = image.levelWidth level ∧ extent.height.toInt = image.levelHeight level

instance isExtentDecidable (image : MippedImage) (level : Nat) (extent : Extent) :
    Decidable (image.IsExtent level extent) :=
  inferInstanceAs (Decidable (_ ∧ _))

/-- The layout of each level and how often it was written. -/
structure LevelStates where
  layout : Nat → ImageLayout
  writes : Nat → Nat

def LevelStates.created : LevelStates := ⟨fun _ => .undefined, fun _ => 0⟩

def LevelStates.write (states : LevelStates) (level : Nat) : LevelStates :=
  { states with writes := Function.update states.writes level (states.writes level + 1) }

def ImageSubresourceRange.Contains (range : ImageSubresourceRange) (level : Nat) : Prop :=
  range.baseMipLevel ≤ level ∧ level < range.baseMipLevel + range.levelCount

instance containsDecidable (range : ImageSubresourceRange) (level : Nat) :
    Decidable (range.Contains level) :=
  inferInstanceAs (Decidable (_ ∧ _))

def Command.execute (states : LevelStates) : Command → LevelStates
  | .pipelineBarrier _ _ _ _ _ newLayout range =>
    { states with
      layout := fun level => if range.Contains level then newLayout else states.layout level }
  | .copyBufferToImage _ level _ _ => states.write level
  | .blitImage _ _ _ _ dstLevel _ => states.write dstLevel

/-- What each command asks of the image in the state it runs in. -/
def Command.Obeys (image : MippedImage) (states : LevelStates) : Command → Prop
  | .pipelineBarrier _ _ _ _ oldLayout _ range =>
    range.baseMipLevel + range.levelCount ≤ image.mipLevels ∧
      ∀ level < image.mipLevels, range.Contains level → states.layout level = oldLayout
  | .copyBufferToImage layout level width height =>
    level < image.mipLevels ∧ states.layout level = layout ∧ layout = .transferDstOptimal ∧
      states.writes level = 0 ∧
      width.toNat = image.levelWidth level ∧ height.toNat = image.levelHeight level
  | .blitImage srcLayout srcLevel src dstLayout dstLevel dst =>
    (srcLevel < image.mipLevels ∧ states.layout srcLevel = srcLayout ∧
      srcLayout = .transferSrcOptimal ∧ states.writes srcLevel = 1 ∧ image.IsExtent srcLevel src) ∧
    dstLevel < image.mipLevels ∧ states.layout dstLevel = dstLayout ∧
      dstLayout = .transferDstOptimal ∧ states.writes dstLevel = 0 ∧ image.IsExtent dstLevel dst

def executeAll (states : LevelStates) (commands : List Command) : LevelStates :=
  commands.foldl Command.execute states

/-- Every command obeys the protocol in the state that the commands before it left. -/
def ObeysAll (image : MippedImage) : LevelStates → List Command → Prop
  | _, [] => True
  | states, command :: commands =>
    command.Obeys image states ∧ ObeysAll image (command.execute states) commands

@[simp] theorem executeAll_append (states : LevelStates) (commands rest : List Command) :
    executeAll states (commands ++ rest) = executeAll (executeAll states commands) rest := by
  simp [executeAll]

theorem obeysAll_append {image : MippedImage} {states : LevelStates}
    {commands rest : List Command} :
    ObeysAll image states (commands ++ rest) ↔
      ObeysAll image states commands ∧ ObeysAll image (executeAll states commands) rest := by
  induction commands generalizing states with
  | nil => simp [ObeysAll, executeAll]
  | cons command commands ih => simp [ObeysAll, executeAll, ih, and_assoc]

theorem halvedSide_toInt {side : Int32} {n : Nat} (hside : side.toInt = (max 1 n : Nat)) :
    (halvedSide side).toInt = (max 1 (n / 2) : Nat) := by
  have hone : (1 : Int32).toInt = 1 := rfl
  have htwo : (2 : Int32).toInt = 2 := rfl
  unfold halvedSide
  split
  · rename_i hgt
    have hlarge : 1 < side.toInt := by
      rw [gt_iff_lt, Int32.lt_iff_toInt_lt, hone] at hgt
      exact hgt
    have hquotient : (side / 2).toInt = side.toInt.tdiv 2 := by
      rw [Int32.toInt_div_of_ne_right _ _ (by decide), htwo]
    rw [hquotient, hside, Int.tdiv_eq_ediv_of_nonneg (by omega)]
    omega
  · rename_i hle
    have hsmall : ¬ 1 < side.toInt := by
      rw [gt_iff_lt, Int32.lt_iff_toInt_lt, hone] at hle
      exact hle
    rw [hone]
    omega

theorem isExtent_halved {image : MippedImage} {level : Nat} {mip : Extent}
    (hmip : image.IsExtent level mip) :
    image.IsExtent (level + 1) ⟨halvedSide mip.width, halvedSide mip.height⟩ := by
  constructor
  · rw [halvedSide_toInt hmip.1, MippedImage.levelWidth, Nat.shiftRight_succ]
  · rw [halvedSide_toInt hmip.2, MippedImage.levelHeight, Nat.shiftRight_succ]

/-- The levels before pass `level` of the loop: everything above the previous level is
finished, that level was just written, and the ones below it wait to be blitted into. -/
structure Filled (image : MippedImage) (level : Nat) (states : LevelStates) : Prop where
  finished : ∀ l, l + 1 < level → states.layout l = .shaderReadOnlyOptimal
  waiting : ∀ l < image.mipLevels, level ≤ l + 1 → states.layout l = .transferDstOptimal
  written : ∀ l < level, states.writes l = 1
  unwritten : ∀ l, level ≤ l → states.writes l = 0

theorem contains_levelRange (level l : Nat) : (levelRange level).Contains l ↔ l = level := by
  simp only [levelRange, ImageSubresourceRange.Contains]
  omega

theorem blitCommands_obey {image : MippedImage} {level : Nat} {mip : Extent}
    {states : LevelStates} (hlevel : level + 1 < image.mipLevels)
    (hmip : image.IsExtent level mip) (hfilled : Filled image (level + 1) states) :
    ObeysAll image states (blitCommands (level + 1) mip) := by
  have hsource := hfilled.waiting level (by omega) (by omega)
  have htarget := hfilled.waiting (level + 1) hlevel (by omega)
  have hwritten := hfilled.written level (by omega)
  have hunwritten := hfilled.unwritten (level + 1) (by omega)
  have hnext := isExtent_halved hmip
  have hlast : (levelRange level).baseMipLevel + (levelRange level).levelCount ≤
      image.mipLevels := by
    simp only [levelRange]
    omega
  simp [blitCommands, ObeysAll, Command.Obeys, Command.execute, transitionImageLayout,
    contains_levelRange, LevelStates.write, hmip, hnext, hwritten, hunwritten, htarget]
  refine ⟨⟨hlast, ?_⟩, ⟨by omega, hlevel⟩, hlast, ?_⟩
  · rintro l _ rfl
    exact hsource
  · intro l _ hl hne
    exact absurd hl hne

theorem blitCommands_filled {image : MippedImage} {level : Nat} {mip : Extent}
    {states : LevelStates} (hfilled : Filled image (level + 1) states) :
    Filled image (level + 2) (executeAll states (blitCommands (level + 1) mip)) := by
  have hunwritten := hfilled.unwritten (level + 1) (by omega)
  constructor
  · intro l hl
    by_cases heq : l = level
    · simp [executeAll, blitCommands, Command.execute, transitionImageLayout, contains_levelRange,
        heq]
    · have hfinished := hfilled.finished l (by omega)
      simp [executeAll, blitCommands, Command.execute, transitionImageLayout, contains_levelRange,
        LevelStates.write, heq, hfinished]
  · intro l hl hle
    have hne : l ≠ level := by omega
    have hwaiting := hfilled.waiting l hl (by omega)
    simp [executeAll, blitCommands, Command.execute, transitionImageLayout, contains_levelRange,
      LevelStates.write, hne, hwaiting]
  · intro l hl
    by_cases heq : l = level + 1
    · simp [executeAll, blitCommands, Command.execute, transitionImageLayout, LevelStates.write,
        heq, hunwritten]
    · have hwritten := hfilled.written l (by omega)
      simp [executeAll, blitCommands, Command.execute, transitionImageLayout, LevelStates.write,
        Function.update_of_ne heq, hwritten]
  · intro l hl
    have hne : l ≠ level + 1 := by omega
    have hzero := hfilled.unwritten l (by omega)
    simp [executeAll, blitCommands, Command.execute, transitionImageLayout, LevelStates.write,
      Function.update_of_ne hne, hzero]

/-- The loop, by induction on the passes that are left. -/
theorem mipmapLoop_obeys {image : MippedImage} (passes : Nat) {level : Nat} {mip : Extent}
    {states : LevelStates} (hlast : level + 1 + passes = image.mipLevels)
    (hmip : image.IsExtent level mip) (hfilled : Filled image (level + 1) states) :
    ObeysAll image states (mipmapLoop passes (level + 1) mip) ∧
      Filled image image.mipLevels (executeAll states (mipmapLoop passes (level + 1) mip)) := by
  induction passes generalizing level mip states with
  | zero =>
    have heq : level + 1 = image.mipLevels := by omega
    exact ⟨trivial, heq ▸ hfilled⟩
  | succ passes ih =>
    have hnext : Filled image (level + 2) (executeAll states (blitCommands (level + 1) mip)) :=
      blitCommands_filled hfilled
    obtain ⟨hrest, hend⟩ := ih (by omega) (isExtent_halved hmip) hnext
    rw [mipmapLoop, obeysAll_append, executeAll_append]
    exact ⟨⟨blitCommands_obey (by omega) hmip hfilled, hrest⟩, hend⟩

/-- One level has no pass: its only barrier is the last one. -/
theorem generateMipmaps_obeys {image : MippedImage} {width height : Int32} {states : LevelStates}
    (hlevels : 0 < image.mipLevels) (hextent : image.IsExtent 0 ⟨width, height⟩)
    (hfilled : Filled image 1 states) :
    ObeysAll image states (generateMipmaps width height image.mipLevels) ∧
      ∀ level < image.mipLevels,
        (executeAll states (generateMipmaps width height image.mipLevels)).layout level =
          .shaderReadOnlyOptimal ∧
        (executeAll states (generateMipmaps width height image.mipLevels)).writes level = 1 := by
  obtain ⟨hloop, hend⟩ := mipmapLoop_obeys (image.mipLevels - 1) (by omega) hextent hfilled
  rw [generateMipmaps, obeysAll_append, executeAll_append]
  refine ⟨⟨hloop, ?_, trivial⟩, ?_⟩
  · simp only [transitionImageLayout, Command.Obeys, contains_levelRange]
    refine ⟨by simp only [levelRange]; omega, ?_⟩
    rintro l hl rfl
    exact hend.waiting _ hl (by omega)
  · intro level hlevel
    refine ⟨?_, hend.written level hlevel⟩
    by_cases heq : level = image.mipLevels - 1
    · simp [executeAll, Command.execute, transitionImageLayout, contains_levelRange, heq]
    · have hfinished := hend.finished level (by omega)
      simpa [executeAll, Command.execute, transitionImageLayout, contains_levelRange, heq]
        using hfinished

def textureImage (width height : UInt32) : MippedImage :=
  ⟨width.toNat, height.toNat, mipLevelCount width height⟩

theorem toNat_le_max (a b : UInt32) :
    a.toNat ≤ (max a b).toNat ∧ b.toNat ≤ (max a b).toNat := by
  have hmax : max a b = if a ≤ b then b else a := rfl
  rw [hmax]
  split
  · rename_i hle
    exact ⟨UInt32.le_iff_toNat_le.mp hle, le_rfl⟩
  · rename_i hgt
    rw [UInt32.le_iff_toNat_le] at hgt
    omega

/-- The count comes from the longer side, and the shorter one reaches a texel no later. -/
theorem shiftRight_lastLevel (width height : UInt32) {side : Nat}
    (hside : side ≤ (max width height).toNat) :
    max 1 (side >>> (mipLevelCount width height - 1)) = 1 := by
  have hlog : (max width height).toNat < 2 ^ (Nat.log 2 (max width height).toNat + 1) :=
    Nat.lt_pow_succ_log_self (by omega) _
  have hlevel : mipLevelCount width height - 1 = Nat.log 2 (max width height).toNat := by
    simp [mipLevelCount]
  rw [hlevel, Nat.shiftRight_eq_div_pow]
  rw [Nat.pow_succ] at hlog
  have hsmall : side / 2 ^ Nat.log 2 (max width height).toNat < 2 := by
    apply Nat.div_lt_of_lt_mul
    omega
  omega

theorem toUInt32_toNat_of_pos {side : Int32} (hside : 1 ≤ side) :
    1 ≤ side.toUInt32.toNat ∧ side.toInt = side.toUInt32.toNat := by
  have hone : (1 : Int32).toInt = 1 := rfl
  have hzero : (0 : Int32).toInt = 0 := rfl
  have hclamp : side.toNatClampNeg = side.toInt.toNat := rfl
  rw [Int32.le_iff_toInt_le, hone] at hside
  have hnonneg : (0 : Int32) ≤ side := by
    rw [Int32.le_iff_toInt_le, hzero]
    omega
  rw [Int32.toNat_toUInt32_of_le hnonneg]
  omega

/-- The dimensions are the decoder's, handed out as `int` and cast to `std::uint32_t` and back:
the upload keeps the layout protocol at every command and leaves every level written once and
ready to be sampled. -/
theorem createTextureImage_obeys {width height : Int32} (hwidth : 1 ≤ width)
    (hheight : 1 ≤ height) :
    let image := textureImage width.toUInt32 height.toUInt32
    let commands := createTextureImageCommands width.toUInt32 height.toUInt32
    ObeysAll image .created commands ∧
      image.levelWidth (image.mipLevels - 1) = 1 ∧ image.levelHeight (image.mipLevels - 1) = 1 ∧
      ∀ level < image.mipLevels,
        (executeAll .created commands).layout level = .shaderReadOnlyOptimal ∧
        (executeAll .created commands).writes level = 1 := by
  intro image commands
  obtain ⟨hwpos, hw⟩ := toUInt32_toNat_of_pos hwidth
  obtain ⟨hhpos, hh⟩ := toUInt32_toNat_of_pos hheight
  have hlevels : 0 < image.mipLevels := Nat.succ_pos _
  have hfirst : image.levelWidth 0 = width.toUInt32.toNat ∧
      image.levelHeight 0 = height.toUInt32.toNat :=
    ⟨max_eq_right hwpos, max_eq_right hhpos⟩
  have hextent : image.IsExtent 0 ⟨width, height⟩ :=
    ⟨hw.trans (congrArg _ hfirst.1.symm), hh.trans (congrArg _ hfirst.2.symm)⟩
  let upload : List Command :=
    [transitionImageLayout .undefined .transferDstOptimal .none .transferWrite .none .transfer
        ⟨0, image.mipLevels⟩,
      .copyBufferToImage .transferDstOptimal 0 width.toUInt32 height.toUInt32]
  have hupload : ObeysAll image .created upload := by
    simp [upload, ObeysAll, Command.Obeys, Command.execute, transitionImageLayout,
      LevelStates.created, ImageSubresourceRange.Contains, hlevels, hfirst]
  have hfilled : Filled image 1 (executeAll .created upload) := by
    constructor
    · intro l hl
      omega
    · intro l hl _
      simp [upload, executeAll, Command.execute, transitionImageLayout, LevelStates.write,
        ImageSubresourceRange.Contains, hl]
    · intro l hl
      have heq : l = 0 := by omega
      simp [upload, executeAll, Command.execute, transitionImageLayout, LevelStates.created,
        LevelStates.write, heq]
    · intro l hl
      have hne : l ≠ 0 := by omega
      simp [upload, executeAll, Command.execute, transitionImageLayout, LevelStates.created,
        LevelStates.write, Function.update_of_ne hne]
  have hcommands : commands = upload ++ generateMipmaps width height image.mipLevels := by
    simp [commands, createTextureImageCommands, upload, image, textureImage]
  obtain ⟨hgenerate, hend⟩ := generateMipmaps_obeys hlevels hextent hfilled
  obtain ⟨hwmax, hhmax⟩ := toNat_le_max width.toUInt32 height.toUInt32
  rw [hcommands, obeysAll_append, executeAll_append]
  exact ⟨⟨hupload, hgenerate⟩, shiftRight_lastLevel _ _ hwmax, shiftRight_lastLevel _ _ hhmax,
    hend⟩

/-- A three by one texture has two levels, blitted from three texels to one. -/
theorem createTextureImage_obeys_three_by_one :
    (textureImage 3 1).mipLevels = 2 ∧
      ObeysAll (textureImage 3 1) .created (createTextureImageCommands 3 1) :=
  ⟨rfl, (@createTextureImage_obeys 3 1 (by decide) (by decide)).1⟩

end PlaygroundEngine.Renderer
