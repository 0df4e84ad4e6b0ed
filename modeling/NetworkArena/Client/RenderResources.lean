/-
# NetworkArena.Client.RenderResources -- the resources of the world, from the files to the frames

The functions of `client_application.cpp` that load the models and textures of the arena and of the
players, and those that give them up. The paths, what Assimp reads, what the images decode to and
what the device answers are an environment of `Run`. Afterwards the callbacks and `Update` change
the list of players that are drawn (`RenderingApplication`), and `Shutdown` clears everything but
the counters of the repositories; `Run` can follow again.

What is drawn never lacks a resource (`Furnished`) and looks as the files of the last start say
(`Look`), and the errors for indices that lead nowhere cannot occur, as the loader makes no such
index.
-/
import NetworkArena.Client.GpuResources
import Mathlib.Data.List.DropRight

namespace NetworkArena.Client

open NetworkArena.Foundation
open NetworkArena.Shared

/-! ## The environment -/

/-- What `Run` finds; the answers are numbered by the calls that get them. -/
structure RenderEnvironment (π : Type) where
  /-- What `GetModuleFileNameW` returns, and the path it has written. -/
  executablePathLength : UInt32
  executablePath : π
  readFile : π → Except String AiScene
  decoder : ImageDecoder π
  renderer : D3D11Renderer
  meshAnswers : ℕ → MeshAnswers
  textureAnswers : ℕ → TextureAnswers

def maxExecutablePathLength : UInt32 := 32768

def resolveClientRuntimePath {π : Type} [FilePath π] (env : RenderEnvironment π)
    (relativeFilePath : String) : π :=
  if env.executablePathLength = 0 ∨ env.executablePathLength ≥ maxExecutablePathLength then
    FilePath.noPath
  else FilePath.append (FilePath.parentPath env.executablePath) (FilePath.ofString relativeFilePath)

/-- What `InitializeRenderResources` reports. -/
inductive RenderResourceError where
  | assetDirectory
  | arenaModel (errorMessage : String)
  | arenaMesh (name : String)
  | arenaMaterialIndex (materialIndex : ℕ)
  | arenaBaseColorTextureIndex (textureIndex : ℕ)
  | arenaBaseColorTexture (sourceReference : String)
  | arenaNormalTextureIndex (textureIndex : ℕ)
  | arenaNormalTexture (sourceReference : String)
  | playerModelPath
  | playerModel (errorMessage : String)
  | playerMesh (name : String)
  | playerTexturePaths
  | flameBaseColorTexture
  | flameNormalTexture
  | frostBaseColorTexture
  | frostNormalTexture
  deriving DecidableEq, Repr

/-- An index of a model that leads nowhere. -/
def RenderResourceError.isInvalidIndex : RenderResourceError → Bool
  | .arenaMaterialIndex _ => true
  | .arenaBaseColorTextureIndex _ => true
  | .arenaNormalTextureIndex _ => true
  | _ => false

/-! ## The client as far as it draws the world -/

structure Stage where
  running : Bool := false
  meshRepository : MeshRepository := {}
  textureRepository : TextureRepository := {}
  arenaMapMeshHandle : MeshHandle := {}
  arenaMapBaseColorTextureHandle : TextureHandle := {}
  arenaMapNormalMapTextureHandle : TextureHandle := {}
  renderObjects : List RenderObject := []
  /-- The players, with the handles of their mesh and textures. -/
  rendering : RenderingApplication := {}
  deriving DecidableEq, Repr

/-- Where a function has got to, and the error it has ended with. -/
abbrev Attempt := Option RenderResourceError × Stage

/-- What comes behind a step that may have returned. -/
def Attempt.andThen (attempt : Attempt) (next : Stage → Attempt) : Attempt :=
  match attempt.1 with
  | some error => (some error, attempt.2)
  | none => next attempt.2

theorem AssimpModelLoadResult.meshes_ne {π : Type} {r : AssimpModelLoadResult π}
    (h : r.succeeded = true) : r.modelData.meshes ≠ [] := by
  rintro hnone
  simp [succeeded, ModelData.isEmpty, hnone] at h

/-- `modelData.meshes.front()`. -/
def AssimpModelLoadResult.frontMesh {π : Type} (r : AssimpModelLoadResult π)
    (h : r.succeeded = true) : ModelMeshData :=
  r.modelData.meshes.head (meshes_ne h)

namespace Stage

variable {π : Type} [FilePath π]

def setPlayers (players : PlayerResources) (s : Stage) : Stage :=
  { s with rendering := { s.rendering with resources := players } }

def players (s : Stage) : PlayerResources := s.rendering.resources

/-! ## Creating resources -/

def createMeshResource (renderer : D3D11Renderer) (answers : MeshAnswers) (meshData : MeshData)
    (s : Stage) : MeshHandle × Stage :=
  match renderer.createMesh answers meshData with
  | none => ({}, s)
  | some mesh =>
    let (meshHandle, meshRepository) := s.meshRepository.addMesh (some mesh)
    (meshHandle, { s with meshRepository })

/-- The end of both functions `CreateTextureResource`. -/
def registerTexture (texture : Option D3D11Texture) (s : Stage) : TextureHandle × Stage :=
  match texture with
  | none => ({}, s)
  | some texture =>
    let (textureHandle, textureRepository) := s.textureRepository.addTexture (some texture)
    (textureHandle, { s with textureRepository })

/-- The texture that the renderer creates from the data of a model. -/
def modelTexture (env : RenderEnvironment π) (call : ℕ) (textureData : ModelTextureData π) :
    Option D3D11Texture :=
  if textureData.isEmbedded then
    if textureData.isCompressedEmbedded then
      env.renderer.createTextureFromEncodedMemory env.decoder (env.textureAnswers call)
        textureData.embeddedData
    else
      env.renderer.createTextureFromBgraPixels (env.textureAnswers call) textureData.width
        textureData.height textureData.embeddedData
  else
    env.renderer.createTextureFromFile env.decoder (env.textureAnswers call) textureData.filePath

def createTextureResource (env : RenderEnvironment π) (call : ℕ)
    (textureData : ModelTextureData π) (s : Stage) : TextureHandle × Stage :=
  s.registerTexture (modelTexture env call textureData)

/-- The texture that the renderer creates from a file. -/
def fileTexture (env : RenderEnvironment π) (call : ℕ) (textureFilePath : π) :
    Option D3D11Texture :=
  env.renderer.createTextureFromFile env.decoder (env.textureAnswers call) textureFilePath

/-- `CreateTextureResource` of a path. -/
def createTextureResourceFromFile (env : RenderEnvironment π) (call : ℕ) (textureFilePath : π)
    (s : Stage) : TextureHandle × Stage :=
  s.registerTexture (fileTexture env call textureFilePath)

/-! ## `InitializeRenderResources` -/

/-- One of the two textures of the material of the arena. -/
def createArenaTexture (env : RenderEnvironment π) (call : ℕ)
    (textures : List (ModelTextureData π)) (textureIndex : ℕ)
    (set : TextureHandle → Stage → Stage) (invalidIndex : ℕ → RenderResourceError)
    (failed : String → RenderResourceError) (s : Stage) : Attempt :=
  if textureIndex = invalidTextureIndex then (none, s)
  else
    match textures[textureIndex]? with
    | none => (some (invalidIndex textureIndex), s)
    | some textureData =>
      let (textureHandle, s) := s.createTextureResource env call textureData
      let s := set textureHandle s
      if !textureHandle.isValid then (some (failed textureData.sourceReference), s) else (none, s)

def setArenaBaseColor (textureHandle : TextureHandle) (s : Stage) : Stage :=
  { s with arenaMapBaseColorTextureHandle := textureHandle }

def setArenaNormalMap (textureHandle : TextureHandle) (s : Stage) : Stage :=
  { s with arenaMapNormalMapTextureHandle := textureHandle }

/-- The textures of the arena, if its mesh has a material. -/
def createArenaTextures (env : RenderEnvironment π) (modelData : ModelData π)
    (mapMesh : ModelMeshData) (s : Stage) : Attempt :=
  if mapMesh.materialIndex = invalidMaterialIndex then (none, s)
  else
    match modelData.materials[mapMesh.materialIndex]? with
    | none => (some (.arenaMaterialIndex mapMesh.materialIndex), s)
    | some mapMaterial =>
      (createArenaTexture env 0 modelData.textures mapMaterial.baseColorTextureIndex
        setArenaBaseColor .arenaBaseColorTextureIndex .arenaBaseColorTexture s).andThen
      (createArenaTexture env 1 modelData.textures mapMaterial.normalMapTextureIndex
        setArenaNormalMap .arenaNormalTextureIndex .arenaNormalTexture)

def arenaMapPath (env : RenderEnvironment π) : π :=
  resolveClientRuntimePath env "assets/meshes/environments/map01.fbx"

def initializeArena (env : RenderEnvironment π) (s : Stage) : Attempt :=
  if FilePath.empty (arenaMapPath env) then (some .assetDirectory, s)
  else
    let loadResult := loadStaticModelData env.readFile (arenaMapPath env)
    if h : loadResult.succeeded = true then
      let mapMesh := loadResult.frontMesh h
      let (meshHandle, s) :=
        s.createMeshResource env.renderer (env.meshAnswers 0) mapMesh.meshData
      let s := { s with arenaMapMeshHandle := meshHandle }
      if !meshHandle.isValid then (some (.arenaMesh mapMesh.name), s)
      else createArenaTextures env loadResult.modelData mapMesh s
    else (some (.arenaModel loadResult.errorMessage), s)

def playerModelPath (env : RenderEnvironment π) : π :=
  resolveClientRuntimePath env "assets/meshes/players/player.fbx"

def initializePlayerMesh (env : RenderEnvironment π) (s : Stage) : Attempt :=
  if FilePath.empty (playerModelPath env) then (some .playerModelPath, s)
  else
    let playerLoadResult := loadStaticModelData env.readFile (playerModelPath env)
    if h : playerLoadResult.succeeded = true then
      let playerMesh := playerLoadResult.frontMesh h
      let (meshHandle, s) :=
        s.createMeshResource env.renderer (env.meshAnswers 1) playerMesh.meshData
      let s := s.setPlayers { s.players with playerMeshHandle := meshHandle }
      if !meshHandle.isValid then (some (.playerMesh playerMesh.name), s) else (none, s)
    else (some (.playerModel playerLoadResult.errorMessage), s)

/-- One of the four textures of the players. -/
def createPlayerTexture (env : RenderEnvironment π) (call : ℕ) (textureFilePath : π)
    (set : TextureHandle → PlayerResources → PlayerResources) (failed : RenderResourceError)
    (s : Stage) : Attempt :=
  let (textureHandle, s) := s.createTextureResourceFromFile env call textureFilePath
  let s := s.setPlayers (set textureHandle s.players)
  if !textureHandle.isValid then (some failed, s) else (none, s)

def flameBaseColorTexturePath (env : RenderEnvironment π) : π :=
  resolveClientRuntimePath env "assets/textures/players/player_flame_texture.png"

def flameNormalMapTexturePath (env : RenderEnvironment π) : π :=
  resolveClientRuntimePath env "assets/textures/players/player_flame_texture_normal.png"

def frostBaseColorTexturePath (env : RenderEnvironment π) : π :=
  resolveClientRuntimePath env "assets/textures/players/player_frost_texture.png"

def frostNormalMapTexturePath (env : RenderEnvironment π) : π :=
  resolveClientRuntimePath env "assets/textures/players/player_frost_texture_normal.png"

def initializePlayerTextures (env : RenderEnvironment π) (s : Stage) : Attempt :=
  if FilePath.empty (flameBaseColorTexturePath env) ||
      FilePath.empty (flameNormalMapTexturePath env) ||
      FilePath.empty (frostBaseColorTexturePath env) ||
      FilePath.empty (frostNormalMapTexturePath env) then (some .playerTexturePaths, s)
  else
    (((createPlayerTexture env 2 (flameBaseColorTexturePath env)
        (fun textureHandle players =>
          { players with flamePlayerTextureSet.baseColorTextureHandle := textureHandle })
        .flameBaseColorTexture s).andThen
      (createPlayerTexture env 3 (flameNormalMapTexturePath env)
        (fun textureHandle players =>
          { players with flamePlayerTextureSet.normalTextureHandle := textureHandle })
        .flameNormalTexture)).andThen
      (createPlayerTexture env 4 (frostBaseColorTexturePath env)
        (fun textureHandle players =>
          { players with frostPlayerTextureSet.baseColorTextureHandle := textureHandle })
        .frostBaseColorTexture)).andThen
      (createPlayerTexture env 5 (frostNormalMapTexturePath env)
        (fun textureHandle players =>
          { players with frostPlayerTextureSet.normalTextureHandle := textureHandle })
        .frostNormalTexture)

def arenaMapObject (s : Stage) : RenderObject :=
  { meshHandle := s.arenaMapMeshHandle
    baseColorTextureHandle := s.arenaMapBaseColorTextureHandle
    normalMapTextureHandle := s.arenaMapNormalMapTextureHandle }

def initializeRenderResources (env : RenderEnvironment π) (s : Stage) : Attempt :=
  (((s.initializeArena env).andThen (initializePlayerMesh env)).andThen
    (initializePlayerTextures env)).andThen fun s =>
      (none, { s with renderObjects := s.renderObjects ++ [s.arenaMapObject] })

/-! ## Runs -/

def shutdown (s : Stage) : Stage :=
  { meshRepository := s.meshRepository.clear
    textureRepository := s.textureRepository.clear
    rendering := s.rendering.shutdown }

/-- What happens to the client: `Run`, what its loop does to the players, and `Shutdown`. -/
inductive Event (π : Type) where
  | run (env : RenderEnvironment π)
  | application (now : ℤ) (event : InterpolatingApplication.Event)
  | shutdown

def step (atan2 : ℚ → ℚ → ℚ) (s : Stage) : Event π → Option Stage
  | .run env =>
    if s.running then none
    else
      let (error, s) := s.initializeRenderResources env
      if error.isSome then some s.shutdown else some { s with running := true }
  | .application _ .shutdown => some s.shutdown
  | .application now event =>
    if !s.running then none
    else (s.rendering.step atan2 (now, event)).toOption.map fun rendering => { s with rendering }
  | .shutdown => some s.shutdown

/-- The objects that `Render` draws. -/
def drawnObjects (s : Stage) : List RenderObject :=
  match s.rendering.drawnPlayerRenderEntries with
  | none => []
  | some entries => s.renderObjects ++ entries.map (·.renderObject)

/-! ## What one call creates -/

/-- Both repositories have come about by calls. -/
structure Stored (s : Stage) : Prop where
  meshes : MeshRepository.store.Reached s.meshRepository
  textures : TextureRepository.store.Reached s.textureRepository

/-- The repositories have only grown. -/
structure Grows (s s' : Stage) : Prop where
  meshes : MeshRepository.store.Grows s.meshRepository s'.meshRepository
  textures : TextureRepository.store.Grows s.textureRepository s'.textureRepository

/-- A handle finds the mesh that was to be created. -/
def FindsMesh (s : Stage) (meshHandle : MeshHandle) (created : Option D3D11Mesh) : Prop :=
  created.isSome = true ∧ s.meshRepository.findMesh meshHandle = created

/-- A handle finds the texture that was to be created. -/
def FindsTexture (s : Stage) (textureHandle : TextureHandle) (created : Option D3D11Texture) :
    Prop :=
  created.isSome = true ∧ s.textureRepository.findTexture textureHandle = created

section Calls

variable {s s' s'' : Stage} {renderer : D3D11Renderer} {env : RenderEnvironment π}

theorem Grows.refl (s : Stage) : s.Grows s := ⟨.refl _, .refl _⟩

theorem Grows.trans (h : s.Grows s') (h' : s'.Grows s'') : s.Grows s'' :=
  ⟨h.meshes.trans h'.meshes, h.textures.trans h'.textures⟩

theorem Grows.stored (h : s.Grows s') (hstored : s.Stored) : s'.Stored :=
  ⟨h.meshes.reached hstored.meshes, h.textures.reached hstored.textures⟩

theorem FindsMesh.mono {meshHandle : MeshHandle} {created : Option D3D11Mesh}
    (h : s.FindsMesh meshHandle created) (hstored : s.Stored) (hgrows : s.Grows s') :
    s'.FindsMesh meshHandle created := by
  obtain ⟨hsome, hfinds⟩ := h
  obtain ⟨mesh, rfl⟩ := Option.isSome_iff_exists.mp hsome
  exact ⟨rfl, hgrows.meshes.kept hstored.meshes _ _ hfinds⟩

theorem FindsTexture.mono {textureHandle : TextureHandle} {created : Option D3D11Texture}
    (h : s.FindsTexture textureHandle created) (hstored : s.Stored) (hgrows : s.Grows s') :
    s'.FindsTexture textureHandle created := by
  obtain ⟨hsome, hfinds⟩ := h
  obtain ⟨texture, rfl⟩ := Option.isSome_iff_exists.mp hsome
  exact ⟨rfl, hgrows.textures.kept hstored.textures _ _ hfinds⟩

/-- **A mesh resource**: only the repository changes, and a valid handle finds the mesh. -/
theorem createMeshResource_eq (renderer : D3D11Renderer) (answers : MeshAnswers)
    (meshData : MeshData) (s : Stage) :
    ∃ meshRepository, (s.createMeshResource renderer answers meshData).2 =
        { s with meshRepository } ∧
      s.Grows { s with meshRepository } ∧
      ((s.createMeshResource renderer answers meshData).1.isValid = true →
        ({ s with meshRepository } : Stage).FindsMesh
          (s.createMeshResource renderer answers meshData).1
          (renderer.createMesh answers meshData)) := by
  unfold createMeshResource
  cases renderer.createMesh answers meshData with
  | none => exact ⟨s.meshRepository, rfl, .refl s, nofun⟩
  | some mesh =>
      refine ⟨(s.meshRepository.addMesh (some mesh)).2, rfl,
        ⟨Repository.store_issues.grows_add _ _, .refl _⟩, fun hvalid => ⟨rfl, ?_⟩⟩
      exact ((Repository.store_issues (η := MeshHandle)).find_added hvalid).2

/-- **A texture resource**, in the same way. -/
theorem registerTexture_eq (texture : Option D3D11Texture) (s : Stage) :
    ∃ textureRepository, (s.registerTexture texture).2 = { s with textureRepository } ∧
      s.Grows { s with textureRepository } ∧
      ((s.registerTexture texture).1.isValid = true →
        ({ s with textureRepository } : Stage).FindsTexture (s.registerTexture texture).1
          texture) := by
  unfold registerTexture
  cases texture with
  | none => exact ⟨s.textureRepository, rfl, .refl s, nofun⟩
  | some texture =>
      refine ⟨(s.textureRepository.addTexture (some texture)).2, rfl,
        ⟨.refl _, Repository.store_issues.grows_add _ _⟩, fun hvalid => ⟨rfl, ?_⟩⟩
      exact ((Repository.store_issues (η := TextureHandle)).find_added hvalid).2

end Calls

/-! ## What an attempt does -/

/-- The repositories grow, no error is about an index that leads nowhere, and without an error the
work is done. -/
structure Sound (s : Stage) (attempt : Attempt) (Done : Stage → Prop) : Prop where
  grows : s.Grows attempt.2
  error : ∀ error, attempt.1 = some error → error.isInvalidIndex = false
  done : attempt.1 = none → Done attempt.2

section Attempts

variable {s s' : Stage} {env : RenderEnvironment π} {Done Done' : Stage → Prop}

theorem Sound.andThen {attempt : Attempt} {next : Stage → Attempt} (h : s.Sound attempt Done)
    (Done' : Stage → Prop) (hnext : ∀ s', s.Grows s' → Done s' → s'.Sound (next s') Done') :
    s.Sound (attempt.andThen next) Done' := by
  obtain ⟨error, s'⟩ := attempt
  cases error with
  | some error => exact ⟨h.grows, h.error, nofun⟩
  | none =>
      obtain ⟨hgrows, herror, hdone⟩ := hnext s' h.grows (h.done rfl)
      exact ⟨h.grows.trans hgrows, herror, hdone⟩

/-- The texture of a material, if it has one. -/
def textureAt (textures : List (ModelTextureData π)) (textureIndex : ℕ) :
    Option (ModelTextureData π) :=
  if textureIndex = invalidTextureIndex then none else textures[textureIndex]?

/-- The handle of the arena for a texture that its material has, or has not. -/
def HasArenaTexture (env : RenderEnvironment π) (call : ℕ) (wanted : Option (ModelTextureData π))
    (s : Stage) (textureHandle : TextureHandle) : Prop :=
  match wanted with
  | none => textureHandle = {}
  | some t =>
    s.FindsTexture textureHandle (modelTexture env call t)

theorem HasArenaTexture.mono {call : ℕ} {wanted : Option (ModelTextureData π)}
    {textureHandle : TextureHandle} (h : HasArenaTexture env call wanted s textureHandle)
    (hstored : s.Stored) (hgrows : s.Grows s') :
    HasArenaTexture env call wanted s' textureHandle := by
  cases wanted with
  | none => exact h
  | some t => exact FindsTexture.mono h hstored hgrows

/-- **One texture of the arena**, for an index that leads somewhere. -/
theorem createArenaTexture_sound (env : RenderEnvironment π) (call : ℕ)
    {textures : List (ModelTextureData π)} {textureIndex : ℕ}
    (hindex : textureIndex = invalidTextureIndex ∨ textureIndex < textures.length)
    {set : TextureHandle → Stage → Stage}
    (hset : ∀ textureHandle s, Stage.Grows s (set textureHandle s))
    (invalidIndex : ℕ → RenderResourceError) {failed : String → RenderResourceError}
    (hfailed : ∀ sourceReference, (failed sourceReference).isInvalidIndex = false) (s : Stage) :
    s.Sound (createArenaTexture env call textures textureIndex set invalidIndex failed s)
      fun s' => textureAt textures textureIndex = none ∧ s' = s ∨
        ∃ t textureRepository textureHandle, textureAt textures textureIndex = some t ∧
          s' = set textureHandle { s with textureRepository } ∧
          ({ s with textureRepository } : Stage).FindsTexture textureHandle
            (modelTexture env call t) := by
  unfold createArenaTexture textureAt
  by_cases hinvalid : textureIndex = invalidTextureIndex
  · rw [if_pos hinvalid, if_pos hinvalid]
    exact ⟨.refl s, nofun, fun _ => Or.inl ⟨rfl, rfl⟩⟩
  · have hlt : textureIndex < textures.length := hindex.resolve_left hinvalid
    rw [if_neg hinvalid, if_neg hinvalid, List.getElem?_eq_getElem hlt]
    dsimp only
    obtain ⟨textureRepository, hs, hgrows, hfinds⟩ := registerTexture_eq
      (modelTexture env call textures[textureIndex]) s
    unfold createTextureResource
    generalize registerTexture _ s = registered at hs hfinds ⊢
    obtain ⟨textureHandle, s'⟩ := registered
    dsimp only at hs hfinds ⊢
    subst hs
    by_cases hvalid : textureHandle.isValid = true
    · rw [hvalid, Bool.not_true, if_neg Bool.false_ne_true]
      exact ⟨hgrows.trans (hset _ _), nofun,
        fun _ => Or.inr ⟨_, _, _, rfl, rfl, hfinds hvalid⟩⟩
    · rw [Bool.not_eq_true] at hvalid
      rw [hvalid, Bool.not_false, if_pos rfl]
      refine ⟨hgrows.trans (hset _ _), fun error herror => ?_, nofun⟩
      cases herror
      exact hfailed _

omit [FilePath π] in
theorem grows_setPlayers (players : PlayerResources) (s : Stage) :
    s.Grows (s.setPlayers players) := ⟨.refl _, .refl _⟩

/-- **One texture of the players.** -/
theorem createPlayerTexture_sound (env : RenderEnvironment π) (call : ℕ) (textureFilePath : π)
    (set : TextureHandle → PlayerResources → PlayerResources) (failed : RenderResourceError)
    (hfailed : failed.isInvalidIndex = false) (s : Stage) :
    s.Sound (createPlayerTexture env call textureFilePath set failed s) fun s' =>
      ∃ textureRepository textureHandle,
        s' = ({ s with textureRepository } : Stage).setPlayers (set textureHandle s.players) ∧
        s'.FindsTexture textureHandle
          (fileTexture env call textureFilePath) := by
  unfold createPlayerTexture
  obtain ⟨textureRepository, hs, hgrows, hfinds⟩ :=
    registerTexture_eq (fileTexture env call textureFilePath) s
  unfold createTextureResourceFromFile
  generalize registerTexture _ s = registered at hs hfinds ⊢
  obtain ⟨textureHandle, s'⟩ := registered
  dsimp only at hs hfinds ⊢
  subst hs
  by_cases hvalid : textureHandle.isValid = true
  · rw [hvalid, Bool.not_true, if_neg Bool.false_ne_true]
    exact ⟨hgrows.trans (grows_setPlayers _ _), nofun, fun _ => ⟨_, _, rfl, hfinds hvalid⟩⟩
  · rw [Bool.not_eq_true] at hvalid
    rw [hvalid, Bool.not_false, if_pos rfl]
    refine ⟨hgrows.trans (grows_setPlayers _ _), fun error herror => ?_, nofun⟩
    cases herror
    exact hfailed

/-- The material of the mesh that is shown, if it has one. -/
def materialOf (modelData : ModelData π) (mesh : ModelMeshData) : Option ModelMaterialData :=
  if mesh.materialIndex = invalidMaterialIndex then none
  else modelData.materials[mesh.materialIndex]?

def wantedArenaBaseColor (modelData : ModelData π) (mesh : ModelMeshData) :
    Option (ModelTextureData π) :=
  (materialOf modelData mesh).bind fun material =>
    textureAt modelData.textures material.baseColorTextureIndex

def wantedArenaNormalMap (modelData : ModelData π) (mesh : ModelMeshData) :
    Option (ModelTextureData π) :=
  (materialOf modelData mesh).bind fun material =>
    textureAt modelData.textures material.normalMapTextureIndex

/-- **The textures of the arena.** -/
theorem createArenaTextures_sound (env : RenderEnvironment π) {scene : AiScene}
    {modelFilePath : π} {modelData : ModelData π}
    (h : modelData.WellFormed scene modelFilePath) {mapMesh : ModelMeshData}
    (hmesh : mapMesh ∈ modelData.meshes) (hstored : s.Stored)
    (hbase : s.arenaMapBaseColorTextureHandle = {})
    (hnormal : s.arenaMapNormalMapTextureHandle = {}) :
    s.Sound (createArenaTextures env modelData mapMesh s) fun s' =>
      ∃ textureRepository baseColor normalMap,
        s' = { s with
          textureRepository
          arenaMapBaseColorTextureHandle := baseColor
          arenaMapNormalMapTextureHandle := normalMap } ∧
        HasArenaTexture env 0 (wantedArenaBaseColor modelData mapMesh) s' baseColor ∧
        HasArenaTexture env 1 (wantedArenaNormalMap modelData mapMesh) s' normalMap := by
  unfold createArenaTextures wantedArenaBaseColor wantedArenaNormalMap materialOf
  by_cases hinvalid : mapMesh.materialIndex = invalidMaterialIndex
  · rw [if_pos hinvalid, if_pos hinvalid]
    exact ⟨.refl s, nofun, fun _ => ⟨_, _, _, rfl, hbase, hnormal⟩⟩
  · have hlt := (h.materialIndex hmesh).resolve_left hinvalid
    obtain ⟨hbaseIndex, hnormalIndex⟩ := h.textureIndex (List.getElem_mem hlt)
    rw [if_neg hinvalid, if_neg hinvalid, List.getElem?_eq_getElem hlt]
    simp only [Option.bind_some]
    generalize modelData.materials[mapMesh.materialIndex] = mapMaterial at hbaseIndex hnormalIndex ⊢
    have hsetBaseColor : ∀ textureHandle s, Stage.Grows s (setArenaBaseColor textureHandle s) :=
      fun _ _ => ⟨.refl _, .refl _⟩
    have hsetNormalMap : ∀ textureHandle s, Stage.Grows s (setArenaNormalMap textureHandle s) :=
      fun _ _ => ⟨.refl _, .refl _⟩
    refine (createArenaTexture_sound env 0 hbaseIndex hsetBaseColor _ (fun _ => rfl) s).andThen
      _ fun s₁ hgrows₁ hdone₁ => ?_
    have hstored₁ := hgrows₁.stored hstored
    have hnormalFailed : ∀ sourceReference,
        (RenderResourceError.arenaNormalTexture sourceReference).isInvalidIndex = false :=
      fun _ => rfl
    obtain ⟨hgrows₂, herror₂, hdone₂⟩ := createArenaTexture_sound env 1 hnormalIndex hsetNormalMap
      .arenaNormalTextureIndex hnormalFailed s₁
    refine ⟨hgrows₂, herror₂, fun hnone => ?_⟩
    have hbaseColor : HasArenaTexture env 0
        (textureAt modelData.textures mapMaterial.baseColorTextureIndex) s₁
        s₁.arenaMapBaseColorTextureHandle ∧ ∃ textureRepository baseColor, s₁ = { s with
          textureRepository, arenaMapBaseColorTextureHandle := baseColor } := by
      rcases hdone₁ with ⟨hwanted, rfl⟩ | ⟨t, textureRepository, baseColor, hwanted, rfl, hfinds⟩
      · rw [hwanted]
        exact ⟨hbase, s₁.textureRepository, s₁.arenaMapBaseColorTextureHandle, rfl⟩
      · rw [hwanted]
        exact ⟨hfinds, textureRepository, baseColor, rfl⟩
    obtain ⟨hbaseColor, textureRepository₁, baseColor, hs₁⟩ := hbaseColor
    have hbaseColor' := hbaseColor.mono hstored₁ hgrows₂
    rcases hdone₂ hnone with
      ⟨hwanted, hs₂⟩ | ⟨t, textureRepository, normalMap, hwanted, hs₂, hfinds⟩
    · rw [hwanted]
      rw [hs₂, hs₁] at hbaseColor' ⊢
      exact ⟨textureRepository₁, baseColor, s.arenaMapNormalMapTextureHandle, rfl, hbaseColor',
        hnormal⟩
    · rw [hwanted]
      rw [hs₂, hs₁] at hbaseColor' ⊢
      exact ⟨textureRepository, baseColor, normalMap, rfl, hbaseColor', hfinds⟩

/-- What a model file shows: its first mesh, if it can be loaded. -/
def shownMesh (env : RenderEnvironment π) (modelFilePath : π) : Option ModelMeshData :=
  let loadResult := loadStaticModelData env.readFile modelFilePath
  if loadResult.succeeded then loadResult.modelData.meshes.head? else none

/-- The mesh that the renderer creates of it. -/
def modelMesh (env : RenderEnvironment π) (call : ℕ) (modelFilePath : π) : Option D3D11Mesh :=
  (shownMesh env modelFilePath).bind fun mesh =>
    env.renderer.createMesh (env.meshAnswers call) mesh.meshData

theorem shownMesh_eq {modelFilePath : π}
    (h : (loadStaticModelData env.readFile modelFilePath).succeeded = true) :
    shownMesh env modelFilePath =
        some ((loadStaticModelData env.readFile modelFilePath).frontMesh h) ∧
      (loadStaticModelData env.readFile modelFilePath).frontMesh h ∈
        (loadStaticModelData env.readFile modelFilePath).modelData.meshes := by
  refine ⟨?_, List.head_mem _⟩
  unfold shownMesh
  rw [if_pos h]
  exact List.head?_eq_some_head _

/-- A texture of the arena, as far as its model asks for one. -/
def arenaTexture (env : RenderEnvironment π)
    (wanted : ModelData π → ModelMeshData → Option (ModelTextureData π)) :
    Option (ModelTextureData π) :=
  (shownMesh env (arenaMapPath env)).bind
    (wanted (loadStaticModelData env.readFile (arenaMapPath env)).modelData)

/-- **The arena**: its mesh, and the textures of its material. -/
theorem initializeArena_sound (env : RenderEnvironment π) (hstored : s.Stored)
    (hbase : s.arenaMapBaseColorTextureHandle = {})
    (hnormal : s.arenaMapNormalMapTextureHandle = {}) :
    s.Sound (s.initializeArena env) fun s' =>
      ∃ meshRepository textureRepository meshHandle baseColor normalMap,
        s' = { s with
          meshRepository
          textureRepository
          arenaMapMeshHandle := meshHandle
          arenaMapBaseColorTextureHandle := baseColor
          arenaMapNormalMapTextureHandle := normalMap } ∧
        s'.FindsMesh meshHandle (modelMesh env 0 (arenaMapPath env)) ∧
        HasArenaTexture env 0 (arenaTexture env wantedArenaBaseColor) s' baseColor ∧
        HasArenaTexture env 1 (arenaTexture env wantedArenaNormalMap) s' normalMap := by
  unfold initializeArena
  by_cases hpath : FilePath.empty (arenaMapPath env) = true
  · rw [if_pos hpath]
    exact ⟨.refl s, by rintro _ ⟨⟩; rfl, nofun⟩
  rw [if_neg hpath]
  dsimp only
  by_cases hsucceeded : (loadStaticModelData env.readFile (arenaMapPath env)).succeeded = true
  · rw [dif_pos hsucceeded]
    obtain ⟨hshown, hmesh⟩ := shownMesh_eq hsucceeded
    obtain ⟨scene, -, hwellFormed⟩ := wellFormed_of_succeeded hsucceeded
    unfold modelMesh arenaTexture
    rw [hshown, Option.bind_some, Option.bind_some, Option.bind_some]
    generalize (loadStaticModelData env.readFile (arenaMapPath env)).frontMesh hsucceeded = mapMesh
      at hmesh ⊢
    obtain ⟨meshRepository, hs, hgrows, hfinds⟩ :=
      createMeshResource_eq env.renderer (env.meshAnswers 0) mapMesh.meshData s
    generalize createMeshResource env.renderer (env.meshAnswers 0) mapMesh.meshData s = created
      at hs hfinds ⊢
    obtain ⟨meshHandle, s₁⟩ := created
    dsimp only at hs hfinds ⊢
    subst hs
    by_cases hvalid : meshHandle.isValid = true
    · rw [hvalid, Bool.not_true, if_neg Bool.false_ne_true]
      have hgrows₁ : s.Grows { s with meshRepository, arenaMapMeshHandle := meshHandle } :=
        ⟨hgrows.meshes, hgrows.textures⟩
      have hstored₁ := hgrows₁.stored hstored
      have hfound : ({ s with meshRepository, arenaMapMeshHandle := meshHandle } : Stage).FindsMesh
          meshHandle (env.renderer.createMesh (env.meshAnswers 0) mapMesh.meshData) :=
        hfinds hvalid
      obtain ⟨hgrows', herror, hdone⟩ :=
        createArenaTextures_sound env hwellFormed hmesh hstored₁ hbase hnormal
      refine ⟨hgrows₁.trans hgrows', herror, fun hnone => ?_⟩
      obtain ⟨textureRepository, baseColor, normalMap, hs', hbaseColor, hnormalMap⟩ := hdone hnone
      exact ⟨meshRepository, textureRepository, meshHandle, baseColor, normalMap, hs',
        hfound.mono hstored₁ hgrows', hbaseColor, hnormalMap⟩
    · rw [Bool.not_eq_true] at hvalid
      rw [hvalid, Bool.not_false, if_pos rfl]
      exact ⟨⟨hgrows.meshes, hgrows.textures⟩, by rintro _ ⟨⟩; rfl, nofun⟩
  · rw [dif_neg hsucceeded]
    exact ⟨.refl s, by rintro _ ⟨⟩; rfl, nofun⟩

/-- **The mesh of the players.** -/
theorem initializePlayerMesh_sound (env : RenderEnvironment π) (s : Stage) :
    s.Sound (s.initializePlayerMesh env) fun s' => ∃ meshRepository meshHandle,
      s' = ({ s with meshRepository } : Stage).setPlayers
        { s.players with playerMeshHandle := meshHandle } ∧
      s'.FindsMesh meshHandle (modelMesh env 1 (playerModelPath env)) := by
  unfold initializePlayerMesh
  by_cases hpath : FilePath.empty (playerModelPath env) = true
  · rw [if_pos hpath]
    exact ⟨.refl s, by rintro _ ⟨⟩; rfl, nofun⟩
  rw [if_neg hpath]
  dsimp only
  by_cases hsucceeded : (loadStaticModelData env.readFile (playerModelPath env)).succeeded = true
  · rw [dif_pos hsucceeded]
    unfold modelMesh
    rw [(shownMesh_eq hsucceeded).1, Option.bind_some]
    generalize (loadStaticModelData env.readFile (playerModelPath env)).frontMesh hsucceeded =
      playerMesh
    obtain ⟨meshRepository, hs, hgrows, hfinds⟩ :=
      createMeshResource_eq env.renderer (env.meshAnswers 1) playerMesh.meshData s
    generalize createMeshResource env.renderer (env.meshAnswers 1) playerMesh.meshData s = created
      at hs hfinds ⊢
    obtain ⟨meshHandle, s₁⟩ := created
    dsimp only at hs hfinds ⊢
    subst hs
    by_cases hvalid : meshHandle.isValid = true
    · rw [hvalid, Bool.not_true, if_neg Bool.false_ne_true]
      exact ⟨hgrows.trans (grows_setPlayers _ _), nofun,
        fun _ => ⟨meshRepository, meshHandle, rfl, hfinds hvalid⟩⟩
    · rw [Bool.not_eq_true] at hvalid
      rw [hvalid, Bool.not_false, if_pos rfl]
      exact ⟨hgrows.trans (grows_setPlayers _ _), by rintro _ ⟨⟩; rfl, nofun⟩
  · rw [dif_neg hsucceeded]
    exact ⟨.refl s, by rintro _ ⟨⟩; rfl, nofun⟩

/-- **The textures of the players**, two for each side. -/
theorem initializePlayerTextures_sound (env : RenderEnvironment π) (hstored : s.Stored) :
    s.Sound (s.initializePlayerTextures env) fun s' =>
      ∃ textureRepository flame frost,
        s' = ({ s with textureRepository } : Stage).setPlayers
          { s.players with flamePlayerTextureSet := flame, frostPlayerTextureSet := frost } ∧
        s'.FindsTexture flame.baseColorTextureHandle
          (fileTexture env 2 (flameBaseColorTexturePath env)) ∧
        s'.FindsTexture flame.normalTextureHandle
          (fileTexture env 3 (flameNormalMapTexturePath env)) ∧
        s'.FindsTexture frost.baseColorTextureHandle
          (fileTexture env 4 (frostBaseColorTexturePath env)) ∧
        s'.FindsTexture frost.normalTextureHandle
          (fileTexture env 5 (frostNormalMapTexturePath env)) := by
  unfold initializePlayerTextures
  split
  · exact ⟨.refl s, by rintro _ ⟨⟩; rfl, nofun⟩
  refine (((createPlayerTexture_sound env 2 _ _ _ rfl s).andThen
    (fun s' => ∃ textureRepository baseColor normal,
      s' = ({ s with textureRepository } : Stage).setPlayers
        { s.players with flamePlayerTextureSet := ⟨baseColor, normal⟩ } ∧
      s'.FindsTexture baseColor (fileTexture env 2 (flameBaseColorTexturePath env)) ∧
      s'.FindsTexture normal (fileTexture env 3 (flameNormalMapTexturePath env)))
    fun s₁ hgrows₁ hdone₁ => ?_).andThen
    (fun s' => ∃ textureRepository flame baseColor,
      s' = ({ s with textureRepository } : Stage).setPlayers
        { s.players with
          flamePlayerTextureSet := flame
          frostPlayerTextureSet.baseColorTextureHandle := baseColor } ∧
      s'.FindsTexture flame.baseColorTextureHandle
        (fileTexture env 2 (flameBaseColorTexturePath env)) ∧
      s'.FindsTexture flame.normalTextureHandle
        (fileTexture env 3 (flameNormalMapTexturePath env)) ∧
      s'.FindsTexture baseColor (fileTexture env 4 (frostBaseColorTexturePath env)))
    fun s₂ hgrows₂ hdone₂ => ?_).andThen _ fun s₃ hgrows₃ hdone₃ => ?_
  · obtain ⟨textureRepository, baseColor, rfl, hbaseColor⟩ := hdone₁
    obtain ⟨hgrows, herror, hdone⟩ := createPlayerTexture_sound env 3
      (flameNormalMapTexturePath env) (fun textureHandle players =>
        { players with flamePlayerTextureSet.normalTextureHandle := textureHandle })
      .flameNormalTexture rfl _
    refine ⟨hgrows, herror, fun hnone => ?_⟩
    have hkept := hbaseColor.mono (hgrows₁.stored hstored) hgrows
    obtain ⟨textureRepository', normal, hs, hnormal⟩ := hdone hnone
    rw [hs] at hkept hnormal ⊢
    exact ⟨textureRepository', baseColor, normal, rfl, hkept, hnormal⟩
  · obtain ⟨textureRepository, baseColor, normal, rfl, hbaseColor, hnormal⟩ := hdone₂
    obtain ⟨hgrows, herror, hdone⟩ := createPlayerTexture_sound env 4
      (frostBaseColorTexturePath env) (fun textureHandle players =>
        { players with frostPlayerTextureSet.baseColorTextureHandle := textureHandle })
      .frostBaseColorTexture rfl _
    refine ⟨hgrows, herror, fun hnone => ?_⟩
    have hbaseKept := hbaseColor.mono (hgrows₂.stored hstored) hgrows
    have hnormalKept := hnormal.mono (hgrows₂.stored hstored) hgrows
    obtain ⟨textureRepository', frost, hs, hfrost⟩ := hdone hnone
    rw [hs] at hbaseKept hnormalKept hfrost ⊢
    exact ⟨textureRepository', ⟨baseColor, normal⟩, frost, rfl, hbaseKept, hnormalKept, hfrost⟩
  · obtain ⟨textureRepository, flame, baseColor, rfl, hflame, hflameNormal, hbaseColor⟩ := hdone₃
    obtain ⟨hgrows, herror, hdone⟩ := createPlayerTexture_sound env 5
      (frostNormalMapTexturePath env) (fun textureHandle players =>
        { players with frostPlayerTextureSet.normalTextureHandle := textureHandle })
      .frostNormalTexture rfl _
    refine ⟨hgrows, herror, fun hnone => ?_⟩
    have hflameKept := hflame.mono (hgrows₃.stored hstored) hgrows
    have hflameNormalKept := hflameNormal.mono (hgrows₃.stored hstored) hgrows
    have hbaseKept := hbaseColor.mono (hgrows₃.stored hstored) hgrows
    obtain ⟨textureRepository', normal, hs, hnormal⟩ := hdone hnone
    rw [hs] at hflameKept hflameNormalKept hbaseKept hnormal ⊢
    exact ⟨textureRepository', flame, ⟨baseColor, normal⟩, rfl, hflameKept, hflameNormalKept,
      hbaseKept, hnormal⟩

end Attempts

/-! ## The players -/

/-- An entry has the mesh of the players, and the textures of a side that its player is said to be
on. -/
structure Dressed (players : PlayerResources) (told : PlayerId → PlayerSide → Prop)
    (entry : PlayerRenderEntry) : Prop where
  mesh : entry.renderObject.meshHandle = players.playerMeshHandle
  textures : ∃ side, told entry.playerId side ∧
    entry.textureSet = RenderingApplication.textureSetOf players side

/-- All players that are drawn are dressed. -/
def AllDressed (told : PlayerId → PlayerSide → Prop) (r : RenderingApplication) : Prop :=
  ∀ entry ∈ r.playerRenderEntries, Dressed r.resources told entry

section Players

variable {atan2 : ℚ → ℚ → ℚ} {players : PlayerResources} {entry : PlayerRenderEntry}
  {told told' : PlayerId → PlayerSide → Prop} {r r' : RenderingApplication}

theorem AllDressed.mono (h : AllDressed told r)
    (hmore : ∀ playerId side, told playerId side → told' playerId side) : AllDressed told' r := by
  intro entry hentry
  obtain ⟨hmesh, side, htold, htextures⟩ := h entry hentry
  exact ⟨hmesh, side, hmore _ _ htold, htextures⟩

theorem Dressed.created (players : PlayerResources) {playerState : PlayerStateSnapshot FloatBits}
    (htold : told playerState.playerId playerState.side) :
    Dressed players told
      ⟨playerState.playerId, createPlayerRenderObject players playerState⟩ := by
  refine ⟨?_, playerState.side, htold, ?_⟩
  · unfold createPlayerRenderObject
    dsimp only
    split
    · rfl
    split
    · rfl
    · rfl
  · unfold createPlayerRenderObject RenderingApplication.textureSetOf
    dsimp only
    split
    · rfl
    split
    · rfl
    · rfl

/-- The transformation of an entry has no say. -/
theorem Dressed.moved (h : Dressed players told entry) {entry' : PlayerRenderEntry}
    (hid : entry'.playerId = entry.playerId)
    (hmesh : entry'.renderObject.meshHandle = entry.renderObject.meshHandle)
    (htextures : entry'.textureSet = entry.textureSet) : Dressed players told entry' := by
  obtain ⟨hsame, side, htold, hset⟩ := h
  exact ⟨hmesh.trans hsame, side, hid ▸ htold, htextures.trans hset⟩

theorem Dressed.interpolated (h : Dressed players told entry) (alpha : ℚ)
    (previous next : WorldStateSnapshot FloatBits) :
    Dressed players told (interpolateEntry atan2 alpha previous next entry) := by
  unfold interpolateEntry
  split
  · unfold interpolatePlayer
    dsimp only
    split
    · exact h.moved rfl rfl rfl
    split
    · exact h.moved rfl rfl rfl
    split
    · exact h.moved rfl rfl rfl
    · exact h.moved rfl rfl rfl
  · exact h

theorem synchronizePlayer_dressed {entries : List PlayerRenderEntry}
    (h : ∀ entry ∈ entries, Dressed players told entry)
    {playerState : PlayerStateSnapshot FloatBits}
    (htold : told playerState.playerId playerState.side) :
    Dressed players told (synchronizePlayer atan2 players entries playerState) := by
  unfold synchronizePlayer
  cases hfind : entries.find? fun entry => entry.playerId = playerState.playerId with
  | none =>
      have hcreated := Dressed.created players htold
      dsimp only
      split
      · exact hcreated.moved rfl rfl rfl
      · exact hcreated.moved rfl rfl rfl
  | some existing =>
      have hkept := h existing (List.mem_of_find?_eq_some hfind)
      dsimp only
      split
      · exact hkept.moved rfl rfl rfl
      · exact hkept.moved rfl rfl rfl

/-- What a snapshot says of the sides of its players is taken in. -/
theorem AllDressed.handle (h : AllDressed told r) (generation : ℕ) (now : ℤ)
    {invocation : Invocation} (hnew : ∀ snapshot, invocation = .worldStateSnapshot snapshot →
      ∀ playerState ∈ snapshot.players, told playerState.playerId playerState.side) :
    AllDressed told (r.handle atan2 generation now invocation) ∧
      (r.handle atan2 generation now invocation).resources = r.resources := by
  cases invocation with
  | connected | connectionFailed error | disconnected error | playerIdentity identity =>
      exact ⟨h, rfl⟩
  | worldStateSnapshot snapshot =>
      by_cases haccepts : r.game.Accepts snapshot
      · obtain ⟨-, hresources, hentries⟩ :=
          RenderingApplication.handle_worldStateSnapshot atan2 generation now haccepts
        refine ⟨fun entry hentry => ?_, hresources⟩
        rw [hentries] at hentry
        obtain ⟨playerState, hplayer, rfl⟩ := List.mem_map.mp hentry
        rw [hresources]
        exact synchronizePlayer_dressed h (hnew snapshot rfl playerState hplayer)
      · obtain ⟨-, hresources, hentries⟩ :=
          RenderingApplication.handle_worldStateSnapshot_refused atan2 generation now haccepts
        refine ⟨fun entry hentry => ?_, hresources⟩
        rw [hentries] at hentry
        rw [hresources]
        exact h entry hentry

theorem AllDressed.interpolate (h : AllDressed told r) {now : ℤ}
    (hinterpolate : r.interpolate atan2 now = .ok r') :
    AllDressed told r' ∧ r'.resources = r.resources := by
  unfold RenderingApplication.interpolate at hinterpolate
  split at hinterpolate
  · cases hinterpolate
    exact ⟨h, rfl⟩
  · obtain ⟨drawn, -, hdrawn⟩ := Checked.bind_eq_ok.mp hinterpolate
    cases drawn with
    | none =>
        cases hdrawn
        exact ⟨h, rfl⟩
    | some drawn =>
        cases hdrawn
        refine ⟨fun entry hentry => ?_, rfl⟩
        obtain ⟨before, hbefore, rfl⟩ := List.mem_map.mp hentry
        exact (h before hbefore).interpolated _ _ _

/-- **Whatever is handled and updated**, the players that are drawn are dressed. -/
theorem AllDressed.step (h : AllDressed told r) {now : ℤ}
    {event : InterpolatingApplication.Event} (hevent : event ≠ .shutdown)
    (hnew : ∀ generation snapshot, event = .invoke generation (.worldStateSnapshot snapshot) →
      ∀ playerState ∈ snapshot.players, told playerState.playerId playerState.side)
    (hstep : r.step atan2 (now, event) = .ok r') :
    AllDressed told r' ∧ r'.resources = r.resources := by
  cases event with
  | shutdown => exact absurd rfl hevent
  | invoke generation invocation =>
      cases hstep
      refine h.handle generation now fun snapshot hsnapshot => hnew generation snapshot ?_
      rw [hsnapshot]
  | update clock keys c =>
      obtain ⟨updated, hupdate, hr⟩ := Checked.bind_eq_ok.mp hstep
      cases hr
      unfold RenderingApplication.update at hupdate
      obtain ⟨r₁, hinterpolate, hsubmitted⟩ := Checked.bind_eq_ok.mp hupdate
      have hprobed : AllDressed told { r with interpolating.application :=
          (ClientApplication.probeRtt clock c r.interpolating.application).2 } := h
      obtain ⟨hall, hresources⟩ := hprobed.interpolate hinterpolate
      cases hsubmitted
      exact ⟨hall, hresources⟩

end Players

/-! ## Before and after `Run` -/

/-- Everything that the world is drawn with is there, each made from its own file. -/
structure Furnished (env : RenderEnvironment π) (told : PlayerId → PlayerSide → Prop)
    (s : Stage) : Prop where
  stored : s.Stored
  arenaMesh : s.FindsMesh s.arenaMapMeshHandle (modelMesh env 0 (arenaMapPath env))
  arenaBaseColor : HasArenaTexture env 0 (arenaTexture env wantedArenaBaseColor) s
    s.arenaMapBaseColorTextureHandle
  arenaNormalMap : HasArenaTexture env 1 (arenaTexture env wantedArenaNormalMap) s
    s.arenaMapNormalMapTextureHandle
  playerMesh : s.FindsMesh s.players.playerMeshHandle (modelMesh env 1 (playerModelPath env))
  flameBaseColor : s.FindsTexture s.players.flamePlayerTextureSet.baseColorTextureHandle
    (fileTexture env 2 (flameBaseColorTexturePath env))
  flameNormal : s.FindsTexture s.players.flamePlayerTextureSet.normalTextureHandle
    (fileTexture env 3 (flameNormalMapTexturePath env))
  frostBaseColor : s.FindsTexture s.players.frostPlayerTextureSet.baseColorTextureHandle
    (fileTexture env 4 (frostBaseColorTexturePath env))
  frostNormal : s.FindsTexture s.players.frostPlayerTextureSet.normalTextureHandle
    (fileTexture env 5 (frostNormalMapTexturePath env))
  renderObjects : s.renderObjects = [s.arenaMapObject]
  dressed : AllDressed told s.rendering

/-- Nothing is there, apart from what the repositories have counted. -/
structure Bare (s : Stage) : Prop where
  stored : s.Stored
  meshes : ∀ meshHandle, s.meshRepository.findMesh meshHandle = none
  textures : ∀ textureHandle, s.textureRepository.findTexture textureHandle = none
  arenaBaseColor : s.arenaMapBaseColorTextureHandle = {}
  arenaNormalMap : s.arenaMapNormalMapTextureHandle = {}
  renderObjects : s.renderObjects = []
  players : s.rendering.playerRenderEntries = []
  identity : s.rendering.game.playerIdentity = none

/-! ## The last start -/

/-- What a start finds. -/
def Event.environment : Event π → Option (RenderEnvironment π)
  | .run env => some env
  | _ => none

/-- What the last start has found. -/
def lastRun (events : List (Event π)) : Option (RenderEnvironment π) :=
  (events.filterMap Event.environment).getLast?

/-- What has happened since the last start. -/
def sinceRun (events : List (Event π)) : List (Event π) :=
  events.rtakeWhile fun event => event.environment.isNone

/-- A snapshot that was handled since the last start has the player on this side. -/
def Told (events : List (Event π)) (playerId : PlayerId) (side : PlayerSide) : Prop :=
  ∃ now generation snapshot,
    .application now (.invoke generation (.worldStateSnapshot snapshot)) ∈ sinceRun events ∧
      ∃ playerState ∈ snapshot.players, playerState.playerId = playerId ∧ playerState.side = side

section LastRun

variable {events : List (Event π)} {event : Event π} {env : RenderEnvironment π}

omit [FilePath π] in
theorem lastRun_run : lastRun (events ++ [.run env]) = some env := by
  simp [lastRun, Event.environment]

omit [FilePath π] in
theorem lastRun_concat (h : event.environment = none) :
    lastRun (events ++ [event]) = lastRun events := by
  simp [lastRun, h]

omit [FilePath π] in
theorem sinceRun_concat (h : event.environment = none) :
    sinceRun (events ++ [event]) = sinceRun events ++ [event] :=
  List.rtakeWhile_concat_pos _ _ _ (by simp [h])

omit [FilePath π] in
theorem Told.concat {playerId : PlayerId} {side : PlayerSide} (h : Told events playerId side)
    (hevent : event.environment = none) : Told (events ++ [event]) playerId side := by
  obtain ⟨now, generation, snapshot, hin, hplayer⟩ := h
  refine ⟨now, generation, snapshot, ?_, hplayer⟩
  rw [sinceRun_concat hevent]
  exact List.mem_append_left _ hin

omit [FilePath π] in
theorem told_snapshot (events : List (Event π)) (now : ℤ) (generation : ℕ)
    (snapshot : WorldStateSnapshot FloatBits) : ∀ playerState ∈ snapshot.players,
      Told (events ++ [.application now (.invoke generation (.worldStateSnapshot snapshot))])
        playerState.playerId playerState.side := by
  intro playerState hplayer
  refine ⟨now, generation, snapshot, ?_, playerState, hplayer, rfl, rfl⟩
  rw [sinceRun_concat rfl]
  exact List.mem_append_right _ (List.mem_singleton_self _)

end LastRun

section Runs

variable {atan2 : ℚ → ℚ → ℚ} {s s' : Stage} {env : RenderEnvironment π}
  {told told' : PlayerId → PlayerSide → Prop}

theorem bare_initial : ({} : Stage).Bare :=
  ⟨⟨⟨[], rfl⟩, ⟨[], rfl⟩⟩, fun _ => Repository.store_issues.start _,
    fun _ => Repository.store_issues.start _, rfl, rfl, rfl, rfl, rfl⟩

theorem Stored.shutdown (h : s.Stored) : s.shutdown.Bare :=
  ⟨⟨h.meshes.clear, h.textures.clear⟩, fun _ => (Repository.store_issues.clear _).2 _,
    fun _ => (Repository.store_issues.clear _).2 _, rfl, rfl, rfl, rfl, rfl⟩

/-- **`InitializeRenderResources`** furnishes a stage that is bare, or reports an error, and never
that an index leads nowhere. -/
theorem initializeRenderResources_sound (told : PlayerId → PlayerSide → Prop)
    (env : RenderEnvironment π) (h : s.Bare) :
    s.Sound (s.initializeRenderResources env) (Furnished env told) := by
  refine (((initializeArena_sound env h.stored h.arenaBaseColor h.arenaNormalMap).andThen
    (fun s' => s'.Stored ∧
      s'.FindsMesh s'.arenaMapMeshHandle (modelMesh env 0 (arenaMapPath env)) ∧
      HasArenaTexture env 0 (arenaTexture env wantedArenaBaseColor) s'
        s'.arenaMapBaseColorTextureHandle ∧
      HasArenaTexture env 1 (arenaTexture env wantedArenaNormalMap) s'
        s'.arenaMapNormalMapTextureHandle ∧
      s'.FindsMesh s'.players.playerMeshHandle (modelMesh env 1 (playerModelPath env)) ∧
      s'.renderObjects = [] ∧ s'.rendering.playerRenderEntries = [])
    fun s₁ hgrows₁ hdone₁ => ?_).andThen
    (fun s' => Furnished env told
      { s' with renderObjects := s'.renderObjects ++ [s'.arenaMapObject] })
    fun s₂ hgrows₂ hdone₂ => ?_).andThen _ fun s₃ _ hdone₃ => ?_
  · have hstored₁ := hgrows₁.stored h.stored
    obtain ⟨hgrows, herror, hdone⟩ := initializePlayerMesh_sound env s₁
    refine ⟨hgrows, herror, fun hnone => ?_⟩
    obtain ⟨meshRepository, textureRepository, meshHandle, baseColor, normalMap, hs₁, hmesh,
      hbaseColor, hnormalMap⟩ := hdone₁
    have hmeshKept := hmesh.mono hstored₁ hgrows
    have hbaseColorKept := hbaseColor.mono hstored₁ hgrows
    have hnormalMapKept := hnormalMap.mono hstored₁ hgrows
    have hstored₂ := hgrows.stored hstored₁
    obtain ⟨meshRepository', playerMeshHandle, hs₂, hplayer⟩ := hdone hnone
    rw [hs₂] at hstored₂ hmeshKept hbaseColorKept hnormalMapKept hplayer ⊢
    subst hs₁
    exact ⟨hstored₂, hmeshKept, hbaseColorKept, hnormalMapKept, hplayer, h.renderObjects, h.players⟩
  · obtain ⟨hstored₂, hmesh, hbaseColor, hnormalMap, hplayer, hobjects, hentries⟩ := hdone₂
    obtain ⟨hgrows, herror, hdone⟩ := initializePlayerTextures_sound env hstored₂
    refine ⟨hgrows, herror, fun hnone => ?_⟩
    have hmeshKept := hmesh.mono hstored₂ hgrows
    have hbaseColorKept := hbaseColor.mono hstored₂ hgrows
    have hnormalMapKept := hnormalMap.mono hstored₂ hgrows
    have hplayerKept := hplayer.mono hstored₂ hgrows
    have hstored₃ := hgrows.stored hstored₂
    obtain ⟨textureRepository, flame, frost, hs₃, hflame, hflameNormal, hfrost, hfrostNormal⟩ :=
      hdone hnone
    rw [hs₃] at hstored₃ hmeshKept hbaseColorKept hnormalMapKept hplayerKept
    rw [hs₃] at hflame hflameNormal hfrost hfrostNormal ⊢
    refine ⟨⟨hstored₃.meshes, hstored₃.textures⟩, hmeshKept, ?_, ?_, hplayerKept, hflame,
      hflameNormal, hfrost, hfrostNormal, ?_, ?_⟩
    · exact hbaseColorKept.mono hstored₃ ⟨.refl _, .refl _⟩
    · exact hnormalMapKept.mono hstored₃ ⟨.refl _, .refl _⟩
    · show s₂.renderObjects ++ _ = _
      rw [hobjects]
      rfl
    · intro entry hentry
      change entry ∈ s₂.rendering.playerRenderEntries at hentry
      rw [hentries] at hentry
      cases hentry
  · exact ⟨⟨.refl _, .refl _⟩, nofun, fun _ => hdone₃⟩

theorem Furnished.congr (h : s.Furnished env told) (hmeshes : s'.meshRepository = s.meshRepository)
    (htextures : s'.textureRepository = s.textureRepository)
    (hmesh : s'.arenaMapMeshHandle = s.arenaMapMeshHandle)
    (hbaseColor : s'.arenaMapBaseColorTextureHandle = s.arenaMapBaseColorTextureHandle)
    (hnormalMap : s'.arenaMapNormalMapTextureHandle = s.arenaMapNormalMapTextureHandle)
    (hobjects : s'.renderObjects = s.renderObjects) (hplayers : s'.players = s.players)
    (hdressed : AllDressed told' s'.rendering) : s'.Furnished env told' := by
  have hgrows : s.Grows s' :=
    ⟨hmeshes ▸ .refl _, htextures ▸ .refl _⟩
  refine ⟨hgrows.stored h.stored, hmesh ▸ h.arenaMesh.mono h.stored hgrows,
    hbaseColor ▸ h.arenaBaseColor.mono h.stored hgrows,
    hnormalMap ▸ h.arenaNormalMap.mono h.stored hgrows,
    hplayers ▸ h.playerMesh.mono h.stored hgrows, hplayers ▸ h.flameBaseColor.mono h.stored hgrows,
    hplayers ▸ h.flameNormal.mono h.stored hgrows, hplayers ▸ h.frostBaseColor.mono h.stored hgrows,
    hplayers ▸ h.frostNormal.mono h.stored hgrows, ?_, hdressed⟩
  unfold arenaMapObject
  rw [hobjects, h.renderObjects, hmesh, hbaseColor, hnormalMap]
  rfl

/-- The stage is bare until `Run` has furnished it, and after `Shutdown`. -/
def Arranged (events : List (Event π)) (s : Stage) : Prop :=
  s.running = false ∧ s.Bare ∨
    s.running = true ∧ ∃ env, lastRun events = some env ∧ s.Furnished env (Told events)

theorem Arranged.stored {events : List (Event π)} (h : s.Arranged events) : s.Stored := by
  rcases h with ⟨-, hbare⟩ | ⟨-, env, -, hfurnished⟩
  · exact hbare.stored
  · exact hfurnished.stored

/-- **`Run`** furnishes the stage, or leaves it bare. -/
theorem arranged_start {events : List (Event π)} (h : s.Arranged events)
    (hstep : s.step atan2 (.run env) = some s') : s'.Arranged (events ++ [.run env]) := by
  simp only [step] at hstep
  split at hstep
  · cases hstep
  next hstopped =>
    obtain ⟨-, hbare⟩ := h.resolve_right (fun h => hstopped h.1)
    obtain ⟨hgrows, -, hdone⟩ := initializeRenderResources_sound (Told (events ++ [.run env])) env
      hbare
    generalize s.initializeRenderResources env = attempt at hgrows hdone hstep
    obtain ⟨error, s₁⟩ := attempt
    cases error with
    | some error =>
        cases hstep
        exact Or.inl ⟨rfl, (hgrows.stored hbare.stored).shutdown⟩
    | none =>
        cases hstep
        have hfurnished : s₁.Furnished env (Told (events ++ [.run env])) := hdone rfl
        refine Or.inr ⟨rfl, env, lastRun_run, ?_⟩
        exact hfurnished.congr rfl rfl rfl rfl rfl rfl rfl hfurnished.dressed

/-- **Whatever the loop of `Run` does**, the stage stays furnished. -/
theorem arranged_application {events : List (Event π)} (h : s.Arranged events) {now : ℤ}
    {event : InterpolatingApplication.Event} (hevent : event ≠ .shutdown)
    (hstep : s.step atan2 (.application now event : Event π) = some s') :
    s'.Arranged (events ++ [.application now event]) := by
  have hstep' : (if !s.running then none
      else (s.rendering.step atan2 (now, event)).toOption.map fun rendering =>
        { s with rendering }) = some s' := by
    cases event with
    | shutdown => exact absurd rfl hevent
    | invoke generation invocation => exact hstep
    | update clock keys c => exact hstep
  split at hstep'
  · cases hstep'
  next hrunning =>
    obtain ⟨rendering, hrendering, rfl⟩ := Option.map_eq_some_iff.mp hstep'
    rcases h with ⟨hstopped, -⟩ | ⟨_, env, hlast, hfurnished⟩
    · rw [hstopped] at hrunning
      exact absurd rfl hrunning
    have hok : s.rendering.step atan2 (now, event) = .ok rendering := by
      cases hresult : s.rendering.step atan2 (now, event) with
      | error outOfBounds =>
          rw [hresult] at hrendering
          cases hrendering
      | ok result =>
          rw [hresult] at hrendering
          cases hrendering
          rfl
    have hbefore := hfurnished.dressed.mono fun playerId side htold =>
      htold.concat (rfl : Event.environment (.application now event) = none)
    obtain ⟨hdressed, hresources⟩ := hbefore.step hevent (fun generation snapshot hinvoke =>
      hinvoke ▸ told_snapshot events now generation snapshot) hok
    refine Or.inr ⟨by simpa using hrunning, env, (lastRun_concat rfl).trans hlast, ?_⟩
    exact hfurnished.congr rfl rfl rfl rfl rfl rfl hresources hdressed

theorem arranged_step {events : List (Event π)} (h : s.Arranged events) {event : Event π}
    (hstep : s.step atan2 event = some s') : s'.Arranged (events ++ [event]) := by
  cases event with
  | shutdown =>
      cases hstep
      exact Or.inl ⟨rfl, h.stored.shutdown⟩
  | run env => exact arranged_start h hstep
  | application now event =>
      by_cases hevent : event = .shutdown
      · subst hevent
        cases hstep
        exact Or.inl ⟨rfl, h.stored.shutdown⟩
      · exact arranged_application h hevent hstep

theorem arranged_run {events : List (Event π)} (hrun : runFrom (step atan2) {} events = some s) :
    s.Arranged events :=
  runFrom_induction_events (P := fun events s => Arranged events s)
    (Or.inl ⟨rfl, bare_initial⟩) (fun _ _ _ _ h hstep => arranged_step h hstep) hrun

/-! ## Drawing -/

/-- What an object looks like: the data of its mesh, and what its textures are made of. -/
structure Look (π : Type) where
  meshData : MeshData
  baseColor : Option (ImageSource π)
  normalMap : Option (ImageSource π)

/-- A mesh of the model of the arena, with the textures of its material. -/
def arenaLook (env : RenderEnvironment π) (mesh : ModelMeshData) : Look π :=
  let modelData := (loadStaticModelData env.readFile (arenaMapPath env)).modelData
  { meshData := mesh.meshData
    baseColor := (wantedArenaBaseColor modelData mesh).map ModelTextureData.source
    normalMap := (wantedArenaNormalMap modelData mesh).map ModelTextureData.source }

/-- A mesh of the model of the players, with the textures of a side. -/
def playerLook (env : RenderEnvironment π) (mesh : ModelMeshData) (side : PlayerSide) : Look π :=
  if side = .flame then
    ⟨mesh.meshData, some (.file (flameBaseColorTexturePath env)),
      some (.file (flameNormalMapTexturePath env))⟩
  else if side = .frost then
    ⟨mesh.meshData, some (.file (frostBaseColorTexturePath env)),
      some (.file (frostNormalMapTexturePath env))⟩
  else ⟨mesh.meshData, none, none⟩

/-- A texture is initialized and shows its source, if there is one. -/
def Shows (decoder : ImageDecoder π) : Option (ImageSource π) → Option D3D11Texture → Prop :=
  Option.Rel fun source texture =>
    texture.isInitialized = true ∧ texture.Pictures decoder source

/-- `DrawRenderObject` finds everything the object is drawn with, and it looks like this. -/
def Drawable (env : RenderEnvironment π) (s : Stage) (renderObject : RenderObject)
    (look : Look π) : Prop :=
  ∃ mesh baseColor normalMap,
    drawRenderObject s.meshRepository s.textureRepository renderObject =
      some (mesh, baseColor, normalMap) ∧
    mesh.Draws look.meshData ∧ Shows env.decoder look.baseColor baseColor ∧
      Shows env.decoder look.normalMap normalMap

/-- A lookup of `DrawRenderObject` finds a texture of a source, or none for none. -/
def LooksUp (env : RenderEnvironment π) (s : Stage) (textureHandle : TextureHandle)
    (source : Option (ImageSource π)) : Prop :=
  ∃ texture, textureOf s.textureRepository textureHandle = some texture ∧
    Shows env.decoder source texture

theorem modelTexture_pictures {call : ℕ} {t : ModelTextureData π} {texture : D3D11Texture}
    (h : modelTexture env call t = some texture) : texture.Pictures env.decoder t.source := by
  unfold modelTexture at h
  unfold ModelTextureData.source
  split at h
  · next hembedded =>
      rw [if_pos hembedded]
      split at h
      · next hcompressed =>
          rw [if_pos hcompressed]
          exact D3D11Renderer.createTextureFromEncodedMemory_pictures h
      · next hraw =>
          rw [if_neg hraw]
          exact D3D11Renderer.createTextureFromBgraPixels_pictures h
  · next hexternal =>
      rw [if_neg hexternal]
      exact D3D11Renderer.createTextureFromFile_pictures h

omit [FilePath π] in
/-- A texture that can be found is not looked for in vain. -/
theorem FindsTexture.looksUp {textureHandle : TextureHandle} {created : Option D3D11Texture}
    {source : ImageSource π} (h : s.FindsTexture textureHandle created)
    (hpictures : ∀ texture, created = some texture → texture.Pictures env.decoder source) :
    LooksUp env s textureHandle (some source) := by
  obtain ⟨hsome, hfound⟩ := h
  obtain ⟨texture, rfl⟩ := Option.isSome_iff_exists.mp hsome
  have hpicture := hpictures texture rfl
  refine ⟨some texture, ?_, .some ⟨hpicture.isInitialized, hpicture⟩⟩
  unfold textureOf
  by_cases hvalid : textureHandle.isValid = true
  · rw [if_pos hvalid, hfound]
    rfl
  · have hnone : s.textureRepository.findTexture textureHandle = none :=
      if_pos (by simpa [TextureHandle.isValid] using hvalid)
    rw [hnone] at hfound
    cases hfound

theorem FindsTexture.looksUp_file {call : ℕ} {textureFilePath : π} {textureHandle : TextureHandle}
    (h : s.FindsTexture textureHandle (fileTexture env call textureFilePath)) :
    LooksUp env s textureHandle (some (.file textureFilePath)) :=
  h.looksUp fun _ => D3D11Renderer.createTextureFromFile_pictures

omit [FilePath π] in
theorem looksUp_none (env : RenderEnvironment π) (s : Stage) : LooksUp env s {} none :=
  ⟨none, rfl, .none⟩

theorem HasArenaTexture.looksUp {call : ℕ} {wanted : Option (ModelTextureData π)}
    {textureHandle : TextureHandle} (h : HasArenaTexture env call wanted s textureHandle) :
    LooksUp env s textureHandle (wanted.map ModelTextureData.source) := by
  cases wanted with
  | none =>
      obtain rfl : textureHandle = {} := h
      exact looksUp_none env s
  | some t => exact FindsTexture.looksUp h fun _ => modelTexture_pictures

/-- A mesh and two textures are all that is looked up. -/
theorem drawable_of {renderObject : RenderObject} {call : ℕ} {modelFilePath : π} {look : Look π}
    {mesh : ModelMeshData} (hshown : shownMesh env modelFilePath = some mesh)
    (hmesh : s.FindsMesh renderObject.meshHandle (modelMesh env call modelFilePath))
    (hdata : look.meshData = mesh.meshData)
    (hbaseColor : LooksUp env s renderObject.baseColorTextureHandle look.baseColor)
    (hnormalMap : LooksUp env s renderObject.normalMapTextureHandle look.normalMap) :
    s.Drawable env renderObject look := by
  obtain ⟨hsome, hfound⟩ := hmesh
  obtain ⟨created, hcreated⟩ := Option.isSome_iff_exists.mp hsome
  obtain ⟨baseColor, hbase, hbaseShows⟩ := hbaseColor
  obtain ⟨normalMap, hnormal, hnormalShows⟩ := hnormalMap
  rw [hcreated] at hfound
  rw [modelMesh, hshown, Option.bind_some] at hcreated
  refine ⟨created, baseColor, normalMap, ?_, hdata ▸ D3D11Renderer.createMesh_draws hcreated,
    hbaseShows, hnormalShows⟩
  unfold drawRenderObject
  rw [hfound, hbase, hnormal]
  rfl

theorem FindsMesh.shown {meshHandle : MeshHandle} {call : ℕ} {modelFilePath : π}
    (h : s.FindsMesh meshHandle (modelMesh env call modelFilePath)) :
    ∃ mesh, shownMesh env modelFilePath = some mesh := by
  obtain ⟨created, hcreated⟩ := Option.isSome_iff_exists.mp h.1
  obtain ⟨mesh, hshown, -⟩ := Option.bind_eq_some_iff.mp hcreated
  exact ⟨mesh, hshown⟩

/-- **The arena** of a furnished stage can be drawn. -/
theorem Furnished.arena (h : s.Furnished env told) {mesh : ModelMeshData}
    (hshown : shownMesh env (arenaMapPath env) = some mesh) :
    s.Drawable env s.arenaMapObject (arenaLook env mesh) := by
  have hbaseColor := h.arenaBaseColor.looksUp
  have hnormalMap := h.arenaNormalMap.looksUp
  rw [arenaTexture, hshown, Option.bind_some] at hbaseColor hnormalMap
  exact drawable_of hshown h.arenaMesh rfl hbaseColor hnormalMap

/-- **The players** of a furnished stage can be drawn, in the looks of a side they are on. -/
theorem Furnished.player (h : s.Furnished env told) {mesh : ModelMeshData}
    (hshown : shownMesh env (playerModelPath env) = some mesh) {entry : PlayerRenderEntry}
    (hentry : entry ∈ s.rendering.playerRenderEntries) : ∃ side, told entry.playerId side ∧
      s.Drawable env entry.renderObject (playerLook env mesh side) := by
  obtain ⟨hmesh, side, htold, hset⟩ := h.dressed entry hentry
  have hfound : s.FindsMesh entry.renderObject.meshHandle
      (modelMesh env 1 (playerModelPath env)) := hmesh ▸ h.playerMesh
  refine ⟨side, htold, ?_⟩
  unfold RenderingApplication.textureSetOf at hset
  unfold playerLook
  split at hset
  · next hflame =>
      obtain ⟨hbase, hnormal⟩ := PlayerTextureSet.mk.inj hset
      rw [if_pos hflame]
      exact drawable_of hshown hfound rfl (hbase ▸ h.flameBaseColor.looksUp_file)
        (hnormal ▸ h.flameNormal.looksUp_file)
  next hflame =>
  rw [if_neg hflame]
  split at hset
  · next hfrost =>
      obtain ⟨hbase, hnormal⟩ := PlayerTextureSet.mk.inj hset
      rw [if_pos hfrost]
      exact drawable_of hshown hfound rfl (hbase ▸ h.frostBaseColor.looksUp_file)
        (hnormal ▸ h.frostNormal.looksUp_file)
  · next hfrost =>
      obtain ⟨hbase, hnormal⟩ := PlayerTextureSet.mk.inj hset
      rw [if_neg hfrost]
      exact drawable_of hshown hfound rfl (hbase ▸ looksUp_none env s)
        (hnormal ▸ looksUp_none env s)

theorem Furnished.drawnObjects (h : s.Furnished env told) :
    s.drawnObjects = if s.rendering.game.playerIdentity.isSome then
      s.arenaMapObject :: s.rendering.playerRenderEntries.map (·.renderObject) else [] := by
  unfold Stage.drawnObjects RenderingApplication.drawnPlayerRenderEntries
  split
  · next hnone =>
      split at hnone
      · cases hnone
      · next hidentity => exact (if_neg hidentity).symm
  · next entries hentries =>
      split at hentries
      · next hidentity =>
          cases hentries
          rw [if_pos hidentity, h.renderObjects]
          rfl
      · cases hentries

theorem Bare.drawnObjects (h : s.Bare) : s.drawnObjects = [] := by
  unfold Stage.drawnObjects RenderingApplication.drawnPlayerRenderEntries
  rw [h.identity]
  rfl

/-- **Every object finds its resources.** In every run of the client, from start to shutdown and
over restarts: while it runs, the arena and all players are drawn with meshes and textures that are
there, made from the files that the last start found, the players in the looks of a side that a
snapshot has told since; while it does not run, no handle finds anything. No start fails because an
index of a model leads nowhere. -/
theorem every_object_finds_its_resources (atan2 : ℚ → ℚ → ℚ) (events : List (Event π)) (s : Stage)
    (hrun : runFrom (step atan2) {} events = some s) :
    (s.running = true → ∃ env arenaMesh playerMesh, lastRun events = some env ∧
      shownMesh env (arenaMapPath env) = some arenaMesh ∧
      shownMesh env (playerModelPath env) = some playerMesh ∧
      s.drawnObjects = (if s.rendering.game.playerIdentity.isSome then
        s.arenaMapObject :: s.rendering.playerRenderEntries.map (·.renderObject) else []) ∧
      s.Drawable env s.arenaMapObject (arenaLook env arenaMesh) ∧
      ∀ entry ∈ s.rendering.playerRenderEntries, ∃ side, Told events entry.playerId side ∧
        s.Drawable env entry.renderObject (playerLook env playerMesh side)) ∧
    (s.running = false → s.drawnObjects = [] ∧
      (∀ meshHandle, s.meshRepository.findMesh meshHandle = none) ∧
      (∀ textureHandle, s.textureRepository.findTexture textureHandle = none) ∧
      ∀ (env : RenderEnvironment π) (error : RenderResourceError),
        (s.initializeRenderResources env).1 = some error → error.isInvalidIndex = false) := by
  rcases arranged_run hrun with ⟨hstopped, hbare⟩ | ⟨hrunning, env, hlast, hfurnished⟩
  · refine ⟨?_, fun _ => ⟨hbare.drawnObjects, hbare.meshes, hbare.textures, ?_⟩⟩
    · intro hrunning
      rw [hstopped] at hrunning
      cases hrunning
    · intro env
      exact (initializeRenderResources_sound (fun _ _ => True) _ hbare).error
  · refine ⟨fun _ => ?_, ?_⟩
    · obtain ⟨arenaMesh, harena⟩ := hfurnished.arenaMesh.shown
      obtain ⟨playerMesh, hplayer⟩ := hfurnished.playerMesh.shown
      exact ⟨env, arenaMesh, playerMesh, hlast, harena, hplayer, hfurnished.drawnObjects,
        hfurnished.arena harena, fun entry hentry => hfurnished.player hplayer hentry⟩
    · intro hstopped
      rw [hrunning] at hstopped
      cases hstopped

/-- A client that finds a triangle in every model, and in every file one pixel that depends on its
name. -/
def triangleEnvironment : RenderEnvironment String where
  executablePathLength := 1
  executablePath := "client"
  readFile _ := .ok triangleScene
  decoder :=
    { file := fun filePath => some ⟨1, 1, fun _ => UInt8.ofNat filePath.length⟩
      memory := fun _ => none }
  renderer := { initialized := true }
  meshAnswers _ := {}
  textureAnswers _ := {}

/-- A start, an identity and a snapshot: the arena and one player are drawn. -/
def firstDrawing : List (Event String) := [
  .run triangleEnvironment,
  .application 0 (.invoke 1 (.playerIdentity ⟨1, 7⟩)),
  .application 100000000 (.invoke 1 (.worldStateSnapshot { ClientGameState.atTick 5 1 with
    players := [⟨7, .flame, .zero, .zero, .zero, .zero, .zero⟩] }))]

theorem every_object_finds_its_resources_firstDrawing :
    ∃ s, runFrom (step fun _ _ => 0) {} firstDrawing = some s ∧ s.drawnObjects.length = 2 ∧
      ∃ arenaMesh playerMesh entry side,
        s.Drawable triangleEnvironment s.arenaMapObject (arenaLook triangleEnvironment arenaMesh) ∧
        s.rendering.playerRenderEntries = [entry] ∧ Told firstDrawing 7 side ∧
        s.Drawable triangleEnvironment entry.renderObject
          (playerLook triangleEnvironment playerMesh side) := by
  have hdrawn : (runFrom (step fun _ _ => 0) {} firstDrawing).map (fun s =>
      ((s.running, s.drawnObjects.length),
        s.rendering.playerRenderEntries.map (·.playerId))) = some ((true, 2), [7]) := by
    decide +kernel
  obtain ⟨s, hrun, hs⟩ := Option.map_eq_some_iff.mp hdrawn
  obtain ⟨hboth, hids⟩ := Prod.mk.inj hs
  obtain ⟨hrunning, hlength⟩ := Prod.mk.inj hboth
  obtain ⟨hfinds, -⟩ := every_object_finds_its_resources (fun _ _ => 0) firstDrawing s hrun
  obtain ⟨env, arenaMesh, playerMesh, hlast, -, -, -, harena, hplayers⟩ := hfinds hrunning
  obtain rfl : triangleEnvironment = env := Option.some.inj hlast
  obtain ⟨entry, hentries, hid⟩ := List.map_eq_singleton_iff.mp hids
  obtain ⟨side, htold, hplayer⟩ := hplayers entry (hentries ▸ List.mem_singleton_self entry)
  exact ⟨s, hrun, hlength, arenaMesh, playerMesh, entry, side, harena, hentries, hid ▸ htold,
    hplayer⟩

end Runs

end Stage

end NetworkArena.Client
