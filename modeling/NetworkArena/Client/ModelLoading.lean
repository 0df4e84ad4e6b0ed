/-
# NetworkArena.Client.ModelLoading -- models as they are loaded

`assimp_model_loader.cpp` with `model_data.h`, `material_data.h`, `mesh_data.h` and `vertex3d.h`.
What Assimp returns is data: a scene with materials that may be missing, meshes of any kind and
textures inside the file. Its arrays are as long as Assimp says they are, which is part of their
types. The loader goes over materials and meshes and makes of them tables that refer to each other
by index; the last index stands for "none".

A texture is registered once for each source, however many materials use it (`addModelTextureData`).
The axes are changed by a rotation, so that what is left-handed in the file stays so
(`tripleProduct_toGameSpace`).

The numbers are exact, and paths are anything that can be joined, normalised and compared.
-/
import NetworkArena.Client.PlayerRendering
import NetworkArena.Foundation.Interning
import Mathlib.Data.List.OfFn
import Mathlib.Tactic.Ring

namespace NetworkArena.Client

open NetworkArena.Foundation

/-! ## Paths -/

/-- What the client does with `std::filesystem::path`. -/
class FilePath (π : Type) where
  /-- `{}`. -/
  noPath : π
  empty : π → Bool
  ofString : String → π
  isRelative : π → Bool
  parentPath : π → π
  append : π → π → π
  lexicallyNormal : π → π
  /-- `==`, which goes by the parts of the paths. -/
  equal : π → π → Bool
  equal_equivalence : Equivalence fun p q => equal p q = true

/-- Paths that are plain strings, all of them absolute. -/
instance : FilePath String where
  noPath := ""
  empty path := path == ""
  ofString path := path
  isRelative _ := false
  parentPath _ := ""
  append _ path := path
  lexicallyNormal path := path
  equal path other := path == other
  equal_equivalence := by simpa using eq_equivalence

/-! ## What Assimp returns -/

/-- `aiString`; a zero may be among its characters. -/
structure AiString where
  data : List Char
  deriving DecidableEq, Repr

def AiString.length (s : AiString) : ℕ := s.data.length

def AiString.cStr (s : AiString) : String :=
  String.ofList (s.data.takeWhile fun c => c ≠ Char.ofNat 0)

inductive AiTextureType where
  | baseColor
  | diffuse
  | normals
  deriving DecidableEq, Repr

/-- `aiMaterial`: what it answers for its name, and for the first texture of each type. -/
structure AiMaterial where
  name : Option AiString
  getTextureCount : AiTextureType → UInt32
  getTexture : AiTextureType → Option AiString

/-- `sizeof(aiTexel)`. -/
def aiTexelSize : ℕ := 4

/-- `aiTexture`: the bytes of a compressed texture, or texels in rows. -/
structure AiTexture where
  mWidth : UInt32
  mHeight : UInt32
  achFormatHint : String
  pcData : Option (List UInt8)
  sized : ∀ data ∈ pcData, data.length =
    if mHeight = 0 then mWidth.toNat else mWidth.toNat * mHeight.toNat * aiTexelSize

abbrev AiVector3D := Float3

/-- `XMFLOAT4`. -/
structure Float4 where
  x : ℚ := 0
  y : ℚ := 0
  z : ℚ := 0
  w : ℚ := 0
  deriving DecidableEq, Repr

/-- `XMFLOAT2`. -/
structure Float2 where
  x : ℚ := 0
  y : ℚ := 0
  deriving DecidableEq, Repr

abbrev AiColor4D := Float4

structure AiFace where
  mIndices : Option (List UInt32)
  deriving DecidableEq, Repr

/-- `aiPrimitiveType_TRIANGLE`. -/
def aiPrimitiveTypeTriangle : UInt32 := 4

/-- `aiMesh`. There is one channel of colors and one of texture coordinates; `mNumFaces` is the
length of `mFaces`. -/
structure AiMesh where
  mPrimitiveTypes : UInt32
  mName : AiString
  mMaterialIndex : UInt32
  mNumVertices : UInt32
  mVertices : Option (Fin mNumVertices.toNat → AiVector3D)
  mColors : Option (Fin mNumVertices.toNat → AiColor4D)
  mNormals : Option (Fin mNumVertices.toNat → AiVector3D)
  mTangents : Option (Fin mNumVertices.toNat → AiVector3D)
  mBitangents : Option (Fin mNumVertices.toNat → AiVector3D)
  mTextureCoords : Option (Fin mNumVertices.toNat → AiVector3D)
  mFaces : List AiFace

/-- `aiScene`; the numbers of materials and of meshes are `unsigned int`. -/
structure AiScene where
  hasRootNode : Bool
  mMaterials : List (Option AiMaterial)
  mMeshes : Option (List (Option AiMesh))
  getEmbeddedTexture : String → Option AiTexture
  materials_lt : mMaterials.length < 2 ^ 32

/-! ## What is made of it -/

structure Vertex3D where
  position : Float3
  color : Float4
  normal : Float3
  tangent : Float4
  textureCoordinate : Float2
  deriving DecidableEq, Repr

structure MeshData where
  vertices : List Vertex3D := []
  indices : List UInt32 := []
  deriving DecidableEq, Repr

/-- `std::numeric_limits<std::size_t>::max()`. -/
def sizeMax : ℕ := 2 ^ 64 - 1

def invalidMaterialIndex : ℕ := sizeMax

def invalidTextureIndex : ℕ := sizeMax

inductive ModelTextureSourceType where
  | externalFile
  | embedded
  deriving DecidableEq, Repr

structure ModelTextureData (π : Type) where
  sourceType : ModelTextureSourceType := .externalFile
  filePath : π
  sourceReference : String := ""
  embeddedData : List UInt8 := []
  width : UInt32 := 0
  height : UInt32 := 0
  formatHint : String := ""
  deriving DecidableEq, Repr

structure ModelMaterialData where
  name : String
  baseColorTextureIndex : ℕ := invalidTextureIndex
  normalMapTextureIndex : ℕ := invalidTextureIndex
  deriving DecidableEq, Repr

structure ModelMeshData where
  name : String
  meshData : MeshData := {}
  materialIndex : ℕ := invalidMaterialIndex
  deriving DecidableEq, Repr

structure ModelData (π : Type) where
  meshes : List ModelMeshData := []
  materials : List ModelMaterialData := []
  textures : List (ModelTextureData π) := []
  deriving DecidableEq, Repr

structure AssimpModelLoadResult (π : Type) where
  modelData : ModelData π := {}
  errorMessage : String := ""
  deriving DecidableEq, Repr

variable {π : Type}

namespace ModelTextureData

def isEmbedded (t : ModelTextureData π) : Bool := t.sourceType = .embedded

def isCompressedEmbedded (t : ModelTextureData π) : Bool := t.isEmbedded && t.height == 0

end ModelTextureData

def ModelData.isEmpty (modelData : ModelData π) : Bool := modelData.meshes.isEmpty

def AssimpModelLoadResult.succeeded (r : AssimpModelLoadResult π) : Bool :=
  r.errorMessage == "" && !r.modelData.isEmpty

/-! ## Textures -/

/-- One channel of `TryGetBaseColorTextureReference` or `TryGetNormalMapTextureReference`. -/
def textureReferenceOf (material : AiMaterial) (type : AiTextureType) : Option AiString :=
  if material.getTextureCount type > 0 then
    (material.getTexture type).filter fun textureReference => textureReference.length > 0
  else none

def tryGetBaseColorTextureReference (material : AiMaterial) : Option AiString :=
  (textureReferenceOf material .baseColor).or (textureReferenceOf material .diffuse)

def tryGetNormalMapTextureReference (material : AiMaterial) : Option AiString :=
  textureReferenceOf material .normals

def tryGetEmbeddedTextureDataSize (texture : AiTexture) : Option ℕ :=
  if texture.pcData.isNone || texture.mWidth == 0 then none
  else if texture.mHeight = 0 then some texture.mWidth.toNat
  else
    let width := texture.mWidth.toNat
    let height := texture.mHeight.toNat
    if width > sizeMax / height then none
    else
      let texelCount := width * height
      if texelCount > sizeMax / aiTexelSize then none else some (texelCount * aiTexelSize)

variable [FilePath π]

def tryCreateModelTextureData (scene : AiScene) (modelFilePath : π) (textureReference : AiString) :
    Option (ModelTextureData π) :=
  let sourceReference := textureReference.cStr
  if sourceReference = "" then none
  else
    match scene.getEmbeddedTexture sourceReference with
    | some embeddedTexture =>
      match tryGetEmbeddedTextureDataSize embeddedTexture with
      | none => none
      | some embeddedDataSize =>
        some {
          sourceType := .embedded
          filePath := FilePath.noPath
          sourceReference
          embeddedData := (embeddedTexture.pcData.getD []).take embeddedDataSize
          width := embeddedTexture.mWidth
          height := embeddedTexture.mHeight
          formatHint := embeddedTexture.achFormatHint }
    | none =>
      -- a reference to a texture inside the file that is not there
      if sourceReference.toList.head? = some '*' then none
      else
        let textureFilePath : π := FilePath.ofString sourceReference
        let textureFilePath :=
          if FilePath.isRelative textureFilePath then
            FilePath.append (FilePath.parentPath modelFilePath) textureFilePath
          else textureFilePath
        some {
          sourceType := .externalFile
          filePath := FilePath.lexicallyNormal textureFilePath
          sourceReference }

/-- When a texture is taken for one that is registered. -/
def SameSource (existing new : ModelTextureData π) : Prop :=
  existing.sourceType = new.sourceType ∧
    if new.isEmbedded then existing.sourceReference = new.sourceReference
    else FilePath.equal existing.filePath new.filePath = true

instance : DecidableRel (SameSource (π := π)) := fun _ _ => inferInstanceAs (Decidable (_ ∧ _))

def findModelTextureIndex (modelData : ModelData π) (modelTextureData : ModelTextureData π) : ℕ :=
  (modelData.textures.findIdx? fun existing => SameSource existing modelTextureData).getD
    invalidTextureIndex

def addModelTextureData (modelData : ModelData π) (modelTextureData : ModelTextureData π) :
    ℕ × ModelData π :=
  let existingTextureIndex := findModelTextureIndex modelData modelTextureData
  if existingTextureIndex ≠ invalidTextureIndex then (existingTextureIndex, modelData)
  else
    let modelData := { modelData with textures := modelData.textures ++ [modelTextureData] }
    (modelData.textures.length - 1, modelData)

/-! ## Materials -/

/-- What becomes of a texture reference that was found, or was not. -/
def loadTexture (scene : AiScene) (modelFilePath : π) (textureReference : Option AiString)
    (modelData : ModelData π) : ℕ × ModelData π :=
  match textureReference.bind (tryCreateModelTextureData scene modelFilePath) with
  | none => (invalidTextureIndex, modelData)
  | some modelTextureData => addModelTextureData modelData modelTextureData

def materialName (materialIndex : ℕ) (sourceMaterial : AiMaterial) : String :=
  match sourceMaterial.name with
  | none => "Material_" ++ toString materialIndex
  | some name => if name.length > 0 then name.cStr else "Material_" ++ toString materialIndex

/-- The body of the loop over the materials. -/
def loadMaterial (scene : AiScene) (modelFilePath : π) (materialIndex : ℕ)
    (sourceMaterial : Option AiMaterial) (modelData : ModelData π) : ModelData π :=
  match sourceMaterial with
  | none =>
    { modelData with
      materials := modelData.materials ++ [{ name := "Material_" ++ toString materialIndex }] }
  | some sourceMaterial =>
    let (baseColorTextureIndex, modelData) := loadTexture scene modelFilePath
      (tryGetBaseColorTextureReference sourceMaterial) modelData
    let (normalMapTextureIndex, modelData) := loadTexture scene modelFilePath
      (tryGetNormalMapTextureReference sourceMaterial) modelData
    { modelData with
      materials := modelData.materials ++
        [⟨materialName materialIndex sourceMaterial, baseColorTextureIndex,
          normalMapTextureIndex⟩] }

def loadMaterials (scene : AiScene) (modelFilePath : π) :
    ℕ → List (Option AiMaterial) → ModelData π → ModelData π
  | _, [], modelData => modelData
  | materialIndex, sourceMaterial :: sourceMaterials, modelData =>
    loadMaterials scene modelFilePath (materialIndex + 1) sourceMaterials
      (loadMaterial scene modelFilePath materialIndex sourceMaterial modelData)

/-! ## Meshes -/

/-- From the axes of Assimp (+X Right, +Y Up, +Z Forward) to those of the game (+X Right,
+Y Forward, -Z Up). -/
def toGameSpace (v : AiVector3D) : Float3 := ⟨v.x, v.z, -v.y⟩

/-- `XMVector3Cross`. -/
def cross (v w : Float3) : Float3 :=
  ⟨v.y * w.z - v.z * w.y, v.z * w.x - v.x * w.z, v.x * w.y - v.y * w.x⟩

/-- `XMVector3Dot`. -/
def dot (v w : Float3) : ℚ := v.x * w.x + v.y * w.y + v.z * w.z

/-- The sign that is kept with a tangent. -/
def tangentHandedness (normal tangent bitangent : Float3) : ℚ :=
  if dot (cross normal tangent) bitangent < 0 then -1 else 1

/-- The body of the loop over the vertices. -/
def loadVertex (sourceMesh : AiMesh)
    (positions : Fin sourceMesh.mNumVertices.toNat → AiVector3D)
    (vertexIndex : Fin sourceMesh.mNumVertices.toNat) : Vertex3D :=
  let vertexColor : Float4 :=
    match sourceMesh.mColors with
    | some colors => colors vertexIndex
    | none => ⟨1, 1, 1, 1⟩
  let vertexNormal : Float3 :=
    match sourceMesh.mNormals with
    | some normals => toGameSpace (normals vertexIndex)
    | none => {}
  let vertexTangent : Float4 :=
    match sourceMesh.mTangents, sourceMesh.mBitangents with
    | some tangents, some bitangents =>
      let tangent := toGameSpace (tangents vertexIndex)
      let bitangent := toGameSpace (bitangents vertexIndex)
      ⟨tangent.x, tangent.y, tangent.z, tangentHandedness vertexNormal tangent bitangent⟩
    | _, _ => ⟨0, 0, 0, 1⟩
  let textureCoordinate : Float2 :=
    match sourceMesh.mTextureCoords with
    | some textureCoords => ⟨(textureCoords vertexIndex).x, (textureCoords vertexIndex).y⟩
    | none => {}
  ⟨toGameSpace (positions vertexIndex), vertexColor, vertexNormal, vertexTangent,
    textureCoordinate⟩

/-- The loop over the faces; one that is no triangle ends it. -/
def loadFaces (indices : List UInt32) : List AiFace → Option (List UInt32)
  | [] => some indices
  | sourceFace :: sourceFaces =>
    match sourceFace.mIndices with
    | none => none
    | some sourceIndices =>
      if sourceIndices.length ≠ 3 then none else loadFaces (indices ++ sourceIndices) sourceFaces

def meshName (meshIndex : ℕ) (sourceMesh : AiMesh) : String :=
  if sourceMesh.mName.cStr = "" then "MeshPart_" ++ toString meshIndex else sourceMesh.mName.cStr

/-- The positions of a mesh that is not left out. -/
def renderablePositions (sourceMesh : AiMesh) :
    Option (Fin sourceMesh.mNumVertices.toNat → AiVector3D) :=
  if sourceMesh.mNumVertices == 0 || sourceMesh.mFaces.isEmpty ||
      sourceMesh.mPrimitiveTypes &&& aiPrimitiveTypeTriangle == 0 then none
  else sourceMesh.mVertices

/-- The body of the loop over the meshes; it tells whether all faces were triangles. -/
def loadMesh (meshIndex : ℕ) (sourceMesh : Option AiMesh) (modelData : ModelData π) :
    Bool × ModelData π :=
  match sourceMesh with
  | none => (true, modelData)
  | some sourceMesh =>
    match renderablePositions sourceMesh with
    | none => (true, modelData)
    | some positions =>
      let materialIndex :=
        if sourceMesh.mMaterialIndex.toNat < modelData.materials.length then
          sourceMesh.mMaterialIndex.toNat
        else invalidMaterialIndex
      match loadFaces [] sourceMesh.mFaces with
      | none => (false, modelData)
      | some indices =>
        (true, { modelData with
          meshes := modelData.meshes ++ [{
            name := meshName meshIndex sourceMesh
            meshData := ⟨List.ofFn (loadVertex sourceMesh positions), indices⟩
            materialIndex }] })

def loadMeshes : ℕ → List (Option AiMesh) → ModelData π → Bool × ModelData π
  | _, [], modelData => (true, modelData)
  | meshIndex, sourceMesh :: sourceMeshes, modelData =>
    let (triangulated, modelData) := loadMesh meshIndex sourceMesh modelData
    if !triangulated then (false, modelData)
    else loadMeshes (meshIndex + 1) sourceMeshes modelData

/-! ## The loader -/

/-- `readFile` is `importer.ReadFile`, or the text of `GetErrorString`. -/
def loadStaticModelData (readFile : π → Except String AiScene) (modelFilePath : π) :
    AssimpModelLoadResult π :=
  if FilePath.empty modelFilePath then { errorMessage := "Model file path is empty." }
  else
    match readFile modelFilePath with
    | .error errorString =>
      { errorMessage := if errorString = "" then "Failed to load model file." else errorString }
    | .ok scene =>
      let sourceMeshes := scene.mMeshes.getD []
      if !scene.hasRootNode || sourceMeshes.isEmpty then
        { errorMessage := "Model does not contain a valid mesh scene." }
      else
        let modelData := loadMaterials scene modelFilePath 0 scene.mMaterials {}
        let (triangulated, modelData) := loadMeshes 0 sourceMeshes modelData
        if !triangulated then
          { modelData, errorMessage := "Model contains a face that could not be triangulated." }
        else if modelData.isEmpty then
          { modelData, errorMessage := "Model does not contain renderable triangle geometry." }
        else { modelData }

/-! ## What a texture is taken for -/

section Sources

variable {t t' t'' : ModelTextureData π}

theorem sameSource_equivalence : Equivalence (SameSource (π := π)) where
  refl t := by
    refine ⟨rfl, ?_⟩
    split
    · rfl
    · exact FilePath.equal_equivalence.refl _
  symm := by
    rintro t t' ⟨htype, hsource⟩
    refine ⟨htype.symm, ?_⟩
    unfold ModelTextureData.isEmbedded at hsource ⊢
    rw [htype]
    split at hsource
    · next hembedded =>
        rw [if_pos hembedded]
        exact hsource.symm
    · next hexternal =>
        rw [if_neg hexternal]
        exact FilePath.equal_equivalence.symm hsource
  trans := by
    rintro t t' t'' ⟨htype, hsource⟩ ⟨htype', hsource'⟩
    refine ⟨htype.trans htype', ?_⟩
    unfold ModelTextureData.isEmbedded at hsource hsource' ⊢
    rw [htype'] at hsource
    split at hsource'
    · next hembedded =>
        rw [if_pos hembedded] at hsource ⊢
        exact hsource.trans hsource'
    · next hexternal =>
        rw [if_neg hexternal] at hsource ⊢
        exact FilePath.equal_equivalence.trans hsource hsource'

/-- Until the last index is reached, textures are interned. -/
theorem addModelTextureData_eq {modelData : ModelData π}
    (h : modelData.textures.length ≤ invalidTextureIndex) (t : ModelTextureData π) :
    addModelTextureData modelData t = ((intern SameSource modelData.textures t).1,
      { modelData with textures := (intern SameSource modelData.textures t).2 }) := by
  unfold addModelTextureData findModelTextureIndex intern
  cases hfind : modelData.textures.findIdx? fun existing => SameSource existing t with
  | some index =>
      have hlt : index < modelData.textures.length :=
        (List.findIdx?_eq_some_iff_getElem.mp hfind).1
      exact if_pos (show index ≠ invalidTextureIndex by omega)
  | none => simp

end Sources

/-! ## What a file asks for -/

section Asking

/-- A material has a texture of a type. -/
structure HasTexture (material : AiMaterial) (type : AiTextureType) (reference : AiString) :
    Prop where
  counted : 0 < material.getTextureCount type
  found : material.getTexture type = some reference
  named : 0 < reference.length

/-- What a reference stands for: a texture inside the model file, whose bytes can be counted, or
else a file, which is looked for beside that of the model. -/
inductive Denotes (scene : AiScene) (modelFilePath : π) (reference : AiString) :
    ModelTextureData π → Prop
  | embedded {texture : AiTexture} {data : List UInt8} (hname : reference.cStr ≠ "")
      (htexture : scene.getEmbeddedTexture reference.cStr = some texture)
      (hdata : texture.pcData = some data) (hsome : data ≠ []) (hcount : data.length ≤ sizeMax) :
      Denotes scene modelFilePath reference
        ⟨.embedded, FilePath.noPath, reference.cStr, data, texture.mWidth, texture.mHeight,
          texture.achFormatHint⟩
  | file {path : π} (hname : reference.cStr ≠ "")
      (houtside : scene.getEmbeddedTexture reference.cStr = none)
      (hinside : reference.cStr.toList.head? ≠ some '*')
      (hpath : path = if FilePath.isRelative (FilePath.ofString reference.cStr : π) then
        FilePath.append (FilePath.parentPath modelFilePath) (FilePath.ofString reference.cStr)
        else FilePath.ofString reference.cStr) :
      Denotes scene modelFilePath reference
        { filePath := FilePath.lexicallyNormal path, sourceReference := reference.cStr }

/-- The base color texture of a material is that of its base color channel, or that of its diffuse
channel if it has none there. -/
inductive AsksBaseColor (scene : AiScene) (modelFilePath : π) (t : ModelTextureData π) :
    Option AiMaterial → Prop
  | baseColor {material : AiMaterial} {reference : AiString}
      (hreference : HasTexture material .baseColor reference)
      (ht : Denotes scene modelFilePath reference t) :
      AsksBaseColor scene modelFilePath t (some material)
  | diffuse {material : AiMaterial} {reference : AiString}
      (hnone : ∀ other, ¬ HasTexture material .baseColor other)
      (hreference : HasTexture material .diffuse reference)
      (ht : Denotes scene modelFilePath reference t) :
      AsksBaseColor scene modelFilePath t (some material)

/-- The normal map of a material is that of its channel of normals. -/
inductive AsksNormalMap (scene : AiScene) (modelFilePath : π) (t : ModelTextureData π) :
    Option AiMaterial → Prop
  | normals {material : AiMaterial} {reference : AiString}
      (hreference : HasTexture material .normals reference)
      (ht : Denotes scene modelFilePath reference t) :
      AsksNormalMap scene modelFilePath t (some material)

variable {scene : AiScene} {modelFilePath : π} {material : AiMaterial} {type : AiTextureType}
  {reference : AiString} {t : ModelTextureData π}

omit [FilePath π] in
theorem textureReferenceOf_eq_some_iff :
    textureReferenceOf material type = some reference ↔ HasTexture material type reference := by
  unfold textureReferenceOf
  constructor
  · intro h
    split at h
    · next hcounted =>
        obtain ⟨hfound, hnamed⟩ := Option.filter_eq_some_iff.mp h
        exact ⟨hcounted, hfound, of_decide_eq_true hnamed⟩
    · cases h
  · rintro ⟨hcounted, hfound, hnamed⟩
    rw [if_pos hcounted, hfound]
    exact Option.filter_eq_some_iff.mpr ⟨rfl, decide_eq_true hnamed⟩

omit [FilePath π] in
theorem textureReferenceOf_eq_none_iff :
    textureReferenceOf material type = none ↔ ∀ other, ¬ HasTexture material type other := by
  simp only [Option.eq_none_iff_forall_ne_some, ne_eq, textureReferenceOf_eq_some_iff]

/-- The size of a texture inside the file is found if it has bytes, and not too many. -/
theorem tryGetEmbeddedTextureDataSize_eq_some_iff {texture : AiTexture} {dataSize : ℕ} :
    tryGetEmbeddedTextureDataSize texture = some dataSize ↔ ∃ data, texture.pcData = some data ∧
      data ≠ [] ∧ data.length ≤ sizeMax ∧ data.length = dataSize := by
  unfold tryGetEmbeddedTextureDataSize
  cases hdata : texture.pcData with
  | none => simp
  | some data =>
      have hsized := texture.sized data hdata
      have hwidth := texture.mWidth.toNat_lt
      have hheight := texture.mHeight.toNat_lt
      have hmax : sizeMax = 2 ^ 64 - 1 := rfl
      simp only [Option.isNone_some, Bool.false_or, beq_iff_eq, Option.some.injEq,
        exists_eq_left', ← List.length_pos_iff]
      by_cases hzero : texture.mWidth = 0
      · have hnothing : data.length = 0 := by rw [hsized, hzero]; simp
        simp [hzero, hnothing]
      have hpos : 0 < texture.mWidth.toNat :=
        Nat.pos_of_ne_zero fun h => hzero (UInt32.toNat_inj.mp h)
      rw [if_neg hzero]
      by_cases hcompressed : texture.mHeight = 0
      · rw [if_pos hcompressed] at hsized ⊢
        rw [Option.some.injEq]
        omega
      have hheightPos : 0 < texture.mHeight.toNat :=
        Nat.pos_of_ne_zero fun h => hcompressed (UInt32.toNat_inj.mp h)
      rw [if_neg hcompressed] at hsized ⊢
      -- width and height are below 2^32, so that only the last product can be too large
      have hfirst : ¬ texture.mWidth.toNat > sizeMax / texture.mHeight.toNat := by
        rw [gt_iff_lt, not_lt, Nat.le_div_iff_mul_le hheightPos]
        have := Nat.mul_le_mul (Nat.le_sub_one_of_lt hwidth) (Nat.le_sub_one_of_lt hheight)
        omega
      have hlast : texture.mWidth.toNat * texture.mHeight.toNat > sizeMax / aiTexelSize ↔
          data.length > sizeMax := by
        rw [hsized, gt_iff_lt, Nat.div_lt_iff_lt_mul (by decide), gt_iff_lt]
      have hproduct : 0 < data.length :=
        hsized ▸ Nat.mul_pos (Nat.mul_pos hpos hheightPos) (by decide)
      rw [if_neg hfirst]
      by_cases hlarge : data.length > sizeMax
      · rw [if_pos (hlast.mpr hlarge)]
        simp [Nat.not_le.mpr hlarge]
      · rw [if_neg fun h => hlarge (hlast.mp h), Option.some.injEq, ← hsized]
        omega

/-- **What is made of a reference** is what it stands for. -/
theorem tryCreateModelTextureData_eq_some_iff :
    tryCreateModelTextureData scene modelFilePath reference = some t ↔
      Denotes scene modelFilePath reference t := by
  unfold tryCreateModelTextureData
  constructor
  · intro h
    dsimp only at h
    split at h
    · cases h
    next hname =>
    split at h
    · next texture htexture =>
        split at h
        · cases h
        · next dataSize hsize =>
            cases h
            obtain ⟨data, hdata, hsome, hcount, rfl⟩ :=
              tryGetEmbeddedTextureDataSize_eq_some_iff.mp hsize
            rw [hdata, Option.getD_some, List.take_length]
            exact .embedded hname htexture hdata hsome hcount
    · next houtside =>
        split at h
        · cases h
        · next hinside =>
            cases h
            exact .file hname houtside hinside rfl
  · intro h
    cases h with
    | @embedded texture data hname htexture hdata hsome hcount =>
        rw [if_neg hname, htexture]
        dsimp only
        rw [tryGetEmbeddedTextureDataSize_eq_some_iff.mpr ⟨data, hdata, hsome, hcount, rfl⟩, hdata]
        dsimp only
        rw [Option.getD_some, List.take_length]
    | file hname houtside hinside hpath =>
        rw [if_neg hname, houtside]
        dsimp only
        rw [if_neg hinside, hpath]

/-- **The base color texture** that is loaded is the one that is asked for. -/
theorem asksBaseColor_iff :
    (tryGetBaseColorTextureReference material).bind
      (tryCreateModelTextureData scene modelFilePath) = some t ↔
        AsksBaseColor scene modelFilePath t (some material) := by
  unfold tryGetBaseColorTextureReference
  simp only [Option.bind_eq_some_iff, Option.or_eq_some_iff, textureReferenceOf_eq_some_iff,
    textureReferenceOf_eq_none_iff, tryCreateModelTextureData_eq_some_iff]
  constructor
  · rintro ⟨reference, hreference | ⟨hnone, hreference⟩, ht⟩
    · exact .baseColor hreference ht
    · exact .diffuse hnone hreference ht
  · intro h
    cases h with
    | baseColor hreference ht => exact ⟨_, Or.inl hreference, ht⟩
    | diffuse hnone hreference ht => exact ⟨_, Or.inr ⟨hnone, hreference⟩, ht⟩

theorem asksNormalMap_iff :
    (tryGetNormalMapTextureReference material).bind
      (tryCreateModelTextureData scene modelFilePath) = some t ↔
        AsksNormalMap scene modelFilePath t (some material) := by
  unfold tryGetNormalMapTextureReference
  simp only [Option.bind_eq_some_iff, textureReferenceOf_eq_some_iff,
    tryCreateModelTextureData_eq_some_iff]
  constructor
  · rintro ⟨reference, hreference, ht⟩
    exact .normals hreference ht
  · intro h
    cases h with
    | normals hreference ht => exact ⟨_, hreference, ht⟩

end Asking

/-! ## The loop over the materials -/

section Materials

/-- The index is that of the texture that is asked for, or stands for none. -/
structure Indexes (textures : List (ModelTextureData π)) (Asked : ModelTextureData π → Prop)
    (index : ℕ) : Prop where
  found : ∀ t, Asked t → RefersTo SameSource textures index t
  missing : (∀ t, ¬ Asked t) → index = invalidTextureIndex

/-- What one texture does to the model. -/
structure TextureLoaded (modelData : ModelData π) (Asked : ModelTextureData π → Prop)
    (index : ℕ) (modelData' : ModelData π) : Prop where
  meshes : modelData'.meshes = modelData.meshes
  materials : modelData'.materials = modelData.materials
  grows : modelData.textures <+: modelData'.textures
  indexes : Indexes modelData'.textures Asked index
  distinct : NoTwoAlike SameSource modelData.textures → NoTwoAlike SameSource modelData'.textures
  only : ∀ t ∈ modelData'.textures, t ∈ modelData.textures ∨ Asked t
  length : modelData'.textures.length ≤ modelData.textures.length + 1

/-- A material as it should be. -/
structure MaterialLoaded (scene : AiScene) (modelFilePath : π)
    (textures : List (ModelTextureData π)) (materialIndex : ℕ) (source : Option AiMaterial)
    (material : ModelMaterialData) : Prop where
  name : material.name = (((source.bind AiMaterial.name).filter fun name => name.length > 0).map
    AiString.cStr).getD ("Material_" ++ toString materialIndex)
  baseColor : Indexes textures (AsksBaseColor scene modelFilePath · source)
    material.baseColorTextureIndex
  normalMap : Indexes textures (AsksNormalMap scene modelFilePath · source)
    material.normalMapTextureIndex

/-- The model after some materials. -/
structure MaterialsLoaded (scene : AiScene) (modelFilePath : π) (sources : List (Option AiMaterial))
    (modelData : ModelData π) : Prop where
  meshes : modelData.meshes = []
  length : modelData.materials.length = sources.length
  loaded : ∀ materialIndex source material, sources[materialIndex]? = some source →
    modelData.materials[materialIndex]? = some material →
      MaterialLoaded scene modelFilePath modelData.textures materialIndex source material
  distinct : NoTwoAlike SameSource modelData.textures
  only : ∀ t ∈ modelData.textures, ∃ source ∈ sources,
    AsksBaseColor scene modelFilePath t source ∨ AsksNormalMap scene modelFilePath t source
  textures_le : modelData.textures.length ≤ 2 * sources.length

variable {scene : AiScene} {modelFilePath : π} {modelData : ModelData π}
  {textures textures' : List (ModelTextureData π)} {Asked Asked' : ModelTextureData π → Prop}
  {index materialIndex : ℕ} {source : Option AiMaterial} {sources : List (Option AiMaterial)}
  {material : ModelMaterialData}

theorem Indexes.mono (h : Indexes textures Asked index) (hgrows : textures <+: textures') :
    Indexes textures' Asked index :=
  ⟨fun t ht => (h.found t ht).mono hgrows, h.missing⟩

theorem Indexes.of_iff (h : Indexes textures Asked index) (hsame : ∀ t, Asked t ↔ Asked' t) :
    Indexes textures Asked' index :=
  ⟨fun t ht => h.found t ((hsame t).mpr ht),
    fun hnone => h.missing fun t ht => hnone t ((hsame t).mp ht)⟩

theorem Indexes.lt (h : Indexes textures Asked index) :
    index = invalidTextureIndex ∨ index < textures.length := by
  by_cases hasked : ∃ t, Asked t
  · obtain ⟨t, ht⟩ := hasked
    exact Or.inr (h.found t ht).lt
  · exact Or.inl (h.missing (not_exists.mp hasked))

theorem MaterialLoaded.mono
    (h : MaterialLoaded scene modelFilePath textures materialIndex source material)
    (hgrows : textures <+: textures') :
    MaterialLoaded scene modelFilePath textures' materialIndex source material :=
  ⟨h.name, h.baseColor.mono hgrows, h.normalMap.mono hgrows⟩

/-- **One texture** gets the index of its source. -/
theorem loadTexture_loaded (modelData : ModelData π)
    (h : modelData.textures.length ≤ invalidTextureIndex) (scene : AiScene) (modelFilePath : π)
    (textureReference : Option AiString) :
    TextureLoaded modelData
      (fun t => textureReference.bind (tryCreateModelTextureData scene modelFilePath) = some t)
      (loadTexture scene modelFilePath textureReference modelData).1
      (loadTexture scene modelFilePath textureReference modelData).2 := by
  unfold loadTexture
  cases textureReference.bind (tryCreateModelTextureData scene modelFilePath) with
  | none =>
      exact ⟨rfl, rfl, List.prefix_refl _, ⟨nofun, fun _ => rfl⟩, id, fun t ht => Or.inl ht,
        Nat.le_succ _⟩
  | some t =>
      dsimp only
      rw [addModelTextureData_eq h]
      have hinterned := intern_interned sameSource_equivalence.refl modelData.textures t
      refine ⟨rfl, rfl, hinterned.grows, ⟨?_, fun hnone => absurd rfl (hnone t)⟩,
        hinterned.distinct, ?_, hinterned.length⟩
      · intro asked hasked
        cases hasked
        exact hinterned.refers
      intro known hknown
      exact (hinterned.only known hknown).imp_right fun heq => congrArg some heq.symm

/-- A material is appended to those that were loaded, when the textures have grown for it. -/
theorem MaterialsLoaded.push (h : MaterialsLoaded scene modelFilePath sources modelData)
    {modelData' : ModelData π} (hmeshes : modelData'.meshes = modelData.meshes)
    (hmaterials : modelData'.materials = modelData.materials)
    (hgrows : modelData.textures <+: modelData'.textures)
    (hmaterial :
      MaterialLoaded scene modelFilePath modelData'.textures sources.length source material)
    (hdistinct : NoTwoAlike SameSource modelData'.textures)
    (honly : ∀ t ∈ modelData'.textures, t ∈ modelData.textures ∨
      AsksBaseColor scene modelFilePath t source ∨ AsksNormalMap scene modelFilePath t source)
    (hlength : modelData'.textures.length ≤ modelData.textures.length + 2) :
    MaterialsLoaded scene modelFilePath (sources ++ [source])
      { modelData' with materials := modelData'.materials ++ [material] } := by
  refine ⟨hmeshes.trans h.meshes, by simp [hmaterials, h.length], ?_, hdistinct, ?_, ?_⟩
  · intro i known loaded hknown hloaded
    dsimp only at hloaded
    rw [hmaterials] at hloaded
    by_cases hlast : i = sources.length
    · subst hlast
      rw [List.getElem?_append_right (Nat.le_refl _), Nat.sub_self] at hknown
      rw [List.getElem?_append_right (by rw [h.length]), h.length, Nat.sub_self] at hloaded
      cases hknown
      cases hloaded
      exact hmaterial
    · have hlt : i < sources.length := by
        have := (List.getElem?_eq_some_iff.mp hknown).1
        rw [List.length_append, List.length_singleton] at this
        omega
      rw [List.getElem?_append_left hlt] at hknown
      rw [List.getElem?_append_left (by rw [h.length]; exact hlt)] at hloaded
      exact (h.loaded i known loaded hknown hloaded).mono hgrows
  · intro t ht
    rcases honly t ht with hold | hnew
    · obtain ⟨known, hknown, hwanted⟩ := h.only t hold
      exact ⟨known, List.mem_append_left _ hknown, hwanted⟩
    · exact ⟨source, List.mem_append_right _ (List.mem_singleton_self _), hnew⟩
  · have := h.textures_le
    rw [List.length_append, List.length_singleton]
    dsimp only
    omega

omit [FilePath π] in
theorem materialName_eq (materialIndex : ℕ) (material : AiMaterial) :
    materialName materialIndex material =
      (((material.name).filter fun name => name.length > 0).map AiString.cStr).getD
        ("Material_" ++ toString materialIndex) := by
  unfold materialName
  cases material.name with
  | none => rfl
  | some name =>
      dsimp only
      rw [Option.filter_some]
      by_cases hlength : name.length > 0
      · rw [if_pos hlength, if_pos (decide_eq_true hlength), Option.map_some, Option.getD_some]
      · rw [if_neg hlength, if_neg (by simpa using hlength), Option.map_none, Option.getD_none]

/-- **One material** is appended, and what was loaded before it stays. -/
theorem loadMaterial_loaded (h : MaterialsLoaded scene modelFilePath sources modelData)
    (hfew : sources.length < 2 ^ 32) (source : Option AiMaterial) :
    MaterialsLoaded scene modelFilePath (sources ++ [source])
      (loadMaterial scene modelFilePath sources.length source modelData) := by
  have hroom : modelData.textures.length + 2 ≤ invalidTextureIndex := by
    have := h.textures_le
    have hvalue : invalidTextureIndex = 2 ^ 64 - 1 := rfl
    omega
  cases source with
  | none =>
      exact h.push rfl rfl (List.prefix_refl _) ⟨rfl, ⟨nofun, fun _ => rfl⟩, ⟨nofun, fun _ => rfl⟩⟩
        h.distinct (fun t ht => Or.inl ht) (Nat.le_add_right _ _)
  | some sourceMaterial =>
      have hbase := loadTexture_loaded modelData (by omega) scene modelFilePath
        (tryGetBaseColorTextureReference sourceMaterial)
      unfold loadMaterial
      dsimp only
      generalize loadTexture scene modelFilePath (tryGetBaseColorTextureReference sourceMaterial)
        modelData = base at hbase ⊢
      obtain ⟨baseColorTextureIndex, modelData₁⟩ := base
      dsimp only at hbase ⊢
      have hnormal := loadTexture_loaded modelData₁
        (by have := hbase.length; omega) scene modelFilePath
        (tryGetNormalMapTextureReference sourceMaterial)
      generalize loadTexture scene modelFilePath (tryGetNormalMapTextureReference sourceMaterial)
        modelData₁ = normal at hnormal ⊢
      obtain ⟨normalMapTextureIndex, modelData₂⟩ := normal
      dsimp only at hnormal ⊢
      refine h.push (hnormal.meshes.trans hbase.meshes) (hnormal.materials.trans hbase.materials)
        (hbase.grows.trans hnormal.grows)
        ⟨materialName_eq _ _, (hbase.indexes.mono hnormal.grows).of_iff fun _ => asksBaseColor_iff,
          hnormal.indexes.of_iff fun _ => asksNormalMap_iff⟩
        (hnormal.distinct (hbase.distinct h.distinct)) ?_ ?_
      · intro t ht
        rcases hnormal.only t ht with hold | hnew
        · exact (hbase.only t hold).imp_right fun hasked => Or.inl (asksBaseColor_iff.mp hasked)
        · exact Or.inr (Or.inr (asksNormalMap_iff.mp hnew))
      · have := hbase.length
        have := hnormal.length
        omega

theorem loadMaterials_loaded (h : MaterialsLoaded scene modelFilePath sources modelData)
    {rest : List (Option AiMaterial)} (hfew : (sources ++ rest).length < 2 ^ 32) :
    MaterialsLoaded scene modelFilePath (sources ++ rest)
      (loadMaterials scene modelFilePath sources.length rest modelData) := by
  induction rest generalizing sources modelData with
  | nil => simpa [loadMaterials] using h
  | cons source rest ih =>
      have hstep := loadMaterial_loaded h (by rw [List.length_append] at hfew; omega) source
      have hrest := ih hstep (by simpa using hfew)
      rw [List.length_append, List.length_singleton, List.append_assoc] at hrest
      exact hrest

/-- **All materials** refer to the textures they ask for. -/
theorem loadMaterials_scene (scene : AiScene) (modelFilePath : π) :
    MaterialsLoaded scene modelFilePath scene.mMaterials
      (loadMaterials scene modelFilePath 0 scene.mMaterials {}) := by
  have hstart : MaterialsLoaded scene modelFilePath [] {} :=
    ⟨rfl, rfl, nofun, List.Pairwise.nil, nofun, Nat.le_refl _⟩
  exact loadMaterials_loaded hstart scene.materials_lt

end Materials

/-! ## The loop over the meshes -/

section Meshes

/-- All faces of a mesh are triangles. -/
def Triangulated (sourceMesh : AiMesh) : Prop :=
  ∀ face ∈ sourceMesh.mFaces, ∃ indices, face.mIndices = some indices ∧ indices.length = 3

/-- All faces of a mesh have vertices of this mesh. -/
def FacesInRange (sourceMesh : AiMesh) : Prop :=
  ∀ face ∈ sourceMesh.mFaces, ∀ indices ∈ face.mIndices, ∀ index ∈ indices,
    index < sourceMesh.mNumVertices

/-- There is something to draw in a mesh. -/
structure Renderable (sourceMesh : AiMesh) : Prop where
  positions : sourceMesh.mVertices ≠ none
  vertices : sourceMesh.mNumVertices ≠ 0
  faces : sourceMesh.mFaces ≠ []
  triangles : sourceMesh.mPrimitiveTypes &&& aiPrimitiveTypeTriangle ≠ 0

theorem renderablePositions_eq_some_iff {sourceMesh : AiMesh}
    {positions : Fin sourceMesh.mNumVertices.toNat → AiVector3D} :
    renderablePositions sourceMesh = some positions ↔
      Renderable sourceMesh ∧ sourceMesh.mVertices = some positions := by
  unfold renderablePositions
  split
  · next hleftOut =>
      simp only [Bool.or_eq_true, beq_iff_eq, List.isEmpty_iff] at hleftOut
      apply iff_of_false nofun
      intro h
      rcases hleftOut with (hvertices | hfaces) | htriangles
      · exact h.1.vertices hvertices
      · exact h.1.faces hfaces
      · exact h.1.triangles htriangles
  · next hkept =>
      simp only [Bool.or_eq_true, not_or, beq_iff_eq, List.isEmpty_iff] at hkept
      obtain ⟨⟨hvertices, hfaces⟩, htriangles⟩ := hkept
      exact ⟨fun h => ⟨⟨by simp [h], hvertices, hfaces, htriangles⟩, h⟩, fun h => h.2⟩

theorem renderablePositions_eq_none_iff {sourceMesh : AiMesh} :
    renderablePositions sourceMesh = none ↔ ¬ Renderable sourceMesh := by
  rw [Option.eq_none_iff_forall_ne_some]
  constructor
  · intro h hrenderable
    obtain ⟨positions, hpositions⟩ := Option.ne_none_iff_exists'.mp hrenderable.positions
    exact h positions (renderablePositions_eq_some_iff.mpr ⟨hrenderable, hpositions⟩)
  · intro h positions hpositions
    exact h (renderablePositions_eq_some_iff.mp hpositions).1

instance : DecidablePred Renderable := fun _ =>
  decidable_of_iff _ (not_congr renderablePositions_eq_none_iff |>.trans not_not)

/-- The meshes with something to draw, with their indices. -/
def renderables : ℕ → List (Option AiMesh) → List (AiMesh × ℕ)
  | _, [] => []
  | meshIndex, none :: sources => renderables (meshIndex + 1) sources
  | meshIndex, some source :: sources =>
    if Renderable source then (source, meshIndex) :: renderables (meshIndex + 1) sources
    else renderables (meshIndex + 1) sources

/-- `u · (v × w)`, which is negative if the three are left-handed. -/
def tripleProduct (u v w : AiVector3D) : ℚ :=
  u.x * (v.y * w.z - v.z * w.y) + u.y * (v.z * w.x - v.x * w.z) + u.z * (v.x * w.y - v.y * w.x)

/-- A vertex as the arrays of the file have it, or white and zero where there are none. The axes
(+X Right, +Y Up, +Z Forward) have become (+X Right, +Y Forward, -Z Up). -/
structure VertexLoaded (source : AiMesh) (i : Fin source.mNumVertices.toNat) (vertex : Vertex3D) :
    Prop where
  position : ∃ positions, source.mVertices = some positions ∧
    vertex.position = ⟨(positions i).x, (positions i).z, -(positions i).y⟩
  color : vertex.color = source.mColors.elim ⟨1, 1, 1, 1⟩ fun colors => colors i
  normal : vertex.normal = source.mNormals.elim ⟨0, 0, 0⟩ fun normals =>
    ⟨(normals i).x, (normals i).z, -(normals i).y⟩
  tangent : ∀ tangents bitangents, source.mTangents = some tangents →
    source.mBitangents = some bitangents → vertex.tangent.x = (tangents i).x ∧
      vertex.tangent.y = (tangents i).z ∧ vertex.tangent.z = -(tangents i).y
  /-- The sign of a tangent is that of the triple product in the file. -/
  handed : ∀ normals tangents bitangents, source.mNormals = some normals →
    source.mTangents = some tangents → source.mBitangents = some bitangents →
      (tripleProduct (normals i) (tangents i) (bitangents i) < 0 → vertex.tangent.w = -1) ∧
      (0 ≤ tripleProduct (normals i) (tangents i) (bitangents i) → vertex.tangent.w = 1)
  unhanded : source.mNormals = none → vertex.tangent.w = 1
  untangled : source.mTangents = none ∨ source.mBitangents = none →
    vertex.tangent = ⟨0, 0, 0, 1⟩
  textureCoordinate : vertex.textureCoordinate = source.mTextureCoords.elim ⟨0, 0⟩
    fun textureCoords => ⟨(textureCoords i).x, (textureCoords i).y⟩

/-- A mesh as it should be. -/
structure MeshLoaded (materialCount : ℕ) (source : AiMesh) (meshIndex : ℕ)
    (mesh : ModelMeshData) : Prop where
  name : mesh.name = if source.mName.cStr = "" then "MeshPart_" ++ toString meshIndex
    else source.mName.cStr
  material : mesh.materialIndex = source.mMaterialIndex.toNat ∧
      mesh.materialIndex < materialCount ∨
    mesh.materialIndex = invalidMaterialIndex ∧ materialCount ≤ source.mMaterialIndex.toNat
  vertices : mesh.meshData.vertices.length = source.mNumVertices.toNat
  vertices_pos : 0 < mesh.meshData.vertices.length
  loaded : ∀ i : Fin source.mNumVertices.toNat, ∃ vertex,
    mesh.meshData.vertices[i.val]? = some vertex ∧ VertexLoaded source i vertex
  indices : mesh.meshData.indices = source.mFaces.flatMap fun face => face.mIndices.getD []
  triangles : mesh.meshData.indices.length = 3 * source.mFaces.length
  indices_pos : 0 < mesh.meshData.indices.length
  inRange : FacesInRange source →
    ∀ index ∈ mesh.meshData.indices, index.toNat < mesh.meshData.vertices.length

variable {modelData : ModelData π} {source : AiMesh} {meshIndex : ℕ}

/-- The axes are changed by a rotation. -/
theorem tripleProduct_toGameSpace (u v w : AiVector3D) :
    dot (cross (toGameSpace u) (toGameSpace v)) (toGameSpace w) = tripleProduct u v w := by
  unfold dot cross toGameSpace tripleProduct
  ring

/-- **One vertex** is what the arrays of the file say. -/
theorem loadVertex_loaded {positions : Fin source.mNumVertices.toNat → AiVector3D}
    (hpositions : source.mVertices = some positions) (i : Fin source.mNumVertices.toNat) :
    VertexLoaded source i (loadVertex source positions i) := by
  unfold loadVertex
  constructor
  · exact ⟨positions, hpositions, rfl⟩
  · cases source.mColors with
    | none => rfl
    | some colors => rfl
  · cases source.mNormals with
    | none => rfl
    | some normals => rfl
  · intro tangents bitangents htangents hbitangents
    rw [htangents, hbitangents]
    exact ⟨rfl, rfl, rfl⟩
  · intro normals tangents bitangents hnormals htangents hbitangents
    rw [hnormals, htangents, hbitangents]
    dsimp only
    unfold tangentHandedness
    rw [tripleProduct_toGameSpace]
    exact ⟨fun hleft => if_pos hleft, fun hright => if_neg (not_lt.mpr hright)⟩
  · intro hnormals
    rw [hnormals]
    cases source.mTangents with
    | none => rfl
    | some tangents =>
        cases source.mBitangents with
        | none => rfl
        | some bitangents =>
            -- without a normal the product is zero
            exact if_neg (by simp [dot, cross])
  · rintro (hnone | hnone)
    · rw [hnone]
    · rw [hnone]
      cases source.mTangents with
      | none => rfl
      | some tangents => rfl
  · cases source.mTextureCoords with
    | none => rfl
    | some textureCoords => rfl

theorem loadFaces_eq_some_iff {faces : List AiFace} {before indices : List UInt32} :
    loadFaces before faces = some indices ↔
      (∀ face ∈ faces, ∃ corners, face.mIndices = some corners ∧ corners.length = 3) ∧
        indices = before ++ faces.flatMap fun face => face.mIndices.getD [] := by
  induction faces generalizing before with
  | nil => simp [loadFaces, eq_comm]
  | cons face faces ih =>
      unfold loadFaces
      rw [List.forall_mem_cons, List.flatMap_cons]
      cases hcorners : face.mIndices with
      | none => simp
      | some corners =>
          by_cases hthree : corners.length = 3
          · simp [hthree, ih]
          · simp [hthree]

theorem length_triangles {faces : List AiFace}
    (h : ∀ face ∈ faces, ∃ corners, face.mIndices = some corners ∧ corners.length = 3) :
    (faces.flatMap fun face => face.mIndices.getD []).length = 3 * faces.length := by
  induction faces with
  | nil => rfl
  | cons face faces ih =>
      obtain ⟨⟨corners, hcorners, hthree⟩, hrest⟩ := List.forall_mem_cons.mp h
      rw [List.flatMap_cons, List.length_append, ih hrest, hcorners, Option.getD_some, hthree,
        List.length_cons]
      omega

omit [FilePath π] in
/-- **One mesh**: it is left out, is appended, or ends the loop. -/
theorem loadMesh_loaded (meshIndex : ℕ) (source : AiMesh) (modelData : ModelData π) :
    ¬ Renderable source ∧ loadMesh meshIndex (some source) modelData = (true, modelData) ∨
      Renderable source ∧ (Triangulated source ∧ (∃ mesh,
          loadMesh meshIndex (some source) modelData =
            (true, { modelData with meshes := modelData.meshes ++ [mesh] }) ∧
          MeshLoaded modelData.materials.length source meshIndex mesh) ∨
        ¬ Triangulated source ∧
          loadMesh meshIndex (some source) modelData = (false, modelData)) := by
  unfold loadMesh
  dsimp only
  cases hkept : renderablePositions source with
  | none => exact Or.inl ⟨renderablePositions_eq_none_iff.mp hkept, rfl⟩
  | some positions =>
      obtain ⟨hrenderable, hpositions⟩ := renderablePositions_eq_some_iff.mp hkept
      refine Or.inr ⟨hrenderable, ?_⟩
      dsimp only
      cases hfaces : loadFaces [] source.mFaces with
      | none =>
          refine Or.inr ⟨fun htriangulated => ?_, rfl⟩
          rw [loadFaces_eq_some_iff.mpr ⟨htriangulated, rfl⟩] at hfaces
          cases hfaces
      | some indices =>
          obtain ⟨htriangulated, hindices⟩ := loadFaces_eq_some_iff.mp hfaces
          refine Or.inl ⟨htriangulated, _, rfl, ?_⟩
          have hvertices : 0 < source.mNumVertices.toNat :=
            Nat.pos_of_ne_zero fun hzero => hrenderable.vertices (UInt32.toNat_inj.mp hzero)
          rw [List.nil_append] at hindices
          have hlength : indices.length = 3 * source.mFaces.length := by
            rw [hindices, length_triangles htriangulated]
          have hfacesPos := List.length_pos_of_ne_nil hrenderable.faces
          refine ⟨rfl, ?_, List.length_ofFn, ?_, ?_, hindices, hlength, ?_, ?_⟩
          · dsimp only
            split
            · next hlt => exact Or.inl ⟨rfl, hlt⟩
            · next hge => exact Or.inr ⟨rfl, not_lt.mp hge⟩
          · rw [List.length_ofFn]
            exact hvertices
          · intro i
            exact ⟨loadVertex source positions i, by simp, loadVertex_loaded hpositions i⟩
          · dsimp only
            omega
          · intro hrange index hindex
            rw [hindices, List.mem_flatMap] at hindex
            obtain ⟨face, hface, hcorner⟩ := hindex
            obtain ⟨corners, hcorners, -⟩ := htriangulated face hface
            rw [hcorners] at hcorner
            rw [List.length_ofFn]
            exact UInt32.lt_iff_toNat_lt.mp (hrange face hface corners hcorners index hcorner)

omit [FilePath π] in
/-- **All meshes** that are not left out become meshes of the model, in order, unless a face of one
is no triangle. -/
theorem loadMeshes_loaded (meshIndex : ℕ) (sources : List (Option AiMesh))
    (modelData : ModelData π) :
    (∀ source ∈ renderables meshIndex sources, Triangulated source.1) ∧ (∃ meshes,
        loadMeshes meshIndex sources modelData =
          (true, { modelData with meshes := modelData.meshes ++ meshes }) ∧
        List.Forall₂
          (fun source mesh => MeshLoaded modelData.materials.length source.1 source.2 mesh)
          (renderables meshIndex sources) meshes) ∨
      (∃ source ∈ renderables meshIndex sources, ¬ Triangulated source.1) ∧
        (loadMeshes meshIndex sources modelData).1 = false := by
  induction sources generalizing meshIndex modelData with
  | nil => exact Or.inl ⟨nofun, [], by simp [loadMeshes], List.Forall₂.nil⟩
  | cons source sources ih =>
      cases source with
      | none => exact ih (meshIndex + 1) modelData
      | some source =>
          unfold loadMeshes renderables
          rcases loadMesh_loaded meshIndex source modelData with
            ⟨hnone, hload⟩ | ⟨hsome, ⟨htriangulated, mesh, hload, hmesh⟩ | ⟨hbad, hload⟩⟩
          · rw [hload, if_neg hnone]
            exact ih (meshIndex + 1) modelData
          · rw [hload, if_pos hsome]
            rcases ih (meshIndex + 1) { modelData with meshes := modelData.meshes ++ [mesh] } with
              ⟨hall, meshes, hrest, hmeshes⟩ | ⟨⟨other, hother, hbad⟩, hrest⟩
            · refine Or.inl ⟨List.forall_mem_cons.mpr ⟨htriangulated, hall⟩, mesh :: meshes, ?_,
                List.Forall₂.cons hmesh hmeshes⟩
              rw [List.append_assoc, List.singleton_append] at hrest
              exact hrest
            · exact Or.inr ⟨⟨other, List.mem_cons_of_mem _ hother, hbad⟩, hrest⟩
          · rw [hload, if_pos hsome]
            exact Or.inr ⟨⟨_, List.mem_cons_self, hbad⟩, rfl⟩

end Meshes

/-! ## Loaded models -/

section Models

/-- A texture inside the file has as many bytes as its size says. -/
def ModelTextureData.Sized (t : ModelTextureData π) : Prop :=
  t.isEmbedded = true → t.embeddedData ≠ [] ∧ t.embeddedData.length =
    if t.height = 0 then t.width.toNat else t.width.toNat * t.height.toNat * aiTexelSize

/-- What a scene needs to be drawn. -/
structure AiScene.Loadable (scene : AiScene) : Prop where
  root : scene.hasRootNode = true
  renderable : renderables 0 (scene.mMeshes.getD []) ≠ []
  triangulated : ∀ source ∈ renderables 0 (scene.mMeshes.getD []), Triangulated source.1

/-- **A model as the rest of the client relies on it**: every index finds what the scene names, and
nothing is in the model twice or for nothing. -/
structure ModelData.WellFormed (scene : AiScene) (modelFilePath : π) (modelData : ModelData π) :
    Prop where
  meshes_ne : modelData.meshes ≠ []
  meshes : List.Forall₂
    (fun source mesh => MeshLoaded modelData.materials.length source.1 source.2 mesh)
    (renderables 0 (scene.mMeshes.getD [])) modelData.meshes
  materials_length : modelData.materials.length = scene.mMaterials.length
  materials : ∀ materialIndex source material, scene.mMaterials[materialIndex]? = some source →
    modelData.materials[materialIndex]? = some material →
      MaterialLoaded scene modelFilePath modelData.textures materialIndex source material
  /-- There is one texture for each source. -/
  shared : ∀ i j t u, RefersTo SameSource modelData.textures i t →
    RefersTo SameSource modelData.textures j u → (i = j ↔ SameSource t u)
  /-- Every texture is what the file says of it, and is asked for. -/
  made : ∀ t ∈ modelData.textures, ∃ source ∈ scene.mMaterials,
    AsksBaseColor scene modelFilePath t source ∨ AsksNormalMap scene modelFilePath t source
  used : ∀ i < modelData.textures.length, ∃ material ∈ modelData.materials,
    material.baseColorTextureIndex = i ∨ material.normalMapTextureIndex = i
  textures_lt : modelData.textures.length < invalidTextureIndex
  sized : ∀ t ∈ modelData.textures, t.Sized

variable {scene : AiScene} {modelFilePath : π} {modelData : ModelData π}

theorem Denotes.sized {reference : AiString} {t : ModelTextureData π}
    (h : Denotes scene modelFilePath reference t) : t.Sized := by
  cases h with
  | @embedded texture data hname htexture hdata hsome hcount =>
      exact fun _ => ⟨hsome, texture.sized data hdata⟩
  | file hname houtside hinside hpath =>
      -- a file has no bytes here
      intro hembedded
      cases hembedded

/-- A texture inside the file is the one the file has under this reference. -/
theorem Denotes.inside {reference : AiString} {t : ModelTextureData π}
    (h : Denotes scene modelFilePath reference t) (hembedded : t.isEmbedded = true) :
    ∃ texture, scene.getEmbeddedTexture t.sourceReference = some texture ∧
      texture.pcData = some t.embeddedData ∧ texture.mWidth = t.width ∧
        texture.mHeight = t.height := by
  cases h with
  | @embedded texture data hname htexture hdata hsome hcount =>
      exact ⟨texture, htexture, hdata, rfl, rfl⟩
  | file hname houtside hinside hpath => cases hembedded

/-- What is asked for has a reference. -/
theorem denotes_of_asked {source : Option AiMaterial} {t : ModelTextureData π}
    (h : AsksBaseColor scene modelFilePath t source ∨ AsksNormalMap scene modelFilePath t source) :
    ∃ reference, Denotes scene modelFilePath reference t := by
  rcases h with hbase | hnormal
  · cases hbase with
    | baseColor _ ht => exact ⟨_, ht⟩
    | diffuse _ _ ht => exact ⟨_, ht⟩
  · cases hnormal with
    | normals _ ht => exact ⟨_, ht⟩

/-- A texture that is asked for has the size it says. -/
theorem MaterialsLoaded.sized {sources : List (Option AiMaterial)}
    (h : MaterialsLoaded scene modelFilePath sources modelData) :
    ∀ t ∈ modelData.textures, t.Sized := by
  intro t ht
  obtain ⟨source, -, hasked⟩ := h.only t ht
  obtain ⟨reference, hdenotes⟩ := denotes_of_asked hasked
  exact hdenotes.sized

/-- A texture is there because a material asks for it, and has the index of that material. -/
theorem MaterialsLoaded.used {sources : List (Option AiMaterial)}
    (h : MaterialsLoaded scene modelFilePath sources modelData) {i : ℕ}
    (hi : i < modelData.textures.length) :
    ∃ material ∈ modelData.materials,
      material.baseColorTextureIndex = i ∨ material.normalMapTextureIndex = i := by
  have href : RefersTo SameSource modelData.textures i modelData.textures[i] :=
    ⟨_, List.getElem?_eq_getElem hi, sameSource_equivalence.refl _⟩
  obtain ⟨source, hsource, hasked⟩ := h.only _ (List.getElem_mem hi)
  obtain ⟨k, hk, rfl⟩ := List.getElem_of_mem hsource
  have hk' : k < modelData.materials.length := by rw [h.length]; exact hk
  refine ⟨modelData.materials[k], List.getElem_mem hk', ?_⟩
  obtain ⟨-, hbase, hnormal⟩ := h.loaded k _ _ (List.getElem?_eq_getElem hk)
    (List.getElem?_eq_getElem hk')
  rcases hasked with hasked | hasked
  · exact Or.inl ((h.distinct.index_eq_iff sameSource_equivalence (hbase.found _ hasked)
      href).mpr (sameSource_equivalence.refl _))
  · exact Or.inr ((h.distinct.index_eq_iff sameSource_equivalence (hnormal.found _ hasked)
      href).mpr (sameSource_equivalence.refl _))

/-- The meshes are appended to what the loop over the materials has made. -/
theorem MaterialsLoaded.wellFormed
    (h : MaterialsLoaded scene modelFilePath scene.mMaterials modelData)
    {meshes : List ModelMeshData} (hne : meshes ≠ [])
    (hmeshes : List.Forall₂
      (fun source mesh => MeshLoaded modelData.materials.length source.1 source.2 mesh)
      (renderables 0 (scene.mMeshes.getD [])) meshes) :
    ({ modelData with meshes := modelData.meshes ++ meshes } : ModelData π).WellFormed scene
      modelFilePath := by
  rw [h.meshes, List.nil_append]
  refine ⟨hne, hmeshes, h.length, h.loaded, ?_, h.only, fun i hi => h.used hi, ?_, h.sized⟩
  · intro i j t u hi hj
    exact h.distinct.index_eq_iff sameSource_equivalence hi hj
  · have hlength := h.textures_le
    have hfew := scene.materials_lt
    have hvalue : invalidTextureIndex = 2 ^ 64 - 1 := rfl
    dsimp only
    omega

omit [FilePath π] in
theorem not_succeeded_of_error {r : AssimpModelLoadResult π} (h : r.errorMessage ≠ "") :
    r.succeeded = false := by
  simp [AssimpModelLoadResult.succeeded, h]

/-- **A scene** becomes a model, or an error. -/
theorem loadStaticModelData_scene {readFile : π → Except String AiScene}
    (hpath : FilePath.empty modelFilePath = false) (hread : readFile modelFilePath = .ok scene) :
    scene.Loadable ∧ (loadStaticModelData readFile modelFilePath).errorMessage = "" ∧
        (loadStaticModelData readFile modelFilePath).modelData.WellFormed scene modelFilePath ∨
      ¬ scene.Loadable ∧ (loadStaticModelData readFile modelFilePath).errorMessage ≠ "" := by
  unfold loadStaticModelData
  rw [hpath, hread]
  dsimp only
  split
  · cases ‹false = true›
  split
  · next hnothing =>
      refine Or.inr ⟨fun hloadable => ?_, by simp⟩
      obtain ⟨hroot, hrenderable, -⟩ := hloadable
      rw [hroot, Bool.not_true, Bool.false_or, List.isEmpty_iff] at hnothing
      rw [hnothing] at hrenderable
      exact hrenderable rfl
  · next hsomething =>
      simp only [Bool.or_eq_true, not_or, Bool.not_eq_true, Bool.not_eq_false'] at hsomething
      have hmaterials := loadMaterials_scene scene modelFilePath
      generalize loadMaterials scene modelFilePath 0 scene.mMaterials {} = modelData at hmaterials ⊢
      rcases loadMeshes_loaded 0 (scene.mMeshes.getD []) modelData with
        ⟨htriangulated, meshes, hload, hmeshes⟩ | ⟨⟨source, hsource, hbad⟩, hload⟩
      · rw [hload]
        dsimp only
        by_cases hne : meshes = []
        · subst hne
          have hnone : renderables 0 (scene.mMeshes.getD []) = [] :=
            List.forall₂_nil_right_iff.mp hmeshes
          refine Or.inr ⟨fun hloadable => hloadable.renderable hnone, ?_⟩
          rw [hmaterials.meshes]
          simp [ModelData.isEmpty]
        · have hwellFormed := hmaterials.wellFormed hne hmeshes
          rw [hmaterials.meshes] at hwellFormed ⊢
          refine Or.inl ⟨⟨hsomething.1, ?_, htriangulated⟩, ?_, ?_⟩
          · intro hnone
            rw [hnone] at hmeshes
            exact hne (List.forall₂_nil_left_iff.mp hmeshes)
          · simp [ModelData.isEmpty, hne]
          · simpa [ModelData.isEmpty, hne] using hwellFormed
      · refine Or.inr ⟨fun hloadable => hbad (hloadable.triangulated source hsource), ?_⟩
        generalize loadMeshes 0 (scene.mMeshes.getD []) modelData = loaded at hload ⊢
        obtain ⟨triangulated, modelData'⟩ := loaded
        dsimp only at hload ⊢
        subst hload
        simp

/-- **The loader** makes a model of a scene, or gives the text of an error. -/
theorem loadStaticModelData_cases (readFile : π → Except String AiScene) (modelFilePath : π) :
    let r := loadStaticModelData readFile modelFilePath
    (∃ scene, FilePath.empty modelFilePath = false ∧ readFile modelFilePath = .ok scene ∧
      scene.Loadable ∧ r.errorMessage = "" ∧ r.succeeded = true ∧
        r.modelData.WellFormed scene modelFilePath) ∨
    ((∀ scene, FilePath.empty modelFilePath = false → readFile modelFilePath = .ok scene →
      ¬ scene.Loadable) ∧ r.errorMessage ≠ "" ∧ r.succeeded = false) := by
  intro r
  by_cases hpath : FilePath.empty modelFilePath = true
  · have hr : r = { errorMessage := "Model file path is empty." } := if_pos hpath
    refine Or.inr ⟨fun scene hempty => ?_, by simp [hr], by simp [hr, not_succeeded_of_error]⟩
    rw [hpath] at hempty
    cases hempty
  rw [Bool.not_eq_true] at hpath
  cases hread : readFile modelFilePath with
  | error errorString =>
      have herror : r.errorMessage ≠ "" := by
        show (loadStaticModelData readFile modelFilePath).errorMessage ≠ ""
        unfold loadStaticModelData
        rw [hpath, hread]
        dsimp only
        split
        · cases ‹false = true›
        split
        · simp
        · assumption
      exact Or.inr ⟨nofun, herror, not_succeeded_of_error herror⟩
  | ok scene =>
      rcases loadStaticModelData_scene hpath hread with ⟨hloadable, hnoError, hwellFormed⟩ |
        ⟨hnot, herror⟩
      · refine Or.inl ⟨scene, hpath, rfl, hloadable, hnoError, ?_, hwellFormed⟩
        unfold AssimpModelLoadResult.succeeded
        rw [hnoError]
        simpa [ModelData.isEmpty] using hwellFormed.meshes_ne
      · refine Or.inr ⟨fun other _ hother => ?_, herror, not_succeeded_of_error herror⟩
        cases hother
        exact hnot

/-- A model that was loaded comes from a scene. -/
theorem wellFormed_of_succeeded {readFile : π → Except String AiScene}
    (h : (loadStaticModelData readFile modelFilePath).succeeded = true) :
    ∃ scene, readFile modelFilePath = .ok scene ∧
      (loadStaticModelData readFile modelFilePath).modelData.WellFormed scene modelFilePath := by
  rcases loadStaticModelData_cases readFile modelFilePath with
    ⟨scene, -, hread, -, -, -, hwellFormed⟩ | ⟨-, -, hfailed⟩
  · exact ⟨scene, hread, hwellFormed⟩
  · rw [h] at hfailed
    cases hfailed

/-- A mesh has a material of the model, or none. -/
theorem ModelData.WellFormed.materialIndex (h : modelData.WellFormed scene modelFilePath)
    {mesh : ModelMeshData} (hmesh : mesh ∈ modelData.meshes) :
    mesh.materialIndex = invalidMaterialIndex ∨
      mesh.materialIndex < modelData.materials.length := by
  obtain ⟨i, hi, rfl⟩ := List.getElem_of_mem hmesh
  have hloaded := h.meshes.get (h.meshes.length_eq ▸ hi) hi
  rcases hloaded.material with ⟨-, hlt⟩ | ⟨hnone, -⟩
  · exact Or.inr hlt
  · exact Or.inl hnone

/-- A material has textures of the model, or none. -/
theorem ModelData.WellFormed.textureIndex (h : modelData.WellFormed scene modelFilePath)
    {material : ModelMaterialData} (hmaterial : material ∈ modelData.materials) :
    (material.baseColorTextureIndex = invalidTextureIndex ∨
      material.baseColorTextureIndex < modelData.textures.length) ∧
    (material.normalMapTextureIndex = invalidTextureIndex ∨
      material.normalMapTextureIndex < modelData.textures.length) := by
  obtain ⟨i, hi, rfl⟩ := List.getElem_of_mem hmaterial
  have hi' : i < scene.mMaterials.length := by
    rw [← h.materials_length]
    exact hi
  have hloaded := h.materials i _ _ (List.getElem?_eq_getElem hi') (List.getElem?_eq_getElem hi)
  exact ⟨hloaded.baseColor.lt, hloaded.normalMap.lt⟩

/-- A triangle with a left-handed corner, and one file for both textures of its material. -/
def triangleScene : AiScene where
  hasRootNode := true
  mMaterials := [none, some {
    name := none
    getTextureCount := fun type => if type = .baseColor then 0 else 1
    getTexture := fun _ => some ⟨['a']⟩ }]
  mMeshes := some [none, some {
    mPrimitiveTypes := 4
    mName := ⟨[]⟩
    mMaterialIndex := 1
    mNumVertices := 3
    mVertices := some fun i => ⟨i.val, 1, 2⟩
    mColors := none
    mNormals := some fun _ => ⟨0, 1, 0⟩
    mTangents := some fun _ => ⟨1, 0, 0⟩
    mBitangents := some fun i => ⟨0, 0, if i.val = 0 then 1 else -1⟩
    mTextureCoords := none
    mFaces := [⟨some [0, 1, 2]⟩] }]
  getEmbeddedTexture := fun _ => none
  materials_lt := by decide

end Models

end NetworkArena.Client
