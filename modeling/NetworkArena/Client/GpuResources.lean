/-
# NetworkArena.Client.GpuResources -- meshes and textures for the graphics device

`d3d11_mesh.inl` and `d3d11_texture.cpp` with the functions of `d3d11_renderer.cpp` that create a
mesh or a texture. Whether the calls to the device and to the image decoder succeed is given with
the call of the function. What an image decodes to depends on its file, or on its bytes
(`ImageDecoder`).

A mesh that is created holds the vertices and indices it was created for (`initializeMesh_eq_some`),
and a texture the pixels (`Pictures`), all of them also when the order of their bytes is changed
(`swapRedAndBlue_eq`).
-/
import NetworkArena.Client.Display
import NetworkArena.Client.ModelLoading
import NetworkArena.Client.ResourceRepositories
import NetworkArena.Foundation.Span

namespace NetworkArena.Client

open NetworkArena.Foundation

/-! ## Answers -/

/-- What the device answers to `D3D11Mesh::Initialize`. -/
structure MeshAnswers where
  object : ℕ := 0
  vertexBuffer : Option ℕ := some 0
  indexBuffer : Option ℕ := some 1
  inputLayout : Option ℕ := some 2
  deriving DecidableEq, Repr

/-- An image: its size, and the bytes that the format converter makes of its pixels. -/
structure BitmapSource where
  width : UInt32
  height : UInt32
  pixels : ℕ → UInt8

/-- What the files and bytes that can be decoded are images of. -/
structure ImageDecoder (π : Type) where
  file : π → Option BitmapSource
  memory : List UInt8 → Option BitmapSource

/-- Whether all calls of the decoder succeed in one of the functions that fill a `D3D11Texture`, and
what the device answers to it. -/
structure TextureAnswers where
  object : ℕ := 0
  decoded : Bool := true
  texture : Option ℕ := some 0
  shaderResourceView : Option ℕ := some 1

/-! ## Meshes -/

/-- `std::numeric_limits<UINT>::max()`. -/
def uintMax : ℕ := 2 ^ 32 - 1

/-- `sizeof(Vertex3D)`. -/
def vertexSize : ℕ := 64

/-- `sizeof(std::uint32_t)`. -/
def indexSize : ℕ := 4

def maxIndexableVertexCount : ℕ := uintMax + 1

/-- `DXGI_FORMAT_R32_UINT`. -/
def dxgiFormatR32Uint : UInt32 := 42

namespace D3D11Mesh

/-- `Initialize`, for a device and a layout that are there. -/
def initializeMesh (answers : MeshAnswers) (vertices : List Vertex3D) (indices : List UInt32) :
    Option D3D11Mesh :=
  if vertices.isEmpty || indices.isEmpty then none
  else if indices.length % 3 ≠ 0 then none
  else if vertices.length > maxIndexableVertexCount then none
  else if vertices.length > uintMax / vertexSize ∨ indices.length > uintMax / indexSize then none
  else if indices.any fun index => index.toNat ≥ vertices.length then none
  else
    match answers.vertexBuffer, answers.indexBuffer, answers.inputLayout with
    | some vertexBuffer, some indexBuffer, some inputLayout =>
      some {
        object := answers.object
        vertexBuffer := some ⟨vertexBuffer, vertices⟩
        indexBuffer := some ⟨indexBuffer, indices⟩
        inputLayout := some inputLayout
        vertexStride := UInt32.ofNat vertexSize
        vertexCount := UInt32.ofNat vertices.length
        indexCount := UInt32.ofNat indices.length
        indexFormat := dxgiFormatR32Uint }
    -- whatever was created is given up again
    | _, _, _ => none

/-- A mesh draws the triangles of some data: its buffers hold them, and no index reads a vertex that
is not there. -/
structure Draws (mesh : D3D11Mesh) (meshData : MeshData) : Prop where
  isInitialized : mesh.isInitialized = true
  vertexBuffer : mesh.vertexBuffer.map D3D11Buffer.data = some meshData.vertices
  indexBuffer : mesh.indexBuffer.map D3D11Buffer.data = some meshData.indices
  vertexCount : mesh.vertexCount.toNat = meshData.vertices.length
  indexCount : mesh.indexCount.toNat = meshData.indices.length
  triangles : 3 ∣ meshData.indices.length
  inRange : ∀ index ∈ meshData.indices, index.toNat < mesh.vertexCount.toNat

variable {answers : MeshAnswers} {vertices : List Vertex3D} {indices : List UInt32}
  {mesh : D3D11Mesh}

theorem toNat_ofNat_of_le {n : ℕ} (h : n ≤ uintMax) : (UInt32.ofNat n).toNat = n := by
  rw [UInt32.toNat_ofNat']
  exact Nat.mod_eq_of_lt (by unfold uintMax at h; omega)

/-- **A mesh that is created** is the one it was created for. -/
theorem initializeMesh_eq_some (h : initializeMesh answers vertices indices = some mesh) :
    mesh.Draws ⟨vertices, indices⟩ := by
  unfold initializeMesh at h
  split at h
  · cases h
  split at h
  · cases h
  split at h
  · cases h
  split at h
  · cases h
  split at h
  · cases h
  next hsome hthree _ hfits hrange =>
    simp only [Bool.or_eq_true, List.isEmpty_iff, not_or] at hsome
    simp only [List.any_eq_true, decide_eq_true_eq, not_exists, not_and, not_le] at hrange
    simp only [uintMax, vertexSize, indexSize, not_or, not_lt] at hfits
    split at h
    · next hvertexBuffer hindexBuffer hinputLayout =>
        cases h
        have hvertices : (UInt32.ofNat vertices.length).toNat = vertices.length :=
          toNat_ofNat_of_le (by unfold uintMax; omega)
        have hindices : (UInt32.ofNat indices.length).toNat = indices.length :=
          toNat_ofNat_of_le (by unfold uintMax; omega)
        have hvertices_pos := List.length_pos_of_ne_nil hsome.1
        have hindices_pos := List.length_pos_of_ne_nil hsome.2
        refine ⟨?_, rfl, rfl, hvertices, hindices, ?_, ?_⟩
        · have hv : (0 : UInt32) < UInt32.ofNat vertices.length :=
            UInt32.lt_iff_toNat_lt.mpr (by rw [hvertices]; exact hvertices_pos)
          have hi : (0 : UInt32) < UInt32.ofNat indices.length :=
            UInt32.lt_iff_toNat_lt.mpr (by rw [hindices]; exact hindices_pos)
          simp [isInitialized, hv, hi, vertexSize, dxgiFormatR32Uint, dxgiFormatUnknown]
        · dsimp only
          omega
        · dsimp only
          rw [hvertices]
          exact hrange
    · cases h

end D3D11Mesh

/-! ## Textures -/

def bytesPerRgbaPixel : ℕ := 4

/-- The row pitch and the size of a buffer. -/
def tryCalculateRgbaBufferSize (width height : UInt32) : Option (ℕ × ℕ) :=
  if width = 0 ∨ height = 0 then none
  else
    let widthSize := width.toNat
    let heightSize := height.toNat
    if widthSize > sizeMax / bytesPerRgbaPixel then none
    else
      let rowPitch := widthSize * bytesPerRgbaPixel
      if heightSize > sizeMax / rowPitch then none else some (rowPitch, rowPitch * heightSize)

/-- The row pitch and the size of a buffer that the device can take. -/
def uploadSize (width height : UInt32) : Option (ℕ × ℕ) :=
  (tryCalculateRgbaBufferSize width height).filter fun sizes =>
    sizes.1 ≤ uintMax && sizes.2 ≤ uintMax

/-- `std::swap(pixels[i], pixels[j])`. -/
def swapBytes (pixels : List UInt8) (i j : ℕ) : Checked (List UInt8) := do
  let a ← Span.readAt pixels i
  let b ← Span.readAt pixels j
  let pixels ← Span.writeAt pixels i b
  Span.writeAt pixels j a

/-- The loop from one pixel on. -/
def swapRedAndBlue (bufferSize pixelOffset : ℕ) (pixels : List UInt8) : Checked (List UInt8) :=
  if pixelOffset < bufferSize then do
    let pixels ← swapBytes pixels (pixelOffset + 0) (pixelOffset + 2)
    swapRedAndBlue bufferSize (pixelOffset + bytesPerRgbaPixel) pixels
  else return pixels
termination_by bufferSize - pixelOffset
decreasing_by
  unfold bytesPerRgbaPixel
  omega

/-- Where the byte of an RGBA pixel is in BGRA, and the other way round. -/
def otherByte (i : ℕ) : ℕ := if i % 4 = 0 then i + 2 else if i % 4 = 2 then i - 2 else i

/-- What a texture is made of. -/
inductive ImageSource (π : Type) where
  | file (filePath : π)
  | encoded (encodedData : List UInt8)
  | bgra (width height : UInt32) (bgraPixels : List UInt8)

/-- What a texture of a model is made of. -/
def ModelTextureData.source {π : Type} (t : ModelTextureData π) : ImageSource π :=
  if t.isEmbedded then
    if t.isCompressedEmbedded then .encoded t.embeddedData
    else .bgra t.width t.height t.embeddedData
  else .file t.filePath

/-- The device has been given an image, row by row and as a whole. -/
structure D3D11Texture.Holds (texture : D3D11Texture) (width height : UInt32)
    (bytes : ℕ → Option UInt8) (image : D3D11Texture2D) : Prop where
  shaderResourceView : texture.shaderResourceView.isSome = true
  held : texture.texture = some image
  size : image.width = width ∧ image.height = height
  rows : image.sysMemPitch.toNat = width.toNat * 4
  length : image.pixels.length = width.toNat * height.toNat * 4
  pixels : ∀ i < width.toNat * height.toNat * 4, image.pixels[i]? = bytes i

/-- A texture is the image of its source. -/
inductive D3D11Texture.Pictures {π : Type} (decoder : ImageDecoder π) (texture : D3D11Texture) :
    ImageSource π → Prop
  | file {filePath : π} {bitmapSource : BitmapSource} {image : D3D11Texture2D}
      (hfile : decoder.file filePath = some bitmapSource)
      (himage : texture.Holds bitmapSource.width bitmapSource.height
        (fun i => some (bitmapSource.pixels i)) image) :
      Pictures decoder texture (.file filePath)
  | encoded {encodedData : List UInt8} {bitmapSource : BitmapSource} {image : D3D11Texture2D}
      (hmemory : decoder.memory encodedData = some bitmapSource)
      (himage : texture.Holds bitmapSource.width bitmapSource.height
        (fun i => some (bitmapSource.pixels i)) image) :
      Pictures decoder texture (.encoded encodedData)
  | bgra {width height : UInt32} {bgraPixels : List UInt8} {image : D3D11Texture2D}
      (himage : texture.Holds width height (fun i => bgraPixels[otherByte i]?) image) :
      Pictures decoder texture (.bgra width height bgraPixels)

namespace D3D11Texture

/-- `InitializeFromRgbaPixels`; the device reads as many bytes as the rows have. -/
def initializeFromRgbaPixels (answers : TextureAnswers) (width height : UInt32)
    (rgbaPixels : List UInt8) : Option D3D11Texture :=
  if rgbaPixels.isEmpty then none
  else
    match uploadSize width height with
    | none => none
    | some (rowPitch, bufferSize) =>
      if rgbaPixels.length < bufferSize then none
      else
        match answers.texture, answers.shaderResourceView with
        | some texture, some shaderResourceView =>
          some {
            object := answers.object
            texture := some {
              object := texture
              width
              height
              sysMemPitch := UInt32.ofNat rowPitch
              pixels := rgbaPixels.take bufferSize }
            shaderResourceView := some shaderResourceView }
        | _, _ => none

def initializeFromBgraPixels (answers : TextureAnswers) (width height : UInt32)
    (bgraPixels : List UInt8) : Checked (Option D3D11Texture) :=
  if bgraPixels.isEmpty then return none
  else
    match uploadSize width height with
    | none => return none
    | some (_, bufferSize) =>
      if bgraPixels.length < bufferSize then return none
      else do
        let rgbaPixels ← swapRedAndBlue bufferSize 0 bgraPixels
        return initializeFromRgbaPixels answers width height rgbaPixels

/-- `InitializeFromBitmapSource`; the converter fills the buffer it is given. -/
def initializeFromBitmapSource (answers : TextureAnswers) (bitmapSource : BitmapSource) :
    Option D3D11Texture :=
  match uploadSize bitmapSource.width bitmapSource.height with
  | none => none
  | some (_, bufferSize) =>
    initializeFromRgbaPixels answers bitmapSource.width bitmapSource.height
      ((List.range bufferSize).map bitmapSource.pixels)

/-- `InitializeFromDecoder`, with the decoder for a file or a stream. -/
def initializeFromDecoder (answers : TextureAnswers) (decoded : Option BitmapSource) :
    Option D3D11Texture :=
  if answers.decoded then decoded.bind (initializeFromBitmapSource answers) else none

def initializeFromFile {π : Type} [FilePath π] (decoder : ImageDecoder π)
    (answers : TextureAnswers) (filePath : π) : Option D3D11Texture :=
  if FilePath.empty filePath then none
  else initializeFromDecoder answers (decoder.file filePath)

def initializeFromEncodedMemory {π : Type} (decoder : ImageDecoder π) (answers : TextureAnswers)
    (encodedData : List UInt8) : Option D3D11Texture :=
  if encodedData.isEmpty then none
  else if encodedData.length > uintMax then none
  else initializeFromDecoder answers (decoder.memory encodedData)

end D3D11Texture

section Pixels

variable {pixels : List UInt8} {width height : UInt32} {rowPitch bufferSize : ℕ}

theorem uploadSize_eq_some (h : uploadSize width height = some (rowPitch, bufferSize)) :
    rowPitch = width.toNat * 4 ∧ rowPitch ≤ uintMax ∧
      bufferSize = width.toNat * height.toNat * 4 ∧ 0 < bufferSize ∧ bufferSize ≤ uintMax := by
  obtain ⟨hsizes, hfits⟩ := Option.filter_eq_some_iff.mp h
  simp only [Bool.and_eq_true, decide_eq_true_eq] at hfits
  unfold tryCalculateRgbaBufferSize at hsizes
  split at hsizes
  · cases hsizes
  next hzero =>
    dsimp only at hsizes
    split at hsizes
    · cases hsizes
    split at hsizes
    · cases hsizes
    cases hsizes
    obtain ⟨hwidth, hheight⟩ := not_or.mp hzero
    have hwidth_pos : 0 < width.toNat :=
      Nat.pos_of_ne_zero fun heq => hwidth (UInt32.toNat_inj.mp heq)
    have hheight_pos : 0 < height.toNat :=
      Nat.pos_of_ne_zero fun heq => hheight (UInt32.toNat_inj.mp heq)
    unfold bytesPerRgbaPixel at hfits ⊢
    exact ⟨rfl, hfits.1, by ring, Nat.mul_pos (Nat.mul_pos hwidth_pos (by decide)) hheight_pos,
      hfits.2⟩

/-- What the device can take has a size. -/
theorem uploadSize_of_le (hwidth : width ≠ 0) (hheight : height ≠ 0)
    (hexact : bufferSize = width.toNat * height.toNat * 4) (hle : bufferSize ≤ uintMax) :
    uploadSize width height = some (width.toNat * 4, bufferSize) := by
  have hwidth_pos : 0 < width.toNat :=
    Nat.pos_of_ne_zero fun heq => hwidth (UInt32.toNat_inj.mp heq)
  have hheight_pos : 0 < height.toNat :=
    Nat.pos_of_ne_zero fun heq => hheight (UInt32.toNat_inj.mp heq)
  have hpitch : width.toNat * 4 ≤ bufferSize := by
    rw [hexact, Nat.mul_right_comm]
    exact Nat.le_mul_of_pos_right _ hheight_pos
  have hsize : width.toNat * 4 * height.toNat = bufferSize := by
    rw [hexact, Nat.mul_right_comm]
  unfold uintMax at hle
  have hwidth_fits : ¬ width.toNat > sizeMax / bytesPerRgbaPixel := by
    unfold sizeMax bytesPerRgbaPixel
    omega
  have hheight_fits : ¬ height.toNat > sizeMax / (width.toNat * bytesPerRgbaPixel) := by
    rw [gt_iff_lt, not_lt, Nat.le_div_iff_mul_le (by unfold bytesPerRgbaPixel; omega)]
    unfold sizeMax bytesPerRgbaPixel
    rw [Nat.mul_comm]
    omega
  unfold uploadSize tryCalculateRgbaBufferSize
  rw [if_neg (not_or.mpr ⟨hwidth, hheight⟩)]
  dsimp only
  rw [if_neg hwidth_fits, if_neg hheight_fits]
  unfold bytesPerRgbaPixel uintMax
  rw [hsize, Option.filter_some, if_pos]
  simp only [Bool.and_eq_true, decide_eq_true_eq]
  omega

theorem swapBytes_eq {i j : ℕ} (hi : i < pixels.length) (hj : j < pixels.length) :
    swapBytes pixels i j = .ok ((pixels.set i pixels[j]).set j pixels[i]) := by
  unfold swapBytes Span.readAt Span.writeAt
  rw [List.getElem?_eq_getElem hi, List.getElem?_eq_getElem hj]
  simp [hi, hj]

/-- **The pixels stay**, in the other order of their bytes, and no access leaves the buffer. -/
theorem swapRedAndBlue_eq (pixels : List UInt8) (pixelOffset remaining : ℕ)
    (hsize : bufferSize ≤ pixels.length) (haligned : pixelOffset % 4 = 0)
    (hrest : bufferSize = pixelOffset + 4 * remaining) :
    ∃ swapped, swapRedAndBlue bufferSize pixelOffset pixels = .ok swapped ∧
      swapped.length = pixels.length ∧ ∀ i, swapped[i]? =
        if pixelOffset ≤ i ∧ i < bufferSize then pixels[otherByte i]? else pixels[i]? := by
  induction remaining generalizing pixels pixelOffset with
  | zero =>
      rw [swapRedAndBlue, if_neg (by omega)]
      refine ⟨pixels, rfl, rfl, fun i => ?_⟩
      rw [if_neg (by omega)]
  | succ remaining ih =>
      have hred : pixelOffset < pixels.length := by omega
      have hblue : pixelOffset + 2 < pixels.length := by omega
      obtain ⟨swapped, hswapped, hlength, hbytes⟩ :=
        ih ((pixels.set pixelOffset pixels[pixelOffset + 2]).set (pixelOffset + 2)
          pixels[pixelOffset]) (pixelOffset + 4) (by simpa using hsize) (by omega) (by omega)
      rw [swapRedAndBlue, if_pos (by omega), Nat.add_zero, swapBytes_eq hred hblue]
      refine ⟨swapped, hswapped, by simpa using hlength, fun i => ?_⟩
      rw [hbytes]
      unfold otherByte
      simp only [List.getElem?_set, List.length_set]
      grind

/-- The bytes of an image in the other order. -/
theorem swapRedAndBlue_upload (hupload : uploadSize width height = some (rowPitch, bufferSize))
    (hsize : bufferSize ≤ pixels.length) :
    ∃ swapped, swapRedAndBlue bufferSize 0 pixels = .ok swapped ∧
      swapped.length = pixels.length ∧
      ∀ i < bufferSize, swapped[i]? = pixels[otherByte i]? := by
  obtain ⟨-, -, hexact, -, -⟩ := uploadSize_eq_some hupload
  obtain ⟨swapped, hswapped, hlength, hbytes⟩ :=
    swapRedAndBlue_eq pixels 0 (width.toNat * height.toNat) hsize rfl (by rw [hexact]; ring)
  refine ⟨swapped, hswapped, hlength, fun i hi => ?_⟩
  rw [hbytes, if_pos ⟨Nat.zero_le _, hi⟩]

namespace D3D11Texture

variable {π : Type} {decoder : ImageDecoder π} {answers : TextureAnswers} {texture : D3D11Texture}

/-- No access leaves the pixels of an image, whatever its size is said to be. -/
theorem initializeFromBgraPixels_inBounds (answers : TextureAnswers) (width height : UInt32)
    (bgraPixels : List UInt8) :
    (initializeFromBgraPixels answers width height bgraPixels).InBounds := by
  unfold initializeFromBgraPixels
  split
  · exact ⟨_, rfl⟩
  split
  · exact ⟨_, rfl⟩
  next rowPitch bufferSize hupload =>
    split
    · exact ⟨_, rfl⟩
    next hsize =>
      obtain ⟨swapped, hswapped, -, -⟩ := swapRedAndBlue_upload hupload (not_lt.mp hsize)
      rw [hswapped]
      exact ⟨_, rfl⟩

theorem Holds.isInitialized {bytes : ℕ → Option UInt8} {image : D3D11Texture2D}
    (h : texture.Holds width height bytes image) : texture.isInitialized = true := by
  unfold D3D11Texture.isInitialized
  rw [h.held, h.shaderResourceView]
  rfl

theorem Pictures.isInitialized {source : ImageSource π} (h : texture.Pictures decoder source) :
    texture.isInitialized = true := by
  cases h with
  | file hfile himage => exact himage.isInitialized
  | encoded hmemory himage => exact himage.isInitialized
  | bgra himage => exact himage.isInitialized

/-- **A texture that is created** holds the pixels it was created from. -/
theorem initializeFromRgbaPixels_holds {rgbaPixels : List UInt8} {bytes : ℕ → Option UInt8}
    (hbytes : ∀ i < width.toNat * height.toNat * 4, rgbaPixels[i]? = bytes i)
    (h : initializeFromRgbaPixels answers width height rgbaPixels = some texture) :
    ∃ image, texture.Holds width height bytes image := by
  unfold initializeFromRgbaPixels at h
  split at h
  · cases h
  split at h
  · cases h
  next rowPitch bufferSize hupload =>
    split at h
    · cases h
    next hsize =>
    split at h
    · cases h
      obtain ⟨rfl, hpitch, hexact, -, -⟩ := uploadSize_eq_some hupload
      refine ⟨_, rfl, rfl, ⟨rfl, rfl⟩, ?_, ?_, ?_⟩
      · exact D3D11Mesh.toNat_ofNat_of_le hpitch
      · dsimp only
        rw [List.length_take, Nat.min_eq_left (not_lt.mp hsize), hexact]
      · intro i hi
        dsimp only
        rw [List.getElem?_take_of_lt (by omega), hbytes i hi]
    · cases h

theorem initializeFromBitmapSource_holds {bitmapSource : BitmapSource}
    (h : initializeFromBitmapSource answers bitmapSource = some texture) :
    ∃ image, texture.Holds bitmapSource.width bitmapSource.height
      (fun i => some (bitmapSource.pixels i)) image := by
  unfold initializeFromBitmapSource at h
  split at h
  · cases h
  next rowPitch bufferSize hupload =>
    obtain ⟨-, -, hexact, -, -⟩ := uploadSize_eq_some hupload
    refine initializeFromRgbaPixels_holds (fun i hi => ?_) h
    rw [List.getElem?_map, List.getElem?_range (by omega), Option.map_some]

theorem initializeFromDecoder_holds {decoded : Option BitmapSource}
    (h : initializeFromDecoder answers decoded = some texture) :
    ∃ bitmapSource image, decoded = some bitmapSource ∧
      texture.Holds bitmapSource.width bitmapSource.height
        (fun i => some (bitmapSource.pixels i)) image := by
  unfold initializeFromDecoder at h
  split at h
  · obtain ⟨bitmapSource, hdecoded, hfilled⟩ := Option.bind_eq_some_iff.mp h
    obtain ⟨image, himage⟩ := initializeFromBitmapSource_holds hfilled
    exact ⟨bitmapSource, image, hdecoded, himage⟩
  · cases h

end D3D11Texture

end Pixels

/-! ## The renderer -/

namespace D3D11Renderer

variable {π : Type} [FilePath π]

def createMesh (r : D3D11Renderer) (answers : MeshAnswers) (meshData : MeshData) :
    Option D3D11Mesh :=
  if !r.initialized then none
  else D3D11Mesh.initializeMesh answers meshData.vertices meshData.indices

def createTextureFromFile (r : D3D11Renderer) (decoder : ImageDecoder π)
    (answers : TextureAnswers) (filePath : π) : Option D3D11Texture :=
  if !r.initialized || FilePath.empty filePath then none
  else D3D11Texture.initializeFromFile decoder answers filePath

def createTextureFromEncodedMemory (r : D3D11Renderer) (decoder : ImageDecoder π)
    (answers : TextureAnswers) (encodedData : List UInt8) : Option D3D11Texture :=
  if !r.initialized || encodedData.isEmpty then none
  else D3D11Texture.initializeFromEncodedMemory decoder answers encodedData

def createTextureFromBgraPixels (r : D3D11Renderer) (answers : TextureAnswers)
    (width height : UInt32) (bgraPixels : List UInt8) : Option D3D11Texture :=
  if !r.initialized || width == 0 || height == 0 || bgraPixels.isEmpty then none
  else
    (D3D11Texture.initializeFromBgraPixels answers width height bgraPixels).get
      (D3D11Texture.initializeFromBgraPixels_inBounds answers width height bgraPixels)

variable {r : D3D11Renderer} {decoder : ImageDecoder π} {answers : TextureAnswers}
  {texture : D3D11Texture}

theorem createMesh_draws {answers : MeshAnswers} {meshData : MeshData} {mesh : D3D11Mesh}
    (h : r.createMesh answers meshData = some mesh) : mesh.Draws meshData := by
  unfold createMesh at h
  split at h
  · cases h
  · exact D3D11Mesh.initializeMesh_eq_some h

theorem createTextureFromFile_pictures {filePath : π}
    (h : r.createTextureFromFile decoder answers filePath = some texture) :
    texture.Pictures decoder (.file filePath) := by
  unfold createTextureFromFile D3D11Texture.initializeFromFile at h
  split at h
  · cases h
  split at h
  · cases h
  obtain ⟨bitmapSource, image, hfile, himage⟩ := D3D11Texture.initializeFromDecoder_holds h
  exact .file hfile himage

omit [FilePath π] in
theorem createTextureFromEncodedMemory_pictures {encodedData : List UInt8}
    (h : r.createTextureFromEncodedMemory decoder answers encodedData = some texture) :
    texture.Pictures decoder (.encoded encodedData) := by
  unfold createTextureFromEncodedMemory D3D11Texture.initializeFromEncodedMemory at h
  split at h
  · cases h
  split at h
  · cases h
  split at h
  · cases h
  obtain ⟨bitmapSource, image, hmemory, himage⟩ := D3D11Texture.initializeFromDecoder_holds h
  exact .encoded hmemory himage

omit [FilePath π] in
theorem createTextureFromBgraPixels_pictures {width height : UInt32} {bgraPixels : List UInt8}
    (h : r.createTextureFromBgraPixels answers width height bgraPixels = some texture) :
    texture.Pictures decoder (.bgra width height bgraPixels) := by
  unfold createTextureFromBgraPixels at h
  split at h
  · cases h
  obtain ⟨result, hresult⟩ :=
    D3D11Texture.initializeFromBgraPixels_inBounds answers width height bgraPixels
  rw [Checked.get_eq hresult] at h
  subst h
  unfold D3D11Texture.initializeFromBgraPixels at hresult
  split at hresult
  · cases hresult
  split at hresult
  · cases hresult
  next rowPitch bufferSize hupload =>
  split at hresult
  · cases hresult
  next hsize =>
  obtain ⟨-, -, hexact, -, -⟩ := uploadSize_eq_some hupload
  obtain ⟨swapped, hswapped, -, hbytes⟩ := swapRedAndBlue_upload hupload (not_lt.mp hsize)
  obtain ⟨rgbaPixels, hrgba, hfilled⟩ := Checked.bind_eq_ok.mp hresult
  cases hswapped.symm.trans hrgba
  obtain ⟨image, himage⟩ := D3D11Texture.initializeFromRgbaPixels_holds
    (fun i hi => hbytes i (hexact ▸ hi)) (Except.ok.inj hfilled)
  exact .bgra himage

/-- **The pixels inside a model file** reach the device. The loader has taken the bytes that the
file has, exactly as many as the size of the image says, so that the renderer refuses an image only
for a size of more than 32 bits, or because the device does. Otherwise the texture holds all pixels,
with the red and the blue byte of each exchanged, and no access of the exchange leaves an image,
whatever its size. -/
theorem embedded_textures_keep_their_pixels {readFile : π → Except String AiScene}
    {modelFilePath : π}
    (hloaded : (loadStaticModelData readFile modelFilePath).succeeded = true)
    {t : ModelTextureData π}
    (ht : t ∈ (loadStaticModelData readFile modelFilePath).modelData.textures)
    (hembedded : t.isEmbedded = true) (hraw : t.isCompressedEmbedded = false)
    (hinitialized : r.initialized = true) (answers : TextureAnswers) :
    (∃ scene texture, readFile modelFilePath = .ok scene ∧
      scene.getEmbeddedTexture t.sourceReference = some texture ∧
      texture.pcData = some t.embeddedData ∧ texture.mWidth = t.width ∧
        texture.mHeight = t.height) ∧
    t.embeddedData.length = t.width.toNat * t.height.toNat * 4 ∧
    (t.embeddedData.length ≤ uintMax → answers.texture.isSome = true →
      answers.shaderResourceView.isSome = true → ∃ texture image,
        r.createTextureFromBgraPixels answers t.width t.height t.embeddedData = some texture ∧
        texture.Holds t.width t.height (fun i => t.embeddedData[otherByte i]?) image) ∧
    (uintMax < t.embeddedData.length →
      r.createTextureFromBgraPixels answers t.width t.height t.embeddedData = none) ∧
    ∀ width height bgraPixels,
      (D3D11Texture.initializeFromBgraPixels answers width height bgraPixels).InBounds := by
  obtain ⟨scene, hread, hwellFormed⟩ := wellFormed_of_succeeded hloaded
  obtain ⟨source, -, hasked⟩ := hwellFormed.made t ht
  obtain ⟨reference, hdenotes⟩ := denotes_of_asked hasked
  obtain ⟨inFile, hinFile⟩ := hdenotes.inside hembedded
  obtain ⟨hne, hlength⟩ := hdenotes.sized hembedded
  have hheight : t.height ≠ 0 := by
    simpa [ModelTextureData.isCompressedEmbedded, hembedded] using hraw
  rw [if_neg hheight] at hlength
  change t.embeddedData.length = t.width.toNat * t.height.toNat * 4 at hlength
  have hwidth : t.width ≠ 0 := by
    intro hzero
    rw [hzero, UInt32.toNat_zero, Nat.zero_mul, Nat.zero_mul] at hlength
    exact hne (List.eq_nil_of_length_eq_zero hlength)
  have hchecks : ¬ (!r.initialized || t.width == 0 || t.height == 0 || t.embeddedData.isEmpty) =
      true := by
    simp [hinitialized, hwidth, hheight, hne]
  unfold createTextureFromBgraPixels
  rw [if_neg hchecks]
  refine ⟨⟨scene, inFile, hread, hinFile⟩, hlength, ?_, ?_,
    D3D11Texture.initializeFromBgraPixels_inBounds answers⟩
  · intro hfits htexture hview
    have hupload := uploadSize_of_le hwidth hheight hlength hfits
    obtain ⟨swapped, hswapped, hswappedLength, hbytes⟩ :=
      swapRedAndBlue_upload hupload (Nat.le_refl _)
    obtain ⟨object, hobject⟩ := Option.isSome_iff_exists.mp htexture
    obtain ⟨view, hview⟩ := Option.isSome_iff_exists.mp hview
    have hcreated : ∃ texture, D3D11Texture.initializeFromRgbaPixels answers t.width t.height
        swapped = some texture := by
      have hsome : ¬ swapped.isEmpty = true := by
        rw [List.isEmpty_iff_length_eq_zero, hswappedLength]
        intro hzero
        exact hne (List.eq_nil_of_length_eq_zero hzero)
      unfold D3D11Texture.initializeFromRgbaPixels
      rw [if_neg hsome, hupload]
      dsimp only
      rw [if_neg (by omega), hobject, hview]
      exact ⟨_, rfl⟩
    obtain ⟨texture, htexture⟩ := hcreated
    obtain ⟨image, himage⟩ := D3D11Texture.initializeFromRgbaPixels_holds
      (fun i hi => hbytes i (hlength ▸ hi)) htexture
    refine ⟨texture, image, Checked.get_eq ?_ _, himage⟩
    unfold D3D11Texture.initializeFromBgraPixels
    rw [if_neg (by simpa using hne), hupload]
    dsimp only
    rw [if_neg (Nat.lt_irrefl _), hswapped]
    exact congrArg Except.ok htexture
  · intro hlarge
    have hupload : uploadSize t.width t.height = none := by
      rw [Option.eq_none_iff_forall_ne_some]
      rintro ⟨rowPitch, bufferSize⟩ hsome
      obtain ⟨-, -, hexact, -, hle⟩ := uploadSize_eq_some hsome
      rw [hexact, ← hlength] at hle
      exact absurd hlarge (Nat.not_lt.mpr hle)
    refine Checked.get_eq ?_ _
    unfold D3D11Texture.initializeFromBgraPixels
    rw [if_neg (by simpa using hne), hupload]
    rfl

/-- The triangle, with a texture of two pixels inside the file. -/
def pixelScene : AiScene :=
  { triangleScene with
    getEmbeddedTexture := fun _ =>
      some ⟨2, 1, "", some [10, 20, 30, 40, 50, 60, 70, 80], by simp [aiTexelSize]⟩ }

theorem embedded_textures_keep_their_pixels_pixel : ∃ (t : ModelTextureData String) (texture : _),
    (loadStaticModelData (fun _ => .ok pixelScene) "triangle").modelData.textures = [t] ∧
      ({ initialized := true } : D3D11Renderer).createTextureFromBgraPixels {} 2 1
        t.embeddedData = some texture ∧
      texture.texture.map D3D11Texture2D.pixels = some [30, 20, 10, 40, 70, 60, 50, 80] := by
  let t : ModelTextureData String :=
    { sourceType := .embedded, filePath := "", sourceReference := "a",
      embeddedData := [10, 20, 30, 40, 50, 60, 70, 80], width := 2, height := 1 }
  have htextures : (loadStaticModelData (fun _ => .ok pixelScene) "triangle").modelData.textures =
      [t] := by decide +kernel
  have hloaded : (loadStaticModelData (fun _ => .ok pixelScene) "triangle").succeeded = true := by
    decide +kernel
  obtain ⟨-, -, hfits, -⟩ := embedded_textures_keep_their_pixels (r := { initialized := true })
    hloaded (by rw [htextures]; exact List.mem_singleton_self t) rfl rfl rfl {}
  obtain ⟨texture, image, hcreated, himage⟩ := hfits (by decide) rfl rfl
  refine ⟨t, texture, htextures, hcreated, ?_⟩
  have hbytes : ∀ i < 8, t.embeddedData[otherByte i]? =
      ([30, 20, 10, 40, 70, 60, 50, 80] : List UInt8)[i]? := by decide
  rw [himage.held, Option.map_some]
  refine congrArg some (List.ext_getElem? fun i => ?_)
  by_cases hi : i < 8
  · rw [himage.pixels i hi]
    exact hbytes i hi
  · rw [List.getElem?_eq_none (by rw [himage.length]; exact not_lt.mp hi),
      List.getElem?_eq_none (by exact not_lt.mp hi)]

end D3D11Renderer

end NetworkArena.Client
