/-
# NetworkArena.Client.ResourceRepositories -- meshes, textures and their handles

`mesh_repository.cpp`, `texture_repository.cpp` and the lookups of `DrawRenderObject`. The two
repositories are the same code for two types: a map from 64-bit values to resources they own, and a
counter for the next value that stops at 0 behind the last one. `Repository` is this code, and
`MeshRepository` and `TextureRepository` are made of it.

`Clear` and `Remove` leave the counter alone, so the values are numbers in the sense of
`HandleStore.Issues`, and no handle is ever an alias of another (`resource_handles_never_alias`). A
render object keeps its handles: it is drawn with the resources it was first drawn with, or not at
all (`drawRenderObject_same`).

A resource is what `IsInitialized` reads of it, which object it is, and the data that its buffers
and its texture were created with. What the GPU does with them is left out.
-/
import NetworkArena.Client.ModelLoading
import NetworkArena.Foundation.HandleStore
import Mathlib.Logic.Equiv.Defs

namespace NetworkArena.Client

open NetworkArena.Foundation

/-! ## Handles and resources -/

/-- A type of handles of 64 bits. -/
class ResourceHandle (η : Type) where
  value : η ≃ UInt64

/-- A type of GPU resources. -/
class Resource (ρ : Type) where
  isInitialized : ρ → Bool

namespace ResourceHandle

variable {η : Type} [ResourceHandle η]

/-- `{}`. -/
def default : η := value.symm 0

def isValid (handle : η) : Bool := value handle != 0

end ResourceHandle

instance : ResourceHandle MeshHandle where
  value := ⟨MeshHandle.value, MeshHandle.mk, fun _ => rfl, fun _ => rfl⟩

instance : ResourceHandle TextureHandle where
  value := ⟨TextureHandle.value, TextureHandle.mk, fun _ => rfl, fun _ => rfl⟩

def MeshHandle.isValid (handle : MeshHandle) : Bool := ResourceHandle.isValid handle

def TextureHandle.isValid (handle : TextureHandle) : Bool := ResourceHandle.isValid handle

/-- `DXGI_FORMAT_UNKNOWN`. -/
def dxgiFormatUnknown : UInt32 := 0

/-- `ID3D11Buffer`: which object it is, and what it was created with. -/
structure D3D11Buffer (α : Type) where
  object : ℕ
  data : List α
  deriving DecidableEq, Repr

/-- `ID3D11Texture2D`: which object it is, and the rows of pixels it was created with. -/
structure D3D11Texture2D where
  object : ℕ
  width : UInt32
  height : UInt32
  sysMemPitch : UInt32
  pixels : List UInt8
  deriving DecidableEq, Repr

/-- A mesh; a `ComPtr` is the object it points to, if it points to one. -/
structure D3D11Mesh where
  object : ℕ
  vertexBuffer : Option (D3D11Buffer Vertex3D) := none
  indexBuffer : Option (D3D11Buffer UInt32) := none
  inputLayout : Option ℕ := none
  vertexStride : UInt32 := 0
  vertexCount : UInt32 := 0
  indexCount : UInt32 := 0
  indexFormat : UInt32 := dxgiFormatUnknown
  deriving DecidableEq, Repr

def D3D11Mesh.isInitialized (mesh : D3D11Mesh) : Bool :=
  mesh.vertexBuffer.isSome && mesh.indexBuffer.isSome && mesh.inputLayout.isSome &&
    mesh.vertexStride > 0 && mesh.vertexCount > 0 && mesh.indexCount > 0 &&
    mesh.indexFormat != dxgiFormatUnknown

structure D3D11Texture where
  object : ℕ
  texture : Option D3D11Texture2D := none
  shaderResourceView : Option ℕ := none
  deriving DecidableEq, Repr

def D3D11Texture.isInitialized (texture : D3D11Texture) : Bool :=
  texture.texture.isSome && texture.shaderResourceView.isSome

instance : Resource D3D11Mesh := ⟨D3D11Mesh.isInitialized⟩

instance : Resource D3D11Texture := ⟨D3D11Texture.isInitialized⟩

/-! ## A repository -/

/-- The map of a repository, in the order of insertion, and its counter. -/
structure Repository (ρ : Type) where
  resources : List (UInt64 × ρ) := []
  nextId : UInt64 := 1
  deriving DecidableEq, Repr

namespace Repository

variable {η ρ : Type} [ResourceHandle η] [Resource ρ]

/-- `std::numeric_limits<std::uint64_t>::max()`. -/
def lastId : UInt64 := 18446744073709551615

def add (r : Repository ρ) (resource : Option ρ) : η × Repository ρ :=
  match resource with
  | none => (ResourceHandle.default, r)
  | some resource =>
    if !Resource.isInitialized resource then (ResourceHandle.default, r)
    else if r.nextId = 0 then (ResourceHandle.default, r)
    else
      let id := r.nextId
      -- `emplace` leaves an entry with this key alone
      if r.resources.any fun entry => entry.1 = id then (ResourceHandle.default, r)
      else
        let r := { r with resources := r.resources ++ [(id, resource)] }
        (ResourceHandle.value.symm id,
          if r.nextId = lastId then { r with nextId := 0 }
          else { r with nextId := r.nextId + 1 })

def remove (r : Repository ρ) (handle : η) : Bool × Repository ρ :=
  if !ResourceHandle.isValid handle then (false, r)
  else
    (r.resources.any fun entry => entry.1 = ResourceHandle.value handle,
      { r with
        resources := r.resources.filter fun entry => entry.1 ≠ ResourceHandle.value handle })

def find (r : Repository ρ) (handle : η) : Option ρ :=
  if !ResourceHandle.isValid handle then none
  else (r.resources.find? fun entry => entry.1 = ResourceHandle.value handle).map (·.2)

def clear (r : Repository ρ) : Repository ρ := { r with resources := [] }

end Repository

/-! ## The two repositories -/

abbrev MeshRepository := Repository D3D11Mesh

namespace MeshRepository

def addMesh (r : MeshRepository) (mesh : Option D3D11Mesh) : MeshHandle × MeshRepository :=
  Repository.add r mesh

def removeMesh (r : MeshRepository) (meshHandle : MeshHandle) : Bool × MeshRepository :=
  Repository.remove r meshHandle

def findMesh (r : MeshRepository) (meshHandle : MeshHandle) : Option D3D11Mesh :=
  Repository.find r meshHandle

def clear (r : MeshRepository) : MeshRepository := Repository.clear r

/-- The repository as a store of handles. -/
def store : HandleStore MeshRepository MeshHandle D3D11Mesh where
  start := {}
  isValid := MeshHandle.isValid
  add := addMesh
  remove r meshHandle := (r.removeMesh meshHandle).2
  clear := clear
  find := findMesh

end MeshRepository

abbrev TextureRepository := Repository D3D11Texture

namespace TextureRepository

def addTexture (r : TextureRepository) (texture : Option D3D11Texture) :
    TextureHandle × TextureRepository :=
  Repository.add r texture

def removeTexture (r : TextureRepository) (textureHandle : TextureHandle) :
    Bool × TextureRepository :=
  Repository.remove r textureHandle

def findTexture (r : TextureRepository) (textureHandle : TextureHandle) : Option D3D11Texture :=
  Repository.find r textureHandle

def clear (r : TextureRepository) : TextureRepository := Repository.clear r

/-- The repository as a store of handles. -/
def store : HandleStore TextureRepository TextureHandle D3D11Texture where
  start := {}
  isValid := TextureHandle.isValid
  add := addTexture
  remove r textureHandle := (r.removeTexture textureHandle).2
  clear := clear
  find := findTexture

end TextureRepository

/-! ## What one call does -/

namespace Repository

section Lookups

variable {η ρ : Type} [ResourceHandle η]

theorem isValid_default : ResourceHandle.isValid (ResourceHandle.default : η) = false := by
  simp [ResourceHandle.isValid, ResourceHandle.default]

theorem find_default (r : Repository ρ) : r.find (ResourceHandle.default : η) = none :=
  if_pos (by rw [isValid_default]; rfl)

variable [DecidableEq η]

/-- A resource is found under its handle, and all others as before. -/
theorem find_append (r : Repository ρ) {id nextId : UInt64} (hid : id ≠ 0)
    (hfree : ¬ (r.resources.any fun entry => entry.1 = id) = true) (resource : ρ) (other : η) :
    ({ resources := r.resources ++ [(id, resource)], nextId } : Repository ρ).find other =
      if other = ResourceHandle.value.symm id then some resource else r.find other := by
  unfold find
  by_cases hother : other = ResourceHandle.value.symm id
  · subst hother
    have hvalid : ResourceHandle.isValid (ResourceHandle.value.symm id : η) = true := by
      simpa [ResourceHandle.isValid] using hid
    have hnone : r.resources.find? (fun entry => entry.1 = id) = none := by
      rw [List.find?_eq_none]
      intro entry hentry hkey
      exact hfree (List.any_eq_true.mpr ⟨entry, hentry, hkey⟩)
    rw [if_pos rfl, if_neg (by simp [hvalid]), Equiv.apply_symm_apply, List.find?_append, hnone]
    simp
  · have hvalue : ResourceHandle.value other ≠ id :=
      fun heq => hother ((Equiv.eq_symm_apply _).mpr heq)
    rw [if_neg hother, List.find?_append]
    simp [hvalue.symm]

theorem find_remove (r : Repository ρ) (removed other : η) :
    (r.remove removed).2.find other = if other = removed then none else r.find other := by
  unfold remove
  by_cases hvalid : ResourceHandle.isValid removed = true
  · rw [if_neg (by simp [hvalid])]
    unfold find
    dsimp only
    rw [List.find?_filter]
    by_cases hother : other = removed
    · subst hother
      simp
    · have hvalue : ResourceHandle.value other ≠ ResourceHandle.value removed :=
        fun heq => hother (ResourceHandle.value.injective heq)
      have hkept : ∀ id, (id ≠ ResourceHandle.value removed ∧ id = ResourceHandle.value other) ↔
          id = ResourceHandle.value other := by
        intro id
        rw [and_iff_right_iff_imp]
        rintro rfl
        exact hvalue
      simp only [if_neg hother, decide_eq_true_eq, hkept]
  · -- an invalid handle finds nothing, removed or not
    rw [if_pos (by simp [hvalid])]
    by_cases hother : other = removed
    · rw [if_pos hother, hother]
      exact if_pos (by simp [hvalid])
    · rw [if_neg hother]

/-- All values below this one have been given out. -/
def issued (r : Repository ρ) : ℕ := if r.nextId = 0 then 2 ^ 64 else r.nextId.toNat

theorem issued_following (r : Repository ρ) (resources : List (UInt64 × ρ)) :
    (if r.nextId = lastId then { resources, nextId := 0 }
      else { resources, nextId := r.nextId + 1 } : Repository ρ).issued = r.nextId.toNat + 1 := by
  by_cases hlast : r.nextId = lastId
  · rw [if_pos hlast, hlast]
    rfl
  · have hnext : (r.nextId + 1).toNat = r.nextId.toNat + 1 := by
      have hlt := r.nextId.toNat_lt
      have hne : r.nextId.toNat ≠ 2 ^ 64 - 1 := fun heq => hlast (UInt64.toNat_inj.mp heq)
      rw [UInt64.toNat_add]
      exact Nat.mod_eq_of_lt (by simp only [UInt64.toNat_one]; omega)
    have hzero : r.nextId + 1 ≠ 0 := by
      intro hzero
      rw [hzero] at hnext
      cases hnext
    rw [if_neg hlast]
    exact (if_neg hzero).trans hnext

end Lookups

section Stores

variable {η ρ : Type} [ResourceHandle η] [DecidableEq η] [Resource ρ]

/-- Any repository as a store of handles. -/
def store (η ρ : Type) [ResourceHandle η] [Resource ρ] : HandleStore (Repository ρ) η ρ where
  start := {}
  isValid := ResourceHandle.isValid
  add := add
  remove r handle := (r.remove handle).2
  clear := clear
  find := find

/-- **`Add`** refuses, or gives out the value of the counter. -/
theorem store_adds (r : Repository ρ) (offered : Option ρ) :
    (store η ρ).Adds (fun handle => (ResourceHandle.value handle).toNat) issued r offered
      (r.add offered : η × Repository ρ).1 (r.add offered : η × Repository ρ).2 := by
  have hrefused : (store η ρ).Adds (fun handle => (ResourceHandle.value handle).toNat) issued r
      offered ResourceHandle.default r := .refused isValid_default (fun _ => rfl) rfl
  cases offered with
  | none => exact hrefused
  | some resource =>
      unfold add
      dsimp only
      split
      · exact hrefused
      split
      · exact hrefused
      next hcounter =>
      split
      · exact hrefused
      next hfree =>
      have hissued : r.issued = r.nextId.toNat := if_neg hcounter
      refine .accepted rfl ?_ ?_ ?_ ?_
      · simpa [store, ResourceHandle.isValid] using hcounter
      · simp [hissued]
      · rw [issued_following]
        simp
      · intro other
        -- what is found does not depend on the counter
        dsimp only
        split
        · exact find_append r hcounter hfree resource other
        · exact find_append r hcounter hfree resource other

theorem store_issues : (store η ρ).Issues
    (fun handle => (ResourceHandle.value handle).toNat) issued where
  start handle := by
    unfold store find
    simp
  add := store_adds
  remove r removed := by
    refine ⟨?_, r.find_remove removed⟩
    show (r.remove removed).2.issued = r.issued
    unfold remove
    split <;> rfl
  clear r := by
    refine ⟨rfl, fun other => ?_⟩
    show r.clear.find other = none
    unfold clear find
    simp

/-- Behind the last value nothing is added any more. -/
theorem add_exhausted {calls : List (StoreCall η ρ)}
    (hlast : ResourceHandle.value.symm lastId ∈ (store η ρ).returned calls) (offered : Option ρ) :
    (((store η ρ).run calls).add offered).1 = (ResourceHandle.default : η) := by
  have hvalid : (store η ρ).isValid (ResourceHandle.value.symm lastId) = true := by
    simp [store, ResourceHandle.isValid, lastId]
  have hissued := store_issues.returned_lt _ hlast hvalid
  rw [Equiv.apply_symm_apply] at hissued
  have hcounter : ((store η ρ).run calls).nextId = 0 := by
    by_contra hne
    have hlt := ((store η ρ).run calls).nextId.toNat_lt
    have heq : ((store η ρ).run calls).issued = ((store η ρ).run calls).nextId.toNat := if_neg hne
    have hvalue : lastId.toNat = 2 ^ 64 - 1 := rfl
    omega
  cases offered with
  | none => rfl
  | some resource =>
      unfold add
      dsimp only
      rw [if_pos hcounter, ite_self]

end Stores

end Repository

/-- **No handle is ever an alias of another.** Over every history of calls the valid handles of a
repository are pairwise distinct, and each finds the resource it was returned for as long as that is
neither removed nor cleared; the default handle finds nothing, and once the last value has been
given out there are only default handles. -/
theorem resource_handles_never_alias :
    (MeshRepository.store.NeverAliases ∧ ∀ calls,
      (MeshRepository.store.run calls).findMesh {} = none ∧
      (⟨Repository.lastId⟩ ∈ MeshRepository.store.returned calls →
        ∀ mesh, ((MeshRepository.store.run calls).addMesh mesh).1 = {})) ∧
    (TextureRepository.store.NeverAliases ∧ ∀ calls,
      (TextureRepository.store.run calls).findTexture {} = none ∧
      (⟨Repository.lastId⟩ ∈ TextureRepository.store.returned calls →
        ∀ texture, ((TextureRepository.store.run calls).addTexture texture).1 = {})) := by
  refine ⟨⟨Repository.store_issues.neverAliases, fun calls => ⟨?_, ?_⟩⟩,
    ⟨Repository.store_issues.neverAliases, fun calls => ⟨?_, ?_⟩⟩⟩
  · exact Repository.find_default _
  · exact Repository.add_exhausted
  · exact Repository.find_default _
  · exact Repository.add_exhausted

-- clearing does not start the counter again
example :
    let texture : D3D11Texture :=
      { object := 0, texture := some ⟨0, 1, 1, 4, [0, 0, 0, 0]⟩, shaderResourceView := some 1 }
    let calls := [.add (some texture), .clear, .add none, .add (some texture)]
    TextureRepository.store.returned calls = [⟨1⟩, {}, ⟨2⟩] ∧
      (TextureRepository.store.run calls).findTexture ⟨1⟩ = none := by
  decide

/-! ## Drawing -/

/-- One of the two texture lookups of `DrawRenderObject`: without a handle there is no texture, and
a texture that is not found ends the client. -/
def textureOf (textureRepository : TextureRepository) (textureHandle : TextureHandle) :
    Option (Option D3D11Texture) :=
  if textureHandle.isValid then (textureRepository.findTexture textureHandle).map some
  else some none

/-- What `DrawMesh` is called with, unless the client gives up. -/
def drawRenderObject (meshRepository : MeshRepository) (textureRepository : TextureRepository)
    (renderObject : RenderObject) :
    Option (D3D11Mesh × Option D3D11Texture × Option D3D11Texture) := do
  let mesh ← meshRepository.findMesh renderObject.meshHandle
  let baseColorTexture ← textureOf textureRepository renderObject.baseColorTextureHandle
  let normalMapTexture ← textureOf textureRepository renderObject.normalMapTextureHandle
  return (mesh, baseColorTexture, normalMapTexture)

section Drawing

variable {textureCalls laterTextureCalls : List (StoreCall TextureHandle D3D11Texture)}

theorem textureOf_same {textureHandle : TextureHandle} {texture again : Option D3D11Texture}
    (hdrawn : textureOf (TextureRepository.store.run textureCalls) textureHandle = some texture)
    (hagain : textureOf (TextureRepository.store.run (textureCalls ++ laterTextureCalls))
      textureHandle = some again) : again = texture := by
  unfold textureOf at hdrawn hagain
  by_cases hvalid : textureHandle.isValid = true
  · rw [if_pos hvalid] at hdrawn hagain
    obtain ⟨found, hfound, rfl⟩ := Option.map_eq_some_iff.mp hdrawn
    obtain ⟨foundAgain, hfoundAgain, rfl⟩ := Option.map_eq_some_iff.mp hagain
    exact congrArg some (Repository.store_issues.neverAliases.find_same hfound hfoundAgain)
  · rw [if_neg hvalid] at hdrawn hagain
    exact Option.some_inj.mp (hagain.symm.trans hdrawn)

/-- **A render object keeps its looks.** Whatever is added, removed and cleared after it was drawn,
it is drawn with the same resources or the client gives up. -/
theorem drawRenderObject_same {meshCalls laterMeshCalls : List (StoreCall MeshHandle D3D11Mesh)}
    {renderObject : RenderObject}
    {drawn again : D3D11Mesh × Option D3D11Texture × Option D3D11Texture}
    (hdrawn : drawRenderObject (MeshRepository.store.run meshCalls)
      (TextureRepository.store.run textureCalls) renderObject = some drawn)
    (hagain : drawRenderObject (MeshRepository.store.run (meshCalls ++ laterMeshCalls))
      (TextureRepository.store.run (textureCalls ++ laterTextureCalls)) renderObject = some again) :
    again = drawn := by
  unfold drawRenderObject at hdrawn hagain
  obtain ⟨mesh, hmesh, hdrawn⟩ := Option.bind_eq_some_iff.mp hdrawn
  obtain ⟨baseColor, hbaseColor, hdrawn⟩ := Option.bind_eq_some_iff.mp hdrawn
  obtain ⟨normalMap, hnormalMap, hdrawn⟩ := Option.bind_eq_some_iff.mp hdrawn
  obtain ⟨mesh', hmesh', hagain⟩ := Option.bind_eq_some_iff.mp hagain
  obtain ⟨baseColor', hbaseColor', hagain⟩ := Option.bind_eq_some_iff.mp hagain
  obtain ⟨normalMap', hnormalMap', hagain⟩ := Option.bind_eq_some_iff.mp hagain
  cases hdrawn
  cases hagain
  -- three lookups, each with the result it had
  rw [Repository.store_issues.neverAliases.find_same hmesh hmesh',
    textureOf_same hbaseColor hbaseColor', textureOf_same hnormalMap hnormalMap']

end Drawing

end NetworkArena.Client
