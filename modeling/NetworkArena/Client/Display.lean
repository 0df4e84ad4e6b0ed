/-
# NetworkArena.Client.Display -- the window, the back buffer and what is drawn into it

`win32_window.cpp` as far as the size of the window is concerned, the frames of
`d3d11_renderer.cpp`, `game_hud_renderer.cpp` and `network_ui_renderer.cpp`, and the functions of
`client_application.cpp` that start, resize and render. What the graphics device answers is part of
an event. The world is drawn in a viewport of the renderer, and the texts under a transformation of
their own, which goes back to the size of another object; that the two cover the same part of the
window, and that no frame is refused because of an earlier one, is what this module is about.

The numbers are exact, and the message callback of the window handles no `WM_SIZE`.
-/
import NetworkArena.Client.GameHud
import NetworkArena.Foundation.Fitting

namespace NetworkArena.Client

open NetworkArena.Foundation
open NetworkArena.Shared

/-! ## Sizes and places -/

/-- The size of a client area, or of the back buffer for it. -/
structure ClientSize where
  clientWidth : UInt32
  clientHeight : UInt32
  deriving DecidableEq, Repr

def initialClientSize : ClientSize := ⟨1280, 720⟩

namespace ClientSize

def width (size : ClientSize) : ℚ := size.clientWidth.toNat

def height (size : ClientSize) : ℚ := size.clientHeight.toNat

/-- Neither the width nor the height is zero. -/
def Proper (size : ClientSize) : Prop := size.clientWidth ≠ 0 ∧ size.clientHeight ≠ 0

variable {size : ClientSize}

end ClientSize

/-- `D2D1_MATRIX_3X2_F`. -/
structure Matrix3x2 where
  m11 : ℚ
  m12 : ℚ
  m21 : ℚ
  m22 : ℚ
  dx : ℚ
  dy : ℚ
  deriving DecidableEq, Repr

namespace Matrix3x2

def identity : Matrix3x2 := ⟨1, 0, 0, 1, 0, 0⟩

end Matrix3x2

/-- `D3D11_VIEWPORT`. -/
structure Viewport where
  topLeftX : ℚ := 0
  topLeftY : ℚ := 0
  width : ℚ := 0
  height : ℚ := 0
  minDepth : ℚ := 0
  maxDepth : ℚ := 0
  deriving DecidableEq, Repr

def hudVirtualScreenAspectRatio : ℚ := hudVirtualScreenWidth / hudVirtualScreenHeight

/-- What `UpdateHudTransform` makes of the target bitmap. -/
def updateHudTransform (targetBitmap : Option ClientSize) : Matrix3x2 :=
  match targetBitmap with
  | none => .identity
  | some targetSize =>
    if targetSize.width ≤ 0 ∨ targetSize.height ≤ 0 then .identity
    else
      let targetAspectRatio := targetSize.width / targetSize.height
      if targetAspectRatio > hudVirtualScreenAspectRatio then
        let scale := targetSize.height / hudVirtualScreenHeight
        let scaledHudWidth := hudVirtualScreenWidth * scale
        ⟨scale, 0, 0, scale, (targetSize.width - scaledHudWidth) * (1 / 2), 0⟩
      else
        let scale := targetSize.width / hudVirtualScreenWidth
        let scaledHudHeight := hudVirtualScreenHeight * scale
        ⟨scale, 0, 0, scale, 0, (targetSize.height - scaledHudHeight) * (1 / 2)⟩

def virtualScreenWidth : ℚ := 1280

def virtualScreenHeight : ℚ := 720

def virtualScreenAspectRatio : ℚ := virtualScreenWidth / virtualScreenHeight

/-- The viewport that `SetFixedAspectRatioViewport` binds. -/
def fixedAspectRatioViewport (size : ClientSize) : Viewport :=
  let clientAspectRatio := size.width / size.height
  if clientAspectRatio > virtualScreenAspectRatio then
    let width := size.height * virtualScreenAspectRatio
    { width
      height := size.height
      topLeftX := (size.width - width) * (1 / 2)
      topLeftY := 0
      minDepth := 0
      maxDepth := 1 }
  else
    let height := size.width / virtualScreenAspectRatio
    { width := size.width
      height
      topLeftX := 0
      topLeftY := (size.height - height) * (1 / 2)
      minDepth := 0
      maxDepth := 1 }

section Places

variable {size : ClientSize}

end Places

/-! ## The renderer of the world -/

structure D3D11Renderer where
  initialized : Bool := false
  /-- The size of the back buffer of `swapChain_`. -/
  swapChain : Option ClientSize := none
  renderTargetView : Bool := false
  depthStencilView : Bool := false
  viewport : Viewport := {}
  deriving DecidableEq, Repr

/-- What the device answers to `Resize` and to `RestoreAfterResize` behind it. -/
structure ResizeOutcome where
  buffersResized : Bool := true
  renderTargetViewCreated : Bool := true
  depthStencilViewCreated : Bool := true
  bitmapCreated : Bool := true
  deriving DecidableEq, Repr

namespace D3D11Renderer

/-- `Initialize` with a window; `created` says whether everything it needs was created. -/
def initializeRenderer (size : ClientSize) (created : Bool) (r : D3D11Renderer) :
    Bool × D3D11Renderer :=
  if r.initialized || size.clientWidth == 0 || size.clientHeight == 0 then (false, r)
  else if !created then (false, {})
  else
    (true, {
      initialized := true
      swapChain := some size
      renderTargetView := true
      depthStencilView := true
      viewport := fixedAspectRatioViewport size })

def beginFrame (r : D3D11Renderer) : Bool :=
  r.initialized && r.swapChain.isSome && r.renderTargetView && r.depthStencilView

def resize (size : ClientSize) (outcome : ResizeOutcome) (r : D3D11Renderer) :
    Bool × D3D11Renderer :=
  if !r.initialized || r.swapChain.isNone then (false, r)
  else if size.clientWidth = 0 ∨ size.clientHeight = 0 then (true, r)
  else
    let r := { r with renderTargetView := false, depthStencilView := false }
    if !outcome.buffersResized then (false, { r with initialized := false })
    else
      let r := { r with swapChain := some size }
      if !outcome.renderTargetViewCreated then (false, { r with initialized := false })
      else
        let r := { r with renderTargetView := true }
        if !outcome.depthStencilViewCreated then (false, { r with initialized := false })
        else
          (true, { r with
            depthStencilView := true
            viewport := fixedAspectRatioViewport size })

def endFrame (presented : Bool) (r : D3D11Renderer) : Bool :=
  r.initialized && r.swapChain.isSome && presented

end D3D11Renderer

/-! ## The renderer of the texts -/

/-- What `EndDraw` returns. -/
inductive EndDrawResult where
  | ok
  | recreateTarget
  | failed
  deriving DecidableEq, Repr

/-- `swapChain_`, the device context, the text formats and the brushes are made together and given
up together. The last field is a history. -/
structure GameHudRenderer where
  initialized : Bool := false
  resources : Bool := false
  /-- The size of the back buffer behind `targetBitmap_`. -/
  targetBitmap : Option ClientSize := none
  hudTransform : Matrix3x2 := .identity
  frameActive : Bool := false
  /-- The transformation the device context draws under. -/
  transform : Matrix3x2 := .identity
  drawn : List (Matrix3x2 × GameHudText) := []
  deriving DecidableEq, Repr

namespace GameHudRenderer

def releaseBackBufferResources (r : GameHudRenderer) : GameHudRenderer :=
  { r with frameActive := false, targetBitmap := none }

def createBackBufferResources (swapChain : Option ClientSize) (created : Bool)
    (r : GameHudRenderer) : Bool × GameHudRenderer :=
  match swapChain with
  | none => (false, r)
  | some backBuffer =>
    if !r.resources || r.targetBitmap.isSome then (false, r)
    else if !created then (false, r)
    else
      (true, { r with
        targetBitmap := some backBuffer
        hudTransform := updateHudTransform (some backBuffer) })

def shutdown (r : GameHudRenderer) : GameHudRenderer := { drawn := r.drawn }

/-- `Initialize`; `created` says whether everything but the bitmap was created. -/
def initializeRenderer (swapChain : Option ClientSize) (created bitmapCreated : Bool)
    (r : GameHudRenderer) : Bool × GameHudRenderer :=
  if r.initialized || swapChain.isNone then (false, r)
  else if !created then (false, r.shutdown)
  else
    let (bitmap, r) :=
      { r with resources := true }.createBackBufferResources swapChain bitmapCreated
    if !bitmap then (false, r.shutdown) else (true, { r with initialized := true })

def beginFrame (r : GameHudRenderer) : Bool × GameHudRenderer :=
  if !r.initialized || !r.resources || r.targetBitmap.isNone || r.frameActive then (false, r)
  else (true, { r with transform := r.hudTransform, frameActive := true })

def drawText (r : GameHudRenderer) (text : GameHudText) : GameHudRenderer :=
  if !r.frameActive || !r.resources || text.text == "" then r
  else { r with drawn := r.drawn ++ [(r.transform, text)] }

def endFrame (endDrawResult : EndDrawResult) (swapChain : Option ClientSize) (bitmapCreated : Bool)
    (r : GameHudRenderer) : Bool × GameHudRenderer :=
  if !r.initialized || !r.resources || r.targetBitmap.isNone || !r.frameActive then (false, r)
  else
    let r := { r with frameActive := false }
    match endDrawResult with
    | .recreateTarget =>
      r.releaseBackBufferResources.createBackBufferResources swapChain bitmapCreated
    | .ok => (true, r)
    | .failed => (false, r)

def prepareForResize (r : GameHudRenderer) : GameHudRenderer := r.releaseBackBufferResources

def restoreAfterResize (swapChain : Option ClientSize) (bitmapCreated : Bool)
    (r : GameHudRenderer) : Bool × GameHudRenderer :=
  if !r.initialized then (false, r) else r.createBackBufferResources swapChain bitmapCreated

end GameHudRenderer

/-! ## The renderer of the network window -/

structure NetworkUiRenderer where
  initialized : Bool := false
  frameActive : Bool := false
  deriving DecidableEq, Repr

namespace NetworkUiRenderer

/-- `Initialize`; `created` says whether the backends were initialized. -/
def initializeRenderer (created : Bool) (r : NetworkUiRenderer) : Bool × NetworkUiRenderer :=
  if r.initialized then (false, r)
  else if !created then (false, {})
  else (true, { r with initialized := true })

def beginFrame (r : NetworkUiRenderer) : Bool × NetworkUiRenderer :=
  if !r.initialized || r.frameActive then (false, r) else (true, { r with frameActive := true })

def endFrame (r : NetworkUiRenderer) : Bool × NetworkUiRenderer :=
  if !r.initialized || !r.frameActive then (false, r) else (true, { r with frameActive := false })

end NetworkUiRenderer

/-! ## The application -/

/-- The part of `ClientApplication` that renders: whether its loop goes on, its exit code and the
three renderers. -/
structure Display where
  running : Bool := false
  exitCode : ℤ := 0
  renderer : D3D11Renderer := {}
  gameHudRenderer : GameHudRenderer := {}
  networkUiRenderer : NetworkUiRenderer := {}
  deriving DecidableEq, Repr

/-- What the device answers while `Run` initializes the renderers, and whether the resources of the
world are there. -/
structure InitializeOutcome where
  rendererCreated : Bool := true
  gameHudCreated : Bool := true
  bitmapCreated : Bool := true
  networkUiCreated : Bool := true
  resourcesInitialized : Bool := true
  deriving DecidableEq, Repr

/-- What the device answers in a frame, and whether all render objects were drawn. -/
structure FrameOutcome where
  worldDrawn : Bool := true
  endDrawResult : EndDrawResult := .ok
  bitmapCreated : Bool := true
  presented : Bool := true
  deriving DecidableEq, Repr

/-- Whether a frame of texts ends well. -/
def FrameOutcome.textsDrawn (outcome : FrameOutcome) : Bool :=
  match outcome.endDrawResult with
  | .ok => true
  | .recreateTarget => outcome.bitmapCreated
  | .failed => false

namespace Display

def requestExit (exitCode : ℤ) (d : Display) : Display := { d with running := false, exitCode }

/-- `Run`, up to its loop. -/
def start (outcome : InitializeOutcome) : Option Display :=
  let (initialized, renderer) :=
    ({} : D3D11Renderer).initializeRenderer initialClientSize outcome.rendererCreated
  if !initialized then none
  else
    let (initialized, gameHudRenderer) :=
      ({} : GameHudRenderer).initializeRenderer renderer.swapChain outcome.gameHudCreated
        outcome.bitmapCreated
    if !initialized then none
    else
      let (initialized, networkUiRenderer) :=
        ({} : NetworkUiRenderer).initializeRenderer outcome.networkUiCreated
      if !initialized then none
      else if !outcome.resourcesInitialized then none
      else some { running := true, renderer, gameHudRenderer, networkUiRenderer }

def handleWindowResized (size : ClientSize) (outcome : ResizeOutcome) (d : Display) : Display :=
  if !d.running then d
  else
    let d := { d with gameHudRenderer := d.gameHudRenderer.prepareForResize }
    let (resized, renderer) := d.renderer.resize size outcome
    let d := { d with renderer }
    let d := if !resized then d.requestExit 1 else d
    let (restored, gameHudRenderer) :=
      d.gameHudRenderer.restoreAfterResize d.renderer.swapChain outcome.bitmapCreated
    let d := { d with gameHudRenderer }
    if !restored then d.requestExit 1 else d

/-- The size in a `WM_SIZE`, unless the window ignores it. -/
def resizedTo (minimized : Bool) (lParam : UInt32) : Option ClientSize :=
  if minimized then none
  else
    let clientWidth := lParam &&& 0xFFFF
    let clientHeight := (lParam >>> 16) &&& 0xFFFF
    if clientWidth = 0 ∨ clientHeight = 0 then none else some ⟨clientWidth, clientHeight⟩

/-- `WindowProcedure` of a `WM_SIZE`. -/
def handleSize (minimized : Bool) (lParam : UInt32) (outcome : ResizeOutcome) (d : Display) :
    Display :=
  match resizedTo minimized lParam with
  | none => d
  | some size => d.handleWindowResized size outcome

/-- One of the three functions that draw texts, between the frame they begin and end. -/
def drawTexts (texts : List GameHudText) (outcome : FrameOutcome) (d : Display) : Bool × Display :=
  let (begun, gameHudRenderer) := d.gameHudRenderer.beginFrame
  if !begun then (false, { d with gameHudRenderer }.requestExit 1)
  else
    let gameHudRenderer := texts.foldl GameHudRenderer.drawText gameHudRenderer
    let (ended, gameHudRenderer) := gameHudRenderer.endFrame outcome.endDrawResult
      d.renderer.swapChain outcome.bitmapCreated
    let d := { d with gameHudRenderer }
    if !ended then (false, d.requestExit 1) else (true, d)

/-- The part of `Render` for a player with an identity. -/
def renderGame (clientGameState : ClientGameState) (outcome : FrameOutcome) (d : Display) :
    Bool × Display :=
  if clientGameState.playerIdentity.isNone then (true, d)
  else if !outcome.worldDrawn then (false, d.requestExit 1)
  else if drawHud clientGameState = [] then (true, d)
  else d.drawTexts (drawHud clientGameState) outcome

def render (clientGameState : ClientGameState) (outcome : FrameOutcome) (d : Display) :
    Bool × Display :=
  if !d.renderer.beginFrame then (false, d.requestExit 1)
  else
    let (drawn, d) := d.renderGame clientGameState outcome
    if !drawn then (false, d)
    else
      let (begun, networkUiRenderer) := d.networkUiRenderer.beginFrame
      let d := { d with networkUiRenderer }
      if !begun then (false, d.requestExit 1)
      else
        let (ended, networkUiRenderer) := d.networkUiRenderer.endFrame
        let d := { d with networkUiRenderer }
        if !ended then (false, d.requestExit 1)
        else if !d.renderer.endFrame outcome.presented then (false, d.requestExit 1)
        else (true, d)

/-- What happens in the loop of `Run`. -/
inductive Event where
  /-- `WM_SIZE`. -/
  | size (minimized : Bool) (lParam : UInt32) (outcome : ResizeOutcome)
  | render (clientGameState : ClientGameState) (outcome : FrameOutcome)
  /-- `WM_QUIT`, or a connection that was refused. -/
  | requestExit (exitCode : ℤ)

/-- An application that is about to exit renders nothing. -/
def step (d : Display) : Event → Option Display
  | .size minimized lParam outcome => some (d.handleSize minimized lParam outcome)
  | .render clientGameState outcome =>
    if d.running then some (d.render clientGameState outcome).2 else none
  | .requestExit exitCode => some (d.requestExit exitCode)

/-- All renderers are made for a window of one size, and no frame has begun. -/
structure Ready (size : ClientSize) (d : Display) : Prop where
  proper : size.Proper
  renderer : d.renderer = ⟨true, some size, true, true, fixedAspectRatioViewport size⟩
  gameHudRenderer : ∃ transform drawn, d.gameHudRenderer =
    ⟨true, true, some size, updateHudTransform (some size), false, transform, drawn⟩
  networkUiRenderer : d.networkUiRenderer = ⟨true, false⟩

section Frames

variable {size : ClientSize} {d d' : Display}

/-- **A resized window**: everything is made for its size, or the application exits. -/
theorem Ready.handleWindowResized (h : d.Ready size) (hrunning : d.running = true)
    {newSize : ClientSize} (hproper : newSize.Proper) (outcome : ResizeOutcome)
    (hafter : (d.handleWindowResized newSize outcome).running = true) :
    (d.handleWindowResized newSize outcome).Ready newSize := by
  obtain ⟨running, exitCode, renderer, gameHudRenderer, networkUiRenderer⟩ := d
  obtain ⟨-, hrenderer, ⟨transform, drawn, hgameHud⟩, hnetworkUi⟩ := h
  dsimp only at hrunning hrenderer hgameHud hnetworkUi
  subst hrunning hrenderer hgameHud hnetworkUi
  obtain ⟨buffersResized, renderTargetViewCreated, depthStencilViewCreated, bitmapCreated⟩ :=
    outcome
  have hsize : ¬ (newSize.clientWidth = 0 ∨ newSize.clientHeight = 0) := not_or.mpr hproper
  unfold Display.handleWindowResized D3D11Renderer.resize at hafter ⊢
  simp only [hsize, if_false] at hafter ⊢
  -- every refusal requests the exit
  cases buffersResized with
  | false => cases bitmapCreated <;> cases hafter
  | true =>
    cases renderTargetViewCreated with
    | false => cases bitmapCreated <;> cases hafter
    | true =>
      cases depthStencilViewCreated with
      | false => cases bitmapCreated <;> cases hafter
      | true =>
        cases bitmapCreated with
        | false => cases hafter
        | true => exact ⟨hproper, rfl, ⟨_, _, rfl⟩, rfl⟩

/-- The texts of one frame, drawn under one transformation. -/
theorem foldl_drawText {r : GameHudRenderer} (hactive : r.frameActive = true)
    (hresources : r.resources = true) {texts : List GameHudText}
    (hreadable : ∀ text ∈ texts, text.text ≠ "") :
    texts.foldl GameHudRenderer.drawText r =
      { r with drawn := r.drawn ++ texts.map fun text => (r.transform, text) } := by
  induction texts generalizing r with
  | nil => simp
  | cons text texts ih =>
      obtain ⟨htext, hrest⟩ := List.forall_mem_cons.mp hreadable
      have hone : r.drawText text = { r with drawn := r.drawn ++ [(r.transform, text)] } := by
        simp [GameHudRenderer.drawText, hactive, hresources, htext]
      rw [List.foldl_cons, hone]
      refine (ih (r := { r with drawn := r.drawn ++ [(r.transform, text)] }) hactive hresources
        hrest).trans ?_
      rw [List.map_cons, List.append_assoc]
      rfl

/-- What a frame leaves: it has drawn some texts, and either the application goes on or it exits. -/
structure Drawn (size : ClientSize) (texts : List GameHudText) (good : Bool) (d : Display)
    (result : Bool × Display) : Prop where
  succeeds : result.1 = good
  running : result.2.running = good
  drawn : result.2.gameHudRenderer.drawn = d.gameHudRenderer.drawn ++
    texts.map fun text => (updateHudTransform (some size), text)
  ready : good = true → result.2.Ready size

/-- **The texts of a frame** are all drawn, whatever the device answers in the end. -/
theorem Ready.drawTexts (h : d.Ready size) (hrunning : d.running = true) {texts : List GameHudText}
    (hreadable : ∀ text ∈ texts, text.text ≠ "") (outcome : FrameOutcome) :
    Drawn size texts outcome.textsDrawn d (d.drawTexts texts outcome) := by
  obtain ⟨running, exitCode, renderer, gameHudRenderer, networkUiRenderer⟩ := d
  obtain ⟨hproper, hrenderer, ⟨transform, drawn, hgameHud⟩, hnetworkUi⟩ := h
  dsimp only at hrunning hrenderer hgameHud hnetworkUi
  subst hrunning hrenderer hgameHud hnetworkUi
  have hbegun : GameHudRenderer.beginFrame ⟨true, true, some size, updateHudTransform (some size),
      false, transform, drawn⟩ = (true, ⟨true, true, some size, updateHudTransform (some size),
        true, updateHudTransform (some size), drawn⟩) := rfl
  unfold Display.drawTexts
  dsimp only
  rw [hbegun]
  dsimp only
  rw [foldl_drawText rfl rfl hreadable]
  obtain ⟨worldDrawn, endDrawResult, bitmapCreated, presented⟩ := outcome
  cases endDrawResult with
  | ok => exact ⟨rfl, rfl, rfl, fun _ => ⟨hproper, rfl, ⟨_, _, rfl⟩, rfl⟩⟩
  | failed => exact ⟨rfl, rfl, rfl, nofun⟩
  | recreateTarget =>
      -- the new bitmap has the size the old one had
      cases bitmapCreated with
      | false => exact ⟨rfl, rfl, rfl, nofun⟩
      | true => exact ⟨rfl, rfl, rfl, fun _ => ⟨hproper, rfl, ⟨_, _, rfl⟩, rfl⟩⟩

/-- The texts a frame gets to. -/
def frameTexts (clientGameState : ClientGameState) (outcome : FrameOutcome) : List GameHudText :=
  if outcome.worldDrawn then drawHud clientGameState else []

/-- Whether `Render` succeeds, as far as the device is concerned. -/
def frameGood (clientGameState : ClientGameState) (outcome : FrameOutcome) : Bool :=
  clientGameState.playerIdentity.isNone ||
    outcome.worldDrawn && (decide (drawHud clientGameState = []) || outcome.textsDrawn)

theorem drawHud_of_none {clientGameState : ClientGameState}
    (h : clientGameState.playerIdentity = none) : drawHud clientGameState = [] := by
  unfold drawHud
  rw [h]

theorem Ready.renderGame (h : d.Ready size) (hrunning : d.running = true)
    (clientGameState : ClientGameState) (outcome : FrameOutcome) :
    Drawn size (frameTexts clientGameState outcome) (frameGood clientGameState outcome) d
      (d.renderGame clientGameState outcome) := by
  have hsame : Drawn size [] true d (true, d) :=
    ⟨rfl, hrunning, (List.append_nil _).symm, fun _ => h⟩
  unfold Display.renderGame frameTexts frameGood
  cases hidentity : clientGameState.playerIdentity with
  | none =>
      rw [drawHud_of_none hidentity, ite_self]
      exact hsame
  | some identity =>
      cases hworld : outcome.worldDrawn with
      | false => exact ⟨rfl, rfl, (List.append_nil _).symm, nofun⟩
      | true =>
          by_cases hnothing : drawHud clientGameState = []
          · simp only [hnothing, Option.isNone_some, Bool.not_true, if_true]
            exact hsame
          · have hdrawn := h.drawTexts hrunning (drawHud_readable clientGameState) outcome
            simpa [hnothing] using hdrawn

/-- **A frame** draws its texts and fails only if the device does. -/
theorem Ready.render (h : d.Ready size) (hrunning : d.running = true)
    (clientGameState : ClientGameState) (outcome : FrameOutcome) :
    Drawn size (frameTexts clientGameState outcome)
      (frameGood clientGameState outcome && outcome.presented) d
      (d.render clientGameState outcome) := by
  have hbegins : d.renderer.beginFrame = true := by
    rw [h.renderer]
    rfl
  have hgame := h.renderGame hrunning clientGameState outcome
  unfold Display.render
  rw [hbegins, Bool.not_true, if_neg Bool.false_ne_true]
  generalize frameGood clientGameState outcome = good at hgame ⊢
  generalize frameTexts clientGameState outcome = texts at hgame ⊢
  generalize d.renderGame clientGameState outcome = result at hgame ⊢
  obtain ⟨drawn, d'⟩ := result
  obtain ⟨rfl, hresult, htexts, hready⟩ := hgame
  cases drawn with
  | false => exact ⟨rfl, hresult, htexts, nofun⟩
  | true =>
      obtain ⟨running, exitCode, renderer, gameHudRenderer, networkUiRenderer⟩ := d'
      obtain ⟨hproper, hrenderer, hgameHud, hnetworkUi⟩ := hready rfl
      dsimp only at hresult hrenderer hgameHud hnetworkUi
      subst hresult hrenderer hnetworkUi
      cases outcome.presented with
      | false => exact ⟨rfl, rfl, htexts, nofun⟩
      | true => exact ⟨rfl, rfl, htexts, fun _ => ⟨hproper, rfl, hgameHud, rfl⟩⟩

end Frames

/-! ## Runs -/

section Runs

variable {size : ClientSize} {d d' : Display}

end Runs

end Display

end NetworkArena.Client
