import ECam.Library.Fallible
import ECam.Library.Pool

/-!
# `esp_camera_init` and `esp_camera_deinit`

`esp_camera_init` allocates an object, a number of buffers and queues, interrupts and a task,
and `esp_camera_deinit` releases them.  Every request may be refused, and the sensor may not be
found.  What was allocated before is released then.
-/

namespace ECam.Camera.Lifecycle

open ECam.Library

/-! ## The driver -/

/-- `ESP_FAIL`. -/
def espFail : Int := -1

theorem espFail_ne : espFail ≠ 0 := by decide

/-- `ESP_ERR_NO_MEM`. -/
def espErrNoMem : Int := 0x101

theorem espErrNoMem_ne : espErrNoMem ≠ 0 := by decide

/-- `ESP_ERR_INVALID_STATE`. -/
def espErrInvalidState : Int := 0x103

theorem espErrInvalidState_ne : espErrInvalidState ≠ 0 := by decide

/-- `ESP_ERR_NOT_FOUND`. -/
def espErrNotFound : Int := 0x105

/-- `ESP_ERR_NOT_SUPPORTED`. -/
def espErrNotSupported : Int := 0x106

/-- `ESP_ERR_CAMERA_FAILED_TO_SET_FRAME_SIZE`. -/
def espErrCameraFailedToSetFrameSize : Int := 0x20002

/-- The pointers of `cam_obj_t`, the object itself and its DMA channel.  Each frame has a buffer
and, for direct transfers, descriptors. -/
structure CamObject where
  object : Nat
  dmaNum : Nat
  taskHandle : Option Nat
  eventQueue : Option Nat
  frameBufferQueue : Option Nat
  dma : Option Nat
  dmaBuffer : Option Nat
  frames : Option Nat
  buffers : List (Option Nat × Option Nat)
  camIntrHandle : Option Nat
  dmaIntrHandle : Option Nat
  deriving DecidableEq, Repr

/-- The object after `heap_caps_calloc`. -/
def CamObject.zeroed (object : Nat) : CamObject :=
  ⟨object, 0, none, none, none, none, none, none, [], none, none⟩

/-- The pointers of the frames, if there are frames. -/
def CamObject.framePointers (cam : CamObject) : List (Option Nat) :=
  match cam.frames with
  | none => []
  | some frames => cam.buffers.flatMap (fun buffer => [buffer.1, buffer.2]) ++ [some frames]

/-- The pointers that `cam_deinit` releases, in its order. -/
def CamObject.pointers (cam : CamObject) : List (Option Nat) :=
  [cam.taskHandle, cam.eventQueue, cam.frameBufferQueue, cam.dma, cam.dmaBuffer] ++
    (cam.framePointers ++ [cam.camIntrHandle, cam.dmaIntrHandle, some cam.object])

/-- The allocations, tasks and interrupts, `cam_obj`, `s_state`, and the DMA channels with an
address in `in.link.addr`. -/
structure System where
  pool : Pool
  camObj : Option CamObject
  sState : Option Nat
  linked : Nat → Bool

/-- The configuration and what happens during `esp_camera_init`, apart from allocations: the
sizes of the buffers can be computed, an address answers, its sensor is known and takes the
frame size. -/
structure Attempt where
  fbCount : Nat
  psramMode : Bool
  jpeg : Bool
  supportJpeg : Bool
  sizes : Bool
  found : Bool
  supported : Bool
  framesizeSet : Bool
  deriving DecidableEq, Repr

variable (grants : Nat → Bool) (lastChannel : Nat) (attempt : Attempt)

/-- `cam_deinit`.  `ll_cam_deinit` clears the address of the channel. -/
def camDeinit : Fallible System := fun system =>
  match system.camObj with
  | none => (espFail, system)
  | some cam =>
      (0, { system with
        pool := system.pool.releaseAll cam.pointers
        camObj := none
        linked := Function.update system.linked cam.dmaNum false })

/-- The search of `ll_cam_dma_init` for a channel, from the last one down. -/
def findChannel (linked : Nat → Bool) : Nat → Option Nat
  | 0 => if linked 0 then none else some 0
  | x + 1 => if linked (x + 1) then findChannel linked x else some (x + 1)

/-- `ll_cam_dma_init`. -/
def llCamDmaInit : Fallible System := fun system =>
  match findChannel system.linked lastChannel with
  | none => (espFail, (camDeinit system).2)
  | some x =>
      (0, { system with camObj := system.camObj.map fun cam => { cam with dmaNum := x } })

/-- `cam_init`.  After a failure it frees the object again, which is then null. -/
def camInit : Fallible System := fun system =>
  let requested := system.pool.acquire grants
  match requested.1 with
  | none => (espErrNoMem, { system with pool := requested.2, camObj := none })
  | some object =>
      let configured := llCamDmaInit lastChannel
        { system with pool := requested.2, camObj := some (.zeroed object) }
      if configured.1 = 0 then
        (0, configured.2)
      else
        (espFail, { configured.2 with
          pool := configured.2.pool.release (configured.2.camObj.map CamObject.object)
          camObj := none })

/-- The allocations and the object during `cam_config`. -/
structure Work where
  pool : Pool
  cam : CamObject

/-- The pointers that `cam_config` sets one by one. -/
inductive Slot where
  | taskHandle
  | eventQueue
  | frameBufferQueue
  | dma
  | dmaBuffer
  | camIntrHandle
  | dmaIntrHandle
  deriving DecidableEq, Repr

def CamObject.get (cam : CamObject) : Slot → Option Nat
  | .taskHandle => cam.taskHandle
  | .eventQueue => cam.eventQueue
  | .frameBufferQueue => cam.frameBufferQueue
  | .dma => cam.dma
  | .dmaBuffer => cam.dmaBuffer
  | .camIntrHandle => cam.camIntrHandle
  | .dmaIntrHandle => cam.dmaIntrHandle

def CamObject.set (cam : CamObject) (pointer : Option Nat) : Slot → CamObject
  | .taskHandle => { cam with taskHandle := pointer }
  | .eventQueue => { cam with eventQueue := pointer }
  | .frameBufferQueue => { cam with frameBufferQueue := pointer }
  | .dma => { cam with dma := pointer }
  | .dmaBuffer => { cam with dmaBuffer := pointer }
  | .camIntrHandle => { cam with camIntrHandle := pointer }
  | .dmaIntrHandle => { cam with dmaIntrHandle := pointer }

/-- A request for one pointer. -/
def allocate (slot : Slot) : Fallible Work := fun work =>
  let requested := work.pool.acquire grants
  (if requested.1.isSome then 0 else espFail, ⟨requested.2, work.cam.set requested.1 slot⟩)

/-- The request for the array of the frames. -/
def allocateFrames : Fallible Work := fun work =>
  let requested := work.pool.acquire grants
  (if requested.1.isSome then 0 else espFail,
    ⟨requested.2, { work.cam with
      frames := requested.1
      buffers := List.replicate attempt.fbCount (none, none) }⟩)

/-- The loop of `cam_dma_config`: the requests for the frames until one is refused. -/
def fillFrames (psramMode : Bool) : Nat → Pool → Bool × List (Option Nat × Option Nat) × Pool
  | 0, pool => (true, [], pool)
  | count + 1, pool =>
      let buffer := pool.acquire grants
      if buffer.1.isSome then
        let descriptors := if psramMode then buffer.2.acquire grants else (none, buffer.2)
        if psramMode = true ∧ descriptors.1.isNone then
          (false, (buffer.1, none) :: List.replicate count (none, none), descriptors.2)
        else
          let others := fillFrames psramMode count descriptors.2
          (others.1, (buffer.1, descriptors.1) :: others.2.1, others.2.2)
      else
        (false, List.replicate (count + 1) (none, none), buffer.2)

def allocateBuffers : Fallible Work := fun work =>
  let filled := fillFrames grants attempt.psramMode attempt.fbCount work.pool
  (if filled.1 then 0 else espFail, ⟨filled.2.2, { work.cam with buffers := filled.2.1 }⟩)

/-- The sizes of the buffers are computed. -/
def computeSizes : Fallible Work := fun work =>
  (if attempt.sizes then 0 else espFail, work)

/-- A request that is made for frames that are copied only. -/
def allocateCopied (slot : Slot) : Fallible Work :=
  if attempt.psramMode then Fallible.modify id else allocate grants slot

/-- `cam_dma_config`. -/
def camDmaConfig : Fallible Work :=
  (computeSizes attempt).andThen ((allocateFrames grants attempt).andThen
    ((allocateBuffers grants attempt).andThen
      ((allocateCopied grants attempt .dmaBuffer).andThen
        (allocateCopied grants attempt .dma))))

/-- `xTaskCreatePinnedToCore`, whose answer is not looked at. -/
def createTask : Fallible Work :=
  Fallible.modify fun work => (allocate grants .taskHandle work).2

/-- The allocations of `cam_config`.  `ll_cam_init_isr` allocates both interrupts. -/
def camAllocate : Fallible Work :=
  (camDmaConfig grants attempt).andThen ((allocate grants .eventQueue).andThen
    ((allocate grants .frameBufferQueue).andThen ((allocate grants .dmaIntrHandle).andThen
      ((allocate grants .camIntrHandle).andThen (createTask grants)))))

/-- `cam_config`; `cam_obj` is not null when it is called. -/
def camConfig : Fallible System := fun system =>
  match system.camObj with
  | none => (espFail, system)
  | some cam =>
      let built := camAllocate grants attempt ⟨system.pool, cam⟩
      let next := { system with pool := built.2.pool, camObj := some built.2.cam }
      if built.1 = 0 then (0, next) else (espFail, (camDeinit next).2)

/-- `camera_probe`. -/
def cameraProbe : Fallible System := fun system =>
  if system.sState.isSome then
    (espErrInvalidState, system)
  else
    let requested := system.pool.acquire grants
    let next := { system with pool := requested.2, sState := requested.1 }
    if requested.1.isNone then
      (espErrNoMem, next)
    else if attempt.found = false then
      (espErrNotFound, next)
    else if attempt.supported = false then
      (espErrNotSupported, next)
    else
      (0, next)

/-- The test of the format in `esp_camera_init`. -/
def checkJpeg : Fallible System := fun system =>
  (if attempt.jpeg = true ∧ attempt.supportJpeg = false then espErrNotSupported else 0, system)

/-- The frame size is set.  The calls of the sensor after it are not looked at. -/
def setFrameSize : Fallible System := fun system =>
  (if attempt.framesizeSet then 0 else espErrCameraFailedToSetFrameSize, system)

/-- `esp_camera_deinit`. -/
def espCameraDeinit : Fallible System := fun system =>
  let stopped := camDeinit system
  (stopped.1, { stopped.2 with
    pool := stopped.2.pool.release stopped.2.sState
    sState := none })

/-- `esp_camera_init`. -/
def espCameraInit : Fallible System := fun system =>
  let initialised := camInit grants lastChannel system
  if initialised.1 ≠ 0 then
    initialised
  else
    let configured := ((cameraProbe grants attempt).andThen ((checkJpeg attempt).andThen
      ((camConfig grants attempt).andThen (setFrameSize attempt)))) initialised.2
    if configured.1 = 0 then
      configured
    else
      (configured.1, (espCameraDeinit configured.2).2)

/-- What can happen: both calls, the start of a transfer by the task, and other users of the
DMA channels. -/
inductive Event where
  | init (attempt : Attempt)
  | deinit
  | start
  | link (channel : Nat) (inUse : Bool)
  deriving DecidableEq, Repr

def step (system : System) : Event → System
  | .init attempt => (espCameraInit grants lastChannel attempt system).2
  | .deinit => (espCameraDeinit system).2
  | .start =>
      match system.camObj with
      | none => system
      | some cam => { system with linked := Function.update system.linked cam.dmaNum true }
  | .link channel inUse =>
      { system with linked := Function.update system.linked channel inUse }

/-- Nothing was called yet. -/
def System.start (linked : Nat → Bool) : System :=
  ⟨.empty, none, none, linked⟩

/-! ## `cam_init` -/

theorem findChannel_eq_none_iff {linked : Nat → Bool} {last : Nat} :
    findChannel linked last = none ↔ ∀ x ≤ last, linked x = true := by
  induction last with
  | zero => simp [findChannel]
  | succ last ih =>
      rw [findChannel]
      constructor
      · intro none x inside
        split at none
        next used =>
          rcases Nat.le_succ_iff.mp inside with earlier | rfl
          · exact ih.mp none x earlier
          · exact used
        next => cases none
      · intro all
        rw [if_pos (all (last + 1) (Nat.le_refl _))]
        exact ih.mpr fun x inside => all x (Nat.le_succ_of_le inside)

theorem findChannel_free {linked : Nat → Bool} {last x : Nat}
    (found : findChannel linked last = some x) : linked x = false := by
  induction last with
  | zero =>
      rw [findChannel] at found
      split at found
      next => cases found
      next free =>
        cases found
        exact Bool.eq_false_of_not_eq_true free
  | succ last ih =>
      rw [findChannel] at found
      split at found
      next => exact ih found
      next free =>
        cases found
        exact Bool.eq_false_of_not_eq_true free

section CamInit

variable {grants : Nat → Bool} {lastChannel : Nat}
variable {pool : Pool} {camObj : Option CamObject} {sState : Option Nat} {linked : Nat → Bool}
variable {object x : Nat}

theorem camInit_refused (refused : (pool.acquire grants).1 = none) :
    camInit grants lastChannel ⟨pool, camObj, sState, linked⟩ =
      (espErrNoMem, ⟨(pool.acquire grants).2, none, sState, linked⟩) := by
  simp only [camInit, refused]

theorem camInit_missing (granted : (pool.acquire grants).1 = some object)
    (missing : findChannel linked lastChannel = none) :
    camInit grants lastChannel ⟨pool, camObj, sState, linked⟩ =
      (espFail, (camDeinit
        ⟨(pool.acquire grants).2, some (.zeroed object), sState, linked⟩).2) := by
  simp only [camInit, granted, llCamDmaInit, missing]
  rfl

theorem camInit_found (granted : (pool.acquire grants).1 = some object)
    (found : findChannel linked lastChannel = some x) :
    camInit grants lastChannel ⟨pool, camObj, sState, linked⟩ =
      (0, ⟨(pool.acquire grants).2, some { CamObject.zeroed object with dmaNum := x },
        sState, linked⟩) := by
  simp only [camInit, granted, llCamDmaInit, found]
  rfl

end CamInit

end ECam.Camera.Lifecycle
