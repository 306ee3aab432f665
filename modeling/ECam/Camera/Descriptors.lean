import ECam.Camera.DmaSizes

/-!
# The memory of the frame buffers

`cam_dma_config` allocates a buffer for every frame.  If the hardware writes to the frames
directly, the start of the buffer is aligned and a ring of DMA descriptors is laid over it.
The hardware fills the area of one descriptor and goes on with the next one; it does not
stop at the end of the frame.
-/

namespace ECam.Camera

open ECam.Library
open ECam.ImageProcessing

/-! ## Descriptors -/

/-- `lldesc_t`.  The size has 12 bits; the next descriptor is given by its index. -/
structure Descriptor where
  size : Nat
  length : Nat
  sosf : Bool
  eof : Bool
  owner : Bool
  buf : Nat
  next : Nat
  deriving DecidableEq, Repr

/-- `allocate_dma_descriptors`, when there is memory for them. -/
def allocateDmaDescriptors (count : Nat) (size : UInt16) (buffer : Nat) : List Descriptor :=
  (List.range count).map fun x => {
    size := size.toNat % 2 ^ 12
    length := 0
    sosf := false
    eof := false
    owner := true
    buf := buffer + size.toNat * x
    next := (x + 1) % count }

/-- Where the hardware is: the descriptor in use and the bytes already in its area. -/
structure DmaPosition where
  index : Nat
  filled : Nat
  deriving DecidableEq, Repr

/-- A received byte is stored; when the area is full the next descriptor is used. -/
def DmaPosition.advance (descriptors : List Descriptor) (position : DmaPosition) :
    Option DmaPosition :=
  descriptors[position.index]?.map fun descriptor =>
    if position.filled + 1 = descriptor.size then
      ⟨descriptor.next, 0⟩
    else
      ⟨position.index, position.filled + 1⟩

variable {count buffer : Nat} {size : UInt16}

/-- `ll_cam_get_dma_align`; the register has two bits. -/
def llCamGetDmaAlign (inExtMemBkSize : Fin 4) : Nat :=
  16 <<< inExtMemBkSize.val

/-- The memory of one frame: what was allocated, the start of the buffer in it and the
descriptors that are laid over the buffer. -/
structure FrameMemory where
  allocated : Nat
  fbOffset : Nat
  buf : Nat
  dma : List Descriptor
  en : Bool

/-- The frame at an address that `heap_caps_malloc` returned. -/
def frameMemory (cam : CamObj) (sizes : DmaSizes) (inExtMemBkSize : Fin 4) (allocated : Nat) :
    FrameMemory :=
  if cam.psramMode then
    let dmaAlign := llCamGetDmaAlign inExtMemBkSize
    let fbOffset := dmaAlign - (allocated &&& (dmaAlign - 1))
    let buf := allocated + fbOffset
    { allocated := allocated
      fbOffset := fbOffset
      buf := buf
      dma := allocateDmaDescriptors sizes.dmaNodeCnt (UInt16.ofNat sizes.dmaNodeBufferSize) buf
      en := true }
  else
    ⟨allocated, 0, allocated, [], true⟩

/-- The loop of `cam_dma_config` over the frames.  `buffers` are the answers of the
allocations of the buffers; the descriptors of a frame may fail to be allocated as well. -/
def camDmaConfig (cam : CamObj) (sizes : DmaSizes) (inExtMemBkSize : Fin 4)
    (buffers : Nat → Option Nat) (descriptors : Nat → Bool) : Option (List FrameMemory) :=
  (List.range cam.frameCnt.toNat).mapM fun x =>
    (buffers x).bind fun allocated =>
      if cam.psramMode ∧ descriptors x = false then
        none
      else
        some (frameMemory cam sizes inExtMemBkSize allocated)

/-- What `cam_deinit` frees for a frame. -/
def FrameMemory.freed (frame : FrameMemory) : Nat :=
  frame.buf - frame.fbOffset

/-- The nodes fit a descriptor and, together, the received frame. -/
structure NodesFit (cam : CamObj) (sizes : DmaSizes) : Prop where
  node_pos : 0 < sizes.dmaNodeBufferSize
  node_small : sizes.dmaNodeBufferSize ≤ lcdCamDmaNodeBufferMaxSize
  inside : sizes.dmaNodeCnt * sizes.dmaNodeBufferSize ≤ cam.recvSize.toNat

variable {config : DmaBufferSizeMax} {cam : CamObj} {sizes : DmaSizes}

/-- All computed sizes fit, also for compressed frames. -/
theorem llCamDmaSizes_nodesFit (computed : llCamDmaSizes config cam = .ok sizes)
    (psram : cam.psramMode = true)
    (received : cam.jpegMode = false → cam.recvSize.toNat = camLineWidth cam * cam.height.toNat) :
    NodesFit cam sizes := by
  cases jpeg : cam.jpegMode with
  | true =>
      rw [llCamDmaSizes, if_pos jpeg, if_pos psram] at computed
      cases computed
      have small : 1024 ≤ lcdCamDmaNodeBufferMaxSize := by decide
      exact ⟨Nat.succ_pos _, small, Nat.div_mul_le_self _ _⟩
  | false =>
      have fit := llCamDmaSizes_fit computed jpeg (received jpeg)
      refine ⟨fit.node_pos, fit.node_small, ?_⟩
      rw [fit.nodes, fit.psram psram]

/-- The camera object for raw frames with the edited driver. -/
def rawCamObj : CamObj :=
  camConfig Edited.llCamSetSampleMode Edited.psramMode ⟨.raw, 16000000, 1⟩ 1600 1200 ov2640Pid
    emptyCamObj

end ECam.Camera
