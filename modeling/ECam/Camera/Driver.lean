import ECam.Camera.Descriptors
import ECam.Camera.Jpeg
import ECam.Library.Run

/-!
# The camera driver

The driver is a task that runs beside the application.  It waits for the events that two
interrupt routines put into a queue, copies what the hardware has received, and puts full
frames into a second queue, from which the application takes them.  The hardware, the
interrupts, the task and the application all take steps at any time; the steps of the task
are cut where it uses what the others use too.

Frames are known by their index.  The timestamps and the log are left out.
-/

namespace ECam.Camera

open ECam.Library
open ECam.ImageProcessing

/-! ## The state -/

/-- `cam_state_t`. -/
inductive CamState where
  | idle
  | readBuf
  deriving DecidableEq, Repr

/-- `cam_event_t`. -/
inductive CamEvent where
  | inSucEof
  | vsync
  deriving DecidableEq, Repr

/-- `cam_frame_t`; a frame is enabled as long as it belongs to the driver. -/
structure CamFrame where
  en : Bool
  len : Nat
  buf : Memory

/-- The last transfer of the hardware: whether it is still running, the frame for which it
was started, and what was received. -/
structure Transfer where
  running : Bool
  framePos : Nat
  received : List UInt8

/-- Where the task is.  A frame is searched and started from both states. -/
inductive Stage where
  | receive
  | handle (event : CamEvent)
  | send
  | pop
  | push (popped : Nat)
  | give (popped : Nat)
  | next (origin : CamState)
  | search (origin : CamState) (x : Nat)
  | start (origin : CamState)
  | started (origin : CamState)
  deriving DecidableEq, Repr

/-- What does not change while the driver runs. -/
structure Setup where
  cam : CamObj
  sizes : DmaSizes
  grabLatest : Bool

/-- `frame_cnt`. -/
def Setup.frameCnt (setup : Setup) : Nat :=
  setup.cam.frameCnt.toNat

/-- The length of `frame_buffer_queue`. -/
def Setup.frameBufferQueueLen (setup : Setup) : Nat :=
  if setup.grabLatest ∧ 1 < setup.frameCnt then setup.frameCnt - 1 else setup.frameCnt

/-- The length of `event_queue`. -/
def Setup.eventQueueLen (setup : Setup) : Nat :=
  setup.sizes.dmaHalfBufferCnt - 1

/-- Where the hardware stores a byte: the descriptors form a ring. -/
def Setup.dmaOffset (setup : Setup) (received : Nat) : Nat :=
  received % (setup.sizes.dmaNodeCnt * setup.sizes.dmaNodeBufferSize)

/-- The fields of `cam_obj_t` that change, the variables of the task, the hardware and the
frames that the application holds. -/
structure Driver where
  state : CamState
  stage : Stage
  cnt : Nat
  framePos : Nat
  frames : Nat → CamFrame
  dmaBuffer : Memory
  eventQueue : List CamEvent
  frameBufferQueue : List Nat
  transfer : Transfer
  held : List Nat

/-- The frame that is being filled. -/
def Driver.frame (driver : Driver) : CamFrame :=
  driver.frames driver.framePos

def Driver.setFrame (driver : Driver) (x : Nat) (frame : CamFrame) : Driver :=
  { driver with frames := Function.update driver.frames x frame }

/-- Setting `en`. -/
def Driver.enable (driver : Driver) (x : Nat) : Driver :=
  driver.setFrame x { driver.frames x with en := true }

/-- `ll_cam_stop`. -/
def Driver.stop (driver : Driver) : Driver :=
  { driver with transfer := { driver.transfer with running := false } }

/-- The driver after `cam_config`. -/
def Driver.initial (contents : Nat → Memory) (dmaBuffer : Memory) : Driver where
  state := .idle
  stage := .receive
  cnt := 0
  framePos := 0
  frames := fun x => ⟨true, 0, contents x⟩
  dmaBuffer := dmaBuffer
  eventQueue := []
  frameBufferQueue := []
  transfer := ⟨false, 0, []⟩
  held := []

variable (setup : Setup)

/-! ## The task -/

/-- `pixels_per_dma`. -/
def Setup.pixelsPerDma : Nat :=
  setup.sizes.dmaHalfBufferSize * setup.cam.fbBytesPerPixel.toNat /
    (setup.sizes.dmaBytesPerItem * setup.cam.inBytesPerPixel.toNat)

/-- The half of the receive buffer that `cnt` selects. -/
def Driver.half (driver : Driver) : Memory := fun index =>
  driver.dmaBuffer
    (driver.cnt % setup.sizes.dmaHalfBufferCnt * setup.sizes.dmaHalfBufferSize + index)

/-- The call of `ll_cam_memcpy`, with the new length. -/
def Driver.copyHalf (driver : Driver) : CamFrame :=
  let copied := llCamMemcpy setup.cam (fromBuffer (driver.half setup)) driver.frame.len
    setup.sizes.dmaHalfBufferSize driver.frame.buf
  { driver.frame with buf := copied.1, len := driver.frame.len + copied.2 }

/-- There is no room for another half (`FB-OVF`). -/
def Driver.Overflows (driver : Driver) : Prop :=
  setup.cam.fbSize.toNat < driver.frame.len + setup.pixelsPerDma

instance (driver : Driver) : Decidable (driver.Overflows setup) :=
  inferInstanceAs (Decidable (_ < _))

/-- A half buffer was received. -/
def camTaskEof (driver : Driver) : Driver :=
  if setup.cam.psramMode = false ∧ driver.Overflows setup then
    { driver.stop with stage := .receive }
  else
    let frame := if setup.cam.psramMode then driver.frame else driver.copyHalf setup
    let copied := { driver.setFrame driver.framePos frame with
      stage := .receive
      cnt := driver.cnt + 1 }
    if setup.cam.jpegMode ∧ driver.cnt = 0 ∧ camVerifyJpegSoi frame.buf frame.len ≠ some 0 then
      { copied.stop with state := .idle }
    else
      copied

/-- The rest of a compressed frame is copied; the counter then includes it. -/
def lastHalf (driver : Driver) : CamFrame × Nat :=
  if setup.cam.jpegMode then
    if setup.cam.psramMode then
      (driver.frame, driver.cnt + 1)
    else if driver.Overflows setup then
      (driver.frame, driver.cnt - 1 + 1)
    else
      (driver.copyHalf setup, driver.cnt + 1)
  else
    (driver.frame, driver.cnt)

/-- The frame is taken from the hardware and gets its length.  An incomplete frame stays
enabled (`FB-SIZE`). -/
def finishFrame (frame : CamFrame) (cnt : Nat) : CamFrame :=
  if setup.cam.psramMode then
    if setup.cam.jpegMode then
      { frame with en := false, len := cnt * setup.sizes.dmaHalfBufferSize }
    else
      { frame with en := false, len := setup.cam.recvSize.toNat }
  else if setup.cam.jpegMode = false ∧ frame.len ≠ setup.cam.fbSize.toNat then
    { frame with en := true }
  else
    { frame with en := false }

/-- The frame has ended. -/
def camTaskVsync (driver : Driver) : Driver :=
  if driver.cnt ≠ 0 ∨ setup.cam.jpegMode = false ∨ setup.cam.psramMode = true then
    let last := lastHalf setup driver
    let frame := finishFrame setup last.1 last.2
    { driver.stop.setFrame driver.framePos frame with
      stage := if frame.en then .next .readBuf else .send
      cnt := last.2 }
  else
    { driver.stop with stage := .next .readBuf }

/-- `cam_give`. -/
def camGive (x : Nat) (driver : Driver) : Driver :=
  if x < setup.frameCnt then driver.enable x else driver

/-- One step of `cam_task`.  The frame is sent in up to three operations on the queue; the
loop of `cam_get_next_frame` looks at one frame in each step. -/
def camTask (driver : Driver) : Driver :=
  match driver.stage with
  | .receive =>
      match driver.eventQueue with
      | [] => driver
      | event :: events => { driver with stage := .handle event, eventQueue := events }
  | .handle event =>
      match driver.state, event with
      | .idle, .vsync => { driver with stage := .next .idle }
      | .idle, .inSucEof => { driver with stage := .receive }
      | .readBuf, .inSucEof => camTaskEof setup driver
      | .readBuf, .vsync => camTaskVsync setup driver
  | .send =>
      if driver.frameBufferQueue.length < setup.frameBufferQueueLen then
        { driver with
          stage := .next .readBuf
          frameBufferQueue := driver.frameBufferQueue ++ [driver.framePos] }
      else
        { driver with stage := .pop }
  | .pop =>
      match driver.frameBufferQueue with
      | [] => { driver.enable driver.framePos with stage := .next .readBuf }
      | popped :: others =>
          { driver with stage := .push popped, frameBufferQueue := others }
  | .push popped =>
      if driver.frameBufferQueue.length < setup.frameBufferQueueLen then
        { driver with
          stage := .give popped
          frameBufferQueue := driver.frameBufferQueue ++ [driver.framePos] }
      else
        { driver.enable driver.framePos with stage := .give popped }
  | .give popped => { camGive setup popped driver with stage := .next .readBuf }
  | .next origin =>
      if driver.frame.en then
        { driver with stage := .start origin }
      else
        { driver with stage := .search origin 0 }
  | .search origin x =>
      if x < setup.frameCnt then
        if (driver.frames x).en then
          { driver with stage := .start origin, framePos := x }
        else
          { driver with stage := .search origin (x + 1) }
      else
        { driver with
          stage := .receive
          cnt := 0
          state := if origin = .readBuf then .idle else driver.state }
  | .start origin =>
      { driver with stage := .started origin, transfer := ⟨true, driver.framePos, []⟩ }
  | .started origin =>
      { driver.setFrame driver.framePos { driver.frame with len := 0 } with
        stage := .receive
        cnt := 0
        state := if origin = .idle then .readBuf else driver.state }

/-! ## The others -/

/-- `ll_cam_send_event`, called by the interrupt routines. -/
def llCamSendEvent (event : CamEvent) (driver : Driver) : Driver :=
  if driver.eventQueue.length < setup.eventQueueLen then
    { driver with eventQueue := driver.eventQueue ++ [event] }
  else
    { driver.stop with state := .idle }

/-- The hardware stores a byte, in the frame or in the receive buffer. -/
def storeByte (value : UInt8) (driver : Driver) : Driver :=
  if driver.transfer.running then
    let offset := setup.dmaOffset driver.transfer.received.length
    let stored := { driver with
      transfer := { driver.transfer with received := driver.transfer.received ++ [value] } }
    if setup.cam.psramMode then
      let frame := driver.frames driver.transfer.framePos
      stored.setFrame driver.transfer.framePos
        { frame with buf := Function.update frame.buf offset value }
    else
      { stored with dmaBuffer := Function.update driver.dmaBuffer offset value }
  else
    driver

/-- `cam_take` of the first frame of the queue.  A compressed frame without an end is given
back and `cam_take` is called again, which is another step. -/
def camTake (driver : Driver) : Driver :=
  match driver.frameBufferQueue with
  | [] => driver
  | x :: others =>
      let popped := { driver with frameBufferQueue := others }
      let frame := driver.frames x
      if setup.cam.jpegMode then
        match camVerifyJpegEoi frame.buf frame.len with
        | some offset =>
            { popped.setFrame x { frame with len := offset + 2 } with held := x :: driver.held }
        | none => camGive setup x popped
      else if setup.cam.psramMode = true ∧
          setup.cam.inBytesPerPixel ≠ setup.cam.fbBytesPerPixel then
        let converted := llCamMemcpy setup.cam inPlace 0 frame.len frame.buf
        { popped.setFrame x { frame with buf := converted.1, len := converted.2 } with
          held := x :: driver.held }
      else
        { popped with held := x :: driver.held }

/-- What can happen.  The application gives back, and changes, only what it holds. -/
inductive Action where
  | interrupt (event : CamEvent)
  | task
  | byte (value : UInt8)
  | take
  | give (x : Nat)
  | write (x index : Nat) (value : UInt8)
  deriving DecidableEq, Repr

def step (driver : Driver) : Action → Driver
  | .interrupt event => llCamSendEvent setup event driver
  | .task => camTask setup driver
  | .byte value => storeByte setup value driver
  | .take => camTake setup driver
  | .give x =>
      if x ∈ driver.held then
        { camGive setup x driver with held := driver.held.erase x }
      else
        driver
  | .write x index value =>
      if x ∈ driver.held then
        driver.setFrame x { driver.frames x with
          buf := Function.update (driver.frames x).buf index value }
      else
        driver

/-- Raw frames with the edited driver. -/
def rawSetup : Setup :=
  ⟨rawCamObj, ⟨1, 1920000, 16000, 120, 3200⟩, false⟩

/-- The frames of the marker detector. -/
def detectorSetup : Setup :=
  ⟨camConfig Unedited.llCamSetSampleMode Unedited.psramMode detectorConfig 240 240 ov2640Pid
    emptyCamObj, ⟨1, 23040, 11520, 2, 3840⟩, false⟩

end ECam.Camera
