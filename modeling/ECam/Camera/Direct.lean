import ECam.Camera.Bounds
import ECam.Camera.Delivery

/-!
# Frames that the hardware stores

In the other mode the hardware stores what it receives in the frame buffer itself, going
round if there is too much of it.  The task does not find out how much was received: it
sends the frame at its end, with the length of a frame.  What the application gets is a
frame exactly if neither more nor less than a frame was received.

`cam_take` then converts gray frames in place.
-/

namespace ECam.Camera

open ECam.Library
open ECam.ImageProcessing

/-- A whole frame has been received when its end is handled. -/
def WholeFrames (setup : Setup) (observed : Observed) : Action → Prop
  | .task =>
      observed.driver.stage = .handle .vsync → observed.driver.state = .readBuf →
        observed.driver.transfer.received.length = setup.cam.recvSize.toNat
  | _ => True

instance (setup : Setup) : ∀ (observed : Observed) (action : Action),
    Decidable (WholeFrames setup observed action)
  | observed, .task => inferInstanceAs (Decidable
      (observed.driver.stage = .handle .vsync → observed.driver.state = .readBuf →
        observed.driver.transfer.received.length = setup.cam.recvSize.toNat))
  | _, .byte _ => isTrue trivial
  | _, .interrupt _ => isTrue trivial
  | _, .take => isTrue trivial
  | _, .give _ => isTrue trivial
  | _, .write _ _ _ => isTrue trivial

/-- A frame as it was received. -/
def Stored (setup : Setup) (sent : List UInt8) (frame : CamFrame) : Prop :=
  frame.len = setup.cam.recvSize.toNat ∧
    ∃ bytes : List UInt8, bytes <:+: sent ∧ bytes.length = setup.cam.recvSize.toNat ∧
      ∀ index, index < frame.len → bytes[index]? = some (frame.buf index)

/-- The frame at `frame_pos` holds the end of what was received. -/
structure Holds (setup : Setup) (driver : Driver) : Prop where
  target : driver.transfer.framePos = driver.framePos
  ring : RingHolds setup.cam.recvSize.toNat driver.transfer.received driver.frame.buf

/-- Frames are stored by the hardware, in a ring of the size of a frame. -/
structure Direct (setup : Setup) : Prop where
  psram : setup.cam.psramMode = true
  jpeg : setup.cam.jpegMode = false
  ring : setup.sizes.dmaNodeCnt * setup.sizes.dmaNodeBufferSize = setup.cam.recvSize.toNat
  gray : setup.cam.inBytesPerPixel ≠ setup.cam.fbBytesPerPixel ↔ inputStride setup.cam = 2
  groups : inputStride setup.cam = 2 → 8 ∣ setup.cam.recvSize.toNat
  frame : setup.cam.fbSize.toNat * inputStride setup.cam = setup.cam.recvSize.toNat

variable {setup : Setup} {driver : Driver} {observed : Observed}

theorem holds_storeByte (direct : Direct setup) (value : UInt8) (holds : Holds setup driver) :
    Holds setup (storeByte setup value driver) := by
  have offset : setup.dmaOffset driver.transfer.received.length =
      driver.transfer.received.length % setup.cam.recvSize.toNat := by
    rw [Setup.dmaOffset, direct.ring]
  unfold storeByte
  split
  next =>
    rw [direct.psram]
    simp only [if_true]
    rw [holds.target]
    refine ⟨rfl, ?_⟩
    simp only [Driver.frame, Driver.setFrame, Function.update_self, offset]
    exact holds.ring.store value
  next => exact holds

/-- The hardware is the only one that changes the contents. -/
theorem holds_rule (direct : Direct setup) : FillRule setup (Holds setup) (Holds setup) where
  fill_same := fun same holds =>
    ⟨by rw [same.transfer, same.framePos, holds.target],
      by rw [same.transfer, same.frame]; exact holds.ring⟩
  begun_same := fun same holds =>
    ⟨by rw [same.transfer, same.framePos, holds.target],
      by rw [same.transfer, same.frame]; exact holds.ring⟩
  begun_stop := fun holds => ⟨holds.target, holds.ring⟩
  fill_byte := fun value holds => holds_storeByte direct value holds
  begun_byte := fun value holds => holds_storeByte direct value holds
  start := fun _ _ => ⟨rfl, RingHolds.empty⟩
  started := fun holds transfer framePos _ frame =>
    ⟨by rw [transfer, framePos, holds.target], by rw [transfer, frame]; exact holds.ring⟩
  copied := by
    intro driver holds _
    simp only [camTaskEof, direct.psram, direct.jpeg, Bool.false_eq_true, if_false, false_and,
      if_true, reduceCtorEq]
    refine ⟨holds.target, ?_⟩
    simp only [Driver.setFrame, Driver.frame, Function.update_self]
    exact holds.ring

/-- If exactly a frame was received, the buffer holds it from its start on. -/
theorem stored_of_sending (direct : Direct setup) (streams : Streams setup observed)
    (storing : observed.driver.Filling (Holds setup) (Holds setup))
    (handling : observed.driver.stage = .handle .vsync)
    (reading : observed.driver.state = .readBuf)
    (whole : observed.driver.transfer.received.length = setup.cam.recvSize.toNat) :
    Stored setup observed.sent
      ((camTaskVsync setup observed.driver).frames observed.driver.framePos) := by
  unfold Driver.Filling at storing
  rw [handling] at storing
  have holds := storing reading
  have frame : (camTaskVsync setup observed.driver).frames observed.driver.framePos =
      { observed.driver.frame with en := false, len := setup.cam.recvSize.toNat } := by
    simp only [camTaskVsync, lastHalf, finishFrame, direct.psram, direct.jpeg, or_true, if_true,
      Bool.false_eq_true, if_false, Driver.setFrame, Function.update_self]
  rw [frame]
  refine ⟨rfl, observed.driver.transfer.received, streams.part, whole, ?_⟩
  intro index inside
  simp only at inside
  have received : index < observed.driver.transfer.received.length := by omega
  have stored := holds.ring index _ (List.getElem?_eq_getElem received) (by omega)
  rw [Nat.mod_eq_of_lt inside] at stored
  rw [stored, List.getElem?_eq_getElem received]

theorem Stored.mono {sent more : List UInt8} {frame : CamFrame}
    (stored : Stored setup sent frame) (part : sent <:+: more) : Stored setup more frame := by
  rcases stored with ⟨len, bytes, inside, length, same⟩
  exact ⟨len, bytes, inside.trans part, length, same⟩

/-- `cam_take` gives the application a complete frame. -/
theorem complete_camTake (direct : Direct setup) {sent : List UInt8} {x : Nat}
    {others : List Nat} (queued : driver.frameBufferQueue = x :: others)
    (stored : Stored setup sent (driver.frames x)) :
    Complete setup sent ((camTake setup driver).frames x) := by
  rcases stored with ⟨len, bytes, part, length, same⟩
  have total := direct.frame
  rw [camTake, queued]
  simp only [direct.jpeg, direct.psram, Bool.false_eq_true, if_false, true_and]
  split
  next different =>
    have stride := direct.gray.mp different
    have whole := direct.groups stride
    have reported : (llCamMemcpy setup.cam (fromBuffer (driver.frames x).buf) 0
        (driver.frames x).len (driver.frames x).buf).2 = (driver.frames x).len / 2 := by
      unfold inputStride at stride
      split at stride
      next gray => rw [llCamMemcpy, if_pos gray]
      next => cases stride
    simp only [Driver.setFrame, Function.update_self, llCamMemcpy_inPlace]
    rw [stride] at total
    refine ⟨?_, bytes, part, length, ?_⟩
    · simp only
      rw [reported, len, ← total, Nat.mul_div_cancel _ (by decide)]
    · intro index inside
      simp only at inside ⊢
      have converted := @llCamMemcpy_inside (driver.frames x).buf (driver.frames x).buf 0 setup.cam
        (driver.frames x).len index (fun _ => len ▸ whole) inside
      rw [Nat.zero_add] at converted
      rw [reported] at inside
      rw [converted, stride]
      exact same (2 * index) (by omega)
  next equal =>
    have stride : inputStride setup.cam = 1 := by
      have notTwo : inputStride setup.cam ≠ 2 := fun two => equal (direct.gray.mpr two)
      unfold inputStride at notTwo ⊢
      split
      next gray => exact absurd (if_pos gray) notTwo
      next => rfl
    rw [stride, Nat.mul_one] at total
    refine ⟨by rw [total]; exact len, bytes, part, length, ?_⟩
    intro index inside
    rw [stride, Nat.one_mul]
    exact same index inside

/-! ## The edited driver -/

section Configured

variable {config : DmaBufferSizeMax} {cameraConfig : CameraConfig}
  {width height sensorPid : UInt16} {sizes : DmaSizes}

/-- The edited driver stores uncompressed frames of every format directly. -/
theorem direct_of_camConfig (format : cameraConfig.pixelFormat ≠ .jpeg)
    (groups : 4 ∣ width.toNat) (fits : width.toNat * height.toNat * 2 < 2 ^ 31)
    (computed : llCamDmaSizes config (camConfig Edited.llCamSetSampleMode Edited.psramMode
      cameraConfig width height sensorPid emptyCamObj) = .ok sizes) (grabLatest : Bool) :
    Direct ⟨camConfig Edited.llCamSetSampleMode Edited.psramMode cameraConfig width height
      sensorPid emptyCamObj, sizes, grabLatest⟩ := by
  have configured := @camConfig_of_not_jpeg emptyCamObj Edited.llCamSetSampleMode
    Edited.psramMode cameraConfig width height sensorPid format
  rw [edited_llCamSetSampleMode] at configured
  have bytes : ∀ inBytes : UInt8, (inBytes = if SendsY8 sensorPid ∨ sensorPid = ov2640Pid ∨
      cameraConfig.pixelFormat = .raw then 1 else 2) → inBytes = 1 ∨ inBytes = 2 := by
    intro inBytes chosen
    split at chosen
    · exact Or.inl chosen
    · exact Or.inr chosen
  generalize chosen : (if SendsY8 sensorPid ∨ sensorPid = ov2640Pid ∨
      cameraConfig.pixelFormat = .raw then (1 : UInt8) else 2) = inBytes at configured
  have either := bytes inBytes chosen.symm
  have small : width.toNat * height.toNat *
      (camConfig Edited.llCamSetSampleMode Edited.psramMode cameraConfig width height
        sensorPid emptyCamObj).inBytesPerPixel.toNat < 2 ^ 31 := by
    rw [configured]
    simp only [CamObj.setBytesPerPixel]
    rcases either with rfl | rfl
    · simp only [UInt8.reduceToNat]
      omega
    · exact fits
  have received := camConfig_recvSize format small
  have fit := llCamDmaSizes_fit computed (by rw [configured]) received
  rw [configured] at fit received ⊢
  have pixels : width.toNat * height.toNat < 2 ^ 32 := by omega
  constructor
  · rfl
  · rfl
  · rw [fit.nodes, fit.psram rfl]
  · simp only [CamObj.setBytesPerPixel, inputStride, and_true]
    rcases either with rfl | rfl <;> decide
  · intro stride
    simp only [CamObj.setBytesPerPixel, inputStride, and_true] at stride
    rw [received]
    simp only [camLineWidth, CamObj.setBytesPerPixel]
    rcases either with rfl | rfl
    · exact absurd stride (by decide)
    · exact Dvd.dvd.mul_right (Nat.mul_dvd_mul_right groups 2) _
  · rw [received]
    simp only [CamObj.setBytesPerPixel, UInt32.toNat_mul, UInt16.toNat_toUInt32,
      UInt8.toNat_toUInt32, camLineWidth, inputStride, and_true]
    rw [Nat.mod_eq_of_lt pixels]
    rcases either with rfl | rfl
    · simp only [UInt8.reduceToNat, Nat.mul_one, Nat.mod_eq_of_lt pixels]
      rw [if_neg (by decide), Nat.mul_one]
    · simp only [UInt8.reduceToNat, Nat.mul_one, Nat.mod_eq_of_lt pixels, if_true]
      ring

/-- With the edited driver, and any uncompressed format: if each frame ends when exactly a
frame was received, what `cam_take` returns is a contiguous part of what the camera has
sent, with one byte for each pixel. -/
theorem taken_frames_complete (format : cameraConfig.pixelFormat ≠ .jpeg)
    (groups : 4 ∣ width.toNat) (fits : width.toNat * height.toNat * 2 < 2 ^ 31)
    (configured : setup.cam = camConfig Edited.llCamSetSampleMode Edited.psramMode cameraConfig
      width height sensorPid emptyCamObj)
    (computed : llCamDmaSizes config setup.cam = .ok setup.sizes) (positive : 0 < setup.frameCnt)
    (contents : Nat → Memory) (dmaBuffer : Memory) (actions : List Action)
    (whole : EachStep (observe setup) (WholeFrames setup) (Observed.initial contents dmaBuffer)
      actions) :
    Always (observe setup) (fun observed =>
      ∀ x others, observed.driver.frameBufferQueue = x :: others →
        Complete setup observed.sent ((camTake setup observed.driver).frames x))
      (Observed.initial contents dmaBuffer) actions := by
  have direct : Direct setup := by
    rcases setup with ⟨cam, sizes, grabLatest⟩
    simp only at configured computed
    rw [configured] at computed ⊢
    exact direct_of_camConfig format groups fits computed grabLatest
  have along : Always (observe setup) (fun observed =>
      Ownership setup observed.driver ∧ Streams setup observed ∧
        observed.driver.Filling (Holds setup) (Holds setup) ∧
        observed.driver.AllQueued (Stored setup observed.sent))
      (Observed.initial contents dmaBuffer) actions := by
    refine Always.of_steps ?_ ⟨ownership_initial positive contents dmaBuffer,
      streams_initial contents dmaBuffer, filling_initial contents dmaBuffer, ?_⟩ whole
    · rintro observed action ⟨ownership, streams, storing, all⟩ whole
      refine ⟨ownership_step ownership action, streams_step streams action,
        filling_step (holds_rule direct) ownership storing action, ?_⟩
      have queued := allQueued_step ownership all action (by
        rintro rfl handling reading -
        exact stored_of_sending direct streams storing handling reading (whole handling reading))
      exact fun x place => (queued x place).mono (observe_sent action)
    · rintro x (queued | ⟨sending, -⟩)
      · cases queued
      · cases sending
  refine along.imp ?_
  rintro observed ⟨-, -, -, all⟩ x others queued
  exact complete_camTake direct queued (all x (Or.inl (by rw [queued]; exact List.mem_cons_self)))

end Configured

/-- The bytes of a running transfer. -/
theorem observe_bytes {setup : Setup} (psram : setup.cam.psramMode = true) (values : List UInt8)
    {observed : Observed} (running : observed.driver.transfer.running = true) :
    ∃ frames, (values.map Action.byte).foldl (observe setup) observed =
      ⟨{ observed.driver with
          frames := frames
          transfer := { observed.driver.transfer with
            received := observed.driver.transfer.received ++ values } },
        observed.sent ++ values, observed.signalled⟩ := by
  induction values generalizing observed with
  | nil =>
      refine ⟨observed.driver.frames, ?_⟩
      rw [List.append_nil, List.append_nil]
      rfl
  | cons value values ih =>
      have stored : step setup observed.driver (.byte value) =
          { observed.driver with
            frames := (storeByte setup value observed.driver).frames
            transfer := { observed.driver.transfer with
              received := observed.driver.transfer.received ++ [value] } } := by
        simp only [step, storeByte, running, psram, if_true, Driver.setFrame]
      have still : (observe setup observed (.byte value)).driver.transfer.running = true := by
        simp only [observe, stored, running]
      rcases ih still with ⟨frames, same⟩
      refine ⟨frames, ?_⟩
      rw [List.map_cons, List.foldl_cons, same]
      simp only [observe, stored, List.append_assoc, List.singleton_append]

theorem eachStep_bytes {setup : Setup} (values : List UInt8) (observed : Observed) :
    EachStep (observe setup) (WholeFrames setup) observed (values.map Action.byte) := by
  induction values generalizing observed with
  | nil => trivial
  | cons value values ih => exact ⟨trivial, ih _⟩

/-- A raw frame is started. -/
def startRawFrame : List Action :=
  [.interrupt .vsync, .task, .task, .task, .task, .task]

/-- A raw frame is sent and taken. -/
def finishRawFrame : List Action :=
  [.interrupt .vsync, .task, .task, .task, .take]

theorem finishRawFrame_spec {driver : Driver} (sent : List UInt8) (signalled : Nat)
    (stage : driver.stage = .receive) (state : driver.state = .readBuf)
    (events : driver.eventQueue = []) (queue : driver.frameBufferQueue = [])
    (whole : driver.transfer.received.length = 1920000) :
    EachStep (observe rawSetup) (WholeFrames rawSetup) ⟨driver, sent, signalled⟩ finishRawFrame ∧
      (finishRawFrame.foldl (observe rawSetup) ⟨driver, sent, signalled⟩).driver.held =
        driver.framePos :: driver.held := by
  rcases driver with ⟨_, _, cnt, framePos, frames, dmaBuffer, _, _, transfer, held⟩
  cases stage
  cases state
  cases events
  cases queue
  have psram : rawSetup.cam.psramMode = true := rfl
  have jpeg : rawSetup.cam.jpegMode = false := rfl
  have plain : rawSetup.cam.inBytesPerPixel = rawSetup.cam.fbBytesPerPixel := by decide +kernel
  have recvSize : rawSetup.cam.recvSize.toNat = 1920000 := by decide +kernel
  have events : 0 < rawSetup.eventQueueLen := by decide +kernel
  have queue : 0 < rawSetup.frameBufferQueueLen := by decide +kernel
  simp [finishRawFrame, EachStep, WholeFrames, observe, step, llCamSendEvent, camTask, camTaskVsync,
    lastHalf, finishFrame, camTake, psram, jpeg, plain, recvSize, events, queue, whole,
    Driver.setFrame, Driver.stop]

/-- The raw frame with the given bytes. -/
def takeWholeFrame (values : List UInt8) : List Action :=
  startRawFrame ++ values.map .byte ++ finishRawFrame

theorem takeWholeFrame_spec {values : List UInt8} (whole : values.length = 1920000) :
    EachStep (observe rawSetup) (WholeFrames rawSetup) (Observed.initial (fun _ _ => 0) fun _ => 0)
        (takeWholeFrame values) ∧
      ((takeWholeFrame values).foldl (observe rawSetup)
        (Observed.initial (fun _ _ => 0) fun _ => 0)).driver.held = [0] := by
  have started : EachStep (observe rawSetup) (WholeFrames rawSetup)
      (Observed.initial (fun _ _ => 0) fun _ => 0) startRawFrame := by decide +kernel
  rw [takeWholeFrame, eachStep_append, eachStep_append, List.foldl_append, List.foldl_append]
  generalize first : startRawFrame.foldl (observe rawSetup)
    (Observed.initial (fun _ _ => 0) fun _ => 0) = observed
  have running : observed.driver.transfer.running = true := by
    rw [← first]
    decide +kernel
  have received : observed.driver.transfer.received = [] := by
    rw [← first]
    decide +kernel
  have stage : observed.driver.stage = .receive := by
    rw [← first]
    decide +kernel
  have state : observed.driver.state = .readBuf := by
    rw [← first]
    decide +kernel
  have queues : observed.driver.eventQueue = [] ∧ observed.driver.frameBufferQueue = [] := by
    rw [← first]
    decide +kernel
  have none : observed.driver.framePos :: observed.driver.held = [0] := by
    rw [← first]
    decide +kernel
  rcases @observe_bytes rawSetup rfl values observed running with ⟨frames, same⟩
  rw [List.foldl_append, first, same]
  rcases @finishRawFrame_spec { observed.driver with
      frames := frames
      transfer := { observed.driver.transfer with
        received := observed.driver.transfer.received ++ values } }
    (observed.sent ++ values) observed.signalled stage state queues.1 queues.2
    (by rw [received, List.nil_append, whole]) with ⟨finished, held⟩
  exact ⟨⟨⟨started, eachStep_bytes values observed⟩, finished⟩, held.trans none⟩

/-- A whole raw frame is received, sent and taken. -/
theorem taken_raw_frames_complete :
    ∃ values : List UInt8, values.length = 1920000 ∧
      ((takeWholeFrame values).foldl (observe rawSetup)
        (Observed.initial (fun _ _ => 0) fun _ => 0)).driver.held = [0] ∧
      Always (observe rawSetup) (fun observed =>
        ∀ x others, observed.driver.frameBufferQueue = x :: others →
          Complete rawSetup observed.sent ((camTake rawSetup observed.driver).frames x))
        (Observed.initial (fun _ _ => 0) fun _ => 0) (takeWholeFrame values) := by
  have whole : (List.replicate 1920000 (0x2A : UInt8)).length = 1920000 := List.length_replicate
  generalize List.replicate 1920000 (0x2A : UInt8) = values at whole
  rcases takeWholeFrame_spec whole with ⟨complete, held⟩
  exact ⟨values, whole, held,
    @taken_frames_complete rawSetup ⟨32768, by decide, by decide⟩ ⟨.raw, 16000000, 1⟩ 1600 1200
      ov2640Pid (by decide) (by decide) (by decide) rfl (by decide +kernel) (by decide) _ _ _
      complete⟩

end ECam.Camera
