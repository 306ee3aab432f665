import ECam.Camera.Lifecycle.Calls

/-!
# The DMA channel of the camera

The camera uses a channel that has no address, and gives it back without one.  If all channels
are in use, the object has no channel yet when it is released.
-/

namespace ECam.Camera.Lifecycle

open ECam.Library

variable {grants : Nat → Bool} {lastChannel : Nat} {attempt : Attempt} {system : System}

/-- The object uses the channel, if there is an object, and the channels are the given ones. -/
def OnChannel (x : Nat) (linked : Nat → Bool) (system : System) : Prop :=
  system.linked = linked ∧ ∀ cam, system.camObj = some cam → cam.dmaNum = x

variable {x : Nat} {linked : Nat → Bool}

theorem camAllocate_dmaNum (pool : Pool) (cam : CamObject) :
    (camAllocate grants attempt ⟨pool, cam⟩).2.cam.dmaNum = cam.dmaNum := by
  have one (slot : Slot) : Fallible.Keeps (fun work => work.cam.dmaNum = cam.dmaNum)
      (allocate grants slot) := by
    intro work same
    cases slot <;> exact same
  have copied (slot : Slot) : Fallible.Keeps (fun work => work.cam.dmaNum = cam.dmaNum)
      (allocateCopied grants attempt slot) := by
    unfold allocateCopied
    split
    next => exact fun _ same => same
    next => exact one slot
  have sizes : Fallible.Keeps (fun work => work.cam.dmaNum = cam.dmaNum)
      (computeSizes attempt) := fun _ same => same
  have frames : Fallible.Keeps (fun work => work.cam.dmaNum = cam.dmaNum)
      (allocateFrames grants attempt) := fun _ same => same
  have buffers : Fallible.Keeps (fun work => work.cam.dmaNum = cam.dmaNum)
      (allocateBuffers grants attempt) := fun _ same => same
  have task : Fallible.Keeps (fun work => work.cam.dmaNum = cam.dmaNum) (createTask grants) :=
    fun _ same => same
  have config := sizes.andThen (frames.andThen (buffers.andThen
    ((copied .dmaBuffer).andThen (copied .dma))))
  exact config.andThen ((one .eventQueue).andThen ((one .frameBufferQueue).andThen
    ((one .dmaIntrHandle).andThen ((one .camIntrHandle).andThen task)))) ⟨pool, cam⟩ rfl

theorem OnChannel.camDeinit (free : linked x = false) (on : OnChannel x linked system) :
    OnChannel x linked (camDeinit system).2 := by
  rcases system with ⟨pool, camObj, sState, channels⟩
  cases camObj with
  | none => exact on
  | some cam =>
      rcases on with ⟨rfl, channel⟩
      have same : cam.dmaNum = x := channel cam rfl
      refine ⟨?_, fun other set => by cases set⟩
      simp only [Lifecycle.camDeinit, same]
      rw [← free, Function.update_eq_self]

theorem OnChannel.camConfig (free : linked x = false) :
    Fallible.Keeps (OnChannel x linked) (camConfig grants attempt) := by
  rintro ⟨pool, camObj, sState, channels⟩ on
  cases camObj with
  | none => exact on
  | some cam =>
      have next : OnChannel x linked ⟨(camAllocate grants attempt ⟨pool, cam⟩).2.pool,
          some (camAllocate grants attempt ⟨pool, cam⟩).2.cam, sState, channels⟩ := by
        refine ⟨on.1, ?_⟩
        rintro _ ⟨⟩
        rw [camAllocate_dmaNum]
        exact on.2 cam rfl
      unfold Lifecycle.camConfig
      simp only
      split
      next => exact next
      next => exact next.camDeinit free

theorem OnChannel.cameraProbe :
    Fallible.Keeps (OnChannel x linked) (cameraProbe grants attempt) := by
  intro system on
  unfold Lifecycle.cameraProbe
  simp only
  split_ifs <;> exact on

/-- `cam_init` takes a free channel, if there is one. -/
theorem camInit_channel (free : ∃ x ≤ lastChannel, system.linked x = false) :
    (camInit grants lastChannel system).2.linked = system.linked ∧
      ((camInit grants lastChannel system).1 = 0 → ∃ x, system.linked x = false ∧
        OnChannel x system.linked (camInit grants lastChannel system).2) := by
  rcases system with ⟨pool, camObj, sState, linked⟩
  cases granted : (pool.acquire grants).1 with
  | none =>
      rw [camInit_refused granted]
      exact ⟨rfl, fun success => absurd success espErrNoMem_ne⟩
  | some object =>
      cases found : findChannel linked lastChannel with
      | none =>
          rcases free with ⟨x, inside, unused⟩
          have used : linked x = true := findChannel_eq_none_iff.mp found x inside
          exact absurd (used.symm.trans unused) (by decide)
      | some x =>
          rw [camInit_found granted found]
          refine ⟨rfl, fun _ => ⟨x, findChannel_free found, rfl, ?_⟩⟩
          rintro _ ⟨⟩
          rfl

/-- `esp_camera_init` leaves the channels alone if one of them is free.  Otherwise it fails, and
`cam_deinit` clears the address of the first channel, which belongs to somebody else: the object
has no channel yet and its `dma_num` is 0. -/
theorem missing_channel_clears_another (attempt : Attempt) :
    let result := espCameraInit grants lastChannel attempt system
    (grants system.pool.next = true → (∀ x ≤ lastChannel, system.linked x = true) →
      result.1 = espFail ∧ result.2.linked = Function.update system.linked 0 false) ∧
    ((∃ x ≤ lastChannel, system.linked x = false) → result.2.linked = system.linked) := by
  constructor
  · intro granted all
    rcases system with ⟨pool, camObj, sState, linked⟩
    have missing : findChannel linked lastChannel = none := findChannel_eq_none_iff.mpr all
    have requested : (pool.acquire grants).1 = some pool.next :=
      congrArg Prod.fst (if_pos granted)
    rw [espCameraInit, camInit_missing requested missing]
    exact ⟨rfl, rfl⟩
  · intro free
    rcases @camInit_channel grants _ _ free with ⟨same, chosen⟩
    unfold espCameraInit
    simp only
    split
    next => exact same
    next done =>
      rcases chosen (not_not.mp done) with ⟨x, unused, on⟩
      have test : Fallible.Keeps (OnChannel x system.linked) (checkJpeg attempt) :=
        fun _ on => on
      have size : Fallible.Keeps (OnChannel x system.linked) (setFrameSize attempt) :=
        fun _ on => on
      have config := @OnChannel.camConfig grants attempt _ _ unused
      have configured := (@OnChannel.cameraProbe grants attempt _ _).andThen
        (test.andThen (config.andThen size)) _ on
      split
      next => exact configured.1
      next => exact (configured.camDeinit unused).1

/-- All channels are in use, or the last one is not. -/
theorem missing_channel_clears_another_full :
    (espCameraInit (fun _ => true) 4 ⟨2, true, true, true, true, true, true, true⟩
        (.start fun _ => true)).2.linked = Function.update (fun _ => true) 0 false ∧
      (espCameraInit (fun _ => true) 4 ⟨2, true, true, true, true, true, true, true⟩
        (.start fun x => x != 4)).2.linked = fun x => x != 4 :=
  ⟨((@missing_channel_clears_another (fun _ => true) 4 (.start fun _ => true)
      ⟨2, true, true, true, true, true, true, true⟩).1 rfl fun _ _ => rfl).2,
    (@missing_channel_clears_another (fun _ => true) 4 (.start fun x => x != 4)
      ⟨2, true, true, true, true, true, true, true⟩).2 ⟨4, le_rfl, rfl⟩⟩

end ECam.Camera.Lifecycle
