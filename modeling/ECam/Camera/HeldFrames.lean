import ECam.Camera.Changes

/-!
# Frames in the queue and frames that are held

The only frames that change are the one that is being filled and those that are enabled
again.  A frame that was sent is neither, so it keeps its length and its contents until the
application takes it, and then until the application itself changes it or gives it back.
-/

namespace ECam.Camera

open ECam.Library

variable {setup : Setup} {driver : Driver}

/-- While the task uses the frame at `frame_pos`, that frame is free. -/
theorem Ownership.enabled_of_reading (ownership : Ownership setup driver) {event : CamEvent}
    (handling : driver.stage = .handle event) (reading : driver.state = .readBuf) :
    (driver.frames driver.framePos).en = true := by
  have stage := ownership.stage
  rw [handling] at stage
  refine stage.resolve_left ?_
  rw [reading]
  exact fun idle => nomatch idle

/-- A frame that is owned but not on its way through the task is not touched by the task. -/
theorem camTask_frames (ownership : Ownership setup driver) {x : Nat}
    (disabled : (driver.frames x).en = false) (elsewhere : x ∉ driver.inFlight) :
    (camTask setup driver).frames x = driver.frames x := by
  have other : (driver.frames driver.framePos).en = true → x ≠ driver.framePos := by
    rintro enabled rfl
    rw [enabled] at disabled
    cases disabled
  cases (@camTask_change setup driver).1 with
  | unchanged frames => rw [frames]
  | copied handling reading room frames =>
      rw [frames, Function.update_of_ne (other (ownership.enabled_of_reading handling reading))]
  | finished handling reading frames =>
      rw [frames, Function.update_of_ne (other (ownership.enabled_of_reading handling reading))]
  | enabled y inFlight frames =>
      rw [frames, Function.update_of_ne (ne_of_mem_of_not_mem inFlight elsewhere).symm]
  | started origin starting frames =>
      have stage := ownership.stage
      rw [starting] at stage
      rw [frames, Function.update_of_ne (other stage)]

/-- The hardware does not touch owned frames. -/
theorem storeByte_frames (ownership : Ownership setup driver) {x : Nat}
    (disabled : (driver.frames x).en = false) (value : UInt8) :
    (storeByte setup value driver).frames x = driver.frames x := by
  unfold storeByte
  split
  next running =>
    rcases ownership.transfer running with ⟨target, enabled⟩
    have other : x ≠ driver.transfer.framePos := by
      rintro rfl
      rw [target] at disabled
      exact absurd (disabled.symm.trans enabled) (by decide)
    simp only
    split
    next => exact Function.update_of_ne other _ _
    next => rfl
  next => rfl

/-! ## Queued frames -/

/-- No step but taking it changes a frame that waits in the queue. -/
theorem queued_step (ownership : Ownership setup driver) {x : Nat}
    (queued : x ∈ driver.frameBufferQueue) {action : Action}
    (waiting : action = .take → driver.frameBufferQueue.head? ≠ some x) :
    (step setup driver action).frames x = driver.frames x := by
  have queuedOrHeld := List.mem_append_left driver.held queued
  have disabled := (ownership.of_mem (List.mem_append_right driver.inFlight queuedOrHeld)).2
  have nodup := List.nodup_append.mp ownership.tracks.nodup
  have notHeld : x ∉ driver.held :=
    fun held => (List.nodup_append.mp nodup.2.1).2.2 x queued x held rfl
  cases action with
  | interrupt event =>
      simp only [step, llCamSendEvent]
      split <;> rfl
  | task =>
      have elsewhere : x ∉ driver.inFlight := fun flying => nodup.2.2 x flying x queuedOrHeld rfl
      exact camTask_frames ownership disabled elsewhere
  | byte value => exact storeByte_frames ownership disabled value
  | take => exact (camTake_frames (waiting rfl)).1
  | give y =>
      simp only [step]
      split
      next held => exact camGive_frames (ne_of_mem_of_not_mem held notHeld).symm
      next => rfl
  | write y index value =>
      simp only [step]
      split
      next held => exact Function.update_of_ne (ne_of_mem_of_not_mem held notHeld).symm _ _
      next => rfl

/-- A property of the frames in the queue and of the one that will be there next. -/
def Driver.AllQueued (property : CamFrame → Prop) (driver : Driver) : Prop :=
  ∀ x, x ∈ driver.frameBufferQueue ∨ (driver.Sending ∧ x = driver.framePos) →
    property (driver.frames x)

theorem allQueued_task {property : CamFrame → Prop} (ownership : Ownership setup driver)
    (all : driver.AllQueued property)
    (sent : driver.stage = .handle .vsync → driver.state = .readBuf →
      (camTaskVsync setup driver).Sending →
        property ((camTaskVsync setup driver).frames driver.framePos)) :
    (camTask setup driver).AllQueued property := by
  rintro x (queued | ⟨sending, rfl⟩)
  · rcases camTask_queue queued with before | ⟨sending, rfl, frames⟩
    · have same := @queued_step setup driver ownership x before .task (fun take => nomatch take)
      exact same ▸ all x (Or.inl before)
    · rw [frames]
      exact all _ (Or.inr ⟨sending, rfl⟩)
  · rcases camTask_sending sending with ⟨before, framePos, frames⟩ | ⟨handling, reading, same⟩
    · rw [framePos, frames]
      exact all _ (Or.inr ⟨before, rfl⟩)
    · rw [same] at sending ⊢
      rw [camTaskVsync_others.1]
      exact sent handling reading sending

theorem allQueued_application {property : CamFrame → Prop} {action : Action}
    (application : action.OfApplication) (ownership : Ownership setup driver)
    (all : driver.AllQueued property) : (step setup driver action).AllQueued property := by
  have same := @application_sameTask setup driver action application
  have nodup := List.nodup_append.mp ownership.tracks.nodup
  have queueNodup := (List.nodup_append.mp nodup.2.1).1
  rintro x (queued | ⟨sending, rfl⟩)
  · rcases application_queue application queued with ⟨before, later⟩
    have waiting : action = .take → driver.frameBufferQueue.head? ≠ some x := by
      intro take first
      have rest := later take
      rw [List.head?_eq_some_iff] at first
      rcases first with ⟨others, queue⟩
      rw [queue] at rest queueNodup
      exact (List.nodup_cons.mp queueNodup).1 rest
    rw [queued_step ownership before waiting]
    exact all x (Or.inl before)
  · have sendingBefore : driver.Sending := by
      unfold Driver.Sending at sending ⊢
      rw [same.stage] at sending
      exact sending
    have flying := mem_inFlight_of_sending sendingBefore
    have elsewhere : driver.framePos ∉ driver.frameBufferQueue ++ driver.held :=
      fun other => nodup.2.2 _ flying _ other rfl
    rw [List.mem_append, not_or] at elsewhere
    have frame := @application_frames setup driver action application driver.framePos elsewhere.2
      (fun first => elsewhere.1 (List.mem_of_mem_head? first))
    rw [same.framePos, frame]
    exact all _ (Or.inr ⟨sendingBefore, rfl⟩)

/-- What holds of every frame when it is sent holds of every frame in the queue. -/
theorem allQueued_step {property : CamFrame → Prop} (ownership : Ownership setup driver)
    (all : driver.AllQueued property) (action : Action)
    (sent : action = .task → driver.stage = .handle .vsync → driver.state = .readBuf →
      (camTaskVsync setup driver).Sending →
        property ((camTaskVsync setup driver).frames driver.framePos)) :
    (step setup driver action).AllQueued property := by
  cases action with
  | interrupt event =>
      simp only [step, llCamSendEvent]
      split
      next => exact all
      next => exact all
  | task => exact allQueued_task ownership all (sent rfl)
  | byte value =>
      intro x place
      have same : x ∈ driver.frameBufferQueue ∨ (driver.Sending ∧ x = driver.framePos) := by
        simp only [step, storeByte] at place
        split at place
        next => split at place <;> exact place
        next => exact place
      have owned : x ∈ driver.owned := by
        rcases same with queued | ⟨sending, rfl⟩
        · exact List.mem_append_right _ (List.mem_append_left _ queued)
        · exact List.mem_append_left _ (mem_inFlight_of_sending sending)
      have frame := storeByte_frames ownership (ownership.of_mem owned).2 value
      exact frame ▸ all x same
  | take | give | write => exact allQueued_application trivial ownership all

/-! ## Frames that are held -/

/-- No step but giving it back or writing to it changes a frame that the application holds. -/
theorem held_step (ownership : Ownership setup driver) {x : Nat} (held : x ∈ driver.held)
    {action : Action} (kept : action ≠ .give x)
    (unwritten : ∀ index value, action ≠ .write x index value) :
    x ∈ (step setup driver action).held ∧
      (step setup driver action).frames x = driver.frames x := by
  have queuedOrHeld := List.mem_append_right driver.frameBufferQueue held
  have disabled := (ownership.of_mem (List.mem_append_right driver.inFlight queuedOrHeld)).2
  have nodup := List.nodup_append.mp ownership.tracks.nodup
  cases action with
  | interrupt event =>
      simp only [step, llCamSendEvent]
      split
      · exact ⟨held, rfl⟩
      · exact ⟨held, rfl⟩
  | task =>
      have elsewhere : x ∉ driver.inFlight := fun flying => nodup.2.2 x flying x queuedOrHeld rfl
      rw [held_of_not_application id]
      exact ⟨held, camTask_frames ownership disabled elsewhere⟩
  | byte value =>
      rw [held_of_not_application id]
      exact ⟨held, storeByte_frames ownership disabled value⟩
  | take =>
      have notQueued : x ∉ driver.frameBufferQueue :=
        fun queued => (List.nodup_append.mp nodup.2.1).2.2 x queued x held rfl
      rcases @camTake_frames setup driver x (fun first => notQueued (List.mem_of_mem_head? first))
        with ⟨frames, subset⟩
      exact ⟨subset held, frames⟩
  | give y =>
      have other : x ≠ y := fun same => kept (congrArg Action.give same.symm)
      simp only [step]
      split
      · exact ⟨(List.mem_erase_of_ne other).mpr held, camGive_frames other⟩
      · exact ⟨held, rfl⟩
  | write y index value =>
      have other : x ≠ y := fun same => unwritten index value (by rw [same])
      simp only [step]
      split
      · exact ⟨held, Function.update_of_ne other _ _⟩
      · exact ⟨held, rfl⟩

/-- A frame that the application has taken stays as it is until the application changes it
or gives it back, whatever the hardware, the interrupts and the task do in the meantime. -/
theorem held_frame_untouched (positive : 0 < setup.frameCnt) (contents : Nat → Memory)
    (dmaBuffer : Memory) (before after : List Action) (x : Nat)
    (held : x ∈ (before.foldl (step setup) (Driver.initial contents dmaBuffer)).held)
    (kept : Action.give x ∉ after)
    (unwritten : ∀ index value, Action.write x index value ∉ after) :
    x ∈ ((before ++ after).foldl (step setup) (Driver.initial contents dmaBuffer)).held ∧
      ((before ++ after).foldl (step setup) (Driver.initial contents dmaBuffer)).frames x =
        (before.foldl (step setup) (Driver.initial contents dmaBuffer)).frames x := by
  rw [List.foldl_append]
  have ownership := (ownership_always positive contents dmaBuffer before).last
  generalize before.foldl (step setup) (Driver.initial contents dmaBuffer) = driver
    at held ownership ⊢
  induction after generalizing driver with
  | nil => exact ⟨held, rfl⟩
  | cons action after ih =>
      rw [List.mem_cons, not_or] at kept
      rcases held_step ownership held (Ne.symm kept.1)
        (fun index value same => unwritten index value (same ▸ List.mem_cons_self)) with
        ⟨stillHeld, same⟩
      rw [List.foldl_cons, ← same]
      exact ih kept.2 (fun index value mem => unwritten index value (List.mem_cons_of_mem _ mem)) _
        stillHeld (ownership_step ownership action)

/-- The driver goes on after the frame was taken. -/
def missRawFrame : List Action :=
  [.interrupt .vsync, .task, .byte 7, .task, .task]

theorem held_raw_frame_untouched :
    0 ∈ ((takeRawFrame ++ missRawFrame).foldl (step rawSetup)
        (Driver.initial (fun _ _ => 0) (fun _ => 0))).held ∧
      ((takeRawFrame ++ missRawFrame).foldl (step rawSetup)
        (Driver.initial (fun _ _ => 0) (fun _ => 0))).frames 0 =
        (takeRawFrame.foldl (step rawSetup) (Driver.initial (fun _ _ => 0) (fun _ => 0))).frames
          0 :=
  held_frame_untouched (by decide) _ _ _ _ _ (by decide) (by decide) (by simp [missRawFrame])

end ECam.Camera
