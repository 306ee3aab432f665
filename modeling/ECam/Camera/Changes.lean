import ECam.Camera.Ownership

/-!
# What a step changes

For each party, the parts of the state that its steps can change.  The proofs about runs of
the driver use these facts and do not look into the steps again.
-/

namespace ECam.Camera

variable {setup : Setup} {driver : Driver}

/-! ## The task -/

/-- How a step of the task changes the frames. -/
inductive TaskChange (setup : Setup) (driver next : Driver) : Prop where
  | unchanged (frames : next.frames = driver.frames)
  | copied (handling : driver.stage = .handle .inSucEof) (reading : driver.state = .readBuf)
      (room : setup.cam.psramMode = false ∧ ¬driver.Overflows setup)
      (frames : next.frames =
        Function.update driver.frames driver.framePos (driver.copyHalf setup))
  | finished (handling : driver.stage = .handle .vsync) (reading : driver.state = .readBuf)
      (frames : next.frames = Function.update driver.frames driver.framePos
        (finishFrame setup (lastHalf setup driver).1 (lastHalf setup driver).2))
  | enabled (x : Nat) (inFlight : x ∈ driver.inFlight)
      (frames : next.frames =
        Function.update driver.frames x { driver.frames x with en := true })
  | started (origin : CamState) (starting : driver.stage = .started origin)
      (frames : next.frames =
        Function.update driver.frames driver.framePos { driver.frame with len := 0 })

theorem camTaskEof_change (handling : driver.stage = .handle .inSucEof)
    (reading : driver.state = .readBuf) :
    TaskChange setup driver (camTaskEof setup driver) ∧
      (camTaskEof setup driver).held = driver.held ∧
      (camTaskEof setup driver).dmaBuffer = driver.dmaBuffer := by
  unfold camTaskEof
  split
  next => exact ⟨.unchanged rfl, rfl, rfl⟩
  next room =>
    cases psram : setup.cam.psramMode with
    | true =>
        have same : (driver.setFrame driver.framePos driver.frame).frames = driver.frames :=
          Function.update_eq_self driver.framePos driver.frames
        simp only [if_true]
        split
        next => exact ⟨.unchanged same, rfl, rfl⟩
        next => exact ⟨.unchanged same, rfl, rfl⟩
    | false =>
        have fits : ¬driver.Overflows setup := fun overflows => room ⟨psram, overflows⟩
        simp only [Bool.false_eq_true, if_false]
        split
        next => exact ⟨.copied handling reading ⟨psram, fits⟩ rfl, rfl, rfl⟩
        next => exact ⟨.copied handling reading ⟨psram, fits⟩ rfl, rfl, rfl⟩

theorem camTaskVsync_change (handling : driver.stage = .handle .vsync)
    (reading : driver.state = .readBuf) :
    TaskChange setup driver (camTaskVsync setup driver) ∧
      (camTaskVsync setup driver).held = driver.held ∧
      (camTaskVsync setup driver).dmaBuffer = driver.dmaBuffer := by
  unfold camTaskVsync
  split
  next => exact ⟨.finished handling reading rfl, rfl, rfl⟩
  next => exact ⟨.unchanged rfl, rfl, rfl⟩

theorem camTask_change :
    TaskChange setup driver (camTask setup driver) ∧
      (camTask setup driver).held = driver.held ∧
      (camTask setup driver).dmaBuffer = driver.dmaBuffer := by
  unfold camTask
  cases current : driver.stage with
  | receive =>
      simp only
      split
      next => exact ⟨.unchanged rfl, rfl, rfl⟩
      next => exact ⟨.unchanged rfl, rfl, rfl⟩
  | handle event =>
      cases reading : driver.state with
      | idle =>
          cases event with
          | inSucEof => exact ⟨.unchanged rfl, rfl, rfl⟩
          | vsync => exact ⟨.unchanged rfl, rfl, rfl⟩
      | readBuf =>
          cases event with
          | inSucEof => exact camTaskEof_change current reading
          | vsync => exact camTaskVsync_change current reading
  | send =>
      simp only
      split
      next => exact ⟨.unchanged rfl, rfl, rfl⟩
      next => exact ⟨.unchanged rfl, rfl, rfl⟩
  | pop =>
      have flying : driver.framePos ∈ driver.inFlight := by
        rw [Driver.inFlight, current]
        exact List.mem_singleton_self _
      simp only
      split
      next => exact ⟨.enabled driver.framePos flying rfl, rfl, rfl⟩
      next => exact ⟨.unchanged rfl, rfl, rfl⟩
  | push popped =>
      have flying : driver.framePos ∈ driver.inFlight := by
        rw [Driver.inFlight, current]
        exact List.mem_cons_self
      simp only
      split
      next => exact ⟨.unchanged rfl, rfl, rfl⟩
      next => exact ⟨.enabled driver.framePos flying rfl, rfl, rfl⟩
  | give popped =>
      have flying : popped ∈ driver.inFlight := by
        rw [Driver.inFlight, current]
        exact List.mem_singleton_self _
      simp only [camGive]
      split
      next => exact ⟨.enabled popped flying rfl, rfl, rfl⟩
      next => exact ⟨.unchanged rfl, rfl, rfl⟩
  | next origin =>
      simp only
      split
      next => exact ⟨.unchanged rfl, rfl, rfl⟩
      next => exact ⟨.unchanged rfl, rfl, rfl⟩
  | search origin x =>
      simp only
      split
      next =>
        split
        next => exact ⟨.unchanged rfl, rfl, rfl⟩
        next => exact ⟨.unchanged rfl, rfl, rfl⟩
      next => exact ⟨.unchanged rfl, rfl, rfl⟩
  | start origin => exact ⟨.unchanged rfl, rfl, rfl⟩
  | started origin => exact ⟨.started origin current rfl, rfl, rfl⟩

theorem camTaskEof_transfer :
    (camTaskEof setup driver).transfer = driver.transfer ∨
      (camTaskEof setup driver).transfer = { driver.transfer with running := false } := by
  unfold camTaskEof
  split
  next => exact Or.inr rfl
  next =>
    generalize (if setup.cam.psramMode then driver.frame else driver.copyHalf setup) = frame
    simp only
    split
    next => exact Or.inr rfl
    next => exact Or.inl rfl

/-- Handling a half buffer ends the iteration and does not touch the queues. -/
theorem camTaskEof_others :
    (camTaskEof setup driver).stage = .receive ∧
      (camTaskEof setup driver).framePos = driver.framePos ∧
      (camTaskEof setup driver).frameBufferQueue = driver.frameBufferQueue := by
  unfold camTaskEof
  split
  next => exact ⟨rfl, rfl, rfl⟩
  next =>
    generalize (if setup.cam.psramMode then driver.frame else driver.copyHalf setup) = frame
    simp only
    split
    next => exact ⟨rfl, rfl, rfl⟩
    next => exact ⟨rfl, rfl, rfl⟩

theorem camTaskVsync_others :
    (camTaskVsync setup driver).framePos = driver.framePos ∧
      (camTaskVsync setup driver).frameBufferQueue = driver.frameBufferQueue := by
  unfold camTaskVsync
  split
  next => exact ⟨rfl, rfl⟩
  next => exact ⟨rfl, rfl⟩

/-- The hardware is stopped, or started by a step at the stage for it. -/
theorem camTask_transfer :
    (camTask setup driver).transfer = driver.transfer ∨
      (camTask setup driver).transfer = { driver.transfer with running := false } ∨
      (∃ origin, driver.stage = .start origin) ∧
        (camTask setup driver).transfer = ⟨true, driver.framePos, []⟩ := by
  unfold camTask
  cases current : driver.stage with
  | receive =>
      simp only
      split
      next => exact Or.inl rfl
      next => exact Or.inl rfl
  | handle event =>
      cases driver.state with
      | idle => cases event <;> exact Or.inl rfl
      | readBuf =>
          cases event with
          | inSucEof =>
              rcases @camTaskEof_transfer setup driver with same | stopped
              · exact Or.inl same
              · exact Or.inr (Or.inl stopped)
          | vsync =>
              simp only [camTaskVsync]
              split
              next => exact Or.inr (Or.inl rfl)
              next => exact Or.inr (Or.inl rfl)
  | send | push =>
      simp only
      split
      next => exact Or.inl rfl
      next => exact Or.inl rfl
  | pop =>
      simp only
      split
      next => exact Or.inl rfl
      next => exact Or.inl rfl
  | give popped =>
      simp only [camGive]
      split
      next => exact Or.inl rfl
      next => exact Or.inl rfl
  | next origin =>
      simp only
      split
      next => exact Or.inl rfl
      next => exact Or.inl rfl
  | search origin x =>
      simp only
      split
      next =>
        split
        next => exact Or.inl rfl
        next => exact Or.inl rfl
      next => exact Or.inl rfl
  | start origin => exact Or.inr (Or.inr ⟨⟨origin, rfl⟩, rfl⟩)
  | started origin => exact Or.inl rfl

/-! ## Sending a frame -/

/-- The task is about to queue the frame at `frame_pos`. -/
def Driver.Sending (driver : Driver) : Prop :=
  match driver.stage with
  | .send | .pop | .push _ => True
  | _ => False

theorem mem_inFlight_of_sending (sending : driver.Sending) : driver.framePos ∈ driver.inFlight := by
  unfold Driver.Sending at sending
  unfold Driver.inFlight
  cases current : driver.stage with
  | send | pop | push => exact List.mem_cons_self
  | _ =>
      rw [current] at sending
      cases sending

/-- The task starts to send a frame when the frame has ended. -/
theorem camTask_sending (sending : (camTask setup driver).Sending) :
    (driver.Sending ∧ (camTask setup driver).framePos = driver.framePos ∧
      (camTask setup driver).frames = driver.frames) ∨
    (driver.stage = .handle .vsync ∧ driver.state = .readBuf ∧
      camTask setup driver = camTaskVsync setup driver) := by
  unfold camTask at sending ⊢
  cases current : driver.stage with
  | receive =>
      rw [current] at sending
      simp only at sending
      split at sending
      next => simp only [Driver.Sending, current] at sending
      next => cases sending
  | handle event =>
      rw [current] at sending
      cases state : driver.state with
      | idle =>
          rw [state] at sending
          cases event <;> cases sending
      | readBuf =>
          rw [state] at sending
          cases event with
          | inSucEof =>
              simp only [Driver.Sending, camTaskEof_others.1] at sending
          | vsync => exact Or.inr ⟨rfl, rfl, rfl⟩
  | send =>
      refine Or.inl ⟨by rw [Driver.Sending, current]; trivial, ?_⟩
      simp only
      split <;> exact ⟨rfl, rfl⟩
  | pop =>
      rw [current] at sending
      simp only at sending ⊢
      split at sending
      next => cases sending
      next => exact Or.inl ⟨by rw [Driver.Sending, current]; trivial, rfl, rfl⟩
  | push popped =>
      rw [current] at sending
      simp only at sending
      split at sending
      next => cases sending
      next => cases sending
  | give popped =>
      rw [current] at sending
      cases sending
  | next origin =>
      rw [current] at sending
      simp only at sending
      split at sending
      next => cases sending
      next => cases sending
  | search origin x =>
      rw [current] at sending
      simp only at sending
      split at sending
      next =>
        split at sending
        next => cases sending
        next => cases sending
      next => cases sending
  | start origin =>
      rw [current] at sending
      cases sending
  | started origin =>
      rw [current] at sending
      cases sending

/-- A frame enters the queue only by being sent. -/
theorem camTask_queue {x : Nat} (mem : x ∈ (camTask setup driver).frameBufferQueue) :
    x ∈ driver.frameBufferQueue ∨ (driver.Sending ∧ x = driver.framePos ∧
      (camTask setup driver).frames = driver.frames) := by
  unfold camTask at mem ⊢
  cases current : driver.stage with
  | receive =>
      rw [current] at mem
      simp only at mem
      split at mem
      next => exact Or.inl mem
      next => exact Or.inl mem
  | handle event =>
      rw [current] at mem
      cases state : driver.state with
      | idle =>
          rw [state] at mem
          cases event <;> exact Or.inl mem
      | readBuf =>
          rw [state] at mem
          cases event with
          | inSucEof =>
              simp only at mem
              rw [camTaskEof_others.2.2] at mem
              exact Or.inl mem
          | vsync =>
              simp only at mem
              rw [camTaskVsync_others.2] at mem
              exact Or.inl mem
  | send =>
      rw [current] at mem
      simp only at mem ⊢
      split at mem
      next room =>
        rcases List.mem_append.mp mem with before | new
        · exact Or.inl before
        · rw [if_pos room]
          exact Or.inr ⟨by rw [Driver.Sending, current]; trivial, List.mem_singleton.mp new, rfl⟩
      next => exact Or.inl mem
  | pop =>
      rw [current] at mem
      simp only at mem
      split at mem
      next => exact Or.inl mem
      next popped others queued =>
        rw [queued]
        exact Or.inl (List.mem_cons_of_mem _ mem)
  | push popped =>
      rw [current] at mem
      simp only at mem ⊢
      split at mem
      next room =>
        rcases List.mem_append.mp mem with before | new
        · exact Or.inl before
        · rw [if_pos room]
          exact Or.inr ⟨by rw [Driver.Sending, current]; trivial, List.mem_singleton.mp new, rfl⟩
      next => exact Or.inl mem
  | give popped =>
      rw [current] at mem
      simp only [camGive] at mem
      split at mem
      next => exact Or.inl mem
      next => exact Or.inl mem
  | next origin =>
      rw [current] at mem
      simp only at mem
      split at mem
      next => exact Or.inl mem
      next => exact Or.inl mem
  | search origin x =>
      rw [current] at mem
      simp only at mem
      split at mem
      next =>
        split at mem
        next => exact Or.inl mem
        next => exact Or.inl mem
      next => exact Or.inl mem
  | start origin =>
      rw [current] at mem
      exact Or.inl mem
  | started origin =>
      rw [current] at mem
      exact Or.inl mem

/-! ## The application -/

theorem camGive_frames {x y : Nat} (other : x ≠ y) :
    (camGive setup y driver).frames x = driver.frames x := by
  unfold camGive
  split
  next => exact Function.update_of_ne other _ _
  next => rfl

theorem camGive_held (y : Nat) : (camGive setup y driver).held = driver.held := by
  unfold camGive
  split <;> rfl

/-- Taking a frame only changes this frame, and adds it to those that are held. -/
theorem camTake_frames {x : Nat} (notFirst : driver.frameBufferQueue.head? ≠ some x) :
    (camTake setup driver).frames x = driver.frames x ∧
      driver.held ⊆ (camTake setup driver).held := by
  unfold camTake
  split
  next => exact ⟨rfl, List.Subset.refl _⟩
  next y others queued =>
    have other : x ≠ y := by
      rintro rfl
      rw [queued] at notFirst
      exact notFirst rfl
    have changed : ∀ frame, Function.update driver.frames y frame x = driver.frames x :=
      fun frame => Function.update_of_ne other frame driver.frames
    simp only
    split
    next =>
      split
      next => exact ⟨changed _, List.subset_cons_self y driver.held⟩
      next =>
        rw [camGive_frames other, camGive_held]
        exact ⟨rfl, List.Subset.refl _⟩
    next =>
      split
      next => exact ⟨changed _, List.subset_cons_self y driver.held⟩
      next => exact ⟨rfl, List.subset_cons_self y driver.held⟩

/-- What belongs to the task and the hardware is the same. -/
structure SameTask (driver next : Driver) : Prop where
  state : next.state = driver.state
  stage : next.stage = driver.stage
  cnt : next.cnt = driver.cnt
  framePos : next.framePos = driver.framePos
  dmaBuffer : next.dmaBuffer = driver.dmaBuffer
  eventQueue : next.eventQueue = driver.eventQueue
  transfer : next.transfer = driver.transfer

def Action.OfApplication : Action → Prop
  | .take | .give _ | .write _ _ _ => True
  | _ => False

/-- The others do not change what the application holds. -/
theorem held_of_not_application {action : Action} (other : ¬action.OfApplication) :
    (step setup driver action).held = driver.held := by
  cases action with
  | interrupt event =>
      simp only [step, llCamSendEvent]
      split <;> rfl
  | task => exact camTask_change.2.1
  | byte value =>
      simp only [step, storeByte]
      split
      next => split <;> rfl
      next => rfl
  | take | give | write => exact absurd trivial other

theorem application_sameTask {action : Action} (application : action.OfApplication) :
    SameTask driver (step setup driver action) := by
  have gives : ∀ x, SameTask driver (camGive setup x driver) := by
    intro x
    unfold camGive
    split
    next => exact ⟨rfl, rfl, rfl, rfl, rfl, rfl, rfl⟩
    next => exact ⟨rfl, rfl, rfl, rfl, rfl, rfl, rfl⟩
  cases action with
  | interrupt | task | byte => cases application
  | take =>
      simp only [step, camTake]
      split
      next => exact ⟨rfl, rfl, rfl, rfl, rfl, rfl, rfl⟩
      next x others queued =>
        split
        next =>
          split
          next => exact ⟨rfl, rfl, rfl, rfl, rfl, rfl, rfl⟩
          next =>
            unfold camGive
            split
            next => exact ⟨rfl, rfl, rfl, rfl, rfl, rfl, rfl⟩
            next => exact ⟨rfl, rfl, rfl, rfl, rfl, rfl, rfl⟩
        next =>
          split
          next => exact ⟨rfl, rfl, rfl, rfl, rfl, rfl, rfl⟩
          next => exact ⟨rfl, rfl, rfl, rfl, rfl, rfl, rfl⟩
  | give x =>
      simp only [step]
      split
      next =>
        have same := gives x
        exact ⟨same.state, same.stage, same.cnt, same.framePos, same.dmaBuffer, same.eventQueue,
          same.transfer⟩
      next => exact ⟨rfl, rfl, rfl, rfl, rfl, rfl, rfl⟩
  | write x index value =>
      simp only [step]
      split
      next => exact ⟨rfl, rfl, rfl, rfl, rfl, rfl, rfl⟩
      next => exact ⟨rfl, rfl, rfl, rfl, rfl, rfl, rfl⟩

/-- A frame that is neither held nor the first of the queue is left alone by the
application. -/
theorem application_frames {action : Action} (application : action.OfApplication) {x : Nat}
    (notHeld : x ∉ driver.held) (notFirst : driver.frameBufferQueue.head? ≠ some x) :
    (step setup driver action).frames x = driver.frames x := by
  cases action with
  | interrupt | task | byte => cases application
  | take => exact (camTake_frames notFirst).1
  | give y =>
      simp only [step]
      split
      next held => exact camGive_frames (ne_of_mem_of_not_mem held notHeld).symm
      next => rfl
  | write y index value =>
      simp only [step]
      split
      next held => exact Function.update_of_ne (ne_of_mem_of_not_mem held notHeld).symm _ _
      next => rfl

theorem application_queue {action : Action} (application : action.OfApplication) {x : Nat}
    (mem : x ∈ (step setup driver action).frameBufferQueue) :
    x ∈ driver.frameBufferQueue ∧ (action = .take → x ∈ driver.frameBufferQueue.tail) := by
  cases action with
  | interrupt | task | byte => cases application
  | take =>
      have tail : x ∈ driver.frameBufferQueue.tail := by
        simp only [step, camTake] at mem
        split at mem
        next empty =>
          rw [empty] at mem
          cases mem
        next y others queued =>
          rw [queued]
          split at mem
          next =>
            split at mem
            next => exact mem
            next =>
              unfold camGive at mem
              split at mem
              next => exact mem
              next => exact mem
          next =>
            split at mem
            next => exact mem
            next => exact mem
      exact ⟨List.mem_of_mem_tail tail, fun _ => tail⟩
  | give y =>
      constructor
      · simp only [step, camGive] at mem
        split at mem
        next =>
          split at mem
          next => exact mem
          next => exact mem
        next => exact mem
      · intro take
        cases take
  | write y index value =>
      constructor
      · simp only [step] at mem
        split at mem
        next => exact mem
        next => exact mem
      · intro take
        cases take

end ECam.Camera
