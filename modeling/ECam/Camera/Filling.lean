import ECam.Camera.HeldFrames

/-!
# The frame that is being filled

A frame is filled from the moment the hardware was started for it to the moment its end is
handled.  In between the task waits for events and handles them, and only if it has not
become idle the frame is the one that will be sent.  What is known about the frame during
this time is kept by all other steps for the same reasons; this module states them once.
-/

namespace ECam.Camera

/-- Selects what is known while the task waits for or handles an event, with the number of
halves that are being handled, and what is known when it has just started the hardware. -/
def Stage.Reads (reading : Nat → Prop) (begun : Prop) : Stage → Prop
  | .receive | .handle .vsync => reading 0
  | .handle .inSucEof => reading 1
  | .started _ => begun
  | _ => True

theorem Stage.Reads.imp {reading reading' : Nat → Prop} {begun begun' : Prop} {stage : Stage}
    (reads : stage.Reads reading begun) (read : ∀ handled, reading handled → reading' handled)
    (begin : begun → begun') : stage.Reads reading' begun' := by
  cases stage with
  | receive => exact read 0 reads
  | handle event =>
      cases event with
      | inSucEof => exact read 1 reads
      | vsync => exact read 0 reads
  | started => exact begin reads
  | _ => trivial

/-- The frame, what was received for it and how much of it was handled are the same. -/
structure SameFrame (driver next : Driver) : Prop where
  cnt : next.cnt = driver.cnt
  framePos : next.framePos = driver.framePos
  transfer : next.transfer = driver.transfer
  frame : next.frame = driver.frame

/-- Reasons for which something is known about the frame. -/
structure FillRule (setup : Setup) (fill begun : Driver → Prop) : Prop where
  fill_same : ∀ {driver next}, SameFrame driver next → fill driver → fill next
  begun_same : ∀ {driver next}, SameFrame driver next → begun driver → begun next
  begun_stop : ∀ {driver : Driver}, begun driver → begun { driver.stop with state := .idle }
  fill_byte : ∀ {driver} value, fill driver → fill (storeByte setup value driver)
  begun_byte : ∀ {driver} value, begun driver → begun (storeByte setup value driver)
  start : ∀ {driver : Driver} origin, driver.frame.en = true → begun { driver with
    stage := .started origin
    transfer := ⟨true, driver.framePos, []⟩ }
  started : ∀ {driver next : Driver}, begun driver → next.transfer = driver.transfer →
    next.framePos = driver.framePos → next.cnt = 0 →
    next.frame = { driver.frame with len := 0 } → fill next
  copied : ∀ {driver}, fill driver → (camTaskEof setup driver).state = .readBuf →
    fill (camTaskEof setup driver)

/-- The frame is filled, and `fill` is known about it. -/
def Driver.Filling (fill begun : Driver → Prop) (driver : Driver) : Prop :=
  driver.stage.Reads (fun _ => driver.state = .readBuf → fill driver) (begun driver)

variable {setup : Setup} {driver : Driver} {fill begun : Driver → Prop}

theorem filling_task (rule : FillRule setup fill begun) (ownership : Ownership setup driver)
    (filling : driver.Filling fill begun) : (camTask setup driver).Filling fill begun := by
  have stage := ownership.stage
  unfold Driver.Filling at filling
  unfold camTask
  cases current : driver.stage with
  | receive =>
      rw [current] at filling
      simp only
      split
      next =>
        rw [Driver.Filling, current]
        exact filling
      next event events queued =>
        have same : SameFrame driver { driver with stage := .handle event, eventQueue := events } :=
          ⟨rfl, rfl, rfl, rfl⟩
        cases event with
        | inSucEof => exact fun state => rule.fill_same same (filling state)
        | vsync => exact fun state => rule.fill_same same (filling state)
  | handle event =>
      rw [current] at filling
      cases state : driver.state with
      | idle =>
          cases event with
          | inSucEof =>
              intro reading
              cases reading
          | vsync => trivial
      | readBuf =>
          cases event with
          | inSucEof =>
              simp only [Driver.Filling, camTaskEof_others.1]
              exact rule.copied (filling state)
          | vsync =>
              simp only [camTaskVsync, Driver.Filling]
              split
              next =>
                simp only
                split <;> trivial
              next => trivial
  | send | pop | next | push =>
      simp only [Driver.Filling]
      split <;> trivial
  | give popped => trivial
  | search origin x =>
      rw [current] at stage
      simp only [Driver.Filling]
      split
      next => split <;> trivial
      next =>
        intro reading
        cases origin with
        | idle =>
            simp only [reduceCtorEq, if_false] at reading
            rw [stage.2 rfl] at reading
            cases reading
        | readBuf => cases reading
  | start origin =>
      rw [current] at stage
      exact rule.start origin stage
  | started origin =>
      rw [current] at filling
      exact fun _ => rule.started filling rfl rfl rfl (Function.update_self _ _ _)

/-- The application does not touch the frame that is being filled. -/
theorem application_sameFrame {action : Action} (application : action.OfApplication)
    (ownership : Ownership setup driver) (enabled : driver.frame.en = true) :
    SameFrame driver (step setup driver action) := by
  have same := @application_sameTask setup driver action application
  have free : driver.framePos ∉ driver.owned := ownership.tracks.not_mem enabled
  simp only [Driver.owned, List.mem_append, not_or] at free
  have frame := @application_frames setup driver action application driver.framePos free.2.2
    (fun first => free.2.1 (List.mem_of_mem_head? first))
  exact ⟨same.cnt, same.framePos, same.transfer,
    (congrArg (step setup driver action).frames same.framePos).trans frame⟩

theorem filling_application (rule : FillRule setup fill begun) {action : Action}
    (application : action.OfApplication) (ownership : Ownership setup driver)
    (filling : driver.Filling fill begun) : (step setup driver action).Filling fill begun := by
  have same := @application_sameTask setup driver action application
  have stage := ownership.stage
  unfold Driver.Filling at filling ⊢
  rw [same.stage, same.state]
  have read : (driver.state = .idle ∨ driver.enabled driver.framePos = true) →
      (driver.state = .readBuf → fill driver) → driver.state = .readBuf →
      fill (step setup driver action) := by
    intro known reading state
    have enabled : driver.frame.en = true := by
      refine known.resolve_left ?_
      rw [state]
      exact fun idle => nomatch idle
    exact rule.fill_same (application_sameFrame application ownership enabled) (reading state)
  cases current : driver.stage with
  | receive =>
      rw [current] at filling stage
      exact read stage filling
  | handle event =>
      rw [current] at filling stage
      cases event with
      | inSucEof => exact read stage filling
      | vsync => exact read stage filling
  | started origin =>
      rw [current] at filling stage
      exact rule.begun_same (application_sameFrame application ownership stage) filling
  | _ => trivial

/-- What is known about the frame is kept by every step. -/
theorem filling_step (rule : FillRule setup fill begun) (ownership : Ownership setup driver)
    (filling : driver.Filling fill begun) (action : Action) :
    (step setup driver action).Filling fill begun := by
  cases action with
  | interrupt event =>
      simp only [step, llCamSendEvent]
      split
      next =>
        have same : SameFrame driver
            { driver with eventQueue := driver.eventQueue ++ [event] } := ⟨rfl, rfl, rfl, rfl⟩
        exact Stage.Reads.imp filling
          (fun _ reading state => rule.fill_same same (reading state)) (rule.begun_same same)
      next =>
        refine Stage.Reads.imp filling ?_ rule.begun_stop
        intro _ _ state
        cases state
  | task => exact filling_task rule ownership filling
  | byte value =>
      have same : (storeByte setup value driver).stage = driver.stage ∧
          (storeByte setup value driver).state = driver.state := by
        unfold storeByte
        split
        next =>
          simp only
          split <;> exact ⟨rfl, rfl⟩
        next => exact ⟨rfl, rfl⟩
      unfold Driver.Filling at filling ⊢
      rw [step, same.1, same.2]
      exact filling.imp (fun _ reading state => rule.fill_byte value (reading state))
        (rule.begun_byte value)
  | take | give | write => exact filling_application rule trivial ownership filling

theorem filling_initial (contents : Nat → Memory) (dmaBuffer : Memory) :
    (Driver.initial contents dmaBuffer).Filling fill begun := by
  intro reading
  cases reading

end ECam.Camera
