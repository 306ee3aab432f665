import ECam.Camera.Driver
import ECam.Library.Ownership

/-!
# Who owns a frame

A frame is free, on its way through the task, in the queue or held by the application, and
its flag `en` says whether it is free.  This holds in every state of every run, for every
order of the steps of the hardware, the interrupts, the task and the application.
-/

namespace ECam.Camera

open ECam.Library

/-- The frames that the task has neither queued nor enabled yet. -/
def Driver.inFlight (driver : Driver) : List Nat :=
  match driver.stage with
  | .send | .pop => [driver.framePos]
  | .push popped => [driver.framePos, popped]
  | .give popped => [popped]
  | _ => []

/-- The frames that are not free. -/
def Driver.owned (driver : Driver) : List Nat :=
  driver.inFlight ++ (driver.frameBufferQueue ++ driver.held)

def Driver.enabled (driver : Driver) (x : Nat) : Bool :=
  (driver.frames x).en

/-- What the task knows at each stage: whether the hardware is stopped, the state is idle,
the frame at `frame_pos` is enabled and the queue has room. -/
def Stage.Valid (stopped idle enabled room : Prop) : Stage → Prop
  | .receive | .handle _ => idle ∨ enabled
  | .send | .pop | .give _ => stopped
  | .push _ => stopped ∧ room
  | .next origin => origin = .idle → idle
  | .search origin _ => stopped ∧ (origin = .idle → idle)
  | .start _ | .started _ => enabled

/-- Every frame has one place, and the hardware fills a free one. -/
structure Ownership (setup : Setup) (driver : Driver) : Prop where
  framePos : driver.framePos < setup.frameCnt
  tracks : Tracks setup.frameCnt driver.enabled driver.owned
  queue : driver.frameBufferQueue.length ≤ setup.frameBufferQueueLen
  transfer : driver.transfer.running = true →
    driver.transfer.framePos = driver.framePos ∧ driver.enabled driver.framePos = true
  stage : driver.stage.Valid (driver.transfer.running = false) (driver.state = .idle)
    (driver.enabled driver.framePos = true)
    (driver.frameBufferQueue.length < setup.frameBufferQueueLen)

/-- The others never take away what the task knows. -/
theorem Stage.Valid.imp {stopped idle enabled room stopped' idle' enabled' room' : Prop}
    {stage : Stage} (valid : stage.Valid stopped idle enabled room) (stop : stopped → stopped')
    (rest : idle → idle') (enable : enabled → enabled') (pop : room → room') :
    stage.Valid stopped' idle' enabled' room' := by
  cases stage with
  | receive | handle => exact Or.imp rest enable valid
  | send | pop | give => exact stop valid
  | push => exact ⟨stop valid.1, pop valid.2⟩
  | next => exact fun fromIdle => rest (valid fromIdle)
  | search => exact ⟨stop valid.1, fun fromIdle => rest (valid.2 fromIdle)⟩
  | start | started => exact enable valid

variable {setup : Setup} {driver : Driver}

theorem enabled_setFrame (x : Nat) (frame : CamFrame) :
    (driver.setFrame x frame).enabled = Function.update driver.enabled x frame.en := by
  funext y
  simp only [Driver.enabled, Driver.setFrame, Function.update_apply]
  split <;> rfl

/-- Changes of the length and of the contents do not show. -/
theorem enabled_setFrame_same {x : Nat} {frame : CamFrame}
    (same : frame.en = (driver.frames x).en) :
    (driver.setFrame x frame).enabled = driver.enabled := by
  rw [enabled_setFrame, same]
  exact Function.update_eq_self x driver.enabled

theorem enabled_enable (x : Nat) :
    (driver.enable x).enabled = Function.update driver.enabled x true :=
  enabled_setFrame x _

theorem enabled_update_of_enabled {enabled : Nat → Bool} {x y : Nat} (free : enabled y = true) :
    Function.update enabled x true y = true := by
  rw [Function.update_apply, free, ite_self]

theorem ownership_initial (positive : 0 < setup.frameCnt) (contents : Nat → Memory)
    (dmaBuffer : Memory) : Ownership setup (Driver.initial contents dmaBuffer) := by
  constructor
  · exact positive
  · exact Tracks.initially fun _ _ => rfl
  · exact Nat.zero_le _
  · intro running
    cases running
  · exact Or.inl rfl

/-- Changes of the length and of the contents do not matter. -/
theorem Ownership.setFrame (ownership : Ownership setup driver) {x : Nat} {frame : CamFrame}
    (same : frame.en = (driver.frames x).en) : Ownership setup (driver.setFrame x frame) := by
  have enabled := enabled_setFrame_same same
  constructor
  · exact ownership.framePos
  · rw [enabled]
    exact ownership.tracks
  · exact ownership.queue
  · rw [enabled]
    exact ownership.transfer
  · rw [enabled]
    exact ownership.stage

/-- An owned frame is inside and disabled. -/
theorem Ownership.of_mem (ownership : Ownership setup driver) {x : Nat} (mem : x ∈ driver.owned) :
    x < setup.frameCnt ∧ (driver.frames x).en = false :=
  (ownership.tracks.mem_iff x).mp mem

/-- A frame that somebody gives up is enabled. -/
theorem Ownership.release (ownership : Ownership setup driver) {next : Driver} {x : Nat}
    (enabled : next.enabled = Function.update driver.enabled x true)
    (given : driver.owned.Perm (x :: next.owned)) (framePos : next.framePos = driver.framePos)
    (transfer : next.transfer = driver.transfer)
    (queue : next.frameBufferQueue.length ≤ driver.frameBufferQueue.length)
    (stage : next.stage.Valid (next.transfer.running = false) (next.state = .idle)
      (next.enabled next.framePos = true)
      (next.frameBufferQueue.length < setup.frameBufferQueueLen)) :
    Ownership setup next := by
  constructor
  · rw [framePos]
    exact ownership.framePos
  · rw [enabled]
    exact (ownership.tracks.perm given).release
  · exact le_trans queue ownership.queue
  · rw [transfer, framePos, enabled]
    intro running
    rcases ownership.transfer running with ⟨target, free⟩
    exact ⟨target, enabled_update_of_enabled free⟩
  · exact stage

/-! ## The hardware and the interrupts -/

theorem ownership_llCamSendEvent (ownership : Ownership setup driver) (event : CamEvent) :
    Ownership setup (llCamSendEvent setup event driver) := by
  unfold llCamSendEvent
  split
  · exact ⟨ownership.framePos, ownership.tracks, ownership.queue, ownership.transfer,
      ownership.stage⟩
  · refine ⟨ownership.framePos, ownership.tracks, ownership.queue, ?_, ?_⟩
    · intro running
      cases running
    · exact ownership.stage.imp (fun _ => rfl) (fun _ => rfl) id id

theorem ownership_storeByte (ownership : Ownership setup driver) (value : UInt8) :
    Ownership setup (storeByte setup value driver) := by
  unfold storeByte
  split
  next running =>
    have stored : Ownership setup { driver with
        transfer := { driver.transfer with received := driver.transfer.received ++ [value] } } :=
      ⟨ownership.framePos, ownership.tracks, ownership.queue, ownership.transfer,
        ownership.stage⟩
    simp only
    split
    next => exact stored.setFrame rfl
    next => exact ⟨stored.framePos, stored.tracks, stored.queue, stored.transfer, stored.stage⟩
  next => exact ownership

/-! ## The application -/

theorem ownership_camTake (ownership : Ownership setup driver) :
    Ownership setup (camTake setup driver) := by
  unfold camTake
  split
  next => exact ownership
  next x others queued =>
    have first : driver.owned.Perm (x :: (driver.inFlight ++ (others ++ driver.held))) := by
      rw [Driver.owned, queued, List.cons_append]
      exact List.perm_middle
    have shorter : others.length ≤ driver.frameBufferQueue.length := by
      rw [queued]
      exact Nat.le_succ _
    have room := ownership.queue
    have taken : Ownership setup { driver with
        frameBufferQueue := others
        held := x :: driver.held } := by
      refine ⟨ownership.framePos, ownership.tracks.perm (first.trans ?_), by simp only; omega,
        ownership.transfer, ownership.stage.imp id id id (by simp only; omega)⟩
      exact ((List.perm_middle.append_left _).trans List.perm_middle).symm
    simp only
    split
    next =>
      split
      next => exact taken.setFrame rfl
      next =>
        have inside : x < setup.frameCnt :=
          (ownership.of_mem (first.mem_iff.mpr (List.mem_cons_self))).1
        rw [camGive, if_pos inside]
        refine ownership.release (enabled_enable x) first rfl rfl shorter ?_
        refine ownership.stage.imp id id ?_ (fun room => lt_of_le_of_lt shorter room)
        rw [enabled_enable]
        exact enabled_update_of_enabled
    next =>
      split
      next => exact taken.setFrame rfl
      next => exact taken

theorem ownership_give (ownership : Ownership setup driver) (x : Nat) :
    Ownership setup (step setup driver (.give x)) := by
  unfold step
  simp only
  split
  next held =>
    have given : driver.owned.Perm
        (x :: (driver.inFlight ++ (driver.frameBufferQueue ++ driver.held.erase x))) := by
      have first := ((List.perm_cons_erase held).append_left driver.frameBufferQueue).trans
        List.perm_middle
      exact (first.append_left driver.inFlight).trans List.perm_middle
    have inside := (ownership.of_mem (given.mem_iff.mpr List.mem_cons_self)).1
    rw [camGive, if_pos inside]
    refine ownership.release (enabled_enable x) given rfl rfl le_rfl ?_
    refine ownership.stage.imp id id ?_ id
    intro free
    exact (congrFun (enabled_enable x) driver.framePos).trans (enabled_update_of_enabled free)
  next => exact ownership

theorem ownership_write (ownership : Ownership setup driver) (x index : Nat) (value : UInt8) :
    Ownership setup (step setup driver (.write x index value)) := by
  unfold step
  simp only
  split
  next => exact ownership.setFrame rfl
  next => exact ownership

/-! ## The task -/

theorem ownership_camTaskEof (ownership : Ownership setup driver) {event : CamEvent}
    (handling : driver.stage = .handle event) (enabled : driver.enabled driver.framePos = true) :
    Ownership setup (camTaskEof setup driver) := by
  have nothing : driver.inFlight = [] := by rw [Driver.inFlight, handling]
  have tracks := ownership.tracks
  rw [Driver.owned, nothing] at tracks
  have stopped : Ownership setup { driver.stop with stage := .receive } :=
    ⟨ownership.framePos, tracks, ownership.queue, (fun running => nomatch running),
      Or.inr enabled⟩
  have running : Ownership setup { driver with stage := .receive, cnt := driver.cnt + 1 } :=
    ⟨ownership.framePos, tracks, ownership.queue, ownership.transfer, Or.inr enabled⟩
  unfold camTaskEof
  split
  next => exact stopped
  next =>
    have same : (if setup.cam.psramMode then driver.frame else driver.copyHalf setup).en =
        driver.frame.en := by
      split <;> rfl
    generalize (if setup.cam.psramMode then driver.frame else driver.copyHalf setup) = frame
      at same
    have copied := running.setFrame same
    simp only
    split
    next =>
      exact ⟨copied.framePos, copied.tracks, copied.queue, (fun running => nomatch running),
        Or.inl rfl⟩
    next => exact copied

theorem ownership_camTaskVsync (ownership : Ownership setup driver) {event : CamEvent}
    (handling : driver.stage = .handle event) (enabled : driver.enabled driver.framePos = true) :
    Ownership setup (camTaskVsync setup driver) := by
  have nothing : driver.inFlight = [] := by rw [Driver.inFlight, handling]
  have tracks := ownership.tracks
  rw [Driver.owned, nothing] at tracks
  unfold camTaskVsync
  split
  next =>
    simp only
    generalize (lastHalf setup driver).2 = cnt
    generalize finishFrame setup (lastHalf setup driver).1 cnt = frame
    have flags := @enabled_setFrame driver.stop driver.framePos frame
    cases en : frame.en with
    | true =>
        have same : (driver.stop.setFrame driver.framePos frame).enabled = driver.enabled :=
          enabled_setFrame_same (en.trans enabled.symm)
        simp only [if_true]
        refine ⟨ownership.framePos, ?_, ownership.queue, (fun running => nomatch running),
          (fun idle => nomatch idle)⟩
        exact same.symm ▸ tracks
    | false =>
        simp only [Bool.false_eq_true, if_false]
        refine ⟨ownership.framePos, ?_, ownership.queue, (fun running => nomatch running), rfl⟩
        rw [en] at flags
        exact flags.symm ▸ tracks.acquire ownership.framePos enabled
  next =>
    exact ⟨ownership.framePos, tracks, ownership.queue, (fun running => nomatch running),
      (fun idle => nomatch idle)⟩

theorem ownership_camTask (ownership : Ownership setup driver) :
    Ownership setup (camTask setup driver) := by
  have tracks := ownership.tracks
  have stage := ownership.stage
  rw [Driver.owned, Driver.inFlight] at tracks
  unfold camTask
  cases current : driver.stage with
  | receive =>
      rw [current] at tracks stage
      simp only
      split
      next => exact ownership
      next => exact ⟨ownership.framePos, tracks, ownership.queue, ownership.transfer, stage⟩
  | handle event =>
      rw [current] at tracks stage
      cases state : driver.state with
      | idle =>
          cases event with
          | inSucEof =>
              exact ⟨ownership.framePos, tracks, ownership.queue, ownership.transfer,
                Or.inl rfl⟩
          | vsync =>
              exact ⟨ownership.framePos, tracks, ownership.queue, ownership.transfer,
                fun _ => rfl⟩
      | readBuf =>
          have enabled : driver.enabled driver.framePos = true := by
            refine stage.resolve_left ?_
            rw [state]
            exact fun idle => nomatch idle
          cases event with
          | inSucEof => exact ownership_camTaskEof ownership current enabled
          | vsync => exact ownership_camTaskVsync ownership current enabled
  | send =>
      rw [current] at tracks stage
      simp only
      split
      next room =>
        refine ⟨ownership.framePos, tracks.perm ?_, ?_, ownership.transfer,
          (fun idle => nomatch idle)⟩
        · simp only [Driver.owned, Driver.inFlight, List.nil_append, List.append_assoc,
            List.cons_append]
          exact List.perm_middle.symm
        · rw [List.length_append]
          exact room
      next => exact ⟨ownership.framePos, tracks, ownership.queue, ownership.transfer, stage⟩
  | pop =>
      rw [current] at tracks stage
      simp only
      split
      next empty =>
        refine ownership.release (enabled_enable _) ?_ rfl rfl le_rfl (fun idle => nomatch idle)
        rw [Driver.owned, Driver.inFlight, current]
        rfl
      next popped others queued =>
        have room := ownership.queue
        rw [queued, List.length_cons] at room
        rw [queued] at tracks
        refine ⟨ownership.framePos, ?_, Nat.le_of_succ_le room, ownership.transfer,
          ⟨stage, room⟩⟩
        exact tracks
  | push popped =>
      rw [current] at tracks stage
      simp only
      rw [if_pos stage.2]
      refine ⟨ownership.framePos, tracks.perm ?_, ?_, ownership.transfer, stage.1⟩
      · simp only [Driver.owned, Driver.inFlight, List.append_assoc, List.cons_append,
          List.nil_append]
        exact (@List.perm_middle Nat driver.framePos (popped :: driver.frameBufferQueue) _).symm
      · rw [List.length_append]
        exact stage.2
  | give popped =>
      rw [current] at tracks stage
      have inside := ((tracks.mem_iff popped).mp List.mem_cons_self).1
      simp only
      rw [camGive, if_pos inside]
      refine ownership.release (enabled_enable _) ?_ rfl rfl le_rfl (fun idle => nomatch idle)
      rw [Driver.owned, Driver.inFlight, current]
      rfl
  | next origin =>
      rw [current] at tracks stage
      simp only
      split
      next enabled =>
        exact ⟨ownership.framePos, tracks, ownership.queue, ownership.transfer, enabled⟩
      next disabled =>
        have stopped : driver.transfer.running = false := by
          by_contra running
          exact disabled (ownership.transfer (Bool.eq_true_of_not_eq_false running)).2
        exact ⟨ownership.framePos, tracks, ownership.queue, ownership.transfer,
          ⟨stopped, stage⟩⟩
  | search origin x =>
      rw [current] at tracks stage
      simp only
      split
      next inside =>
        split
        next enabled =>
          refine ⟨inside, tracks, ownership.queue, ?_, enabled⟩
          intro running
          rw [stage.1] at running
          cases running
        next =>
          exact ⟨ownership.framePos, tracks, ownership.queue, ownership.transfer, stage⟩
      next =>
        refine ⟨ownership.framePos, tracks, ownership.queue, ownership.transfer, Or.inl ?_⟩
        cases origin with
        | idle => exact stage.2 rfl
        | readBuf => rfl
  | start origin =>
      rw [current] at tracks stage
      exact ⟨ownership.framePos, tracks, ownership.queue, fun _ => ⟨rfl, stage⟩, stage⟩
  | started origin =>
      rw [current] at tracks stage
      have begun : Ownership setup { driver with
          stage := .receive
          cnt := 0
          state := if origin = .idle then .readBuf else driver.state } :=
        ⟨ownership.framePos, tracks, ownership.queue, ownership.transfer, Or.inr stage⟩
      exact begun.setFrame rfl

/-- Every step of every party keeps the ownership. -/
theorem ownership_step (ownership : Ownership setup driver) (action : Action) :
    Ownership setup (step setup driver action) := by
  cases action with
  | interrupt event => exact ownership_llCamSendEvent ownership event
  | task => exact ownership_camTask ownership
  | byte value => exact ownership_storeByte ownership value
  | take => exact ownership_camTake ownership
  | give x => exact ownership_give ownership x
  | write x index value => exact ownership_write ownership x index value

theorem ownership_always (positive : 0 < setup.frameCnt) (contents : Nat → Memory)
    (dmaBuffer : Memory) (actions : List Action) :
    Always (step setup) (Ownership setup) (Driver.initial contents dmaBuffer) actions := by
  apply Always.of_invariant
  · exact fun _ action ownership => ownership_step ownership action
  · exact ownership_initial positive contents dmaBuffer

/-- Each frame is either enabled, and nobody has it, or it is in exactly one place.  The
queue is never longer than it may be, there is room for the new frame after an old one was
popped (so `FBQ-SND` is never reported), and the hardware only fills a frame that nobody
has. -/
theorem frames_accounted_always (positive : 0 < setup.frameCnt) (contents : Nat → Memory)
    (dmaBuffer : Memory) (actions : List Action) :
    Always (step setup) (fun driver =>
      (∀ x, x < setup.frameCnt →
        driver.owned.count x = if (driver.frames x).en then 0 else 1) ∧
      driver.frameBufferQueue.length ≤ setup.frameBufferQueueLen ∧
      (∀ popped, driver.stage = .push popped →
        driver.frameBufferQueue.length < setup.frameBufferQueueLen) ∧
      (driver.transfer.running = true →
        driver.transfer.framePos < setup.frameCnt ∧ driver.transfer.framePos ∉ driver.owned))
      (Driver.initial contents dmaBuffer) actions := by
  refine Always.imp ?_ (ownership_always positive contents dmaBuffer actions)
  intro driver ownership
  refine ⟨?_, ownership.queue, ?_, ?_⟩
  · intro x inside
    split
    next enabled => exact List.count_eq_zero.mpr (ownership.tracks.not_mem enabled)
    next disabled =>
      have owned : x ∈ driver.owned :=
        (ownership.tracks.mem_iff x).mpr ⟨inside, Bool.eq_false_of_not_eq_true disabled⟩
      exact List.count_eq_one_of_mem ownership.tracks.nodup owned
  · intro popped pushing
    have stage := ownership.stage
    rw [pushing] at stage
    exact stage.2
  · intro running
    rcases ownership.transfer running with ⟨target, enabled⟩
    rw [target]
    exact ⟨ownership.framePos, ownership.tracks.not_mem enabled⟩

/-- Raw frames: the only frame is started, received, sent and taken. -/
def takeRawFrame : List Action :=
  [.interrupt .vsync, .task, .task, .task, .task, .task, .byte 0x2A, .interrupt .vsync, .task,
    .task, .task, .take]

theorem frames_accounted_raw :
    Always (step rawSetup) (fun driver =>
      (∀ x, x < rawSetup.frameCnt →
        driver.owned.count x = if (driver.frames x).en then 0 else 1) ∧
      driver.frameBufferQueue.length ≤ rawSetup.frameBufferQueueLen ∧
      (∀ popped, driver.stage = .push popped →
        driver.frameBufferQueue.length < rawSetup.frameBufferQueueLen) ∧
      (driver.transfer.running = true →
        driver.transfer.framePos < rawSetup.frameCnt ∧ driver.transfer.framePos ∉ driver.owned))
      (Driver.initial (fun _ _ => 0) (fun _ => 0)) takeRawFrame :=
  frames_accounted_always (by decide) _ _ _

end ECam.Camera
