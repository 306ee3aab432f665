import ECam.Camera.HeldFrames
import ECam.QrPosing.Candidates

/-!
# From the camera to the detector

Two tasks stand between the driver and the detector: one takes frames from the driver and
puts them into a queue, the other receives them, processes them and gives them back to the
driver.  They run beside the task of the driver, the interrupts and the hardware.

Whatever the order of their steps is, the log of the detector is the one of the sequential
task on the frames that the driver has delivered, in their order, and the first task never
waits for the queue.
-/

namespace ECam.QrPosing

open ECam.Library
open ECam.Camera

/-- `OFrame`: the contents of a frame as words, little-endian. -/
def oFrame (buf : Memory) : Frame :=
  Vector.ofFn fun index =>
    (buf (2 * index.val)).toUInt16 ||| (buf (2 * index.val + 1)).toUInt16 <<< 8

/-- Where the task of the detector is. -/
inductive DetectorStage where
  | waiting
  | received (x : Nat)
  | processed (x : Nat)
  deriving DecidableEq, Repr

/-- The driver and both tasks.  `taken` are the words of the frames when they were taken, and
`done` those of the frames that were processed. -/
structure Pipeline where
  driver : Driver
  frame : Option Nat
  xQueueCAMFrame : List Nat
  stage : DetectorStage
  task : TaskState
  log : List FrameLog
  taken : List Frame
  done : List Frame

/-- Steps of the driver, the interrupts and the hardware, and of both tasks. -/
inductive PipelineAction where
  | interrupt (event : CamEvent)
  | camTask
  | byte (value : UInt8)
  | take
  | send
  | receive
  | process
  | giveBack
  deriving DecidableEq, Repr

/-- The length of `xQueueCAMFrame`. -/
def camFrameQueueLen : Nat := 2

/-- The frame that `cam_take` returns. -/
def takenFrame (setup : Setup) (driver : Driver) : Option Nat :=
  match driver.frameBufferQueue with
  | [] => none
  | x :: _ =>
      if setup.cam.jpegMode then
        (camVerifyJpegEoi (driver.frames x).buf (driver.frames x).len).map fun _ => x
      else
        some x

variable (setup : Setup) (scan : Frame → Option String) (settings : Settings)

/-- One step.  Sending waits for room in the queue; there is no queue behind the detector, so
it gives the frame back to the driver. -/
def pipelineStep (pipeline : Pipeline) : PipelineAction → Pipeline
  | .interrupt event =>
      { pipeline with driver := step setup pipeline.driver (.interrupt event) }
  | .camTask => { pipeline with driver := step setup pipeline.driver .task }
  | .byte value => { pipeline with driver := step setup pipeline.driver (.byte value) }
  | .take =>
      match pipeline.frame, takenFrame setup pipeline.driver with
      | some _, _ => pipeline
      | none, none => { pipeline with driver := step setup pipeline.driver .take }
      | none, some x =>
          let driver := step setup pipeline.driver .take
          { pipeline with
            driver := driver
            frame := some x
            taken := pipeline.taken ++ [oFrame (driver.frames x).buf] }
  | .send =>
      match pipeline.frame with
      | none => pipeline
      | some x =>
          if pipeline.xQueueCAMFrame.length < camFrameQueueLen then
            { pipeline with frame := none, xQueueCAMFrame := pipeline.xQueueCAMFrame ++ [x] }
          else
            pipeline
  | .receive =>
      match pipeline.stage, pipeline.xQueueCAMFrame with
      | .waiting, x :: others => { pipeline with stage := .received x, xQueueCAMFrame := others }
      | _, _ => pipeline
  | .process =>
      match pipeline.stage with
      | .received x =>
          let words := oFrame (pipeline.driver.frames x).buf
          let processed := processFrame scan settings pipeline.task words
          { pipeline with
            stage := .processed x
            task := processed.1
            log := pipeline.log ++ [processed.2]
            done := pipeline.done ++ [words] }
      | _ => pipeline
  | .giveBack =>
      match pipeline.stage with
      | .processed x =>
          { pipeline with
            driver := step setup pipeline.driver (.give x)
            stage := .waiting }
      | _ => pipeline

/-- The start of `app_main`. -/
def Pipeline.initial (contents : Nat → Memory) (dmaBuffer : Memory) (task : TaskState) :
    Pipeline where
  driver := Driver.initial contents dmaBuffer
  frame := none
  xQueueCAMFrame := []
  stage := .waiting
  task := task
  log := []
  taken := []
  done := []

/-! ## The sequential task -/

variable {scan settings}

/-- The state of the task after a sequence of frames. -/
def taskAfter (scan : Frame → Option String) (settings : Settings) (state : TaskState)
    (frames : List Frame) : TaskState :=
  frames.foldl (fun state frame => (processFrame scan settings state frame).1) state

theorem taskProcessHandler_append (state : TaskState) (frames : List Frame) (frame : Frame) :
    taskProcessHandler scan settings state (frames ++ [frame]) =
      taskProcessHandler scan settings state frames ++
        [(processFrame scan settings (taskAfter scan settings state frames) frame).2] := by
  induction frames generalizing state with
  | nil => rfl
  | cons first frames ih =>
      rw [List.cons_append, taskProcessHandler, taskProcessHandler, ih, taskAfter, taskAfter,
        List.foldl_cons, List.cons_append]

theorem taskAfter_append (state : TaskState) (frames : List Frame) (frame : Frame) :
    taskAfter scan settings state (frames ++ [frame]) =
      (processFrame scan settings (taskAfter scan settings state frames) frame).1 := by
  rw [taskAfter, List.foldl_append, List.foldl_cons, List.foldl_nil, taskAfter]

/-! ## The invariant -/

/-- The frame that the detector has received and not processed yet. -/
def DetectorStage.unprocessed : DetectorStage → List Nat
  | .received x => [x]
  | _ => []

/-- The frame that the detector has processed and not given back yet. -/
def DetectorStage.unreturned : DetectorStage → List Nat
  | .processed x => [x]
  | _ => []

/-- The frames that are taken and not processed yet, the oldest first. -/
def Pipeline.pending (pipeline : Pipeline) : List Nat :=
  pipeline.stage.unprocessed ++ (pipeline.xQueueCAMFrame ++ pipeline.frame.toList)

/-- The tasks hold what the driver takes for held, the contents of the pending frames are
those that were taken, and the detector has done what the sequential task does. -/
structure Flows (setup : Setup) (scan : Frame → Option String) (settings : Settings)
    (start : TaskState) (pipeline : Pipeline) : Prop where
  ownership : Ownership setup pipeline.driver
  held : pipeline.driver.held.Perm (pipeline.stage.unreturned ++ pipeline.pending)
  taken : pipeline.taken = pipeline.done ++
    pipeline.pending.map fun x => oFrame (pipeline.driver.frames x).buf
  task : pipeline.task = taskAfter scan settings start pipeline.done
  log : pipeline.log = taskProcessHandler scan settings start pipeline.done

variable {setup} {pipeline : Pipeline} {start : TaskState}

theorem Flows.pending_held (flows : Flows setup scan settings start pipeline) {x : Nat}
    (pending : x ∈ pipeline.pending) : x ∈ pipeline.driver.held :=
  flows.held.mem_iff.mpr (List.mem_append_right _ pending)

/-- The words of pending frames after a step that leaves these frames alone. -/
theorem Flows.words {driver : Driver} (same : ∀ x ∈ pipeline.pending,
    driver.frames x = pipeline.driver.frames x) :
    (pipeline.pending.map fun x => oFrame (driver.frames x).buf) =
      pipeline.pending.map fun x => oFrame (pipeline.driver.frames x).buf := by
  refine List.map_congr_left ?_
  intro x pending
  simp only [same x pending]

/-- A step of another party leaves the held frames alone. -/
theorem Flows.of_driver (flows : Flows setup scan settings start pipeline) {action : Action}
    (other : ¬action.OfApplication) :
    Flows setup scan settings start
      { pipeline with driver := step setup pipeline.driver action } := by
  have same : ∀ x ∈ pipeline.pending,
      (step setup pipeline.driver action).frames x = pipeline.driver.frames x := by
    intro x pending
    refine (held_step flows.ownership (flows.pending_held pending) ?_ ?_).2
    · rintro rfl
      exact other trivial
    · rintro index value rfl
      exact other trivial
  refine ⟨ownership_step flows.ownership action, ?_, ?_, flows.task, flows.log⟩
  · simp only [held_of_not_application other]
    exact flows.held
  · rw [flows.taken, ← Flows.words same]
    rfl

theorem camTake_held_of_takenFrame (setup : Setup) (driver : Driver) :
    (step setup driver .take).held = (takenFrame setup driver).toList ++ driver.held := by
  cases queued : driver.frameBufferQueue with
  | nil =>
      simp only [step, camTake, takenFrame, queued]
      rfl
  | cons x others =>
      cases jpeg : setup.cam.jpegMode with
      | true =>
          cases found : camVerifyJpegEoi (driver.frames x).buf (driver.frames x).len with
          | none =>
              simp only [step, camTake, takenFrame, queued, jpeg, if_true, found, camGive_held]
              rfl
          | some offset =>
              simp only [step, camTake, takenFrame, queued, jpeg, if_true, found]
              rfl
      | false =>
          simp only [step, camTake, takenFrame, queued, jpeg, Bool.false_eq_true, if_false]
          split <;> rfl

theorem Flows.of_take (flows : Flows setup scan settings start pipeline) :
    Flows setup scan settings start (pipelineStep setup scan settings pipeline .take) := by
  have same : ∀ x ∈ pipeline.pending,
      (step setup pipeline.driver .take).frames x = pipeline.driver.frames x := by
    intro x pending
    exact (@held_step setup pipeline.driver flows.ownership x (flows.pending_held pending) .take
      (fun give => nomatch give) (fun index value write => nomatch write)).2
  have words := Flows.words same
  have holding := flows.held
  have taken := flows.taken
  have held := camTake_held_of_takenFrame setup pipeline.driver
  have ownership := ownership_step flows.ownership .take
  unfold pipelineStep
  cases free : pipeline.frame with
  | some y => exact flows
  | none =>
      have before : pipeline.pending = pipeline.stage.unprocessed ++ pipeline.xQueueCAMFrame := by
        rw [Pipeline.pending, free, Option.toList_none, List.append_nil]
      rw [before] at words holding taken
      cases found : takenFrame setup pipeline.driver with
      | none =>
          rw [found, Option.toList_none, List.nil_append] at held
          simp only
          refine ⟨ownership, ?_, ?_, flows.task, flows.log⟩
          · simp only [held, Pipeline.pending, Option.toList_none, List.append_nil]
            exact holding
          · simp only [Pipeline.pending, Option.toList_none, List.append_nil]
            rw [taken, words]
      | some x =>
          rw [found, Option.toList_some, List.singleton_append] at held
          simp only
          refine ⟨ownership, ?_, ?_, flows.task, flows.log⟩
          · simp only [held, Pipeline.pending, Option.toList_some]
            refine (holding.cons x).trans ?_
            rw [← List.append_assoc, ← List.append_assoc, ← List.append_assoc]
            exact (List.perm_append_singleton x _).symm
          · simp only [Pipeline.pending, Option.toList_some]
            rw [taken, ← words]
            simp only [List.map_append, List.map_cons, List.map_nil, List.append_assoc]

theorem Flows.of_send (flows : Flows setup scan settings start pipeline) :
    Flows setup scan settings start (pipelineStep setup scan settings pipeline .send) := by
  unfold pipelineStep
  cases waiting : pipeline.frame with
  | none => exact flows
  | some x =>
      simp only
      split
      next =>
        have same : pipeline.pending = pipeline.stage.unprocessed ++
            (pipeline.xQueueCAMFrame ++ [x] ++ []) := by
          rw [Pipeline.pending, waiting, Option.toList_some, List.append_nil]
        have held := flows.held
        have taken := flows.taken
        rw [same] at held taken
        exact ⟨flows.ownership, held, taken, flows.task, flows.log⟩
      next => exact flows

theorem Flows.of_receive (flows : Flows setup scan settings start pipeline) :
    Flows setup scan settings start (pipelineStep setup scan settings pipeline .receive) := by
  have held := flows.held
  have taken := flows.taken
  unfold Pipeline.pending at held taken
  unfold pipelineStep
  cases stage : pipeline.stage with
  | received | processed => exact flows
  | waiting =>
      cases queue : pipeline.xQueueCAMFrame with
      | nil => exact flows
      | cons x others =>
          rw [stage, queue] at held taken
          exact ⟨flows.ownership, held, taken, flows.task, flows.log⟩

theorem Flows.of_process (flows : Flows setup scan settings start pipeline) :
    Flows setup scan settings start (pipelineStep setup scan settings pipeline .process) := by
  have held := flows.held
  have taken := flows.taken
  unfold Pipeline.pending at held taken
  unfold pipelineStep
  cases stage : pipeline.stage with
  | waiting | processed => exact flows
  | received x =>
      rw [stage] at held taken
      simp only
      refine ⟨flows.ownership, held, ?_, ?_, ?_⟩
      · simp only [Pipeline.pending, DetectorStage.unprocessed, List.nil_append]
        rw [taken, DetectorStage.unprocessed, List.singleton_append, List.map_cons,
          List.append_assoc, List.singleton_append]
      · simp only
        rw [taskAfter_append, flows.task]
      · simp only
        rw [taskProcessHandler_append, flows.log, flows.task]

theorem Flows.of_giveBack (flows : Flows setup scan settings start pipeline) :
    Flows setup scan settings start (pipelineStep setup scan settings pipeline .giveBack) := by
  have held := flows.held
  have taken := flows.taken
  unfold pipelineStep
  cases stage : pipeline.stage with
  | waiting | received => exact flows
  | processed x =>
      have pending : pipeline.pending = pipeline.xQueueCAMFrame ++ pipeline.frame.toList := by
        rw [Pipeline.pending, stage]
        rfl
      rw [stage, DetectorStage.unreturned, List.singleton_append] at held
      have nodup := (List.nodup_append.mp
        (List.nodup_append.mp flows.ownership.tracks.nodup).2.1).2.1
      have fresh := (List.nodup_cons.mp (held.nodup_iff.mp nodup)).1
      have mem : x ∈ pipeline.driver.held := held.mem_iff.mpr List.mem_cons_self
      have same : ∀ y ∈ pipeline.pending,
          (step setup pipeline.driver (.give x)).frames y = pipeline.driver.frames y := by
        intro y waiting
        refine (@held_step setup pipeline.driver flows.ownership y (flows.pending_held waiting)
          (.give x) ?_ (fun index value write => nomatch write)).2
        rintro ⟨rfl⟩
        exact fresh waiting
      have rest : (step setup pipeline.driver (.give x)).held = pipeline.driver.held.erase x := by
        rw [step, if_pos mem]
      simp only
      refine ⟨ownership_step flows.ownership (.give x), ?_, ?_, flows.task, flows.log⟩
      · simp only [rest]
        have erased := held.erase x
        rw [List.erase_cons_head, pending] at erased
        exact erased
      · rw [taken, ← Flows.words same, pending]
        rfl

theorem flows_step (flows : Flows setup scan settings start pipeline) (action : PipelineAction) :
    Flows setup scan settings start (pipelineStep setup scan settings pipeline action) := by
  cases action with
  | interrupt | camTask | byte => exact flows.of_driver id
  | take => exact flows.of_take
  | send => exact flows.of_send
  | receive => exact flows.of_receive
  | process => exact flows.of_process
  | giveBack => exact flows.of_giveBack

theorem flows_initial (positive : 0 < setup.frameCnt) (contents : Nat → Memory)
    (dmaBuffer : Memory) (start : TaskState) :
    Flows setup scan settings start (Pipeline.initial contents dmaBuffer start) :=
  ⟨ownership_initial positive contents dmaBuffer, List.Perm.refl _, rfl, rfl, rfl⟩

theorem length_taskProcessHandler (state : TaskState) (frames : List Frame) :
    (taskProcessHandler scan settings state frames).length = frames.length := by
  induction frames generalizing state with
  | nil => rfl
  | cons frame frames ih => rw [taskProcessHandler, List.length_cons, List.length_cons, ih]

/-- There are never more frames on the way than the driver has. -/
theorem Flows.length_pending (flows : Flows setup scan settings start pipeline) :
    pipeline.pending.length ≤ setup.frameCnt := by
  have owned := flows.ownership.tracks.length_le
  have held := flows.held.length_eq
  simp only [Driver.owned, List.length_append] at owned held
  omega

/-- For every order of the steps of the driver, the interrupts, the hardware and both tasks:
the log is the one of the sequential task on the first of the frames that were taken, with
the contents that they had then; all but the last few of these frames are processed; and
there is always room in the queue for the frame that is to be sent. -/
theorem pipeline_log_sequential (positive : 0 < setup.frameCnt)
    (room : setup.frameCnt ≤ camFrameQueueLen) (contents : Nat → Memory) (dmaBuffer : Memory)
    (start : TaskState) (actions : List PipelineAction) :
    Always (pipelineStep setup scan settings) (fun pipeline =>
      pipeline.log = taskProcessHandler scan settings start
        (pipeline.taken.take pipeline.log.length) ∧
      pipeline.taken.length ≤ pipeline.log.length + setup.frameCnt ∧
      (pipeline.frame ≠ none → pipeline.xQueueCAMFrame.length < camFrameQueueLen))
      (Pipeline.initial contents dmaBuffer start) actions := by
  have along : Always (pipelineStep setup scan settings) (Flows setup scan settings start)
      (Pipeline.initial contents dmaBuffer start) actions := by
    apply Always.of_invariant
    · exact fun _ action flows => flows_step flows action
    · exact flows_initial positive contents dmaBuffer start
  refine along.imp ?_
  intro pipeline flows
  have pending := flows.length_pending
  have length : pipeline.log.length = pipeline.done.length := by
    rw [flows.log, length_taskProcessHandler]
  refine ⟨?_, ?_, ?_⟩
  · rw [length, flows.taken, List.take_left]
    exact flows.log
  · rw [length, flows.taken, List.length_append, List.length_map]
    omega
  · intro waiting
    rcases Option.ne_none_iff_exists'.mp waiting with ⟨x, frame⟩
    simp only [Pipeline.pending, frame, Option.toList_some, List.length_append,
      List.length_singleton] at pending
    omega

/-- A frame of the detector is received in ten halves and queued, and goes through both tasks. -/
def processDetectorFrame : List PipelineAction :=
  [.interrupt .vsync, .camTask, .camTask, .camTask, .camTask, .camTask] ++
    (List.replicate 10 [.interrupt .inSucEof, .camTask, .camTask]).flatten ++
    [.interrupt .vsync, .camTask, .camTask, .camTask, .take, .send, .receive, .process, .giveBack]

/-- The buffers of the detector and its queue meet the conditions, and the frame is logged. -/
theorem pipeline_log_of_detector :
    0 < detectorSetup.frameCnt ∧ detectorSetup.frameCnt ≤ camFrameQueueLen ∧
    (processDetectorFrame.foldl (pipelineStep detectorSetup (fun _ => none) appMainSettings)
      (Pipeline.initial (fun _ _ => 0) (fun _ => 0) zeroTask)).taken.length = 1 ∧
    (processDetectorFrame.foldl (pipelineStep detectorSetup (fun _ => none) appMainSettings)
      (Pipeline.initial (fun _ _ => 0) (fun _ => 0) zeroTask)).log.length = 1 ∧
    Always (pipelineStep detectorSetup (fun _ => none) appMainSettings) (fun pipeline =>
      pipeline.log = taskProcessHandler (fun _ => none) appMainSettings zeroTask
        (pipeline.taken.take pipeline.log.length) ∧
      pipeline.taken.length ≤ pipeline.log.length + detectorSetup.frameCnt ∧
      (pipeline.frame ≠ none → pipeline.xQueueCAMFrame.length < camFrameQueueLen))
      (Pipeline.initial (fun _ _ => 0) (fun _ => 0) zeroTask) processDetectorFrame :=
  ⟨by decide, by decide, by decide +kernel, by decide +kernel,
    pipeline_log_sequential (by decide) (by decide) (fun _ _ => 0) (fun _ => 0) zeroTask _⟩

end ECam.QrPosing
