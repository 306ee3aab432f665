import ECam.Camera.Filling
import ECam.Library.Ring

/-!
# What the task copies

If the hardware does not write to the frame buffers itself, the task copies one half of the
receive buffer after the other.  The frame is only right if each half is copied after it was
received and before it is overwritten; the length of the event queue is the only thing that
bounds how late the task may be.

The queue has room for one event less than there are halves.  One more half may be waiting
that the task has already been told of, so with a full queue the hardware is again writing
to the half that is being copied.  The frame is right as long as this does not happen.
-/

namespace ECam.Camera

open ECam.Library
open ECam.ImageProcessing

/-! ## The stream of the camera -/

/-- The driver together with what the camera has sent and how many halves of the running
transfer were signalled. -/
structure Observed where
  driver : Driver
  sent : List UInt8
  signalled : Nat

def Observed.initial (contents : Nat → Memory) (dmaBuffer : Memory) : Observed :=
  ⟨Driver.initial contents dmaBuffer, [], 0⟩

def Driver.Starting (driver : Driver) : Bool :=
  match driver.stage with
  | .start _ => true
  | _ => false

variable (setup : Setup)

def observe (observed : Observed) (action : Action) : Observed where
  driver := step setup observed.driver action
  sent :=
    match action with
    | .byte value => observed.sent ++ [value]
    | _ => observed.sent
  signalled :=
    match action with
    | .interrupt .inSucEof => observed.signalled + 1
    | .task => if observed.driver.Starting then 0 else observed.signalled
    | _ => observed.signalled

/-- What the hardware and the timing contribute: a half is signalled when it is complete and
before the next byte is stored, no signal of an earlier transfer is left when a transfer is
started, and the event queue is not full when a half is copied. -/
def Punctual (observed : Observed) : Action → Prop
  | .byte _ =>
      observed.driver.transfer.running = true →
        observed.driver.transfer.received.length <
          (observed.signalled + 1) * setup.sizes.dmaHalfBufferSize
  | .interrupt .inSucEof =>
      observed.driver.transfer.running = true ∧
        (observed.signalled + 1) * setup.sizes.dmaHalfBufferSize ≤
          observed.driver.transfer.received.length
  | .task =>
      (observed.driver.Starting = true → CamEvent.inSucEof ∉ observed.driver.eventQueue) ∧
      (observed.driver.stage = .handle .inSucEof →
        observed.driver.eventQueue.length < setup.eventQueueLen)
  | _ => True

instance : ∀ (observed : Observed) (action : Action), Decidable (Punctual setup observed action)
  | observed, .byte _ => inferInstanceAs (Decidable
      (observed.driver.transfer.running = true → observed.driver.transfer.received.length <
        (observed.signalled + 1) * setup.sizes.dmaHalfBufferSize))
  | observed, .interrupt .inSucEof => inferInstanceAs (Decidable
      (observed.driver.transfer.running = true ∧
        (observed.signalled + 1) * setup.sizes.dmaHalfBufferSize ≤
          observed.driver.transfer.received.length))
  | _, .interrupt .vsync => isTrue trivial
  | observed, .task => inferInstanceAs (Decidable
      ((observed.driver.Starting = true → CamEvent.inSucEof ∉ observed.driver.eventQueue) ∧
        (observed.driver.stage = .handle .inSucEof →
          observed.driver.eventQueue.length < setup.eventQueueLen)))
  | _, .take => isTrue trivial
  | _, .give _ => isTrue trivial
  | _, .write _ _ _ => isTrue trivial

/-- Frames are copied from the receive buffer, which is a whole number of halves. -/
structure Copying : Prop where
  psram : setup.cam.psramMode = false
  jpeg : setup.cam.jpegMode = false
  half_pos : 0 < setup.sizes.dmaHalfBufferSize
  halves : setup.sizes.dmaNodeCnt * setup.sizes.dmaNodeBufferSize =
    setup.sizes.dmaHalfBufferCnt * setup.sizes.dmaHalfBufferSize
  several : 2 ≤ setup.sizes.dmaHalfBufferCnt
  groups : inputStride setup.cam = 2 → 8 ∣ setup.sizes.dmaHalfBufferSize
  pixels : setup.pixelsPerDma * inputStride setup.cam = setup.sizes.dmaHalfBufferSize
  frame : setup.cam.fbSize.toNat * inputStride setup.cam = setup.cam.recvSize.toNat

variable {setup} {driver : Driver} {observed : Observed}

/-! ## The receive buffer -/

/-- What was received is a part of what was sent; if there is a receive buffer, it holds the
end of it. -/
structure Streams (setup : Setup) (observed : Observed) : Prop where
  part : observed.driver.transfer.received <:+: observed.sent
  recent : observed.driver.transfer.running = true →
    observed.driver.transfer.received <:+ observed.sent
  ring : setup.cam.psramMode = false →
    RingHolds (setup.sizes.dmaNodeCnt * setup.sizes.dmaNodeBufferSize)
      observed.driver.transfer.received observed.driver.dmaBuffer

theorem streams_initial (contents : Nat → Memory) (dmaBuffer : Memory) :
    Streams setup (Observed.initial contents dmaBuffer) :=
  ⟨List.infix_rfl, fun _ => List.suffix_rfl, fun _ => RingHolds.empty⟩

theorem Streams.of_eq {next : Observed} (streams : Streams setup observed)
    (transfer : next.driver.transfer = observed.driver.transfer)
    (dmaBuffer : next.driver.dmaBuffer = observed.driver.dmaBuffer)
    (sent : next.sent = observed.sent) : Streams setup next := by
  constructor
  · rw [transfer, sent]
    exact streams.part
  · rw [transfer, sent]
    exact streams.recent
  · rw [transfer, dmaBuffer]
    exact streams.ring

/-- Stopping keeps what was received. -/
theorem Streams.of_stop {next : Observed} (streams : Streams setup observed)
    (transfer : next.driver.transfer = { observed.driver.transfer with running := false })
    (dmaBuffer : next.driver.dmaBuffer = observed.driver.dmaBuffer)
    (sent : next.sent = observed.sent) : Streams setup next := by
  constructor
  · rw [transfer, sent]
    exact streams.part
  · intro running
    rw [transfer] at running
    cases running
  · rw [transfer, dmaBuffer]
    exact streams.ring

theorem streams_task (streams : Streams setup observed) :
    Streams setup (observe setup observed .task) := by
  have dmaBuffer := (@camTask_change setup observed.driver).2.2
  rcases @camTask_transfer setup observed.driver with same | stopped | ⟨-, started⟩
  · exact streams.of_eq same dmaBuffer rfl
  · exact streams.of_stop stopped dmaBuffer rfl
  · have transfer : (observe setup observed .task).driver.transfer =
        ⟨true, observed.driver.framePos, []⟩ := started
    constructor
    · rw [transfer]
      exact List.nil_infix
    · rw [transfer]
      exact fun _ => List.nil_suffix
    · rw [transfer]
      exact fun _ => RingHolds.empty

theorem streams_byte (streams : Streams setup observed) (value : UInt8) :
    Streams setup (observe setup observed (.byte value)) := by
  simp only [observe, step, storeByte]
  split
  next running =>
    rcases streams.recent running with ⟨before, whole⟩
    have next : observed.driver.transfer.received ++ [value] <:+ observed.sent ++ [value] :=
      ⟨before, by rw [← List.append_assoc, whole]⟩
    split
    next psram =>
      refine ⟨next.isInfix, fun _ => next, ?_⟩
      intro copied
      rw [psram] at copied
      cases copied
    next => exact ⟨next.isInfix, fun _ => next, fun copied => (streams.ring copied).store value⟩
  next stopped =>
    refine ⟨streams.part.trans (List.infix_append' [] observed.sent [value]), ?_, streams.ring⟩
    intro running
    exact absurd running stopped

theorem streams_step (streams : Streams setup observed) (action : Action) :
    Streams setup (observe setup observed action) := by
  cases action with
  | interrupt event =>
      simp only [observe, step, llCamSendEvent]
      split
      next => exact streams.of_eq rfl rfl rfl
      next => exact streams.of_stop rfl rfl rfl
  | task => exact streams_task streams
  | byte value => exact streams_byte streams value
  | take =>
      have same := @application_sameTask setup observed.driver .take trivial
      exact streams.of_eq same.transfer same.dmaBuffer rfl
  | give x =>
      have same := @application_sameTask setup observed.driver (.give x) trivial
      exact streams.of_eq same.transfer same.dmaBuffer rfl
  | write x index value =>
      have same := @application_sameTask setup observed.driver (.write x index value) trivial
      exact streams.of_eq same.transfer same.dmaBuffer rfl

/-! ## The frame that is being filled -/

/-- The halves that are signalled but not handled. -/
def Driver.pending (driver : Driver) : Nat :=
  driver.eventQueue.count .inSucEof

/-- What was received ends in the half after the signalled ones. -/
structure Counted (setup : Setup) (observed : Observed) (halves : Nat) : Prop where
  lower : halves * setup.sizes.dmaHalfBufferSize ≤ observed.driver.transfer.received.length
  upper : observed.driver.transfer.received.length ≤
    (halves + 1) * setup.sizes.dmaHalfBufferSize
  running : observed.driver.transfer.running = true → halves = observed.signalled

/-- The frame consists of the halves that were copied. -/
structure Filled (setup : Setup) (driver : Driver) : Prop where
  enabled : driver.frame.en = true
  received : driver.cnt * setup.sizes.dmaHalfBufferSize ≤ driver.transfer.received.length
  len : driver.frame.len = driver.cnt * setup.pixelsPerDma
  bytes : ∀ index, index < driver.frame.len →
    driver.transfer.received[inputStride setup.cam * index]? = some (driver.frame.buf index)

/-- A frame is read, and a number of halves is on its way to the task.  After an overflow
nothing is copied any more. -/
def Reading (setup : Setup) (observed : Observed) (handled : Nat) : Prop :=
  observed.driver.state = .readBuf →
    Filled setup observed.driver ∧ (¬observed.driver.Overflows setup →
      Counted setup observed (observed.driver.cnt + handled + observed.driver.pending))

def Reads (setup : Setup) (observed : Observed) : Prop :=
  observed.driver.stage.Reads (Reading setup observed)
    (Counted setup observed observed.driver.pending)

/-- The number of bytes that a copied half adds to the frame. -/
theorem copyHalf_len (copying : Copying setup) :
    (driver.copyHalf setup).len = driver.frame.len + setup.pixelsPerDma := by
  have pixels := copying.pixels
  simp only [Driver.copyHalf, llCamMemcpy]
  unfold inputStride at pixels
  split
  next gray =>
    rw [if_pos gray] at pixels
    simp only
    omega
  next direct =>
    rw [if_neg direct] at pixels
    simp only
    omega

/-- A half that was received, and is not overwritten yet, is appended to the frame. -/
theorem filled_copyHalf (copying : Copying setup) (streams : Streams setup observed)
    (filled : Filled setup observed.driver)
    (received : (observed.driver.cnt + 1) * setup.sizes.dmaHalfBufferSize ≤
      observed.driver.transfer.received.length)
    (recent : observed.driver.transfer.received.length ≤
      (observed.driver.cnt + setup.sizes.dmaHalfBufferCnt) * setup.sizes.dmaHalfBufferSize)
    (index : Nat) (inside : index < (observed.driver.copyHalf setup).len) :
    observed.driver.transfer.received[inputStride setup.cam * index]? =
      some ((observed.driver.copyHalf setup).buf index) := by
  have pixels := copying.pixels
  have several := copying.several
  have length := @copyHalf_len setup observed.driver copying
  rw [length] at inside
  rcases Nat.lt_or_ge index observed.driver.frame.len with old | new
  · have kept : (observed.driver.copyHalf setup).buf index = observed.driver.frame.buf index :=
      llCamMemcpy_outside setup.cam (Or.inl old)
    rw [kept]
    exact filled.bytes index old
  · rcases Nat.exists_eq_add_of_le new with ⟨offset, rfl⟩
    have below : offset < setup.pixelsPerDma := by omega
    have reported : (llCamMemcpy setup.cam (fromBuffer (observed.driver.half setup))
        observed.driver.frame.len setup.sizes.dmaHalfBufferSize observed.driver.frame.buf).2 =
          setup.pixelsPerDma := Nat.add_left_cancel length
    have copied : (observed.driver.copyHalf setup).buf (observed.driver.frame.len + offset) =
        observed.driver.half setup (inputStride setup.cam * offset) :=
      llCamMemcpy_inside setup.cam copying.groups (by rw [reported]; exact below)
    have position : inputStride setup.cam * (observed.driver.frame.len + offset) =
        observed.driver.cnt * setup.sizes.dmaHalfBufferSize + inputStride setup.cam * offset := by
      rw [filled.len, ← pixels]
      ring
    have stride : inputStride setup.cam * offset < setup.sizes.dmaHalfBufferSize := by
      have positive := copying.half_pos
      rw [← pixels, Nat.mul_comm]
      rw [← pixels] at positive
      exact Nat.mul_lt_mul_of_pos_right below (Nat.pos_of_mul_pos_left positive)
    have ring := streams.ring copying.psram
    rw [copying.halves] at ring
    rw [copied, position]
    exact ring.block (by omega) stride received recent

/-- Steps that leave the task, the hardware and the frame alone. -/
theorem Reads.of_sameTask {next : Observed} (reads : Reads setup observed)
    (same : SameTask observed.driver next.driver)
    (frame : observed.driver.frame.en = true → next.driver.frame = observed.driver.frame)
    (signalled : next.signalled = observed.signalled) : Reads setup next := by
  have counted : ∀ halves, Counted setup observed halves → Counted setup next halves := by
    intro halves counted
    refine ⟨?_, ?_, ?_⟩
    · rw [same.transfer]
      exact counted.lower
    · rw [same.transfer]
      exact counted.upper
    · rw [same.transfer, signalled]
      exact counted.running
  have pending : next.driver.pending = observed.driver.pending := by
    rw [Driver.pending, same.eventQueue, Driver.pending]
  unfold Reads at reads ⊢
  rw [same.stage, pending]
  refine reads.imp ?_ (counted _)
  intro handled reading state
  rw [same.state] at state
  rcases reading state with ⟨filled, count⟩
  have unchanged := frame filled.enabled
  refine ⟨⟨?_, ?_, ?_, ?_⟩, ?_⟩
  · rw [unchanged]
    exact filled.enabled
  · rw [same.cnt, same.transfer]
    exact filled.received
  · rw [unchanged, same.cnt]
    exact filled.len
  · rw [unchanged, same.transfer]
    exact filled.bytes
  · unfold Driver.Overflows at count ⊢
    rw [unchanged, same.cnt, pending]
    exact fun fits => counted _ (count fits)

theorem reads_interrupt (event : CamEvent) (reads : Reads setup observed)
    (punctual : Punctual setup observed (.interrupt event)) :
    Reads setup (observe setup observed (.interrupt event)) := by
  have advance : ∀ halves, Counted setup observed halves → ∀ next : Observed,
      next.driver.transfer = observed.driver.transfer →
      next.signalled = observed.signalled + (if event = .inSucEof then 1 else 0) →
      Counted setup next (halves + (if event = .inSucEof then 1 else 0)) := by
    intro halves counted next transfer signalled
    have lower := counted.lower
    have upper := counted.upper
    cases event with
    | vsync =>
        rw [if_neg (by decide), Nat.add_zero] at signalled ⊢
        exact ⟨transfer ▸ lower, transfer ▸ upper,
          by rw [transfer, signalled]; exact counted.running⟩
    | inSucEof =>
        rw [if_pos rfl] at signalled ⊢
        rcases punctual with ⟨running, complete⟩
        have same := counted.running running
        refine ⟨?_, ?_, fun _ => by rw [signalled, same]⟩
        · rw [transfer, same]
          exact complete
        · rw [transfer]
          exact le_trans upper (Nat.mul_le_mul_right _ (Nat.le_succ _))
  have total : (observe setup observed (.interrupt event)).signalled =
      observed.signalled + (if event = .inSucEof then 1 else 0) := by
    cases event <;> rfl
  unfold Reads at reads ⊢
  generalize next_eq : observe setup observed (.interrupt event) = next at total ⊢
  have driver : next.driver = llCamSendEvent setup event observed.driver := by
    rw [← next_eq]
    rfl
  unfold llCamSendEvent at driver
  split at driver
  next =>
    have pending : next.driver.pending =
        observed.driver.pending + (if event = .inSucEof then 1 else 0) := by
      rw [driver]
      simp only [Driver.pending, List.count_append]
      cases event <;> rfl
    have transfer : next.driver.transfer = observed.driver.transfer := by rw [driver]
    have stage : next.driver.stage = observed.driver.stage := by rw [driver]
    rw [stage]
    refine reads.imp ?_ ?_
    · intro handled reading state
      have before : observed.driver.state = .readBuf := by
        rw [driver] at state
        exact state
      rcases reading before with ⟨filled, counted⟩
      refine ⟨by rw [driver]; exact ⟨filled.enabled, filled.received, filled.len, filled.bytes⟩, ?_⟩
      intro fits
      have fitsBefore : ¬observed.driver.Overflows setup := by
        rw [driver] at fits
        exact fits
      have cnt : next.driver.cnt = observed.driver.cnt := by rw [driver]
      rw [pending, cnt, ← Nat.add_assoc]
      exact advance _ (counted fitsBefore) next transfer total
    · intro begun
      rw [pending]
      exact advance _ begun next transfer total
  next =>
    -- the event is lost, and the driver is idle and the hardware stopped
    have stage : next.driver.stage = observed.driver.stage := by rw [driver]; rfl
    rw [stage]
    refine reads.imp ?_ ?_
    · intro handled reading state
      rw [driver] at state
      cases state
    · intro begun
      rw [driver]
      refine ⟨?_, ?_, ?_⟩
      · rw [driver]
        exact begun.lower
      · rw [driver]
        exact begun.upper
      · intro running
        rw [driver] at running
        cases running

theorem reads_byte (copying : Copying setup) (value : UInt8) (reads : Reads setup observed)
    (punctual : Punctual setup observed (.byte value)) :
    Reads setup (observe setup observed (.byte value)) := by
  unfold Reads at reads ⊢
  generalize next_eq : observe setup observed (.byte value) = next
  have driver : next.driver = storeByte setup value observed.driver := by
    rw [← next_eq]
    rfl
  have signalled : next.signalled = observed.signalled := by
    rw [← next_eq]
    rfl
  unfold storeByte at driver
  split at driver
  next running =>
    rw [copying.psram] at driver
    simp only [Bool.false_eq_true, if_false] at driver
    have bounded := punctual running
    have received : next.driver.transfer.received =
        observed.driver.transfer.received ++ [value] := by rw [driver]
    have length : next.driver.transfer.received.length =
        observed.driver.transfer.received.length + 1 := by
      rw [received, List.length_append, List.length_singleton]
    have advance : ∀ halves, Counted setup observed halves → Counted setup next halves := by
      intro halves counted
      have same := counted.running running
      refine ⟨?_, ?_, fun _ => by rw [signalled, same]⟩
      · rw [length]
        exact Nat.le_succ_of_le counted.lower
      · rw [length, same]
        exact bounded
    have stage : next.driver.stage = observed.driver.stage := by rw [driver]
    have pending : next.driver.pending = observed.driver.pending := by rw [driver]; rfl
    rw [stage, pending]
    refine reads.imp ?_ (advance _)
    intro handled reading state
    have before : observed.driver.state = .readBuf := by
      rw [driver] at state
      exact state
    rcases reading before with ⟨filled, counted⟩
    have frame : next.driver.frame = observed.driver.frame := by rw [driver]; rfl
    have cnt : next.driver.cnt = observed.driver.cnt := by rw [driver]
    constructor
    · refine ⟨by rw [frame]; exact filled.enabled, ?_, by rw [frame, cnt]; exact filled.len, ?_⟩
      · rw [cnt, length]
        exact Nat.le_succ_of_le filled.received
      intro index inside
      rw [frame] at inside ⊢
      have selected := filled.bytes index inside
      rw [received, List.getElem?_append_left (List.getElem?_eq_some_iff.mp selected).1]
      exact selected
    · intro fits
      rw [cnt, pending]
      refine advance _ (counted ?_)
      unfold Driver.Overflows at fits ⊢
      rw [frame] at fits
      exact fits
  next =>
    exact Reads.of_sameTask reads ⟨by rw [driver], by rw [driver], by rw [driver], by rw [driver],
      by rw [driver], by rw [driver], by rw [driver]⟩ (fun _ => by rw [driver]) signalled

theorem reads_application {action : Action} (application : action.OfApplication)
    (ownership : Ownership setup observed.driver) (reads : Reads setup observed) :
    Reads setup (observe setup observed action) := by
  refine reads.of_sameTask (application_sameTask application) ?_ ?_
  · exact fun enabled => (application_sameFrame application ownership enabled).frame
  · cases action with
    | interrupt | task | byte => cases application
    | take | give | write => rfl

/-- A half is copied.  As the queue is not full, the half is not overwritten yet. -/
theorem reads_camTaskEof (copying : Copying setup) (streams : Streams setup observed)
    {next : Observed} (driver : next.driver = camTaskEof setup observed.driver)
    (signalled : next.signalled = observed.signalled)
    (reading : observed.driver.state = .readBuf) (read : Reading setup observed 1)
    (room : observed.driver.eventQueue.length < setup.eventQueueLen) : Reads setup next := by
  rcases read reading with ⟨filled, counted⟩
  unfold camTaskEof at driver
  split at driver
  next overflow =>
    have stage : next.driver.stage = .receive := by rw [driver]
    unfold Reads
    rw [stage]
    intro _
    rw [driver]
    exact ⟨⟨filled.enabled, filled.received, filled.len, filled.bytes⟩,
      fun fits => absurd overflow.2 fits⟩
  next enough =>
    have fits : ¬observed.driver.Overflows setup :=
      fun overflows => enough ⟨copying.psram, overflows⟩
    have count := counted fits
    have lower := count.lower
    have upper := count.upper
    have waiting : observed.driver.pending ≤ observed.driver.eventQueue.length :=
      List.count_le_length
    have several := copying.several
    unfold Setup.eventQueueLen at room
    have received : (observed.driver.cnt + 1) * setup.sizes.dmaHalfBufferSize ≤
        observed.driver.transfer.received.length :=
      le_trans (Nat.mul_le_mul_right _ (by omega)) lower
    have recent : observed.driver.transfer.received.length ≤
        (observed.driver.cnt + setup.sizes.dmaHalfBufferCnt) * setup.sizes.dmaHalfBufferSize :=
      le_trans upper (Nat.mul_le_mul_right _ (by omega))
    rw [copying.psram, copying.jpeg] at driver
    simp only [Bool.false_eq_true, if_false, false_and] at driver
    have frame : next.driver.frame = observed.driver.copyHalf setup := by
      rw [driver]
      exact Function.update_self _ _ _
    have stage : next.driver.stage = .receive := by rw [driver]
    have transfer : next.driver.transfer = observed.driver.transfer := by rw [driver]; rfl
    have cnt : next.driver.cnt = observed.driver.cnt + 1 := by rw [driver]
    have pending : next.driver.pending = observed.driver.pending := by rw [driver]; rfl
    unfold Reads
    rw [stage]
    intro _
    refine ⟨⟨?_, ?_, ?_, ?_⟩, ?_⟩
    · rw [frame]
      exact filled.enabled
    · rw [cnt, transfer]
      exact received
    · rw [frame, copyHalf_len copying, filled.len, cnt]
      ring
    · rw [frame, transfer]
      exact filled_copyHalf copying streams filled received recent
    · intro _
      rw [cnt, pending, Nat.add_zero]
      exact ⟨transfer ▸ lower, transfer ▸ upper, by rw [transfer, signalled]; exact count.running⟩

theorem reads_task (copying : Copying setup) (ownership : Ownership setup observed.driver)
    (streams : Streams setup observed) (reads : Reads setup observed)
    (punctual : Punctual setup observed .task) :
    Reads setup (observe setup observed .task) := by
  have stage := ownership.stage
  have other : observed.driver.Starting = false →
      (observe setup observed .task).signalled = observed.signalled := by
    intro starting
    simp only [observe, starting, Bool.false_eq_true, if_false]
  unfold Reads at reads
  cases current : observed.driver.stage with
  | receive =>
      rw [current] at reads
      cases queued : observed.driver.eventQueue with
      | nil =>
          have same : (observe setup observed .task).driver = observed.driver := by
            simp only [observe, step, camTask, current, queued]
          refine Reads.of_sameTask (by rw [Reads, current]; exact reads) ?_
            (fun _ => by rw [same]) (other (by rw [Driver.Starting, current]))
          rw [same]
          exact ⟨rfl, rfl, rfl, rfl, rfl, rfl, rfl⟩
      | cons event events =>
          have driver : (observe setup observed .task).driver =
              { observed.driver with stage := .handle event, eventQueue := events } := by
            simp only [observe, step, camTask, current, queued]
          have signalled := other (by rw [Driver.Starting, current])
          generalize observe setup observed .task = next at driver signalled ⊢
          -- the event is now counted as being handled
          have shift : ∀ handled, observed.driver.pending = handled + next.driver.pending →
              Reading setup next handled := by
            intro handled pending reading
            rw [driver] at reading
            rcases reads reading with ⟨filled, counted⟩
            constructor
            · rw [driver]
              exact ⟨filled.enabled, filled.received, filled.len, filled.bytes⟩
            · intro fits
              rw [driver] at fits
              have count := counted fits
              have total : observed.driver.cnt + 0 + observed.driver.pending =
                  next.driver.cnt + handled + next.driver.pending := by
                rw [pending, driver]
                simp only
                omega
              rw [total] at count
              have transfer : next.driver.transfer = observed.driver.transfer := by rw [driver]
              exact ⟨transfer ▸ count.lower, transfer ▸ count.upper,
                by rw [transfer, signalled]; exact count.running⟩
          have before : observed.driver.pending = (event :: events).count .inSucEof := by
            rw [Driver.pending, queued]
          have after : next.driver.pending = events.count .inSucEof := by rw [driver]; rfl
          unfold Reads
          rw [show next.driver.stage = .handle event by rw [driver]]
          cases event with
          | inSucEof =>
              refine shift 1 ?_
              rw [before, after, List.count_cons_self, Nat.add_comm]
          | vsync =>
              refine shift 0 ?_
              rw [before, after, List.count_cons_of_ne (by decide), Nat.zero_add]
  | handle event =>
      rw [current] at reads
      cases state : observed.driver.state with
      | idle =>
          simp only [Reads, observe, step, camTask, current, state]
          cases event with
          | inSucEof =>
              intro reading
              cases reading
          | vsync => trivial
      | readBuf =>
          cases event with
          | inSucEof =>
              refine reads_camTaskEof copying streams ?_ (other (by rw [Driver.Starting, current]))
                state reads (punctual.2 current)
              simp only [observe, step, camTask, current, state]
          | vsync =>
              simp only [Reads, observe, step, camTask, current, state, camTaskVsync]
              split
              next =>
                simp only
                split <;> trivial
              next => trivial
  | send | pop | next =>
      simp only [Reads, observe, step, camTask, current]
      split <;> trivial
  | push popped =>
      simp only [Reads, observe, step, camTask, current]
      split <;> trivial
  | give popped =>
      simp only [Reads, observe, step, camTask, current]
      trivial
  | search origin x =>
      rw [current] at stage
      simp only [Reads, observe, step, camTask, current]
      split
      next =>
        split <;> trivial
      next =>
        intro reading
        cases origin with
        | idle =>
            simp only [reduceCtorEq, if_false] at reading
            rw [stage.2 rfl] at reading
            cases reading
        | readBuf => cases reading
  | start origin =>
      have none := punctual.1 (by rw [Driver.Starting, current])
      have pending : observed.driver.pending = 0 := List.count_eq_zero.mpr none
      have starting : observed.driver.Starting = true := by rw [Driver.Starting, current]
      have driver : (observe setup observed .task).driver = { observed.driver with
          stage := .started origin
          transfer := ⟨true, observed.driver.framePos, []⟩ } := by
        simp only [observe, step, camTask, current]
      have signalled : (observe setup observed .task).signalled = 0 := by
        simp only [observe, starting, if_true]
      generalize observe setup observed .task = next at driver signalled ⊢
      have transfer : next.driver.transfer = ⟨true, observed.driver.framePos, []⟩ := by
        rw [driver]
      have nothing : next.driver.pending = 0 := by
        rw [driver]
        exact pending
      unfold Reads
      rw [show next.driver.stage = .started origin by rw [driver], nothing]
      refine ⟨?_, ?_, fun _ => signalled.symm⟩
      · rw [Nat.zero_mul]
        exact Nat.zero_le _
      · rw [transfer]
        exact Nat.zero_le _
  | started origin =>
      rw [current] at reads stage
      have signalled := other (by rw [Driver.Starting, current])
      have driver : (observe setup observed .task).driver =
          { observed.driver.setFrame observed.driver.framePos
              { observed.driver.frame with len := 0 } with
            stage := .receive
            cnt := 0
            state := if origin = .idle then .readBuf else observed.driver.state } := by
        simp only [observe, step, camTask, current]
      generalize observe setup observed .task = next at driver signalled ⊢
      have frame : next.driver.frame = { observed.driver.frame with len := 0 } := by
        rw [driver]
        exact Function.update_self _ _ _
      have transfer : next.driver.transfer = observed.driver.transfer := by rw [driver]; rfl
      have cnt : next.driver.cnt = 0 := by rw [driver]
      have pending : next.driver.pending = observed.driver.pending := by rw [driver]; rfl
      unfold Reads
      rw [show next.driver.stage = .receive by rw [driver]]
      intro _
      refine ⟨⟨?_, ?_, ?_, ?_⟩, ?_⟩
      · rw [frame]
        exact stage
      · rw [cnt, Nat.zero_mul]
        exact Nat.zero_le _
      · rw [frame, cnt, Nat.zero_mul]
      · intro index inside
        rw [frame] at inside
        exact absurd inside (Nat.not_lt_zero index)
      · intro _
        have begun : Counted setup observed observed.driver.pending := reads
        rw [cnt, pending, Nat.zero_add]
        exact ⟨transfer ▸ begun.lower, transfer ▸ begun.upper,
          by rw [transfer, signalled]; exact begun.running⟩

end ECam.Camera
