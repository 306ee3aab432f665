import ECam.Camera.Descriptors
import ECam.Camera.Lifecycle.Calls

/-!
# The allocations of `cam_config`

As long as `cam_config` makes its requests, what is in use are the handles in the object.  After
the last one all is there that a camera needs; after a refused one the object has what was
allocated before.
-/

namespace ECam.Camera.Lifecycle

open ECam.Library

/-! ## What is owned -/

/-- The handles of the object. -/
def CamObject.handles (cam : CamObject) : List Nat :=
  cam.pointers.reduceOption

/-- The handles of `cam_obj`. -/
def System.camHandles (system : System) : List Nat :=
  (system.camObj.map CamObject.handles).getD []

/-- All handles that can be reached from `cam_obj` and `s_state`. -/
def System.handles (system : System) : List Nat :=
  system.sState.toList ++ system.camHandles

/-- What is in use are the handles of the system and the lost ones. -/
def System.Owns (lost : List Nat) (system : System) : Prop :=
  system.pool.Accounts (system.handles ++ lost)

/-- What is in use are the handles of the object and other ones. -/
def Work.Owns (others : List Nat) (work : Work) : Prop :=
  work.pool.Accounts (work.cam.handles ++ others)

variable {grants : Nat → Bool} {lastChannel : Nat} {attempt : Attempt}
variable {system : System} {lost others : List Nat}

/-- The pointers that `cam_deinit` releases last. -/
def CamObject.lastPointers (cam : CamObject) : List (Option Nat) :=
  cam.framePointers ++ [cam.camIntrHandle, cam.dmaIntrHandle, some cam.object]

theorem CamObject.set_get (cam : CamObject) (slot : Slot) : cam.set (cam.get slot) slot = cam := by
  cases slot <;> rfl

theorem CamObject.pointers_set (cam : CamObject) (slot : Slot) :
    ∃ front back, ∀ pointer, (cam.set pointer slot).pointers = front ++ pointer :: back := by
  cases slot with
  | taskHandle =>
      exact ⟨[], [cam.eventQueue, cam.frameBufferQueue, cam.dma, cam.dmaBuffer] ++ cam.lastPointers,
        fun _ => rfl⟩
  | eventQueue =>
      exact ⟨[cam.taskHandle], [cam.frameBufferQueue, cam.dma, cam.dmaBuffer] ++ cam.lastPointers,
        fun _ => rfl⟩
  | frameBufferQueue =>
      exact ⟨[cam.taskHandle, cam.eventQueue], [cam.dma, cam.dmaBuffer] ++ cam.lastPointers,
        fun _ => rfl⟩
  | dma =>
      exact ⟨[cam.taskHandle, cam.eventQueue, cam.frameBufferQueue],
        cam.dmaBuffer :: cam.lastPointers, fun _ => rfl⟩
  | dmaBuffer =>
      exact ⟨[cam.taskHandle, cam.eventQueue, cam.frameBufferQueue, cam.dma], cam.lastPointers,
        fun _ => rfl⟩
  | camIntrHandle =>
      refine ⟨[cam.taskHandle, cam.eventQueue, cam.frameBufferQueue, cam.dma, cam.dmaBuffer] ++
        cam.framePointers, [cam.dmaIntrHandle, some cam.object], fun pointer => ?_⟩
      rw [List.append_assoc]
      rfl
  | dmaIntrHandle =>
      refine ⟨[cam.taskHandle, cam.eventQueue, cam.frameBufferQueue, cam.dma, cam.dmaBuffer] ++
        (cam.framePointers ++ [cam.camIntrHandle]), [some cam.object], fun pointer => ?_⟩
      rw [List.append_assoc, List.append_assoc]
      rfl

/-- A pointer that was null is set. -/
theorem CamObject.handles_set {cam : CamObject} {slot : Slot} (unset : cam.get slot = none)
    (pointer : Option Nat) :
    (cam.set pointer slot).handles.Perm (pointer.toList ++ cam.handles) := by
  rcases cam.pointers_set slot with ⟨front, back, split⟩
  have before : cam.pointers = front ++ none :: back := by
    rw [← split none, ← unset, cam.set_get]
  rw [CamObject.handles, CamObject.handles, split pointer, before]
  exact Pool.reduceOption_fill front back pointer

theorem CamObject.get_set_other (cam : CamObject) {slot other : Slot} (different : other ≠ slot)
    (pointer : Option Nat) : (cam.set pointer slot).get other = cam.get other := by
  cases slot <;> cases other <;> first | rfl | exact absurd rfl different

theorem CamObject.get_set (cam : CamObject) (slot : Slot) (pointer : Option Nat) :
    (cam.set pointer slot).get slot = pointer := by
  cases slot <;> rfl

/-! ## Setting up -/

/-- Where `cam_config` stands: the slots that are still null, and what is ready. -/
structure Building (others : List Nat) (todo : List Slot) (ready : CamObject → Prop)
    (work : Work) : Prop where
  owns : work.Owns others
  todo : ∀ slot ∈ todo, work.cam.get slot = none
  ready : ready work.cam

variable {todo : List Slot} {ready : CamObject → Prop} {slot : Slot}

theorem Work.Owns.allocate {work : Work} (owns : work.Owns others)
    (unset : work.cam.get slot = none) : Work.Owns others (allocate grants slot work).2 := by
  have acquired := @Pool.Accounts.acquire grants _ _ owns
  refine acquired.perm ?_
  rw [← List.append_assoc]
  exact (CamObject.handles_set unset _).symm.append_right _

/-- A request sets the next slot, or nothing. -/
theorem building_allocate (fresh : slot ∉ todo)
    (stable : ∀ cam pointer, ready cam → ready (cam.set pointer slot)) :
    Fallible.Ensures (Building others (slot :: todo) ready) (allocate grants slot)
      (Building others todo fun cam => ready cam ∧ (cam.get slot).isSome) (Work.Owns others) := by
  intro work building
  have owns : (allocate grants slot work).2.Owns others :=
    building.owns.allocate (building.todo slot List.mem_cons_self)
  refine ⟨fun success => ⟨owns, ?_, stable _ _ building.ready, ?_⟩, fun _ => owns⟩
  · intro other mem
    have different : other ≠ slot := by
      rintro rfl
      exact fresh mem
    refine (CamObject.get_set_other _ different _).trans ?_
    exact building.todo other (List.mem_cons_of_mem _ mem)
  · by_contra refused
    refine absurd success ?_
    rw [Lifecycle.allocate] at refused ⊢
    rw [CamObject.get_set] at refused
    rw [if_neg refused]
    exact espFail_ne

/-- The pointers in the array of the frames. -/
def bufferPointers (buffers : List (Option Nat × Option Nat)) : List (Option Nat) :=
  buffers.flatMap fun buffer => [buffer.1, buffer.2]

theorem bufferPointers_cons (buffer : Option Nat × Option Nat)
    (buffers : List (Option Nat × Option Nat)) :
    (bufferPointers (buffer :: buffers)).reduceOption =
      buffer.1.toList ++ (buffer.2.toList ++ (bufferPointers buffers).reduceOption) := by
  rcases buffer with ⟨first, second⟩
  cases first <;> cases second <;> rfl

theorem bufferPointers_replicate (count : Nat) :
    (bufferPointers (List.replicate count (none, none))).reduceOption = [] := by
  induction count with
  | zero => rfl
  | succ count ih =>
      rw [List.replicate_succ, bufferPointers, List.flatMap_cons]
      exact ih

theorem CamObject.handles_frames (cam : CamObject) (frames : Nat)
    (buffers : List (Option Nat × Option Nat)) :
    ({ cam with frames := some frames, buffers := buffers } : CamObject).handles.Perm
      (frames :: ((bufferPointers buffers).reduceOption ++
        ({ cam with frames := none } : CamObject).handles)) := by
  apply List.perm_iff_count.mpr
  intro handle
  simp only [CamObject.handles, CamObject.pointers, CamObject.framePointers, bufferPointers,
    List.reduceOption_append, List.count_append, List.count_cons, List.reduceOption_cons_of_some,
    List.reduceOption_nil, List.count_nil]
  omega

/-- A frame has its buffer, and its descriptors if they are needed. -/
def FrameReady (psramMode : Bool) (buffer : Option Nat × Option Nat) : Prop :=
  buffer.1.isSome ∧ (psramMode = true → buffer.2.isSome)

theorem fillFrames_owns (psramMode : Bool) (count : Nat) {pool : Pool} {owned : List Nat}
    (accounts : pool.Accounts owned) :
    let filled := fillFrames grants psramMode count pool
    filled.2.2.Accounts ((bufferPointers filled.2.1).reduceOption ++ owned) := by
  induction count generalizing pool owned with
  | zero => exact accounts
  | succ count ih =>
      have first := @Pool.Accounts.acquire grants _ _ accounts
      simp only [fillFrames]
      split
      next granted =>
        rcases Option.isSome_iff_exists.mp granted with ⟨buffer, got⟩
        rw [got] at first ⊢
        generalize described : (if psramMode = true then
          (pool.acquire grants).2.acquire grants else (none, (pool.acquire grants).2)) = descriptors
        have second : descriptors.2.Accounts (descriptors.1.toList ++ (buffer :: owned)) := by
          rw [← described]
          split
          next => exact first.acquire
          next => exact first
        split
        next missing =>
          rw [Option.isNone_iff_eq_none.mp missing.2] at second
          refine second.perm ?_
          rw [bufferPointers_cons, bufferPointers_replicate]
          exact List.Perm.refl _
        next =>
          refine (ih second).perm ?_
          rw [bufferPointers_cons]
          apply List.perm_iff_count.mpr
          intro handle
          simp only [List.count_append, List.count_cons, Option.toList_some, List.count_nil]
          omega
      next refused =>
        rw [Option.not_isSome_iff_eq_none] at refused
        rw [refused] at first
        simp only [bufferPointers_replicate]
        exact first

/-- The loop succeeds if and only if it leaves every frame ready. -/
theorem fillFrames_ready (psramMode : Bool) (count : Nat) (pool : Pool) :
    let filled := fillFrames grants psramMode count pool
    filled.2.1.length = count ∧
      (filled.1 = true ↔ ∀ buffer ∈ filled.2.1, FrameReady psramMode buffer) := by
  induction count generalizing pool with
  | zero => exact ⟨rfl, iff_of_true rfl (List.forall_mem_nil _)⟩
  | succ count ih =>
      simp only [fillFrames]
      split
      next granted =>
        generalize (if psramMode = true then (pool.acquire grants).2.acquire grants
          else (none, (pool.acquire grants).2)) = descriptors
        split
        next missing =>
          refine ⟨congrArg (· + 1) List.length_replicate, iff_of_false Bool.false_ne_true ?_⟩
          intro all
          have described := (all _ List.mem_cons_self).2 missing.1
          cases described
        next complete =>
          rcases ih descriptors.2 with ⟨length, each⟩
          have ready : FrameReady psramMode ((pool.acquire grants).1, descriptors.1) := by
            refine ⟨granted, fun psram => ?_⟩
            by_contra missing
            exact complete ⟨psram, by simpa using missing⟩
          refine ⟨congrArg (· + 1) length, each.trans ?_⟩
          rw [List.forall_mem_cons]
          exact (and_iff_right ready).symm
      next =>
        refine ⟨List.length_replicate, iff_of_false Bool.false_ne_true ?_⟩
        intro all
        have allocated := (all (none, none) List.mem_cons_self).1
        cases allocated

/-- All frames are there. -/
def FramesReady (attempt : Attempt) (cam : CamObject) : Prop :=
  cam.frames.isSome ∧ cam.buffers.length = attempt.fbCount ∧
    ∀ buffer ∈ cam.buffers, FrameReady attempt.psramMode buffer

theorem building_allocateFrames :
    Fallible.Ensures (Building others todo fun cam => cam.frames = none)
      (allocateFrames grants attempt)
      (Building others todo fun cam =>
        cam.frames.isSome ∧ cam.buffers = List.replicate attempt.fbCount (none, none))
      (Work.Owns others) := by
  intro work building
  rcases work with ⟨pool, cam⟩
  have unset : cam.frames = none := building.ready
  have same : ({ cam with frames := none } : CamObject) = cam := by
    rw [← unset]
  have acquired := @Pool.Accounts.acquire grants _ _ building.owns
  cases granted : (pool.acquire grants).1 with
  | none =>
      rw [granted] at acquired
      have owns : Work.Owns others (allocateFrames grants attempt ⟨pool, cam⟩).2 := by
        simp only [allocateFrames, granted]
        refine acquired.perm ?_
        simp only [CamObject.handles, CamObject.pointers, CamObject.framePointers, unset]
        exact List.Perm.refl _
      refine ⟨fun success => ?_, fun _ => owns⟩
      rw [allocateFrames, granted] at success
      exact absurd success espFail_ne
  | some frames =>
      rw [granted] at acquired
      have handles := cam.handles_frames frames (List.replicate attempt.fbCount (none, none))
      rw [bufferPointers_replicate, same] at handles
      have owns : Work.Owns others (allocateFrames grants attempt ⟨pool, cam⟩).2 := by
        simp only [allocateFrames, granted]
        exact acquired.perm (handles.symm.append_right others)
      refine ⟨fun _ => ⟨owns, building.todo, ?_⟩, fun _ => owns⟩
      exact ⟨(congrArg Option.isSome granted).trans rfl, rfl⟩

theorem building_allocateBuffers :
    Fallible.Ensures
      (Building others todo fun cam =>
        cam.frames.isSome ∧ cam.buffers = List.replicate attempt.fbCount (none, none))
      (allocateBuffers grants attempt) (Building others todo (FramesReady attempt))
      (Work.Owns others) := by
  intro work building
  rcases work with ⟨pool, cam⟩
  rcases building.ready with ⟨set, empty⟩
  rcases Option.isSome_iff_exists.mp set with ⟨frames, same⟩
  have handles (buffers : List (Option Nat × Option Nat)) :
      ({ cam with buffers := buffers } : CamObject).handles.Perm
        (frames :: ((bufferPointers buffers).reduceOption ++
          ({ cam with frames := none } : CamObject).handles)) := by
    have perm := cam.handles_frames frames buffers
    rwa [← same] at perm
  have before : cam.handles.Perm (frames :: ({ cam with frames := none } : CamObject).handles) := by
    refine (handles cam.buffers).trans ?_
    rw [empty, bufferPointers_replicate]
    exact List.Perm.refl _
  have accounts : pool.Accounts (cam.handles ++ others) := building.owns
  have filled := @fillFrames_owns grants attempt.psramMode attempt.fbCount _ _ accounts
  rcases @fillFrames_ready grants attempt.psramMode attempt.fbCount pool with ⟨length, ready⟩
  have owns : Work.Owns others (allocateBuffers grants attempt ⟨pool, cam⟩).2 := by
    refine filled.perm (List.perm_iff_count.mpr fun handle => ?_)
    have old := before.count_eq handle
    have new := (handles (fillFrames grants attempt.psramMode attempt.fbCount pool).2.1).count_eq
      handle
    simp only [List.count_append, List.count_cons, allocateBuffers] at old new ⊢
    omega
  refine ⟨fun success => ⟨owns, building.todo, set, length, ?_⟩, fun _ => owns⟩
  apply ready.mp
  by_contra failed
  refine absurd success ?_
  rw [allocateBuffers]
  simp only
  rw [if_neg failed]
  exact espFail_ne

theorem building_allocateCopied (fresh : slot ∉ todo)
    (stable : ∀ cam pointer, ready cam → ready (cam.set pointer slot)) :
    Fallible.Ensures (Building others (slot :: todo) ready) (allocateCopied grants attempt slot)
      (Building others todo fun cam =>
        ready cam ∧ (attempt.psramMode = false → (cam.get slot).isSome)) (Work.Owns others) := by
  unfold allocateCopied
  split
  next psram =>
    apply Fallible.Ensures.modify
    intro work building
    refine ⟨building.owns, ?_, building.ready, fun copied => ?_⟩
    · exact fun other mem => building.todo other (List.mem_cons_of_mem _ mem)
    · rw [psram] at copied
      cases copied
  next =>
    exact (building_allocate fresh stable).weaken fun work building =>
      ⟨building.owns, building.todo, building.ready.1, fun _ => building.ready.2⟩

/-- All that a camera needs is there, apart from the task. -/
structure CamObject.Complete (attempt : Attempt) (cam : CamObject) : Prop where
  frames : FramesReady attempt cam
  copied : attempt.psramMode = false → cam.dmaBuffer.isSome ∧ cam.dma.isSome
  eventQueue : cam.eventQueue.isSome
  frameBufferQueue : cam.frameBufferQueue.isSome
  dmaIntrHandle : cam.dmaIntrHandle.isSome
  camIntrHandle : cam.camIntrHandle.isSome

/-- The slots in the order of `cam_config`. -/
def allSlots : List Slot :=
  [.dmaBuffer, .dma, .eventQueue, .frameBufferQueue, .dmaIntrHandle, .camIntrHandle, .taskHandle]

theorem building_camDmaConfig :
    Fallible.Ensures (Building others allSlots fun cam => cam.frames = none)
      (camDmaConfig grants attempt)
      (Building others (allSlots.drop 2) fun cam =>
        (FramesReady attempt cam ∧ (attempt.psramMode = false → cam.dmaBuffer.isSome)) ∧
          (attempt.psramMode = false → cam.dma.isSome)) (Work.Owns others) := by
  have sizes : Fallible.Ensures (Building others allSlots fun cam => cam.frames = none)
      (computeSizes attempt) (Building others allSlots fun cam => cam.frames = none)
      (Work.Owns others) :=
    fun work building => ⟨fun _ => building, fun _ => building.owns⟩
  have buffer := @building_allocateCopied grants attempt others (allSlots.drop 1)
    (FramesReady attempt) .dmaBuffer (by decide) (fun _ _ ready => ready)
  have descriptors := @building_allocateCopied grants attempt others (allSlots.drop 2)
    (fun cam => FramesReady attempt cam ∧ (attempt.psramMode = false → cam.dmaBuffer.isSome))
    .dma (by decide) (fun _ _ ready => ready)
  exact sizes.andThen (building_allocateFrames.andThen
    (building_allocateBuffers.andThen (buffer.andThen descriptors)))

/-- The handle of the task is the answer to the last request. -/
def TaskAsked (grants : Nat → Bool) (pool : Pool) (cam : CamObject) : Prop :=
  ∃ number, pool.next = number + 1 ∧
    cam.taskHandle = if grants number = true then some number else none

theorem taskAsked_allocate (work : Work) :
    TaskAsked grants (allocate grants .taskHandle work).2.pool
      (allocate grants .taskHandle work).2.cam := by
  refine ⟨work.pool.next, ?_⟩
  unfold allocate Pool.acquire
  split
  next => exact ⟨rfl, rfl⟩
  next => exact ⟨rfl, rfl⟩

/-- The allocations of `cam_config` are all made, or they are all in the object.  The request for
the task is the last one, and may be refused. -/
theorem camAllocate_ensures :
    Fallible.Ensures (Building others allSlots fun cam => cam.frames = none)
      (camAllocate grants attempt)
      (fun work => work.Owns others ∧ work.cam.Complete attempt ∧
        TaskAsked grants work.pool work.cam)
      (Work.Owns others) := by
  have task : ∀ ready : CamObject → Prop, (∀ cam pointer, ready cam → ready (cam.set pointer
      .taskHandle)) → Fallible.Ensures (Building others [.taskHandle] ready) (createTask grants)
        (fun work => work.Owns others ∧ ready work.cam ∧ TaskAsked grants work.pool work.cam)
        (Work.Owns others) := by
    intro ready stable
    apply Fallible.Ensures.modify
    intro work building
    exact ⟨building.owns.allocate (building.todo _ List.mem_cons_self),
      stable _ _ building.ready, taskAsked_allocate work⟩
  have steps : Fallible.Ensures _ (camAllocate grants attempt) _ _ :=
    (@building_camDmaConfig grants attempt others).andThen
      ((building_allocate (by decide) fun _ _ ready => ready).andThen
        ((building_allocate (by decide) fun _ _ ready => ready).andThen
          ((building_allocate (by decide) fun _ _ ready => ready).andThen
            ((building_allocate (by decide) fun _ _ ready => ready).andThen
              (task _ fun _ _ ready => ready)))))
  refine steps.weaken ?_
  rintro work ⟨owns, ⟨⟨⟨⟨⟨⟨frames, buffer⟩, dma⟩, events⟩, queue⟩, dmaIntr⟩, camIntr⟩, asked⟩
  exact ⟨owns, ⟨frames, fun copied => ⟨buffer copied, dma copied⟩, events, queue, dmaIntr, camIntr⟩,
    asked⟩

/-! ## Addresses -/

theorem mapM_isSome_iff {Source Target : Type} {function : Source → Option Target}
    {sources : List Source} :
    (sources.mapM function).isSome ↔ ∀ source ∈ sources, (function source).isSome := by
  induction sources with
  | nil => exact iff_of_true rfl (List.forall_mem_nil _)
  | cons source sources ih =>
      rw [List.mapM_cons, List.forall_mem_cons, ← ih]
      cases function source <;> cases sources.mapM function <;> simp

/-- Going through the indices is going through the elements. -/
theorem mapM_range {Source Target : Type} (function : Option Source → Option Target)
    (sources : List Source) :
    (List.range sources.length).mapM (fun x => function sources[x]?) =
      sources.mapM fun source => function (some source) := by
  induction sources with
  | nil => rfl
  | cons source sources ih =>
      rw [List.length_cons, List.range_succ_eq_map, List.mapM_cons, List.mapM_cons, List.mapM_map]
      simp only [List.getElem?_cons_zero, List.getElem?_cons_succ, Function.comp_def, ih]

section Addresses

variable (cam : ImageProcessing.CamObj) (sizes : DmaSizes) (inExtMemBkSize : Fin 4)
variable (address : Nat → Nat)

/-- `cam_dma_config` over the frames, if the allocations have the addresses. -/
def addressedFrames (filled : List (Option Nat × Option Nat)) : Option (List FrameMemory) :=
  Camera.camDmaConfig cam sizes inExtMemBkSize (fun x => (filled[x]?.bind Prod.fst).map address)
    fun x => (filled[x]?.bind Prod.snd).isSome

/-- One frame of it. -/
def addressedFrame (buffer : Option Nat × Option Nat) : Option FrameMemory :=
  (buffer.1.map address).bind fun allocated =>
    if cam.psramMode ∧ buffer.2.isSome = false then
      none
    else
      some (frameMemory cam sizes inExtMemBkSize allocated)

variable {cam sizes inExtMemBkSize address}

theorem addressedFrames_eq_mapM {filled : List (Option Nat × Option Nat)}
    (length : filled.length = cam.frameCnt.toNat) :
    addressedFrames cam sizes inExtMemBkSize address filled =
      filled.mapM (addressedFrame cam sizes inExtMemBkSize address) := by
  rw [addressedFrames, Camera.camDmaConfig, ← length]
  exact mapM_range (fun buffer => ((buffer.bind Prod.fst).map address).bind fun allocated =>
    if cam.psramMode ∧ (buffer.bind Prod.snd).isSome = false then none
    else some (frameMemory cam sizes inExtMemBkSize allocated)) filled

theorem addressedFrame_isSome_iff {buffer : Option Nat × Option Nat} :
    (addressedFrame cam sizes inExtMemBkSize address buffer).isSome ↔
      FrameReady cam.psramMode buffer := by
  rcases buffer with ⟨first, second⟩
  cases first <;> cases second <;> simp [addressedFrame, FrameReady]

theorem frameMemory_freed (allocated : Nat) :
    (frameMemory cam sizes inExtMemBkSize allocated).freed = allocated := by
  unfold frameMemory
  split
  next => exact Nat.add_sub_cancel allocated _
  next => exact Nat.sub_zero allocated

theorem addressedFrame_freed {buffer : Option Nat × Option Nat} {frame : FrameMemory}
    (made : addressedFrame cam sizes inExtMemBkSize address buffer = some frame) :
    some frame.freed = buffer.1.map address := by
  rcases Option.bind_eq_some_iff.mp made with ⟨allocated, answer, built⟩
  split at built
  next => cases built
  next =>
    cases built
    rw [answer, frameMemory_freed]

theorem mapM_freed {filled : List (Option Nat × Option Nat)} {frames : List FrameMemory}
    (made : filled.mapM (addressedFrame cam sizes inExtMemBkSize address) = some frames) :
    frames.map (fun frame => some frame.freed) = filled.map fun buffer => buffer.1.map address := by
  induction filled generalizing frames with
  | nil =>
      cases made
      rfl
  | cons buffer filled ih =>
      rw [List.mapM_cons] at made
      rcases Option.bind_eq_some_iff.mp made with ⟨frame, one, others⟩
      rcases Option.bind_eq_some_iff.mp others with ⟨rest, mapped, joined⟩
      cases joined
      rw [List.map_cons, List.map_cons, addressedFrame_freed one, ih mapped]

/-- Both models of `cam_dma_config` agree: the requests for the frames succeed in this one if
and only if they do in the one with addresses, and what `cam_deinit` frees for each frame there
is the address of the handle that it releases here. -/
theorem fillFrames_addressed (pool : Pool) :
    let filled := fillFrames grants cam.psramMode cam.frameCnt.toNat pool
    let made := addressedFrames cam sizes inExtMemBkSize address filled.2.1
    (made.isSome ↔ filled.1 = true) ∧ ∀ frames, made = some frames →
      frames.map (fun frame => some frame.freed) =
        filled.2.1.map fun buffer => buffer.1.map address := by
  intro filled made
  rcases @fillFrames_ready grants cam.psramMode cam.frameCnt.toNat pool with ⟨length, ready⟩
  have same : made = filled.2.1.mapM (addressedFrame cam sizes inExtMemBkSize address) :=
    addressedFrames_eq_mapM length
  rw [same, mapM_isSome_iff]
  refine ⟨?_, fun frames => mapM_freed⟩
  rw [ready]
  exact forall₂_congr fun _ _ => addressedFrame_isSome_iff

end Addresses

end ECam.Camera.Lifecycle
