import ECam.Camera.Lifecycle.Allocations
import ECam.Library.Run

/-!
# Setting the camera up and taking it down

In every run, what is in use can be reached from `cam_obj` and `s_state`, as long as the camera
is only set up when there is none.  A camera that is set up a second time is not released:
`cam_init` overwrites the pointer to its object before anything is looked at.
-/

namespace ECam.Camera.Lifecycle

open ECam.Library

variable {grants : Nat → Bool} {lastChannel : Nat} {attempt : Attempt}
variable {system : System} {lost : List Nat}

/-! ## Taking down -/

theorem camDeinit_owns (owns : system.Owns lost) :
    (camDeinit system).2.Owns lost ∧ (camDeinit system).2.camObj = none ∧
      (camDeinit system).2.sState = system.sState := by
  rcases system with ⟨pool, camObj, sState, linked⟩
  cases camObj with
  | none => exact ⟨owns, rfl, rfl⟩
  | some cam =>
      refine ⟨?_, rfl, rfl⟩
      have accounts : pool.Accounts (cam.pointers.reduceOption ++ (sState.toList ++ lost)) := by
        refine Pool.Accounts.perm owns ?_
        rw [System.handles, ← List.append_assoc]
        exact List.perm_append_comm.append_right lost
      have released := accounts.releaseAll
      rw [System.Owns, System.handles]
      simp only [camDeinit, System.camHandles, Option.map_none, Option.getD_none, List.append_nil]
      exact released

/-- `esp_camera_deinit` releases all that can be reached. -/
theorem espCameraDeinit_owns (owns : system.Owns lost) :
    (espCameraDeinit system).2.Owns lost ∧ (espCameraDeinit system).2.camObj = none ∧
      (espCameraDeinit system).2.sState = none := by
  rcases camDeinit_owns owns with ⟨stopped, cleared, -⟩
  refine ⟨?_, cleared, rfl⟩
  rw [System.Owns, System.handles, System.camHandles, cleared] at stopped
  rw [System.Owns, System.handles, System.camHandles]
  simp only [espCameraDeinit, cleared, Option.map_none, Option.getD_none, List.append_nil,
    Option.toList_none, List.nil_append] at stopped ⊢
  cases state : (camDeinit system).2.sState with
  | none =>
      rw [state] at stopped
      exact stopped
  | some handle =>
      rw [state] at stopped
      exact Pool.Accounts.release stopped

/-! ## The calls -/

/-- The object is new. -/
def Fresh (camObj : Option CamObject) : Prop :=
  ∃ cam, camObj = some cam ∧ cam.frames = none ∧ ∀ slot ∈ allSlots, cam.get slot = none

/-- All that a camera needs is there, apart from the task, which was asked for. -/
def System.SetUp (grants : Nat → Bool) (attempt : Attempt) (system : System) : Prop :=
  ∃ cam, system.camObj = some cam ∧ cam.Complete attempt ∧ TaskAsked grants system.pool cam

variable {old : List Nat} {state : Option Nat}

/-- `cam_init` loses the object that was there. -/
theorem camInit_ensures :
    Fallible.Ensures
      (fun system => system.Owns lost ∧ system.camHandles = old ∧ system.sState = state)
      (camInit grants lastChannel)
      (fun system => system.Owns (old ++ lost) ∧ Fresh system.camObj ∧ system.sState = state)
      (fun system => system.Owns (old ++ lost) ∧ system.sState = state ∧
        system.camObj = none) := by
  rintro ⟨pool, camObj, sState, linked⟩ ⟨owns, rfl, rfl⟩
  have acquired := @Pool.Accounts.acquire grants _ _ owns
  cases granted : (pool.acquire grants).1 with
  | none =>
      rw [granted] at acquired
      rw [camInit_refused granted]
      refine ⟨fun success => absurd success espErrNoMem_ne,
        fun _ => ⟨?_, rfl, rfl⟩⟩
      refine acquired.perm ?_
      simp only [System.handles, System.camHandles, Option.map_none, Option.getD_none,
        List.append_nil, List.append_assoc, Option.toList_none, List.nil_append]
      exact List.Perm.refl _
  | some object =>
      rw [granted] at acquired
      have owns : System.Owns ((System.mk pool camObj sState linked).camHandles ++ lost)
          ⟨(pool.acquire grants).2, some (.zeroed object), sState, linked⟩ := by
        refine acquired.perm ?_
        simp only [System.handles, Option.toList_some, List.append_assoc]
        exact List.perm_append_comm_assoc [object] _ _
      cases found : findChannel linked lastChannel with
      | none =>
          rcases camDeinit_owns owns with ⟨stopped, cleared, kept⟩
          rw [camInit_missing granted found]
          exact ⟨fun success => absurd success espFail_ne,
            fun _ => ⟨stopped, kept, cleared⟩⟩
      | some x =>
          rw [camInit_found granted found]
          refine ⟨fun _ => ⟨owns, ⟨_, rfl, rfl, ?_⟩, rfl⟩, fun failed => absurd rfl failed⟩
          intro slot _
          cases slot <;> rfl

theorem cameraProbe_ensures :
    Fallible.Ensures
      (fun system => system.Owns lost ∧ Fresh system.camObj ∧ system.sState = state)
      (cameraProbe grants attempt)
      (fun system => system.Owns lost ∧ Fresh system.camObj ∧ state = none ∧
        system.sState.isSome) (System.Owns lost) := by
  rintro ⟨pool, camObj, sState, linked⟩ ⟨owns, fresh, rfl⟩
  cases sState with
  | some handle => exact ⟨fun success => absurd success espErrInvalidState_ne,
      fun _ => owns⟩
  | none =>
      have acquired := @Pool.Accounts.acquire grants _ _ owns
      have next : System.Owns lost
          ⟨(pool.acquire grants).2, camObj, (pool.acquire grants).1, linked⟩ := by
        refine acquired.perm ?_
        simp only [System.handles, Option.toList_none, List.nil_append, List.append_assoc]
        exact List.Perm.refl _
      have computed : cameraProbe grants attempt ⟨pool, camObj, none, linked⟩ =
          (if (pool.acquire grants).1.isNone then espErrNoMem
            else if attempt.found = false then espErrNotFound
            else if attempt.supported = false then espErrNotSupported else 0,
            ⟨(pool.acquire grants).2, camObj, (pool.acquire grants).1, linked⟩) := by
        simp only [cameraProbe, Option.isSome_none, Bool.false_eq_true, if_false]
        split_ifs <;> rfl
      rw [computed]
      refine ⟨fun success => ⟨next, fresh, rfl, ?_⟩, fun _ => next⟩
      by_contra refused
      rw [if_pos (by simpa using refused)] at success
      exact absurd success espErrNoMem_ne

theorem camConfig_ensures :
    Fallible.Ensures
      (fun system => system.Owns lost ∧ Fresh system.camObj ∧ state = none ∧ system.sState.isSome)
      (camConfig grants attempt)
      (fun system => system.Owns lost ∧ state = none ∧ system.sState.isSome ∧
        system.SetUp grants attempt) (System.Owns lost) := by
  rintro ⟨pool, camObj, sState, linked⟩ ⟨owns, ⟨cam, rfl, frames, slots⟩, before, probed⟩
  have building : Building (sState.toList ++ lost) allSlots (fun cam => cam.frames = none)
      ⟨pool, cam⟩ := by
    refine ⟨Pool.Accounts.perm owns ?_, slots, frames⟩
    rw [System.handles, ← List.append_assoc]
    exact List.perm_append_comm.append_right lost
  have built (done : (camAllocate grants attempt ⟨pool, cam⟩).2.Owns (sState.toList ++ lost)) :
      System.Owns lost ⟨(camAllocate grants attempt ⟨pool, cam⟩).2.pool,
        some (camAllocate grants attempt ⟨pool, cam⟩).2.cam, sState, linked⟩ := by
    refine Pool.Accounts.perm done ?_
    rw [System.handles, ← List.append_assoc]
    exact List.perm_append_comm.append_right lost
  rcases @camAllocate_ensures grants attempt _ _ building with ⟨succeeds, fails⟩
  unfold camConfig
  simp only
  split
  next done =>
    rcases succeeds done with ⟨made, complete⟩
    exact ⟨fun _ => ⟨built made, before, probed, _, rfl, complete⟩,
      fun failed => absurd rfl failed⟩
  next failed =>
    exact ⟨fun success => absurd success espFail_ne,
      fun _ => (camDeinit_owns (built (fails failed))).1⟩

/-- `esp_camera_init` succeeds only if there was no camera, and then all is there.  After a
failure there is no object. -/
theorem espCameraInit_ensures :
    Fallible.Ensures
      (fun system => system.Owns lost ∧ system.camHandles = old ∧ system.sState = state)
      (espCameraInit grants lastChannel attempt)
      (fun system => system.Owns (old ++ lost) ∧ state = none ∧ system.sState.isSome ∧
        system.SetUp grants attempt)
      (fun system => system.Owns (old ++ lost) ∧ system.camObj = none ∧
        (system.sState = state ∨ system.sState = none)) := by
  intro system before
  have jpeg : Fallible.Ensures
      (fun system : System =>
        system.Owns (old ++ lost) ∧ Fresh system.camObj ∧ state = none ∧ system.sState.isSome)
      (checkJpeg attempt)
      (fun system =>
        system.Owns (old ++ lost) ∧ Fresh system.camObj ∧ state = none ∧ system.sState.isSome)
      (System.Owns (old ++ lost)) :=
    fun system holds => ⟨fun _ => holds, fun _ => holds.1⟩
  have size : Fallible.Ensures
      (fun system : System => system.Owns (old ++ lost) ∧ state = none ∧ system.sState.isSome ∧
        system.SetUp grants attempt)
      (setFrameSize attempt)
      (fun system => system.Owns (old ++ lost) ∧ state = none ∧ system.sState.isSome ∧
        system.SetUp grants attempt)
      (System.Owns (old ++ lost)) :=
    fun system holds => ⟨fun _ => holds, fun _ => holds.1⟩
  have configure := (@cameraProbe_ensures grants attempt _ _).andThen
    (jpeg.andThen ((@camConfig_ensures grants attempt _ _).andThen size))
  rcases @camInit_ensures grants lastChannel _ _ _ system before with ⟨initialised, refused⟩
  unfold espCameraInit
  simp only
  split
  next failed =>
    rcases refused failed with ⟨owns, kept, cleared⟩
    exact ⟨fun success => absurd success failed, fun _ => ⟨owns, cleared, Or.inl kept⟩⟩
  next done =>
    rcases configure _ (initialised (not_not.mp done)) with ⟨succeeds, fails⟩
    split
    next success => exact ⟨fun _ => succeeds success, fun failed => absurd success failed⟩
    next failed =>
      rcases espCameraDeinit_owns (fails failed) with ⟨owns, cleared, stateless⟩
      exact ⟨fun success => absurd success failed, fun _ => ⟨owns, cleared, Or.inr stateless⟩⟩

/-- The code of `camera_probe` tells that `cam_init` has not failed. -/
theorem camInit_code_ne (system : System) :
    (camInit grants lastChannel system).1 ≠ espErrInvalidState := by
  rcases system with ⟨pool, camObj, sState, linked⟩
  cases granted : (pool.acquire grants).1 with
  | none =>
      rw [camInit_refused granted]
      exact (by decide : espErrNoMem ≠ espErrInvalidState)
  | some object =>
      cases found : findChannel linked lastChannel with
      | none =>
          rw [camInit_missing granted found]
          exact (by decide : espFail ≠ espErrInvalidState)
      | some x =>
          rw [camInit_found granted found]
          exact espErrInvalidState_ne.symm

/-- If there is a state already, it is freed when `camera_probe` finds it. -/
theorem espCameraInit_probed (owns : system.Owns lost) (probed : system.sState.isSome) :
    ((espCameraInit grants lastChannel attempt system).1 = espErrInvalidState →
      (espCameraInit grants lastChannel attempt system).2.sState = none) ∧
    ((espCameraInit grants lastChannel attempt system).1 ≠ espErrInvalidState →
      (espCameraInit grants lastChannel attempt system).2.sState = system.sState) := by
  rcases @camInit_ensures grants lastChannel _ _ _ system ⟨owns, rfl, rfl⟩ with
    ⟨initialised, refused⟩
  unfold espCameraInit
  simp only
  split
  next failed =>
    exact ⟨fun invalid => absurd invalid (camInit_code_ne system), fun _ => (refused failed).2.1⟩
  next done =>
    have kept := (initialised (not_not.mp done)).2.2
    have found : cameraProbe grants attempt (camInit grants lastChannel system).2 =
        (espErrInvalidState, (camInit grants lastChannel system).2) := by
      rw [← kept] at probed
      rw [cameraProbe, if_pos probed]
    simp only [Fallible.andThen, found, espErrInvalidState_ne, if_false]
    exact ⟨fun _ => rfl, fun other => absurd rfl other⟩

/-! ## Runs -/

section Runs

variable (grants lastChannel)

/-- The handles that a step loses: those of the object that `cam_init` overwrites. -/
def stepLoses (system : System) : Event → List Nat
  | .init _ => system.camHandles
  | _ => []

/-- The handles that a run loses. -/
def runLoses (system : System) : List Event → List Nat
  | [] => []
  | event :: events =>
      runLoses (step grants lastChannel system event) events ++ stepLoses system event

end Runs

theorem step_owns (owns : system.Owns lost) (event : Event) :
    (step grants lastChannel system event).Owns (stepLoses system event ++ lost) := by
  cases event with
  | init attempt =>
      have ensured := @espCameraInit_ensures grants lastChannel attempt _ _ _ system
        ⟨owns, rfl, rfl⟩
      by_cases success : (espCameraInit grants lastChannel attempt system).1 = 0
      · exact (ensured.1 success).1
      · exact (ensured.2 success).1
  | deinit => exact (espCameraDeinit_owns owns).1
  | start =>
      rcases system with ⟨pool, camObj, sState, linked⟩
      cases camObj <;> exact owns
  | link => exact owns

theorem run_owns (owns : system.Owns lost) (events : List Event) :
    (events.foldl (step grants lastChannel) system).Owns
      (runLoses grants lastChannel system events ++ lost) := by
  induction events generalizing system lost with
  | nil => exact owns
  | cons event events ih =>
      rw [List.foldl_cons, runLoses, List.append_assoc]
      exact ih (step_owns owns event)

/-- There is no object without the state. -/
def System.Paired (system : System) : Prop :=
  system.camObj.isSome → system.sState.isSome

theorem init_paired (attempt : Attempt) (owns : system.Owns lost) :
    (espCameraInit grants lastChannel attempt system).2.Paired := by
  have ensured := @espCameraInit_ensures grants lastChannel attempt _ _ _ system
    ⟨owns, rfl, rfl⟩
  by_cases success : (espCameraInit grants lastChannel attempt system).1 = 0
  · exact fun _ => (ensured.1 success).2.2.1
  · intro set
    rw [(ensured.2 success).2.1] at set
    cases set

theorem step_paired (owns : system.Owns lost) (paired : system.Paired) (event : Event) :
    (step grants lastChannel system event).Paired := by
  cases event with
  | init attempt => exact init_paired attempt owns
  | deinit =>
      intro set
      rw [step, (espCameraDeinit_owns owns).2.1] at set
      cases set
  | start =>
      rcases system with ⟨pool, camObj, sState, linked⟩
      cases camObj <;> exact paired
  | link => exact paired

theorem run_paired (owns : system.Owns lost) (paired : system.Paired) (events : List Event) :
    (events.foldl (step grants lastChannel) system).Paired := by
  induction events generalizing system lost with
  | nil => exact paired
  | cons event events ih => exact ih (step_owns owns event) (step_paired owns paired event)

theorem start_owns (linked : Nat → Bool) : (System.start linked).Owns [] :=
  Pool.Accounts.empty

theorem start_paired (linked : Nat → Bool) : (System.start linked).Paired := by
  intro set
  cases set

/-- In every run of calls and failures: nothing is released twice, and what is in use can be
reached from `cam_obj` and `s_state`, apart from the objects that were overwritten by a further
`esp_camera_init`. -/
theorem resources_accounted (linked : Nat → Bool) (events : List Event) :
    let system := events.foldl (step grants lastChannel) (.start linked)
    let owned := system.handles ++ runLoses grants lastChannel (.start linked) events
    system.pool.misused = false ∧ system.pool.live.Perm owned ∧ owned.Nodup ∧ system.Paired := by
  have owns := @run_owns grants lastChannel _ _ (start_owns linked) events
  rw [List.append_nil] at owns
  exact ⟨owns.sound, owns.live, owns.nodup, run_paired (start_owns linked) (start_paired linked) _⟩

/-- If `esp_camera_init` is called for a camera that is set up, it fails and the object is gone.
`s_state` is freed if `camera_probe` finds it, and stays otherwise.  Whatever is called
afterwards, nothing of the first object is ever released: neither its memory nor its queues nor
its interrupts nor its task, which goes on without an object. -/
theorem second_init_loses (linked : Nat → Bool) (before after : List Event) (attempt : Attempt)
    {cam : CamObject}
    (current : (before.foldl (step grants lastChannel) (.start linked)).camObj = some cam) :
    let first := before.foldl (step grants lastChannel) (.start linked)
    let again := espCameraInit grants lastChannel attempt first
    again.1 ≠ 0 ∧ again.2.camObj = none ∧
      (again.1 = espErrInvalidState → again.2.sState = none) ∧
      (again.1 ≠ espErrInvalidState → again.2.sState = first.sState) ∧
      ∀ handle ∈ cam.handles,
        handle ∈ (after.foldl (step grants lastChannel) again.2).pool.live := by
  intro first again
  have owns := @run_owns grants lastChannel _ _ (start_owns linked) before
  have paired := @run_paired grants lastChannel _ _ (start_owns linked) (start_paired linked) before
  have ensured := @espCameraInit_ensures grants lastChannel attempt _ _ _ first ⟨owns, rfl, rfl⟩
  have probed : first.sState.isSome := paired (by rw [current]; rfl)
  have fails : again.1 ≠ 0 := by
    intro success
    rw [(ensured.1 success).2.1] at probed
    cases probed
  rcases @espCameraInit_probed grants lastChannel attempt _ _ owns probed with ⟨freed, stays⟩
  refine ⟨fails, (ensured.2 fails).2.1, freed, stays, ?_⟩
  intro handle mem
  have later := @run_owns grants lastChannel _ _ (ensured.2 fails).1 after
  have handles : first.camHandles = cam.handles := by
    rw [System.camHandles, current]
    rfl
  rw [handles] at later
  refine later.live.mem_iff.mpr ?_
  simp only [List.mem_append]
  exact Or.inr (Or.inr (Or.inl mem))

/-- Two frames that are sent directly, and nothing fails. -/
def untroubled : Attempt :=
  ⟨2, true, true, true, true, true, true, true⟩

/-- The task of the first camera is never deleted. -/
theorem second_init_loses_task :
    11 ∈ ([Event.deinit].foldl (step (fun _ => true) 4)
      (espCameraInit (fun _ => true) 4 untroubled
        ([Event.init untroubled].foldl (step (fun _ => true) 4)
          (.start fun _ => false))).2).pool.live :=
  (second_init_loses (fun _ => false) [.init untroubled] [.deinit] untroubled rfl).2.2.2.2 11
    (by decide)

/-- A camera is only set up if there is none. -/
def InTurn (system : System) : Event → Prop
  | .init _ => system.camObj = none
  | _ => True

/-- Either there is a camera, or there is nothing. -/
def System.Whole (system : System) : Prop :=
  system.camObj = none → system.sState = none

theorem step_inTurn (owns : system.Owns []) (whole : system.Whole) {event : Event}
    (inTurn : InTurn system event) :
    (step grants lastChannel system event).Owns [] ∧
      (step grants lastChannel system event).Whole := by
  have next := @step_owns grants lastChannel _ _ owns event
  cases event with
  | init attempt =>
      have empty : system.camHandles = [] := by
        rw [System.camHandles, inTurn]
        rfl
      refine ⟨by rwa [stepLoses, empty] at next, ?_⟩
      have ensured := @espCameraInit_ensures grants lastChannel attempt _ _ _ system
        ⟨owns, rfl, rfl⟩
      intro cleared
      by_cases success : (espCameraInit grants lastChannel attempt system).1 = 0
      · rcases (ensured.1 success).2.2.2 with ⟨cam, set, -⟩
        rw [step, set] at cleared
        cases cleared
      · rcases (ensured.2 success).2.2 with same | stateless
        · exact same.trans (whole inTurn)
        · exact stateless
  | deinit => exact ⟨next, fun _ => (espCameraDeinit_owns owns).2.2⟩
  | start =>
      rcases system with ⟨pool, camObj, sState, linked⟩
      cases camObj with
      | none => exact ⟨next, whole⟩
      | some cam => exact ⟨next, fun cleared => by cases cleared⟩
  | link => exact ⟨next, whole⟩

theorem run_inTurn (owns : system.Owns []) (whole : system.Whole) {events : List Event}
    (inTurn : EachStep (step grants lastChannel) InTurn system events) :
    (events.foldl (step grants lastChannel) system).Owns [] ∧
      (events.foldl (step grants lastChannel) system).Whole := by
  induction events generalizing system with
  | nil => exact ⟨owns, whole⟩
  | cons event events ih =>
      rcases step_inTurn owns whole inTurn.1 with ⟨nextOwns, nextWhole⟩
      exact ih nextOwns nextWhole inTurn.2

theorem System.Owns.live_nil (owns : system.Owns []) (whole : system.Whole)
    (cleared : system.camObj = none) : system.pool.live = [] := by
  have live := owns.live
  rw [System.handles, System.camHandles, cleared, whole cleared] at live
  exact live.eq_nil

/-- If the camera is only set up when there is none: what is in use is what belongs to it, and
there is nothing without a camera.  Setting it up gives all that it needs apart from the task, or
leaves nothing, whichever request or test fails.  The task was asked for last, and nobody looks
at the answer. -/
theorem init_all_or_nothing (linked : Nat → Bool) {events : List Event}
    (inTurn : EachStep (step grants lastChannel) InTurn (.start linked) events)
    (attempt : Attempt) :
    let system := events.foldl (step grants lastChannel) (.start linked)
    let result := espCameraInit grants lastChannel attempt system
    system.pool.live.Perm system.handles ∧
      (system.camObj = none → system.pool.live = [] ∧
        (result.1 = 0 → result.2.SetUp grants attempt) ∧
        (result.1 ≠ 0 → result.2.pool.live = [])) := by
  intro system result
  rcases run_inTurn (start_owns linked) (fun _ => rfl) inTurn with ⟨owns, whole⟩
  refine ⟨?_, fun cleared => ⟨owns.live_nil whole cleared, fun success => ?_, fun failed => ?_⟩⟩
  · have live := owns.live
    rwa [List.append_nil] at live
  · exact ((espCameraInit_ensures system ⟨owns, rfl, rfl⟩).1 success).2.2.2
  · rcases @step_inTurn grants lastChannel _ owns whole (.init attempt) cleared with
      ⟨nextOwns, nextWhole⟩
    exact nextOwns.live_nil nextWhole
      ((espCameraInit_ensures system ⟨owns, rfl, rfl⟩).2 failed).2.1

/-- The task is refused, and the camera is set up without it. -/
example : (espCameraInit (fun number => number != 11) 4 untroubled
    (.start fun _ => false)).1 = 0 ∧
      ((espCameraInit (fun number => number != 11) 4 untroubled
        (.start fun _ => false)).2.camObj.map CamObject.taskHandle) = some none := by
  decide

/-- The frame size is refused to the camera that is set up after another one. -/
theorem init_all_or_nothing_refused :
    (espCameraInit (fun _ => true) 4 { untroubled with framesizeSet := false }
      ([Event.init untroubled, Event.deinit].foldl (step (fun _ => true) 4)
        (.start fun _ => false))).2.pool.live = [] :=
  ((@init_all_or_nothing (fun _ => true) 4 (fun _ => false) [.init untroubled, .deinit]
    ⟨rfl, trivial, trivial⟩ { untroubled with framesizeSet := false }).2 rfl).2.2 (by decide)

end ECam.Camera.Lifecycle
