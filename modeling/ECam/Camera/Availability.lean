import ECam.Camera.Changes

/-!
# A free frame is found

After each frame the task searches the next free one, a frame at a time, while the
application may give frames back.  Nobody but the task takes free frames, so the search finds
one whenever there was one at its start.
-/

namespace ECam.Camera

open ECam.Library

variable {setup : Setup} {driver : Driver}

/-- A free frame is still ahead of the search. -/
def Available (setup : Setup) (driver : Driver) : Prop :=
  ∀ origin x, driver.stage = .search origin x →
    ∃ y, x ≤ y ∧ y < setup.frameCnt ∧ driver.enabled y = true

/-- The others leave the stage of the task alone, and the free frames free. -/
theorem enabled_of_not_task (ownership : Ownership setup driver) {action : Action}
    (other : action ≠ .task) :
    (step setup driver action).stage = driver.stage ∧
      ∀ y, driver.enabled y = true → (step setup driver action).enabled y = true := by
  have unowned : ∀ y, driver.enabled y = true →
      y ∉ driver.held ∧ driver.frameBufferQueue.head? ≠ some y := by
    intro y free
    have apart := ownership.tracks.not_mem free
    simp only [Driver.owned, List.mem_append, not_or] at apart
    exact ⟨apart.2.2, fun first => apart.2.1 (List.mem_of_head? first)⟩
  have application : action.OfApplication →
      (step setup driver action).stage = driver.stage ∧
        ∀ y, driver.enabled y = true → (step setup driver action).enabled y = true := by
    intro application
    refine ⟨(application_sameTask application).stage, fun y free => ?_⟩
    rcases unowned y free with ⟨notHeld, notFirst⟩
    rw [Driver.enabled, application_frames application notHeld notFirst]
    exact free
  cases action with
  | task => exact absurd rfl other
  | take | give | write => exact application trivial
  | interrupt event =>
      simp only [step, llCamSendEvent]
      split
      next => exact ⟨rfl, fun _ free => free⟩
      next => exact ⟨rfl, fun _ free => free⟩
  | byte value =>
      simp only [step, storeByte]
      split
      next =>
        split
        next =>
          refine ⟨rfl, fun y free => ?_⟩
          rw [enabled_setFrame]
          exact (congrFun (Function.update_eq_self _ driver.enabled) y).trans free
        next => exact ⟨rfl, fun _ free => free⟩
      next => exact ⟨rfl, fun _ free => free⟩

/-- Only the stage before a search, and the search itself, lead to a search. -/
theorem camTask_search {origin : CamState} {x : Nat}
    (searching : (camTask setup driver).stage = .search origin x) :
    (camTask setup driver).frames = driver.frames ∧
      ((driver.stage = .next origin ∧ x = 0) ∨
        ∃ y, x = y + 1 ∧ driver.stage = .search origin y ∧ driver.enabled y = false) := by
  unfold camTask at searching ⊢
  cases current : driver.stage with
  | receive =>
      simp only [current] at searching
      split at searching
      next =>
        rw [current] at searching
        cases searching
      next => cases searching
  | handle event =>
      simp only [current] at searching
      split at searching
      next => cases searching
      next => cases searching
      next =>
        rw [camTaskEof_others.1] at searching
        cases searching
      next =>
        simp only [camTaskVsync] at searching
        split at searching
        next =>
          split at searching
          next => cases searching
          next => cases searching
        next => cases searching
  | send =>
      simp only [current] at searching
      split at searching
      next => cases searching
      next => cases searching
  | pop =>
      simp only [current] at searching
      split at searching
      next => cases searching
      next => cases searching
  | push popped =>
      simp only [current] at searching
      split at searching
      next => cases searching
      next => cases searching
  | give popped =>
      simp only [current] at searching
      cases searching
  | next from' =>
      simp only [current] at searching ⊢
      split at searching
      next => cases searching
      next disabled =>
        cases searching
        rw [if_neg disabled]
        exact ⟨rfl, Or.inl ⟨rfl, rfl⟩⟩
  | search from' y =>
      simp only [current] at searching ⊢
      split at searching
      next inside =>
        split at searching
        next => cases searching
        next disabled =>
          cases searching
          rw [if_pos inside, if_neg disabled]
          exact ⟨rfl, Or.inr ⟨y, rfl, rfl, Bool.eq_false_of_not_eq_true disabled⟩⟩
      next => cases searching
  | start from' =>
      simp only [current] at searching
      cases searching
  | started from' =>
      simp only [current] at searching
      cases searching

/-- The task is about to look for the next frame. -/
def Driver.atNext (driver : Driver) : Bool :=
  match driver.stage with
  | .next _ => true
  | _ => false

/-- When the task looks for the next frame, the queue and the application do not have all
frames. -/
def LeavesRoom (setup : Setup) (driver : Driver) (action : Action) : Prop :=
  action = .task → driver.atNext = true →
    driver.frameBufferQueue.length + driver.held.length < setup.frameCnt

instance (setup : Setup) (driver : Driver) (action : Action) :
    Decidable (LeavesRoom setup driver action) :=
  inferInstanceAs (Decidable (_ → _ → _))

/-- One step keeps a free frame ahead of the search, if there is one when the search starts. -/
theorem available_step (ownership : Ownership setup driver) (available : Available setup driver)
    {action : Action} (room : LeavesRoom setup driver action) :
    Available setup (step setup driver action) := by
  intro origin x searching
  by_cases task : action = .task
  · cases task
    rcases camTask_search searching with ⟨frames, ⟨before, rfl⟩ | ⟨y, rfl, before, disabled⟩⟩
    · have fewer : driver.owned.length < setup.frameCnt := by
        rw [Driver.owned, Driver.inFlight, before, List.nil_append, List.length_append]
        exact room rfl (by rw [Driver.atNext, before])
      rcases ownership.tracks.exists_free fewer with ⟨y, inside, free⟩
      refine ⟨y, Nat.zero_le y, inside, ?_⟩
      rw [Driver.enabled, step, frames]
      exact free
    · rcases available origin y before with ⟨z, ahead, inside, free⟩
      have different : z ≠ y := by
        rintro rfl
        rw [free] at disabled
        cases disabled
      refine ⟨z, by omega, inside, ?_⟩
      rw [Driver.enabled, step, frames]
      exact free
  · rcases enabled_of_not_task ownership task with ⟨same, kept⟩
    rw [same] at searching
    rcases available origin x searching with ⟨y, ahead, inside, free⟩
    exact ⟨y, ahead, inside, kept y free⟩

/-- In every run in which the queue and the application together never have all frames when
the task looks for the next one, the task finds a frame each time: it never ends the search
without one and goes back to waiting. -/
theorem search_succeeds (positive : 0 < setup.frameCnt) (contents : Nat → Memory)
    (dmaBuffer : Memory) {actions : List Action}
    (room : EachStep (step setup) (LeavesRoom setup) (Driver.initial contents dmaBuffer) actions) :
    Always (step setup) (fun driver =>
      ∀ origin x, driver.stage = .search origin x → x < setup.frameCnt)
      (Driver.initial contents dmaBuffer) actions := by
  have start : Ownership setup (Driver.initial contents dmaBuffer) ∧
      Available setup (Driver.initial contents dmaBuffer) := by
    refine ⟨ownership_initial positive contents dmaBuffer, ?_⟩
    intro origin x searching
    cases searching
  have always : Always (step setup) (fun driver => Ownership setup driver ∧ Available setup driver)
      (Driver.initial contents dmaBuffer) actions := by
    refine Always.of_steps ?_ start room
    intro driver action holds room
    exact ⟨ownership_step holds.1 action, available_step holds.1 holds.2 room⟩
  refine Always.imp ?_ always
  intro driver holds origin x searching
  rcases holds.2 origin x searching with ⟨y, ahead, inside, -⟩
  omega

/-- Two frames of which the newest is wanted: the application gives its frame back before the
next one ends. -/
def latestSetup : Setup :=
  ⟨{ rawCamObj with frameCnt := 2 }, ⟨1, 1920000, 16000, 120, 3200⟩, true⟩

theorem search_succeeds_latest :
    Always (step latestSetup) (fun driver =>
      ∀ origin x, driver.stage = .search origin x → x < latestSetup.frameCnt)
      (Driver.initial (fun _ _ => 0) (fun _ => 0))
      [.interrupt .vsync, .task, .task, .task, .task, .task, .interrupt .vsync, .task, .task, .task,
        .task, .take, .task, .task, .give 0] :=
  search_succeeds (by decide) _ _ (by decide +kernel)

end ECam.Camera
