import ECam.Library.Run

/-!
# The connection to the access point

The Wi-Fi driver reports events to `event_handler`, which calls `esp_wifi_connect` when the
driver has started and again after each disconnection, up to a number of retries.  An address
starts the count again.

The bits of the event group are never cleared, and once the handler has given up nothing
calls `esp_wifi_connect` any more.
-/

namespace ECam.Client

open ECam.Library

/-- The events of the driver.  The handler has no branch for the others. -/
inductive WifiEvent where
  | staStart
  | staDisconnected
  | staGotIp
  | other
  deriving DecidableEq, Repr

/-- What the driver does. -/
inductive Link where
  | stopped
  | idle
  | connecting
  | up
  deriving DecidableEq, Repr

/-- The variable `s_retry_num`, the two bits of the event group, and the driver with the
number of calls of `esp_wifi_connect`. -/
structure Station where
  retryNum : Nat
  connectedBit : Bool
  failBit : Bool
  link : Link
  connects : Nat
  deriving DecidableEq, Repr

/-- The station before `esp_wifi_start`. -/
def Station.start : Station :=
  ⟨0, false, false, .stopped, 0⟩

/-- `esp_wifi_connect`. -/
def Station.espWifiConnect (station : Station) : Station :=
  { station with link := .connecting, connects := station.connects + 1 }

/-- `event_handler`, with `EXAMPLE_ESP_MAXIMUM_RETRY`. -/
def eventHandler (maximumRetry : Nat) (station : Station) : WifiEvent → Station
  | .staStart => station.espWifiConnect
  | .staDisconnected =>
      if station.retryNum < maximumRetry then
        { station.espWifiConnect with retryNum := station.retryNum + 1 }
      else
        { station with failBit := true }
  | .staGotIp => { station with retryNum := 0, connectedBit := true }
  | .other => station

/-- The driver after an event. -/
def Link.after (link : Link) : WifiEvent → Link
  | .staStart => .idle
  | .staDisconnected => .idle
  | .staGotIp => .up
  | .other => link

/-- The driver reports an event, and the handler is called. -/
def Station.step (maximumRetry : Nat) (station : Station) (event : WifiEvent) : Station :=
  eventHandler maximumRetry { station with link := station.link.after event } event

/-- The events that the driver can report.  It connects only if it is told to: it reports an
address or a disconnection only after a call of `esp_wifi_connect`. -/
def Station.Reports (station : Station) : WifiEvent → Prop
  | .staStart => station.link = .stopped
  | .staDisconnected => station.link = .connecting ∨ station.link = .up
  | .staGotIp => station.link = .connecting ∨ station.link = .up
  | .other => True

instance (station : Station) : (event : WifiEvent) → Decidable (station.Reports event)
  | .staStart => inferInstanceAs (Decidable (_ = _))
  | .staDisconnected | .staGotIp => inferInstanceAs (Decidable (_ ∨ _))
  | .other => inferInstanceAs (Decidable True)

/-- The disconnections since the last address. -/
def streak (events : List WifiEvent) : Nat :=
  events.foldl (fun count event =>
    match event with
    | .staDisconnected => count + 1
    | .staGotIp => 0
    | _ => count) 0

/-- The station has lost the connection too often in a row. -/
def TooMany (maximumRetry : Nat) (events : List WifiEvent) : Prop :=
  ∃ before after, events = before ++ after ∧ maximumRetry < streak before

variable {maximumRetry : Nat} {events : List WifiEvent}

/-- The station after some events. -/
def station (maximumRetry : Nat) (events : List WifiEvent) : Station :=
  events.foldl (Station.step maximumRetry) Station.start

theorem station_snoc (event : WifiEvent) :
    station maximumRetry (events ++ [event]) =
      (station maximumRetry events).step maximumRetry event := by
  rw [station, List.foldl_append, List.foldl_cons, List.foldl_nil]
  rfl

theorem streak_snoc (event : WifiEvent) :
    streak (events ++ [event]) =
      match event with
      | .staDisconnected => streak events + 1
      | .staGotIp => 0
      | _ => streak events := by
  rw [streak, List.foldl_append, List.foldl_cons, List.foldl_nil]
  rfl

theorem tooMany_snoc (event : WifiEvent) :
    TooMany maximumRetry (events ++ [event]) ↔
      TooMany maximumRetry events ∨ maximumRetry < streak (events ++ [event]) := by
  constructor
  · rintro ⟨before, after, split, long⟩
    rcases List.eq_nil_or_concat after with rfl | ⟨rest, last, rfl⟩
    · rw [List.append_nil] at split
      rw [split]
      exact Or.inr long
    · rw [List.concat_eq_append, ← List.append_assoc] at split
      exact Or.inl ⟨before, rest, (List.append_inj' split rfl).1, long⟩
  · rintro (⟨before, after, rfl, long⟩ | long)
    · exact ⟨before, after ++ [event], by rw [List.append_assoc], long⟩
    · exact ⟨events ++ [event], [], by rw [List.append_nil], long⟩

/-- The count is right as long as retries are left. -/
theorem retryNum_eq (maximumRetry : Nat) (events : List WifiEvent) :
    (station maximumRetry events).retryNum = min maximumRetry (streak events) := by
  induction events using List.reverseRecOn with
  | nil => exact (Nat.min_eq_right (Nat.zero_le _)).symm
  | append_singleton events event ih =>
      rw [station_snoc, streak_snoc]
      cases event with
      | staStart | other => exact ih
      | staGotIp => exact (Nat.min_eq_right (Nat.zero_le _)).symm
      | staDisconnected =>
          simp only [Station.step, eventHandler]
          split
          next left =>
            have counted : (station maximumRetry events).retryNum + 1 =
                min maximumRetry (streak events + 1) := by
              have bounded : (station maximumRetry events).retryNum < maximumRetry := left
              omega
            exact counted
          next none =>
            have full : ¬(station maximumRetry events).retryNum < maximumRetry := none
            have counted : (station maximumRetry events).retryNum =
                min maximumRetry (streak events + 1) := by
              omega
            exact counted

/-- The bit is set exactly if too many disconnections came in a row. -/
theorem failBit_iff (maximumRetry : Nat) (events : List WifiEvent) :
    (station maximumRetry events).failBit = true ↔ TooMany maximumRetry events := by
  induction events using List.reverseRecOn with
  | nil =>
      constructor
      · intro set
        cases set
      · rintro ⟨before, after, split, long⟩
        rw [(List.append_eq_nil_iff.mp split.symm).1] at long
        exact absurd long (Nat.not_lt_zero _)
  | append_singleton events event ih =>
      have short : ∀ {count : Nat}, count ≤ streak events →
          (maximumRetry < count → TooMany maximumRetry events) := by
        intro count small long
        exact ⟨events, [], (List.append_nil _).symm, by omega⟩
      have counted := retryNum_eq maximumRetry events
      rw [tooMany_snoc, station_snoc, streak_snoc, ← ih]
      cases event with
      | staStart | other =>
          refine (or_iff_left_of_imp fun long => ?_).symm
          exact ih.mpr (short le_rfl long)
      | staGotIp => exact (or_iff_left (Nat.not_lt_zero _)).symm
      | staDisconnected =>
          simp only [Station.step, eventHandler]
          split
          next left =>
            have bounded : (station maximumRetry events).retryNum < maximumRetry := left
            refine (or_iff_left fun long => ?_).symm
            omega
          next none =>
            have full : ¬(station maximumRetry events).retryNum < maximumRetry := none
            exact iff_of_true rfl (Or.inr (by omega))

/-! ## Giving up -/

/-- The driver was not started or is busy, or the handler has given up. -/
def Station.Sound (station : Station) : Prop :=
  (station.link = .idle ↔ station.failBit = true)

theorem Station.Sound.step {station : Station} {event : WifiEvent} (sound : station.Sound)
    (reported : station.Reports event) : (station.step maximumRetry event).Sound := by
  have busy : station.link ≠ .idle → station.failBit = false := by
    intro other
    rw [← Bool.not_eq_true]
    exact fun failed => other (sound.mpr failed)
  cases event with
  | other => exact sound
  | staStart =>
      have running := busy (by rw [reported]; decide)
      simp [Station.Sound, Station.step, eventHandler, Station.espWifiConnect, running]
  | staGotIp =>
      have running := busy (by rcases reported with link | link <;> rw [link] <;> decide)
      simp [Station.Sound, Station.step, eventHandler, Link.after, running]
  | staDisconnected =>
      have running := busy (by rcases reported with link | link <;> rw [link] <;> decide)
      simp only [Station.step, eventHandler]
      split
      next => simp [Station.Sound, Station.espWifiConnect, running]
      next => simp [Station.Sound, Link.after]

theorem sound_of_legal
    (legal : EachStep (Station.step maximumRetry) Station.Reports .start events) :
    (station maximumRetry events).Sound := by
  have start : Station.start.Sound := by
    unfold Station.Sound
    decide
  exact (Always.of_steps (fun _ _ sound reported => Station.Sound.step sound reported) start
    legal).last

/-- An idle driver reports nothing that the handler answers. -/
theorem idle_forever {first : Station} (idle : first.link = .idle)
    (legal : EachStep (Station.step maximumRetry) Station.Reports first events) :
    (∀ event ∈ events, event = .other) ∧
      events.foldl (Station.step maximumRetry) first = first := by
  induction events with
  | nil => exact ⟨fun _ mem => absurd mem List.not_mem_nil, rfl⟩
  | cons event events ih =>
      rcases legal with ⟨reported, later⟩
      cases event with
      | other =>
          rcases ih later with ⟨others, same⟩
          exact ⟨List.forall_mem_cons.mpr ⟨rfl, others⟩, same⟩
      | staStart =>
          rw [Station.Reports, idle] at reported
          cases reported
      | staDisconnected | staGotIp =>
          rw [Station.Reports, idle] at reported
          rcases reported with link | link <;> cases link

/-- In every run of the driver: the handler gives up exactly if it has seen more
disconnections in a row, without an address in between, than retries.  Then the driver is
idle, and it stays so: the handler is not called for an event that it answers, and there is
no further attempt to connect. -/
theorem station_gives_up
    (legal : EachStep (Station.step maximumRetry) Station.Reports .start events) :
    ((station maximumRetry events).failBit = true ↔ TooMany maximumRetry events) ∧
      ((station maximumRetry events).link = .idle ↔ TooMany maximumRetry events) ∧
      ∀ before after, events = before ++ after → TooMany maximumRetry before →
        (∀ event ∈ after, event = .other) ∧
          station maximumRetry events = station maximumRetry before := by
  refine ⟨failBit_iff maximumRetry events,
    (sound_of_legal legal).trans (failBit_iff maximumRetry events), ?_⟩
  intro before after split many
  rw [split] at legal
  rcases eachStep_append.mp legal with ⟨earlier, later⟩
  have idle : (station maximumRetry before).link = .idle :=
    (sound_of_legal earlier).mpr ((failBit_iff maximumRetry before).mpr many)
  rcases idle_forever idle later with ⟨others, same⟩
  refine ⟨others, ?_⟩
  rw [split, station, List.foldl_append]
  exact same

/-- With one retry, two failed attempts are the end. -/
theorem station_gives_up_twice :
    (station 1 [.staStart, .staDisconnected, .staDisconnected, .other]).failBit = true ∧
      station 1 [.staStart, .staDisconnected, .staDisconnected, .other] =
        station 1 [.staStart, .staDisconnected, .staDisconnected] := by
  have many : TooMany 1 [.staStart, .staDisconnected, .staDisconnected] :=
    ⟨[.staStart, .staDisconnected, .staDisconnected], [], rfl, by decide⟩
  have ends := @station_gives_up 1 [.staStart, .staDisconnected, .staDisconnected, .other]
    (by decide)
  exact ⟨ends.1.mpr ⟨[.staStart, .staDisconnected, .staDisconnected], [.other], rfl, by decide⟩,
    (ends.2.2 [.staStart, .staDisconnected, .staDisconnected] [.other] rfl many).2⟩

end ECam.Client
