import PlatformSdk.Mavlink.Message

/-!
# Missions and vehicles

`Mission` collects the waypoints of a mission in the order of their numbers;
`Vehicle` keeps the last status and position and tells its monitors about each
change.  The calls on a monitor are the notifications that `update` returns.
-/

namespace Airmap.Mavlink

/-- `Mission`. -/
structure Mission where
  coordinates : List Geometry.Coordinate := []
  counter : ℕ := 0
  missionSize : ℕ := 0
  deriving DecidableEq

namespace Mission

/-- `MAV_CMD_NAV_WAYPOINT`. -/
def navWaypoint : UInt8 := 16

def handleMsgMissionClearAll (_ : Mission) : Mission := {}

def handleMsgMissionCount (count : UInt16) (_ : Mission) : Mission where
  coordinates := []
  counter := 0
  missionSize := count.toNat

def handleMsgMissionItem (item : MissionItem) (m : Mission) : Mission × Bool :=
  if item.seq.toNat = m.counter then
    let m := { m with counter := m.counter + 1 }
    let m :=
      if item.missionType = navWaypoint then
        { m with coordinates := m.coordinates ++ [⟨item.x, item.y, some item.z, none⟩] }
      else m
    (m, m.counter == m.missionSize)
  else (m, false)

/-- `Mission::update`: the mission after a message, and whether it is complete. -/
def update (m : Mission) : Payload → Mission × Bool
  | .missionClearAll => (m.handleMsgMissionClearAll, false)
  | .missionCount count => (m.handleMsgMissionCount count, false)
  | .missionItem item => m.handleMsgMissionItem item
  | .heartbeat _ | .globalPositionInt _ | .other => (m, false)

end Mission

/-- A call on a `Vehicle::Monitor`. -/
inductive Notification where
  | systemStatusChanged (oldState : Option State) (newState : State)
  | positionChanged (oldPosition : Option GlobalPositionInt)
      (newPosition : GlobalPositionInt)
  | missionReceived (geometry : Geometry)

/-- The position that a notification reports. -/
def Notification.position : Notification → Option GlobalPositionInt
  | .positionChanged _ newPosition => some newPosition
  | .systemStatusChanged _ _ | .missionReceived _ => none

/-- `Vehicle`, without the set of its monitors. -/
structure Vehicle where
  systemId : UInt8
  systemStatus : State := .uninit
  globalPositionInt : Option GlobalPositionInt := none
  mission : Mission := {}

namespace Vehicle

def handleMsgHeartbeat (systemStatus : UInt8) (v : Vehicle) :
    Vehicle × List Notification :=
  if v.systemStatus.code = systemStatus then (v, [])
  else
    ({ v with systemStatus := State.ofCode systemStatus },
      [.systemStatusChanged (some v.systemStatus) (State.ofCode systemStatus)])

def handleMsgGlobalPositionInt (position : GlobalPositionInt) (v : Vehicle) :
    Vehicle × List Notification :=
  ({ v with globalPositionInt := some position },
    [.positionChanged v.globalPositionInt position])

def handleMsgMission (payload : Payload) (v : Vehicle) :
    Vehicle × List Notification :=
  let (mission, complete) := v.mission.update payload
  ({ v with mission := mission },
    if complete then [.missionReceived (.lineString mission.coordinates)] else [])

/-- `Vehicle::update`; `none` where the assertion on the system id fails. -/
def update (v : Vehicle) (message : Message) : Option (Vehicle × List Notification) :=
  if v.systemId = message.sysid then
    match message.payload with
    | .heartbeat systemStatus => some (v.handleMsgHeartbeat systemStatus)
    | .globalPositionInt position => some (v.handleMsgGlobalPositionInt position)
    | .missionClearAll => some (v.handleMsgMission .missionClearAll)
    | .missionCount count => some (v.handleMsgMission (.missionCount count))
    | .missionItem item => some (v.handleMsgMission (.missionItem item))
    | .other => some (v, [])
  else none

/-- A mission message delivers nothing, or a line string. -/
theorem handleMsgMission_cases (payload : Payload) (v : Vehicle) :
    (v.handleMsgMission payload).1.systemStatus = v.systemStatus ∧
      ((v.handleMsgMission payload).2 = [] ∨
        ∃ coordinates, (v.handleMsgMission payload).2 =
          [.missionReceived (.lineString coordinates)]) := by
  refine ⟨rfl, ?_⟩
  simp only [handleMsgMission]
  split
  · exact Or.inr ⟨_, rfl⟩
  · exact Or.inl rfl

theorem systemId_handleMsgHeartbeat (systemStatus : UInt8) (v : Vehicle) :
    (v.handleMsgHeartbeat systemStatus).1.systemId = v.systemId := by
  simp only [handleMsgHeartbeat]
  split
  · rfl
  · rfl

/-- A message of its own system updates a vehicle, and leaves the system id. -/
theorem exists_update_eq_some {v : Vehicle} {message : Message}
    (h : v.systemId = message.sysid) :
    ∃ v' notifications, v.update message = some (v', notifications) ∧
      v'.systemId = v.systemId := by
  simp only [update, if_pos h]
  split
  · next systemStatus _ =>
      exact ⟨(v.handleMsgHeartbeat systemStatus).1, (v.handleMsgHeartbeat systemStatus).2,
        rfl, systemId_handleMsgHeartbeat systemStatus v⟩
  · exact ⟨_, _, rfl, rfl⟩
  · exact ⟨_, _, rfl, rfl⟩
  · exact ⟨_, _, rfl, rfl⟩
  · exact ⟨_, _, rfl, rfl⟩
  · exact ⟨_, _, rfl, rfl⟩

/-- A vehicle notifies of the positions that it is told of. -/
theorem update_positions {v v' : Vehicle} {message : Message}
    {notifications : List Notification}
    (h : v.update message = some (v', notifications)) :
    notifications.filterMap Notification.position =
      [message].filterMap Message.position := by
  have hmission : ∀ payload, some (v.handleMsgMission payload) =
      some (v', notifications) → notifications.filterMap Notification.position = [] := by
    intro payload heq
    have hnotifications : (v.handleMsgMission payload).2 = notifications :=
      congrArg Prod.snd (Option.some.inj heq)
    rcases (handleMsgMission_cases payload v).2 with hnone | ⟨coordinates, hline⟩
    · rw [← hnotifications, hnone]
      rfl
    · rw [← hnotifications, hline]
      rfl
  rcases message with ⟨sysid, payload⟩
  simp only [update] at h
  split at h
  · cases payload with
    | heartbeat systemStatus =>
        simp only [handleMsgHeartbeat] at h
        split at h
        · cases h
          rfl
        · cases h
          rfl
    | globalPositionInt position =>
        cases h
        rfl
    | missionClearAll | missionCount | missionItem => exact hmission _ h
    | other =>
        cases h
        rfl
  · cases h

end Vehicle
end Airmap.Mavlink
