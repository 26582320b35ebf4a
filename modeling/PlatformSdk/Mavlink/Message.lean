import PlatformSdk.Geometry
import PlatformSdk.Mavlink.State

/-!
# Messages of a vehicle

The messages that `Vehicle::update` looks at, as the decoders of the MAVLink
headers deliver them, with the members that the program reads.
-/

namespace Airmap.Mavlink

/-- `mavlink::GlobalPositionInt`. -/
structure GlobalPositionInt where
  lat : Int32
  lon : Int32
  alt : Int32 := 0
  relativeAlt : Int32 := 0
  deriving DecidableEq, Inhabited

/-- `mavlink_mission_item_t`. -/
structure MissionItem where
  seq : UInt16
  missionType : UInt8
  x : Double
  y : Double
  z : Double
  deriving DecidableEq

/-- What a message says; `other` stands for every id that is ignored. -/
inductive Payload where
  | heartbeat (systemStatus : UInt8)
  | globalPositionInt (position : GlobalPositionInt)
  | missionClearAll
  | missionCount (count : UInt16)
  | missionItem (item : MissionItem)
  | other
  deriving DecidableEq

/-- `mavlink_message_t`. -/
structure Message where
  sysid : UInt8
  payload : Payload
  deriving DecidableEq

/-- The position that a message reports. -/
def Message.position : Message → Option GlobalPositionInt
  | ⟨_, .globalPositionInt position⟩ => some position
  | _ => none

end Airmap.Mavlink
