import PlatformSdk.Cmd.SimulateScenario
import PlatformSdk.Machine.Tracing
import PlatformSdk.Machine.Transducer
import PlatformSdk.Mavlink.Mission

/-!
# Announcing the participants

`TcpRouteMonitor` sends the geometry of every participant to each new session, as a
mission whose items are numbered from zero.  A mission that receives them is complete
with the last one, whatever it was before.
-/

namespace Airmap.Cmd.SimulateScenario.TcpRouteMonitor

open Machine (Attempt Tracing)
open Mavlink

/-- `util::Scenario::Participant` with its id. -/
structure Participant extends Util.Scenario.Participant where
  id : UInt32

/-- The outer ring of the polygon of a participant. -/
def Participant.outerRing (p : Participant) : List Geometry.Coordinate :=
  p.geometry.detailsForPolygon.outerRing

variable (narrowing : Double.Narrowing) (toDegE7 : Double → Int32)

/-- A message of a participant, whose id is packed as a single byte. -/
def send (p : Participant) (payload : Payload) : Tracing Message Unit :=
  Tracing.emit (fun _ => none) { sysid := p.id.toUInt8, payload }

/-- What `mavlink_msg_mission_item_pack` is given for a coordinate: no command, and the
command of a waypoint for the type of the mission. -/
def missionItem (seq : UInt16) (c : Geometry.Coordinate) : ItemMessage where
  seq := seq
  command := 0
  x := narrowing.toFloat c.latitude
  y := narrowing.toFloat c.longitude
  z := .finite 100
  missionType := Mission.navWaypoint

/-- The loop over the coordinates of the ring. -/
def sendItems (p : Participant) : UInt16 → List Geometry.Coordinate → Tracing Message Unit
  | _, [] => pure ()
  | seq, c :: ring => do
      send p (.missionItem (missionItem narrowing seq c).toMissionItem)
      sendItems p (seq + 1) ring

/-- The body of the loop over the participants; `toDegE7` is the conversion of a
`double`, times 1E7, to an integer. -/
def announce (p : Participant) : Tracing Message Unit := do
  let first ← Tracing.lift <|
    match p.outerRing with
    | [] => .throws "vector::_M_range_check: __n (which is 0) >= this->size() (which is 0)"
    | c :: _ => .returns c
  send p (.globalPositionInt
    { lat := toDegE7 first.latitude
      lon := toDegE7 first.longitude
      alt := 100000
      relativeAlt := 100000 })
  send p (.missionCount (.ofNat p.outerRing.length))
  sendItems narrowing p 0 p.outerRing
  send p (.heartbeat 4)

/-- `on_new_session`: what is sent for the participants in turn. -/
def onNewSession : List Participant → Tracing Message Unit
  | [] => pure ()
  | p :: participants => do
      announce narrowing toDegE7 p
      onNewSession participants

/-! ## What is sent -/

/-- The items of a ring, numbered from `seq`. -/
def itemMessages (p : Participant) : UInt16 → List Geometry.Coordinate → List Message
  | _, [] => []
  | seq, c :: ring =>
      { sysid := p.id.toUInt8
        payload := .missionItem (missionItem narrowing seq c).toMissionItem } ::
        itemMessages p (seq + 1) ring

/-- The mission of a participant: the number of its items, then the items. -/
def missionMessages (p : Participant) : List Message :=
  { sysid := p.id.toUInt8, payload := .missionCount (.ofNat p.outerRing.length) } ::
    itemMessages narrowing p 0 p.outerRing

/-- The messages of the upload of a mission. -/
def isUpload (message : Message) : Bool :=
  match message.payload with
  | .missionCount _ | .missionItem _ => true
  | _ => false

variable {narrowing toDegE7} {p : Participant}

theorem run_sendItems (seq : UInt16) (ring : List Geometry.Coordinate)
    (trace : List Message) :
    (sendItems narrowing p seq ring).run trace =
      (.returns (), trace ++ itemMessages narrowing p seq ring) := by
  induction ring generalizing seq trace with
  | nil => simp [sendItems, itemMessages]
  | cons c ring ih =>
      rw [sendItems, send, Tracing.run_bind_of_returns (Tracing.run_emit_none _), ih,
        itemMessages, List.append_assoc]
      rfl

theorem filter_itemMessages (seq : UInt16) (ring : List Geometry.Coordinate) :
    (itemMessages narrowing p seq ring).filter isUpload = itemMessages narrowing p seq ring := by
  induction ring generalizing seq with
  | nil => rfl
  | cons c ring ih => rw [itemMessages, List.filter_cons_of_pos rfl, ih]

/-- A participant with a ring is announced with its position, its mission and a
heartbeat. -/
theorem run_announce {first : Geometry.Coordinate} {ring : List Geometry.Coordinate}
    (hring : p.outerRing = first :: ring) (trace : List Message) :
    (announce narrowing toDegE7 p).run trace =
      (.returns (), trace ++
        [{ sysid := p.id.toUInt8
           payload := .globalPositionInt
            { lat := toDegE7 first.latitude
              lon := toDegE7 first.longitude
              alt := 100000
              relativeAlt := 100000 } }] ++
        missionMessages narrowing p ++
        [{ sysid := p.id.toUInt8, payload := .heartbeat 4 }]) := by
  simp only [announce, send, hring, Tracing.lift_returns_bind]
  rw [Tracing.run_bind_of_returns (Tracing.run_emit_none _),
    Tracing.run_bind_of_returns (Tracing.run_emit_none _),
    Tracing.run_bind_of_returns (run_sendItems 0 _ _), Tracing.run_emit_none]
  simp [missionMessages, hring]

theorem filter_announce (hring : p.outerRing ≠ []) :
    ((announce narrowing toDegE7 p).run []).2.filter isUpload = missionMessages narrowing p := by
  obtain ⟨first, ring, hcons⟩ := List.exists_cons_of_ne_nil hring
  have hmission : (missionMessages narrowing p).filter isUpload =
      missionMessages narrowing p := by
    rw [missionMessages, List.filter_cons_of_pos rfl, filter_itemMessages]
  rw [run_announce hcons, List.nil_append, List.filter_append, List.filter_append, hmission]
  simp [isUpload]

/-- Participants that have a ring each are announced one after the other. -/
theorem run_onNewSession {participants : List Participant}
    (hrings : ∀ p ∈ participants, p.outerRing ≠ []) (trace : List Message) :
    (onNewSession narrowing toDegE7 participants).run trace =
      (.returns (), trace ++
        participants.flatMap fun p => ((announce narrowing toDegE7 p).run []).2) := by
  induction participants generalizing trace with
  | nil => simp [onNewSession]
  | cons p participants ih =>
      obtain ⟨hring, hrest⟩ := List.forall_mem_cons.mp hrings
      obtain ⟨first, ring, hcons⟩ := List.exists_cons_of_ne_nil hring
      rw [onNewSession, Tracing.run_bind_of_returns (run_announce hcons trace), ih hrest,
        List.flatMap_cons, run_announce hcons]
      simp

/-! ## What is received -/

/-- A mission receives a message, and says whether it is complete. -/
def receive (m : Mission) (message : Message) : Mission × List Bool :=
  ((m.update message.payload).1, [(m.update message.payload).2])

/-- The coordinate that is received for one of the ring. -/
def received (narrowing : Double.Narrowing) (c : Geometry.Coordinate) :
    Geometry.Coordinate :=
  ⟨narrowing.toFloat c.latitude, narrowing.toFloat c.longitude, some (.finite 100), none⟩

theorem receive_item {seq : UInt16} {m : Mission} (hcounter : m.counter = seq.toNat)
    (sysid : UInt8) (c : Geometry.Coordinate) :
    receive m ⟨sysid, .missionItem (missionItem narrowing seq c).toMissionItem⟩ =
      ({ m with
          coordinates := m.coordinates ++ [received narrowing c]
          counter := m.counter + 1 }, [m.counter + 1 == m.missionSize]) := by
  simp [receive, Mission.update, Mission.handleMsgMissionItem, missionItem, received,
    hcounter]

/-- The rest of a ring: the mission counts on from the number of the next item, and is
complete where the count comes to its size. -/
theorem feed_itemMessages {ring : List Geometry.Coordinate} {seq : UInt16} {m : Mission}
    (hcounter : m.counter = seq.toNat) (hlast : m.counter + ring.length ≤ 65535) :
    Machine.feed receive m (itemMessages narrowing p seq ring) =
      ({ m with
          coordinates := m.coordinates ++ ring.map (received narrowing)
          counter := m.counter + ring.length },
        (List.range' (m.counter + 1) ring.length).map (· == m.missionSize)) := by
  induction ring generalizing seq m with
  | nil => simp [itemMessages]
  | cons c ring ih =>
      rw [List.length_cons] at hlast
      have hnext : m.counter + 1 = (seq + 1).toNat := by
        rw [hcounter, UInt16.toNat_add, UInt16.toNat_one, Nat.mod_eq_of_lt]
        omega
      have hrest : m.counter + 1 + ring.length ≤ 65535 := by omega
      rw [itemMessages, Machine.feed_cons, receive_item hcounter]
      dsimp only
      rw [ih hnext hrest]
      simp [List.range'_succ, Nat.add_right_comm, Nat.add_assoc]

/-- Counting to `n`, only the last number is `n`. -/
theorem map_range'_beq_last {n : ℕ} (hn : 1 ≤ n) :
    (List.range' 1 n).map (· == n) = List.replicate (n - 1) false ++ [true] := by
  obtain ⟨k, rfl⟩ := Nat.exists_eq_add_of_le' hn
  have hbefore : (List.range' 1 k).map (· == k + 1) = List.replicate k false := by
    rw [List.eq_replicate_iff]
    refine ⟨by simp, ?_⟩
    simp only [List.mem_map, List.mem_range'_1]
    rintro _ ⟨i, hi, rfl⟩
    rw [beq_eq_false_iff_ne]
    omega
  rw [List.range'_concat, List.map_append, hbefore]
  simp [Nat.add_comm]

/-- Whatever a mission was before, it is complete with the last message of the mission
of a participant and not before, and then is the ring of the participant. -/
theorem mission_received (narrowing : Double.Narrowing) (toDegE7 : Double → Int32)
    {p : Participant} (hfirst : 1 ≤ p.outerRing.length)
    (hlast : p.outerRing.length ≤ 65535) (m : Mission) :
    let uploads := ((announce narrowing toDegE7 p).run []).2.filter isUpload
    (Machine.feed receive m uploads).2 =
        List.replicate p.outerRing.length false ++ [true] ∧
      (Machine.feed receive m uploads).1.coordinates =
        p.outerRing.map (received narrowing) := by
  have hring : p.outerRing ≠ [] := List.ne_nil_of_length_pos hfirst
  have hsize : (UInt16.ofNat p.outerRing.length).toNat = p.outerRing.length := by
    rw [UInt16.toNat_ofNat']
    exact Nat.mod_eq_of_lt (by omega)
  have hcount : receive m
      { sysid := p.id.toUInt8, payload := .missionCount (.ofNat p.outerRing.length) } =
        ({ coordinates := [], counter := 0, missionSize := p.outerRing.length }, [false]) := by
    rw [receive, Mission.update, Mission.handleMsgMissionCount, hsize]
  have hitems : Machine.feed receive
      { coordinates := [], counter := 0, missionSize := p.outerRing.length }
      (itemMessages narrowing p 0 p.outerRing) =
        ({ coordinates := p.outerRing.map (received narrowing)
           counter := p.outerRing.length
           missionSize := p.outerRing.length },
          List.replicate (p.outerRing.length - 1) false ++ [true]) := by
    rw [feed_itemMessages rfl (by simpa using hlast)]
    simp [map_range'_beq_last hfirst]
  intro uploads
  have huploads : uploads = missionMessages narrowing p := filter_announce hring
  obtain ⟨n, hn⟩ := Nat.exists_eq_add_of_le' hfirst
  rw [huploads, missionMessages, Machine.feed_cons, hcount, hitems, hn]
  simp [List.replicate_succ]

/-- A participant with two corners, the first of which needs no conversion. -/
def twoCorners : Participant where
  id := 1
  geometry := .polygon
    { outerRing :=
        [⟨.finite 0, .finite 0, none, none⟩, ⟨.finite 47, .finite 8, none, none⟩] }

/-- It is received in the middle of another mission. -/
theorem mission_received_twoCorners :
    let m : Mission := { coordinates := [], counter := 1, missionSize := 2 }
    let uploads := ((announce ⟨id, fun _ => rfl⟩ (fun _ => 0) twoCorners).run
      []).2.filter isUpload
    (Machine.feed receive m uploads).2 =
        List.replicate twoCorners.outerRing.length false ++ [true] ∧
      (Machine.feed receive m uploads).1.coordinates =
        twoCorners.outerRing.map (received ⟨id, fun _ => rfl⟩) :=
  mission_received ⟨id, fun _ => rfl⟩ (fun _ => 0) (by decide) (by decide)
    { coordinates := [], counter := 1, missionSize := 2 }

end Airmap.Cmd.SimulateScenario.TcpRouteMonitor
