import PlatformSdk.Machine.History
import PlatformSdk.Machine.InOrder
import PlatformSdk.Mavlink.Vehicle

/-!
# The upload of a mission

What a mission makes of any history of messages, against the upload that the
messages describe: a number of items that was announced, and the items since then.
A mission counts the items in order whether or not an upload is in progress, and
it keeps those whose type, not those whose command, is that of a waypoint
(`after_eq`).
-/

namespace Airmap.Mavlink

/-- `mavlink_mission_item_t` with its command. -/
structure ItemMessage extends MissionItem where
  command : UInt16
  deriving DecidableEq

/-- The messages of the upload of a mission; `other` stands for the rest. -/
inductive MissionMessage where
  | missionClearAll
  | missionCount (count : UInt16)
  | missionItem (item : ItemMessage)
  | other
  deriving DecidableEq

/-- What `Mission::update` reads of a message. -/
def MissionMessage.payload : MissionMessage → Payload
  | .missionClearAll => .missionClearAll
  | .missionCount count => .missionCount count
  | .missionItem item => .missionItem item.toMissionItem
  | .other => .other

/-! ## Uploads -/

/-- The number of items that was announced, and the items since then. -/
structure Upload where
  announced : ℕ := 0
  items : List ItemMessage := []

namespace Upload

/-- A count announces a new upload, and to clear the mission withdraws what was
announced. -/
def receive (u : Upload) : MissionMessage → Upload
  | .missionClearAll => {}
  | .missionCount count => { announced := count.toNat }
  | .missionItem item => { u with items := u.items ++ [item] }
  | .other => u

/-- The items that continue the count. -/
def inOrder (u : Upload) : List ItemMessage :=
  Machine.inOrder (fun item => item.seq.toNat) u.items

/-- The item is the next one of an upload that is not complete. -/
def Expects (u : Upload) (item : ItemMessage) : Prop :=
  item.seq.toNat = u.inOrder.length ∧ u.inOrder.length < u.announced

/-- The item is the last one of the upload. -/
def CompletedBy (u : Upload) (item : ItemMessage) : Prop :=
  item.seq.toNat = u.inOrder.length ∧ u.inOrder.length + 1 = u.announced

@[simp] theorem announced_receive_item (u : Upload) (item : ItemMessage) :
    (u.receive (.missionItem item)).announced = u.announced := rfl

theorem inOrder_receive_item (u : Upload) (item : ItemMessage) :
    (u.receive (.missionItem item)).inOrder =
      u.inOrder ++ if item.seq.toNat = u.inOrder.length then [item] else [] := by
  rw [inOrder, receive, Machine.inOrder, Machine.inOrderFrom_concat, Nat.zero_add]
  rfl

/-- The items in order are some of those that arrived, and have the first numbers. -/
theorem inOrder_spec (u : Upload) :
    u.inOrder.Sublist u.items ∧
      u.inOrder.map (fun item => item.seq.toNat) = List.range u.inOrder.length := by
  rw [List.range_eq_range']
  exact ⟨Machine.inOrderFrom_sublist _ 0 u.items, Machine.map_inOrderFrom _ 0 u.items⟩

/-- The last item of an upload is the one with which all the numbers have arrived one
after the other. -/
theorem completedBy_iff_sublist (u : Upload) (item : ItemMessage) :
    u.CompletedBy item ↔
      (List.range u.announced).Sublist ((u.items ++ [item]).map fun item => item.seq.toNat) ∧
        ¬ (List.range u.announced).Sublist (u.items.map fun item => item.seq.toNat) := by
  rw [List.range_eq_range', Machine.range'_sublist_iff, Machine.range'_sublist_iff,
    Machine.inOrderFrom_concat, Nat.zero_add, CompletedBy]
  change _ ↔ u.announced ≤ (u.inOrder ++ if item.seq.toNat = u.inOrder.length then [item]
    else []).length ∧ ¬ u.announced ≤ u.inOrder.length
  by_cases hseq : item.seq.toNat = u.inOrder.length
  · rw [if_pos hseq, List.length_append, List.length_singleton]
    omega
  · rw [if_neg hseq, List.append_nil]
    omega

end Upload

namespace Mission

/-! ## Histories of messages -/

/-- The mission after a history of messages, the newest of which comes first. -/
def after : List MissionMessage → Mission
  | [] => {}
  | message :: past => ((after past).update message.payload).1

/-- `update` returns true for the message. -/
def completes (message : MissionMessage) (past : List MissionMessage) : Bool :=
  ((after past).update message.payload).2

/-- The upload that a history of messages describes. -/
def upload : List MissionMessage → Upload
  | [] => {}
  | message :: past => (upload past).receive message

/-- `update` has returned true since the latest count. -/
def completedSinceCount : List MissionMessage → Bool
  | [] => false
  | .missionCount _ :: _ => false
  | message :: past => completes message past || completedSinceCount past

/-- The position of an item. -/
def position (item : ItemMessage) : Geometry.Coordinate := ⟨item.x, item.y, some item.z, none⟩

/-- The positions of the items that meet a condition. -/
def positions (p : ItemMessage → Bool) (items : List ItemMessage) :
    List Geometry.Coordinate :=
  (items.filter p).map position

/-- The type of the item is the command of a waypoint. -/
def hasWaypointType (item : ItemMessage) : Bool := item.missionType == navWaypoint

/-- The command of the item is that of a waypoint. -/
def isWaypoint (item : ItemMessage) : Bool := item.command == navWaypoint.toUInt16

/-- The mission that the upload describes, as the program sees it. -/
def ofUpload (u : Upload) : Mission where
  coordinates := positions hasWaypointType u.inOrder
  counter := u.inOrder.length
  missionSize := u.announced

/-- One message on both sides. -/
theorem update_ofUpload (u : Upload) (message : MissionMessage) :
    ((ofUpload u).update message.payload).1 = ofUpload (u.receive message) := by
  cases message with
  | missionClearAll => rfl
  | missionCount count => rfl
  | other => rfl
  | missionItem item =>
      have hinOrder := u.inOrder_receive_item item
      simp only [MissionMessage.payload, update, handleMsgMissionItem]
      by_cases hseq : item.seq.toNat = u.inOrder.length
      · rw [if_pos hseq] at hinOrder
        by_cases htype : item.missionType = navWaypoint
        · simp [ofUpload, hinOrder, hseq, htype, hasWaypointType, positions, position]
        · simp [ofUpload, hinOrder, hseq, htype, hasWaypointType, positions]
      · rw [if_neg hseq, List.append_nil] at hinOrder
        simp [ofUpload, hinOrder, hseq]

/-- After any messages the mission is the one that their upload describes. -/
theorem after_eq (history : List MissionMessage) : after history = ofUpload (upload history) := by
  induction history with
  | nil => rfl
  | cons message past ih => rw [after, ih, update_ofUpload, upload]

/-- `update` returns true exactly for the last item of an upload. -/
theorem completes_iff (message : MissionMessage) (past : List MissionMessage) :
    completes message past = true ↔
      ∃ item, message = .missionItem item ∧ (upload past).CompletedBy item := by
  rw [completes, after_eq]
  cases message with
  | missionClearAll | missionCount | other => simp [MissionMessage.payload, update]
  | missionItem item =>
      simp only [MissionMessage.payload, update, handleMsgMissionItem, Upload.CompletedBy,
        MissionMessage.missionItem.injEq, exists_eq_left']
      by_cases hseq : item.seq.toNat = (upload past).inOrder.length
      · by_cases htype : item.missionType = navWaypoint <;>
          simp [ofUpload, hseq, htype]
      · simp [ofUpload, hseq]

/-! ## Items that no upload expects -/

/-- What the protocol asks of a message after a history. -/
structure Conforms (message : MissionMessage) (past : List MissionMessage) : Prop where
  /-- `update` returns true exactly for the last item in order. -/
  completes_iff : completes message past = true ↔
    ∃ item, message = .missionItem item ∧ (upload past).CompletedBy item
  /-- Any other count has come between two such items. -/
  once : completes message past = true → completedSinceCount past = false
  unchanged : ∀ item, message = .missionItem item → ¬ (upload past).Expects item →
    after (message :: past) = after past
  bounded : (after (message :: past)).coordinates.length ≤
    (upload (message :: past)).announced

/-- The message is an item that continues the count although all the items that were
announced are there, or none was. -/
def Stray (message : MissionMessage) (past : List MissionMessage) : Prop :=
  ∃ item, message = .missionItem item ∧ item.seq.toNat = (upload past).inOrder.length ∧
    (upload past).announced ≤ (upload past).inOrder.length

/-- Once an upload was complete, all of its items are there. -/
theorem announced_le_of_completedSinceCount {past : List MissionMessage}
    (h : completedSinceCount past = true) :
    (upload past).announced ≤ (upload past).inOrder.length := by
  induction past with
  | nil => cases h
  | cons message past ih =>
      cases message with
      | missionCount count => cases h
      | missionClearAll => exact Nat.zero_le _
      | other =>
          have hother : completes .other past = false := rfl
          simp only [completedSinceCount, hother, Bool.false_or] at h
          exact ih h
      | missionItem item =>
          simp only [completedSinceCount, Bool.or_eq_true] at h
          rw [upload, Upload.announced_receive_item, Upload.inOrder_receive_item,
            List.length_append]
          rcases h with hcompletes | hearlier
          · obtain ⟨_, heq, hseq, hlast⟩ := (completes_iff _ _).mp hcompletes
            cases heq
            rw [if_pos hseq, List.length_singleton]
            omega
          · have hannounced := ih hearlier
            omega

/-- Without stray items there are never more items in order than were announced. -/
theorem inOrder_length_le {history : List MissionMessage}
    (h : Machine.Always (fun message past => ¬ Stray message past) history) :
    (upload history).inOrder.length ≤ (upload history).announced := by
  induction history with
  | nil => exact Nat.le_refl 0
  | cons message past ih =>
      obtain ⟨hstray, hpast⟩ := h
      have hbefore := ih hpast
      cases message with
      | missionClearAll => exact Nat.le_refl 0
      | missionCount count => exact Nat.zero_le _
      | other => exact hbefore
      | missionItem item =>
          rw [upload, Upload.announced_receive_item, Upload.inOrder_receive_item]
          split
          next hseq =>
            have hmore : ¬ (upload past).announced ≤ (upload past).inOrder.length :=
              fun hcomplete => hstray ⟨item, rfl, hseq, hcomplete⟩
            rw [List.length_append, List.length_singleton]
            omega
          next => rwa [List.append_nil]

theorem coordinates_length_le (history : List MissionMessage) :
    (after history).coordinates.length ≤ (upload history).inOrder.length := by
  rw [after_eq, ofUpload, positions, List.length_map]
  exact List.length_filter_le _ _

/-- An item that does not continue the count changes nothing. -/
theorem after_of_seq_ne {item : ItemMessage} {past : List MissionMessage}
    (hseq : item.seq.toNat ≠ (upload past).inOrder.length) :
    after (.missionItem item :: past) = after past := by
  have hinOrder := (upload past).inOrder_receive_item item
  rw [if_neg hseq, List.append_nil] at hinOrder
  rw [after_eq, after_eq, upload, ofUpload, ofUpload, hinOrder,
    Upload.announced_receive_item]

/-- A stray item is counted. -/
theorem counter_of_stray {item : ItemMessage} {past : List MissionMessage}
    (hseq : item.seq.toNat = (upload past).inOrder.length) :
    (after (.missionItem item :: past)).counter = (after past).counter + 1 := by
  rw [after_eq, after_eq, upload, ofUpload, ofUpload, Upload.inOrder_receive_item,
    if_pos hseq, List.length_append, List.length_singleton]

/-- One message: it is treated as the protocol asks just when it is not stray. -/
theorem conforms_iff_not_stray {message : MissionMessage} {past : List MissionMessage}
    (hpast : Machine.Always (fun message past => ¬ Stray message past) past) :
    Conforms message past ↔ ¬ Stray message past := by
  constructor
  · rintro hconforms ⟨item, rfl, hseq, hcomplete⟩
    have hunexpected : ¬ (upload past).Expects item :=
      fun hexpects => Nat.not_lt.mpr hcomplete hexpects.2
    have hcounter := counter_of_stray hseq
    rw [hconforms.unchanged item rfl hunexpected] at hcounter
    omega
  · intro hstray
    refine ⟨completes_iff message past, fun hcompletes => ?_, ?_, ?_⟩
    · obtain ⟨item, -, -, hlast⟩ := (completes_iff message past).mp hcompletes
      rw [Bool.eq_false_iff]
      intro hearlier
      have hannounced := announced_le_of_completedSinceCount hearlier
      omega
    · rintro item rfl hunexpected
      refine after_of_seq_ne fun hseq => ?_
      exact hstray ⟨item, rfl, hseq, Nat.not_lt.mp fun hless => hunexpected ⟨hseq, hless⟩⟩
    · have hhistory : Machine.Always (fun message past => ¬ Stray message past)
          (message :: past) := ⟨hstray, hpast⟩
      exact (coordinates_length_le _).trans (inOrder_length_le hhistory)

/-- Every message of a history is treated as the protocol asks just when none of them
is a stray item. -/
theorem conforms_always_iff (history : List MissionMessage) :
    Machine.Always Conforms history ↔
      Machine.Always (fun message past => ¬ Stray message past) history := by
  induction history with
  | nil => exact Iff.rfl
  | cons message past ih =>
      rw [Machine.Always, Machine.Always, ih]
      exact and_congr_left conforms_iff_not_stray

/-- An item where no count has come. -/
def earlyItem : ItemMessage where
  seq := 0
  missionType := 16
  x := .finite 47
  y := .finite 8
  z := .finite 400
  command := 16

/-- It is stored. -/
theorem earlyItem_stored :
    (after [.missionItem earlyItem]).coordinates = [position earlyItem] ∧
      ¬ Machine.Always Conforms [.missionItem earlyItem] := by
  refine ⟨rfl, fun hconforms => ?_⟩
  have hunchanged := hconforms.1.unchanged earlyItem rfl fun hexpects =>
    absurd hexpects.2 (Nat.not_lt_zero _)
  cases hunchanged

/-! ## Items that are kept -/

/-- Where `update` returns true, the coordinates are the positions of the items in order
whose command is that of a waypoint. -/
def KeepsWaypoints (message : MissionMessage) (past : List MissionMessage) : Prop :=
  completes message past = true →
    (after (message :: past)).coordinates =
      positions isWaypoint (upload (message :: past)).inOrder

/-- The last item of an upload completes one whose items with the type of a waypoint
stand where those with the command of a waypoint stand. -/
def MarksWaypoints (message : MissionMessage) (past : List MissionMessage) : Prop :=
  ∀ item, message = .missionItem item → (upload past).CompletedBy item →
    positions hasWaypointType ((upload past).inOrder ++ [item]) =
      positions isWaypoint ((upload past).inOrder ++ [item])

theorem keepsWaypoints_iff_marksWaypoints (message : MissionMessage)
    (past : List MissionMessage) :
    KeepsWaypoints message past ↔ MarksWaypoints message past := by
  rw [KeepsWaypoints, completes_iff]
  constructor
  · rintro hkeeps item rfl hlast
    have hinOrder := (upload past).inOrder_receive_item item
    rw [if_pos hlast.1] at hinOrder
    have hcoordinates := hkeeps ⟨item, rfl, hlast⟩
    rwa [after_eq, ofUpload, upload, hinOrder] at hcoordinates
  · rintro hmarks ⟨item, rfl, hlast⟩
    have hinOrder := (upload past).inOrder_receive_item item
    rw [if_pos hlast.1] at hinOrder
    rw [after_eq, ofUpload, upload, hinOrder]
    exact hmarks item rfl hlast

/-- In every history a complete mission is the waypoints of its upload just when each
upload marks them with its types. -/
theorem keepsWaypoints_always_iff (history : List MissionMessage) :
    Machine.Always KeepsWaypoints history ↔ Machine.Always MarksWaypoints history := by
  induction history with
  | nil => exact Iff.rfl
  | cons message past ih =>
      rw [Machine.Always, Machine.Always, ih, keepsWaypoints_iff_marksWaypoints]

/-- A waypoint whose type is that of a mission. -/
def waypointOfMission : ItemMessage where
  seq := 0
  missionType := 0
  x := .finite 47
  y := .finite 8
  z := .finite 400
  command := 16

/-- The mission is complete, and has no waypoints. -/
theorem waypointOfMission_dropped :
    completes (.missionItem waypointOfMission) [.missionCount 1] = true ∧
      (after [.missionItem waypointOfMission, .missionCount 1]).coordinates = [] ∧
      ¬ Machine.Always KeepsWaypoints [.missionItem waypointOfMission, .missionCount 1] := by
  refine ⟨rfl, rfl, fun hkeeps => ?_⟩
  have hcoordinates := hkeeps.1 rfl
  cases hcoordinates

end Mission
end Airmap.Mavlink
