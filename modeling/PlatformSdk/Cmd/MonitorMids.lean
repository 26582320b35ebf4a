import Mathlib.Data.List.Basic
import PlatformSdk.Net.Mqtt.Boost.Client
import PlatformSdk.Pregenerated.AmdUavFlightUpdate

/-!
# Monitoring mids

The command `monitor-mids` subscribes to two topics for each of its mids and logs the
updates that are published there.  The module shows what is logged for a publication, down
to its bytes.
-/

namespace Airmap.Cmd.MonitorMids

open Net.Mqtt.Boost (Client)
open Pregenerated Protobuf
open Wire (Bytes)

/-! ## The command -/

/-- The bytes of a string, one for each of its characters. -/
def bytesOf (s : String) : Bytes := s.toList.map fun c => UInt8.ofNat c.toNat

/-- What is logged for an update. -/
structure Report where
  scope : String
  flightId : Bytes
  latitude : BitVec 64
  longitude : BitVec 64
  course : BitVec 32
  altitude : BitVec 32
  speed : BitVec 32
  deriving DecidableEq

def report (scope : String) (update : AmdUavFlightUpdate) : Report where
  scope := scope
  flightId := update.flightId
  latitude := update.latitude
  longitude := update.longitude
  course := update.course
  altitude := update.altitude
  speed := update.speed

/-- `topic.substr(0, topic.find_first_of('/'))`. -/
def scopeOf (topic : String) : String := String.ofList (topic.toList.takeWhile (· ≠ '/'))

/-- `handler`: what is logged. -/
def handler (W : WireFormat) (topic message : String) : List Report :=
  match parseFromString (AmdUavFlightUpdates.fields W) {} (bytesOf message) with
  | none => []
  | some updates => updates.fields.updates.map fun update => report (scopeOf topic) update.fields

/-- The mids of the flag. -/
def midsOf (flag : String) : List String := (flag.toList.splitOn ',').map String.ofList

/-- The topic of a mid in one of the two scopes. -/
def topicOf (scope mid : String) : String := scope ++ "/telemetry/position/" ++ mid

/-- The topics that are subscribed to. -/
def topicsOf (mids : List String) : List String :=
  mids.flatMap fun mid => [topicOf "mav" mid, topicOf "uav" mid]

/-- Subscribe to topics; `async_subscribe` returns these ids. -/
def subscribeAll (topics : List (String × UInt16)) (client : Client Unit) : Client Unit :=
  topics.foldl (fun client topic => client.subscribe topic.1 .exactlyOnce () topic.2) client

/-- The client of a command with this flag. -/
def monitor (flag : String) (ids : ℕ → UInt16) : Client Unit :=
  subscribeAll ((topicsOf (midsOf flag)).zipIdx.map fun (topic, i) => (topic, ids i)) .create

/-- What is logged when something is published. -/
def logged (W : WireFormat) (client : Client Unit) (topic contents : String) : List Report :=
  (client.handlePublish topic contents).flatMap fun call => handler W call.2.1 call.2.2

/-! ## Topics -/

theorem topicOf_inj {scope mid mid' : String} :
    topicOf scope mid = topicOf scope mid' ↔ mid = mid' :=
  String.append_right_inj _

theorem scopeOf_topicOf {scope : String} (hscope : '/' ∉ scope.toList) (mid : String) :
    scopeOf (topicOf scope mid) = scope := by
  have hall : ∀ c ∈ scope.toList, decide (c ≠ '/') = true := by
    intro c hc
    exact decide_eq_true fun heq => hscope (heq ▸ hc)
  have hslash : "/telemetry/position/".toList = '/' :: "telemetry/position/".toList := by simp
  rw [scopeOf, topicOf, String.toList_append, String.toList_append, List.append_assoc,
    List.takeWhile_append_of_pos hall, hslash, List.cons_append,
    List.takeWhile_cons_of_neg (by simp), List.append_nil, String.ofList_toList]

theorem topicOf_ne (mid mid' : String) : topicOf "mav" mid ≠ topicOf "uav" mid' := by
  intro h
  have hscope := congrArg scopeOf h
  rw [scopeOf_topicOf (by simp), scopeOf_topicOf (by simp)] at hscope
  exact absurd hscope (by simp)

/-- There is a topic of each scope for every occurrence of a mid. -/
theorem count_topicsOf {scope : String} (hscope : scope = "mav" ∨ scope = "uav")
    (mid : String) (mids : List String) :
    (topicsOf mids).count (topicOf scope mid) = mids.count mid := by
  induction mids with
  | nil => rfl
  | cons other mids ih =>
      have hne := topicOf_ne
      rw [topicsOf, List.flatMap_cons, List.count_append, ← topicsOf, ih, List.count_cons,
        List.count_cons, List.count_cons, List.count_nil, Nat.add_comm]
      rcases hscope with rfl | rfl
      · simp [topicOf_inj, (hne _ _).symm]
      · simp [topicOf_inj, hne]

theorem topicMap_subscribeAll (topics : List (String × UInt16)) (client : Client Unit) :
    (subscribeAll topics client).topicMap.map (·.topic) =
      client.topicMap.map (·.topic) ++ topics.map Prod.fst := by
  induction topics generalizing client with
  | nil => simp [subscribeAll]
  | cons topic topics ih =>
      rw [subscribeAll, List.foldl_cons, ← subscribeAll, ih]
      simp [Client.subscribe]

/-- The callback is called once for each subscription to the topic. -/
theorem handlePublish_eq (client : Client Unit) (topic contents : String) :
    client.handlePublish topic contents =
      List.replicate ((client.topicMap.map (·.topic)).count topic) ((), topic, contents) := by
  rw [Client.handlePublish, List.eq_replicate_iff]
  constructor
  · rw [List.length_map, ← List.countP_eq_length_filter, List.count, List.countP_map]
    rfl
  · intro call hcall
    obtain ⟨entry, -, rfl⟩ := List.mem_map.mp hcall
    rfl

/-! ## What is logged -/

/-- A string with these bytes. -/
def textOf (bytes : Bytes) : String := String.ofList (bytes.map fun byte => Char.ofNat byte.toNat)

theorem bytesOf_textOf (bytes : Bytes) : bytesOf (textOf bytes) = bytes := by
  rw [bytesOf, textOf, String.toList_ofList, List.map_map]
  refine (List.map_congr_left fun byte _ => ?_).trans (List.map_id bytes)
  have hbyte := byte.toNat_lt
  have hvalid : byte.toNat.isValidChar := .inl (by omega)
  have hchar : (Char.ofNat byte.toNat).toNat = byte.toNat := by
    rw [Char.ofNat, dif_pos hvalid]
    rfl
  rw [Function.comp_apply, hchar, UInt8.ofNat_toNat]
  rfl

/-- What is logged for batches of updates in one publication. -/
def reportsOf (W : WireFormat) (scope : String) (batches : List (List AmdUavFlightUpdate)) :
    List Report :=
  if ∀ update ∈ batches.flatten, update.Verified W then
    batches.flatten.map fun update => report scope update.canonical
  else []

theorem handler_batches {W : WireFormat} {batches : List (List AmdUavFlightUpdate)}
    (hlength : ∀ update ∈ batches.flatten, update.flightId.length + 50 < 2 ^ 31)
    (topic : String) :
    handler W topic (textOf (batches.flatMap fun batch => serializeWithCachedSizes
        (AmdUavFlightUpdates.fields W) (AmdUavFlightUpdates.ofUpdates W batch))) =
      reportsOf W (scopeOf topic) batches := by
  rw [handler, bytesOf_textOf, AmdUavFlightUpdates.parseFromString_batches hlength, reportsOf]
  by_cases hverified : ∀ update ∈ batches.flatten, update.Verified W
  · rw [if_pos hverified, if_pos hverified]
    simp only [AmdUavFlightUpdates.ofUpdates, List.map_map]
    rfl
  · rw [if_neg hverified, if_neg hverified]

/-- What is published for a mid in one of the scopes is logged once for each time that the
mid is in the flag: the updates of all batches in their order, or nothing if one of the ids
of flights is not UTF-8.  Nothing is logged for other topics. -/
theorem logged_eq {W : WireFormat} {flag : String} {ids : ℕ → UInt16}
    {batches : List (List AmdUavFlightUpdate)}
    (hlength : ∀ update ∈ batches.flatten, update.flightId.length + 50 < 2 ^ 31) :
    (∀ scope mid, scope = "mav" ∨ scope = "uav" →
      logged W (monitor flag ids) (topicOf scope mid)
          (textOf (batches.flatMap fun batch => serializeWithCachedSizes
            (AmdUavFlightUpdates.fields W) (AmdUavFlightUpdates.ofUpdates W batch))) =
        (List.replicate ((midsOf flag).count mid) (reportsOf W scope batches)).flatten) ∧
    ∀ topic contents, topic ∉ topicsOf (midsOf flag) →
      logged W (monitor flag ids) topic contents = [] := by
  have htopics : (monitor flag ids).topicMap.map (·.topic) = topicsOf (midsOf flag) := by
    rw [monitor, topicMap_subscribeAll, List.map_map]
    exact List.zipIdx_map_fst 0 _
  constructor
  · intro scope mid hscope
    have hslash : '/' ∉ scope.toList := by
      rcases hscope with rfl | rfl <;> simp
    rw [logged, handlePublish_eq, htopics, count_topicsOf hscope, List.flatMap_replicate,
      handler_batches hlength, scopeOf_topicOf hslash]
  · intro topic contents htopic
    rw [logged, handlePublish_eq, htopics, List.count_eq_zero_of_not_mem htopic]
    rfl

/-- Two updates, of which the second one has the negative zero as its speed. -/
def twoBatches : List (List AmdUavFlightUpdate) :=
  [[{ timestamp := 5, flightId := [97] }], [{ course := 1, speed := 0x80000000 }]]

theorem logged_eq_twoBatches :
    logged ascii (monitor "7,9,7" UInt16.ofNat) (topicOf "uav" "7")
        (textOf (twoBatches.flatMap fun batch => serializeWithCachedSizes
          (AmdUavFlightUpdates.fields ascii) (AmdUavFlightUpdates.ofUpdates ascii batch))) =
      [⟨"uav", [97], 0, 0, 0, 0, 0⟩, ⟨"uav", [], 0, 0, 1, 0, 0⟩,
        ⟨"uav", [97], 0, 0, 0, 0, 0⟩, ⟨"uav", [], 0, 0, 1, 0, 0⟩] := by
  have hlength : ∀ update ∈ twoBatches.flatten, update.flightId.length + 50 < 2 ^ 31 := by
    decide
  rw [(logged_eq hlength).1 "uav" "7" (.inr rfl)]
  decide

end Airmap.Cmd.MonitorMids
