import PlatformSdk.Net.Udp.Boost.Sender
import PlatformSdk.Rest.Telemetry
import PlatformSdk.Wire.Numbered

/-!
# Telemetry over datagrams

Each call of `submit_updates` ends in one datagram, which may be lost and may overtake
others.  The module shows that a server that knows the keys of the flights reads every
datagram that it gets, and that their counters tell it in which order the updates were
submitted.
-/

namespace Airmap.Rest.Telemetry

open Machine Wire
open Net.Udp.Boost (Sender)

/-- `rest::Telemetry`, with the counter of `submit_updates`. -/
structure Transport where
  counter : UInt32 := 1
  sender : Sender := {}

/-- What a packet tells: its counter, the id of the flight, and the types and messages of
the updates. -/
structure Report where
  counter : ℕ
  flightId : Bytes
  records : List (ℕ × Bytes)
  deriving DecidableEq

/-- What a server gets out of a datagram; `keyOf` are the keys of the flights. -/
def receive (decrypt : (ciphertext key iv : Bytes) → Option Bytes)
    (keyOf : Bytes → Option Bytes) (datagram : Bytes) : Option Report := do
  let packet ← Packet.read datagram
  let key ← keyOf packet.flightId
  let payload ← decrypt packet.ciphertext key packet.iv
  let records ← record.readAll payload
  return { counter := packet.counter, flightId := packet.flightId, records := records }

namespace Transport

/-- Updates are submitted, with an encryptor as in this call, or something happens to the
sender. -/
inductive Event where
  | submitUpdates (encryptor : AES256Encryptor) (id key : Bytes)
      (updates : List Telemetry.Update)
  | sender (event : Sender.Event)

section Step

variable (order : ByteOrder) (narrowing : Double.Narrowing) (serializer : Serializer)

def step (t : Transport) : Event → Option Transport
  | .submitUpdates encryptor id key updates =>
      match submitUpdates order narrowing serializer encryptor t.counter id key updates with
      | .returns (counter, packet) =>
          some { counter := counter, sender := t.sender.send packet }
      -- the exception reaches the caller
      | .throws _ => some t
      | .undefined => none
  | .sender event => (t.sender.step event).map fun sender => { t with sender := sender }

/-- What the encryptor makes of updates: the vector and the ciphertext. -/
def encrypted (encryptor : AES256Encryptor) (key : Bytes)
    (updates : List Telemetry.Update) : Attempt (Bytes × Bytes) := do
  let iv ← encryptor.createSharedSecret
  let msg ← encryptor.encrypt (payload order narrowing serializer updates).buffer key iv
  return (iv, msg)

/-- The flight and the records of a submission that ended in a packet. -/
def Event.submission : Event → Option (Bytes × List (ℕ × Bytes))
  | .submitUpdates encryptor id key updates =>
      match encrypted order narrowing serializer encryptor key updates with
      | .returns _ => some (id, updates.map (recordOf narrowing serializer))
      | .throws _ | .undefined => none
  | .sender _ => none

/-- The reports of some submissions, with the counters that count them. -/
def reportsOf (submissions : List (Bytes × List (ℕ × Bytes))) : List Report :=
  submissions.mapIdx fun i submission =>
    { counter := (i + 1) % 2 ^ 32, flightId := submission.1, records := submission.2 }

/-- The server can read the packet of a submission: it has the key of the flight,
decrypting undoes the encryption, and the lengths fit into their fields. -/
def Event.Readable (decrypt : (ciphertext key iv : Bytes) → Option Bytes)
    (keyOf : Bytes → Option Bytes) : Event → Prop
  | .submitUpdates encryptor id key updates =>
      id.length < 256 ∧ keyOf id = some key ∧
        (∀ update ∈ updates, (serialize narrowing serializer update).length < 65536) ∧
        ∀ iv msg, encrypted order narrowing serializer encryptor key updates =
            .returns (iv, msg) →
          iv.length = blockSizeInBytes ∧
            decrypt msg key iv = some (payload order narrowing serializer updates).buffer
  | .sender _ => True

end Step

/-! ## One submission -/

variable {order : ByteOrder} {narrowing : Double.Narrowing} {serializer : Serializer}
  {decrypt : (ciphertext key iv : Bytes) → Option Bytes} {keyOf : Bytes → Option Bytes}

/-- The packet of a submission. -/
def packetOf (counter : UInt32) (id : Bytes) (made : Bytes × Bytes) : Packet where
  counter := counter.toNat
  flightId := id
  encryptionType := encryptionType
  iv := made.1
  ciphertext := made.2

theorem submitUpdates_of_encrypted {encryptor : AES256Encryptor} {key : Bytes}
    {updates : List Telemetry.Update} {made : Bytes × Bytes}
    (h : encrypted order narrowing serializer encryptor key updates = .returns made)
    (counter : UInt32) (id : Bytes) :
    submitUpdates order narrowing serializer encryptor counter id key updates =
      .returns (counter + 1, (packetOf counter id made).write) := by
  obtain ⟨iv, hiv, h⟩ := Attempt.bind_eq_returns_iff.mp h
  obtain ⟨msg, hmsg, h⟩ := Attempt.bind_eq_returns_iff.mp h
  cases h
  exact submitUpdates_eq_returns hiv hmsg counter id

theorem encrypted_of_submitUpdates {encryptor : AES256Encryptor} {id key : Bytes}
    {updates : List Telemetry.Update} {counter counter' : UInt32} {sent : Bytes}
    (h : submitUpdates order narrowing serializer encryptor counter id key updates =
      .returns (counter', sent)) :
    ∃ made, encrypted order narrowing serializer encryptor key updates = .returns made ∧
      counter' = counter + 1 ∧ sent = (packetOf counter id made).write := by
  obtain ⟨iv, hiv, hrest⟩ := Attempt.bind_eq_returns_iff.mp h
  obtain ⟨msg, hmsg, -⟩ := Attempt.bind_eq_returns_iff.mp hrest
  have hmade : encrypted order narrowing serializer encryptor key updates =
      .returns (iv, msg) := by
    rw [encrypted, hiv, Attempt.returns_bind, hmsg]
    rfl
  rw [submitUpdates_of_encrypted hmade, Attempt.returns.injEq, Prod.mk.injEq] at h
  exact ⟨(iv, msg), hmade, h.1.symm, h.2.symm⟩

/-- The server reads the packet of a submission as what was submitted. -/
theorem receive_packetOf {encryptor : AES256Encryptor} {id key : Bytes}
    {updates : List Telemetry.Update} {made : Bytes × Bytes}
    (hreadable : (Event.submitUpdates encryptor id key updates).Readable order narrowing
      serializer decrypt keyOf)
    (hmade : encrypted order narrowing serializer encryptor key updates = .returns made)
    (counter : UInt32) :
    receive decrypt keyOf (packetOf counter id made).write = some
      { counter := counter.toNat
        flightId := id
        records := updates.map (recordOf narrowing serializer) } := by
  obtain ⟨hid, hkey, hlengths, hdecrypts⟩ := hreadable
  obtain ⟨hiv, hdecrypt⟩ := hdecrypts made.1 made.2 hmade
  have htype : encryptionType < 256 := by decide
  have hframed : (packetOf counter id made).Framed := ⟨counter.toNat_lt, hid, htype, hiv⟩
  have hread := Packet.read_write_iff.mpr hframed
  have hrecords : record.readAll (payload order narrowing serializer updates).buffer =
      some (updates.map (recordOf narrowing serializer)) := by
    rw [Format.readAll_eq_some_iff write_record_ne_nil]
    refine ⟨?_, payload_eq_writeAll order narrowing serializer updates⟩
    intro value hvalue
    obtain ⟨update, hupdate, rfl⟩ := List.mem_map.mp hvalue
    exact ⟨type_lt update, hlengths update hupdate⟩
  simp only [receive, hread, Option.bind_eq_bind, Option.bind_some]
  simp only [packetOf, hkey, hdecrypt, hrecords, Option.bind_some, Option.pure_def]

/-! ## Whole runs -/

variable {events : List Event} {t : Transport}

theorem reportsOf_concat (submissions : List (Bytes × List (ℕ × Bytes))) (id : Bytes)
    (records : List (ℕ × Bytes)) :
    reportsOf (submissions ++ [(id, records)]) =
      reportsOf submissions ++
        [{ counter := (submissions.length + 1) % 2 ^ 32
           flightId := id
           records := records }] := by
  simp [reportsOf, List.mapIdx_append]

/-- Less than `2 ^ 32` values that carry the counter have increasing ones. -/
theorem pairwise_mapIdx {α β : Type} {n : β → ℕ} {f : ℕ → α → β} {l : List α}
    (hf : ∀ i a, n (f i a) = (i + 1) % 2 ^ 32) (h : l.length < 2 ^ 32) :
    (l.mapIdx f).Pairwise fun a b => n a < n b := by
  rw [List.pairwise_iff_getElem]
  intro i j hi hj hlt
  rw [List.length_mapIdx] at hi hj
  rw [List.getElem_mapIdx, List.getElem_mapIdx, hf, hf]
  omega

theorem pairwise_reportsOf {submissions : List (Bytes × List (ℕ × Bytes))}
    (h : submissions.length < 2 ^ 32) :
    (reportsOf submissions).Pairwise fun a b => a.counter < b.counter :=
  pairwise_mapIdx (fun _ _ => rfl) h

/-- The packets of the submissions so far, which are those that the sender was given. -/
def Sends (order : ByteOrder) (narrowing : Double.Narrowing) (serializer : Serializer)
    (decrypt : (ciphertext key iv : Bytes) → Option Bytes) (keyOf : Bytes → Option Bytes)
    (events : List Event) (t : Transport) : Prop :=
  ∃ packets : List Bytes,
    packets.map (receive decrypt keyOf) =
        (reportsOf (events.filterMap (Event.submission order narrowing serializer))).map some ∧
      t.sender.sends.Perm packets.zipIdx ∧
      t.sender.made = packets.length ∧
      t.counter = UInt32.ofNat (packets.length + 1) ∧
      packets.length =
        (events.filterMap (Event.submission order narrowing serializer)).length

theorem sends_start : Sends order narrowing serializer decrypt keyOf [] {} :=
  ⟨[], rfl, .refl _, rfl, rfl, rfl⟩

theorem Sends.step {event : Event} {t' : Transport}
    (h : Sends order narrowing serializer decrypt keyOf events t)
    (hreadable : event.Readable order narrowing serializer decrypt keyOf)
    (hstep : t.step order narrowing serializer event = some t') :
    Sends order narrowing serializer decrypt keyOf (events ++ [event]) t' := by
  obtain ⟨packets, hread, hperm, hmade, hcounter, hlength⟩ := h
  rcases event with ⟨encryptor, id, key, updates⟩ | ⟨event⟩
  · simp only [Transport.step] at hstep
    split at hstep
    · next counter sent hsent =>
        cases hstep
        obtain ⟨made, hencrypted, rfl, rfl⟩ := encrypted_of_submitUpdates hsent
        have hsubmission : (Event.submitUpdates encryptor id key updates).submission order
            narrowing serializer = some (id, updates.map (recordOf narrowing serializer)) := by
          simp only [Event.submission, hencrypted]
        have hreport := receive_packetOf hreadable hencrypted t.counter
        refine ⟨packets ++ [(packetOf t.counter id made).write], ?_, ?_, ?_, ?_, ?_⟩
        · rw [filterMap_concat_some hsubmission, reportsOf_concat, List.map_append, hread,
            List.map_append, List.map_singleton, hreport, hcounter, UInt32.toNat_ofNat',
            hlength, List.map_singleton]
        · rw [List.zipIdx_append, Nat.zero_add, List.zipIdx_singleton, ← hmade]
          exact (Sender.sends_send _ _).trans (hperm.append_right _)
        · rw [List.length_append, ← hmade]
          rfl
        · dsimp only
          rw [hcounter, List.length_append, List.length_singleton,
            UInt32.ofNat_add (packets.length + 1) 1]
          rfl
        · rw [filterMap_concat_some hsubmission, List.length_append, List.length_append,
            hlength]
          rfl
    · next what hthrows =>
        cases hstep
        have hsubmission : (Event.submitUpdates encryptor id key updates).submission order
            narrowing serializer = none := by
          cases hencrypted : encrypted order narrowing serializer encryptor key updates with
          | returns made =>
              rw [submitUpdates_of_encrypted hencrypted] at hthrows
              cases hthrows
          | throws what => simp only [Event.submission, hencrypted]
          | undefined => simp only [Event.submission, hencrypted]
        rw [Sends, filterMap_concat_none hsubmission]
        exact ⟨packets, hread, hperm, hmade, hcounter, hlength⟩
    · cases hstep
  · obtain ⟨sender, hsender, rfl⟩ := Option.map_eq_some_iff.mp hstep
    obtain ⟨hsame, hsends⟩ := Sender.sends_step hsender
    have hnone : (Event.sender event).submission order narrowing serializer = none := rfl
    rw [Sends, filterMap_concat_none hnone]
    exact ⟨packets, hread, hsends.trans hperm, hsame.trans hmade, hcounter, hlength⟩

/-- Whatever part of the datagrams that were delivered reaches the server, these are some
of the packets of the submissions. -/
theorem exists_packets
    (hreadable : ∀ event ∈ events, event.Readable order narrowing serializer decrypt keyOf)
    (hrun : run (step order narrowing serializer) {} events = some t)
    {datagrams : List Bytes}
    (hdatagrams : datagrams.Subperm (t.sender.delivered.map Prod.fst)) :
    ∃ packets : List Bytes,
      packets.map (receive decrypt keyOf) =
          (reportsOf (events.filterMap (Event.submission order narrowing serializer))).map
            some ∧
        datagrams.Subperm packets := by
  obtain ⟨packets, hread, hperm, -⟩ := run_history_of_meets
    (Sends order narrowing serializer decrypt keyOf) sends_start
    (fun es mid event last h hC hstep => h.step hC hstep)
    (meets_of_mem _ hreadable) hrun
  refine ⟨packets, hread, hdatagrams.trans ?_⟩
  have hmap := hperm.map Prod.fst
  rw [List.zipIdx_map_fst] at hmap
  obtain ⟨kept, hkept, hsub⟩ := t.sender.subperm_delivered
  have hdelivered : (t.sender.delivered.map Prod.fst).Subperm (t.sender.sends.map Prod.fst) :=
    ⟨kept.map Prod.fst, hkept.map Prod.fst, hsub.map Prod.fst⟩
  exact hdelivered.trans hmap.subperm

/-- In every run, whatever part of the datagrams that were delivered reaches the server,
and in whatever order, it reads each of them.  Sorted by their counters they are reports of
the submissions that ended in a packet, in the order in which these were made and each of
them at most once, as long as the counter does not wrap around. -/
theorem reports_received
    (hreadable : ∀ event ∈ events, event.Readable order narrowing serializer decrypt keyOf)
    (hrun : run (step order narrowing serializer) {} events = some t)
    (hcount : (events.filterMap (Event.submission order narrowing serializer)).length <
      2 ^ 32)
    {datagrams : List Bytes}
    (hdatagrams : datagrams.Subperm (t.sender.delivered.map Prod.fst)) :
    ∃ received : List Report, datagrams.map (receive decrypt keyOf) = received.map some ∧
      (received.mergeSort fun a b => a.counter ≤ b.counter).Sublist
        (reportsOf (events.filterMap (Event.submission order narrowing serializer))) := by
  obtain ⟨packets, hread, hsubperm⟩ := exists_packets hreadable hrun hdatagrams
  exact exists_sorted (pairwise_reportsOf hcount) hread hsubperm

def barometerUpdate : Telemetry.Update := .barometer ⟨5, .finite 1⟩

def attitudeUpdate : Telemetry.Update := .attitude ⟨9, .finite 0, .finite 0, .finite 0⟩

/-- What the payload with the barometer is encrypted to, with `zeroKey` and a vector of
zeros. -/
def barometerCiphertext : Bytes :=
  [28, 127, 0, 77, 139, 223, 107, 25, 149, 44, 140, 99, 96, 120, 114, 29]

/-- The same for the attitude. -/
def attitudeCiphertext : Bytes :=
  [253, 165, 42, 93, 42, 115, 217, 247, 206, 29, 72, 128, 29, 2, 238, 173]

def encryptTo (ciphertext : Bytes) : AES256Encryptor where
  createSharedSecret := .returns (List.replicate 16 0)
  encrypt _ _ _ := .returns ciphertext

def decryptTwo (ciphertext _key _iv : Bytes) : Option Bytes :=
  if ciphertext = barometerCiphertext then some [0, 4, 0, 7, 8, 5, 21, 0, 0, 128, 63]
  else if ciphertext = attitudeCiphertext then some [0, 3, 0, 2, 8, 9]
  else none

/-- What the messages of these two updates are serialized to. -/
def serializeTwo : Serializer where
  position _ := []
  speed _ := []
  attitude _ := [8, 9]
  barometer _ := [8, 5, 21, 0, 0, 128, 63]

/-- Two submissions; the datagram of the second one is sent first. -/
def overtakingRun : List Event :=
  [.submitUpdates (encryptTo barometerCiphertext) [97] zeroKey [barometerUpdate],
    .submitUpdates (encryptTo attitudeCiphertext) [98] zeroKey [attitudeUpdate],
    .sender (.resolved 1 .started), .sender (.written 0 none 39),
    .sender (.resolved 0 .started), .sender (.written 0 none 39)]

theorem reports_received_overtakingRun :
    ∃ t, run (step .littleEndian exactly serializeTwo) {} overtakingRun = some t ∧
      t.sender.delivered.map Prod.snd = [1, 0] ∧
      ∃ received : List Report,
        (t.sender.delivered.map Prod.fst).map
            (receive decryptTwo fun _ => some zeroKey) = received.map some ∧
          (received.mergeSort fun a b => a.counter ≤ b.counter).Sublist
            [⟨1, [97], [(4, [8, 5, 21, 0, 0, 128, 63])]⟩, ⟨2, [98], [(3, [8, 9])]⟩] := by
  have hdecide : (run (step .littleEndian exactly serializeTwo) {} overtakingRun).map
      (fun t => decide (t.sender.delivered.map Prod.snd = [1, 0])) = some true := by
    decide
  obtain ⟨t, hrun, hdelivered⟩ := exists_run hdecide
  have hreadable : ∀ event ∈ overtakingRun, event.Readable .littleEndian exactly
      serializeTwo decryptTwo fun _ => some zeroKey := by
    intro event hmem
    simp only [overtakingRun, List.mem_cons, List.not_mem_nil, or_false] at hmem
    rcases hmem with rfl | rfl | rfl | rfl | rfl | rfl
    · refine ⟨by decide, rfl, by decide, fun iv msg h => ?_⟩
      cases h
      exact ⟨rfl, by decide⟩
    · refine ⟨by decide, rfl, by decide, fun iv msg h => ?_⟩
      cases h
      exact ⟨rfl, by decide⟩
    · trivial
    · trivial
    · trivial
    · trivial
  exact ⟨t, hrun, hdelivered,
    reports_received hreadable hrun (by decide) (List.Subperm.refl _)⟩

end Transport
end Airmap.Rest.Telemetry
