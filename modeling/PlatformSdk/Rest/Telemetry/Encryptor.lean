import PlatformSdk.Machine.Buffer
import PlatformSdk.Rest.Telemetry
import Mathlib.Algebra.Group.Int.Defs

/-!
# The encryptor

`OpenSSLAES256Encryptor` hands OpenSSL pointers without sizes: 32 bytes of the key
and 16 of the vector are read whatever their strings hold.  Every access is made in
a buffer here, so that one outside of it is undefined.
-/

namespace Airmap.Rest.Telemetry

open Machine (Attempt)
open Wire

/-- `AES256Encryptor::key_size_in_bytes`. -/
def keySizeInBytes : ℕ := 32

/-- What may be read from `data()`: the bytes of a string and its terminator. -/
def data (s : Bytes) : Bytes := s ++ [0]

@[simp] theorem length_data (s : Bytes) : (data s).length = s.length + 1 := by
  simp [data]

/-! ## OpenSSL -/

/-- The functions of `EVP`, where `none` is a context that was not created, or a
result other than 1. -/
structure EVP (Context : Type) where
  newContext : Option Context
  encryptInit : Context → (key iv : Bytes) → Option Context
  encryptUpdate : Context → Bytes → Option (Context × Bytes)
  encryptFinal : Context → Option Bytes

namespace EVP

variable {Context : Type} (evp : EVP Context)

/-- A context with a key and a vector, and no data yet. -/
def Fresh (ctx : Context) : Prop :=
  ∃ new key iv, evp.newContext = some new ∧ evp.encryptInit new key iv = some ctx

/-- How much AES-256-CBC with padding writes: the whole blocks, then the last one. -/
structure WritesBlocks : Prop where
  length_update : ∀ {ctx payload ctx' written}, evp.Fresh ctx →
    evp.encryptUpdate ctx payload = some (ctx', written) →
    written.length = blockSizeInBytes * (payload.length / blockSizeInBytes)
  length_final : ∀ {ctx payload ctx' written last}, evp.Fresh ctx →
    evp.encryptUpdate ctx payload = some (ctx', written) →
    evp.encryptFinal ctx' = some last → last.length = blockSizeInBytes

end EVP

/-! ## Encrypting -/

section Encrypt

variable {Context : Type} (base64Decode : Bytes → Bytes) (evp : EVP Context)

/-- A size as an `int`. -/
def toInt (size : ℕ) : ℤ := (size : ℤ).bmod (2 ^ 32)

/-- The cipher of a message of this size, before anything is written to it.  The size
is an `int`, and becomes unsigned when the size of a block is added. -/
def emptyCipher (payloadSize : ℤ) : Bytes :=
  List.replicate ((payloadSize + blockSizeInBytes) % 2 ^ 32).toNat 48

/-- `encrypt` after the context has its key and its vector. -/
def encryptPayload (ctx : Context) (message : Bytes) : Attempt Bytes := do
  let payloadSize := toInt message.length
  let cipher := emptyCipher payloadSize
  -- `EVP_EncryptUpdate` fails for a negative size.
  if payloadSize < 0 then .throws "failed to update encryption context for data"
  else
    let payload ← Machine.Buffer.read (data message) payloadSize.toNat
    match evp.encryptUpdate ctx payload with
    | none => .throws "failed to update encryption context for data"
    | some (ctx, written) =>
        let cipher ← Machine.Buffer.write cipher 0 written
        match evp.encryptFinal ctx with
        | none => .throws "failed to finalize encryption"
        | some last =>
            let cipher ← Machine.Buffer.write cipher written.length last
            Machine.Buffer.read cipher (written.length + last.length)

/-- `OpenSSLAES256Encryptor::encrypt`. -/
def encrypt (message key iv : Bytes) : Attempt Bytes := do
  let decodedKey := base64Decode key
  match evp.newContext with
  | none => .throws "failed to create encryption context"
  | some ctx =>
      let key ← Machine.Buffer.read (data decodedKey) keySizeInBytes
      let iv ← Machine.Buffer.read (data iv) blockSizeInBytes
      match evp.encryptInit ctx key iv with
      | none => .throws "failed to initialize encryption context"
      | some ctx => encryptPayload evp ctx message

/-- The evaluation throws, or returns a cipher of the size that the padding gives. -/
inductive StaysWithin (message : Bytes) : Attempt Bytes → Prop where
  | throws (what : String) : StaysWithin message (.throws what)
  | returns {cipher : Bytes}
      (h : cipher.length = blockSizeInBytes * (message.length / blockSizeInBytes + 1)) :
      StaysWithin message (.returns cipher)

theorem not_staysWithin_undefined (message : Bytes) :
    ¬ StaysWithin message .undefined := (nomatch ·)

variable {base64Decode evp} {message key iv : Bytes}

/-- The size of a message that is short enough is an `int`. -/
theorem toInt_length (hmessage : message.length + 16 < 2 ^ 31) :
    toInt message.length = message.length := by
  apply Int.bmod_eq_of_le <;> omega

theorem length_emptyCipher (hmessage : message.length + 16 < 2 ^ 31) :
    (emptyCipher message.length).length = message.length + blockSizeInBytes := by
  have hsize : ((message.length : ℤ) + blockSizeInBytes) % 2 ^ 32 =
      message.length + blockSizeInBytes := by
    apply Int.emod_eq_of_lt <;> simp only [blockSizeInBytes] <;> omega
  rw [emptyCipher, List.length_replicate, hsize]
  omega

/-- Both writes end inside of the cipher, and together have the length that is
returned. -/
theorem encryptPayload_staysWithin (hevp : evp.WritesBlocks) {ctx : Context}
    (hctx : evp.Fresh ctx) (hmessage : message.length + 16 < 2 ^ 31) :
    StaysWithin message (encryptPayload evp ctx message) := by
  have hcipher := length_emptyCipher hmessage
  have hread : message.length ≤ (data message).length := by simp
  have hpayload : (data message).take message.length = message := by
    simp [data]
  have hnonneg : ¬ (message.length : ℤ) < 0 := by omega
  simp only [encryptPayload, toInt_length hmessage, if_neg hnonneg, Int.toNat_natCast,
    Machine.Buffer.read_of_le hread, hpayload, Attempt.returns_bind]
  cases hupdate : evp.encryptUpdate ctx message with
  | none => exact .throws _
  | some updated =>
      obtain ⟨ctx', written⟩ := updated
      have hwritten := hevp.length_update hctx hupdate
      have hfits : 0 + written.length ≤ (emptyCipher message.length).length := by
        rw [hcipher, hwritten]
        simp only [blockSizeInBytes]
        omega
      obtain ⟨cipher, hfirst, hlength⟩ := Machine.Buffer.exists_write hfits
      simp only [hfirst, Attempt.returns_bind]
      cases hfinal : evp.encryptFinal ctx' with
      | none => exact .throws _
      | some last =>
          have hlast := hevp.length_final hctx hupdate hfinal
          have hfits' : written.length + last.length ≤ cipher.length := by
            rw [hlength, hcipher, hwritten, hlast]
            simp only [blockSizeInBytes]
            omega
          obtain ⟨cipher', hsecond, hlength'⟩ := Machine.Buffer.exists_write hfits'
          rw [← hlength'] at hfits'
          simp only [hsecond, Attempt.returns_bind, Machine.Buffer.read_of_le hfits']
          refine .returns ?_
          rw [List.length_take_of_le hfits', hwritten, hlast, Nat.mul_add, Nat.mul_one]

/-- The key that the server sent and the vector fill what is read of them; a
terminator is read as a byte of theirs. -/
def HoldsKeyAndVector (base64Decode : Bytes → Bytes) (key iv : Bytes) : Prop :=
  keySizeInBytes ≤ (base64Decode key).length + 1 ∧ blockSizeInBytes ≤ iv.length + 1

instance (base64Decode : Bytes → Bytes) (key iv : Bytes) :
    Decidable (HoldsKeyAndVector base64Decode key iv) :=
  inferInstanceAs (Decidable (_ ∧ _))

theorem encrypt_staysWithin (hevp : evp.WritesBlocks)
    (hmessage : message.length + 16 < 2 ^ 31)
    (h : evp.newContext = none ∨ HoldsKeyAndVector base64Decode key iv) :
    StaysWithin message (encrypt base64Decode evp message key iv) := by
  rw [HoldsKeyAndVector, ← length_data, ← length_data] at h
  rcases h with hnew | ⟨hkey, hiv⟩
  · simp only [encrypt, hnew]
    exact .throws _
  cases hnew : evp.newContext with
  | none =>
      simp only [encrypt, hnew]
      exact .throws _
  | some new =>
      simp only [encrypt, hnew]
      rw [Machine.Buffer.read_of_le hkey, Machine.Buffer.read_of_le hiv,
        Attempt.returns_bind, Attempt.returns_bind]
      split
      · exact .throws _
      · next ctx hinit =>
          exact encryptPayload_staysWithin hevp ⟨_, _, _, hnew, hinit⟩ hmessage

/-- What is behind a short key or a short vector is read with it. -/
theorem encrypt_undefined {new : Context} (hnew : evp.newContext = some new)
    (h : ¬ HoldsKeyAndVector base64Decode key iv) :
    encrypt base64Decode evp message key iv = .undefined := by
  rw [HoldsKeyAndVector, ← length_data, ← length_data] at h
  simp only [encrypt, hnew]
  rcases Nat.lt_or_ge (data (base64Decode key)).length keySizeInBytes with hkey | hkey
  · rw [Machine.Buffer.read_of_lt hkey, Attempt.undefined_bind]
  · have hiv : (data iv).length < blockSizeInBytes :=
      Nat.lt_of_not_le fun hiv => h ⟨hkey, hiv⟩
    rw [Machine.Buffer.read_of_le hkey, Machine.Buffer.read_of_lt hiv,
      Attempt.returns_bind, Attempt.undefined_bind]

/-- Encrypting stays within its buffers just when the context cannot be created, or
the key and the vector hold what is read of them. -/
theorem encrypt_staysWithin_iff {Context : Type} (base64Decode : Bytes → Bytes)
    {evp : EVP Context} (hevp : evp.WritesBlocks) {message : Bytes}
    (hmessage : message.length + 16 < 2 ^ 31) (key iv : Bytes) :
    StaysWithin message (encrypt base64Decode evp message key iv) ↔
      (evp.newContext = none ∨ HoldsKeyAndVector base64Decode key iv) := by
  constructor
  · intro hwithin
    cases hnew : evp.newContext with
    | none => exact Or.inl rfl
    | some new =>
        refine Or.inr (by_contra fun hshort => ?_)
        rw [encrypt_undefined hnew hshort] at hwithin
        exact not_staysWithin_undefined message hwithin
  · exact encrypt_staysWithin hevp hmessage

/-- With a context, encrypting is undefined just when the key or the vector is too
short. -/
theorem encrypt_eq_undefined_iff (hevp : evp.WritesBlocks)
    (hmessage : message.length + 16 < 2 ^ 31) :
    encrypt base64Decode evp message key iv = .undefined ↔
      evp.newContext.isSome ∧ ¬ HoldsKeyAndVector base64Decode key iv := by
  constructor
  · intro hundefined
    by_contra hfits
    have hwithin : StaysWithin message (encrypt base64Decode evp message key iv) := by
      refine encrypt_staysWithin hevp hmessage ?_
      rwa [Option.isSome_iff_ne_none, not_and_not_right, ← or_iff_not_imp_left] at hfits
    rw [hundefined] at hwithin
    exact not_staysWithin_undefined message hwithin
  · rintro ⟨hnew, hshort⟩
    obtain ⟨new, hnew⟩ := Option.isSome_iff_exists.mp hnew
    exact encrypt_undefined hnew hshort

end Encrypt

/-! ### Concrete keys -/

/-- What AES-256-CBC comes to for a message of less than a block, if its only block is
`last`. -/
def oneBlock (last : Bytes) : EVP Unit where
  newContext := some ()
  encryptInit _ _ _ := some ()
  encryptUpdate _ payload :=
    some ((), List.replicate (blockSizeInBytes * (payload.length / blockSizeInBytes)) 0)
  encryptFinal _ := some last

theorem writesBlocks_oneBlock {last : Bytes} (hlast : last.length = blockSizeInBytes) :
    (oneBlock last).WritesBlocks where
  length_update := by
    rintro ctx payload ctx' written - ⟨⟩
    exact List.length_replicate
  length_final := by
    rintro ctx payload ctx' written last' - - ⟨⟩
    exact hlast

/-- The bytes of a text in ASCII. -/
def ascii (s : String) : Bytes := s.toList.map fun c => .ofNat c.toNat

/-- The message of the test of the encryptor is encrypted within its buffers, with 32 zeros
for a key and 16 for a vector. -/
theorem encrypt_staysWithin_iff_zeroKey :
    let evp := oneBlock
      [100, 113, 121, 226, 3, 208, 234, 47, 164, 6, 214, 20, 161, 247, 139, 213]
    let message := ascii "AirMap is great"
    StaysWithin message (encrypt (fun _ => List.replicate 32 0) evp message zeroKey
        (List.replicate 16 0)) ↔
      (evp.newContext = none ∨ HoldsKeyAndVector (fun _ => List.replicate 32 0) zeroKey
        (List.replicate 16 0)) :=
  encrypt_staysWithin_iff _ (writesBlocks_oneBlock rfl) (by decide) _ _

/-- The key and the vector of the test of the encryptor: the key is 24 bytes, and
those that follow it in memory are read with it. -/
theorem encrypt_testKey_not_staysWithin :
    let evp := oneBlock
      [239, 107, 48, 65, 231, 153, 197, 34, 108, 65, 50, 65, 222, 180, 107, 141]
    let message := ascii "AirMap is great"
    evp.WritesBlocks ∧ message.length + 16 < 2 ^ 31 ∧
      ¬ StaysWithin message (encrypt (fun _ => ascii "add163dd6c15d443b3bc6146") evp message
        (ascii "YWRkMTYzZGQ2YzE1ZDQ0M2IzYmM2MTQ2")
        (ascii "M2U4NTc1MTVjZjJmOGRjMzg0YTE5ZjNi")) := by
  intro evp message
  have hnew : evp.newContext = some () := rfl
  refine ⟨writesBlocks_oneBlock rfl, by decide, ?_⟩
  rw [encrypt_undefined hnew (by decide)]
  exact not_staysWithin_undefined message

/-! ## Submitting updates -/

/-- `OpenSSLAES256Encryptor`: `RAND_bytes` fills the vector or fails. -/
def openSSLAES256Encryptor {Context : Type} (base64Decode : Bytes → Bytes)
    (evp : EVP Context) (errorString : String)
    (random : Option { iv : Bytes // iv.length = blockSizeInBytes }) : AES256Encryptor where
  createSharedSecret :=
    match random with
    | some iv => .returns iv.1
    | none => .throws errorString
  encrypt := encrypt base64Decode evp

/-- The vector that is sent always has a block; only the key can be too short. -/
theorem submitUpdates_eq_undefined_iff {Context : Type} (order : ByteOrder)
    (narrowing : Double.Narrowing) (serializer : Serializer)
    (base64Decode : Bytes → Bytes) {evp : EVP Context} (hevp : evp.WritesBlocks)
    (errorString : String) (random : Option { iv : Bytes // iv.length = blockSizeInBytes })
    {updates : List Telemetry.Update}
    (hpayload : (payload order narrowing serializer updates).buffer.length + 16 < 2 ^ 31)
    (counter : UInt32) (id key : Bytes) :
    submitUpdates order narrowing serializer
        (openSSLAES256Encryptor base64Decode evp errorString random) counter id key updates =
        .undefined ↔
      random.isSome ∧ evp.newContext.isSome ∧
        (base64Decode key).length + 1 < keySizeInBytes := by
  simp only [submitUpdates, Attempt.bind_eq_undefined_iff, openSSLAES256Encryptor]
  cases random with
  | none => simp
  | some iv =>
      have hiv : blockSizeInBytes ≤ iv.1.length + 1 := by
        rw [iv.2]
        omega
      have hshort : ¬ HoldsKeyAndVector base64Decode key iv.1 ↔
          (base64Decode key).length + 1 < keySizeInBytes := by
        rw [HoldsKeyAndVector, and_iff_left hiv, Nat.not_le]
      simp [encrypt_eq_undefined_iff hevp hpayload, hshort]

end Airmap.Rest.Telemetry
