import PlatformSdk.Json.Storage
import PlatformSdk.Rest.Authenticator

/-!
# Tokens as JSON documents

`codec::json::decode` and `encode` for `Token`.  A token whose type or whose time
to live was never set has no encoding; every other token is decoded from its
encoding.
-/

namespace Airmap

open Machine (Attempt)

/-- `Token::Refreshed`; its type and `expires_in` are not initialized before they
are decoded. -/
structure Token.Refreshed where
  type : Option Token.OAuth.Kind := none
  expiresIn : Option Int64 := none
  id : String := ""
  originalToken : Option Token.OAuth := none
  deriving DecidableEq

/-- `Token::Type`. -/
inductive Token.Kind where
  | unknown
  | anonymous
  | oauth
  | refreshed
  deriving DecidableEq, Repr

/-- `Token`: the active member of the union. -/
inductive Token where
  | unknown
  | anonymous (details : Token.Anonymous)
  | oauth (details : Token.OAuth)
  | refreshed (details : Token.Refreshed)
  deriving DecidableEq

namespace Token

/-- `Token::type`. -/
def kind : Token → Kind
  | .unknown => .unknown
  | .anonymous _ => .anonymous
  | .oauth _ => .oauth
  | .refreshed _ => .refreshed

/-! ## The type as a text -/

/-- `operator<<`. -/
def Kind.toText : Kind → String
  | .unknown => "unknown"
  | .anonymous => "anonymous"
  | .oauth => "oauth"
  | .refreshed => "refreshed"

/-- `isspace`. -/
def isSpace (c : Char) : Bool :=
  c.toNat == 32 || (9 ≤ c.toNat && c.toNat ≤ 13)

/-- `lexical_cast` through `operator>>`: it takes one word that is the whole text,
and a word that is not known leaves the first type. -/
def Kind.ofText (text : String) : Attempt Kind :=
  if text = "" ∨ text.toList.any isSpace then
    .throws "bad lexical cast: source type value could not be interpreted as target"
  else if text = "anonymous" then .returns .anonymous
  else if text = "oauth" then .returns .oauth
  else if text = "refreshed" then .returns .refreshed
  else .returns .unknown

def Kind.decode (j : Json) : Attempt Kind := do
  Kind.ofText (← j.getString)

def Kind.encode (kind : Kind) : Json := .string kind.toText

theorem Kind.ofText_toText (kind : Kind) : Kind.ofText kind.toText = .returns kind := by
  cases kind with
  | unknown => decide
  | anonymous => decide
  | oauth => decide
  | refreshed => decide

theorem Kind.decode_encode (kind : Kind) : Kind.decode kind.encode = .returns kind :=
  Kind.ofText_toText kind

/-! ## Decoding -/

/-- `decode(std::chrono::seconds)`. -/
def decodeSeconds (j : Json) : Attempt (Option Int64) := do
  return some (← j.getUint64).toInt64

def Refreshed.decode (j : Json) : Attempt Refreshed := do
  let type ← j.get none OAuth.decodeKind "token_type"
  let expiresIn ← j.get none decodeSeconds "expires_in"
  let id ← j.get "" Json.getString "id_token"
  let originalToken ←
    j.get none (fun value => do return some (← OAuth.decode value)) "original_token"
  return { type, expiresIn, id, originalToken }

def decode (j : Json) : Attempt Token := do
  let type ← Kind.decode (← j.index "type")
  match type with
  | .anonymous => return .anonymous (← Anonymous.decode (← j.index "anonymous"))
  | .oauth => return .oauth (← OAuth.decode (← j.index "oauth"))
  | .refreshed => return .refreshed (← Refreshed.decode (← j.index "refreshed"))
  | .unknown => return .unknown

/-! ## Encoding -/

/-- `encode(Token::OAuth::Type)`, of a type that was set. -/
def OAuth.encodeKind : Option OAuth.Kind → Attempt Json
  | some .bearer => .returns (.string "bearer")
  | none => .undefined

/-- The members in the order of their names, as in every document below. -/
def OAuth.encode (token : OAuth) : Attempt Json := do
  let type ← OAuth.encodeKind token.type
  return .object
    [("access_token", .string token.access), ("id_token", .string token.id),
      ("refresh_token", .string token.refresh), ("token_type", type)]

def Anonymous.encode (token : Anonymous) : Json :=
  .object [("id_token", .string token.id)]

/-- `expires_in.count()`, of a duration that was set. -/
def encodeSeconds : Option Int64 → Attempt Json
  | some seconds => .returns (.numberInteger seconds.toInt)
  | none => .undefined

def Refreshed.encode (token : Refreshed) : Attempt Json := do
  let type ← OAuth.encodeKind token.type
  let expiresIn ← encodeSeconds token.expiresIn
  match token.originalToken with
  | some original =>
      let originalToken ← original.encode
      return .object
        [("expires_in", expiresIn), ("id_token", .string token.id),
          ("original_token", originalToken), ("token_type", type)]
  | none =>
      return .object
        [("expires_in", expiresIn), ("id_token", .string token.id),
          ("token_type", type)]

def encode : Token → Attempt Json
  | .unknown => return .object [("type", Kind.unknown.encode)]
  | .anonymous details =>
      return .object [("anonymous", details.encode), ("type", Kind.anonymous.encode)]
  | .oauth details => do
      let oauth ← details.encode
      return .object [("oauth", oauth), ("type", Kind.oauth.encode)]
  | .refreshed details => do
      let refreshed ← details.encode
      return .object [("refreshed", refreshed), ("type", Kind.refreshed.encode)]

/-! ## The round trip -/

/-- The members without a default have a value. -/
def OAuth.IsInitialized (token : OAuth) : Prop := token.type.isSome

/-- The members without a default have a value, also in the original token. -/
structure Refreshed.IsInitialized (token : Refreshed) : Prop where
  type : token.type.isSome
  expiresIn : token.expiresIn.isSome
  originalToken : ∀ original, token.originalToken = some original → original.IsInitialized

def IsInitialized : Token → Prop
  | .unknown | .anonymous _ => True
  | .oauth details => details.IsInitialized
  | .refreshed details => details.IsInitialized

theorem OAuth.encode_eq_returns_iff {token : OAuth} {j : Json} :
    token.encode = .returns j ↔ token.type = some .bearer ∧ j = .object
      [("access_token", .string token.access), ("id_token", .string token.id),
        ("refresh_token", .string token.refresh), ("token_type", .string "bearer")] := by
  obtain ⟨type, refresh, id, access⟩ := token
  cases type with
  | none => simp [OAuth.encode, OAuth.encodeKind]
  | some kind =>
      cases kind
      simp [OAuth.encode, OAuth.encodeKind, eq_comm]

theorem OAuth.decode_of_encode {token : OAuth} {j : Json}
    (h : token.encode = .returns j) : OAuth.decode j = .returns token := by
  obtain ⟨type, refresh, id, access⟩ := token
  obtain ⟨htype, rfl⟩ := OAuth.encode_eq_returns_iff.mp h
  cases htype
  rfl

theorem OAuth.exists_encode_iff {token : OAuth} :
    (∃ j, token.encode = .returns j) ↔ token.IsInitialized := by
  rw [OAuth.IsInitialized, Option.isSome_iff_exists]
  constructor
  · rintro ⟨j, h⟩
    exact ⟨_, (OAuth.encode_eq_returns_iff.mp h).1⟩
  · rintro ⟨kind, hkind⟩
    cases kind
    exact ⟨_, OAuth.encode_eq_returns_iff.mpr ⟨hkind, rfl⟩⟩

theorem decodeSeconds_numberInteger (seconds : Int64) :
    decodeSeconds (.numberInteger seconds.toInt) = .returns (some seconds) := by
  simp [decodeSeconds, Json.getUint64]

/-- The original token as a member, if there is one. -/
theorem Refreshed.encode_eq_returns_iff {token : Refreshed} {j : Json} :
    token.encode = .returns j ↔ token.type = some .bearer ∧
      ∃ seconds, token.expiresIn = some seconds ∧
        ((token.originalToken = none ∧ j = .object
            [("expires_in", .numberInteger seconds.toInt),
              ("id_token", .string token.id), ("token_type", .string "bearer")]) ∨
          ∃ original oauth, token.originalToken = some original ∧
            original.encode = .returns oauth ∧ j = .object
              [("expires_in", .numberInteger seconds.toInt),
                ("id_token", .string token.id), ("original_token", oauth),
                ("token_type", .string "bearer")]) := by
  obtain ⟨type, expiresIn, id, originalToken⟩ := token
  cases type with
  | none => simp [Refreshed.encode, OAuth.encodeKind]
  | some kind =>
      cases kind
      cases expiresIn with
      | none => simp [Refreshed.encode, OAuth.encodeKind, encodeSeconds]
      | some seconds =>
          cases originalToken with
          | none => simp [Refreshed.encode, OAuth.encodeKind, encodeSeconds, eq_comm]
          | some original =>
              simp [Refreshed.encode, OAuth.encodeKind, encodeSeconds,
                Attempt.bind_eq_returns_iff, eq_comm (a := j)]

theorem Refreshed.decode_of_encode {token : Refreshed} {j : Json}
    (h : token.encode = .returns j) : Refreshed.decode j = .returns token := by
  obtain ⟨type, expiresIn, id, originalToken⟩ := token
  obtain ⟨htype, seconds, hseconds, ⟨hnone, rfl⟩ | ⟨original, oauth, hsome, hencode, rfl⟩⟩ :=
    Refreshed.encode_eq_returns_iff.mp h
  · cases htype
    cases hseconds
    cases hnone
    have hexpires := decodeSeconds_numberInteger seconds
    simp [Refreshed.decode, Json.get, Json.count, Json.find, Json.atKey, List.lookup_cons,
      OAuth.decodeKind, Json.getString, hexpires]
  · cases htype
    cases hseconds
    cases hsome
    have hexpires := decodeSeconds_numberInteger seconds
    have hdecode := OAuth.decode_of_encode hencode
    obtain ⟨-, rfl⟩ := OAuth.encode_eq_returns_iff.mp hencode
    simp [Refreshed.decode, Json.get, Json.count, Json.find, Json.atKey, List.lookup_cons,
      OAuth.decodeKind, Json.getString, hexpires, hdecode]

theorem Refreshed.exists_encode_iff {token : Refreshed} :
    (∃ j, token.encode = .returns j) ↔ token.IsInitialized := by
  constructor
  · rintro ⟨j, h⟩
    obtain ⟨htype, seconds, hseconds, horiginal⟩ := Refreshed.encode_eq_returns_iff.mp h
    refine ⟨by simp [htype], by simp [hseconds], fun original hsome => ?_⟩
    obtain ⟨hnone, -⟩ | ⟨original', oauth, hsome', hencode, -⟩ := horiginal
    · rw [hnone] at hsome
      cases hsome
    · rw [hsome', Option.some.injEq] at hsome
      exact hsome ▸ OAuth.exists_encode_iff.mp ⟨oauth, hencode⟩
  · rintro ⟨htype, hexpiresIn, horiginal⟩
    obtain ⟨kind, hkind⟩ := Option.isSome_iff_exists.mp htype
    obtain ⟨seconds, hseconds⟩ := Option.isSome_iff_exists.mp hexpiresIn
    cases kind
    cases hsome : token.originalToken with
    | none =>
        exact ⟨_, Refreshed.encode_eq_returns_iff.mpr
          ⟨hkind, seconds, hseconds, Or.inl ⟨hsome, rfl⟩⟩⟩
    | some original =>
        obtain ⟨oauth, hoauth⟩ := OAuth.exists_encode_iff.mpr (horiginal original hsome)
        exact ⟨_, Refreshed.encode_eq_returns_iff.mpr
          ⟨hkind, seconds, hseconds, Or.inr ⟨original, oauth, hsome, hoauth, rfl⟩⟩⟩

/-- What a token is encoded as is decoded as the token. -/
theorem decode_of_encode {token : Token} {j : Json} (h : token.encode = .returns j) :
    decode j = .returns token := by
  cases token with
  | unknown =>
      cases h
      simp [decode, Json.index, List.lookup_cons, Kind.decode_encode]
  | anonymous details =>
      cases h
      have hdecode : Anonymous.decode details.encode = .returns details := rfl
      simp [decode, Json.index, List.lookup_cons, Kind.decode_encode, hdecode]
  | oauth details =>
      simp only [encode, Attempt.bind_eq_returns_iff] at h
      obtain ⟨oauth, hoauth, h⟩ := h
      cases h
      have hdecode := OAuth.decode_of_encode hoauth
      simp [decode, Json.index, List.lookup_cons, Kind.decode_encode, hdecode]
  | refreshed details =>
      simp only [encode, Attempt.bind_eq_returns_iff] at h
      obtain ⟨refreshed, hrefreshed, h⟩ := h
      cases h
      have hdecode := Refreshed.decode_of_encode hrefreshed
      simp [decode, Json.index, List.lookup_cons, Kind.decode_encode, hdecode]

/-- Exactly the tokens whose members have a value can be encoded. -/
theorem exists_encode_iff {token : Token} :
    (∃ j, token.encode = .returns j) ↔ token.IsInitialized := by
  cases token with
  | unknown => exact ⟨fun _ => trivial, fun _ => ⟨_, rfl⟩⟩
  | anonymous details => exact ⟨fun _ => trivial, fun _ => ⟨_, rfl⟩⟩
  | oauth details =>
      simp [encode, Attempt.bind_eq_returns_iff, IsInitialized,
        ← OAuth.exists_encode_iff]
  | refreshed details =>
      simp [encode, Attempt.bind_eq_returns_iff, IsInitialized,
        ← Refreshed.exists_encode_iff]

/-- Every token whose members have a value is encoded, and decoded with all its
members as they were. -/
theorem exists_encode_and_decode {token : Token} (h : token.IsInitialized) :
    ∃ j, token.encode = .returns j ∧ decode j = .returns token := by
  obtain ⟨j, hj⟩ := exists_encode_iff.mpr h
  exact ⟨j, hj, decode_of_encode hj⟩

/-- A token that was refreshed, with the token that it was refreshed from. -/
def renewed : Token :=
  .refreshed
    { type := some .bearer
      expiresIn := some (-1)
      id := "id"
      originalToken := some
        { type := some .bearer, refresh := "refresh", id := "first", access := "access" } }

theorem isInitialized_renewed : renewed.IsInitialized :=
  ⟨rfl, rfl, fun original h => by
    cases h
    rfl⟩

/-- The round trip of this token. -/
theorem exists_encode_and_decode_renewed :
    ∃ j, renewed.encode = .returns j ∧ decode j = .returns renewed :=
  exists_encode_and_decode isInitialized_renewed

/-! ## Tokens in files -/

theorem get_reparsed {β : Type} (current : β) {read : Json → Attempt β}
    (hread : ∀ value : Json, read value.reparsed = read value) (name : String)
    (j : Json) : j.reparsed.get current read name = j.get current read name := by
  have hcount : j.reparsed.count name = j.count name := by
    simp [Json.count, Json.find_reparsed]
  rw [Json.get, Json.get, hcount, Json.atKey_reparsed]
  cases j.atKey name with
  | returns value =>
      have hvalue := hread value
      rw [Attempt.map_returns, Attempt.returns_bind, Attempt.returns_bind]
      cases value with
      | null => simp [Json.reparsed]
      | numberInteger value =>
          simp only [Json.reparsed] at hvalue ⊢
          split at hvalue
          · next hsign => simp [hsign, hvalue]
          · next hsign => simp [hsign]
      | object members =>
          simp only [Json.reparsed] at hvalue ⊢
          simp [hvalue]
      | array elements =>
          simp only [Json.reparsed] at hvalue ⊢
          simp [hvalue]
      | _ => simp only [Json.reparsed]
  | throws what => rfl
  | undefined => rfl

theorem OAuth.decodeKind_reparsed (j : Json) :
    OAuth.decodeKind j.reparsed = OAuth.decodeKind j := by
  rw [OAuth.decodeKind, Json.getString_reparsed, OAuth.decodeKind]

theorem OAuth.decode_reparsed (j : Json) : OAuth.decode j.reparsed = OAuth.decode j := by
  simp only [OAuth.decode, get_reparsed _ Json.getString_reparsed,
    get_reparsed _ OAuth.decodeKind_reparsed]

theorem Anonymous.decode_reparsed (j : Json) :
    Anonymous.decode j.reparsed = Anonymous.decode j := by
  simp only [Anonymous.decode, get_reparsed _ Json.getString_reparsed]

theorem Refreshed.decode_reparsed (j : Json) :
    Refreshed.decode j.reparsed = Refreshed.decode j := by
  have hseconds : ∀ value : Json, decodeSeconds value.reparsed = decodeSeconds value := by
    intro value
    rw [decodeSeconds, Json.getUint64_reparsed, decodeSeconds]
  have horiginal : ∀ value : Json,
      (do return some (← OAuth.decode value.reparsed) : Attempt (Option OAuth)) =
        do return some (← OAuth.decode value) := by
    intro value
    rw [OAuth.decode_reparsed]
  simp only [Refreshed.decode, get_reparsed _ Json.getString_reparsed,
    get_reparsed _ OAuth.decodeKind_reparsed, get_reparsed _ hseconds,
    @get_reparsed _ none (fun value => do return some (← OAuth.decode value)) horiginal]

/-- A token is read from a file as it is read from the document. -/
theorem decode_reparsed (j : Json) : decode j.reparsed = decode j := by
  have hkind : ∀ value : Json, Kind.decode value.reparsed = Kind.decode value := by
    intro value
    rw [Kind.decode, Json.getString_reparsed, Kind.decode]
  simp [decode, Json.index_reparsed, hkind, OAuth.decode_reparsed,
    Anonymous.decode_reparsed, Refreshed.decode_reparsed]

theorem OAuth.isPlain_of_encode {token : OAuth} {j : Json}
    (h : token.encode = .returns j) : j.IsPlain := by
  obtain ⟨-, rfl⟩ := OAuth.encode_eq_returns_iff.mp h
  refine .object ?_ fun member hmem => ?_
  · simp only [List.map]
    decide
  · simp only [List.mem_cons, List.not_mem_nil, or_false] at hmem
    obtain rfl | rfl | rfl | rfl := hmem
    all_goals exact .string _

theorem isPlain_seconds (seconds : Int64) : (Json.numberInteger seconds.toInt).IsPlain :=
  .numberInteger seconds.le_toInt seconds.toInt_lt

theorem Refreshed.isPlain_of_encode {token : Refreshed} {j : Json}
    (h : token.encode = .returns j) : j.IsPlain := by
  obtain ⟨-, seconds, -, ⟨-, rfl⟩ | ⟨original, oauth, -, hencode, rfl⟩⟩ :=
    Refreshed.encode_eq_returns_iff.mp h
  · refine .object ?_ fun member hmem => ?_
    · simp only [List.map]
      decide
    · simp only [List.mem_cons, List.not_mem_nil, or_false] at hmem
      obtain rfl | rfl | rfl := hmem
      · exact isPlain_seconds seconds
      · exact .string _
      · exact .string _
  · refine .object ?_ fun member hmem => ?_
    · simp only [List.map]
      decide
    · simp only [List.mem_cons, List.not_mem_nil, or_false] at hmem
      obtain rfl | rfl | rfl | rfl := hmem
      · exact isPlain_seconds seconds
      · exact .string _
      · exact OAuth.isPlain_of_encode hencode
      · exact .string _

/-- An object of two plain members. -/
theorem isPlain_pair {first second : String} {j j' : Json} (horder : first < second)
    (hj : j.IsPlain) (hj' : j'.IsPlain) :
    (Json.object [(first, j), (second, j')]).IsPlain := by
  refine .object (by simpa using horder) fun member hmem => ?_
  simp only [List.mem_cons, List.not_mem_nil, or_false] at hmem
  obtain rfl | rfl := hmem
  · exact hj
  · exact hj'

theorem isPlain_of_encode {token : Token} {j : Json} (h : token.encode = .returns j) :
    j.IsPlain := by
  cases token with
  | unknown =>
      cases h
      exact .object (by simp) fun member hmem => by
        rw [List.mem_singleton.mp hmem]
        exact .string _
  | anonymous details =>
      cases h
      refine isPlain_pair (by decide) (.object (by simp) fun member hmem => ?_) (.string _)
      rw [List.mem_singleton.mp hmem]
      exact .string _
  | oauth details =>
      simp only [encode, Attempt.bind_eq_returns_iff] at h
      obtain ⟨oauth, hoauth, h⟩ := h
      cases h
      exact isPlain_pair (by decide) (OAuth.isPlain_of_encode hoauth) (.string _)
  | refreshed details =>
      simp only [encode, Attempt.bind_eq_returns_iff] at h
      obtain ⟨refreshed, hrefreshed, h⟩ := h
      cases h
      exact isPlain_pair (by decide) (Refreshed.isPlain_of_encode hrefreshed) (.string _)

/-- `Token::load_from_json`. -/
def loadFromJson {τ : Type} (storage : Json.Storage τ) (file : τ) : Attempt Token := do
  decode (← Attempt.ofExcept (storage.parse file))

/-- What was written to a file is loaded from it. -/
theorem loadFromJson_dump {τ : Type} (storage : Json.Storage τ) {token : Token} {j : Json}
    (h : token.encode = .returns j) :
    loadFromJson storage (storage.dump j) = .returns token := by
  rw [loadFromJson, storage.parse_dump j (isPlain_of_encode h)]
  exact (decode_reparsed j).trans (decode_of_encode h)

end Token
end Airmap
