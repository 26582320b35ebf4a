import PlatformSdk.Json

/-!
# Documents in files

A document that is dumped and parsed again comes back as itself, except that an
integer without a sign is read as an unsigned number.  What reads members,
strings and numbers does not see the difference.
-/

namespace Airmap.Json

open Machine (Attempt)

mutual

/-- What is parsed from the text of a document. -/
def reparsed : Json → Json
  | .null => .null
  | .object members => .object (reparsedMembers members)
  | .array elements => .array (reparsedElements elements)
  | .string value => .string value
  | .boolean value => .boolean value
  | .numberInteger value =>
      if 0 ≤ value then .numberUnsigned value.toNat else .numberInteger value
  | .numberUnsigned value => .numberUnsigned value
  | .numberFloat value => .numberFloat value

def reparsedMembers : List (String × Json) → List (String × Json)
  | [] => []
  | member :: members => reparsedMember member :: reparsedMembers members

def reparsedMember : String × Json → String × Json
  | (key, value) => (key, reparsed value)

def reparsedElements : List Json → List Json
  | [] => []
  | value :: values => reparsed value :: reparsedElements values

end

/-- A document without floating point numbers, with numbers in their ranges and
the members of each object in the order of their names. -/
inductive IsPlain : Json → Prop where
  | null : IsPlain .null
  | object {members : List (String × Json)}
      (horder : (members.map Prod.fst).Pairwise (· < ·))
      (h : ∀ member ∈ members, IsPlain member.2) : IsPlain (.object members)
  | array {elements : List Json} (h : ∀ value ∈ elements, IsPlain value) :
      IsPlain (.array elements)
  | string (value : String) : IsPlain (.string value)
  | boolean (value : Bool) : IsPlain (.boolean value)
  | numberInteger {value : ℤ} (hlower : -2 ^ 63 ≤ value) (hupper : value < 2 ^ 63) :
      IsPlain (.numberInteger value)
  | numberUnsigned {value : ℕ} (hupper : value < 2 ^ 64) :
      IsPlain (.numberUnsigned value)

/-- `json::dump` into a file and `json::parse` of a file. -/
structure Storage (τ : Type) where
  dump : Json → τ
  parse : τ → Except String Json
  parse_dump : ∀ j, j.IsPlain → parse (dump j) = .ok j.reparsed

/-- What does not tell an unsigned number from an integer does not see that one was
parsed for the other. -/
theorem apply_reparsed_numberInteger {β : Type} (f : Json → β)
    (h : ∀ n : ℕ, f (.numberUnsigned n) = f (.numberInteger n)) (value : ℤ) :
    f (reparsed (.numberInteger value)) = f (.numberInteger value) := by
  rw [reparsed]
  split
  · next hsign =>
      obtain ⟨n, rfl⟩ := Int.eq_ofNat_of_zero_le hsign
      exact h n
  · rfl

theorem lookup_reparsedMembers (key : String) (members : List (String × Json)) :
    (reparsedMembers members).lookup key = (members.lookup key).map reparsed := by
  induction members with
  | nil => simp [reparsedMembers]
  | cons member members ih =>
      obtain ⟨name, value⟩ := member
      simp only [reparsedMembers, reparsedMember, List.lookup_cons, ih]
      split
      · rfl
      · rfl

theorem find_reparsed (key : String) (j : Json) :
    j.reparsed.find key = (j.find key).map reparsed := by
  cases j with
  | object members => exact lookup_reparsedMembers key members
  | numberInteger value =>
      exact apply_reparsed_numberInteger (find key) (fun _ => rfl) value
  | _ => simp [reparsed, find]

theorem index_reparsed (key : String) (j : Json) :
    j.reparsed.index key = reparsed <$> j.index key := by
  cases j with
  | object members =>
      simp only [reparsed, index, lookup_reparsedMembers]
      cases members.lookup key with
      | none => rfl
      | some value => rfl
  | numberInteger value =>
      exact apply_reparsed_numberInteger (index key) (fun _ => rfl) value
  | _ =>
      simp only [reparsed, index]
      rfl

theorem atKey_reparsed (key : String) (j : Json) :
    j.reparsed.atKey key = reparsed <$> j.atKey key := by
  cases j with
  | object members =>
      simp only [reparsed, atKey, lookup_reparsedMembers]
      cases members.lookup key with
      | none => rfl
      | some value => rfl
  | numberInteger value =>
      exact apply_reparsed_numberInteger (atKey key) (fun _ => rfl) value
  | _ =>
      simp only [reparsed, atKey]
      rfl

theorem getString_reparsed (j : Json) : j.reparsed.getString = j.getString := by
  cases j with
  | numberInteger value =>
      exact apply_reparsed_numberInteger (getString) (fun _ => rfl) value
  | _ => simp [reparsed, getString, typeName]

theorem getUint64_reparsed (j : Json) : j.reparsed.getUint64 = j.getUint64 := by
  cases j with
  | numberInteger value =>
      exact apply_reparsed_numberInteger getUint64 (fun _ => rfl) value
  | _ => simp [reparsed, getUint64, typeName]

end Airmap.Json
