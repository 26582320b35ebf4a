import PlatformSdk.Json

/-!
# Documents as texts

`json::dump` without an indentation.  The text of a document has the characters of its
strings and of its numbers, and some of its own that are always the same.
-/

namespace Airmap.Json

/-- What `dump_escaped` makes of a character. -/
def escaped (c : Char) : List Char :=
  match c.toNat with
  -- quotation mark and reverse solidus
  | 0x22 | 0x5c => ['\x5c', c]
  | 0x08 => ['\x5c', 'b']
  | 0x0c => ['\x5c', 'f']
  | 0x0a => ['\x5c', 'n']
  | 0x0d => ['\x5c', 'r']
  | 0x09 => ['\x5c', 't']
  | n =>
      if n < 0x20 then ['\x5c', 'u', '0', '0', (n / 16).digitChar, (n % 16).digitChar]
      else [c]

/-- A string between quotation marks. -/
def dumpString (value : String) : List Char :=
  ['\x22'] ++ value.toList.flatMap escaped ++ ['\x22']

/-- `dump_float`; `format` is `snprintf` with the 15 digits that a `double` keeps, which writes
zero as the source does. -/
def dumpFloat (format : ℚ → List Char) : Double → List Char
  | .nan | .infinite _ => "null".toList
  | .finite value =>
      if '.' ∈ format value ∨ 'e' ∈ format value then format value
      else format value ++ ['.', '0']

mutual

/-- `dump`. -/
def dump (format : ℚ → List Char) : Json → List Char
  | .null => "null".toList
  | .object members => ['\x7b'] ++ [','].intercalate (dumpMembers format members) ++ ['\x7d']
  | .array elements => ['['] ++ [','].intercalate (dumpElements format elements) ++ [']']
  | .string value => dumpString value
  | .boolean value => if value then "true".toList else "false".toList
  | .numberInteger value => value.repr.toList
  | .numberUnsigned value => value.repr.toList
  | .numberFloat value => dumpFloat format value

def dumpMembers (format : ℚ → List Char) : List (String × Json) → List (List Char)
  | [] => []
  | member :: members => dumpMember format member :: dumpMembers format members

def dumpMember (format : ℚ → List Char) : String × Json → List Char
  | (name, value) => dumpString name ++ [':'] ++ dump format value

def dumpElements (format : ℚ → List Char) : List Json → List (List Char)
  | [] => []
  | value :: values => dump format value :: dumpElements format values

end

/-- What holds of all strings of a document, the names of members included. -/
inductive AllStrings (P : String → Prop) : Json → Prop where
  | null : AllStrings P .null
  | object {members : List (String × Json)} (hnames : ∀ member ∈ members, P member.1)
      (h : ∀ member ∈ members, AllStrings P member.2) : AllStrings P (.object members)
  | array {elements : List Json} (h : ∀ value ∈ elements, AllStrings P value) :
      AllStrings P (.array elements)
  | string {value : String} (h : P value) : AllStrings P (.string value)
  | boolean (value : Bool) : AllStrings P (.boolean value)
  | numberInteger (value : ℤ) : AllStrings P (.numberInteger value)
  | numberUnsigned (value : ℕ) : AllStrings P (.numberUnsigned value)
  | numberFloat (value : Double) : AllStrings P (.numberFloat value)

theorem AllStrings.pushBackAll {P : String → Prop} {values : List Json}
    (h : ∀ value ∈ values, AllStrings P value) : AllStrings P (Json.pushBackAll values) := by
  cases values with
  | nil => exact .null
  | cons value values => exact .array h

/-! ## The characters of a text -/

/-- The characters that a text has of its own. -/
def ownChars : List Char :=
  ['\x22', '\x5c', '\x7b', '\x7d', '[', ']', ',', ':', '.', '-', '0', '1', '2', '3', '4', '5',
    '6', '7', '8', '9', 'a', 'b', 'c', 'd', 'e', 'f', 'l', 'n', 'r', 's', 't', 'u']

theorem mem_intercalate {α : Type} {x : α} {sep : List α} {parts : List (List α)}
    (h : x ∈ sep.intercalate parts) : x ∈ sep ∨ ∃ part ∈ parts, x ∈ part := by
  induction parts with
  | nil => cases h
  | cons part parts ih =>
      by_cases hnil : parts = []
      · rw [hnil, List.intercalate_singleton] at h
        exact .inr ⟨part, List.mem_cons_self, h⟩
      · rw [List.intercalate_cons_of_ne_nil hnil, List.mem_append, List.mem_append] at h
        rcases h with (h | h) | h
        · exact .inr ⟨part, List.mem_cons_self, h⟩
        · exact .inl h
        · obtain hsep | ⟨other, hother, hx⟩ := ih h
          · exact .inl hsep
          · exact .inr ⟨other, List.mem_cons_of_mem _ hother, hx⟩

theorem dumpMembers_eq_map (format : ℚ → List Char) (members : List (String × Json)) :
    dumpMembers format members = members.map (dumpMember format) := by
  induction members with
  | nil => rfl
  | cons member members ih => rw [dumpMembers, ih, List.map_cons]

theorem dumpElements_eq_map (format : ℚ → List Char) (elements : List Json) :
    dumpElements format elements = elements.map (dump format) := by
  induction elements with
  | nil => rfl
  | cons value values ih => rw [dumpElements, ih, List.map_cons]

theorem digitChar_mem_ownChars {n : ℕ} (h : n < 16) : n.digitChar ∈ ownChars :=
  (by decide : ∀ n < 16, n.digitChar ∈ ownChars) n h

theorem repr_subset_ownChars (n : ℕ) : n.repr.toList ⊆ ownChars := by
  intro c hc
  rw [Nat.toList_repr] at hc
  have hdigit := Nat.isDigit_of_mem_toDigits (by decide) (by decide) hc
  obtain ⟨hlow, hhigh⟩ := Char.isDigit_iff_toNat.mp hdigit
  have hdigits : ∀ n < 58, 48 ≤ n → Char.ofNat n ∈ ownChars := by decide
  rw [← Char.ofNat_toNat c]
  exact hdigits c.toNat (Nat.lt_succ_of_le hhigh) hlow

/-- A character is kept, or escaped with characters of the text. -/
theorem mem_escaped {c d : Char} (h : d ∈ escaped c) : d = c ∨ d ∈ ownChars := by
  have hown : ∀ {escape : List Char}, escape ⊆ ownChars → d ∈ escape → d = c ∨ d ∈ ownChars :=
    fun hescape hd => .inr (hescape hd)
  rw [escaped] at h
  split at h
  · rcases List.mem_cons.mp h with rfl | h
    · exact .inr (by decide)
    · exact .inl (List.mem_singleton.mp h)
  · rcases List.mem_cons.mp h with rfl | h
    · exact .inr (by decide)
    · exact .inl (List.mem_singleton.mp h)
  · exact hown (by decide) h
  · exact hown (by decide) h
  · exact hown (by decide) h
  · exact hown (by decide) h
  · exact hown (by decide) h
  · split at h
    · have hhigh : (c.toNat / 16).digitChar ∈ ownChars := digitChar_mem_ownChars (by omega)
      have hlow : (c.toNat % 16).digitChar ∈ ownChars := digitChar_mem_ownChars (by omega)
      refine hown ?_ h
      simp only [List.cons_subset, hhigh, hlow, List.nil_subset, and_true]
      decide
    · exact .inl (List.mem_singleton.mp h)

section Chars

variable {P : Char → Prop} {format : ℚ → List Char}

theorem forall_mem_own (hown : ∀ c ∈ ownChars, P c) {text : List Char} (h : text ⊆ ownChars) :
    ∀ c ∈ text, P c := fun c hc => hown c (h hc)

theorem forall_mem_dumpString (hown : ∀ c ∈ ownChars, P c) {value : String}
    (hvalue : ∀ c ∈ value.toList, P c) : ∀ c ∈ dumpString value, P c := by
  have hquotes : ∀ c ∈ ['\x22'], P c := forall_mem_own hown (by decide)
  refine List.forall_mem_append.mpr ⟨List.forall_mem_append.mpr ⟨hquotes, ?_⟩, hquotes⟩
  intro c hc
  obtain ⟨d, hd, hc⟩ := List.mem_flatMap.mp hc
  rcases mem_escaped hc with rfl | hc
  · exact hvalue _ hd
  · exact hown c hc

/-- The parts of an object or of an array, with brackets around them. -/
theorem forall_mem_enclosed (hown : ∀ c ∈ ownChars, P c) {first last : Char}
    (hfirst : first ∈ ownChars) (hlast : last ∈ ownChars) {parts : List (List Char)}
    (hparts : ∀ part ∈ parts, ∀ c ∈ part, P c) :
    ∀ c ∈ [first] ++ [','].intercalate parts ++ [last], P c := by
  intro c hc
  rw [List.mem_append, List.mem_append, List.mem_singleton, List.mem_singleton] at hc
  rcases hc with (rfl | hc) | rfl
  · exact hown _ hfirst
  · obtain hc | ⟨part, hpart, hc⟩ := mem_intercalate hc
    · exact forall_mem_own hown (by decide) c hc
    · exact hparts part hpart c hc
  · exact hown _ hlast

/-- The characters of a text: its own, those of the strings, and those of the numbers. -/
theorem forall_mem_dump (hown : ∀ c ∈ ownChars, P c) (hformat : ∀ x, ∀ c ∈ format x, P c)
    {j : Json} (hstrings : j.AllStrings fun value => ∀ c ∈ value.toList, P c) :
    ∀ c ∈ dump format j, P c := by
  induction hstrings with
  | null =>
      rw [dump]
      exact forall_mem_own hown (by decide)
  | @object members hnames hmembers ih =>
      rw [dump, dumpMembers_eq_map]
      refine forall_mem_enclosed hown (by decide) (by decide) fun part hpart => ?_
      obtain ⟨member, hmember, rfl⟩ := List.mem_map.mp hpart
      have hname := forall_mem_dumpString hown (hnames member hmember)
      have hcolon : ∀ c ∈ [':'], P c := forall_mem_own hown (by decide)
      rw [dumpMember]
      exact List.forall_mem_append.mpr
        ⟨List.forall_mem_append.mpr ⟨hname, hcolon⟩, ih member hmember⟩
  | @array elements helements ih =>
      rw [dump, dumpElements_eq_map]
      refine forall_mem_enclosed hown (by decide) (by decide) fun part hpart => ?_
      obtain ⟨value, hvalue, rfl⟩ := List.mem_map.mp hpart
      exact ih value hvalue
  | string hvalue => exact forall_mem_dumpString hown hvalue
  | boolean value =>
      rw [dump]
      cases value with
      | true => exact forall_mem_own hown (by decide)
      | false => exact forall_mem_own hown (by decide)
  | numberInteger value =>
      rw [dump]
      cases value with
      | ofNat n => exact forall_mem_own hown (repr_subset_ownChars n)
      | negSucc n =>
          rw [Int.repr, String.toList_append]
          exact List.forall_mem_append.mpr ⟨forall_mem_own hown (by decide),
            forall_mem_own hown (repr_subset_ownChars (n + 1))⟩
  | numberUnsigned value => exact forall_mem_own hown (repr_subset_ownChars value)
  | numberFloat value =>
      rw [dump]
      unfold dumpFloat
      split
      · exact forall_mem_own hown (by decide)
      · exact forall_mem_own hown (by decide)
      · split
        · exact hformat _
        · exact List.forall_mem_append.mpr ⟨hformat _, forall_mem_own hown (by decide)⟩

end Chars

end Airmap.Json
