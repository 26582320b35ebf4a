import Mathlib.Algebra.BigOperators.Group.List.Basic
import Mathlib.Algebra.GroupWithZero.Nat
import Mathlib.Algebra.Order.BigOperators.Group.List
import Mathlib.Algebra.Order.Group.Nat
import Mathlib.Data.List.Nodup
import Mathlib.Data.List.Perm.Subperm
import PlatformSdk.Wire.Separated

/-!
# Query strings

`uri::encode_query`, which the requester puts behind the path of a request.  What it
writes has only characters that a query may have.  It leaves the characters alone
that separate keys and values and that begin an escape, so that a query with one of
these in a key or a value is not the one that is read.
-/

namespace Airmap.Net.Http.Boost.Uri

open Wire (cut Keeps)

/-- A `std::string`, whose `char` has a sign. -/
abbrev Chars := List Int8

/-- The `char` of a character of ASCII. -/
def char (c : Char) : Int8 := .ofNat c.toNat

abbrev percent : Int8 := char '%'
abbrev ampersand : Int8 := char '&'
abbrev equals : Int8 := char '='

/-! ## Encoding -/

/-- `hex_to_letter`, for an `int`: this is the type of a `char` that was shifted. -/
def hexToLetter (n : Int32) : Int32 :=
  if 0 ≤ n ∧ n < 10 then n + 48
  else if 10 ≤ n ∧ n < 16 then n - 10 + 65
  else n

/-- The first condition of `encode_char`. -/
def isUnreserved (c : Int8) : Bool :=
  (char 'a' ≤ c && c ≤ char 'z') || (char 'A' ≤ c && c ≤ char 'Z') ||
    (char '0' ≤ c && c ≤ char '9') || c == char '-' || c == char '.' || c == char '_' ||
    c == char '~'

/-- `encode_char`. -/
def encodeChar (c : Int8) (ignore : Chars) : Chars :=
  if isUnreserved c then [c]
  else if ignore.contains c then [c]
  else
    [percent, (hexToLetter ((c.toInt32 >>> 4) &&& 0x0f)).toInt8,
      (hexToLetter (c.toInt32 &&& 0x0f)).toInt8]

/-- The characters that `encode_query` does not encode. -/
def ignored : Chars := "/.@&%;=".toList.map char

/-- `encode_query` of a range of characters. -/
def encodeRange (text : Chars) : Chars := text.flatMap (encodeChar · ignored)

/-- A `std::unordered_map` with its entries in the order of its iterators. -/
structure Query where
  entries : List (Chars × Chars)
  nodup_keys : (entries.map Prod.fst).Nodup

/-- An entry with its key and its value, as it is encoded. -/
def entryText (entry : Chars × Chars) : Chars := entry.1 ++ equals :: entry.2

/-- `encode_query`. -/
def encodeQuery (q : Query) : Chars :=
  match q.entries with
  | [] => []
  | first :: rest =>
      encodeRange (entryText first) ++
        rest.flatMap fun entry => ampersand :: encodeRange (entryText entry)

/-- The target of `Requester::get` and `Requester::delete_`. -/
def target (path : Chars) (q : Query) : Chars := path ++ char '?' :: encodeQuery q

/-! ## Every character -/

/-- What holds of all the `char`s one after the other holds of each. -/
theorem forall_char {p : Int8 → Prop}
    (h : ∀ n : Fin 256, p (.ofBitVec (.ofFin n))) (c : Int8) : p c :=
  h c.toBitVec.toFin

/-- The value of a hexadecimal digit. -/
def hexValue (c : Int8) : Option ℕ :=
  if char '0' ≤ c ∧ c ≤ char '9' then some (c - char '0').toNatClampNeg
  else if char 'A' ≤ c ∧ c ≤ char 'F' then some ((c - char 'A').toNatClampNeg + 10)
  else if char 'a' ≤ c ∧ c ≤ char 'f' then some ((c - char 'a').toNatClampNeg + 10)
  else none

/-- The byte of an escape with these digits. -/
def escape (high low : Int8) : Option Int8 :=
  match hexValue high, hexValue low with
  | some high, some low => some (.ofNat (16 * high + low))
  | _, _ => none

def isUpperHex (c : Int8) : Bool :=
  (char '0' ≤ c && c ≤ char '9') || (char 'A' ≤ c && c ≤ char 'F')

/-- What is written for a `char`: itself, if it may stand in a query, or an escape
that has its value. -/
inductive Writes (c : Int8) : Chars → Prop where
  | plain (h : isUnreserved c ∨ c ∈ ignored) : Writes c [c]
  | escaped {high low : Int8} (hhigh : isUpperHex high) (hlow : isUpperHex low)
      (hescape : escape high low = some c) : Writes c [percent, high, low]

/-- What holds of each `char`: the letters of its escape are digits with its value, no other
`char` is encoded with a separator, and it stands for itself unless it is neither a digit
nor a percent sign. -/
theorem encodeChar_each : ∀ c : Int8,
    (isUpperHex (hexToLetter ((c.toInt32 >>> 4) &&& 0x0f)).toInt8 ∧
      isUpperHex (hexToLetter (c.toInt32 &&& 0x0f)).toInt8 ∧
      escape (hexToLetter ((c.toInt32 >>> 4) &&& 0x0f)).toInt8
        (hexToLetter (c.toInt32 &&& 0x0f)).toInt8 = some c) ∧
    (∀ sep ∈ [ampersand, equals], c ≠ sep → sep ∉ encodeChar c ignored) ∧
    (encodeChar c ignored = [c] ∨ (hexValue c = none ∧ c ≠ percent)) :=
  forall_char (by decide +kernel)

theorem encodeChar_writes (c : Int8) : Writes c (encodeChar c ignored) := by
  rw [encodeChar]
  by_cases hunreserved : isUnreserved c = true
  · rw [if_pos hunreserved]
    exact .plain (Or.inl hunreserved)
  · rw [if_neg hunreserved]
    by_cases hignored : ignored.contains c = true
    · rw [if_pos hignored]
      exact .plain (Or.inr (by simpa using hignored))
    · rw [if_neg hignored]
      obtain ⟨⟨hhigh, hlow, hescape⟩, -⟩ := encodeChar_each c
      exact .escaped hhigh hlow hescape

/-- The text of a query with nothing encoded. -/
def plainText (q : Query) : Chars :=
  match q.entries with
  | [] => []
  | first :: rest =>
      entryText first ++ rest.flatMap fun entry => ampersand :: entryText entry

theorem keeps_ampersand : Keeps (encodeChar · ignored) ampersand where
  self := by decide
  other c := (encodeChar_each c).2.1 ampersand (by decide)

theorem keeps_equals : Keeps (encodeChar · ignored) equals where
  self := by decide
  other c := (encodeChar_each c).2.1 equals (by decide)

/-- The characters between the entries would be encoded as themselves. -/
theorem encodeQuery_eq (q : Query) : encodeQuery q = encodeRange (plainText q) := by
  rw [encodeQuery, plainText]
  cases q.entries with
  | nil => rfl
  | cons first rest =>
      simp [encodeRange, List.flatMap_append, List.flatMap_assoc, List.flatMap_cons,
        keeps_ampersand.self]

/-- The character ends neither the target of a request nor a line. -/
def isTargetChar (c : Int8) : Bool :=
  char ' ' < c && c < 127 && c != char '#' && c != char '?'

theorem isTargetChar_of_writes {c c' : Int8} {piece : Chars} (h : Writes c piece)
    (hmem : c' ∈ piece) :
    (isUnreserved c' ∨ c' ∈ ignored) ∧ isTargetChar c' := by
  have hplain : ∀ c : Int8, isUnreserved c ∨ c ∈ ignored → isTargetChar c :=
    forall_char (by decide +kernel)
  have hhex : ∀ c : Int8, isUpperHex c → isUnreserved c := forall_char (by decide +kernel)
  have hallowed : isUnreserved c' ∨ c' ∈ ignored := by
    cases h with
    | plain hc =>
        rw [List.mem_singleton] at hmem
        rwa [hmem]
    | escaped hhigh hlow =>
        simp only [List.mem_cons, List.not_mem_nil, or_false] at hmem
        rcases hmem with rfl | rfl | rfl
        · exact Or.inr (by decide)
        · exact Or.inl (hhex _ hhigh)
        · exact Or.inl (hhex _ hlow)
  exact ⟨hallowed, hplain c' hallowed⟩

/-- Whatever the bytes of a query are, each is written as itself or as an escape with
its value, and no character that is written ends the target of the request. -/
theorem encodeQuery_writes (q : Query) :
    (∃ pieces, List.Forall₂ Writes (plainText q) pieces ∧
      encodeQuery q = pieces.flatten) ∧
    (∀ c ∈ encodeQuery q, isUnreserved c ∨ c ∈ ignored) ∧
    ∀ path, ∀ c ∈ target path q, c ∈ path ∨ c = char '?' ∨ isTargetChar c := by
  have hpiece : ∀ c ∈ encodeQuery q, (isUnreserved c ∨ c ∈ ignored) ∧ isTargetChar c := by
    intro c hc
    rw [encodeQuery_eq, encodeRange, List.mem_flatMap] at hc
    obtain ⟨original, -, hmem⟩ := hc
    exact isTargetChar_of_writes (encodeChar_writes original) hmem
  refine ⟨⟨(plainText q).map (encodeChar · ignored), ?_, ?_⟩, ?_, ?_⟩
  · rw [List.forall₂_map_right_iff, List.forall₂_same]
    exact fun c _ => encodeChar_writes c
  · rw [encodeQuery_eq, encodeRange, List.flatMap_def]
  · exact fun c hc => (hpiece c hc).1
  · intro path c hc
    rcases List.mem_append.mp hc with hpath | hquery
    · exact Or.inl hpath
    · rcases List.mem_cons.mp hquery with rfl | hquery
      · exact Or.inr (Or.inl rfl)
      · exact Or.inr (Or.inr (hpiece c hquery).2)

/-! ## Reading -/

/-- The bytes that the escapes of a text stand for; a character that begins no escape
stands for itself. -/
def percentDecode : Chars → Chars
  | c :: high :: low :: rest =>
      if c = percent then
        match escape high low with
        | some byte => byte :: percentDecode rest
        | none => c :: percentDecode (high :: low :: rest)
      else c :: percentDecode (high :: low :: rest)
  | text => text

/-- An entry that was read from what stands between two separators. -/
def readEntry (part : Chars) : Chars × Chars :=
  (percentDecode (cut equals part).1, percentDecode (cut equals part).2)

/-- The entries of a query, where an empty text has none. -/
def readQuery (text : Chars) : List (Chars × Chars) :=
  if text = [] then [] else (text.splitOn ampersand).map readEntry

/-- The byte of the escape whose digits a text begins with. -/
def escapeAt : Chars → Option Int8
  | high :: low :: _ => escape high low
  | _ => none

theorem percentDecode_cons_of_ne {c : Int8} (h : c ≠ percent) (rest : Chars) :
    percentDecode (c :: rest) = c :: percentDecode rest := by
  rcases rest with _ | ⟨high, _ | ⟨low, rest⟩⟩
  · rfl
  · rfl
  · rw [percentDecode, if_neg h]

theorem percentDecode_percent_of_none {rest : Chars} (h : escapeAt rest = none) :
    percentDecode (percent :: rest) = percent :: percentDecode rest := by
  rcases rest with _ | ⟨high, _ | ⟨low, rest⟩⟩
  · rfl
  · rfl
  · rw [escapeAt] at h
    rw [percentDecode, if_pos rfl, h]

theorem percentDecode_escape {high low byte : Int8} (h : escape high low = some byte)
    (rest : Chars) :
    percentDecode (percent :: high :: low :: rest) = byte :: percentDecode rest := by
  rw [percentDecode, if_pos rfl, h]

/-- What a `char` is encoded as: itself, unless it is neither a digit of an escape nor
the beginning of one. -/
theorem encodeChar_cases (c : Int8) :
    encodeChar c ignored = [c] ∨
      (hexValue c = none ∧ c ≠ percent ∧
        ∃ high low, encodeChar c ignored = [percent, high, low] ∧
          escape high low = some c) := by
  by_cases hplain : encodeChar c ignored = [c]
  · exact Or.inl hplain
  · obtain ⟨hhex, hpercent⟩ := (encodeChar_each c).2.2.resolve_left hplain
    have hwrites := encodeChar_writes c
    generalize hpiece : encodeChar c ignored = piece at hwrites
    cases hwrites with
    | plain => exact absurd hpiece hplain
    | @escaped high low _ _ hescape =>
        exact Or.inr ⟨hhex, hpercent, high, low, rfl, hescape⟩

theorem escape_of_high {high : Int8} (h : hexValue high = none) (low : Int8) :
    escape high low = none := by
  rw [escape, h]

theorem escape_of_low {low : Int8} (h : hexValue low = none) (high : Int8) :
    escape high low = none := by
  rw [escape, h]
  cases hexValue high <;> rfl

theorem hexValue_percent : hexValue percent = none := by decide

/-- Encoding makes no escapes of what comes after a percent sign. -/
theorem escapeAt_encodeRange (text : Chars) :
    escapeAt (encodeRange text) = escapeAt text := by
  rcases text with _ | ⟨high, rest⟩
  · rfl
  · rw [encodeRange, List.flatMap_cons]
    rcases encodeChar_cases high with hhigh | ⟨hnone, -, first, second, hhigh, -⟩
    · rw [hhigh]
      rcases rest with _ | ⟨low, rest⟩
      · rfl
      · rw [List.flatMap_cons]
        rcases encodeChar_cases low with hlow | ⟨hnone, -, first, second, hlow, -⟩
        · rw [hlow]
          rfl
        · rw [hlow]
          change escape high percent = escape high low
          rw [escape_of_low hexValue_percent, escape_of_low hnone]
    · rw [hhigh]
      change escape percent first = escapeAt (high :: rest)
      rw [escape_of_high hexValue_percent]
      rcases rest with _ | ⟨low, rest⟩
      · rfl
      · exact (escape_of_high hnone low).symm

/-- The digits of an escape are encoded as themselves. -/
theorem encodeRange_of_escape {high low byte : Int8} (h : escape high low = some byte)
    (rest : Chars) : encodeRange (high :: low :: rest) = high :: low :: encodeRange rest := by
  have hhigh : encodeChar high ignored = [high] := by
    refine (encodeChar_cases high).resolve_right fun hcase => ?_
    rw [escape_of_high hcase.1] at h
    cases h
  have hlow : encodeChar low ignored = [low] := by
    refine (encodeChar_cases low).resolve_right fun hcase => ?_
    rw [escape_of_low hcase.1] at h
    cases h
  rw [encodeRange, List.flatMap_cons, List.flatMap_cons, hhigh, hlow]
  rfl

/-- Reading does not see whether a text was encoded. -/
theorem percentDecode_encodeRange (text : Chars) :
    percentDecode (encodeRange text) = percentDecode text := by
  induction hn : text.length using Nat.strongRecOn generalizing text with
  | _ n ih =>
      rcases text with _ | ⟨c, rest⟩
      · rfl
      · have hrest := ih rest.length (by simp [← hn]) rest rfl
        have hcons : encodeRange (c :: rest) = encodeChar c ignored ++ encodeRange rest :=
          List.flatMap_cons
        rw [hcons]
        rcases encodeChar_cases c with hplain | ⟨-, hne, high, low, hescaped, hescape⟩
        · rw [hplain, List.singleton_append]
          by_cases hpercent : c = percent
          · subst hpercent
            cases hat : escapeAt rest with
            | none =>
                have hencoded := escapeAt_encodeRange rest
                rw [hat] at hencoded
                rw [percentDecode_percent_of_none hencoded,
                  percentDecode_percent_of_none hat, hrest]
            | some byte =>
                rcases rest with _ | ⟨high, _ | ⟨low, rest⟩⟩
                · cases hat
                · cases hat
                · have hdigits := ih rest.length (by simp [← hn]; omega) rest rfl
                  rw [encodeRange_of_escape hat, percentDecode_escape hat,
                    percentDecode_escape hat, hdigits]
          · rw [percentDecode_cons_of_ne hpercent, percentDecode_cons_of_ne hpercent, hrest]
        · rw [hescaped, List.cons_append, List.cons_append, List.cons_append,
            List.nil_append, percentDecode_escape hescape, percentDecode_cons_of_ne hne, hrest]

/-- No percent sign of the text begins an escape. -/
def NoEscape (text : Chars) : Prop :=
  ∀ high low, [percent, high, low] <:+: text → escape high low = none

theorem noEscape_cons_iff {c : Int8} {rest : Chars} :
    NoEscape (c :: rest) ↔ (c = percent → escapeAt rest = none) ∧ NoEscape rest := by
  constructor
  · intro h
    refine ⟨?_, fun high low hinfix => h high low (List.infix_cons hinfix)⟩
    rintro rfl
    rcases rest with _ | ⟨high, _ | ⟨low, rest⟩⟩
    · rfl
    · rfl
    · exact h high low (List.prefix_append [percent, high, low] rest).isInfix
  · rintro ⟨hfirst, hrest⟩ high low hinfix
    rcases List.infix_cons_iff.mp hinfix with hbegin | hinfix
    · obtain ⟨tail, htail⟩ := hbegin
      obtain ⟨rfl, rfl⟩ : percent = c ∧ high :: low :: tail = rest := List.cons.inj htail
      exact hfirst rfl
    · exact hrest high low hinfix

theorem percentDecode_of_noEscape {text : Chars} (h : NoEscape text) :
    percentDecode text = text := by
  induction text with
  | nil => rfl
  | cons c rest ih =>
      obtain ⟨hfirst, hrest⟩ := noEscape_cons_iff.mp h
      by_cases hpercent : c = percent
      · subst hpercent
        rw [percentDecode_percent_of_none (hfirst rfl), ih hrest]
      · rw [percentDecode_cons_of_ne hpercent, ih hrest]

/-- Reading makes a text shorter if it has escapes, and no longer if it has none. -/
theorem length_percentDecode (text : Chars) :
    (percentDecode text).length ≤ text.length ∧
      ((percentDecode text).length = text.length → NoEscape text) := by
  induction hn : text.length using Nat.strongRecOn generalizing text with
  | _ n ih =>
      subst hn
      rcases text with _ | ⟨c, rest⟩
      · refine ⟨Nat.le_refl 0, fun _ high low hinfix => ?_⟩
        simp at hinfix
      · obtain ⟨hle, heq⟩ := ih rest.length (by simp) rest rfl
        by_cases hescape : c = percent ∧ escapeAt rest ≠ none
        · obtain ⟨rfl, hat⟩ := hescape
          rcases rest with _ | ⟨high, _ | ⟨low, rest⟩⟩
          · exact absurd rfl hat
          · exact absurd rfl hat
          · obtain ⟨byte, hbyte⟩ := Option.ne_none_iff_exists'.mp hat
            obtain ⟨hle, -⟩ := ih rest.length (by simp; omega) rest rfl
            rw [percentDecode_escape hbyte]
            simp only [List.length_cons]
            exact ⟨by omega, by omega⟩
        · have hdecode : percentDecode (c :: rest) = c :: percentDecode rest := by
            by_cases hpercent : c = percent
            · subst hpercent
              exact percentDecode_percent_of_none (by simpa using hescape)
            · exact percentDecode_cons_of_ne hpercent rest
          rw [hdecode, List.length_cons, List.length_cons]
          refine ⟨by omega, fun hlength => noEscape_cons_iff.mpr ⟨?_, heq (by omega)⟩⟩
          intro hpercent
          by_contra hat
          exact hescape ⟨hpercent, hat⟩

/-! ## The entries that are read -/

theorem readEntry_encodeRange (part : Chars) :
    readEntry (encodeRange part) = readEntry part := by
  rw [readEntry, encodeRange, keeps_equals.cut_flatMap]
  dsimp only
  rw [← encodeRange, ← encodeRange, percentDecode_encodeRange, percentDecode_encodeRange,
    readEntry]

theorem encodeRange_eq_nil_iff {text : Chars} : encodeRange text = [] ↔ text = [] := by
  constructor
  · intro h
    rcases text with _ | ⟨c, rest⟩
    · rfl
    · rw [encodeRange, List.flatMap_cons] at h
      rcases encodeChar_cases c with hplain | ⟨-, -, high, low, hescaped, -⟩
      · simp [hplain] at h
      · simp [hescaped] at h
  · rintro rfl
    rfl

/-- A query is read as if nothing of it were encoded. -/
theorem readQuery_encodeQuery (q : Query) :
    readQuery (encodeQuery q) = readQuery (plainText q) := by
  rw [readQuery, readQuery, encodeQuery_eq, if_congr encodeRange_eq_nil_iff rfl rfl]
  split
  · rfl
  · rw [encodeRange, keeps_ampersand.splitOn_flatMap, List.map_map]
    exact List.map_congr_left fun part _ => readEntry_encodeRange part

/-- What is read of the text of one entry. -/
def readParts (entry : Chars × Chars) : List (Chars × Chars) :=
  ((entryText entry).splitOn ampersand).map readEntry

theorem readQuery_plainText (q : Query) :
    readQuery (plainText q) = q.entries.flatMap readParts := by
  rw [plainText]
  cases q.entries with
  | nil => rfl
  | cons first rest =>
      have hne : (entryText first ++
          rest.flatMap fun entry => ampersand :: entryText entry) ≠ [] := by
        simp [entryText]
      rw [readQuery, if_neg hne, Wire.splitOn_append_flatMap, List.map_append,
        List.flatMap_cons, List.map_flatMap]
      rfl

/-- What must hold of an entry: its key and its value have no character that separates
them or the entries, and nothing in them is taken for an escape. -/
structure IsReadable (entry : Chars × Chars) : Prop where
  key_ampersand : ampersand ∉ entry.1
  value_ampersand : ampersand ∉ entry.2
  key_equals : equals ∉ entry.1
  key_noEscape : NoEscape entry.1
  value_noEscape : NoEscape entry.2

theorem ampersand_not_mem_entryText_iff {entry : Chars × Chars} :
    ampersand ∉ entryText entry ↔ ampersand ∉ entry.1 ∧ ampersand ∉ entry.2 := by
  have hne : ampersand ≠ equals := by decide
  simp [entryText, hne]

/-- Such an entry is the only one that is read of its text. -/
theorem IsReadable.readParts {entry : Chars × Chars} (h : IsReadable entry) :
    readParts entry = [entry] := by
  have htext : ampersand ∉ entryText entry :=
    ampersand_not_mem_entryText_iff.mpr ⟨h.key_ampersand, h.value_ampersand⟩
  rw [Uri.readParts, List.splitOn_eq_singleton htext, List.map_singleton, readEntry,
    entryText, Wire.cut_append_cons h.key_equals, percentDecode_of_noEscape h.key_noEscape,
    percentDecode_of_noEscape h.value_noEscape]

/-- The length of the text of an entry. -/
def weight (entry : Chars × Chars) : ℕ := (entryText entry).length

theorem weight_eq (entry : Chars × Chars) :
    weight entry = entry.1.length + entry.2.length + 1 := by
  rw [weight, entryText, List.length_append, List.length_cons]
  omega

/-- One, if there is no character between the key and the value of a part. -/
def missing (part : Chars) : ℕ := if equals ∈ part then 0 else 1

theorem weight_readEntry_le (part : Chars) :
    weight (readEntry part) ≤ part.length + missing part := by
  have hkey := (length_percentDecode (cut equals part).1).1
  have hvalue := (length_percentDecode (cut equals part).2).1
  rw [weight_eq, readEntry, missing]
  by_cases hmem : equals ∈ part
  · obtain ⟨before, after, -, rfl, hcut⟩ := Wire.exists_cut_of_mem hmem
    rw [hcut] at hkey hvalue ⊢
    rw [if_pos hmem, List.length_append, List.length_cons]
    dsimp only at hkey hvalue ⊢
    omega
  · rw [Wire.cut_of_not_mem hmem] at hkey hvalue ⊢
    rw [if_neg hmem]
    dsimp only [List.length_nil] at hkey hvalue ⊢
    omega

/-- A text with a character between a key and a value has a part with it. -/
theorem sum_missing_lt {text : Chars} (h : equals ∈ text) :
    ((text.splitOn ampersand).map missing).sum < (text.splitOn ampersand).length := by
  obtain ⟨part, hpart, hequals⟩ := 
    Wire.exists_mem_splitOn (show equals ≠ ampersand by decide) h
  have hlt : ((text.splitOn ampersand).map missing).sum <
      ((text.splitOn ampersand).map fun _ => 1).sum := by
    refine List.sum_lt_sum missing (fun _ => 1) (fun part _ => ?_) ⟨part, hpart, ?_⟩
    · rw [missing]
      split <;> omega
    · rw [missing, if_pos hequals]
      omega
  simpa using hlt

/-- All that is read of the text of an entry is together no longer than the text. -/
theorem sum_weight_readParts_le (entry : Chars × Chars) :
    ((readParts entry).map weight).sum ≤ weight entry := by
  have hlength := Wire.sum_length_splitOn ampersand (entryText entry)
  have hmissing := sum_missing_lt (show equals ∈ entryText entry by simp [entryText])
  have hsum : ((readParts entry).map weight).sum ≤
      (((entryText entry).splitOn ampersand).map fun part =>
        part.length + missing part).sum := by
    rw [readParts, List.map_map]
    exact List.sum_le_sum fun part _ => weight_readEntry_le part
  rw [List.sum_map_add] at hsum
  rw [weight]
  omega

/-! ## When a query is read back -/

theorem eq_of_sum_le {α : Type*} {as : List α} {f g : α → ℕ} (hle : ∀ a ∈ as, f a ≤ g a)
    (hsum : (as.map g).sum ≤ (as.map f).sum) : ∀ a ∈ as, f a = g a := by
  by_contra hne
  push Not at hne
  obtain ⟨a, hmem, hne⟩ := hne
  have hlt := List.sum_lt_sum f g hle ⟨a, hmem, lt_of_le_of_ne (hle a hmem) hne⟩
  omega

theorem lookup_of_mem {entries : List (Chars × Chars)} (h : (entries.map Prod.fst).Nodup)
    {entry : Chars × Chars} (hmem : entry ∈ entries) :
    entries.lookup entry.1 = some entry.2 := by
  induction entries with
  | nil => cases hmem
  | cons first rest ih =>
      obtain ⟨hnew, hrest⟩ := List.nodup_cons.mp h
      rcases List.mem_cons.mp hmem with rfl | hmem
      · exact List.lookup_cons_self
      · have hne : entry.1 ≠ first.1 := fun heq =>
          hnew (heq ▸ List.mem_map_of_mem hmem)
        rw [List.lookup_cons, beq_false_of_ne hne]
        exact ih hrest hmem

theorem mem_of_lookup {entries : List (Chars × Chars)} {key value : Chars}
    (h : entries.lookup key = some value) : (key, value) ∈ entries := by
  obtain ⟨before, after, rfl, -⟩ := List.lookup_eq_some_iff.mp h
  simp

theorem sum_weight_flatMap (entries : List (Chars × Chars)) :
    ((entries.flatMap readParts).map weight).sum =
      (entries.map fun entry => ((readParts entry).map weight).sum).sum := by
  rw [List.map_flatMap, List.flatMap, List.sum_flatten, List.map_map]
  rfl

/-- Where all that is encoded is found again, what is read is a reordering of it: there is
no room in the text for anything else. -/
theorem perm_of_lookup {entries : List (Chars × Chars)} (hnodup : (entries.map Prod.fst).Nodup)
    (h : ∀ key, (entries.flatMap readParts).lookup key = entries.lookup key) :
    (entries.flatMap readParts).Perm entries := by
  have hsubset : entries ⊆ entries.flatMap readParts := fun entry hmem =>
    mem_of_lookup ((h entry.1).trans (lookup_of_mem hnodup hmem))
  obtain ⟨picked, hpicked, hsublist⟩ := (List.Nodup.of_map _ hnodup).subperm hsubset
  obtain ⟨others, hothers⟩ := hsublist.exists_perm_append
  have hperm := hothers.trans (hpicked.append_right others)
  have hsum : ((entries.flatMap readParts).map weight).sum ≤ (entries.map weight).sum := by
    rw [sum_weight_flatMap]
    exact List.sum_le_sum fun entry _ => sum_weight_readParts_le entry
  rw [(hperm.map weight).sum_nat, List.map_append, List.sum_append] at hsum
  rcases others with _ | ⟨other, others⟩
  · rwa [List.append_nil] at hperm
  · rw [List.map_cons, List.sum_cons, weight_eq] at hsum
    omega

/-- What is read of the text of an entry, where it is one entry that fills the text. -/
theorem exists_halves {entry : Chars × Chars} (hlength : (readParts entry).length = 1)
    (hweight : ((readParts entry).map weight).sum = weight entry) :
    ampersand ∉ entryText entry ∧ ∃ before after, equals ∉ before ∧
      entryText entry = before ++ equals :: after ∧ readParts entry = [(before, after)] ∧
      NoEscape before ∧ NoEscape after := by
  have hampersand : ampersand ∉ entryText entry := by
    rw [readParts, List.length_map] at hlength
    exact Wire.length_splitOn_eq_one_iff.mp hlength
  obtain ⟨before, after, hbefore, htext, hcut⟩ :=
    Wire.exists_cut_of_mem (show equals ∈ entryText entry by simp [entryText])
  have hkey := length_percentDecode before
  have hvalue := length_percentDecode after
  have hread : readParts entry = [(percentDecode before, percentDecode after)] := by
    rw [readParts, List.splitOn_eq_singleton hampersand, List.map_singleton, readEntry, hcut]
  rw [hread, List.map_singleton, List.sum_singleton, weight_eq, weight, htext,
    List.length_append, List.length_cons] at hweight
  dsimp only at hweight
  have hbeforeEscape := hkey.2 (by omega)
  have hafterEscape := hvalue.2 (by omega)
  rw [percentDecode_of_noEscape hbeforeEscape, percentDecode_of_noEscape hafterEscape] at hread
  exact ⟨hampersand, before, after, hbefore, htext, hread, hbeforeEscape, hafterEscape⟩

/-- Splitting what `encode_query` writes into entries, keys and values and undoing the
escapes finds the value of every key exactly where no key and no value has a character
that is left as it is and means something else. -/
theorem readQuery_encodeQuery_iff (q : Query) :
    (∀ key, (readQuery (encodeQuery q)).lookup key = q.entries.lookup key) ↔
      ∀ entry ∈ q.entries, IsReadable entry := by
  rw [readQuery_encodeQuery, readQuery_plainText]
  constructor
  · intro h
    have hperm := perm_of_lookup q.nodup_keys h
    have hnonempty : ∀ entry ∈ q.entries, 1 ≤ (readParts entry).length := fun entry _ => by
      rw [readParts, List.length_map]
      exact List.length_pos_of_ne_nil (List.splitOn_ne_nil _ _)
    have hlength := hperm.length_eq
    rw [List.length_flatMap] at hlength
    have hone := eq_of_sum_le hnonempty (by simpa using hlength.le)
    have hsum := (hperm.map weight).sum_nat
    rw [sum_weight_flatMap] at hsum
    have hweight := eq_of_sum_le (fun entry _ => sum_weight_readParts_le entry) hsum.ge
    have hhalves := fun entry hmem => exists_halves (hone entry hmem).symm (hweight entry hmem)
    have hequals : ∀ entry ∈ q.entries, equals ∉ entry.1 := by
      intro entry hmem
      obtain ⟨source, hsource, hread⟩ := List.mem_flatMap.mp (hperm.mem_iff.mpr hmem)
      obtain ⟨-, before, after, hbefore, -, hparts, -⟩ := hhalves source hsource
      rw [hparts, List.mem_singleton] at hread
      rwa [hread]
    intro entry hmem
    obtain ⟨hampersand, before, after, hbefore, htext, -, hkey, hvalue⟩ := hhalves entry hmem
    have hcut : (entry.1, entry.2) = (before, after) := by
      rw [← Wire.cut_append_cons (hequals entry hmem), ← Wire.cut_append_cons hbefore,
        ← htext, entryText]
    obtain ⟨rfl, rfl⟩ := Prod.mk.inj hcut
    obtain ⟨hkeyAmpersand, hvalueAmpersand⟩ := ampersand_not_mem_entryText_iff.mp hampersand
    exact ⟨hkeyAmpersand, hvalueAmpersand, hequals entry hmem, hkey, hvalue⟩
  · intro h key
    have hread : q.entries.flatMap readParts = q.entries.flatMap fun entry => [entry] :=
      List.flatMap_congr fun entry hmem => (h entry hmem).readParts
    rw [hread, List.flatMap_singleton']

/-- The search text `1&b=2` under the key `a` is read as two entries. -/
theorem ampersand_not_readable :
    ¬ ∀ q : Query, ∀ key, (readQuery (encodeQuery q)).lookup key = q.entries.lookup key := by
  intro h
  have hvalue := h ⟨[("a".toList.map char, "1&b=2".toList.map char)], by simp⟩
    ("a".toList.map char)
  revert hvalue
  decide

end Airmap.Net.Http.Boost.Uri
