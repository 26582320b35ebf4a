import PlatformSdk.Codec.Json.Airspace
import PlatformSdk.Codec.Json.Geometry
import PlatformSdk.Json.Dump
import PlatformSdk.Net.Http.Boost.Uri

/-!
# Parameters of requests as queries

`codec::http::query::encode`, which puts the parameters of a request into a query.  The
texts that it makes of numbers, times, geometries and flags have no character that means
something in a query, so that such parameters arrive however the entries are ordered; the
texts that the caller gives arrive where they have none.
-/

namespace Airmap.Codec.Http.Query

open Net.Http.Boost (Uri.Chars Uri.Query)
open Net.Http.Boost.Uri

/-- The characters of a text of ASCII. -/
def text (s : String) : Chars := s.toList.map char

/-- No character of the text means something in a query. -/
def Plain (chars : Chars) : Prop := ampersand ∉ chars ∧ percent ∉ chars

instance (chars : Chars) : Decidable (Plain chars) := inferInstanceAs (Decidable (_ ∧ _))

/-- Letters, digits, signs, points and colons. -/
def simpleChars : List Char :=
  "ABCDEFGHIJKLMNOPQRSTUVWXYZabcdefghijklmnopqrstuvwxyz0123456789+-.:".toList

/-- `boost::lexical_cast` of a `float` and of an `Optional` of one, `snprintf` of a number in
a document, and what the facet of `iso8601::generate` writes: numbers and times are texts of
letters, digits, signs, points and colons. -/
structure Conversions (δ : Type) where
  float : Double → List Char
  optionalFloat : Double → List Char
  format : ℚ → List Char
  dateTime : δ → List Char
  float_subset : ∀ x, float x ⊆ simpleChars
  optionalFloat_subset : ∀ x, optionalFloat x ⊆ simpleChars
  format_subset : ∀ x, format x ⊆ simpleChars
  dateTime_subset : ∀ time, dateTime time ⊆ simpleChars

/-- `Pilots::Exclude`, and what `operator<<` prints for flags of it. -/
def excludeNames : List (Int32 × String) :=
  [((1 : Int32) <<< 0, "aircraft"), ((1 : Int32) <<< 1, "user_metadata"),
    ((1 : Int32) <<< 2, "app_metadata"), ((1 : Int32) <<< 3, "authorized_apps")]

/-- The names of the flags that are set. -/
def excludedNames (exclude : Int32) : List String :=
  excludeNames.filterMap fun (flag, name) =>
    if exclude &&& flag = flag then some name else none

def printExclude (exclude : Int32) : String := ",".intercalate (excludedNames exclude)

/-- What is put into a query for a parameter. -/
inductive Value (δ : Type) where
  | flag (value : Bool)
  | unsigned (value : UInt32)
  | float (value : Double)
  | optionalFloat (value : Double)
  | dateTime (value : δ)
  | geometry (value : Geometry)
  | types (value : Int32)
  | exclude (value : Int32)
  | given (value : Chars)

variable {δ : Type}

/-- The text of a value. -/
def Value.chars (conversions : Conversions δ) : Value δ → Chars
  | .flag value => text (if value then "true" else "false")
  | .unsigned value => text value.toNat.repr
  | .float value => (conversions.float value).map char
  | .optionalFloat value => (conversions.optionalFloat value).map char
  | .dateTime value => (conversions.dateTime value).map char
  | .geometry value => (value.encode.dump conversions.format).map char
  | .types value => text (Airspace.print value)
  | .exclude value => text (printExclude value)
  | .given value => value

/-- The keys of a request with the values that they are given, if they are. -/
abbrev Rows (δ : Type) : Type := List (String × Option (Value δ))

/-- The types without those that no server knows. -/
def searchedTypes (types : Option Int32) : Option (Value δ) :=
  match types with
  | none => none
  | some types =>
      if types = Airspace.Kind.invalid.value then none
      else some (.types ((types &&& ~~~Airspace.Kind.emergency.value) &&&
        ~~~Airspace.Kind.fire.value))

/-- The parameters of the requests that have a query. -/
inductive Request (δ : Type) where
  | flightForId (enhance : Option Bool)
  | flights (limit : Option UInt32) (geometry : Option Geometry)
      (country state city pilotId : Option Chars)
      (startAfter startBefore endAfter endBefore : Option δ) (enhance : Option Bool)
  | authenticatedPilot (exclude : Option Int32) (retrieveStatistics : Bool)
  | pilotForId (exclude : Option Int32) (retrieveStatistics : Bool)
  | airspaces (types ignoredTypes : Option Int32) (full : Option Bool) (geometry : Geometry)
      (buffer limit offset : Option UInt32) (dateTime : Option δ)
  | advisoryForId (start stop : Option δ)
  | reportWeather (latitude longitude : Double) (start stop : Option δ)
  | rules (rulesets : Option Chars)
  | status (latitude longitude : Option Double) (types ignoredTypes : Option Int32)
      (weather : Option Bool) (flightDateTime : Option δ) (geometry : Option Geometry)
      (buffer : Option UInt32)
  | manufacturers (manufacturerName : Option Chars)
  | models (manufacturer modelName : Option Chars)

/-- A `float` as a condition. -/
def nonzero (x : Double) : Option (Value δ) := if x = .finite 0 then none else some (.float x)

/-- `encode`: the values that it gives to keys, in its order. -/
def Request.rows : Request δ → Rows δ
  | .flightForId enhance => [("enhance", enhance.map .flag)]
  | .flights limit geometry country state city pilotId startAfter startBefore endAfter
      endBefore enhance =>
      [("limit", limit.map .unsigned), ("geometry", geometry.map .geometry),
        ("country", country.map .given), ("state", state.map .given),
        ("city", city.map .given), ("pilot_id", pilotId.map .given),
        ("start_after", startAfter.map .dateTime),
        ("start_before", startBefore.map .dateTime), ("end_after", endAfter.map .dateTime),
        ("end_before", endBefore.map .dateTime), ("enhance", enhance.map .flag)]
  -- what is excluded is given to the key `enhance`
  | .authenticatedPilot exclude retrieveStatistics =>
      [("enhance", exclude.map .exclude), ("statistics", some (.flag retrieveStatistics))]
  | .pilotForId exclude retrieveStatistics =>
      [("enhance", exclude.map .exclude), ("statistics", some (.flag retrieveStatistics))]
  -- `full` is an `Optional`, which is true if it has a value; the limit is not encoded
  | .airspaces types ignoredTypes full geometry buffer _limit offset dateTime =>
      [("types", searchedTypes types), ("ignored_types", searchedTypes ignoredTypes),
        ("full", some (.flag full.isSome)), ("geometry", some (.geometry geometry)),
        ("buffer", buffer.map .unsigned), ("offset", offset.map .unsigned),
        ("datetime", dateTime.map .dateTime)]
  | .advisoryForId start stop => [("start", start.map .dateTime), ("end", stop.map .dateTime)]
  | .reportWeather latitude longitude start stop =>
      [("latitude", nonzero latitude), ("longitude", nonzero longitude),
        ("start", start.map .dateTime), ("end", stop.map .dateTime)]
  | .rules rulesets => [("rulesets", rulesets.map .given)]
  | .status latitude longitude types ignoredTypes weather flightDateTime geometry buffer =>
      [("latitude", latitude.map .optionalFloat), ("longitude", longitude.map .optionalFloat),
        ("types", searchedTypes types), ("ignored_types", searchedTypes ignoredTypes),
        ("datetime", flightDateTime.map .dateTime), ("geometry", geometry.map .geometry),
        ("buffer", buffer.map .unsigned), ("weather", weather.map .flag)]
  | .manufacturers manufacturerName => [("q", manufacturerName.map .given)]
  | .models manufacturer modelName =>
      [("manufacturer", manufacturer.map .given), ("q", modelName.map .given)]

/-- The entries of the query. -/
def entries (conversions : Conversions δ) (rows : Rows δ) : List (Chars × Chars) :=
  rows.filterMap fun (key, value) => value.map fun value => (text key, value.chars conversions)

/-! ## The texts -/

theorem Plain.noEscape {chars : Chars} (h : Plain chars) : NoEscape chars :=
  fun _ _ hwithin => absurd (hwithin.subset List.mem_cons_self) h.2

theorem plain_map_iff {chars : List Char} :
    Plain (chars.map char) ↔ ∀ c ∈ chars, char c ≠ ampersand ∧ char c ≠ percent := by
  simp only [Plain, List.mem_map, not_exists, not_and, ne_eq]
  constructor
  · exact fun h c hc => ⟨h.1 c hc, h.2 c hc⟩
  · exact fun h => ⟨fun c hc => (h c hc).1, fun c hc => (h c hc).2⟩

theorem unbroken_simpleChars : ∀ c ∈ simpleChars, char c ≠ ampersand ∧ char c ≠ percent := by
  rw [← List.forall_iff_forall_mem]
  decide

theorem unbroken_ownChars : ∀ c ∈ Json.ownChars, char c ≠ ampersand ∧ char c ≠ percent := by
  rw [← List.forall_iff_forall_mem]
  decide

theorem unbroken_documentStrings : ∀ value ∈ Geometry.documentStrings,
    ∀ c ∈ value.toList, char c ≠ ampersand ∧ char c ≠ percent := by
  simp only [← List.forall_iff_forall_mem]
  decide

theorem plain_of_subset {chars : List Char} (h : chars ⊆ simpleChars) : Plain (chars.map char) :=
  plain_map_iff.mpr fun c hc => unbroken_simpleChars c (h hc)

/-- Names with commas between them are plain, if they are. -/
theorem plain_intercalate {names : List String} (h : ∀ name ∈ names, Plain (text name)) :
    Plain (text (",".intercalate names)) := by
  induction names with
  | nil => exact ⟨by decide, by decide⟩
  | cons name names ih =>
      have hname := h name List.mem_cons_self
      have hnames := ih fun other hother => h other (List.mem_cons_of_mem _ hother)
      by_cases hnil : names = []
      · rw [hnil, String.intercalate_singleton]
        exact hname
      · have htext : text (",".intercalate (name :: names)) =
            text name ++ char ',' :: text (",".intercalate names) := by
          rw [String.intercalate_cons_of_ne_nil hnil]
          simp [text]
        have hcomma : Plain [char ','] := by decide
        rw [htext]
        simp only [Plain, List.mem_append, List.mem_cons, not_or] at hname hnames hcomma ⊢
        exact ⟨⟨hname.1, hcomma.1.1, hnames.1⟩, hname.2, hcomma.2.1, hnames.2⟩

theorem print_eq (types : Int32) :
    Airspace.print types = ",".intercalate (Airspace.printedNames.filterMap
      fun (kind, name) => if types &&& kind.value = kind.value then some name else none) := by
  rw [Airspace.print]
  split
  · next h =>
      rw [h]
      decide
  · rfl

/-- Names that are taken from a table are plain, if all of the table are. -/
theorem plain_names {α : Type} {table : List (α × String)} {take : α × String → Option String}
    (htake : ∀ entry name, take entry = some name → entry.2 = name)
    (h : ∀ entry ∈ table, Plain (text entry.2)) :
    Plain (text (",".intercalate (table.filterMap take))) := by
  refine plain_intercalate fun name hname => ?_
  obtain ⟨entry, hentry, hname⟩ := List.mem_filterMap.mp hname
  rw [← htake entry name hname]
  exact h entry hentry

theorem plain_print (types : Int32) : Plain (text (Airspace.print types)) := by
  rw [print_eq]
  refine plain_names (fun entry name hname => ?_) (by decide)
  exact Option.some.inj (Option.ite_none_right_eq_some.mp hname).2

/-- The names of the types among these that a server knows. -/
def searchedNames (types : Int32) : List String :=
  Airspace.printedNames.filterMap fun (kind, name) =>
    if kind ≠ .fire ∧ kind ≠ .emergency ∧ types &&& kind.value = kind.value then some name
    else none

/-- A search names the types that it is for, without fires and emergencies. -/
theorem print_searched (types : Int32) :
    Airspace.print ((types &&& ~~~Airspace.Kind.emergency.value) &&&
        ~~~Airspace.Kind.fire.value) = ",".intercalate (searchedNames types) := by
  rw [print_eq, searchedNames]
  congr 1
  refine List.filterMap_congr fun entry hentry => ?_
  have hmask : ∀ entry ∈ Airspace.printedNames,
      ~~~Airspace.Kind.emergency.value &&& (~~~Airspace.Kind.fire.value &&& entry.1.value) =
          (if entry.1 ≠ .fire ∧ entry.1 ≠ .emergency then entry.1.value else 0) ∧
        entry.1.value ≠ 0 := by
    decide
  obtain ⟨hmasked, hnonzero⟩ := hmask entry hentry
  dsimp only
  rw [Int32.and_assoc, Int32.and_assoc, hmasked]
  by_cases h : entry.1 ≠ .fire ∧ entry.1 ≠ .emergency
  · rw [if_pos h]
    simp only [h.1, h.2, ne_eq, not_false_eq_true, true_and]
  · rw [if_neg h, Int32.and_zero, if_neg hnonzero.symm, if_neg]
    exact fun hall => h ⟨hall.1, hall.2.1⟩

theorem plain_printExclude (exclude : Int32) : Plain (text (printExclude exclude)) := by
  refine plain_names (fun entry name hname => ?_) (by decide)
  exact Option.some.inj (Option.ite_none_right_eq_some.mp hname).2

/-- A number is written with digits only. -/
theorem plain_repr (n : ℕ) : Plain (text n.repr) :=
  plain_map_iff.mpr fun c hc => unbroken_ownChars c (Json.repr_subset_ownChars n hc)

/-- The documents of geometries have plain strings only. -/
theorem plain_geometry (conversions : Conversions δ) (g : Geometry) :
    Plain ((g.encode.dump conversions.format).map char) := by
  refine plain_map_iff.mpr (Json.forall_mem_dump unbroken_ownChars ?_ ?_)
  · exact fun x c hc => unbroken_simpleChars c (conversions.format_subset x hc)
  · exact Geometry.allStrings_encode unbroken_documentStrings g

variable {conversions : Conversions δ}

/-- The text of a value is plain, if it is not one that the caller gives. -/
theorem plain_chars {value : Value δ} (h : ∀ chars, value ≠ .given chars) :
    Plain (value.chars conversions) := by
  have hflag : ∀ value : Bool, Plain (text (if value then "true" else "false")) := by decide
  cases value with
  | flag value => exact hflag value
  | unsigned value => exact plain_repr value.toNat
  | float value => exact plain_of_subset (conversions.float_subset value)
  | optionalFloat value => exact plain_of_subset (conversions.optionalFloat_subset value)
  | dateTime value => exact plain_of_subset (conversions.dateTime_subset value)
  | geometry value => exact plain_geometry conversions value
  | types value => exact plain_print value
  | exclude value => exact plain_printExclude value
  | given chars => exact absurd rfl (h chars)

/-- The texts of a request that the caller gives. -/
def Request.givenTexts (request : Request δ) : List Chars :=
  request.rows.filterMap fun row =>
    match row.2 with
    | some (.given chars) => some chars
    | _ => none

/-- The keys of all the requests. -/
def keys : List String :=
  ["enhance", "limit", "geometry", "country", "state", "city", "pilot_id", "start_after",
    "start_before", "end_after", "end_before", "statistics", "types", "ignored_types", "full",
    "buffer", "offset", "datetime", "start", "end", "latitude", "longitude", "rulesets",
    "weather", "q", "manufacturer"]

theorem keys_subset (request : Request δ) : request.rows.map Prod.fst ⊆ keys := by
  cases request with
  | flightForId => exact (by decide : ["enhance"] ⊆ keys)
  | flights => exact (by decide : ["limit", "geometry", "country", "state", "city", "pilot_id",
      "start_after", "start_before", "end_after", "end_before", "enhance"] ⊆ keys)
  | authenticatedPilot | pilotForId => exact (by decide : ["enhance", "statistics"] ⊆ keys)
  | airspaces => exact (by decide : ["types", "ignored_types", "full", "geometry", "buffer",
      "offset", "datetime"] ⊆ keys)
  | advisoryForId => exact (by decide : ["start", "end"] ⊆ keys)
  | reportWeather => exact (by decide : ["latitude", "longitude", "start", "end"] ⊆ keys)
  | rules => exact (by decide : ["rulesets"] ⊆ keys)
  | status => exact (by decide : ["latitude", "longitude", "types", "ignored_types",
      "datetime", "geometry", "buffer", "weather"] ⊆ keys)
  | manufacturers => exact (by decide : ["q"] ⊆ keys)
  | models => exact (by decide : ["manufacturer", "q"] ⊆ keys)

theorem isReadable_of_row {request : Request δ}
    (hgiven : ∀ chars ∈ request.givenTexts, ampersand ∉ chars ∧ NoEscape chars)
    {key : String} {value : Value δ} (hrow : (key, some value) ∈ request.rows) :
    IsReadable (text key, value.chars conversions) := by
  have hkeys : ∀ key ∈ keys, Plain (text key) ∧ equals ∉ text key := by decide
  obtain ⟨hkey, hequals⟩ := hkeys key (keys_subset request (List.mem_map_of_mem hrow))
  have hvalue : ampersand ∉ value.chars conversions ∧ NoEscape (value.chars conversions) := by
    by_cases h : ∃ chars, value = .given chars
    · obtain ⟨chars, rfl⟩ := h
      exact hgiven chars (List.mem_filterMap.mpr ⟨_, hrow, rfl⟩)
    · have hplain : Plain (value.chars conversions) := plain_chars fun chars heq => h ⟨chars, heq⟩
      exact ⟨hplain.1, hplain.noEscape⟩
  exact ⟨hkey.1, hvalue.1, hequals, hkey.noEscape, hvalue.2⟩

/-! ## What is read -/

/-- The names that a caller asks for with flags, by the keys that they are given to. -/
def namedTypes (key : String) : Option Int32 → List (String × List String)
  | none => []
  | some types =>
      if types = Airspace.Kind.invalid.value then [] else [(key, searchedNames types)]

def namedExclude : Option Int32 → List (String × List String)
  | none => []
  | some exclude => [("enhance", excludedNames exclude)]

def Request.named : Request δ → List (String × List String)
  | .authenticatedPilot exclude _ | .pilotForId exclude _ => namedExclude exclude
  | .airspaces types ignoredTypes _ _ _ _ _ _ | .status _ _ types ignoredTypes _ _ _ _ =>
      namedTypes "types" types ++ namedTypes "ignored_types" ignoredTypes
  | .flightForId _ | .flights _ _ _ _ _ _ _ _ _ _ _ | .advisoryForId _ _
  | .reportWeather _ _ _ _ | .rules _ | .manufacturers _ | .models _ _ => []

theorem mem_entries_of_namedTypes {key key' : String} {types : Option Int32}
    {names : List String} (h : (key, names) ∈ namedTypes key' types) {rows : Rows δ}
    (hrow : (key', searchedTypes types) ∈ rows) :
    (text key, text (",".intercalate names)) ∈ entries conversions rows := by
  cases types with
  | none => cases h
  | some types =>
      rw [namedTypes] at h
      split at h
      · cases h
      · next hvalid =>
          obtain ⟨rfl, rfl⟩ := Prod.mk.inj (List.mem_singleton.mp h)
          refine List.mem_filterMap.mpr ⟨_, hrow, ?_⟩
          simp only [searchedTypes, if_neg hvalid, Option.map_some, Value.chars, print_searched]

theorem mem_entries_of_namedExclude {key : String} {exclude : Option Int32}
    {names : List String} (h : (key, names) ∈ namedExclude exclude) {rows : Rows δ}
    (hrow : ("enhance", exclude.map .exclude) ∈ rows) :
    (text key, text (",".intercalate names)) ∈ entries conversions rows := by
  cases exclude with
  | none => cases h
  | some exclude =>
      obtain ⟨rfl, rfl⟩ := Prod.mk.inj (List.mem_singleton.mp h)
      exact List.mem_filterMap.mpr ⟨_, hrow, rfl⟩

theorem mem_entries_of_named {request : Request δ} {key : String} {names : List String}
    (h : (key, names) ∈ request.named) :
    (text key, text (",".intercalate names)) ∈ entries conversions request.rows := by
  cases request with
  | authenticatedPilot exclude retrieveStatistics | pilotForId exclude retrieveStatistics =>
      exact mem_entries_of_namedExclude h (by simp [Request.rows])
  | airspaces types ignoredTypes =>
      rcases List.mem_append.mp h with h | h
      · exact mem_entries_of_namedTypes h (by simp [Request.rows])
      · exact mem_entries_of_namedTypes h (by simp [Request.rows])
  | status latitude longitude types ignoredTypes =>
      rcases List.mem_append.mp h with h | h
      · exact mem_entries_of_namedTypes h (by simp [Request.rows])
      · exact mem_entries_of_namedTypes h (by simp [Request.rows])
  | _ => cases h

/-- The query of every request is read as the values that the parameters give to keys, in
whatever order its entries come, if no text that the caller gives has a character that is
left as it is and means something else.  Types are named without fires and emergencies, and
what is excluded of a pilot is given to the key `enhance`. -/
theorem readQuery_request (request : Request δ)
    (hgiven : ∀ chars ∈ request.givenTexts, ampersand ∉ chars ∧ NoEscape chars)
    {q : Query} (hq : q.entries.Perm (entries conversions request.rows)) :
    (readQuery (encodeQuery q)).Perm (entries conversions request.rows) ∧
      ∀ key names, (key, names) ∈ request.named →
        (text key, text (",".intercalate names)) ∈ readQuery (encodeQuery q) := by
  have hreadable : ∀ entry ∈ q.entries, IsReadable entry := by
    intro entry hentry
    obtain ⟨⟨key, value⟩, hrow, hvalue⟩ := List.mem_filterMap.mp (hq.mem_iff.mp hentry)
    obtain ⟨value, rfl, rfl⟩ := Option.map_eq_some_iff.mp hvalue
    exact isReadable_of_row hgiven hrow
  have hread : q.entries.flatMap readParts = q.entries.flatMap fun entry => [entry] :=
    List.flatMap_congr fun entry hmem => (hreadable entry hmem).readParts
  rw [readQuery_encodeQuery, readQuery_plainText, hread, List.flatMap_singleton']
  exact ⟨hq, fun key names hnamed => hq.mem_iff.mpr (mem_entries_of_named hnamed)⟩

/-- The conversions of a half, and of nothing else. -/
def conversionsOfHalf : Conversions Empty where
  float _ := "0.5".toList
  optionalFloat _ := "0.5".toList
  format _ := "0.5".toList
  dateTime := nofun
  float_subset _ := by decide
  optionalFloat_subset _ := by decide
  format_subset _ := by decide
  dateTime_subset := nofun

def half : Double := .finite (1 / 2)

/-- A search for flights over a country. -/
def flightsRequest : Request Empty :=
  .flights (some 5) none (some (text "US")) none none none none none none none (some true)

/-- A search for airports and fires around a point. -/
def airspacesRequest : Request Empty :=
  .airspaces (some (Airspace.Kind.airport.value ||| Airspace.Kind.fire.value)) none none
    (.point { latitude := half, longitude := half }) (some 5) none none none

theorem readQuery_request_flights :
    let flights : Query :=
      ⟨[(text "enhance", text "true"), (text "country", text "US"), (text "limit", text "5")],
        by decide⟩
    let airspaces : Query :=
      ⟨[(text "buffer", text "5"),
        (text "geometry", text "\x7b\"coordinates\":[0.5,0.5],\"type\":\"Point\"\x7d"),
        (text "full", text "false"), (text "types", text "airport")], by decide⟩
    (readQuery (encodeQuery flights)).Perm (entries conversionsOfHalf flightsRequest.rows) ∧
      (readQuery (encodeQuery airspaces)).Perm
        (entries conversionsOfHalf airspacesRequest.rows) ∧
      (text "types", text "airport") ∈ readQuery (encodeQuery airspaces) := by
  intro flights airspaces
  have hflights : flights.entries.Perm (entries conversionsOfHalf flightsRequest.rows) := by
    rw [show flights.entries = (entries conversionsOfHalf flightsRequest.rows).reverse from rfl]
    exact List.reverse_perm _
  have hairspaces : airspaces.entries.Perm
      (entries conversionsOfHalf airspacesRequest.rows) := by
    have hreverse : airspaces.entries =
        (entries conversionsOfHalf airspacesRequest.rows).reverse := by
      decide
    rw [hreverse]
    exact List.reverse_perm _
  have hcountry : ∀ chars ∈ flightsRequest.givenTexts, ampersand ∉ chars ∧ NoEscape chars := by
    intro chars hchars
    have hplain : Plain (text "US") := ⟨by decide, by decide⟩
    rw [List.mem_singleton.mp hchars]
    exact ⟨hplain.1, hplain.noEscape⟩
  obtain ⟨hread, -⟩ := readQuery_request flightsRequest hcountry hflights
  obtain ⟨hread', hnamed⟩ := readQuery_request airspacesRequest nofun hairspaces
  exact ⟨hread, hread', hnamed "types" ["airport"] (by decide)⟩

end Airmap.Codec.Http.Query
