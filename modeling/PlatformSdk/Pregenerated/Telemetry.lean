import Mathlib.Algebra.Order.BigOperators.Group.List
import Mathlib.Algebra.Order.Group.Nat
import Mathlib.Data.List.Basic
import PlatformSdk.Machine.Run
import PlatformSdk.Protobuf.Encoding
import PlatformSdk.Protobuf.Fields

/-!
# Telemetry messages

The messages of `telemetry.proto`, as the code that was generated for them has them.  In
every program over message objects, what one of them serializes to is read into another
one as if they were merged (`MessageType.run_merges`), and what was parsed and serialized
once is not changed by doing it again (`MessageType.parse_serialize`).
-/

namespace Airmap.Pregenerated

open Machine Protobuf
open Wire (Bytes)

/-! ## The messages -/

/-- `airmap::telemetry::Position`. -/
structure Position where
  timestamp : UInt64 := 0
  latitude : BitVec 64 := 0
  longitude : BitVec 64 := 0
  altitudeAgl : BitVec 32 := 0
  altitudeMsl : BitVec 32 := 0
  horizontalAccuracy : BitVec 32 := 0
  deriving DecidableEq

/-- `airmap::telemetry::Attitude`. -/
structure Attitude where
  timestamp : UInt64 := 0
  yaw : BitVec 32 := 0
  pitch : BitVec 32 := 0
  roll : BitVec 32 := 0
  deriving DecidableEq

/-- `airmap::telemetry::Speed`. -/
structure Speed where
  timestamp : UInt64 := 0
  velocityX : BitVec 32 := 0
  velocityY : BitVec 32 := 0
  velocityZ : BitVec 32 := 0
  deriving DecidableEq

/-- `airmap::telemetry::Barometer`. -/
structure Barometer where
  timestamp : UInt64 := 0
  pressure : BitVec 32 := 0
  deriving DecidableEq

def Position.fields (W : WireFormat) : List (Field W Position) :=
  [.primitive W 1 8 .uint64 timestamp fun x self => { self with timestamp := x },
    .primitive W 2 17 .double latitude fun x self => { self with latitude := x },
    .primitive W 3 25 .double longitude fun x self => { self with longitude := x },
    .primitive W 4 37 .float altitudeAgl fun x self => { self with altitudeAgl := x },
    .primitive W 5 45 .float altitudeMsl fun x self => { self with altitudeMsl := x },
    .primitive W 6 53 .float horizontalAccuracy fun x self =>
      { self with horizontalAccuracy := x }]

def Attitude.fields (W : WireFormat) : List (Field W Attitude) :=
  [.primitive W 1 8 .uint64 timestamp fun x self => { self with timestamp := x },
    .primitive W 2 21 .float yaw fun x self => { self with yaw := x },
    .primitive W 3 29 .float pitch fun x self => { self with pitch := x },
    .primitive W 4 37 .float roll fun x self => { self with roll := x }]

def Speed.fields (W : WireFormat) : List (Field W Speed) :=
  [.primitive W 1 8 .uint64 timestamp fun x self => { self with timestamp := x },
    .primitive W 2 21 .float velocityX fun x self => { self with velocityX := x },
    .primitive W 3 29 .float velocityY fun x self => { self with velocityY := x },
    .primitive W 4 37 .float velocityZ fun x self => { self with velocityZ := x }]

def Barometer.fields (W : WireFormat) : List (Field W Barometer) :=
  [.primitive W 1 8 .uint64 timestamp fun x self => { self with timestamp := x },
    .primitive W 2 21 .float pressure fun x self => { self with pressure := x }]

/-- The messages of `telemetry.proto`. -/
inductive MessageType where
  | position
  | attitude
  | speed
  | barometer
  deriving DecidableEq

namespace MessageType

/-- The members of a message. -/
abbrev Fields : MessageType → Type
  | .position => Position
  | .attitude => Attitude
  | .speed => Speed
  | .barometer => Barometer

/-- The members of a new message. -/
def zero : (type : MessageType) → type.Fields
  | .position => {}
  | .attitude => {}
  | .speed => {}
  | .barometer => {}

def fields (W : WireFormat) : (type : MessageType) → List (Field W type.Fields)
  | .position => Position.fields W
  | .attitude => Attitude.fields W
  | .speed => Speed.fields W
  | .barometer => Barometer.fields W

/-- A message up to the signs of zeros. -/
def canonical : (type : MessageType) → type.Fields → type.Fields
  | .position, self =>
      { timestamp := FieldType.canonical .uint64 self.timestamp
        latitude := FieldType.canonical .double self.latitude
        longitude := FieldType.canonical .double self.longitude
        altitudeAgl := FieldType.canonical .float self.altitudeAgl
        altitudeMsl := FieldType.canonical .float self.altitudeMsl
        horizontalAccuracy := FieldType.canonical .float self.horizontalAccuracy }
  | .attitude, self =>
      { timestamp := FieldType.canonical .uint64 self.timestamp
        yaw := FieldType.canonical .float self.yaw
        pitch := FieldType.canonical .float self.pitch
        roll := FieldType.canonical .float self.roll }
  | .speed, self =>
      { timestamp := FieldType.canonical .uint64 self.timestamp
        velocityX := FieldType.canonical .float self.velocityX
        velocityY := FieldType.canonical .float self.velocityY
        velocityZ := FieldType.canonical .float self.velocityZ }
  | .barometer, self =>
      { timestamp := FieldType.canonical .uint64 self.timestamp
        pressure := FieldType.canonical .float self.pressure }

variable {W : WireFormat} {type : MessageType}

theorem distinct (type : MessageType) : ((type.fields W).map Field.number).Nodup := by
  cases type with
  | position => exact (by decide : [1, 2, 3, 4, 5, 6].Nodup)
  | attitude => exact (by decide : [1, 2, 3, 4].Nodup)
  | speed => exact (by decide : [1, 2, 3, 4].Nodup)
  | barometer => exact (by decide : [1, 2].Nodup)

theorem length_fields_le (type : MessageType) : (type.fields W).length ≤ 6 := by
  cases type with
  | position => exact Nat.le_refl 6
  | attitude => exact (by decide : 4 ≤ 6)
  | speed => exact (by decide : 4 ≤ 6)
  | barometer => exact (by decide : 2 ≤ 6)

/-- What holds of every field for a number holds of all fields of a telemetry message. -/
theorem forall_mem_fields {P : Field W type.Fields → Prop}
    (hprimitive : ∀ number tag fieldType get set key, fieldType ≠ .string →
      (∀ self, get (type.canonical self) = fieldType.canonical (get self)) →
      P (.primitive W number tag fieldType get set key)) :
    ∀ f ∈ type.fields W, P f := by
  intro f hf
  cases type <;>
    simp only [MessageType.fields, Position.fields, Attitude.fields, Speed.fields,
      Barometer.fields, List.mem_cons, List.not_mem_nil, or_false] at hf <;>
    rcases hf with rfl | rfl | rfl | rfl | rfl | rfl <;>
    exact hprimitive _ _ _ _ _ _ (by decide) fun _ => rfl

/-- Every value of a telemetry message can be read. -/
theorem fits (fields : type.Fields) : ∀ f ∈ type.fields W, f.Fits fields :=
  forall_mem_fields fun _ _ _ _ _ _ hnumber _ => .inr ⟨FieldType.fits_number hnumber _, rfl⟩

theorem length_write_le (fields : type.Fields) :
    ∀ f ∈ type.fields W, (f.write fields).length ≤ 11 := by
  refine forall_mem_fields fun _ _ fieldType get _ _ hnumber _ => ?_
  refine Nat.le_trans (Field.length_primitive_le (FieldType.fits_number hnumber (get fields))) ?_
  exact Nat.add_le_add_left (FieldType.bound_number hnumber _) 1

theorem write_canonical (self : type.Fields) :
    ∀ f ∈ type.fields W, f.write (type.canonical self) = f.write self :=
  forall_mem_fields fun _ _ _ _ _ _ _ hcanonical => writeSingle_of_canonical (hcanonical self)

/-- The messages are short. -/
theorem length_serialize_le (fields : type.Fields) :
    (serializeWithCachedSizes (type.fields W) { fields := fields }).length ≤ 66 := by
  have hsum : ((type.fields W).map fun f => (f.write fields).length).sum ≤
      (type.fields W).length * 11 := by
    refine Nat.le_trans (List.sum_le_card_nsmul _ 11 ?_) ?_
    · intro n hn
      obtain ⟨f, hf, rfl⟩ := List.mem_map.mp hn
      exact length_write_le fields f hf
    · rw [List.length_map]
      exact Nat.le_refl _
  have hlength := type.length_fields_le (W := W)
  simp only [serializeWithCachedSizes, List.length_append, List.length_flatMap,
    List.isEmpty_nil, Bool.not_true, Bool.false_and, Bool.false_eq_true, if_false,
    List.length_nil]
  omega

/-- Merging into a new message keeps everything but the signs of zeros. -/
theorem mergeFields_zero (source : type.Fields) :
    (type.fields W).foldl (fun self f => f.mergeFrom source self) type.zero =
      type.canonical source := by
  cases type <;>
    simp only [MessageType.fields, Position.fields, Attitude.fields, Speed.fields,
      Barometer.fields, Field.primitive] <;>
    repeat rw [foldl_mergeFrom_single]
  all_goals
    intros
    rfl

/-! ## Reading what was serialized -/

/-- Reading what was serialized is merging what of it was written. -/
theorem readBack_eq_mergeFrom (source self : Message W type.Fields) :
    readBack (type.fields W) source self =
      mergeFrom (type.fields W) source.written self := by
  cases type <;> rfl

theorem serialize_written (self : Message W type.Fields) :
    serializeWithCachedSizes (type.fields W) self.written =
      serializeWithCachedSizes (type.fields W) self := by
  rw [serializeWithCachedSizes, serializeWithCachedSizes, serialize_unknown,
    serialize_unknown]
  cases hpreserve : W.preserveUnknowns <;> simp [Message.written, hpreserve]

/-- A new message that is read from what was serialized. -/
theorem parseFromString_eq {source : Message W type.Fields}
    (hfits : source.Fits (type.fields W)) :
    parseFromString (type.fields W) type.zero
        (serializeWithCachedSizes (type.fields W) source) =
      some { source.written with fields := type.canonical source.fields } := by
  rw [parseFromString_serialize type.distinct hfits, readBack_eq_mergeFrom, mergeFrom,
    Option.some.injEq, Message.mk.injEq]
  exact ⟨mergeFields_zero source.fields, List.nil_append _⟩

/-- Fields that a message does not know are none of its own. -/
theorem fits_iff {self : Message W type.Fields} : self.Fits (type.fields W) ↔
    ∀ field ∈ self.unknownFields, Unusual (type.fields W) (W.unknownTag field) :=
  ⟨fun h => h.unusual, fun h => ⟨type.fits self.fields, h⟩⟩

/-- Whatever the parser returns, what it leaves can be read. -/
theorem fits_mergedPartially {self : Message W type.Fields} (hself : self.Fits (type.fields W))
    (bytes : Bytes) : (mergedPartially (type.fields W) self bytes).Fits (type.fields W) :=
  fits_iff.mpr (unusual_mergedPartially type.distinct hself.unusual)

theorem fits_new (fields : type.Fields) :
    ({ fields := fields } : Message W type.Fields).Fits (type.fields W) :=
  fits_iff.mpr (by simp)

theorem fits_mergeFrom {source self : Message W type.Fields}
    (hsource : source.Fits (type.fields W)) (hself : self.Fits (type.fields W)) :
    (mergeFrom (type.fields W) source self).Fits (type.fields W) := by
  refine fits_iff.mpr fun field hfield => ?_
  rcases List.mem_append.mp hfield with hfield | hfield
  · exact hself.unusual field hfield
  · exact hsource.unusual field hfield

theorem fits_parseFromString {self : Message W type.Fields} {bytes : Bytes}
    (hparse : parseFromString (type.fields W) type.zero bytes = some self) :
    self.Fits (type.fields W) := by
  rw [parseFromString] at hparse
  split at hparse
  · next hmerge =>
      cases hparse
      exact mergedPartially_of_eq_some hmerge ▸ fits_mergedPartially (fits_new _) _
  · cases hparse
  · cases hparse

/-- Whatever bytes were accepted, in whatever order the fields came and with whatever
between them, what is serialized for the message is accepted as the same message up to the
signs of zeros, and serialized as it was. -/
theorem parse_serialize {bytes : Bytes} {self : Message W type.Fields}
    (hparse : parseFromString (type.fields W) type.zero bytes = some self) :
    ∃ self' : Message W type.Fields,
      parseFromString (type.fields W) type.zero
          (serializeWithCachedSizes (type.fields W) self) = some self' ∧
        self'.fields = type.canonical self.fields ∧
        self'.unknownFields = self.written.unknownFields ∧
        serializeWithCachedSizes (type.fields W) self' =
          serializeWithCachedSizes (type.fields W) self := by
  refine ⟨_, parseFromString_eq (fits_parseFromString hparse), rfl, rfl, ?_⟩
  rw [← serialize_written self, serializeWithCachedSizes, serializeWithCachedSizes]
  congr 1
  exact List.flatMap_congr fun f hf => write_canonical self.fields f hf

/-! ## Programs over messages -/

variable (W type)

/-- The message objects of a program, by their numbers. -/
abbrev Objects := ℕ → Option (Message W type.Fields)

/-- What a program does with message objects. -/
inductive Event (type : MessageType) where
  | construct (x : ℕ)
  | copyConstruct (x source : ℕ)
  | moveConstruct (x source : ℕ)
  | copyAssign (x source : ℕ)
  | moveAssign (x source : ℕ)
  | swap (x y : ℕ)
  | clear (x : ℕ)
  /-- Setters are called. -/
  | set (x : ℕ) (fields : type.Fields)
  | mergeFrom (x source : ℕ)
  | parseFromString (x : ℕ) (bytes : Bytes)

variable {W type}

namespace Objects

/-- `InternalSwap`. -/
def internalSwap (s : Objects W type) (x y : ℕ) : Option (Objects W type) :=
  match s x, s y with
  | some self, some other =>
      some (Function.update (Function.update s x (some other)) y (some self))
  | _, _ => none

def step (s : Objects W type) : Event type → Option (Objects W type)
  | .construct x =>
      match s x with
      | none => some (Function.update s x (some { fields := type.zero }))
      | some _ => none
  | .copyConstruct x source =>
      match s x, s source with
      | none, some source => some (Function.update s x (some source))
      | _, _ => none
  -- a new message, which is swapped with the other one
  | .moveConstruct x source =>
      match s x with
      | none =>
          internalSwap (Function.update s x (some { fields := type.zero })) x source
      | some _ => none
  -- `CopyFrom`
  | .copyAssign x source =>
      match s x, s source with
      | some _, some source' =>
          if source = x then some s
          else some (Function.update s x
            (some (Protobuf.mergeFrom (type.fields W) source' { fields := type.zero })))
      | _, _ => none
  | .moveAssign x source | .swap x source =>
      if x = source then some s else internalSwap s x source
  | .clear x =>
      match s x with
      | some _ => some (Function.update s x (some { fields := type.zero }))
      | none => none
  | .set x fields =>
      match s x with
      | some self => some (Function.update s x (some { self with fields := fields }))
      | none => none
  -- `GOOGLE_DCHECK_NE(&from, this)`
  | .mergeFrom x source =>
      match s x, s source with
      | some self, some source' =>
          if source = x then none
          else some (Function.update s x
            (some (Protobuf.mergeFrom (type.fields W) source' self)))
      | _, _ => none
  -- `Clear`, and what is merged before the parser returns
  | .parseFromString x bytes =>
      match s x with
      | some _ => some (Function.update s x
          (some (mergedPartially (type.fields W) { fields := type.zero } bytes)))
      | none => none

/-- What is serialized for any object can be read. -/
def Fit (s : Objects W type) : Prop := ∀ x self, s x = some self → self.Fits (type.fields W)

theorem Fit.update {s : Objects W type} (h : s.Fit) {x : ℕ}
    {self : Message W type.Fields} (hself : self.Fits (type.fields W)) :
    Fit (Function.update s x (some self)) := by
  intro y other hy
  by_cases heq : y = x
  · rw [heq, Function.update_self, Option.some.injEq] at hy
    exact hy ▸ hself
  · rw [Function.update_of_ne heq] at hy
    exact h y other hy

theorem Fit.internalSwap {s s' : Objects W type} (h : s.Fit) {x y : ℕ}
    (hswap : s.internalSwap x y = some s') : s'.Fit := by
  rw [Objects.internalSwap] at hswap
  split at hswap
  · next hx hy =>
      cases hswap
      exact (h.update (h y _ hy)).update (h x _ hx)
  · cases hswap

/-- The events that make objects of others. -/
theorem Fit.copy {s s' : Objects W type} (h : s.Fit) {x source : ℕ}
    (hstep : s.step (.copyConstruct x source) = some s' ∨
      s.step (.copyAssign x source) = some s') : s'.Fit := by
  rcases hstep with hstep | hstep <;> simp only [Objects.step] at hstep <;> split at hstep
  · next hsource =>
      cases hstep
      exact h.update (h source _ hsource)
  · cases hstep
  · next hsource =>
      split at hstep
      · cases hstep
        exact h
      · cases hstep
        exact h.update (fits_mergeFrom (h source _ hsource) (fits_new _))
  · cases hstep

/-- The events that swap objects. -/
theorem Fit.move {s s' : Objects W type} (h : s.Fit) {x source : ℕ}
    (hstep : s.step (.moveConstruct x source) = some s' ∨
      s.step (.moveAssign x source) = some s') : s'.Fit := by
  rcases hstep with hstep | hstep <;> simp only [Objects.step] at hstep <;> split at hstep
  · exact (h.update (fits_new _)).internalSwap hstep
  · cases hstep
  · cases hstep
    exact h
  · exact h.internalSwap hstep

theorem Fit.merge {s s' : Objects W type} (h : s.Fit) {x source : ℕ}
    (hstep : s.step (.mergeFrom x source) = some s') : s'.Fit := by
  simp only [Objects.step] at hstep
  split at hstep
  · next hx hsource =>
      split at hstep
      · cases hstep
      · cases hstep
        exact h.update (fits_mergeFrom (h source _ hsource) (h x _ hx))
  · cases hstep

theorem Fit.step {s s' : Objects W type} (h : s.Fit) {event : Event type}
    (hstep : s.step event = some s') : s'.Fit := by
  cases event with
  | construct x | clear x =>
      simp only [Objects.step] at hstep
      split at hstep <;> cases hstep
      exact h.update (fits_new _)
  | copyConstruct x source => exact h.copy (.inl hstep)
  | copyAssign x source => exact h.copy (.inr hstep)
  | moveConstruct x source => exact h.move (.inl hstep)
  | moveAssign x source | swap x source => exact h.move (.inr hstep)
  | set x fields =>
      simp only [Objects.step] at hstep
      split at hstep
      · next hx =>
          cases hstep
          exact h.update (fits_iff.mpr (h x _ hx).unusual)
      · cases hstep
  | mergeFrom x source => exact h.merge hstep
  | parseFromString x bytes =>
      simp only [Objects.step] at hstep
      split at hstep
      · cases hstep
        exact h.update (fits_mergedPartially (fits_new _) bytes)
      · cases hstep

theorem fit_run {s : Objects W type} {events : List (Event type)}
    (hrun : run step (fun _ => none) events = some s) : s.Fit :=
  invariant_run Fit (fun _ _ _ h _ hstep => h.step hstep) (fun _ _ h => by cases h)
    (meets_true _ _) hrun

end Objects

/-- In every program over messages of one of the types, `SerializeAsString` fills the
string that it makes for a message and writes nowhere else, and what it gives for any
messages, one behind the other, is parsed as if they were merged in this order. -/
theorem run_merges {s : Objects W type} {events : List (Event type)}
    (hrun : run Objects.step (fun _ => none) events = some s)
    {sources : List (Message W type.Fields)}
    (hsources : ∀ source ∈ sources, (∃ x, s x = some source) ∧
      byteSizeLong (type.fields W) source < 2 ^ 31) :
    ∃ strings, sources.mapM (serializeAsString (type.fields W)) = .returns strings ∧
      ∀ self, mergePartialFromCodedStream (type.fields W) self strings.flatten =
        some (sources.foldl
          (fun self source => mergeFrom (type.fields W) source.written self) self, []) := by
  have hfits : ∀ source ∈ sources, source.Fits (type.fields W) := by
    intro source hsource
    obtain ⟨x, hx⟩ := (hsources source hsource).1
    exact Objects.fit_run hrun x source hx
  refine ⟨sources.map (serializeWithCachedSizes (type.fields W)), ?_, fun self => ?_⟩
  · refine Attempt.mapM_eq_returns_map fun source hsource => ?_
    exact serializeAsString_eq (hfits source hsource).values (hsources source hsource).2
  · rw [← List.flatMap_def, mergePartialFromCodedStream_serializeAll type.distinct hfits]
    simp only [readBack_eq_mergeFrom]

/-! ## Two barometers -/

/-- The pressure before the timestamp and once more after it, the second time the negative
zero, and a field that the message does not know. -/
def shuffled : Bytes := [21, 0, 0, 128, 63, 8, 5, 21, 0, 0, 0, 128, 24, 7]

/-- One barometer is parsed and moved; the other one is left with a timestamp by a parse that
fails at the pressure. -/
def twoBarometers : List (Event .barometer) :=
  [.construct 0, .parseFromString 0 shuffled, .construct 1,
    .parseFromString 1 [8, 5, 21, 0, 0], .moveConstruct 2 0]

theorem run_merges_twoBarometers :
    ∃ (s : Objects ascii .barometer) (sources : List (Message ascii Barometer)),
      run Objects.step (fun _ => none) twoBarometers = some s ∧
        [s 2, s 1] = sources.map some ∧
        ∃ strings, sources.mapM (serializeAsString (Barometer.fields ascii)) =
            .returns strings ∧
          mergePartialFromCodedStream (Barometer.fields ascii) {
              fields := { timestamp := 9 } } strings.flatten =
            some (sources.foldl (fun self source =>
              mergeFrom (Barometer.fields ascii) source.written self) {
                fields := { timestamp := 9 } }, []) := by
  have hdecide : (run (Objects.step (W := ascii)) (fun _ => none) twoBarometers).map
      (fun s => decide ((s 2).any (fun m => byteSizeLong (Barometer.fields ascii) m < 2 ^ 31) ∧
        (s 1).any fun m => byteSizeLong (Barometer.fields ascii) m < 2 ^ 31)) = some true := by
    decide
  obtain ⟨s, hrun, hcopied, hsecond⟩ := exists_run hdecide
  obtain ⟨copied, hcopied, hsize⟩ := (Option.any_eq_true _ _).mp hcopied
  obtain ⟨second, hsecond, hsize'⟩ := (Option.any_eq_true _ _).mp hsecond
  have hsources : ∀ source ∈ [copied, second], (∃ x, s x = some source) ∧
      byteSizeLong (Barometer.fields ascii) source < 2 ^ 31 := by
    intro source hsource
    rcases List.mem_cons.mp hsource with rfl | hsource
    · exact ⟨⟨2, hcopied⟩, of_decide_eq_true hsize⟩
    · rw [List.mem_singleton.mp hsource]
      exact ⟨⟨1, hsecond⟩, of_decide_eq_true hsize'⟩
  obtain ⟨strings, hstrings, hmerged⟩ := run_merges hrun hsources
  refine ⟨s, [copied, second], hrun, ?_, strings, hstrings, hmerged _⟩
  rw [hcopied, hsecond]
  rfl

theorem parse_serialize_shuffled :
    ∃ self self' : Message ascii Barometer,
      parseFromString (Barometer.fields ascii) {} shuffled = some self ∧
        parseFromString (Barometer.fields ascii) {}
          (serializeWithCachedSizes (Barometer.fields ascii) self) = some self' ∧
        serializeWithCachedSizes (Barometer.fields ascii) self' =
          serializeWithCachedSizes (Barometer.fields ascii) self := by
  obtain ⟨self, hparse⟩ : ∃ self : Message ascii Barometer,
      parseFromString (Barometer.fields ascii) {} shuffled = some self :=
    Option.isSome_iff_exists.mp (by decide)
  obtain ⟨self', hparse', -, -, hsame⟩ := @parse_serialize ascii .barometer _ _ hparse
  exact ⟨self, self', hparse, hparse', hsame⟩

end MessageType
end Airmap.Pregenerated
