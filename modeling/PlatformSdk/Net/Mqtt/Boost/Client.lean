import Mathlib.Data.List.Nodup
import Mathlib.Data.List.Perm.Basic
import Mathlib.Data.Nat.Notation
import Mathlib.Logic.Function.Basic
import PlatformSdk.Machine.Run

/-!
# Subscriptions of an MQTT client

A `Client` has one entry in `topic_map_` for each of its subscriptions.  A
`Subscription` knows the packet id under which it was made, and its destructor
finds the entry by way of `subscription_map_`, whose keys are the lower eight
bits of these ids.
-/

namespace Airmap.Net.Mqtt

inductive QualityOfService where
  | atLeastOnce
  | atMostOnce
  | exactlyOnce
  deriving DecidableEq

namespace Boost

/-- `mqtt::qos`. -/
inductive Qos where
  | atMostOnce
  | atLeastOnce
  | exactlyOnce
  deriving DecidableEq

def translate : QualityOfService → Qos
  | .atLeastOnce => .atLeastOnce
  | .atMostOnce => .atMostOnce
  | .exactlyOnce => .exactlyOnce

/-- An entry of `topic_map_`.  A `TopicMapIterator` is known by the number of
the entry it points to, and taken to stay valid: the map is an `unordered_multimap`,
in which an insertion may invalidate the iterators that the source keeps. -/
structure Entry (κ : Type*) where
  number : ℕ
  topic : String
  callback : κ
  deriving DecidableEq

/-- A `Subscription` that was not destroyed yet: the packet id that its
unsubscriber holds, and the entry that was made for it. -/
structure Subscription (κ : Type*) where
  id : UInt16
  entry : Entry κ
  deriving DecidableEq

/-- The `SubscriptionId` that the packet id is converted to. -/
def Subscription.key {κ : Type*} (sub : Subscription κ) : UInt8 := sub.id.toUInt8

/-- What was sent to the broker.  An `unsubscribe` notes how many subscriptions
to its topic were left. -/
inductive Request where
  | subscribe (topic : String) (qos : Qos)
  | unsubscribe (topic : String) (others : ℕ)
  deriving DecidableEq

/-- `Client`, with the subscriptions that are alive and what was sent so far,
the latest request first. -/
structure Client (κ : Type*) where
  topicMap : List (Entry κ) := []
  subscriptionMap : UInt8 → Option (Entry κ) := fun _ => none
  live : List (Subscription κ) := []
  emplaced : ℕ := 0
  sent : List Request := []

namespace Client

variable {κ : Type*}

/-- `subscription_map_.emplace`, which keeps the iterator that is there. -/
def emplace (key : UInt8) (itt : Entry κ) (links : UInt8 → Option (Entry κ)) :
    UInt8 → Option (Entry κ) :=
  match links key with
  | none => Function.update links key (some itt)
  | some _ => links

/-- `Client::subscribe`, where `async_subscribe` returns `id`. -/
def subscribe (topic : String) (qos : QualityOfService) (callback : κ)
    (id : UInt16) (s : Client κ) : Client κ :=
  let itt : Entry κ := ⟨s.emplaced, topic, callback⟩
  { topicMap := s.topicMap ++ [itt]
    subscriptionMap := emplace id.toUInt8 itt s.subscriptionMap
    live := s.live ++ [⟨id, itt⟩]
    emplaced := s.emplaced + 1
    sent := .subscribe topic (translate qos) :: s.sent }

/-- `Client::handle_publish`: the calls it makes. -/
def handlePublish (topic contents : String) (s : Client κ) :
    List (κ × String × String) :=
  (s.topicMap.filter (·.topic = topic)).map fun entry =>
    (entry.callback, topic, contents)

/-- `topic_map_.erase`. -/
def erase (itt : Entry κ) (entries : List (Entry κ)) : List (Entry κ) :=
  entries.eraseP (·.number = itt.number)

/-- `Client::unsubscribe`. -/
def unsubscribe (subscriptionId : UInt8) (s : Client κ) : Client κ :=
  match s.subscriptionMap subscriptionId with
  | none => s
  | some itt =>
      { s with
        sent := .unsubscribe itt.topic
          (s.live.countP (·.entry.topic = itt.topic)) :: s.sent
        topicMap := erase itt s.topicMap
        subscriptionMap := Function.update s.subscriptionMap subscriptionId none }

/-- What can happen to a client: somebody subscribes, and the packet id he gets
is not that of a live subscription, or the `i`-th subscription is destroyed. -/
inductive Event (κ : Type*) where
  | subscribe (topic : String) (qos : QualityOfService) (callback : κ)
      (id : UInt16)
  | destroy (i : ℕ)

def step (s : Client κ) : Event κ → Option (Client κ)
  | .subscribe topic qos callback id =>
      if id ∈ s.live.map Subscription.id then none
      else some (s.subscribe topic qos callback id)
  | .destroy i =>
      match s.live[i]? with
      | none => none
      | some sub =>
          some ({ s with live := s.live.eraseIdx i }.unsubscribe sub.key)

/-- A client that was just created. -/
def create : Client κ := {}

/-! ## What one step does -/

variable {s s' : Client κ}

inductive Step (s : Client κ) : Event κ → Client κ → Prop where
  | subscribed {topic : String} {qos : QualityOfService} {callback : κ}
      {id : UInt16} (hfresh : id ∉ s.live.map Subscription.id) :
      Step s (.subscribe topic qos callback id) (s.subscribe topic qos callback id)
  | missed {i : ℕ} {sub : Subscription κ} (hi : s.live[i]? = some sub)
      (hlink : s.subscriptionMap sub.key = none) :
      Step s (.destroy i) { s with live := s.live.eraseIdx i }
  | found {i : ℕ} {sub : Subscription κ} {itt : Entry κ}
      (hi : s.live[i]? = some sub) (hlink : s.subscriptionMap sub.key = some itt) :
      Step s (.destroy i)
        { s with
          live := s.live.eraseIdx i
          sent := .unsubscribe itt.topic
            ((s.live.eraseIdx i).countP (·.entry.topic = itt.topic)) :: s.sent
          topicMap := erase itt s.topicMap
          subscriptionMap := Function.update s.subscriptionMap sub.key none }

theorem step_cases {event : Event κ} (hstep : s.step event = some s') :
    Step s event s' := by
  cases event with
  | subscribe topic qos callback id =>
      simp only [step] at hstep
      split at hstep
      next => cases hstep
      next hfresh =>
        cases hstep
        exact .subscribed hfresh
  | destroy i =>
      simp only [step] at hstep
      split at hstep
      next => cases hstep
      next sub hi =>
        cases hstep
        cases hlink : s.subscriptionMap sub.key with
        | none =>
            have hmissed : Step s (.destroy i) _ := .missed hi hlink
            simpa [unsubscribe, hlink] using hmissed
        | some itt =>
            have hfound : Step s (.destroy i) _ := .found hi hlink
            simpa [unsubscribe, hlink] using hfound

/-- What is linked after `emplace` is the new entry or was linked before. -/
theorem emplace_eq_some {links : UInt8 → Option (Entry κ)} {key key' : UInt8}
    {itt itt' : Entry κ} (h : emplace key itt links key' = some itt') :
    (key' = key ∧ itt' = itt) ∨ links key' = some itt' := by
  cases hkeep : links key with
  | none =>
      simp only [emplace, hkeep] at h
      by_cases hkey : key' = key
      · subst hkey
        rw [Function.update_self, Option.some.injEq] at h
        exact Or.inl ⟨rfl, h.symm⟩
      · rw [Function.update_of_ne hkey] at h
        exact Or.inr h
  | some kept =>
      simp only [emplace, hkeep] at h
      exact Or.inr h

theorem emplace_of_eq_some {links : UInt8 → Option (Entry κ)} {key' : UInt8}
    {itt' : Entry κ} (h : links key' = some itt') (key : UInt8) (itt : Entry κ) :
    emplace key itt links key' = some itt' := by
  cases hkeep : links key with
  | none =>
      have hkey : key' ≠ key := by
        rintro rfl
        simp [hkeep] at h
      simp only [emplace, hkeep, Function.update_of_ne hkey, h]
  | some kept => simp only [emplace, hkeep, h]

theorem emplace_self {links : UInt8 → Option (Entry κ)} {key : UInt8}
    (h : links key = none) (itt : Entry κ) :
    emplace key itt links key = some itt := by
  simp only [emplace, h, Function.update_self]

/-- What is linked after a key was erased was linked before, under another
key. -/
theorem erased_eq_some {links : UInt8 → Option (Entry κ)} {key key' : UInt8}
    {itt : Entry κ} (h : Function.update links key none key' = some itt) :
    key' ≠ key ∧ links key' = some itt := by
  by_cases hkey : key' = key
  · subst hkey
    simp at h
  · rw [Function.update_of_ne hkey] at h
    exact ⟨hkey, h⟩

/-! ## The iterators -/

/-- The entries are told apart by their numbers, and the iterators that
`subscription_map_` holds point to entries of `topic_map_`, no two of them to
the same one. -/
structure WellLinked (s : Client κ) : Prop where
  nodup : (s.topicMap.map Entry.number).Nodup
  below : ∀ entry ∈ s.topicMap, entry.number < s.emplaced
  valid : ∀ key itt, s.subscriptionMap key = some itt → itt ∈ s.topicMap
  unique : ∀ key key' itt, s.subscriptionMap key = some itt →
    s.subscriptionMap key' = some itt → key = key'

theorem wellLinked_create : (create : Client κ).WellLinked where
  nodup := List.nodup_nil
  below := by simp [create]
  valid := by simp [create]
  unique := by simp [create]

theorem WellLinked.eq_of_number_eq (h : s.WellLinked) {entry entry' : Entry κ}
    (hmem : entry ∈ s.topicMap) (hmem' : entry' ∈ s.topicMap)
    (hnumber : entry.number = entry'.number) : entry = entry' :=
  List.inj_on_of_nodup_map h.nodup hmem hmem' hnumber

/-- Erasing takes away the entry that the iterator points to and no other. -/
theorem WellLinked.perm_erase (h : s.WellLinked) {itt : Entry κ}
    (hitt : itt ∈ s.topicMap) : s.topicMap.Perm (itt :: erase itt s.topicMap) := by
  obtain ⟨entry, front, back, -, hnumber, hsplit, herase⟩ :=
    List.exists_of_eraseP (p := fun entry => entry.number = itt.number) hitt
      (by simp)
  have hmem : entry ∈ s.topicMap := by simp [hsplit]
  have hsame : entry = itt := h.eq_of_number_eq hmem hitt (by simpa using hnumber)
  subst hsame
  rw [erase, herase]
  conv_lhs => rw [hsplit]
  exact List.perm_middle

theorem WellLinked.subscribe (h : s.WellLinked) (topic : String)
    (qos : QualityOfService) (callback : κ) (id : UInt16) :
    (s.subscribe topic qos callback id).WellLinked where
  nodup := by
    simp only [Client.subscribe, List.map_append, List.map_cons, List.map_nil]
    apply h.nodup.append (List.nodup_singleton _)
    intro number hold hnew
    obtain ⟨entry, hentry, rfl⟩ := List.mem_map.mp hold
    have hbelow := h.below entry hentry
    rw [List.mem_singleton.mp hnew] at hbelow
    exact Nat.lt_irrefl _ hbelow
  below := by
    intro entry hentry
    rcases List.mem_append.mp hentry with hold | hnew
    · exact Nat.lt_succ_of_lt (h.below entry hold)
    · rw [List.mem_singleton.mp hnew]
      exact Nat.lt_succ_self _
  valid := by
    intro key itt hlink
    rcases emplace_eq_some hlink with ⟨-, rfl⟩ | hold
    · exact List.mem_append_right _ (List.mem_singleton_self _)
    · exact List.mem_append_left _ (h.valid key itt hold)
  unique := by
    have hnew : ∀ key, s.subscriptionMap key ≠ some ⟨s.emplaced, topic, callback⟩ := by
      intro key hlink
      exact Nat.lt_irrefl _ (h.below _ (h.valid key _ hlink))
    intro key key' itt hlink hlink'
    rcases emplace_eq_some hlink with ⟨hkey, rfl⟩ | hold <;>
      rcases emplace_eq_some hlink' with ⟨hkey', heq⟩ | hold'
    · rw [hkey, hkey']
    · exact absurd hold' (hnew key')
    · exact absurd (heq ▸ hold) (hnew key)
    · exact h.unique key key' itt hold hold'

theorem Step.wellLinked {event : Event κ} (hstep : Step s event s')
    (h : s.WellLinked) : s'.WellLinked := by
  cases hstep with
  | subscribed => exact h.subscribe _ _ _ _
  | missed => exact ⟨h.nodup, h.below, h.valid, h.unique⟩
  | @found i sub itt hi hlink =>
      have hitt := h.valid _ _ hlink
      have hsublist : (erase itt s.topicMap).Sublist s.topicMap :=
        List.eraseP_sublist
      exact {
        nodup := h.nodup.sublist (hsublist.map _)
        below := fun entry hentry => h.below entry (hsublist.subset hentry)
        valid := by
          intro key other hother
          obtain ⟨hkey, hold⟩ := erased_eq_some hother
          have hdistinct : other.number ≠ itt.number := by
            intro hnumber
            have hsame := h.eq_of_number_eq (h.valid _ _ hold) hitt hnumber
            exact hkey (h.unique _ _ _ hold (hsame ▸ hlink))
          exact (List.mem_eraseP_of_neg (by simpa using hdistinct)).mpr
            (h.valid _ _ hold)
        unique := fun key key' other hother hother' =>
          h.unique key key' other (erased_eq_some hother).2
            (erased_eq_some hother').2 }

/-- In every run each iterator that `subscription_map_` holds points to an entry
of `topic_map_`. -/
theorem wellLinked_run {events : List (Event κ)}
    (hrun : Machine.run step create events = some s) : s.WellLinked :=
  Machine.invariant_run WellLinked
    (fun _ _ _ h _ hstep => (step_cases hstep).wellLinked h) wellLinked_create
    (Machine.meets_true _ _) hrun

/-! ## One entry for each subscription -/

/-- The entries of `topic_map_` are those of the live subscriptions, and what is
published on a topic is handed to the callbacks of these and of nobody else. -/
structure Serves (s : Client κ) : Prop where
  entries : s.topicMap.Perm (s.live.map Subscription.entry)
  published : ∀ topic contents, (s.handlePublish topic contents).Perm
    ((s.live.filter (·.entry.topic = topic)).map fun sub =>
      (sub.entry.callback, topic, contents))

theorem serves_of_entries (h : s.topicMap.Perm (s.live.map Subscription.entry)) :
    s.Serves where
  entries := h
  published := by
    intro topic contents
    have hfilter := (h.filter (·.topic = topic)).map
      fun entry => (entry.callback, topic, contents)
    rwa [List.filter_map, List.map_map] at hfilter

/-- The subscription that is destroyed is linked to its own entry. -/
def DestroysOwn (s : Client κ) : Event κ → Prop
  | .subscribe .. => True
  | .destroy i =>
      ∀ sub ∈ s.live[i]?, s.subscriptionMap sub.key = some sub.entry

theorem perm_live {i : ℕ} {sub : Subscription κ} (hi : s.live[i]? = some sub) :
    s.live.Perm (sub :: s.live.eraseIdx i) := by
  obtain ⟨hlt, rfl⟩ := List.getElem?_eq_some_iff.mp hi
  exact (List.getElem_cons_eraseIdx_perm hlt).symm

/-- What is left of one list after its head was taken away is what is left of
the other exactly when both heads are the same. -/
theorem perm_tail_iff {α : Type*} {a b : α} {as bs : List α}
    (h : (a :: as).Perm (b :: bs)) : as.Perm bs ↔ a = b := by
  constructor
  · intro htail
    have hheads : ([a] ++ bs).Perm ([b] ++ bs) := (htail.symm.cons a).trans h
    exact List.singleton_perm_singleton.mp ((List.perm_append_right_iff bs).mp hheads)
  · rintro rfl
    exact h.cons_inv

theorem Step.serves_iff {event : Event κ} (hstep : Step s event s')
    (hlinked : s.WellLinked) (h : s.Serves) : s'.Serves ↔ s.DestroysOwn event := by
  cases hstep with
  | subscribed =>
      refine iff_of_true (serves_of_entries ?_) trivial
      simp only [subscribe, List.map_append, List.map_cons, List.map_nil]
      exact h.entries.append_right _
  | @missed i sub hi hlink =>
      have hlive := (perm_live hi).map Subscription.entry
      refine iff_of_false ?_ ?_
      · intro hserves
        have hlength := (h.entries.symm.trans hserves.entries).length_eq
        simp [hlive.length_eq] at hlength
      · intro howns
        simpa [hlink] using howns sub hi
  | @found i sub itt hi hlink =>
      have hlive := h.entries.trans ((perm_live hi).map Subscription.entry)
      have herase := hlinked.perm_erase (hlinked.valid _ _ hlink)
      have hiff := perm_tail_iff (herase.symm.trans hlive)
      constructor
      · intro hserves other hother
        rw [hi, Option.mem_some_iff] at hother
        rw [← hother, hlink, hiff.mp hserves.entries]
      · intro howns
        have hown := howns sub hi
        rw [hlink, Option.some.injEq] at hown
        exact serves_of_entries (hiff.mpr hown)

theorem destroysOwn_of_disabled {event : Event κ} (h : s.step event = none) :
    s.DestroysOwn event := by
  cases event with
  | subscribe => trivial
  | destroy i =>
      intro sub hi
      simp [step, Option.mem_def.mp hi] at h

/-! ### Packet ids with different lower eight bits -/

/-- The packet id of a new subscription is not cut to the key of a live one. -/
def KeepsApart (s : Client κ) : Event κ → Prop
  | .subscribe _ _ _ id => id.toUInt8 ∉ s.live.map Subscription.key
  | .destroy _ => True

/-- The live subscriptions are linked to their own entries, under different
keys. -/
structure Apart (s : Client κ) : Prop where
  nodup : (s.live.map Subscription.key).Nodup
  own : ∀ sub ∈ s.live, s.subscriptionMap sub.key = some sub.entry
  keys : ∀ key itt, s.subscriptionMap key = some itt →
    key ∈ s.live.map Subscription.key

theorem apart_create : (create : Client κ).Apart where
  nodup := List.nodup_nil
  own := by simp [create]
  keys := by simp [create]

theorem Apart.subscribe (h : s.Apart) {id : UInt16}
    (hapart : id.toUInt8 ∉ s.live.map Subscription.key) (topic : String)
    (qos : QualityOfService) (callback : κ) :
    (s.subscribe topic qos callback id).Apart where
  nodup := by
    simp only [Client.subscribe, List.map_append, List.map_cons, List.map_nil]
    apply h.nodup.append (List.nodup_singleton _)
    intro key hold hnew
    rw [List.mem_singleton.mp hnew] at hold
    exact hapart hold
  own := by
    intro sub hsub
    rcases List.mem_append.mp hsub with hold | hnew
    · exact emplace_of_eq_some (h.own sub hold) _ _
    · rw [List.mem_singleton.mp hnew]
      apply emplace_self
      by_contra hlinked
      obtain ⟨itt, hitt⟩ := Option.ne_none_iff_exists'.mp hlinked
      exact hapart (h.keys _ itt hitt)
  keys := by
    intro key itt hlink
    simp only [Client.subscribe, List.map_append, List.mem_append]
    rcases emplace_eq_some hlink with ⟨rfl, -⟩ | hold
    · exact Or.inr (List.mem_singleton_self _)
    · exact Or.inl (h.keys key itt hold)

theorem Step.apart {event : Event κ} (hstep : Step s event s') (h : s.Apart)
    (hapart : s.KeepsApart event) : s'.Apart := by
  cases hstep with
  | subscribed => exact h.subscribe hapart _ _ _
  | missed hi hlink =>
      have hown := h.own _ (List.mem_of_getElem? hi)
      rw [hlink] at hown
      cases hown
  | @found i sub itt hi hlink =>
      have hlive := perm_live hi
      have hkeys := hlive.map Subscription.key
      obtain ⟨hsub, hrest⟩ := List.nodup_cons.mp (hkeys.nodup h.nodup)
      exact {
        nodup := hrest
        own := by
          intro other hother
          have hkey : other.key ≠ sub.key := by
            intro hsame
            exact hsub (hsame ▸ List.mem_map_of_mem hother)
          simpa [Function.update_of_ne hkey] using
            h.own other (hlive.mem_iff.mpr (List.mem_cons_of_mem _ hother))
        keys := by
          intro key other hother
          obtain ⟨hkey, hold⟩ := erased_eq_some hother
          have hmem := hkeys.mem_iff.mp (h.keys key other hold)
          exact (List.mem_cons.mp hmem).resolve_left hkey }

theorem Apart.destroysOwn (h : s.Apart) (event : Event κ) : s.DestroysOwn event := by
  cases event with
  | subscribe => trivial
  | destroy i =>
      intro sub hsub
      exact h.own sub (List.mem_of_getElem? (Option.mem_def.mp hsub))

/-- After each step of a run `topic_map_` has one entry for each live
subscription and publishes go to the callbacks of these exactly when each
subscription that is destroyed is linked to its own entry; and packet ids that
differ in their lower eight bits from those of the live subscriptions are
enough. -/
theorem serves_along_iff_destroysOwn {κ : Type*} (events : List (Event κ)) :
    (Machine.Along step Serves create events ↔
      Machine.Meets step DestroysOwn create events) ∧
    (Machine.Meets step KeepsApart create events →
      Machine.Along step Serves create events) := by
  have hiff : Machine.Along step Serves (create : Client κ) events ↔
      Machine.Meets step DestroysOwn create events := by
    apply Machine.along_iff_meets WellLinked
    · exact fun s event s' h _ hstep _ => (step_cases hstep).wellLinked h
    · exact fun s event s' h hserves hstep => (step_cases hstep).serves_iff h hserves
    · exact fun s event => destroysOwn_of_disabled
    · exact wellLinked_create
    · exact serves_of_entries List.Perm.nil
  refine ⟨hiff, fun hapart => hiff.mpr ?_⟩
  exact hapart.imp_of_invariant Apart
    (fun s event s' h hC hstep => (step_cases hstep).apart h hC)
    (fun s event h _ => h.destroysOwn event) apart_create

/-- The packet ids 1 and 257 are cut to one key.  The second of two
subscriptions is destroyed, and the first one is alive and gets nothing. -/
theorem callback_of_live_erased :
    ∃ s, Machine.run step (create : Client ℕ)
        [.subscribe "a" .exactlyOnce 0 1, .subscribe "b" .exactlyOnce 1 257,
          .destroy 1] = some s ∧
      s.live.map (·.entry.topic) = ["a"] ∧ s.handlePublish "a" "x" = [] ∧
      ¬ s.Serves := by
  obtain ⟨s, hrun, hlive, hpublish, hperm⟩ : ∃ s, Machine.run step (create : Client ℕ)
        [.subscribe "a" .exactlyOnce 0 1, .subscribe "b" .exactlyOnce 1 257,
          .destroy 1] = some s ∧
      s.live.map (·.entry.topic) = ["a"] ∧ s.handlePublish "a" "x" = [] ∧
      ¬ s.topicMap.Perm (s.live.map Subscription.entry) :=
    Machine.exists_run (by decide)
  exact ⟨s, hrun, hlive, hpublish, fun h => hperm h.entries⟩

/-! ## The topics at the broker -/

/-- The broker keeps one subscription for each topic, which is there when the
latest request about the topic was to subscribe. -/
def Subscribed (topic : String) : List Request → Prop
  | [] => False
  | .subscribe topic' _ :: past => topic' = topic ∨ Subscribed topic past
  | .unsubscribe topic' _ :: past => topic' ≠ topic ∧ Subscribed topic past

/-- No topic was unsubscribed while a subscription to it was left, and the topics
of the live subscriptions are subscribed at the broker. -/
structure KeepsTopics (s : Client κ) : Prop where
  last : ∀ topic others, .unsubscribe topic others ∈ s.sent → others = 0
  subscribed : ∀ sub ∈ s.live, Subscribed sub.entry.topic s.sent

/-- No other live subscription has the topic of the entry that the destroyed
subscription is linked to. -/
def DestroysLast (s : Client κ) : Event κ → Prop
  | .subscribe .. => True
  | .destroy i =>
      ∀ sub ∈ s.live[i]?, ∀ itt ∈ s.subscriptionMap sub.key,
        ∀ other ∈ s.live.eraseIdx i, other.entry.topic ≠ itt.topic

theorem Step.keepsTopics_iff {event : Event κ} (hstep : Step s event s')
    (h : s.KeepsTopics) : s'.KeepsTopics ↔ s.DestroysLast event := by
  cases hstep with
  | @subscribed topic qos callback id hfresh =>
      refine iff_of_true ⟨?_, ?_⟩ trivial
      · intro topic' others hsent
        exact h.last topic' others (by simpa [subscribe] using hsent)
      · intro sub hsub
        rcases List.mem_append.mp hsub with hold | hnew
        · exact Or.inr (h.subscribed sub hold)
        · rw [List.mem_singleton.mp hnew]
          exact Or.inl rfl
  | @missed i sub hi hlink =>
      refine iff_of_true ⟨h.last, ?_⟩ ?_
      · exact fun other hother =>
          h.subscribed other (List.mem_of_mem_eraseIdx hother)
      · intro other hother itt hitt
        rw [hi, Option.mem_some_iff] at hother
        simp [← hother, hlink] at hitt
  | @found i sub itt hi hlink =>
      constructor
      · intro hkeeps other hother itt' hitt' left hleft
        rw [hi, Option.mem_some_iff] at hother
        rw [← hother, hlink, Option.mem_some_iff] at hitt'
        rw [← hitt']
        exact (hkeeps.subscribed left hleft).1.symm
      · intro hlast
        have hothers := hlast sub hi itt hlink
        constructor
        · intro topic others hsent
          rcases List.mem_cons.mp hsent with hnew | hold
          · cases hnew
            rw [List.countP_eq_zero]
            intro other hother
            simpa using hothers other hother
          · exact h.last topic others hold
        · intro other hother
          exact ⟨(hothers other hother).symm,
            h.subscribed other (List.mem_of_mem_eraseIdx hother)⟩

theorem destroysLast_of_disabled {event : Event κ} (h : s.step event = none) :
    s.DestroysLast event := by
  cases event with
  | subscribe => trivial
  | destroy i =>
      intro sub hi
      simp [step, Option.mem_def.mp hi] at h

/-- The subscription that is destroyed is the last live one of its topic. -/
def DestroysLastOfTopic (s : Client κ) : Event κ → Prop
  | .subscribe .. => True
  | .destroy i =>
      ∀ sub ∈ s.live[i]?, ∀ other ∈ s.live.eraseIdx i,
        other.entry.topic ≠ sub.entry.topic

theorem Apart.destroysLast_iff (h : s.Apart) (event : Event κ) :
    s.DestroysLast event ↔ s.DestroysLastOfTopic event := by
  cases event with
  | subscribe => exact Iff.rfl
  | destroy i =>
      refine forall₂_congr fun sub hsub => ?_
      have hown := h.own sub (List.mem_of_getElem? (Option.mem_def.mp hsub))
      simp [hown]

theorem destroysLast_meets_iff {events : List (Event κ)}
    (hapart : Machine.Meets step KeepsApart create events) :
    Machine.Meets step DestroysLast create events ↔
      Machine.Meets step DestroysLastOfTopic create events := by
  constructor
  · intro hlast
    exact (hapart.and hlast).imp_of_invariant Apart
      (fun s event s' h hC hstep => (step_cases hstep).apart h hC.1)
      (fun s event h hC => (h.destroysLast_iff event).mp hC.2) apart_create
  · intro hlast
    exact (hapart.and hlast).imp_of_invariant Apart
      (fun s event s' h hC hstep => (step_cases hstep).apart h hC.1)
      (fun s event h hC => (h.destroysLast_iff event).mpr hC.2) apart_create

/-- In a run no topic is unsubscribed while a live subscription to it is left,
and the topics of the live subscriptions stay subscribed at the broker, exactly
when no subscription is destroyed while another one has the topic of the entry
that it is linked to; where the keys are kept apart, this is its own topic. -/
theorem keepsTopics_along_iff_destroysLast {κ : Type*} (events : List (Event κ)) :
    (Machine.Along step KeepsTopics create events ↔
      Machine.Meets step DestroysLast create events) ∧
    (Machine.Meets step KeepsApart create events →
      (Machine.Along step KeepsTopics create events ↔
        Machine.Meets step DestroysLastOfTopic create events)) := by
  have hiff : Machine.Along step KeepsTopics (create : Client κ) events ↔
      Machine.Meets step DestroysLast create events := by
    apply Machine.along_iff_meets fun _ => True
    · exact fun _ _ _ _ _ _ _ => trivial
    · exact fun s event s' _ hkeeps hstep => (step_cases hstep).keepsTopics_iff hkeeps
    · exact fun s event => destroysLast_of_disabled
    · trivial
    · exact ⟨by simp [create], by simp [create]⟩
  exact ⟨hiff, fun hapart => hiff.trans (destroysLast_meets_iff hapart)⟩

/-- Two subscriptions to one topic, of which the first one is destroyed. -/
theorem topic_of_live_unsubscribed :
    ∃ s, Machine.run step (create : Client ℕ)
        [.subscribe "a" .exactlyOnce 0 1, .subscribe "a" .exactlyOnce 1 2,
          .destroy 0] = some s ∧
      s.sent.head? = some (.unsubscribe "a" 1) ∧ ¬ s.KeepsTopics := by
  obtain ⟨s, hrun, hsent⟩ : ∃ s, Machine.run step (create : Client ℕ)
        [.subscribe "a" .exactlyOnce 0 1, .subscribe "a" .exactlyOnce 1 2,
          .destroy 0] = some s ∧
      s.sent.head? = some (.unsubscribe "a" 1) :=
    Machine.exists_run (by decide)
  refine ⟨s, hrun, hsent, fun h => ?_⟩
  have hothers := h.last "a" 1 (List.mem_of_head? hsent)
  exact absurd hothers (by decide)

end Client
end Boost
end Airmap.Net.Mqtt
