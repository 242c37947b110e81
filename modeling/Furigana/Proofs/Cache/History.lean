import Mathlib
import Furigana.Proofs.Cache

/-!
# The history of a cache

Every call of a cache may come with another way to build, so the value that is held for a key depends
on the calls that were made.  This file says what calls do in terms of the calls before them alone:
which keys are held, which calls build, which of them flush the cache, and whose value is returned.

* `Call`, `Event`, `run` — calls, what each of them did, and one call after the other;
* `recentKeys`, `LatestBuild` — the keys that were asked for since the last flush, and the latest
  build of a key;
* `IsNext`, `History` — what the events of a cache look like, without the cache;
* `Serves` — the three things a call can do to a cache;
* `Reflects`, `Reflects.serves` — a cache holds what its history says, and a call keeps it so;
* `History.few_keys` — with few keys nothing is built twice;
* **`run_history`** — the events of every run are such a history, which the cache reflects after each
  call.
-/

namespace Furigana.Cache

variable {α : Type} {m : Nat} {c next : Cache α}

/-! ## Calls and events -/

/-- A call: the key that is asked for, and the way to build its value. -/
structure Call (α : Type) where
  key : Text
  build : Text → α

/-- What a call did: the value that it returned, and whether it built it and flushed the cache. -/
structure Event (α : Type) extends Call α where
  value : α
  built : Bool
  flushed : Bool

/-- Whether an event is a build for the key. -/
def Event.Builds (e : Event α) (key : Text) : Prop := e.built ∧ e.key = key

instance (e : Event α) (key : Text) : Decidable (e.Builds key) := inferInstanceAs (Decidable (_ ∧ _))

/-- What a call does, and the cache that it leaves. -/
def serve (c : Cache α) (call : Call α) : Event α × Cache α :=
  let (value, next) := c.fetch call.key call.build
  (⟨call, value, (c.find? call.key).isNone, c.willFlush call.key⟩, next)

/-- Calls one after the other. -/
def run : Cache α → List (Call α) → List (Event α) × Cache α
  | c, [] => ([], c)
  | c, call :: calls =>
      let (event, next) := c.serve call
      let (events, last) := next.run calls
      (event :: events, last)

/-- The keys of the values that are held. -/
def keys (c : Cache α) : Finset Text := (c.entries.map Prod.fst).toFinset

/-! ## Histories -/

/-- The keys that were asked for since the last flush, by the call that flushed or later. -/
def recentKeys (events : List (Event α)) : Finset Text :=
  events.foldl (fun keys e => if e.flushed then {e.key} else keys ∪ {e.key}) ∅

/-- Whether the latest build of a key made the value. -/
def LatestBuild (events : List (Event α)) (key : Text) (value : α) : Prop :=
  ∃ front e back, events = front ++ e :: back ∧ e.Builds key ∧ value = e.build key ∧
    ∀ e' ∈ back, ¬ e'.Builds key

/-- What a call does behind a history, in a cache for `m` values.  It builds if its key was not asked
for since the last flush, flushes if it builds while `m` keys were, and returns what the latest build
of its key made, which may be its own. -/
structure IsNext (m : Nat) (events : List (Event α)) (e : Event α) : Prop where
  built_iff : e.built ↔ e.key ∉ recentKeys events
  flushed_iff : e.flushed ↔ e.built ∧ (recentKeys events).card = m
  latest : LatestBuild (events ++ [e]) e.key e.value

/-- What the calls of a cache for `m` values do, one after the other. -/
inductive History (m : Nat) : List (Event α) → Prop
  | nil : History m []
  | concat {events : List (Event α)} {e : Event α} (h : History m events) (hnext : IsNext m events e) :
      History m (events ++ [e])

variable {events : List (Event α)} {e : Event α} {key : Text} {value : α}

@[simp] lemma recentKeys_concat (events : List (Event α)) (e : Event α) :
    recentKeys (events ++ [e]) = if e.flushed then {e.key} else recentKeys events ∪ {e.key} := by
  simp [recentKeys]

lemma latestBuild_concat_self (he : e.Builds key) : LatestBuild (events ++ [e]) key (e.build key) :=
  ⟨events, e, [], rfl, he, rfl, by simp⟩

lemma LatestBuild.concat (h : LatestBuild events key value) (he : ¬ e.Builds key) :
    LatestBuild (events ++ [e]) key value := by
  obtain ⟨front, e', back, rfl, he', hvalue, hback⟩ := h
  refine ⟨front, e', back ++ [e], by simp, he', hvalue, fun e'' hmem => ?_⟩
  rcases List.mem_append.1 hmem with hmem | hmem
  · exact hback e'' hmem
  · rwa [List.mem_singleton.1 hmem]

/-! ## What a call does to a cache -/

/-- The three things that a call can do. -/
inductive Serves (c : Cache α) (call : Call α) : Event α → Cache α → Prop
  /-- The key is held. -/
  | held {value : α} (hkey : c.find? call.key = some value) :
      Serves c call ⟨call, value, false, false⟩ c
  /-- There is room for the value of a key that is not held. -/
  | added (hkey : c.find? call.key = none) (hroom : c.size < c.limit) :
      Serves c call ⟨call, call.build call.key, true, false⟩
        ⟨c.limit, (call.key, call.build call.key) :: c.entries⟩
  /-- There is none, and everything else goes. -/
  | flushed (hkey : c.find? call.key = none) (hfull : c.limit ≤ c.size) :
      Serves c call ⟨call, call.build call.key, true, true⟩
        ⟨c.limit, [(call.key, call.build call.key)]⟩

lemma serves_serve (c : Cache α) (call : Call α) : c.Serves call (c.serve call).1 (c.serve call).2 := by
  cases hkey : c.find? call.key with
  | some value =>
      have hserve : c.serve call = (⟨call, value, false, false⟩, c) := by
        simp [serve, fetch, willFlush, hkey]
      rw [hserve]
      exact .held hkey
  | none =>
      by_cases hfull : c.limit ≤ c.size
      · have hserve : c.serve call = (⟨call, call.build call.key, true, true⟩,
            ⟨c.limit, [(call.key, call.build call.key)]⟩) := by
          simp [serve, fetch, willFlush, insert, hkey, hfull]
        rw [hserve]
        exact .flushed hkey hfull
      · have hserve : c.serve call = (⟨call, call.build call.key, true, false⟩,
            ⟨c.limit, (call.key, call.build call.key) :: c.entries⟩) := by
          simp [serve, fetch, willFlush, insert, hkey, hfull]
        rw [hserve]
        exact .added hkey (not_le.1 hfull)

/-- A cache for `m` values that holds what its history says: the keys that were asked for since the
last flush, each once and with the value of its latest build. -/
structure Reflects (m : Nat) (events : List (Event α)) (c : Cache α) : Prop where
  limit_eq : c.limit = m
  size_le : c.size ≤ m
  keys_nodup : (c.entries.map Prod.fst).Nodup
  keys_eq : c.keys = recentKeys events
  latest : ∀ entry ∈ c.entries, LatestBuild events entry.1 entry.2

lemma reflects_empty (limit : Nat) : Reflects (max limit 1) ([] : List (Event α)) (empty limit) where
  limit_eq := rfl
  size_le := Nat.zero_le _
  keys_nodup := List.nodup_nil
  keys_eq := rfl
  latest := by simp [empty]

/-- Each key is held once. -/
lemma Reflects.card_recentKeys (h : Reflects m events c) : (recentKeys events).card = c.size := by
  rw [← h.keys_eq, keys, List.toFinset_card_of_nodup h.keys_nodup, List.length_map, size]

lemma Reflects.find?_eq_none_iff (h : Reflects m events c) :
    c.find? key = none ↔ key ∉ recentKeys events := by
  rw [Cache.find?_eq_none_iff, ← h.keys_eq, keys, List.mem_toFinset]

/-- **One call** does what the history says, and the cache it leaves holds what the longer history
says. -/
theorem Reflects.serves {call : Call α} (h : Reflects m events c) (hm : 1 ≤ m)
    (hserves : c.Serves call e next) : IsNext m events e ∧ Reflects m (events ++ [e]) next := by
  cases hserves with
  | @held value hkey =>
      have hrecent : call.key ∈ recentKeys events := by
        by_contra hnot
        rw [h.find?_eq_none_iff.2 hnot] at hkey
        cases hkey
      have hbuilds : ∀ key, ¬ (⟨call, value, false, false⟩ : Event α).Builds key := by
        simp [Event.Builds]
      refine ⟨⟨by simpa using hrecent, by simp, ?_⟩, h.limit_eq, h.size_le, h.keys_nodup, ?_, ?_⟩
      · exact (h.latest _ (mem_entries_of_find? hkey)).concat (hbuilds _)
      · simp [h.keys_eq, hrecent]
      · exact fun entry hentry => (h.latest entry hentry).concat (hbuilds _)
  | added hkey hroom =>
      have hnew := Cache.find?_eq_none_iff.1 hkey
      have hcard := h.card_recentKeys
      have hlimit := h.limit_eq
      refine ⟨⟨?_, ?_, latestBuild_concat_self ⟨rfl, rfl⟩⟩, hlimit, ?_, ?_, ?_, ?_⟩
      · simpa using h.find?_eq_none_iff.1 hkey
      · simp
        omega
      · simp only [size, List.length_cons] at hroom ⊢
        omega
      · exact List.nodup_cons.2 ⟨hnew, h.keys_nodup⟩
      · simp [← h.keys_eq, keys]
      · refine List.forall_mem_cons.2 ⟨latestBuild_concat_self ⟨rfl, rfl⟩, fun entry hentry => ?_⟩
        refine (h.latest entry hentry).concat fun hbuilds => hnew ?_
        exact hbuilds.2 ▸ List.mem_map_of_mem hentry
  | flushed hkey hfull =>
      have hcard := h.card_recentKeys
      have hlimit := h.limit_eq
      have hsize := h.size_le
      refine ⟨⟨?_, ?_, latestBuild_concat_self ⟨rfl, rfl⟩⟩, hlimit, hm, by simp, ?_, ?_⟩
      · simpa using h.find?_eq_none_iff.1 hkey
      · simp
        omega
      · simp [keys]
      · simpa using latestBuild_concat_self ⟨rfl, rfl⟩

/-! ## Runs -/

/-- What a run adds to a history. -/
lemma Reflects.run (hm : 1 ≤ m) (h : Reflects m events c) (hhistory : History m events)
    (calls : List (Call α)) :
    (c.run calls).1.map Event.toCall = calls ∧ History m (events ++ (c.run calls).1) ∧
      Reflects m (events ++ (c.run calls).1) (c.run calls).2 := by
  induction calls generalizing c events with
  | nil => simpa [Cache.run] using ⟨hhistory, h⟩
  | cons call calls ih =>
      obtain ⟨hnext, hserved⟩ := h.serves hm (serves_serve c call)
      obtain ⟨hcalls, hall, hend⟩ := ih hserved (hhistory.concat hnext)
      rw [List.append_assoc] at hall hend
      exact ⟨congrArg (call :: ·) hcalls, hall, hend⟩

/-- **With few keys** nothing is flushed, so that each key is built when it is asked for first, and
never again. -/
lemma History.few_keys (h : History m events)
    (hfew : (events.map fun e => e.key).toFinset.card ≤ m) :
    (∀ e ∈ events, ¬ e.flushed) ∧ recentKeys events = (events.map fun e => e.key).toFinset ∧
      ∀ key, events.countP (fun e => e.Builds key) = if key ∈ recentKeys events then 1 else 0 := by
  induction h with
  | nil => simp [recentKeys]
  | @concat events e h hnext ih =>
      have hsub : (events.map fun e => e.key).toFinset
          ⊆ ((events ++ [e]).map fun e => e.key).toFinset := by simp
      obtain ⟨hflush, hrecent, hcount⟩ := ih ((Finset.card_le_card hsub).trans hfew)
      have hkeys : ((events ++ [e]).map fun e => e.key).toFinset = recentKeys events ∪ {e.key} := by
        simp [hrecent]
      have hnot : ¬ e.flushed := by
        intro hflushed
        obtain ⟨hbuilt, hfull⟩ := hnext.flushed_iff.1 hflushed
        -- the key of a call that flushes is one too many
        have hnew := Finset.disjoint_singleton_right.2 (hnext.built_iff.1 hbuilt)
        rw [hkeys, Finset.card_union_of_disjoint hnew, hfull, Finset.card_singleton] at hfew
        omega
      have hbuilds : ∀ key, e.Builds key ↔ key = e.key ∧ key ∉ recentKeys events := by
        intro key
        rw [Event.Builds, hnext.built_iff]
        constructor
        · rintro ⟨hnew, rfl⟩
          exact ⟨rfl, hnew⟩
        · rintro ⟨rfl, hnew⟩
          exact ⟨hnew, rfl⟩
      refine ⟨?_, ?_, fun key => ?_⟩
      · intro e' he'
        rcases List.mem_append.1 he' with he' | he'
        · exact hflush e' he'
        · rwa [List.mem_singleton.1 he']
      · rw [recentKeys_concat, if_neg hnot, hkeys]
      · rw [List.countP_append, hcount, recentKeys_concat, if_neg hnot]
        rcases eq_or_ne key e.key with rfl | hkey
        · by_cases hheld : e.key ∈ recentKeys events <;> simp [hbuilds, hheld]
        · simp [hbuilds, hkey]

/-- What the first calls do does not depend on the calls behind them. -/
lemma run_take (c : Cache α) (calls : List (Call α)) (k : Nat) :
    (c.run (calls.take k)).1 = (c.run calls).1.take k := by
  induction calls generalizing c k with
  | nil => simp [Cache.run]
  | cons call calls ih =>
      cases k with
      | zero => rfl
      | succ k => exact congrArg ((c.serve call).1 :: ·) (ih (c.serve call).2 k)

/-- **A cache is its history.**  Whatever is asked for in turn, the calls do what the calls before
them say, and after each of them the cache holds the keys that were asked for since the last flush.
With no more keys than it has room for, it builds each of them once and is never flushed. -/
theorem run_history (limit : Nat) (calls : List (Call α)) :
    ((empty limit).run calls).1.map Event.toCall = calls ∧
      History (max limit 1) ((empty limit).run calls).1 ∧
      (∀ k, Reflects (max limit 1) (((empty limit).run calls).1.take k)
        ((empty limit).run (calls.take k)).2) ∧
      ((calls.map Call.key).toFinset.card ≤ max limit 1 →
        (∀ e ∈ ((empty limit).run calls).1, ¬ e.flushed) ∧
          ∀ key ∈ calls.map Call.key,
            ((empty limit).run calls).1.countP (fun e => e.Builds key) = 1) := by
  have hrun (calls : List (Call α)) :=
    (reflects_empty limit).run (le_max_right limit 1) .nil calls
  simp only [List.nil_append] at hrun
  obtain ⟨hcalls, hhistory, -⟩ := hrun calls
  refine ⟨hcalls, hhistory, fun k => ?_, fun hfew => ?_⟩
  · rw [← run_take]
    exact (hrun (calls.take k)).2.2
  · have hkeys : ((empty limit).run calls).1.map (fun e => e.key) = calls.map Call.key := by
      rw [← congrArg (List.map Call.key) hcalls, List.map_map]
      rfl
    obtain ⟨hflush, hrecent, hcount⟩ := hhistory.few_keys (by rwa [hkeys])
    refine ⟨hflush, fun key hkey => ?_⟩
    rw [hcount, if_pos]
    rwa [hrecent, hkeys, List.mem_toFinset]

/-- Two keys, the first of them asked for again with another way to build. -/
def twoKeys : List (Call Nat) := [⟨['a'], fun _ => 1⟩, ⟨['b'], fun _ => 2⟩, ⟨['a'], fun _ => 3⟩]

theorem run_history_two_keys :
    (twoKeys.map Call.key).toFinset.card ≤ max 2 1 ∧
      (∀ e ∈ ((empty 2).run twoKeys).1, ¬ e.flushed) ∧
      (∀ key ∈ twoKeys.map Call.key,
        ((empty 2).run twoKeys).1.countP (fun e => e.Builds key) = 1) ∧
      ((empty 2).run twoKeys).1.map (fun e => e.value) = [1, 2, 1] := by
  obtain ⟨-, -, -, hfew⟩ := run_history 2 twoKeys
  have hkeys : (twoKeys.map Call.key).toFinset.card ≤ max 2 1 := by decide
  exact ⟨hkeys, (hfew hkeys).1, (hfew hkeys).2, by decide⟩

-- A cache for no value is one for a single value, which the other key always takes.
example : ((empty 0).run [⟨['a'], fun _ => 1⟩, ⟨['a'], fun _ => 2⟩, ⟨['b'], fun _ => 3⟩,
    ⟨['a'], fun _ => 4⟩]).1.map (fun e => (e.value, e.built, e.flushed))
    = [(1, true, false), (1, false, false), (3, true, true), (4, true, true)] := by
  decide

end Furigana.Cache
