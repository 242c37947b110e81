import Mathlib
import Furigana.Cache

/-!
# What a cache holds

A cache that is only fetched from with one `build` holds nothing but what `build` makes of its keys.
`Cache.Sound` is that invariant together with the bound on the size; `Cache.fetch` keeps it, whether
the key is held, is added, or flushes the cache first.
-/

namespace Furigana.Cache

variable {α : Type} {build : Text → α} {limit : Nat} {c : Cache α}

/-! ## Keys -/

/-- A value that is found is held for its key. -/
lemma mem_entries_of_find? {key : Text} {value : α} (h : c.find? key = some value) :
    (key, value) ∈ c.entries := by
  rw [find?, List.lookup_eq_some_iff] at h
  obtain ⟨front, back, hentries, _⟩ := h
  simp [hentries]

lemma find?_eq_none_iff {key : Text} : c.find? key = none ↔ key ∉ c.entries.map Prod.fst := by
  simp only [find?, List.lookup_eq_none_iff, bne_iff_ne, List.mem_map, not_exists, not_and]
  exact forall₂_congr fun _ _ => ne_comm

/-! ## One way to build -/

/-- A cache of at most `limit` values, each the one that `build` makes of its key. -/
structure Sound (build : Text → α) (limit : Nat) (c : Cache α) : Prop where
  limit_eq : c.limit = limit
  size_le : c.size ≤ limit
  keys_nodup : (c.entries.map Prod.fst).Nodup
  value_eq : ∀ e ∈ c.entries, e.2 = build e.1

lemma sound_empty (build : Text → α) {limit : Nat} (h : 1 ≤ limit) :
    Sound build limit (empty limit) where
  limit_eq := max_eq_left h
  size_le := Nat.zero_le limit
  keys_nodup := List.nodup_nil
  value_eq := by simp [empty]

/-- A value that is held is the one that would be made. -/
lemma Sound.eq_build_of_find? (h : Sound build limit c) {key : Text} {value : α}
    (hfind : c.find? key = some value) : value = build key :=
  h.value_eq (key, value) (mem_entries_of_find? hfind)

/-- Adding the value of a new key keeps the invariant, with and without a flush. -/
lemma Sound.insert (h : Sound build limit c) (hlimit : 1 ≤ limit) {key : Text}
    (hkey : c.find? key = none) : Sound build limit (c.insert key (build key)) := by
  rw [Cache.insert, h.limit_eq]
  split_ifs with hfull
  · exact ⟨rfl, by simpa [size] using hlimit, by simp, by simp⟩
  · refine ⟨rfl, ?_, List.nodup_cons.2 ⟨find?_eq_none_iff.1 hkey, h.keys_nodup⟩, ?_⟩
    · simp only [size, List.length_cons] at hfull ⊢
      omega
    · intro e he
      rcases List.mem_cons.1 he with rfl | he
      · rfl
      · exact h.value_eq e he

/-- **One fetch.**  The value is the one that `build` makes, and the invariant is kept. -/
theorem Sound.fetch (h : Sound build limit c) (hlimit : 1 ≤ limit) (key : Text) :
    (c.fetch key build).1 = build key ∧ Sound build limit (c.fetch key build).2 := by
  rw [Cache.fetch]
  cases hfind : c.find? key with
  | some value => exact ⟨h.eq_build_of_find? hfind, h⟩
  | none => exact ⟨rfl, h.insert hlimit hfind⟩

end Furigana.Cache
