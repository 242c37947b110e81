import Furigana.Text

/-!
# A keyed cache that is flushed when full

Compiling a list of forms or pairs is a function of the text it is written with, so the results are
kept by that text.  A cache never holds more than its limit: when a value has to be added to a full
one, everything else goes first.

* `Cache.fetch` — the value for a key, made only if the cache does not hold it;
* `Cache.WillFlush` — when a fetch empties the cache.
-/

namespace Furigana

/-- Values by key, latest first, with the greatest number of them. -/
structure Cache (α : Type) where
  limit : Nat
  entries : List (Text × α)

namespace Cache

variable {α : Type}

/-- The number of values that a cache holds unless another limit is given. -/
def defaultLimit : Nat := 64

/-- An empty cache.  It holds at least one value whatever the limit. -/
def empty (limit : Nat) : Cache α := ⟨max limit 1, []⟩

/-- The number of values held. -/
def size (c : Cache α) : Nat := c.entries.length

/-- The value held for a key. -/
def find? (c : Cache α) (key : Text) : Option α := c.entries.lookup key

/-- Whether fetching a key empties the cache: the key is not held and no room is left. -/
def willFlush (c : Cache α) (key : Text) : Bool := (c.find? key).isNone && c.limit ≤ c.size

/-- Adds a value for a key that is not held, to an emptied cache if no room is left. -/
def insert (c : Cache α) (key : Text) (value : α) : Cache α :=
  if c.limit ≤ c.size then ⟨c.limit, [(key, value)]⟩ else ⟨c.limit, (key, value) :: c.entries⟩

/-- The value for a key, made by `build` if it is not held. -/
def fetch (c : Cache α) (key : Text) (build : Text → α) : α × Cache α :=
  match c.find? key with
  | some value => (value, c)
  | none => (build key, c.insert key (build key))

end Cache

end Furigana
