import Stencil.Text.Basic

/-!
# The cache of compiled templates

A bounded map from names to compiled templates that drops the least recently used entry when it is
full. The entries are a list from the least to the most recently used one, so the order of use is the
order of the list.

## Main definitions

- `Cache` — the entries, the bound and the counts of hits, misses and evictions
- `Cache.lookup`, `Cache.insert`, `Cache.invalidate`, `Cache.clear` — the operations
- `Cache.stats` — what can be asked about a cache
- `Cache.Event` — what an operation reports to the log
-/

namespace Stencil

namespace Cache

/-- A value under its key, with the number of lookups that found it. -/
structure Entry (α : Type) where
  key : Text
  value : α
  uses : Nat := 0

/-- What an operation reports. -/
inductive Event where
  | hit (key : Text)
  | miss (key : Text)
  | evicted (key : Text)
  | invalidated (key : Text)

end Cache

/-- A bounded map with its history in numbers. `entries` runs from the least to the most recently
used entry. -/
structure Cache (α : Type) where
  capacity : Nat
  entries : List (Cache.Entry α) := []
  hits : Nat := 0
  misses : Nat := 0
  evictions : Nat := 0

namespace Cache

variable {α : Type}

def empty (capacity : Nat) : Cache α :=
  { capacity }

/-- The keys from the least to the most recently used one. -/
def keys (c : Cache α) : List Text :=
  c.entries.map (·.key)

def size (c : Cache α) : Nat :=
  c.entries.length

def find? (c : Cache α) (key : Text) : Option (Entry α) :=
  c.entries.find? (·.key == key)

def contains (c : Cache α) (key : Text) : Bool :=
  (c.find? key).isSome

/-- The entries under other keys, in their order. -/
def others (c : Cache α) (key : Text) : List (Entry α) :=
  c.entries.filter (·.key != key)

/-- A lookup that finds nothing. -/
def miss (c : Cache α) : Cache α :=
  { c with misses := c.misses + 1 }

/-- Look a key up. A hit makes its entry the most recently used one. -/
def lookup (c : Cache α) (key : Text) : Option α × Cache α :=
  match c.find? key with
  | none => (none, c.miss)
  | some entry =>
    (some entry.value,
      { c with
        entries := c.others key ++ [{ entry with uses := entry.uses + 1 }]
        hits := c.hits + 1 })

/-- The keys that an insertion of `key` drops: the least recently used ones beyond the bound. -/
def overflow (c : Cache α) (key : Text) : List Text :=
  let grown := (c.others key).map (·.key) ++ [key]
  grown.take (grown.length - c.capacity)

/-- Store a value as the most recently used one and drop what exceeds the bound. -/
def insert (c : Cache α) (key : Text) (value : α) : Cache α :=
  let fresh : Entry α := { key, value }
  let grown := c.others key ++ [fresh]
  let excess := grown.length - c.capacity
  { c with entries := grown.drop excess, evictions := c.evictions + excess }

/-- Remove one entry, and say whether it was there. -/
def invalidate (c : Cache α) (key : Text) : Bool × Cache α :=
  (c.contains key, { c with entries := c.others key })

def clear (c : Cache α) : Cache α :=
  { c with entries := [] }

/-- The share of `part` in `total`, zero if there is nothing to share. -/
def ratio (part total : Nat) : Float :=
  if total = 0 then 0.0 else Float.ofNat part / Float.ofNat total

/-- The share of lookups that found their key. -/
def hitRate (c : Cache α) : Float :=
  ratio c.hits (c.hits + c.misses)

/-- A cache in numbers. -/
structure Stats where
  entries : Nat
  capacity : Nat
  hits : Nat
  misses : Nat
  evictions : Nat
  hitRate : Float

def stats (c : Cache α) : Stats where
  entries := c.size
  capacity := c.capacity
  hits := c.hits
  misses := c.misses
  evictions := c.evictions
  hitRate := c.hitRate

end Cache

end Stencil
