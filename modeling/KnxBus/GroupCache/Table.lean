import KnxBus.Address
import KnxBus.Octets

/-!
# The entries of a group cache

For each group address at most one entry says which value was seen last, who sent it and when.  The
entries stand in an array in ascending order of their groups, so an address is found by halving: the
place of an address is that of the first entry whose group is not below it.  Whether the entry there
is for that very address decides between replacing and inserting.
-/

namespace KnxBus

/-- The value seen last for a group. -/
structure CacheEntry where
  /-- The group. -/
  group : GroupAddress
  /-- Who sent the value; unset if nobody answered. -/
  source : IndividualAddress
  /-- The application layer octets that carried it. -/
  apdu : Octets
  /-- When it was seen. -/
  received : Nat
  deriving DecidableEq, Repr

namespace CacheEntry

/-- The entry of a group about which nothing is known. -/
def unknown (group : GroupAddress) (now : Nat) : CacheEntry := ⟨group, .unset, [], now⟩

/-- Whether nobody has sent a value. -/
def isUnknown (e : CacheEntry) : Bool := e.source.isUnset

/-- How long ago the value was seen. -/
def age (e : CacheEntry) (now : Nat) : Nat := now - e.received

end CacheEntry

/-- The entries of a cache, in ascending order of their groups. -/
structure CacheTable where
  /-- The entries. -/
  entries : Array CacheEntry
  deriving DecidableEq, Repr

namespace CacheTable

/-- No entries. -/
def empty : CacheTable := ⟨#[]⟩

/-- The entries in order. -/
def toList (t : CacheTable) : List CacheEntry := t.entries.toList

/-- The place of the first entry from `lo` on and before `hi` whose group is not below the given
one. -/
def placeBetween (t : CacheTable) (g : GroupAddress) (lo hi : Nat) : Nat :=
  if lo < hi then
    let middle := lo + (hi - lo) / 2
    match t.entries[middle]? with
    | some e =>
      if e.group.raw < g.raw then placeBetween t g (middle + 1) hi else placeBetween t g lo middle
    | none => lo
  else lo
termination_by hi - lo

/-- The place of a group: where its entry is, or where it would have to be. -/
def place (t : CacheTable) (g : GroupAddress) : Nat := t.placeBetween g 0 t.entries.size

/-- The entry at a place, if it is for the given group. -/
def entryAt? (t : CacheTable) (place : Nat) (g : GroupAddress) : Option CacheEntry :=
  match t.entries[place]? with
  | some e => if e.group = g then some e else none
  | none => none

/-- The entry of a group. -/
def get? (t : CacheTable) (g : GroupAddress) : Option CacheEntry := t.entryAt? (t.place g) g

/-- Replaces the entry of a group, or adds one. -/
def insert (t : CacheTable) (e : CacheEntry) : CacheTable :=
  let place := t.place e.group
  if (t.entryAt? place e.group).isSome then ⟨t.entries.setIfInBounds place e⟩
  else ⟨t.entries.insertIdxIfInBounds place e⟩

/-- Removes the entry of a group, if there is one. -/
def erase (t : CacheTable) (g : GroupAddress) : CacheTable :=
  let place := t.place g
  if (t.entryAt? place g).isSome then ⟨t.entries.eraseIdxIfInBounds place⟩ else t

end CacheTable
end KnxBus
