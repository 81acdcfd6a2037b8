import KnxBus.GroupCache.Table

/-!
# The entries of a cache are a map

The entries of a cache stand in ascending order of their groups, and an address is looked for by
halving.  Halving finds the border between the groups below an address and all others, provided that
there is one border only, which is what the order says.  So every operation first cuts the entries
there.  What stands behind the cut is either for that very address or above it (`Cut`), and all that
is known of searching, inserting and removing is read off the cut.

Inserting and removing keep the order.  Seen from outside, therefore, a table is a map from groups to
entries: what `get?` finds is what is there, `insert` replaces or adds one group, `erase` forgets one.
-/

namespace KnxBus

/-- Entries in ascending order of their groups, no group twice. -/
def Ascending (entries : List CacheEntry) : Prop :=
  entries.Pairwise fun a b => a.group.raw < b.group.raw

theorem GroupAddress.eq_of_raw_eq {g g' : GroupAddress} (h : g.raw = g'.raw) : g = g' := by
  cases g
  cases g'
  exact congrArg GroupAddress.mk h

/-- Inserting behind some elements. -/
theorem insertIdx_length_append (low high : List CacheEntry) (e : CacheEntry) :
    (low ++ high).insertIdx low.length e = low ++ e :: high := by
  induction low with
  | nil => rfl
  | cons a low ih => exact congrArg (a :: ·) ih

namespace CacheTable

variable {t : CacheTable} {g : GroupAddress}

/-- The entries are in ascending order. -/
def Sorted (t : CacheTable) : Prop := Ascending t.toList

theorem empty_sorted : empty.Sorted := List.Pairwise.nil

/-! ## Halving -/

/-- A place before which all groups are below the given one, and from which on none is. -/
def IsBorder (t : CacheTable) (g : GroupAddress) (place : Nat) : Prop :=
  place ≤ t.toList.length ∧
    (∀ e ∈ t.toList.take place, e.group.raw < g.raw) ∧
      ∀ e ∈ t.toList.drop place, ¬ e.group.raw < g.raw

/-- If the entry at a place is below a group, so are all entries before it. -/
theorem Sorted.below_of_lt (h : t.Sorted) {i : Nat} {e : CacheEntry} (he : t.toList[i]? = some e)
    (hlt : e.group.raw < g.raw) : ∀ x ∈ t.toList.take (i + 1), x.group.raw < g.raw := by
  intro x hx
  obtain ⟨hi, rfl⟩ := List.getElem?_eq_some_iff.1 he
  rw [List.take_add_one, he] at hx
  obtain hbefore | hlast := List.mem_append.1 hx
  · have hsplit : Ascending (t.toList.take i ++ t.toList.drop i) := by
      rw [List.take_append_drop]
      exact h
    refine UInt16.lt_trans ((List.pairwise_append.1 hsplit).2.2 x hbefore _ ?_) hlt
    rw [List.drop_eq_getElem_cons hi]
    exact List.mem_cons_self
  · rw [Option.toList_some, List.mem_singleton] at hlast
    rw [hlast]
    exact hlt

/-- If the entry at a place is not below a group, no entry from there on is. -/
theorem Sorted.not_below_of_not_lt (h : t.Sorted) {i : Nat} {e : CacheEntry}
    (he : t.toList[i]? = some e) (hlt : ¬ e.group.raw < g.raw) :
    ∀ x ∈ t.toList.drop i, ¬ x.group.raw < g.raw := by
  intro x hx hbelow
  obtain ⟨hi, rfl⟩ := List.getElem?_eq_some_iff.1 he
  have hrest : Ascending (t.toList.drop i) := List.Pairwise.sublist (List.drop_sublist i _) h
  rw [List.drop_eq_getElem_cons hi] at hx hrest
  obtain rfl | hlater := List.mem_cons.1 hx
  · exact hlt hbelow
  · exact hlt (UInt16.lt_trans ((List.pairwise_cons.1 hrest).1 x hlater) hbelow)

/-- Halving keeps the border between the two ends of what is left, and ends at it. -/
theorem Sorted.placeBetween_isBorder (h : t.Sorted) (g : GroupAddress) (lo hi : Nat)
    (hle : lo ≤ hi) (hhi : hi ≤ t.toList.length)
    (hbelow : ∀ e ∈ t.toList.take lo, e.group.raw < g.raw)
    (habove : ∀ e ∈ t.toList.drop hi, ¬ e.group.raw < g.raw) :
    t.IsBorder g (t.placeBetween g lo hi) := by
  fun_induction placeBetween t g lo hi with
  | case1 lo hi hlt middle e he hless ih =>
    have hmiddle : t.toList[middle]? = some e := by
      rw [← he]
      exact Array.getElem?_toList
    exact ih (by omega) hhi (h.below_of_lt hmiddle hless) habove
  | case2 lo hi hlt middle e he hnotless ih =>
    have hmiddle : t.toList[middle]? = some e := by
      rw [← he]
      exact Array.getElem?_toList
    exact ih (by omega) (by omega) hbelow (h.not_below_of_not_lt hmiddle hnotless)
  | case3 lo hi hlt middle hnone =>
    -- there is an entry at every place before the end
    have hmiddle : t.toList[middle]? = none := by
      rw [← hnone]
      exact Array.getElem?_toList
    have hlength := List.getElem?_eq_none_iff.1 hmiddle
    omega
  | case4 lo hi hlt =>
    have heq : lo = hi := by omega
    exact ⟨heq ▸ hhi, hbelow, heq ▸ habove⟩

theorem Sorted.place_isBorder (h : t.Sorted) (g : GroupAddress) : t.IsBorder g (t.place g) :=
  h.placeBetween_isBorder g 0 t.toList.length (Nat.zero_le _) (Nat.le_refl _)
    (fun _ he => absurd he List.not_mem_nil) fun e he => by simp at he

/-! ## The cut at a group -/

/-- The entries are those below a group, its own if it has one, and those above it, and the first of
them end where it is looked for. -/
structure Cut (t : CacheTable) (g : GroupAddress) (low : List CacheEntry)
    (found : Option CacheEntry) (high : List CacheEntry) : Prop where
  /-- These are all entries. -/
  toList_eq : t.toList = low ++ (found.toList ++ high)
  /-- The place that is looked at. -/
  place_eq : t.place g = low.length
  /-- What is found is for the group. -/
  group_eq : ∀ e, found = some e → e.group = g
  /-- The entries before it. -/
  below : ∀ e ∈ low, e.group.raw < g.raw
  /-- The entries after it. -/
  above : ∀ e ∈ high, g.raw < e.group.raw

/-- Entries in order have a cut at every group. -/
theorem Sorted.cut (h : t.Sorted) (g : GroupAddress) : ∃ low found high, t.Cut g low found high := by
  obtain ⟨hplace, hbelow, habove⟩ := h.place_isBorder g
  have hlow : (t.toList.take (t.place g)).length = t.place g := List.length_take_of_le hplace
  have hsplit := (List.take_append_drop (t.place g) t.toList).symm
  have hrest : Ascending (t.toList.drop (t.place g)) :=
    List.Pairwise.sublist (List.drop_sublist _ _) h
  cases hdrop : t.toList.drop (t.place g) with
  | nil =>
    rw [hdrop] at hsplit
    exact ⟨_, none, [], hsplit, hlow.symm, nofun, hbelow, fun x hx => absurd hx List.not_mem_nil⟩
  | cons e high =>
    rw [hdrop] at hsplit hrest habove
    have hlater := (List.pairwise_cons.1 hrest).1
    by_cases heq : e.group = g
    · refine ⟨_, some e, high, hsplit, hlow.symm, ?_, hbelow, fun x hx => heq ▸ hlater x hx⟩
      rintro _ ⟨⟩
      exact heq
    · have hne : g.raw ≠ e.group.raw := fun h => heq (GroupAddress.eq_of_raw_eq h.symm)
      have hless : g.raw < e.group.raw :=
        UInt16.lt_of_le_of_ne (UInt16.not_lt.1 (habove e List.mem_cons_self)) hne
      refine ⟨_, none, e :: high, hsplit, hlow.symm, nofun, hbelow, fun x hx => ?_⟩
      obtain rfl | hx := List.mem_cons.1 hx
      · exact hless
      · exact UInt16.lt_trans hless (hlater x hx)

section
variable {low high : List CacheEntry} {found : Option CacheEntry}

/-- What is neither before nor after the cut is found in it. -/
theorem Cut.mem_others (c : t.Cut g low found high) {x : CacheEntry} :
    x ∈ low ++ high ↔ x ∈ t.toList ∧ x.group ≠ g := by
  have hothers : x ∈ low ++ high → x.group ≠ g := by
    rintro hx rfl
    exact (List.mem_append.1 hx).elim (fun hx => UInt16.lt_irrefl _ (c.below x hx))
      fun hx => UInt16.lt_irrefl _ (c.above x hx)
  rw [c.toList_eq]
  cases hfound : found with
  | none => exact (and_iff_left_of_imp hothers).symm
  | some e =>
    have hall : x ∈ low ++ e :: high ↔ x = e ∨ x ∈ low ++ high :=
      List.perm_middle.mem_iff.trans List.mem_cons
    have hgroup : x = e → ¬ x.group ≠ g := fun heq hne => hne (heq ▸ c.group_eq e hfound)
    change _ ↔ x ∈ low ++ e :: high ∧ _
    rw [hall, or_and_right, or_iff_right fun h => hgroup h.1 h.2]
    exact (and_iff_left_of_imp hothers).symm

theorem Cut.ascending_others (c : t.Cut g low found high) (h : t.Sorted) :
    Ascending (low ++ high) := by
  have hall : Ascending (low ++ (found.toList ++ high)) := c.toList_eq ▸ h
  exact hall.sublist ((List.sublist_append_right _ _).append_left low)

theorem Cut.entryAt?_eq (c : t.Cut g low found high) : t.entryAt? (t.place g) g = found := by
  have hget : t.entries[t.place g]? = (found.toList ++ high).head? := by
    rw [← Array.getElem?_toList]
    change t.toList[t.place g]? = _
    rw [c.place_eq, c.toList_eq, List.getElem?_append_right (Nat.le_refl _), Nat.sub_self,
      List.head?_eq_getElem?]
  unfold entryAt?
  rw [hget]
  cases hfound : found with
  | some e => exact if_pos (c.group_eq e hfound)
  | none =>
    cases hhigh : high with
    | nil => rfl
    | cons x rest =>
      have hx : x ∈ low ++ high := by
        rw [hhigh]
        exact List.mem_append_right low List.mem_cons_self
      exact if_neg (c.mem_others.1 hx).2

/-- An entry replaces the one that is found, or stands where it is missed. -/
theorem Cut.toList_insert {e : CacheEntry} (c : t.Cut e.group low found high) :
    (t.insert e).toList = low ++ e :: high := by
  have hentry : t.entryAt? low.length e.group = found := c.place_eq ▸ c.entryAt?_eq
  unfold insert
  simp only [c.place_eq, hentry]
  cases hfound : found with
  | some old =>
    change (t.entries.setIfInBounds low.length e).toList = _
    rw [Array.toList_setIfInBounds]
    change t.toList.set low.length e = _
    rw [c.toList_eq, hfound, List.set_append_right _ _ (Nat.le_refl _), Nat.sub_self]
    rfl
  | none =>
    have hplace : low.length ≤ t.entries.size := by
      change low.length ≤ t.toList.length
      rw [c.toList_eq, List.length_append]
      exact Nat.le_add_right _ _
    change (t.entries.insertIdxIfInBounds low.length e).toList = _
    rw [Array.insertIdxIfInBounds, dif_pos hplace, Array.toList_insertIdx]
    change t.toList.insertIdx low.length e = _
    rw [c.toList_eq, hfound]
    exact insertIdx_length_append low high e

/-- What is found is removed. -/
theorem Cut.toList_erase (c : t.Cut g low found high) : (t.erase g).toList = low ++ high := by
  have hentry : t.entryAt? low.length g = found := c.place_eq ▸ c.entryAt?_eq
  unfold erase
  simp only [c.place_eq, hentry]
  cases hfound : found with
  | some old =>
    change (t.entries.eraseIdxIfInBounds low.length).toList = _
    rw [Array.toList_eraseIdxIfInBounds]
    change t.toList.eraseIdx low.length = _
    rw [c.toList_eq, hfound, List.eraseIdx_append_of_length_le (Nat.le_refl _), Nat.sub_self]
    rfl
  | none =>
    change t.toList = _
    rw [c.toList_eq, hfound]
    rfl

end

/-! ## Seen from outside -/

/-- **Searching finds what is there.** -/
theorem Sorted.get?_eq_some (h : t.Sorted) {e : CacheEntry} :
    t.get? g = some e ↔ e ∈ t.toList ∧ e.group = g := by
  obtain ⟨low, found, high, c⟩ := h.cut g
  rw [get?, c.entryAt?_eq]
  constructor
  · rintro rfl
    refine ⟨?_, c.group_eq e rfl⟩
    rw [c.toList_eq]
    exact List.mem_append_right low List.mem_cons_self
  · rintro ⟨he, hgroup⟩
    rw [c.toList_eq] at he
    obtain hlow | hrest := List.mem_append.1 he
    · exact absurd hgroup (c.mem_others.1 (List.mem_append_left high hlow)).2
    · obtain hfound | hhigh := List.mem_append.1 hrest
      · exact Option.mem_toList.1 hfound
      · exact absurd hgroup (c.mem_others.1 (List.mem_append_right low hhigh)).2

theorem Sorted.mem_insert (h : t.Sorted) {e x : CacheEntry} :
    x ∈ (t.insert e).toList ↔ x = e ∨ x ∈ t.toList ∧ x.group ≠ e.group := by
  obtain ⟨low, found, high, c⟩ := h.cut e.group
  rw [c.toList_insert, List.perm_middle.mem_iff, List.mem_cons, c.mem_others]

theorem Sorted.mem_erase (h : t.Sorted) {x : CacheEntry} :
    x ∈ (t.erase g).toList ↔ x ∈ t.toList ∧ x.group ≠ g := by
  obtain ⟨low, found, high, c⟩ := h.cut g
  rw [c.toList_erase, c.mem_others]

theorem Sorted.insert (h : t.Sorted) (e : CacheEntry) : (t.insert e).Sorted := by
  obtain ⟨low, found, high, c⟩ := h.cut e.group
  obtain ⟨hlow, hhigh, hbetween⟩ := List.pairwise_append.1 (c.ascending_others h)
  have hlater : Ascending (e :: high) := List.pairwise_cons.2 ⟨c.above, hhigh⟩
  have hall : Ascending (low ++ e :: high) := by
    refine List.pairwise_append.2 ⟨hlow, hlater, fun a ha b hb => ?_⟩
    obtain rfl | hb := List.mem_cons.1 hb
    · exact c.below a ha
    · exact hbetween a ha b hb
  rw [← c.toList_insert] at hall
  exact hall

theorem Sorted.erase (h : t.Sorted) (g : GroupAddress) : (t.erase g).Sorted := by
  obtain ⟨low, found, high, c⟩ := h.cut g
  have hothers := c.ascending_others h
  rw [← c.toList_erase] at hothers
  exact hothers

theorem get?_empty : empty.get? g = none := by
  rw [Option.eq_none_iff_forall_ne_some]
  exact fun e he => absurd (empty_sorted.get?_eq_some.1 he).1 List.not_mem_nil

theorem Sorted.get?_insert (h : t.Sorted) (e : CacheEntry) (g : GroupAddress) :
    (t.insert e).get? g = if g = e.group then some e else t.get? g := by
  ext x
  rw [(h.insert e).get?_eq_some, h.mem_insert]
  split
  · rename_i hg
    subst hg
    rw [Option.some_inj]
    constructor
    · rintro ⟨rfl | ⟨-, hne⟩, hgroup⟩
      · rfl
      · exact absurd hgroup hne
    · rintro rfl
      exact ⟨.inl rfl, rfl⟩
  · rename_i hg
    rw [h.get?_eq_some]
    constructor
    · rintro ⟨rfl | ⟨hx, -⟩, hgroup⟩
      · exact absurd hgroup.symm hg
      · exact ⟨hx, hgroup⟩
    · rintro ⟨hx, rfl⟩
      exact ⟨.inr ⟨hx, hg⟩, rfl⟩

theorem Sorted.get?_erase (h : t.Sorted) (g g' : GroupAddress) :
    (t.erase g).get? g' = if g' = g then none else t.get? g' := by
  ext x
  rw [(h.erase g).get?_eq_some, h.mem_erase]
  split
  · rename_i hg
    subst hg
    exact ⟨fun ⟨⟨_, hne⟩, hgroup⟩ => absurd hgroup hne, nofun⟩
  · rename_i hg
    rw [h.get?_eq_some]
    constructor
    · rintro ⟨⟨hx, -⟩, hgroup⟩
      exact ⟨hx, hgroup⟩
    · rintro ⟨hx, rfl⟩
      exact ⟨⟨hx, hg⟩, rfl⟩

end CacheTable
end KnxBus
