import KotestOutline.Json
import Mathlib.Data.List.Induction
import Mathlib.Data.List.Nodup

/-!
# What a table holds

`Table.lastValue?` is the value of the last entry under a key. The table of some entries holds just
these values (`Table.mem_ofEntries_iff`) and repeats no key (`Table.nodup_keys_ofEntries`). Entries
that repeat no key are a table already (`Table.ofEntries_of_nodup`).

Sorting changes nothing about what a table holds, and forgets in which order it was listed
(`Table.sorted_eq_of_perm`).

A list that is searched by a key of its elements is a table too, where the key tells them apart
(`find?_key_eq_some_iff`).
-/

namespace KotestOutline

/-- Where a key tells the elements of a list apart, the first one with a value is the only one. -/
theorem find?_key_eq_some_iff {α β : Type} [BEq β] [LawfulBEq β] {key : α → β} {xs : List α}
    (hkey : ∀ x ∈ xs, ∀ y ∈ xs, key x = key y → x = y) {value : β} {x : α} :
    xs.find? (key · == value) = some x ↔ x ∈ xs ∧ key x = value := by
  constructor
  · intro h
    exact ⟨List.mem_of_find?_eq_some h, by simpa using List.find?_some h⟩
  · rintro ⟨hx, rfl⟩
    cases hfound : xs.find? (key · == key x) with
    | none =>
      have := List.find?_eq_none.1 hfound x hx
      simp at this
    | some y =>
      have hsame : key y = key x := by simpa using List.find?_some hfound
      rw [hkey y (List.mem_of_find?_eq_some hfound) x hx hsame]

namespace Table

variable {entries : List (String × String)} {key value : String}

/-- The value of the last entry under a key. -/
def lastValue? (entries : List (String × String)) (key : String) : Option String :=
  (entries.reverse.find? (·.1 == key)).map (·.2)

/-- An entry at the end counts for its key, and for no other. -/
theorem lastValue?_append_singleton (entries : List (String × String)) (k v : String) :
    lastValue? (entries ++ [(k, v)]) key = if k = key then some v else lastValue? entries key := by
  unfold lastValue?
  by_cases h : k = key <;> simp [h]

/-- Of two lists of entries, the second one counts where it has the key. -/
theorem lastValue?_append (front back : List (String × String)) :
    lastValue? (front ++ back) key = (lastValue? back key).or (lastValue? front key) := by
  rw [lastValue?, List.reverse_append, List.find?_append, Option.map_or]
  rfl

/-- A value that counts is one of an entry. -/
theorem mem_of_lastValue? (h : lastValue? entries key = some value) : (key, value) ∈ entries := by
  obtain ⟨⟨k, v⟩, hfound, rfl⟩ := Option.map_eq_some_iff.1 h
  obtain rfl : k = key := by simpa using List.find?_some hfound
  exact List.mem_reverse.1 (List.mem_of_find?_eq_some hfound)

/-- A key with an entry has a value that counts. -/
theorem exists_lastValue? (h : (key, value) ∈ entries) : ∃ v, lastValue? entries key = some v := by
  have hsome : (entries.reverse.find? (·.1 == key)).isSome = true := by
    rw [List.find?_isSome]
    exact ⟨(key, value), List.mem_reverse.2 h, beq_self_eq_true key⟩
  obtain ⟨e, he⟩ := Option.isSome_iff_exists.1 hsome
  exact ⟨e.2, by rw [lastValue?, he, Option.map_some]⟩

/-- A table has a new entry, and its old ones under the other keys. -/
theorem mem_put_iff {table : Table} {k v : String} :
    (key, value) ∈ put table k v ↔
      if k = key then value = v else (key, value) ∈ table := by
  unfold put
  by_cases h : k = key
  · simp [h]
  · simp [h, Ne.symm h]

/-- The table of some entries holds under each key the value of the last entry. By induction from
the end, where each entry is put. -/
theorem mem_ofEntries_iff :
    (key, value) ∈ ofEntries entries ↔ lastValue? entries key = some value := by
  induction entries using List.reverseRecOn with
  | nil => simp [ofEntries, lastValue?]
  | append_singleton entries e ih =>
    obtain ⟨k, v⟩ := e
    have hput : ofEntries (entries ++ [(k, v)]) = put (ofEntries entries) k v := by
      simp [ofEntries]
    rw [hput, mem_put_iff, lastValue?_append_singleton]
    by_cases h : k = key
    · simp [h, eq_comm]
    · simp [h, ih]

/-- Entries without repeated keys are a table already. -/
theorem ofEntries_of_nodup (h : (entries.map Prod.fst).Nodup) : ofEntries entries = entries := by
  induction entries using List.reverseRecOn with
  | nil => rfl
  | append_singleton entries e ih =>
    obtain ⟨k, v⟩ := e
    rw [List.map_append, List.nodup_append] at h
    obtain ⟨hnodup, -, hnew⟩ := h
    have hput : ofEntries (entries ++ [(k, v)]) = put (ofEntries entries) k v := by
      simp [ofEntries]
    rw [hput, ih hnodup, put, List.filter_eq_self.2]
    intro e he
    exact bne_iff_ne.2 (hnew e.1 (List.mem_map_of_mem he) k List.mem_cons_self)

/-- The table of some entries repeats no key: an entry that is put stands for the earlier ones. -/
theorem nodup_keys_ofEntries (entries : List (String × String)) :
    ((ofEntries entries).map Prod.fst).Nodup := by
  induction entries using List.reverseRecOn with
  | nil => exact List.nodup_nil
  | append_singleton entries e ih =>
    have hput : ofEntries (entries ++ [e]) = put (ofEntries entries) e.1 e.2 := by
      simp [ofEntries]
    have hothers : (((ofEntries entries).filter (·.1 != e.1)).map Prod.fst).Nodup :=
      ih.sublist (List.filter_sublist.map Prod.fst)
    rw [hput, put, List.map_append, List.nodup_append]
    refine ⟨hothers, List.nodup_singleton _, ?_⟩
    intro key hkey other hother
    obtain ⟨entry, hentry, rfl⟩ := List.mem_map.1 hkey
    obtain rfl : other = e.1 := List.mem_singleton.1 hother
    exact bne_iff_ne.1 (List.mem_filter.1 hentry).2

/-- Where each key has one entry, that entry counts. -/
theorem lastValue?_of_mem (hkeys : (entries.map Prod.fst).Nodup) (h : (key, value) ∈ entries) :
    lastValue? entries key = some value := by
  rw [← mem_ofEntries_iff, ofEntries_of_nodup hkeys]
  exact h

/-! ### Sorting -/

/-- Sorting a table moves its entries only. -/
theorem sorted_perm (table : Table) : (sorted table).Perm table :=
  List.mergeSort_perm table _

/-- A sorted table has the entries it had. -/
@[simp] theorem mem_sorted_iff {table : Table} {e : String × String} :
    e ∈ sorted table ↔ e ∈ table := by
  simp [sorted]

/-- A sorted table has each key once if it had before. -/
theorem nodup_keys_sorted {table : Table} (hkeys : (table.map Prod.fst).Nodup) :
    ((sorted table).map Prod.fst).Nodup :=
  ((sorted_perm table).map Prod.fst).nodup_iff.2 hkeys

/-- The keys of a sorted table ascend. -/
theorem pairwise_le_sorted (table : Table) : (sorted table).Pairwise (·.1 ≤ ·.1) := by
  have hsorted := List.pairwise_mergeSort
    (fun (a b c : String × String) (hab : decide (a.1 ≤ b.1) = true)
      (hbc : decide (b.1 ≤ c.1) = true) =>
        decide_eq_true (String.le_trans (of_decide_eq_true hab) (of_decide_eq_true hbc)))
    (fun a b => by simpa using String.le_total a.1 b.1) table
  exact hsorted.imp of_decide_eq_true

/-- Where no key is repeated the keys ascend strictly. -/
theorem pairwise_lt_sorted {table : Table} (hkeys : (table.map Prod.fst).Nodup) :
    (sorted table).Pairwise (·.1 < ·.1) := by
  have hne : (sorted table).Pairwise (·.1 ≠ ·.1) := List.pairwise_map.1 (nodup_keys_sorted hkeys)
  refine (pairwise_le_sorted table).imp₂ (fun a b hle hne => ?_) hne
  by_contra hnot
  exact hne (String.le_antisymm hle (String.not_lt.1 hnot))

/-- **Sorting forgets the order**, where no key is repeated. -/
theorem sorted_eq_of_perm {table other : Table} (h : table.Perm other)
    (hkeys : (table.map Prod.fst).Nodup) : sorted table = sorted other := by
  have hperm : (sorted table).Perm (sorted other) :=
    (sorted_perm table).trans (h.trans (sorted_perm other).symm)
  apply List.Perm.eq_of_pairwise _ (pairwise_le_sorted table) (pairwise_le_sorted other) hperm
  intro a b ha hb hab hba
  have hb' : b ∈ table := h.mem_iff.2 (mem_sorted_iff.1 hb)
  exact List.inj_on_of_nodup_map hkeys (mem_sorted_iff.1 ha) hb' (String.le_antisymm hab hba)

end Table

end KotestOutline
