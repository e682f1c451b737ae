import ActionLauncher.Table

namespace ActionLauncher.Table

variable {key value : String} {entries : List (String × String)}

theorem lookup_put (key value other : String) (entries : List (String × String)) :
    (put key value entries).lookup other =
      if other = key then some value else entries.lookup other := by
  induction entries with
  | nil =>
      by_cases h : other = key
      · simp [put, h]
      · simp [put, h, List.lookup_cons, beq_false_of_ne h]
  | cons entry rest ih =>
      obtain ⟨k, v⟩ := entry
      by_cases hk : k = key
      · subst hk
        by_cases h : other = k
        · simp [put, h]
        · simp [put, h, List.lookup_cons, beq_false_of_ne h]
      · by_cases h : other = k
        · subst h
          simp [put, hk]
        · simp [put, hk, List.lookup_cons, beq_false_of_ne h, ih]

theorem put_of_not_mem (h : key ∉ entries.map Prod.fst) :
    put key value entries = entries ++ [(key, value)] := by
  induction entries with
  | nil => rfl
  | cons entry rest ih =>
      rw [List.map_cons, List.mem_cons, not_or] at h
      rw [put, if_neg (Ne.symm h.1), ih h.2, List.cons_append]

theorem ext {a b : Table} (h : a.entries = b.entries) : a = b := by
  cases a
  cases b
  simp_all

theorem get?_insert (table : Table) (key value other : String) :
    (table.insert key value).get? other =
      if other = key then some value else table.get? other :=
  lookup_put key value other table.entries

theorem mem_keys_insert {table : Table} {other : String} :
    other ∈ (table.insert key value).keys ↔ other = key ∨ other ∈ table.keys := by
  rw [keys_insert]
  split
  · rename_i hkey
    exact (or_iff_right_of_imp fun heq => heq ▸ hkey).symm
  · rw [List.mem_append, List.mem_singleton, or_comm]

theorem insertAll_cons (table : Table) (entry : String × String)
    (entries : List (String × String)) :
    table.insertAll (entry :: entries) = (table.insert entry.1 entry.2).insertAll entries :=
  rfl

theorem get?_insertAll (table : Table) (entries : List (String × String)) (key : String) :
    (table.insertAll entries).get? key = (entries.reverse.lookup key).or (table.get? key) := by
  induction entries generalizing table with
  | nil => rfl
  | cons entry rest ih =>
      obtain ⟨k, v⟩ := entry
      rw [insertAll_cons, ih, get?_insert, List.reverse_cons, List.lookup_append, Option.or_assoc]
      by_cases h : key = k
      · simp [h]
      · simp [h, List.lookup_cons, beq_false_of_ne h]

theorem keys_insertAll (table : Table) (entries : List (String × String)) :
    (table.insertAll entries).keys =
      table.keys ++ ((entries.map Prod.fst).removeAll table.keys).eraseDups := by
  induction entries generalizing table with
  | nil => simp [insertAll, List.removeAll]
  | cons entry rest ih =>
      obtain ⟨k, v⟩ := entry
      rw [insertAll_cons, ih, keys_insert, List.map_cons]
      by_cases h : k ∈ table.keys
      · simp [h, List.removeAll]
      · -- From now on the key is an old one.
        have hlater : (rest.map Prod.fst).removeAll (table.keys ++ [k]) =
            ((rest.map Prod.fst).removeAll table.keys).filter fun key => !(key == k) := by
          simp only [List.removeAll, List.filter_filter]
          refine List.filter_congr fun key _ => ?_
          by_cases hkey : key = k <;> simp [hkey]
        rw [if_neg h, hlater, List.cons_removeAll, if_pos (by simpa using h),
          List.eraseDups_cons, List.append_assoc, List.singleton_append]

theorem keys_ofList (entries : List (String × String)) :
    (ofList entries).keys = (entries.map Prod.fst).eraseDups := by
  have hall : (entries.map Prod.fst).removeAll empty.keys = entries.map Prod.fst :=
    List.filter_eq_self.2 fun _ _ => rfl
  rw [ofList, keys_insertAll, hall]
  exact List.nil_append _

theorem get?_ofList (entries : List (String × String)) (key : String) :
    (ofList entries).get? key = entries.reverse.lookup key := by
  rw [ofList, get?_insertAll]
  exact Option.or_none

theorem mem_iff_lookup (hnodup : (entries.map Prod.fst).Nodup) :
    (key, value) ∈ entries ↔ entries.lookup key = some value := by
  induction entries with
  | nil => simp
  | cons entry rest ih =>
      obtain ⟨k, v⟩ := entry
      rw [List.map_cons, List.nodup_cons] at hnodup
      have hrest := ih hnodup.2
      rw [List.mem_cons, hrest, List.lookup_cons]
      by_cases h : key = k
      · subst h
        have habsent : rest.lookup key ≠ some value := fun hfound =>
          hnodup.1 (List.mem_map.2 ⟨(key, value), hrest.2 hfound, rfl⟩)
        simp [habsent, eq_comm]
      · simp [h, beq_false_of_ne h]

theorem mem_entries_iff {table : Table} :
    (key, value) ∈ table.entries ↔ table.get? key = some value :=
  mem_iff_lookup table.distinct

theorem mem_keys_of_get? {table : Table} (h : table.get? key = some value) : key ∈ table.keys :=
  List.mem_map.2 ⟨(key, value), mem_entries_iff.2 h, rfl⟩

theorem ext_of_keys {before after : Table} (hkeys : before.keys = after.keys)
    (hvalues : ∀ key, before.get? key = after.get? key) : before = after := by
  apply ext
  apply List.ext_getElem
  · simpa [keys] using congrArg List.length hkeys
  · intro i hi hi'
    have hkey : (before.entries[i]).1 = (after.entries[i]).1 := by
      have hget := congrArg (fun list : List String => list[i]?) hkeys
      simpa [keys, hi, hi'] using hget
    have hfound : before.get? (before.entries[i]).1 = some (before.entries[i]).2 :=
      mem_entries_iff.1 (List.getElem_mem hi)
    have hfound' : after.get? (after.entries[i]).1 = some (after.entries[i]).2 :=
      mem_entries_iff.1 (List.getElem_mem hi')
    rw [hvalues, hkey, hfound'] at hfound
    exact Prod.ext hkey (Option.some.inj hfound).symm

theorem lookup_reverse (hnodup : (entries.map Prod.fst).Nodup) (key : String) :
    entries.reverse.lookup key = entries.lookup key := by
  have hreverse : (entries.reverse.map Prod.fst).Nodup := by
    rw [List.map_reverse]
    exact List.pairwise_reverse.2 (hnodup.imp Ne.symm)
  refine Option.ext fun value => ?_
  rw [← mem_iff_lookup hreverse, List.mem_reverse, mem_iff_lookup hnodup]

theorem get?_merge (base overlay : Table) (key : String) :
    (base.merge overlay).get? key = (overlay.get? key).or (base.get? key) := by
  rw [merge, get?_insertAll, lookup_reverse overlay.distinct]
  rfl

theorem eraseDups_of_nodup {keys : List String} (h : keys.Nodup) : keys.eraseDups = keys := by
  induction keys with
  | nil => rfl
  | cons key keys ih =>
      rw [List.nodup_cons] at h
      have hothers : keys.filter (fun other => !other == key) = keys :=
        List.filter_eq_self.2 fun other hother => by
          simpa using ne_of_mem_of_not_mem hother h.1
      rw [List.eraseDups_cons, hothers, ih h.2]

theorem keys_merge (base overlay : Table) :
    (base.merge overlay).keys = base.keys ++ overlay.keys.filter (· ∉ base.keys) := by
  have hnew : (overlay.entries.map Prod.fst).removeAll base.keys =
      overlay.keys.filter (· ∉ base.keys) := by
    refine List.filter_congr fun key _ => ?_
    rw [List.elem_eq_mem, decide_not]
  have hnodup : (overlay.keys.filter (· ∉ base.keys)).Nodup := overlay.distinct.filter _
  rw [merge, keys_insertAll, hnew, eraseDups_of_nodup hnodup]

theorem entries_insertAll {table : Table} (h : (entries.map Prod.fst).Nodup)
    (hnew : ∀ key ∈ entries.map Prod.fst, key ∉ table.keys) :
    (table.insertAll entries).entries = table.entries ++ entries := by
  induction entries generalizing table with
  | nil => simp [insertAll]
  | cons entry rest ih =>
      obtain ⟨k, v⟩ := entry
      rw [List.map_cons, List.nodup_cons] at h
      rw [List.map_cons, List.forall_mem_cons] at hnew
      have hput : (table.insert k v).entries = table.entries ++ [(k, v)] :=
        put_of_not_mem hnew.1
      have hkeys : (table.insert k v).keys = table.keys ++ [k] := by
        rw [keys_insert, if_neg hnew.1]
      have hrest : ∀ key ∈ rest.map Prod.fst, key ∉ (table.insert k v).keys := by
        intro key hkey hmem
        rw [hkeys, List.mem_append, List.mem_singleton] at hmem
        rcases hmem with hmem | rfl
        · exact hnew.2 key hkey hmem
        · exact h.1 hkey
      rw [insertAll_cons, ih h.2 hrest, hput, List.append_assoc, List.singleton_append]

theorem ofList_entries (table : Table) : ofList table.entries = table := by
  refine ext ?_
  have hnew : ∀ key ∈ table.entries.map Prod.fst, key ∉ empty.keys := by simp [keys, empty]
  exact (entries_insertAll table.distinct hnew).trans (List.nil_append _)

theorem lookup_filter (entries : List (String × String)) {key other : String} (h : key ≠ other) :
    (entries.filter fun entry => entry.1 != other).lookup key = entries.lookup key := by
  induction entries with
  | nil => rfl
  | cons entry rest ih =>
      obtain ⟨k, v⟩ := entry
      by_cases hk : k = other
      · have hne : key ≠ k := fun heq => h (heq.trans hk)
        simp [hk, List.lookup_cons, beq_false_of_ne (hk ▸ hne), ih]
      · simp [hk, List.lookup_cons, ih]

theorem get?_erase (table : Table) {key other : String} (h : key ≠ other) :
    (table.erase other).get? key = table.get? key :=
  lookup_filter table.entries h

theorem filter_put (key value : String) (entries : List (String × String)) {other : String}
    (h : key ≠ other) :
    (put key value entries).filter (fun entry => entry.1 != other) =
      put key value (entries.filter fun entry => entry.1 != other) := by
  induction entries with
  | nil => simp [put, h]
  | cons entry rest ih =>
      obtain ⟨k, v⟩ := entry
      by_cases hk : k = other
      · have hne : k ≠ key := fun heq => h (heq.symm.trans hk)
        simp [put, hk, hk ▸ hne, ih]
      · by_cases hkey : k = key
        · subst hkey
          simp [put, hk]
        · simp [put, hk, hkey, ih]

theorem get?_erase_self (table : Table) (key : String) : (table.erase key).get? key = none := by
  refine List.lookup_eq_none_iff.2 fun entry hentry => ?_
  rw [bne_iff_ne]
  exact (bne_iff_ne.1 (List.mem_filter.1 hentry).2).symm

theorem keys_erase (table : Table) (key : String) :
    (table.erase key).keys = table.keys.filter (· != key) := by
  rw [keys, keys, List.filter_map]
  rfl

theorem erase_insert (table : Table) {key other : String} (h : key ≠ other) (value : String) :
    (table.insert key value).erase other = (table.erase other).insert key value :=
  ext (filter_put key value table.entries h)

end ActionLauncher.Table
