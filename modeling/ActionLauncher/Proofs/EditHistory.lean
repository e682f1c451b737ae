import Mathlib.Data.List.Induction
import Mathlib.Order.Lattice.Nat
import ActionLauncher.Proofs.TableLaws

namespace ActionLauncher.Table

/-- A change to one key. -/
inductive Change
  | wrote (key value : String)
  | removed (key : String)

namespace Change

def key : Change → String
  | .wrote key _ => key
  | .removed key => key

def perform (table : Table) : Change → Table
  | .wrote key value => table.insert key value
  | .removed key => table.erase key

/-- The changes that write some entries, one after another. -/
def writing (entries : List (String × String)) : List Change :=
  entries.map fun entry => .wrote entry.1 entry.2

end Change

/-- An operation on a table. -/
inductive Edit
  | set (key value : String)
  | remove (key : String)
  | merge (overlay : Table)
  | extend (entries : List (String × String))

namespace Edit

def perform (table : Table) : Edit → Table
  | .set key value => table.insert key value
  | .remove key => table.erase key
  | .merge overlay => table.merge overlay
  | .extend entries => table.insertAll entries

/-- The changes that an operation stands for. -/
def changes : Edit → List Change
  | .set key value => [.wrote key value]
  | .remove key => [.removed key]
  | .merge overlay => Change.writing overlay.entries
  | .extend entries => Change.writing entries

end Edit

def edited (table : Table) (edits : List Edit) : Table :=
  edits.foldl Edit.perform table

/-- The changes that led to a table and to its edits, from the first entry on. -/
def history (table : Table) (edits : List Edit) : List Change :=
  Change.writing table.entries ++ edits.flatMap Edit.changes

/-- The places of a history at which a key was written and after which it was not removed. -/
def writes (key : String) (history : List Change) : Set Nat :=
  { place | (∃ value, history[place]? = some (.wrote key value)) ∧
      ∀ later, place < later → history[later]? ≠ some (.removed key) }

/-- The first write of `key` came before the first write of `next`, both since the last removal. -/
def Earlier (history : List Change) (key next : String) : Prop :=
  ∀ first second, IsLeast (writes key history) first → IsLeast (writes next history) second →
    first < second

/-- The table is what a history of changes makes: it has the keys that were written since their
last removal, each with the value of the last of these writes, in the order of the first ones. -/
structure MadeBy (history : List Change) (table : Table) : Prop where
  distinct : table.keys.Nodup
  present : ∀ key, key ∈ table.keys ↔ ∃ first, IsLeast (writes key history) first
  values : ∀ key value, table.get? key = some value ↔
    ∃ last, IsGreatest (writes key history) last ∧ history[last]? = some (.wrote key value)
  order : table.keys.Pairwise (Earlier history)

/-! ### One more change -/

variable {key other value : String} {changes : List Change} {change : Change} {table : Table}
  {place : Nat}

theorem writes_nil : writes key [] = ∅ := by
  ext place
  simp [writes]

theorem getElem?_concat_eq_some_iff {c : Change} :
    (changes ++ [change])[place]? = some c ↔
      changes[place]? = some c ∨ place = changes.length ∧ change = c := by
  rcases Nat.lt_trichotomy place changes.length with h | rfl | h
  · simp [List.getElem?_append_left h, h.ne]
  · simp
  · have hend : (changes ++ [change]).length ≤ place := by
      rw [List.length_append, List.length_singleton]
      exact h
    simp [List.getElem?_eq_none hend, List.getElem?_eq_none h.le, h.ne']

theorem lt_length_of_mem_writes (h : place ∈ writes key changes) : place < changes.length := by
  obtain ⟨⟨value, hwrote⟩, -⟩ := h
  exact (List.getElem?_eq_some_iff.1 hwrote).1

theorem mem_writes_concat : place ∈ writes key (changes ++ [change]) ↔
    place ∈ writes key changes ∧ change ≠ .removed key ∨
      place = changes.length ∧ ∃ value, change = .wrote key value := by
  constructor
  · rintro ⟨⟨value, hwrote⟩, hkept⟩
    rcases getElem?_concat_eq_some_iff.1 hwrote with hold | ⟨rfl, rfl⟩
    · have hplace : place < changes.length := (List.getElem?_eq_some_iff.1 hold).1
      refine .inl ⟨⟨⟨value, hold⟩, fun later hlater hremoved => ?_⟩, fun hremoved => ?_⟩
      · exact hkept later hlater (getElem?_concat_eq_some_iff.2 (.inl hremoved))
      · exact hkept _ hplace (getElem?_concat_eq_some_iff.2 (.inr ⟨rfl, hremoved⟩))
    · exact .inr ⟨rfl, value, rfl⟩
  · rintro (⟨⟨⟨value, hwrote⟩, hkept⟩, hchange⟩ | ⟨rfl, value, rfl⟩)
    · refine ⟨⟨value, getElem?_concat_eq_some_iff.2 (.inl hwrote)⟩, ?_⟩
      intro later hlater hremoved
      rcases getElem?_concat_eq_some_iff.1 hremoved with hold | ⟨-, hlast⟩
      · exact hkept later hlater hold
      · exact hchange hlast
    · refine ⟨⟨value, getElem?_concat_eq_some_iff.2 (.inr ⟨rfl, rfl⟩)⟩, ?_⟩
      intro later hlater hremoved
      rcases getElem?_concat_eq_some_iff.1 hremoved with hold | ⟨-, hlast⟩
      · exact Nat.lt_asymm hlater (List.getElem?_eq_some_iff.1 hold).1
      · cases hlast

theorem writes_concat_of_ne (h : change.key ≠ key) :
    writes key (changes ++ [change]) = writes key changes := by
  have hremoved : change ≠ .removed key := by
    rintro rfl
    exact h rfl
  have hwrote (value : String) : change ≠ .wrote key value := by
    rintro rfl
    exact h rfl
  ext place
  simp [mem_writes_concat, hremoved, hwrote]

theorem writes_concat_removed : writes key (changes ++ [.removed key]) = ∅ := by
  ext place
  simp [mem_writes_concat]

theorem writes_subset_of_wrote :
    writes other changes ⊆ writes other (changes ++ [.wrote key value]) :=
  fun _ h => mem_writes_concat.2 (.inl ⟨h, nofun⟩)

theorem exists_isLeast_iff :
    (∃ first, IsLeast (writes key changes) first) ↔ (writes key changes).Nonempty :=
  ⟨fun ⟨first, h⟩ => ⟨first, h.1⟩, fun h => ⟨_, Nat.sInf_mem h, fun _ => Nat.sInf_le⟩⟩

theorem isLeast_of_wrote (hpresent : (writes other changes).Nonempty)
    (h : IsLeast (writes other (changes ++ [.wrote key value])) place) :
    IsLeast (writes other changes) place := by
  obtain ⟨earlier, hearlier⟩ := hpresent
  have hle : place ≤ earlier := h.2 (writes_subset_of_wrote hearlier)
  have hlt : earlier < changes.length := lt_length_of_mem_writes hearlier
  rcases mem_writes_concat.1 h.1 with ⟨hplace, -⟩ | ⟨rfl, -⟩
  · exact ⟨hplace, fun _ hmem => h.2 (writes_subset_of_wrote hmem)⟩
  · omega

theorem isGreatest_of_wrote :
    IsGreatest (writes key (changes ++ [.wrote key value])) changes.length := by
  refine ⟨mem_writes_concat.2 (.inr ⟨rfl, value, rfl⟩), fun place hplace => ?_⟩
  rcases mem_writes_concat.1 hplace with ⟨hold, -⟩ | ⟨rfl, -⟩
  · exact (lt_length_of_mem_writes hold).le
  · exact le_rfl

namespace MadeBy

theorem nil : MadeBy [] ∅ where
  distinct := List.nodup_nil
  present key := by
    rw [exists_isLeast_iff, writes_nil]
    simp [keys]
  values key value := by
    refine iff_of_false (by simp [get?]) ?_
    rintro ⟨last, hlast, -⟩
    rw [writes_nil] at hlast
    exact hlast.1
  order := .nil

theorem nonempty_iff (h : MadeBy changes table) :
    (writes key changes).Nonempty ↔ key ∈ table.keys :=
  exists_isLeast_iff.symm.trans (h.present key).symm

theorem values_of_ne (h : MadeBy changes table) (hother : change.key ≠ other) (value : String) :
    table.get? other = some value ↔ ∃ last,
      IsGreatest (writes other (changes ++ [change])) last ∧
        (changes ++ [change])[last]? = some (.wrote other value) := by
  have hchange : change ≠ .wrote other value := by
    rintro rfl
    exact hother rfl
  rw [h.values, writes_concat_of_ne hother]
  refine exists_congr fun last => and_congr_right fun _ => ?_
  rw [getElem?_concat_eq_some_iff]
  exact (or_iff_left fun hlast => hchange hlast.2).symm

theorem wrote (h : MadeBy changes table) (key value : String) :
    MadeBy (changes ++ [.wrote key value]) (table.insert key value) where
  distinct := (table.insert key value).distinct
  present other := by
    rw [exists_isLeast_iff, mem_keys_insert, ← h.nonempty_iff]
    by_cases hother : other = key
    · subst hother
      exact ⟨fun _ => ⟨_, isGreatest_of_wrote.1⟩, fun _ => .inl rfl⟩
    · rw [writes_concat_of_ne (Ne.symm hother)]
      exact or_iff_right hother
  values other written := by
    rw [get?_insert]
    by_cases hother : other = key
    · subst hother
      rw [if_pos rfl, Option.some_inj]
      constructor
      · rintro rfl
        exact ⟨_, isGreatest_of_wrote, List.getElem?_concat_length⟩
      · rintro ⟨last, hlast, hwrote⟩
        rw [hlast.unique isGreatest_of_wrote, List.getElem?_concat_length] at hwrote
        cases hwrote
        rfl
    · rw [if_neg hother]
      exact h.values_of_ne (Ne.symm hother) written
  order := by
    have hstays {other : String} {place : Nat} (hother : other ∈ table.keys)
        (hplace : IsLeast (writes other (changes ++ [.wrote key value])) place) :
        IsLeast (writes other changes) place :=
      isLeast_of_wrote (h.nonempty_iff.2 hother) hplace
    have hold : table.keys.Pairwise (Earlier (changes ++ [.wrote key value])) :=
      h.order.imp_of_mem fun ha hb hab i j hi hj => hab i j (hstays ha hi) (hstays hb hj)
    rw [keys_insert]
    split
    · exact hold
    · rename_i hnew
      refine List.pairwise_append.2 ⟨hold, List.pairwise_singleton _ _, ?_⟩
      intro a ha b hb i j hi hj
      rw [List.mem_singleton] at hb
      subst hb
      -- The new key has no write but this one, and the others were written before.
      have hbefore : i < changes.length := lt_length_of_mem_writes (hstays ha hi).1
      rcases mem_writes_concat.1 hj.1 with ⟨hj, -⟩ | ⟨rfl, -⟩
      · exact absurd (h.nonempty_iff.1 ⟨j, hj⟩) hnew
      · exact hbefore

theorem removed (h : MadeBy changes table) (key : String) :
    MadeBy (changes ++ [.removed key]) (table.erase key) where
  distinct := (table.erase key).distinct
  present other := by
    rw [exists_isLeast_iff, keys_erase, List.mem_filter, ← h.nonempty_iff]
    by_cases hother : other = key
    · subst hother
      simp [writes_concat_removed]
    · rw [writes_concat_of_ne (Ne.symm hother)]
      simp [hother]
  values other written := by
    by_cases hother : other = key
    · subst hother
      rw [get?_erase_self, writes_concat_removed]
      refine iff_of_false nofun ?_
      rintro ⟨last, hlast, -⟩
      exact hlast.1
    · rw [get?_erase table hother]
      exact h.values_of_ne (Ne.symm hother) written
  order := by
    rw [keys_erase]
    refine (h.order.filter _).imp_of_mem fun ha hb hab => ?_
    have hsame {other : String} (hmem : other ∈ table.keys.filter (· != key)) :
        writes other (changes ++ [.removed key]) = writes other changes :=
      writes_concat_of_ne (bne_iff_ne.1 (List.mem_filter.1 hmem).2).symm
    rwa [Earlier, hsame ha, hsame hb]

theorem perform (h : MadeBy changes table) (change : Change) :
    MadeBy (changes ++ [change]) (change.perform table) := by
  cases change with
  | wrote key value => exact h.wrote key value
  | removed key => exact h.removed key

theorem foldl_perform (changes : List Change) :
    MadeBy changes (changes.foldl Change.perform ∅) := by
  induction changes using List.reverseRecOn with
  | nil => exact .nil
  | append_singleton changes change ih =>
      rw [List.foldl_append]
      exact ih.perform change

end MadeBy

theorem foldl_writing (table : Table) (entries : List (String × String)) :
    (Change.writing entries).foldl Change.perform table = table.insertAll entries :=
  List.foldl_map

theorem foldl_changes (table : Table) (edit : Edit) :
    edit.changes.foldl Change.perform table = edit.perform table := by
  cases edit with
  | set | remove => rfl
  | merge overlay => exact foldl_writing table overlay.entries
  | extend entries => exact foldl_writing table entries

theorem edited_eq_foldl (table : Table) (edits : List Edit) :
    table.edited edits = (table.history edits).foldl Change.perform ∅ := by
  have hmade : (Change.writing table.entries).foldl Change.perform ∅ = table :=
    (foldl_writing ∅ table.entries).trans (ofList_entries table)
  rw [history, List.foldl_append, hmade, List.foldl_flatMap]
  simp only [foldl_changes]
  rfl

/-! ### Tables over tables -/

/-- How tables are laid over one another. -/
structure Layered (base overlay top : Table) : Prop where
  assoc : (base.merge overlay).merge top = base.merge (overlay.merge top)
  empty_below : merge ∅ base = base
  empty_above : base.merge ∅ = base
  again : (base.merge overlay).merge overlay = base.merge overlay
  values : ∀ key, (base.merge overlay).get? key = (overlay.get? key).or (base.get? key)
  order : (base.merge overlay).keys = base.keys ++ overlay.keys.filter (· ∉ base.keys)

theorem merge_assoc (base overlay top : Table) :
    (base.merge overlay).merge top = base.merge (overlay.merge top) := by
  refine ext_of_keys ?_ fun key => ?_
  · -- A key of the top is new to the two below when it is new to each of them.
    simp only [keys_merge, List.filter_append, List.append_assoc, List.filter_filter]
    congr 2
    refine List.filter_congr fun key _ => ?_
    by_cases hbase : key ∈ base.keys <;> simp [hbase]
  · simp only [get?_merge, Option.or_assoc]

theorem merge_again (base overlay : Table) :
    (base.merge overlay).merge overlay = base.merge overlay := by
  refine ext_of_keys ?_ fun key => ?_
  · have hold : overlay.keys.filter (· ∉ (base.merge overlay).keys) = [] := by
      refine List.filter_eq_nil_iff.2 fun key hkey => ?_
      by_cases hbase : key ∈ base.keys <;> simp [keys_merge, hkey, hbase]
    rw [keys_merge, hold, List.append_nil]
  · rw [get?_merge, get?_merge, ← Option.or_assoc, Option.or_self]

theorem layered (base overlay top : Table) : Layered base overlay top where
  assoc := merge_assoc base overlay top
  empty_below := ofList_entries base
  empty_above := rfl
  again := merge_again base overlay
  values := get?_merge base overlay
  order := keys_merge base overlay

/-- A table is at any time what its edits made of it, and tables that are laid over one another make
up one table, in whatever grouping. -/
theorem edits_layered (table : Table) (edits : List Edit) (base overlay top : Table) :
    MadeBy (table.history edits) (table.edited edits) ∧ Layered base overlay top := by
  rw [edited_eq_foldl]
  exact ⟨.foldl_perform _, layered base overlay top⟩

example : ((ofList [("z", "1"), ("a", "2")]).edited
    [.set "z" "3", .remove "a", .merge (ofList [("b", "4"), ("a", "5")])]).entries =
      [("z", "3"), ("b", "4"), ("a", "5")] := by
  decide

end ActionLauncher.Table
