/-!
A table from texts to texts that remembers the order in which its keys first came.  Writing an
existing key keeps its place; removing a key keeps the order of the others.
-/

namespace ActionLauncher

/-- Entries with distinct keys, in the order of first insertion. -/
structure Table where
  entries : List (String × String)
  distinct : (entries.map Prod.fst).Nodup

namespace Table

/-- Gives `key` the value `value` in a list of entries: in its old place, or else at the end. -/
def put (key value : String) : List (String × String) → List (String × String)
  | [] => [(key, value)]
  | (k, v) :: rest => if k = key then (k, value) :: rest else (k, v) :: put key value rest

theorem keys_put (key value : String) (entries : List (String × String)) :
    (put key value entries).map Prod.fst =
      if key ∈ entries.map Prod.fst then entries.map Prod.fst
      else entries.map Prod.fst ++ [key] := by
  induction entries with
  | nil => simp [put]
  | cons entry rest ih =>
      obtain ⟨k, v⟩ := entry
      by_cases h : k = key
      · simp [put, h]
      · have h' : key ≠ k := fun e => h e.symm
        simp only [put, h, if_false, List.map_cons, ih, List.mem_cons, h', false_or]
        split <;> simp

theorem nodup_put {key value : String} {entries : List (String × String)}
    (h : (entries.map Prod.fst).Nodup) : ((put key value entries).map Prod.fst).Nodup := by
  rw [keys_put]
  split
  · exact h
  · rename_i hkey
    refine List.nodup_append.2 ⟨h, by simp, ?_⟩
    intro a ha b hb hab
    simp only [List.mem_singleton] at hb
    exact hkey (hb ▸ hab ▸ ha)

def empty : Table :=
  ⟨[], by simp⟩

instance : EmptyCollection Table :=
  ⟨empty⟩

instance : Inhabited Table :=
  ⟨empty⟩

instance : DecidableEq Table := fun a b =>
  if h : a.entries = b.entries then
    isTrue (by cases a; cases b; simp_all)
  else isFalse fun e => h (e ▸ rfl)

def insert (table : Table) (key value : String) : Table :=
  ⟨put key value table.entries, nodup_put table.distinct⟩

def erase (table : Table) (key : String) : Table :=
  ⟨table.entries.filter fun entry => entry.1 != key,
    (List.filter_sublist.map Prod.fst).nodup table.distinct⟩

def get? (table : Table) (key : String) : Option String :=
  table.entries.lookup key

def keys (table : Table) : List String :=
  table.entries.map Prod.fst

def contains (table : Table) (key : String) : Bool :=
  (table.get? key).isSome

def size (table : Table) : Nat :=
  table.entries.length

/-- Sets the given entries one after another. -/
def insertAll (table : Table) (entries : List (String × String)) : Table :=
  entries.foldl (fun t entry => t.insert entry.1 entry.2) table

/-- The table got by setting the given entries in order. -/
def ofList (entries : List (String × String)) : Table :=
  empty.insertAll entries

/-- The table with every entry of `overlay` set on top. -/
def merge (base overlay : Table) : Table :=
  base.insertAll overlay.entries

/-- The entries by key, in the order of code points. -/
def sorted (table : Table) : List (String × String) :=
  table.entries.mergeSort fun a b => !decide (b.1 < a.1)

/-- Two tables agree when they have the same entries, in whatever order. -/
def agrees (a b : Table) : Bool :=
  a.size == b.size && a.entries.all fun entry => b.get? entry.1 == some entry.2

@[simp] theorem entries_empty : (∅ : Table).entries = [] := rfl

theorem keys_insert (table : Table) (key value : String) :
    (table.insert key value).keys =
      if key ∈ table.keys then table.keys else table.keys ++ [key] :=
  keys_put key value table.entries

end Table

end ActionLauncher
