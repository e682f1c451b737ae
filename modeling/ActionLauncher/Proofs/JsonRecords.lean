import Mathlib.Data.List.Nodup
import ActionLauncher.Json.Fields

namespace ActionLauncher.Json

variable {name key : String} {value : Json} {names : List String} {depth : Nat}
  {members members' : List (Option String × Json)} {fields : Fields}

/-! ### What is read -/

theorem mapM_eq_none_iff {α β : Type} {f : α → Option β} {l : List α} :
    l.mapM f = none ↔ ∃ a ∈ l, f a = none := by
  induction l with
  | nil => simp
  | cons a l ih =>
      rw [List.mapM_cons, List.exists_mem_cons_iff, ← ih]
      cases f a <;> cases l.mapM f <;> simp

theorem fields?_eq_none_iff : fields? names (.object members) = none ↔
    members.any (fun m => m.1.isNone) = true ∨ ∃ name ∈ names, member? name members = none := by
  rw [fields?]
  split_ifs with hkeys
  · simp [hkeys]
  · simp [hkeys, mapM_eq_none_iff]

theorem get?_of_fields? (h : fields? names (.object members) = some fields) (name : String) :
    fields.get? name = if name ∈ names then (member? name members).join else none := by
  rw [fields?] at h
  split_ifs at h
  obtain ⟨found, hfound, rfl⟩ := Option.map_eq_some_iff.1 h
  clear h
  rw [Fields.get?]
  induction names generalizing found with
  | nil =>
      cases hfound
      rfl
  | cons asked names ih =>
      rw [List.mapM_cons] at hfound
      obtain ⟨first, hfirst, hfound⟩ := Option.bind_eq_some_iff.1 hfound
      obtain ⟨found, hrest, hpure⟩ := Option.bind_eq_some_iff.1 hfound
      obtain ⟨v, hmember, rfl⟩ := Option.map_eq_some_iff.1 hfirst
      cases hpure
      have hlookup := ih found hrest
      -- A name that is asked for twice finds the same member both times.
      by_cases hsame : name = asked
      · subst hsame
        cases v with
        | none => simp [hmember, hlookup]
        | some v => simp [hmember]
      · cases v with
        | none => simp [hsame, hlookup]
        | some v => simp [hsame, hlookup, List.lookup_cons, beq_false_of_ne hsame]

/-! ### Order -/

theorem member?_perm (h : members.Perm members') (name : String) :
    member? name members = member? name members' := by
  have hfound := h.filter fun m => m.1 == some name
  generalize hleft : members.filter (fun m => m.1 == some name) = left at hfound
  generalize hright : members'.filter (fun m => m.1 == some name) = right at hfound
  rw [member?, member?, hleft, hright]
  -- Only a single member is looked at, and then it is the only one on the other side as well.
  rcases left with - | ⟨m, - | ⟨m', left⟩⟩
  · rw [hfound.nil_eq]
  · rw [List.singleton_perm.1 hfound]
  · rcases right with - | ⟨n, - | ⟨n', right⟩⟩
    · exact absurd hfound.length_eq (by simp)
    · exact absurd hfound.length_eq (by simp)
    · rfl

theorem fields?_congr
    (hkeys : members.any (fun m => m.1.isNone) = members'.any (fun m => m.1.isNone))
    (h : ∀ name ∈ names, member? name members = member? name members') :
    fields? names (.object members) = fields? names (.object members') := by
  have hfound : names.mapM (fun name => (member? name members).map fun v => (name, v)) =
      names.mapM (fun name => (member? name members').map fun v => (name, v)) := by
    clear hkeys
    induction names with
    | nil => rfl
    | cons name names ih =>
        rw [List.forall_mem_cons] at h
        rw [List.mapM_cons, List.mapM_cons, h.1, ih h.2]
  simp only [fields?, hkeys, hfound]

theorem fields?_perm (h : members.Perm members') :
    fields? names (.object members) = fields? names (.object members') :=
  fields?_congr h.any_eq fun name _ => member?_perm h name

theorem holdsMembers_eq_all (depth : Nat) (members : List (Option String × Json)) :
    holdsMembers depth members = members.all fun m => m.1.isSome && m.2.holds depth := by
  induction members with
  | nil => rfl
  | cons m members ih => simp [holdsMembers, ih]

theorem holds_object_perm (h : members.Perm members') :
    (object members).holds depth = (object members').holds depth := by
  simp only [holds, holdsMembers_eq_all, h.all_eq]

/-! ### Unknown members -/

theorem member?_cons_of_ne (h : key ≠ name) :
    member? name ((some key, value) :: members) = member? name members := by
  rw [member?, member?, List.filter_cons_of_neg (by simpa using h)]

theorem member?_cons_self (name : String) (value : Json)
    (members : List (Option String × Json)) :
    member? name ((some name, value) :: members) =
      if (members.filter fun m => m.1 == some name) = [] then some (some value) else none := by
  rw [member?, List.filter_cons_of_pos (by simp)]
  cases members.filter fun m => m.1 == some name <;> rfl

theorem fields?_cons_of_not_mem (h : key ∉ names) :
    fields? names (.object ((some key, value) :: members)) = fields? names (.object members) :=
  fields?_congr rfl fun _ hname => member?_cons_of_ne (ne_of_mem_of_not_mem hname h).symm

theorem holds_object_cons (hvalue : value.holds (depth - 1) = true) :
    (object ((some key, value) :: members)).holds depth = (object members).holds depth := by
  simp [holds, holdsMembers, hvalue]

/-! ### Fields -/

/-- The members of an object with the given fields. -/
def membersOf (fields : List (String × Json)) : List (Option String × Json) :=
  fields.map fun (key, value) => (some key, value)

theorem filter_eq_singleton {fields : List (String × Json)} (h : (fields.map Prod.fst).Nodup)
    (hmem : (name, value) ∈ fields) :
    fields.filter (fun field => field.1 == name) = [(name, value)] := by
  induction fields with
  | nil => cases hmem
  | cons field fields ih =>
      rw [List.map_cons, List.nodup_cons, List.mem_map] at h
      obtain ⟨hnew, hnodup⟩ := h
      rcases List.mem_cons.1 hmem with rfl | hmem
      · have hother : ∀ other ∈ fields, ¬ (other.1 == name) = true := fun other hother heq =>
          hnew ⟨other, hother, by simpa using heq⟩
        rw [List.filter_cons_of_pos (by simp), List.filter_eq_nil_iff.2 hother]
      · have hne : ¬ (field.1 == name) = true := fun heq =>
          hnew ⟨(name, value), hmem, by simpa using (beq_iff_eq.1 heq).symm⟩
        rw [List.filter_cons, if_neg hne, ih hnodup hmem]

theorem member?_ofMembers {fields : List (String × Json)} (h : (fields.map Prod.fst).Nodup)
    (hmem : (name, value) ∈ fields) :
    member? name (membersOf fields) = some (some value) := by
  have hfilter : (membersOf fields).filter (fun m => m.1 == some name) =
      [(some name, value)] := by
    have hsingle := filter_eq_singleton h hmem
    simp only [membersOf, List.filter_map, Function.comp_def, Option.some_beq_some, hsingle]
    rfl
  rw [member?, hfilter]

theorem fields?_ofMembers {fields : List (String × Json)} (h : (fields.map Prod.fst).Nodup) :
    (ofMembers fields).fields? (fields.map Prod.fst) = some ⟨fields⟩ := by
  have hkeys : (membersOf fields).any (fun m => m.1.isNone) = false := by
    simp [membersOf]
  have hfound (asked : List (String × Json)) (hasked : ∀ field ∈ asked, field ∈ fields) :
      (asked.map Prod.fst).mapM (fun name =>
          (member? name (membersOf fields)).map fun v => (name, v)) =
        some (asked.map fun field => (field.1, some field.2)) := by
    induction asked with
    | nil => rfl
    | cons field asked ih =>
        rw [List.forall_mem_cons] at hasked
        rw [List.map_cons, List.mapM_cons, member?_ofMembers h hasked.1, ih hasked.2]
        rfl
  change fields? _ (.object (membersOf fields)) = _
  rw [fields?, hkeys, hfound fields fun _ => id]
  simp [List.filterMap_map]

end ActionLauncher.Json
