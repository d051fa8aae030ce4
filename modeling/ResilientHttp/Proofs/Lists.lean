import Mathlib.Data.List.Basic

/-!
# Lists of named entries, and lists that grow

Several parts of the library keep a list of entries, each under a name. Here is what a look-up finds
after the entries were filtered, replaced or changed one by one (`Entries`).

A history grows at its end. Where a list that has grown by one is split at an entry, the entry is the
new one, or the old list is split there (`Splits`).
-/

set_option autoImplicit false

namespace ResilientHttp

namespace Entries

variable {Name Value : Type} [DecidableEq Name]

/-- Removing a name takes nothing from the others. -/
theorem lookup_filter_ne (entries : List (Name × Value)) (name other : Name) :
    (entries.filter (·.1 != name)).lookup other =
      if other = name then none else entries.lookup other := by
  induction entries with
  | nil => simp
  | cons entry rest ih =>
      obtain ⟨key, value⟩ := entry
      by_cases here : key = name
      · subst here
        rw [List.filter_cons_of_neg (by simp), ih]
        by_cases same : other = key
        · simp [same]
        · simp [same, List.lookup_cons, beq_eq_false_iff_ne.2 same]
      · rw [List.filter_cons_of_pos (by simpa using here), List.lookup_cons, List.lookup_cons, ih]
        by_cases same : other = key
        · subst same
          simp [here]
        · simp [beq_eq_false_iff_ne.2 same]

/-- A name that is given a new value at the end of the list has that value. -/
theorem lookup_replace (entries : List (Name × Value)) (name other : Name) (value : Value) :
    (entries.filter (·.1 != name) ++ [(name, value)]).lookup other =
      if other = name then some value else entries.lookup other := by
  rw [List.lookup_append, lookup_filter_ne]
  by_cases same : other = name
  · subst same
    simp
  · simp [same, List.lookup_cons, beq_eq_false_iff_ne.2 same]

/-- Where no name is given twice, an entry is what is found under its name. -/
theorem mem_iff_lookup {entries : List (Name × Value)} (distinct : (entries.map (·.1)).Nodup)
    {name : Name} {value : Value} :
    (name, value) ∈ entries ↔ entries.lookup name = some value := by
  induction entries with
  | nil => simp
  | cons entry rest ih =>
      obtain ⟨key, first⟩ := entry
      rw [List.map_cons, List.nodup_cons] at distinct
      rw [List.mem_cons, Prod.mk.injEq, List.lookup_cons, ih distinct.2]
      by_cases same : name = key
      · subst same
        have once : rest.lookup name ≠ some value := fun found =>
          distinct.1 (List.mem_map.2 ⟨(name, value), (ih distinct.2).2 found, rfl⟩)
        simp [once, eq_comm]
      · simp [same, beq_eq_false_iff_ne.2 same]

/-- Changing the value of one name leaves the others. -/
theorem lookup_change (entries : List (Name × Value)) (name other : Name)
    (change : Value → Value) :
    (entries.map fun entry => if entry.1 = name then (entry.1, change entry.2) else entry).lookup
        other =
      if other = name then (entries.lookup other).map change else entries.lookup other := by
  induction entries with
  | nil => simp
  | cons entry rest ih =>
      obtain ⟨key, value⟩ := entry
      have keyed : (if key = name then (key, change value) else (key, value)) =
          (key, if key = name then change value else value) := by
        split <;> rfl
      rw [List.map_cons, keyed, List.lookup_cons, List.lookup_cons, ih]
      by_cases same : other = key
      · subst same
        by_cases here : other = name <;> simp [here]
      · simp [beq_eq_false_iff_ne.2 same]

/-- Changing all values leaves them under their names. -/
theorem lookup_map {Other : Type} (entries : List (Name × Value)) (name : Name)
    (change : Value → Other) :
    (entries.map fun entry => (entry.1, change entry.2)).lookup name =
      (entries.lookup name).map change := by
  induction entries with
  | nil => rfl
  | cons entry rest ih =>
      rw [List.map_cons, List.lookup_cons, List.lookup_cons, ih]
      split <;> rfl

/-- It is the same to take a name out before all entries are changed and after. -/
theorem filter_ne_map {Other : Type} (entries : List (Name × Value)) (name : Name)
    (change : Name → Value → Other) :
    (entries.map fun entry => (entry.1, change entry.1 entry.2)).filter (·.1 != name) =
      (entries.filter (·.1 != name)).map fun entry => (entry.1, change entry.1 entry.2) :=
  List.filter_map

/-- A change of one name is forgotten with that name. -/
theorem filter_ne_map_of_still (entries : List (Name × Value)) {name : Name}
    {change : Name → Value → Value}
    (still : ∀ other value, other ≠ name → change other value = value) :
    (entries.map fun entry => (entry.1, change entry.1 entry.2)).filter (·.1 != name) =
      entries.filter (·.1 != name) := by
  rw [filter_ne_map]
  calc (entries.filter (·.1 != name)).map (fun entry => (entry.1, change entry.1 entry.2))
      = (entries.filter (·.1 != name)).map id := by
        refine List.map_congr_left fun entry member => ?_
        have apart : entry.1 ≠ name := by simpa using (List.mem_filter.1 member).2
        rw [still entry.1 entry.2 apart]
        rfl
    _ = entries.filter (·.1 != name) := List.map_id _

end Entries

namespace Splits

variable {Entry : Type} {front before after : List Entry} {last middle : Entry}

/-- To split a list that has grown by one is to take the new entry, or to split the old list. -/
theorem concat_eq_iff :
    front ++ [last] = before ++ middle :: after ↔
      (before = front ∧ middle = last ∧ after = []) ∨
        ∃ rest, after = rest ++ [last] ∧ front = before ++ middle :: rest := by
  constructor
  · intro split
    rcases List.eq_nil_or_concat after with rfl | ⟨rest, newest, rfl⟩
    · obtain ⟨same, new⟩ := List.append_inj' split rfl
      exact .inl ⟨same.symm, (List.cons.inj new).1.symm, rfl⟩
    · rw [List.concat_eq_append, ← List.cons_append, ← List.append_assoc] at split
      obtain ⟨same, new⟩ := List.append_inj' split rfl
      exact .inr ⟨rest, by rw [List.concat_eq_append, (List.cons.inj new).1], same⟩
  · rintro (⟨rfl, rfl, rfl⟩ | ⟨rest, rfl, rfl⟩)
    · rfl
    · simp

end Splits

end ResilientHttp
