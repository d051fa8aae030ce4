import ResilientHttp.Proofs.Headers.Collecting
import Mathlib.Algebra.BigOperators.Group.Finset.Piecewise

/-!
# Headers as a multimap

A collection of headers is one list, searched by name up to case and by value. What it means is a
map that has a list of values for each name (`Multimap`), where a name is given by its folding: to
add a header is to append its value to the list of its name if it is not in it, to merge is to append
every list of the other collection, and to collect the items again is to remove from every list what
stands in it before (`Multimap.change`).

Whatever is done to a collection that was empty at first, the two agree (`Headers.Agrees`): the
values of a name are those in the map under its folding, and there are as many headers as there are
values in all lists together. One change keeps this (`Headers.Agrees.change`), hence a sequence of
changes does (`Headers.agrees_built`). The delicate case is a collection with equal items, as merging
makes them: adding must not take them away, and collecting again must leave the first of them in
every list (`Headers.listed_addAll_empty`).

The map never sees how a name is spelled. So the answers do not depend on the spelling either, names
that differ in more than the case of ASCII letters have lists of their own, and a change leaves the
names alone that it does not mention (`Headers.is_multimap`).
-/

set_option autoImplicit false

namespace ResilientHttp

/-! ## Maps of value lists -/

/-- Finitely many names, each with the list of its values. Every other name has no values. -/
structure Multimap where
  names : Finset String
  values : String → List String
  values_of_not_mem : ∀ name ∉ names, values name = []

namespace Multimap

/-- The map without values. -/
def empty : Multimap := ⟨∅, fun _ => [], fun _ _ => rfl⟩

/-- The map with one more value at the end of the list of a name. -/
def append (map : Multimap) (name value : String) : Multimap where
  names := insert name map.names
  values := Function.update map.values name (map.values name ++ [value])
  values_of_not_mem := fun other absent => by
    rw [Finset.mem_insert, not_or] at absent
    rw [Function.update_of_ne absent.1, map.values_of_not_mem other absent.2]

/-- The map with a value in the list of a name, at the end unless it is there already. -/
def add (map : Multimap) (name value : String) : Multimap :=
  if value ∈ map.values name then map else map.append name value

/-- The map with several headers added, one after another. -/
def addAll (map : Multimap) (items : List Header) : Multimap :=
  items.foldl (fun map item => map.add (Text.fold item.name) item.value) map

/-- The map in which every list is followed by the list that another map has for the name. -/
def join (map other : Multimap) : Multimap where
  names := map.names ∪ other.names
  values := fun name => map.values name ++ other.values name
  values_of_not_mem := fun name absent => by
    rw [Finset.mem_union, not_or] at absent
    rw [map.values_of_not_mem name absent.1, other.values_of_not_mem name absent.2,
      List.append_nil]

/-- The map without the later repetitions of every list. -/
def distinct (map : Multimap) : Multimap where
  names := map.names
  values := fun name => (map.values name).eraseDups
  values_of_not_mem := fun name absent => by
    rw [map.values_of_not_mem name absent, List.eraseDups_nil]

/-- The values of some headers, each in the list of its name. -/
def ofItems (items : List Header) : Multimap :=
  items.foldl (fun map item => map.append (Text.fold item.name) item.value) empty

/-- The number of values in all lists together. -/
def size (map : Multimap) : Nat := ∑ name ∈ map.names, (map.values name).length

theorem values_append (map : Multimap) (name value other : String) :
    (map.append name value).values other =
      if other = name then map.values other ++ [value] else map.values other := by
  change Function.update map.values name (map.values name ++ [value]) other = _
  rw [Function.update_apply]
  split
  · rename_i same
    rw [same]
  · rfl

theorem values_add (map : Multimap) (name value other : String) :
    (map.add name value).values other =
      if other = name ∧ value ∉ map.values other then map.values other ++ [value]
      else map.values other := by
  unfold add
  by_cases held : value ∈ map.values name
  · rw [if_pos held, if_neg]
    rintro ⟨rfl, absent⟩
    exact absent held
  · rw [if_neg held, values_append]
    by_cases here : other = name
    · subst here
      rw [if_pos rfl, if_pos ⟨rfl, held⟩]
    · rw [if_neg here, if_neg fun both => here both.1]

end Multimap

namespace Headers

/-! ## Changes -/

/-- What can be done to a collection. -/
inductive Change where
  | add (header : Header)
  | addValue (name value : String)
  | addAll (items : List Header)
  | merge (other : Headers)
  /-- The collection is merged with a copy of itself. -/
  | mergeSelf
  /-- The items of the collection are collected again. -/
  | recollect

/-- The collection after a change. -/
def change (headers : Headers) : Change → Headers
  | .add header => headers.add header
  | .addValue name value => headers.addValue name value
  | .addAll items => headers.addAll items
  | .merge other => headers.merge other
  | .mergeSelf => headers.merge headers
  | .recollect => ofList headers.items

/-- The collection that some changes make of the empty one. -/
def built (changes : List Change) : Headers := changes.foldl change empty

/-- The names that a change mentions. -/
def mentioned (headers : Headers) : Change → List String
  | .add header => [header.name]
  | .addValue name _ => [name]
  | .addAll items => items.map Header.name
  | .merge other => other.items.map Header.name
  | .mergeSelf => headers.items.map Header.name
  | .recollect => headers.items.map Header.name

/-- The second change is the first with its names spelled in other ways. -/
inductive Change.Respelled : Change → Change → Prop where
  | add {left right : Header} (same : left.same right = true) : Respelled (.add left) (.add right)
  | addValue {left right : String} (agree : Text.AgreeUpToCase left right) (value : String) :
      Respelled (.addValue left value) (.addValue right value)
  | addAll {items others : List Header}
      (same : List.Forall₂ (fun left right => left.same right = true) items others) :
      Respelled (.addAll items) (.addAll others)
  | merge {items others : List Header}
      (same : List.Forall₂ (fun left right => left.same right = true) items others) :
      Respelled (.merge ⟨items⟩) (.merge ⟨others⟩)
  | mergeSelf : Respelled .mergeSelf .mergeSelf
  | recollect : Respelled .recollect .recollect

end Headers

namespace Multimap

open Headers (Change)

/-- The map after a change. -/
def change (map : Multimap) : Change → Multimap
  | .add header => map.add (Text.fold header.name) header.value
  | .addValue name value => map.add (Text.fold name) value
  | .addAll items => map.addAll items
  | .merge other => map.join (ofItems other.items)
  | .mergeSelf => map.join map
  | .recollect => map.distinct

/-- The map that some changes make of the empty one. -/
def built (changes : List Change) : Multimap := changes.foldl change empty

/-- A loop over headers that looks at foldings and values only does not see how the names are
spelled. -/
theorem foldl_respelled {items others : List Header}
    (same : List.Forall₂ (fun left right => left.same right = true) items others)
    (step : Multimap → String → String → Multimap) (map : Multimap) :
    items.foldl (fun map item => step map (Text.fold item.name) item.value) map =
      others.foldl (fun map item => step map (Text.fold item.name) item.value) map := by
  induction same generalizing map with
  | nil => rfl
  | cons one _ ih =>
      obtain ⟨agree, equal⟩ := (Header.same_iff _ _).1 one
      rw [List.foldl_cons, List.foldl_cons, agree, equal, ih]

/-- The map does not see how the names of a change are spelled. -/
theorem change_respelled {one other : Change} (respelled : one.Respelled other) (map : Multimap) :
    map.change one = map.change other := by
  cases respelled with
  | add same =>
      obtain ⟨agree, equal⟩ := (Header.same_iff _ _).1 same
      rw [change, change, agree, equal]
  | addValue agree value => rw [change, change, (Text.fold_eq_fold_iff _ _).2 agree]
  | addAll same => exact foldl_respelled same Multimap.add map
  | merge same => exact congrArg map.join (foldl_respelled same Multimap.append empty)
  | mergeSelf => rfl
  | recollect => rfl

theorem built_respelled {changes others : List Change}
    (respelled : List.Forall₂ Change.Respelled changes others) : built changes = built others := by
  unfold built
  generalize empty = map
  induction respelled generalizing map with
  | nil => rfl
  | cons one _ ih => rw [List.foldl_cons, List.foldl_cons, change_respelled one, ih]

end Multimap

namespace Headers

/-! ## The values under a folding -/

/-- The values of the headers whose names have a given folding. -/
def listed (items : List Header) (key : String) : List String :=
  (items.filter fun item => Text.fold item.name == key).map Header.value

/-- The values of a name are those under its folding. -/
theorem get_eq_listed (headers : Headers) (name : String) :
    headers.get name = listed headers.items (Text.fold name) := rfl

theorem listed_append (front back : List Header) (key : String) :
    listed (front ++ back) key = listed front key ++ listed back key := by
  rw [listed, List.filter_append, List.map_append]
  rfl

theorem listed_singleton (item : Header) (key : String) :
    listed [item] key = if Text.fold item.name = key then [item.value] else [] := by
  unfold listed
  split <;> rename_i found <;> simp [found]

theorem mem_listed {items : List Header} {key value : String} :
    value ∈ listed items key ↔
      ∃ item ∈ items, Text.fold item.name = key ∧ item.value = value := by
  simp only [listed, List.mem_map, List.mem_filter, beq_iff_eq, and_assoc]

/-- A collection holds a header exactly if its value is in the list of its name. -/
theorem any_same_iff_mem_listed (items : List Header) (header : Header) :
    items.any (·.same header) = true ↔ header.value ∈ listed items (Text.fold header.name) := by
  simp only [List.any_eq_true, Header.same_iff, mem_listed]

/-- To add a header is to append its value to the list of its name if it is not in it. -/
theorem listed_add (headers : Headers) (header : Header) (key : String) :
    listed (headers.add header).items key =
      if key = Text.fold header.name ∧ header.value ∉ listed headers.items key then
        listed headers.items key ++ [header.value]
      else listed headers.items key := by
  by_cases held : headers.items.any (·.same header) = true
  · rw [add_of_mem held, if_neg]
    rintro ⟨rfl, absent⟩
    exact absent ((any_same_iff_mem_listed _ _).1 held)
  · rw [items_add_of_not_mem (by simpa using held), listed_append, listed_singleton]
    by_cases here : Text.fold header.name = key
    · subst here
      rw [if_pos rfl, if_pos ⟨rfl, mt (any_same_iff_mem_listed _ _).2 held⟩]
    · rw [if_neg here, if_neg fun both => here both.1.symm, List.append_nil]

/-- The last value of a list is a repetition, or it comes last of those that are none. -/
theorem eraseDups_concat (values : List String) (last : String) :
    (values ++ [last]).eraseDups =
      if last ∈ values then values.eraseDups else values.eraseDups ++ [last] := by
  rw [List.eraseDups_append]
  by_cases there : last ∈ values
  · simp [List.removeAll, there]
  · simp [List.removeAll, there, List.eraseDups_cons]

/-- Collecting a list removes the later repetitions from the list of every name. -/
theorem listed_addAll_empty (items : List Header) (key : String) :
    listed (ofList items).items key = (listed items key).eraseDups := by
  induction items using List.reverseRecOn with
  | nil => rfl
  | append_singleton front last ih =>
      change listed (empty.addAll (front ++ [last])).items key = _
      rw [addAll_concat]
      change listed ((ofList front).add last).items key = _
      rw [listed_add, ih, listed_append, listed_singleton]
      by_cases here : Text.fold last.name = key
      · subst here
        rw [if_pos rfl, eraseDups_concat]
        by_cases there : last.value ∈ listed front (Text.fold last.name) <;> simp [there]
      · rw [if_neg here, if_neg fun both => here both.1.symm, List.append_nil]

/-! ## Agreement -/

/-- The values of every name are those in the map under its folding. -/
def Agrees (headers : Headers) (map : Multimap) : Prop :=
  ∀ key, listed headers.items key = map.values key

namespace Agrees

variable {headers : Headers} {map : Multimap}

theorem empty : Agrees Headers.empty Multimap.empty := fun _ => rfl

theorem add (agrees : Agrees headers map) (header : Header) :
    Agrees (headers.add header) (map.add (Text.fold header.name) header.value) := by
  intro key
  rw [listed_add, Multimap.values_add, agrees key]

theorem addAll (agrees : Agrees headers map) (items : List Header) :
    Agrees (headers.addAll items) (map.addAll items) := by
  induction items generalizing headers map with
  | nil => exact agrees
  | cons header rest ih => exact ih (agrees.add header)

/-- Any collection agrees with the map of its items. -/
theorem ofItems (items : List Header) : Agrees ⟨items⟩ (Multimap.ofItems items) := by
  induction items using List.reverseRecOn with
  | nil => exact empty
  | append_singleton front last ih =>
      intro key
      rw [Multimap.ofItems, List.foldl_concat, Multimap.values_append]
      change listed (front ++ [last]) key = _
      rw [listed_append, listed_singleton, ← Multimap.ofItems, ← ih key]
      by_cases here : Text.fold last.name = key
      · rw [if_pos here, if_pos here.symm]
      · rw [if_neg here, if_neg (Ne.symm here), List.append_nil]

theorem merge {other : Headers} {otherMap : Multimap} (agrees : Agrees headers map)
    (others : Agrees other otherMap) : Agrees (headers.merge other) (map.join otherMap) := by
  intro key
  rw [items_merge, listed_append, agrees key, others key]
  rfl

theorem recollect (agrees : Agrees headers map) :
    Agrees (ofList headers.items) map.distinct := by
  intro key
  rw [listed_addAll_empty, agrees key]
  rfl

/-- **A change keeps the agreement.** -/
theorem change (agrees : Agrees headers map) (change : Change) :
    Agrees (headers.change change) (map.change change) := by
  cases change with
  | add header => exact agrees.add header
  | addValue name value => exact agrees.add ⟨name, value⟩
  | addAll items => exact agrees.addAll items
  | merge other => exact agrees.merge (ofItems other.items)
  | mergeSelf => exact agrees.merge agrees
  | recollect => exact agrees.recollect

/-- Counting the headers name by name counts all of them. -/
theorem length_eq_sum (items : List Header) (names : Finset String)
    (covered : ∀ item ∈ items, Text.fold item.name ∈ names) :
    items.length = ∑ name ∈ names, (listed items name).length := by
  induction items with
  | nil => simp [listed]
  | cons item rest ih =>
      have one : ∀ name, (listed (item :: rest) name).length =
          (listed rest name).length + if Text.fold item.name = name then 1 else 0 := by
        intro name
        rw [← List.singleton_append, listed_append, listed_singleton, List.length_append,
          Nat.add_comm]
        split <;> rfl
      have here : Text.fold item.name ∈ names := covered item List.mem_cons_self
      simp only [one, Finset.sum_add_distrib, Finset.sum_ite_eq, if_pos here,
        ← ih fun other member => covered other (List.mem_cons_of_mem _ member), List.length_cons]

/-- There are as many headers as values in all lists together. -/
theorem size_eq (agrees : Agrees headers map) : headers.size = map.size := by
  have covered : ∀ item ∈ headers.items, Text.fold item.name ∈ map.names := by
    intro item member
    by_contra absent
    have there : item.value ∈ listed headers.items (Text.fold item.name) :=
      mem_listed.2 ⟨item, member, rfl, rfl⟩
    rw [agrees, map.values_of_not_mem _ absent] at there
    cases there
  rw [size, length_eq_sum headers.items map.names covered, Multimap.size]
  exact Finset.sum_congr rfl fun name _ => by rw [agrees name]

end Agrees

/-- **Whatever is done to a collection that was empty, it agrees with the map to which the same was
done.** -/
theorem agrees_built (changes : List Change) : Agrees (built changes) (Multimap.built changes) := by
  unfold built Multimap.built
  have start : Agrees empty Multimap.empty := .empty
  revert start
  generalize empty = headers, Multimap.empty = map
  intro agrees
  induction changes generalizing headers map with
  | nil => exact agrees
  | cons change rest ih => exact ih _ _ (agrees.change change)

/-! ## Names that a change does not mention -/

/-- Nothing is listed under a folding that no header's name has. -/
theorem listed_eq_nil {items : List Header} {key : String}
    (absent : ∀ item ∈ items, Text.fold item.name ≠ key) : listed items key = [] :=
  List.eq_nil_iff_forall_not_mem.2 fun value there => by
    obtain ⟨item, member, found, _⟩ := mem_listed.1 there
    exact absent item member found

theorem listed_addAll_of_absent (headers : Headers) {items : List Header} {key : String}
    (absent : ∀ item ∈ items, Text.fold item.name ≠ key) :
    listed (headers.addAll items).items key = listed headers.items key := by
  have nothing : listed
      ((ofList items).items.filter fun item => !headers.items.any (·.same item)) key = [] :=
    listed_eq_nil fun item member =>
      absent item ((collected_ofList items).sublist.subset (List.mem_filter.1 member).1)
  rw [items_addAll, listed_append, nothing, List.append_nil]

/-- A change leaves the values of every name that it does not mention. -/
theorem get_change_of_unmentioned {headers : Headers} {change : Change} {name : String}
    (unmentioned : ∀ other ∈ headers.mentioned change, ¬ Text.AgreeUpToCase other name) :
    (headers.change change).get name = headers.get name := by
  simp only [← Text.fold_eq_fold_iff] at unmentioned
  rw [get_eq_listed, get_eq_listed]
  have absent : ∀ items : List Header, (∀ item ∈ items, item.name ∈ headers.mentioned change) →
      ∀ item ∈ items, Text.fold item.name ≠ Text.fold name :=
    fun items among item member => unmentioned _ (among item member)
  cases change with
  | add header =>
      exact listed_addAll_of_absent headers (absent [header] (by simp [mentioned]))
  | addValue other value =>
      exact listed_addAll_of_absent headers (absent [⟨other, value⟩] (by simp [mentioned]))
  | addAll items =>
      exact listed_addAll_of_absent headers
        (absent _ fun item member => List.mem_map_of_mem member)
  | merge other =>
      have nothing : listed other.items (Text.fold name) = [] :=
        listed_eq_nil (absent _ fun item member => List.mem_map_of_mem member)
      rw [Headers.change, items_merge, listed_append, nothing, List.append_nil]
  | mergeSelf =>
      have nothing : listed headers.items (Text.fold name) = [] :=
        listed_eq_nil (absent _ fun item member => List.mem_map_of_mem member)
      rw [Headers.change, items_merge, listed_append, nothing, List.append_nil]
  | recollect =>
      have nothing : listed headers.items (Text.fold name) = [] :=
        listed_eq_nil (absent _ fun item member => List.mem_map_of_mem member)
      rw [Headers.change, listed_addAll_empty, nothing, List.eraseDups_nil]

/-! ## The collection as a multimap -/

/-- **A collection is a map of value lists, by names up to the case of ASCII letters.** Consider any
changes of a collection that was empty at first, and the map to which the same was done.

* The values of a name are those in the map under its folding. The first value is the first of them,
  and a name is contained exactly if there is one. There are as many headers as there are values in
  the map.
* A further change leaves the values of every name that it does not mention.
* Names have one list exactly if they agree up to the case of ASCII letters.
* If the names in the changes and in the question are spelled in other ways, the answers are the
  same. -/
theorem is_multimap (changes : List Change) :
    let headers := built changes
    let map := Multimap.built changes
    (∀ name, headers.get name = map.values (Text.fold name) ∧
        headers.first? name = (headers.get name).head? ∧
        (headers.contains name = true ↔ headers.get name ≠ [])) ∧
      headers.size = map.size ∧
      (∀ change name, (∀ other ∈ headers.mentioned change, ¬ Text.AgreeUpToCase other name) →
        (headers.change change).get name = headers.get name) ∧
      (∀ name other, Text.fold name = Text.fold other ↔ Text.AgreeUpToCase name other) ∧
      ∀ others name other, List.Forall₂ Change.Respelled changes others →
        Text.AgreeUpToCase name other →
          (built others).get other = headers.get name ∧
            (built others).first? other = headers.first? name ∧
            (built others).contains other = headers.contains name := by
  intro headers map
  have agrees : Agrees headers map := agrees_built changes
  refine ⟨fun name => ⟨agrees _, first?_eq_head? _ _, contains_iff _ _⟩, agrees.size_eq,
    fun change name unmentioned => get_change_of_unmentioned unmentioned, Text.fold_eq_fold_iff, ?_⟩
  intro others name other respelled agree
  have same : (built others).get other = headers.get name := by
    rw [get_eq_listed, get_eq_listed, agrees_built others, agrees,
      ← Multimap.built_respelled respelled, (Text.fold_eq_fold_iff _ _).2 agree]
  refine ⟨same, ?_, ?_⟩
  · rw [first?_eq_head?, first?_eq_head?, same]
  · rw [Bool.eq_iff_iff, contains_iff, contains_iff, same]

/-- A name in two spellings, a name that begins with a letter outside ASCII, and a merge with a copy
of all that. -/
def doubled : List Change :=
  [.addValue "Accept" "text/html", .merge ⟨[⟨"ACCEPT", "text/html"⟩, ⟨"Äther", "1"⟩]⟩, .mergeSelf]

/-- What stands there twice stays. The letter outside ASCII keeps its case, so the header that is
added has a name of its own. Another spelling of the first name changes nothing. -/
theorem is_multimap_doubled :
    (built doubled).get "accept" = ["text/html", "text/html", "text/html", "text/html"] ∧
      ((built doubled).change (.addValue "äther" "2")).get "Äther" = ["1", "1"] ∧
      (built (.addValue "aCCEPT" "text/html" :: doubled.tail)).get "aCCept" =
        (built doubled).get "accept" := by
  obtain ⟨-, -, still, -, respelled⟩ := is_multimap doubled
  have apart : ¬ Text.AgreeUpToCase "äther" "Äther" := by
    rw [← Text.fold_eq_fold_iff, ← Text.sameFold_iff, Text.sameFold_eq]
    decide +kernel
  have agree : ∀ left right, Text.sameFold left right = true → Text.AgreeUpToCase left right :=
    fun left right same => (Text.fold_eq_fold_iff _ _).1 ((Text.sameFold_iff _ _).1 same)
  refine ⟨?_, (still _ _ ?_).trans ?_, (respelled _ _ _ ?_ ?_).1⟩
  · simp only [doubled, built, change, get, addValue, add, Header.same, Header.hasName,
      Text.sameFold_eq, List.foldl_cons, List.foldl_nil]
    decide +kernel
  · intro other member
    obtain rfl : other = "äther" := by simpa [mentioned] using member
    exact apart
  · simp only [doubled, built, change, get, addValue, add, Header.same, Header.hasName,
      Text.sameFold_eq, List.foldl_cons, List.foldl_nil]
    decide +kernel
  · refine .cons (.addValue (agree _ _ ?_) _) (.cons (.merge ?_) (.cons .mergeSelf .nil))
    · rw [Text.sameFold_eq]
      decide +kernel
    · exact .cons (Header.same_refl _) (.cons (Header.same_refl _) .nil)
  · refine agree _ _ ?_
    rw [Text.sameFold_eq]
    decide +kernel

end Headers

end ResilientHttp
