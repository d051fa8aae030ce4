import ResilientHttp.Json.Shape
import ResilientHttp.Proofs.Json.Skipping
import ResilientHttp.Proofs.Json.Solid

/-!
# Every shape streams

The shapes that documents are read with are put together from a few (`Shape.IsTarget`): any value, a
text, a truth value, a whole number from a range, a value that may be null, a list, a dictionary and
a record. Each of them is solid, whatever the shapes inside it are, as long as these are solid too
(`Shape.IsTarget.solid`).

Arrays and objects are read by loops whose last turn finds the closing bracket without taking it. The
loops are therefore considered together with the reader that takes the bracket
(`Shape.loops_items`, `Shape.loops_entries`, `Shape.loops_fieldEntries`). A record in an array is
read field by field, so there the fields take the place of the loop (`Shape.solid_fieldsToEnd`).
-/

set_option autoImplicit false

namespace ResilientHttp.Json.Shape

open Results (bind_eq_ok_iff map_eq_ok_iff mapError_eq_ok_iff mapError_ok mapError_error)

/-! ## Between the elements -/

theorem endArray_eq_ok_iff {cursor after : Cursor} :
    endArray cursor = .ok after ↔ cursor.token 0x5d = .ok after := by
  rw [Cursor.token_eq_ok_iff]
  simp only [endArray]
  split <;> simp_all [@eq_comm _ after]
  split <;> simp

theorem endObject_eq_ok_iff {cursor after : Cursor} :
    endObject cursor = .ok after ↔ cursor.token 0x7d = .ok after := by
  rw [Cursor.token_eq_ok_iff]
  simp only [endObject]
  split <;> simp_all [@eq_comm _ after]

theorem colon_eq_ok_iff {cursor after : Cursor} :
    colon cursor = .ok after ↔ cursor.token 0x3a = .ok after := by
  rw [Cursor.token_eq_ok_iff]
  simp only [colon]
  split <;> simp_all [@eq_comm _ after]

/-- A result whose fault is left out. -/
def silent {Problem Value : Type} (result : Except Problem Value) : Except Unit Value :=
  result.mapError fun _ => ()

theorem silent_eq_ok_iff {Problem Value : Type} {result : Except Problem Value} {value : Value} :
    silent result = .ok value ↔ result = .ok value :=
  mapError_eq_ok_iff

/-- Goes to where the next element may begin: a comma stands before each but the first. -/
def lead (isFirst : Bool) (cursor : Cursor) : Except Fault Cursor :=
  if isFirst then .ok cursor else cursor.token 0x2c

section Elements

variable {Problem Index Result : Type} {make : Index → Cursor → Result}

theorem solid_lead {read : Cursor → Except Unit Result} (isFirst : Bool)
    (solid : Solid make read) :
    Solid make fun cursor => silent (lead isFirst cursor) >>= read := by
  cases isFirst with
  | true => exact solid
  | false => exact (solid_token 0x2c).mapError.moveThen solid.streams

/-- An item is there if the array does not end, and not directly behind a comma either. -/
theorem nextItem_eq_ok_iff {isFirst : Bool} {cursor : Cursor} {next : Option Cursor} :
    nextItem isFirst cursor = .ok next ↔
      if cursor.skipBlanks.peek? = some 0x5d then none = next
      else ∃ after byte, lead isFirst cursor = .ok after ∧ after.skipBlanks.peek? = some byte ∧
        byte ≠ 0x5d ∧ some after.skipBlanks = next := by
  unfold nextItem lead
  cases found : cursor.skipBlanks.peek? with
  | none => cases isFirst <;> simp [Cursor.token_eq_ok_iff, found]
  | some byte =>
      simp only [found, Option.some.injEq]
      by_cases closes : byte = 0x5d
      · simp [closes]
      simp only [closes, if_false]
      cases isFirst with
      | true => simp [closes, found]
      | false =>
          by_cases comma : byte = 0x2c
          · simp only [comma, if_true, Bool.false_eq_true, if_false, Cursor.token_eq_ok_iff, found,
              true_and, exists_and_left, exists_eq_left]
            split <;> simp_all
          · simp [comma, Cursor.token_eq_ok_iff, found]

/-- A name is there if the object does not end. -/
theorem nextName_eq_ok_iff {isFirst : Bool} {cursor : Cursor} {next : Option (String × Cursor)} :
    nextName isFirst cursor = .ok next ↔
      if cursor.skipBlanks.peek? = some 0x7d then none = next
      else ∃ after named, lead isFirst cursor = .ok after ∧
        after.token 0x22 >>= Literal.read = .ok named ∧ some named = next := by
  unfold nextName lead
  simp only [mapError_eq_ok_iff, Cursor.token_eq_ok_iff, bind_eq_ok_iff]
  cases found : cursor.skipBlanks.peek? with
  | none => cases isFirst <;> simp [Cursor.token_eq_ok_iff, found]
  | some byte =>
      simp only [Option.some.injEq]
      by_cases closes : byte = 0x7d
      · simp [closes]
      simp only [closes, if_false]
      cases isFirst with
      | true =>
          by_cases quote : byte = 0x22
          · simp [quote, found, map_eq_ok_iff]
          · simp [quote, found]
      | false =>
          by_cases comma : byte = 0x2c
          · simp only [comma, if_true, Bool.false_eq_true, if_false, Cursor.token_eq_ok_iff, found,
              true_and, exists_and_left, exists_eq_left]
            split <;> simp_all [map_eq_ok_iff]
          · simp [comma, Cursor.token_eq_ok_iff, found]

/-- An item of an array, or what comes at its end. -/
theorem solid_item {lift : Except Fault (Option Cursor) → Except Problem (Option Cursor)}
    (kept : ∀ result next, lift result = .ok next ↔ result = .ok next)
    {atEnd read : Cursor → Except Problem Result} (ends : Solid make atEnd)
    (reads : Solid make read) (isFirst : Bool) :
    Solid make fun cursor => lift (nextItem isFirst cursor) >>= fun
      | none => atEnd cursor
      | some start => read start := by
  have behind : Solid make fun cursor => silent (read cursor.skipBlanks) :=
    (Solid.behindBlanks reads.streams reads.fails).mapError
  have item := solid_lead isFirst (.ifToken (· = some 0x5d) (.fail fun _ => ()) behind)
  have closed : Solid make fun cursor => silent (atEnd cursor) := ends.mapError
  refine (closed.ifToken (· = some 0x5d) item).congr fun cursor result => ?_
  simp only [bind_eq_ok_iff, kept, nextItem_eq_ok_iff]
  split
  · simp [silent_eq_ok_iff]
  · simp only [bind_eq_ok_iff, silent_eq_ok_iff]
    constructor
    · rintro ⟨_, ⟨after, byte, led, found, other, rfl⟩, done⟩
      exact ⟨after, led, by simpa [found, other, silent_eq_ok_iff] using done⟩
    · rintro ⟨after, led, done⟩
      split at done
      · cases done
      · rename_i other
        rw [silent_eq_ok_iff] at done
        obtain ⟨byte, found⟩ : ∃ byte, after.skipBlanks.peek? = some byte :=
          Option.ne_none_iff_exists'.1 fun ended =>
            reads.fails _ _ (List.head?_eq_none_iff.1 ended) done
        exact ⟨_, ⟨after, byte, led, found, fun same => other (same ▸ found), rfl⟩, done⟩

/-- An entry of an object, or what comes at its end. -/
theorem solid_entry
    {lift : Except Fault (Option (String × Cursor)) → Except Problem (Option (String × Cursor))}
    (kept : ∀ result next, lift result = .ok next ↔ result = .ok next)
    {atEnd : Cursor → Except Problem Result} {read : String → Cursor → Except Problem Result}
    (ends : Solid make atEnd) (reads : ∀ name, Solid make (read name)) (isFirst : Bool) :
    Solid make fun cursor => lift (nextName isFirst cursor) >>= fun
      | none => atEnd cursor
      | some (name, after) => read name after := by
  have name : Solid Prod.mk fun cursor => silent (cursor.token 0x22 >>= Literal.read) :=
    ((solid_token 0x22).moveThen Literal.streams_read).mapError
  have value : ∀ name, Solid make fun cursor => silent (read name cursor) :=
    fun name => (reads name).mapError
  have entry : Solid make fun cursor =>
      silent (cursor.token 0x22 >>= Literal.read) >>= fun named => silent (read named.1 named.2) :=
    name.andThen fun name => (value name).streams
  have closed : Solid make fun cursor => silent (atEnd cursor) := ends.mapError
  refine (closed.ifToken (· = some 0x7d) (solid_lead isFirst entry)).congr fun cursor result => ?_
  simp only [bind_eq_ok_iff, kept, nextName_eq_ok_iff]
  split
  · simp [silent_eq_ok_iff]
  · simp only [bind_eq_ok_iff, silent_eq_ok_iff]
    constructor
    · rintro ⟨_, ⟨after, named, led, found, rfl⟩, done⟩
      exact ⟨after, led, named, found, done⟩
    · rintro ⟨after, led, named, found, done⟩
      exact ⟨_, ⟨after, named, led, found, rfl⟩, done⟩

end Elements

/-! ## Arrays and objects -/

section Loops

variable {item : Cursor → Except Fault (Value × Cursor)}

theorem solid_endArray : Solid (fun (_ : Unit) after => after) endArray :=
  (solid_token 0x5d).congr fun _ _ => endArray_eq_ok_iff

theorem solid_endObject : Solid (fun (_ : Unit) after => after) endObject :=
  (solid_token 0x7d).congr fun _ _ => endObject_eq_ok_iff

/-- One turn of reading an array: its end, or an item. -/
def itemTurn (item : Cursor → Except Fault (Value × Cursor)) (index : Nat) (cursor : Cursor) :
    Except Fault (Turn Nat (List Value) × Cursor) := do
  match ← nextItem (index = 0) cursor with
  | none => (endArray cursor).map fun after => (.done [], after)
  | some start =>
    (item start).map fun read => (.goesOn (index + 1) fun others => read.1 :: others, read.2)

/-- The items of an array and its end are read turn by turn. -/
theorem loops_items : Loops (itemTurn item) fun allowance index cursor => do
    let (values, after) ← items item allowance index cursor
    .ok (values, ← endArray after) where
  zero index cursor result done := by
    obtain ⟨_, read, _⟩ := bind_eq_ok_iff.1 done
    cases read
  succ allowance index cursor result := by
    conv => lhs; unfold items
    unfold itemTurn
    rcases nextItem (index = 0) cursor with fault | none | start
    · exact ⟨nofun, nofun⟩
    · cases ended : endArray cursor <;> simp [ended, bind, Except.bind, Except.map, Turn.follow]
    · cases read : item start with
      | error fault => simp [read, mapError_error, bind, Except.bind, Except.map]
      | ok reading =>
          simp only [read, mapError_ok, bind, Except.bind, Except.map, Turn.follow]
          rcases items item allowance (index + 1) reading.2 with fault | ⟨others, behind⟩
          · simp
          · cases ended : endArray behind <;> simp [ended]

theorem solid_itemTurn (solid : Solid Prod.mk item) (index : Nat) :
    Solid Prod.mk (itemTurn item index) := by
  refine solid_item (fun _ _ => Iff.rfl) (solid_endArray.giving _) ?_ _
  exact solid.map fun value => Turn.goesOn (index + 1) fun others => value :: others

theorem streams_array (solid : Solid Prod.mk item) : Streams Prod.mk (array item) :=
  loops_items.streams_of_solid (solid_itemTurn solid) 0

/-- The value of an entry stands behind a colon. -/
theorem solid_entryValue {Index Result : Type} {make : Index → Cursor → Result}
    {value : Cursor → Except Fault Result} (streams : Streams make value) (name : String) :
    Solid make (entryValue name value) :=
  Solid.moveThen ((solid_token 0x3a).congr fun _ _ => colon_eq_ok_iff) streams.mapError

/-- The entries that were read before. -/
abbrev Gathered := List (String × Value)

/-- One turn of reading an object: its end, or an entry, which is put to those before. -/
def entryTurn {Problem : Type} (lift : {Item : Type} → Except Fault Item → Except Problem Item)
    (entry : String → Gathered → Cursor → Except Problem (Gathered × Cursor))
    (state : Bool × Gathered) (cursor : Cursor) :
    Except Problem (Turn (Bool × Gathered) Gathered × Cursor) := do
  match ← lift (nextName state.1 cursor) with
  | none => (lift (endObject cursor)).map fun after => (.done state.2, after)
  | some (name, after) =>
    (entry name state.2 after).map fun read => (.goesOn (false, read.1) id, read.2)

theorem solid_entryTurn {Problem : Type}
    {lift : {Item : Type} → Except Fault Item → Except Problem Item}
    (kept : ∀ {Item : Type} (result : Except Fault Item) (item : Item),
      lift result = .ok item ↔ result = .ok item)
    {entry : String → Gathered → Cursor → Except Problem (Gathered × Cursor)}
    (solid : ∀ name before, Solid Prod.mk (entry name before)) (state : Bool × Gathered) :
    Solid Prod.mk (entryTurn lift entry state) := by
  have ends : Solid (fun (_ : Unit) after => after) fun cursor => lift (endObject cursor) :=
    solid_endObject.congr fun cursor after => kept (endObject cursor) after
  refine solid_entry kept (ends.giving _) (fun name => ?_) _
  exact (solid name state.2).map fun entries => Turn.goesOn (false, entries) id

/-- A reader that takes such turns, together with the reader of the end, is a loop. -/
theorem loops_entryTurn {Problem : Type}
    {lift : {Item : Type} → Except Fault Item → Except Problem Item}
    {entry : String → Gathered → Cursor → Except Problem (Gathered × Cursor)}
    {read : Nat → Bool → Gathered → Cursor → Except Problem (Gathered × Cursor)}
    (zero : ∀ isFirst before cursor result, read 0 isFirst before cursor ≠ .ok result)
    (succ : ∀ allowance isFirst before cursor, read (allowance + 1) isFirst before cursor =
      lift (nextName isFirst cursor) >>= fun
        | none => .ok (before, cursor)
        | some (name, after) => entry name before after >>= fun gathered =>
          read allowance false gathered.1 gathered.2) :
    Loops (entryTurn lift entry) (fun allowance state cursor => do
      let (gathered, after) ← read allowance state.1 state.2 cursor
      .ok (gathered, ← lift (endObject after))) where
  zero state cursor result done := by
    obtain ⟨gathered, found, _⟩ := bind_eq_ok_iff.1 done
    exact zero _ _ _ gathered found
  succ allowance state cursor result := by
    rw [succ]
    unfold entryTurn
    rcases next : lift (nextName state.1 cursor) with fault | none | ⟨name, after⟩
    · simp [next, bind, Except.bind]
    · cases ended : lift (endObject cursor) <;>
        simp [next, ended, bind, Except.bind, Except.map, Turn.follow]
    · cases found : entry name state.2 after with
      | error fault => simp [next, found, bind, Except.bind, Except.map]
      | ok gathered =>
          simp [next, found, bind, Except.bind, Except.map, Turn.follow_goesOn_id]

/-- An entry of a dictionary is put to those before. -/
def dictionaryEntry (value : Cursor → Except Fault (Value × Cursor)) (name : String)
    (before : Gathered) (cursor : Cursor) : Except Fault (Gathered × Cursor) :=
  (entryValue name value cursor).map fun read => (Entries.insert name read.1 before, read.2)

theorem entries_succ (allowance : Nat) (isFirst : Bool) (before : Gathered) (cursor : Cursor) :
    entries item (allowance + 1) isFirst before cursor =
      id (nextName isFirst cursor) >>= fun
        | none => .ok (before, cursor)
        | some (name, after) => dictionaryEntry item name before after >>= fun gathered =>
          entries item allowance false gathered.1 gathered.2 := by
  conv => lhs; unfold entries
  rcases nextName isFirst cursor with fault | none | ⟨name, after⟩
  · rfl
  · rfl
  · unfold dictionaryEntry
    cases read : entryValue name item after <;> simp [read, bind, Except.bind, Except.map]

/-- The entries of an object and its end are read turn by turn. -/
theorem loops_entries :
    Loops (entryTurn id (dictionaryEntry item)) (fun allowance state cursor => do
      let (gathered, after) ← entries item allowance state.1 state.2 cursor
      .ok (gathered, ← endObject after)) :=
  loops_entryTurn (fun _ _ _ _ => nofun) entries_succ

theorem streams_object (solid : Solid Prod.mk item) : Streams Prod.mk (object item) := by
  have turns : ∀ state, Solid Prod.mk (entryTurn id (dictionaryEntry item) state) :=
    solid_entryTurn (fun _ _ => Iff.rfl) fun name before =>
      (solid_entryValue solid.streams name).map fun value => Entries.insert name value before
  exact loops_entries.streams_of_solid turns (true, [])

end Loops

/-! ## Records -/

section Records

variable {name : String} {count depth : Nat} {fields : List Field}

theorem placed_eq_ok_iff {Item : Type} (result : Except Fault Item) (item : Item) :
    placed result = .ok item ↔ result = .ok item :=
  mapError_eq_ok_iff

/-- Reads the fields of a record from an array, and its end. -/
def fieldsToEnd (name : String) (count depth index : Nat) (fields : List Field) (cursor : Cursor) :
    Except Unplaced (Gathered × Cursor) := do
  let (read, after) ← fieldItems name count depth index fields cursor
  .ok (read, ← placed (endArray after))

/-- A field is put before those that follow it up to the end. -/
theorem map_fieldsToEnd (index : Nat) (added : String × Value) (cursor : Cursor) :
    (do
      let (read, after) ← (do
        let (others, behind) ← fieldItems name count depth index fields cursor
        .ok (added :: others, behind))
      .ok (read, ← placed (endArray after))) =
      (fieldsToEnd name count depth index fields cursor).map fun others =>
        (added :: others.1, others.2) := by
  unfold fieldsToEnd
  rcases fieldItems name count depth index fields cursor with fault | ⟨others, behind⟩
  · rfl
  · rcases ended : placed (endArray behind) with fault | after <;>
      simp [ended, bind, Except.bind, Except.map]

/-- One field of a record in an array, and those behind it. -/
theorem fieldsToEnd_cons (index : Nat) (field : Field) (rest : List Field) (cursor : Cursor) :
    fieldsToEnd name count depth index (field :: rest) cursor =
      placed (nextItem (index = 0) cursor) >>= fun
        | none =>
          match field.default with
          | some value =>
            (fieldsToEnd name count depth (index + 1) rest cursor).map fun others =>
              ((field.name, value) :: others.1, others.2)
          | none => .error (.open (.wrongLength index (lengthText name count)) cursor)
        | some start =>
          placed ((field.shape depth start).mapError (Fault.inside (.item index))) >>= fun read =>
            (fieldsToEnd name count depth (index + 1) rest read.2).map fun others =>
              ((field.name, read.1) :: others.1, others.2) := by
  conv => lhs; unfold fieldsToEnd; unfold fieldItems
  rcases placed (nextItem (index = 0) cursor) with fault | none | start
  · rfl
  · cases field.default with
    | none => rfl
    | some value => exact map_fieldsToEnd (index + 1) (field.name, value) cursor
  · simp only [bind, Except.bind]
    rcases placed ((field.shape depth start).mapError (Fault.inside (.item index))) with fault | read
    · rfl
    · exact map_fieldsToEnd (index + 1) (field.name, read.1) read.2

/-- The fields of a record in an array are read up to the end, if each of their shapes is. -/
theorem solid_fieldsToEnd (index : Nat)
    (solid : ∀ field ∈ fields, ∀ depth, Solid Prod.mk (field.shape depth)) :
    Solid Prod.mk (fieldsToEnd name count depth index fields) := by
  induction fields generalizing index with
  | nil => exact solid_endArray.mapError.giving []
  | cons field rest ih =>
      have others := fun index => ih index fun other there => solid other (.tail _ there)
      have added := fun value => (others (index + 1)).map fun others => (field.name, value) :: others
      rw [funext (fieldsToEnd_cons index field rest)]
      refine solid_item placed_eq_ok_iff ?_ ?_ (index = 0)
      · cases field.default with
        | none => exact .fail _
        | some value => exact added value
      · exact (solid field (.head _) depth).mapError.mapError.andThen fun value =>
          (added value).streams

/-- An entry of a record is that of a field, which is not given twice, or is passed over. -/
def recordEntry (fields : List Field) (depth : Nat) (name : String) (before : Gathered)
    (cursor : Cursor) : Except Unplaced (Gathered × Cursor) :=
  match fields.find? (·.name == name) with
  | some field =>
    if (before.lookup name).isSome then .error (.open (.duplicateField name) cursor)
    else
      (placed (entryValue name (field.shape depth) cursor)).map fun read =>
        ((name, read.1) :: before, read.2)
  | none => (placed (entryValue name Skip.value cursor)).map fun behind => (before, behind)

theorem fieldEntries_succ (allowance : Nat) (isFirst : Bool) (before : Gathered)
    (cursor : Cursor) :
    fieldEntries fields depth (allowance + 1) isFirst before cursor =
      placed (nextName isFirst cursor) >>= fun
        | none => .ok (before, cursor)
        | some (name, after) => recordEntry fields depth name before after >>= fun gathered =>
          fieldEntries fields depth allowance false gathered.1 gathered.2 := by
  conv => lhs; unfold fieldEntries
  rcases placed (nextName isFirst cursor) with fault | none | ⟨name, after⟩
  · rfl
  · rfl
  · cases found : fields.find? (·.name == name) with
    | some field =>
        simp only [recordEntry, found, bind, Except.bind]
        split
        · rfl
        · rcases placed (entryValue name _ after) with fault | read <;> rfl
    | none =>
        simp only [recordEntry, found, bind, Except.bind]
        rcases placed (entryValue name Skip.value after) with fault | behind <;> rfl

/-- The entries of a record and its end are read turn by turn. -/
theorem loops_fieldEntries :
    Loops (entryTurn placed (recordEntry fields depth)) (fun allowance state cursor => do
      let (gathered, after) ← fieldEntries fields depth allowance state.1 state.2 cursor
      .ok (gathered, ← placed (endObject after))) :=
  loops_entryTurn (fun _ _ _ _ => nofun) fieldEntries_succ

theorem solid_recordEntry (solid : ∀ field ∈ fields, ∀ depth, Solid Prod.mk (field.shape depth))
    (name : String) (before : Gathered) :
    Solid Prod.mk (recordEntry fields depth name before) := by
  unfold recordEntry
  split
  · rename_i field found
    split
    · exact .fail _
    · have shaped := solid field (List.mem_of_find?_eq_some found) depth
      have value := solid_entryValue shaped.streams name
      exact value.mapError.map fun value => (name, value) :: before
  · exact (solid_entryValue Skip.stops_value name).mapError.giving before

/-- Whether the values of all fields are there does not depend on the place. -/
theorem arrange_eq_ok_iff {read values : Gathered} {cursor : Cursor} (other : Cursor) :
    arrange read cursor fields = .ok values ↔ arrange read other fields = .ok values := by
  induction fields generalizing values with
  | nil => rfl
  | cons field rest ih =>
      unfold arrange
      cases (read.lookup field.name).orElse fun _ => field.default with
      | none => exact ⟨nofun, nofun⟩
      | some value => simp only [map_eq_ok_iff, ih]

/-- The values of the fields are put in order where the entries were read. -/
theorem streams_arrange (read : Gathered) :
    Streams Prod.mk fun cursor =>
      (arrange read cursor fields).map fun values => (Value.object values, cursor) := by
  have same : Streams Prod.mk fun cursor =>
      (arrange read ⟨[], 1, 0⟩ fields).map fun values => (Value.object values, cursor) := by
    cases arrange read ⟨[], 1, 0⟩ fields with
    | error fault => exact .fail fun _ => fault
    | ok values => exact streams_stay (Value.object values)
  refine same.congr fun cursor result => ?_
  simp only [map_eq_ok_iff, arrange_eq_ok_iff ⟨[], 1, 0⟩]

theorem close_eq_ok_iff {finish : Cursor → Except Fault Cursor} {behind : Cursor → Cursor}
    {content : Except Unplaced (Gathered × Cursor)} {result : Value × Cursor} :
    close finish behind content = .ok result ↔
      ∃ values cursor after, content = .ok (values, cursor) ∧ finish cursor = .ok after ∧
        (.object values, after) = result := by
  rcases content with (fault | ⟨cause, cursor⟩) | ⟨values, cursor⟩
  · simp [close]
  · simp [close]
  · simp [close, map_eq_ok_iff, and_assoc]

/-- The items of a record in an array. -/
theorem streams_recordItems (solid : ∀ field ∈ fields, ∀ depth, Solid Prod.mk (field.shape depth)) :
    Streams Prod.mk fun cursor =>
      close endArray behindArray (fieldItems name count depth 0 fields cursor) := by
  have items : Streams Prod.mk (fieldsToEnd name count depth 0 fields) :=
    (solid_fieldsToEnd 0 solid).streams
  refine (items.map Value.object).congr fun cursor result => ?_
  simp only [close_eq_ok_iff, map_eq_ok_iff, fieldsToEnd, bind_eq_ok_iff, placed_eq_ok_iff]
  constructor
  · rintro ⟨values, behind, after, read, ended, rfl⟩
    exact ⟨(values, after), ⟨_, read, after, ended, rfl⟩, rfl⟩
  · rintro ⟨_, ⟨⟨values, behind⟩, read, after, ended, same⟩, rfl⟩
    obtain rfl := Except.ok.inj same
    exact ⟨values, behind, after, read, ended, rfl⟩

/-- The entries of a record in an object. -/
theorem streams_recordEntries
    (solid : ∀ field ∈ fields, ∀ depth, Solid Prod.mk (field.shape depth)) :
    Streams Prod.mk (fun inside =>
      close endObject behindObject (do
        let (read, after) ← fieldEntries fields depth (inside.rest.length + 1) true [] inside
        .ok (← arrange read after fields, after))) := by
  have turns : ∀ state, Solid Prod.mk (entryTurn placed (recordEntry fields depth) state) :=
    solid_entryTurn placed_eq_ok_iff (solid_recordEntry solid)
  have entries : Streams Prod.mk (fun inside => (do
      let (read, after) ← fieldEntries fields depth (inside.rest.length + 1) true [] inside
      .ok (read, ← placed (endObject after))) >>= fun gathered =>
        (arrange gathered.1 gathered.2 fields).map fun values => (Value.object values, gathered.2)) :=
    (loops_fieldEntries.streams_of_solid turns (true, [])).andThen streams_arrange
  refine entries.congr fun cursor result => ?_
  simp only [close_eq_ok_iff, map_eq_ok_iff, bind_eq_ok_iff, placed_eq_ok_iff]
  constructor
  · rintro ⟨values, behind, after, ⟨⟨read, _⟩, found, arranged, there, same⟩, ended, rfl⟩
    obtain ⟨rfl, rfl⟩ := Prod.mk.inj (Except.ok.inj same)
    exact ⟨(read, after), ⟨_, found, after, ended, rfl⟩, _, (arrange_eq_ok_iff _).1 there, rfl⟩
  · rintro ⟨_, ⟨⟨read, behind⟩, found, after, ended, same⟩, values, arranged, rfl⟩
    obtain rfl := Except.ok.inj same
    exact ⟨values, behind, after, ⟨_, found, values, (arrange_eq_ok_iff _).1 arranged, rfl⟩, ended,
      rfl⟩

end Records

/-! ## Shapes -/

theorem solid_begin {Index Result : Type} {make : Index → Cursor → Result}
    {read : UInt8 → Cursor → Except Fault Result}
    (streams : ∀ byte, StreamsFrom byte make (read byte)) :
    Solid make fun cursor => begin cursor read := by
  refine Solid.behindBlanks (streams_next (fun cursor => cursor.faultNext .endInValue) streams) ?_
  intro cursor result ended
  simp [Cursor.peek?, ended]

/-- From a byte on a value is read, unless the byte is an opening bracket. -/
theorem scalar_cases (byte : UInt8) :
    (∀ cursor, scalar byte cursor = none) ∨
      ∃ read : Cursor → Except Fault (Value × Cursor),
        (∀ cursor, scalar byte cursor = some (read cursor)) ∧ StreamsFrom byte Prod.mk read := by
  unfold scalar
  split
  · exact .inr ⟨_, fun _ => rfl, (Streams.giving (stops_word _) Value.null).advance byte⟩
  split
  · exact .inr ⟨_, fun _ => rfl, (Streams.giving (stops_word _) (Value.bool true)).advance byte⟩
  split
  · exact .inr ⟨_, fun _ => rfl, (Streams.giving (stops_word _) (Value.bool false)).advance byte⟩
  split
  · exact .inr ⟨_, fun _ => rfl, ((Numeral.streams_read true).map Value.number).advance byte⟩
  split
  · exact .inr ⟨_, fun _ => rfl, (Numeral.streamsFrom_read byte).map Value.number⟩
  split
  · exact .inr ⟨_, fun _ => rfl, (Literal.streams_read.map Value.text).advance byte⟩
  split
  · exact .inl fun _ => rfl
  · exact .inr ⟨_, fun _ => rfl, .fail _⟩

/-- What a document can be read as. -/
inductive IsTarget : Shape → Prop where
  | any : IsTarget any
  | text : IsTarget text
  | flag : IsTarget flag
  | whole (expected : String) (isInRange : Number → Bool) : IsTarget (whole expected isInRange)
  | optional {shape : Shape} (target : IsTarget shape) : IsTarget (optional shape)
  | list {item : Shape} (target : IsTarget item) : IsTarget (list item)
  | dictionary {value : Shape} (target : IsTarget value) : IsTarget (dictionary value)
  | record (name : String) {fields : List Field}
      (targets : ∀ field ∈ fields, IsTarget field.shape) : IsTarget (record name fields)

theorem IsTarget.natural32 : IsTarget natural32 := .whole _ _

theorem IsTarget.integer64 : IsTarget integer64 := .whole _ _

theorem solid_any (depth : Nat) : Solid Prod.mk (any depth) := by
  induction depth with
  | zero => exact .fail _
  | succ depth ih =>
      refine solid_begin fun byte => ?_
      rcases scalar_cases byte with opens | ⟨read, reads, streams⟩
      · simp only [opens]
        refine .ite (.fail _) (.ite ?_ ?_)
        · exact ((streams_array ih).map Value.array).advance byte
        · exact ((streams_object ih).map Value.object).advance byte
      · simpa only [reads] using streams

theorem solid_text (depth : Nat) : Solid Prod.mk (text depth) :=
  solid_begin fun byte => .ite ((Literal.streams_read.map Value.text).advance byte) (.fail _)

theorem solid_flag (depth : Nat) : Solid Prod.mk (flag depth) :=
  solid_begin fun byte => .ite ((Streams.giving (stops_word _) (Value.bool true)).advance byte)
    (.ite ((Streams.giving (stops_word _) (Value.bool false)).advance byte) (.fail _))

/-- What is made of a number that was read: it has to be a whole one from the range. -/
def judge (expected : String) (isInRange : Number → Bool) (read : Number × Cursor) :
    Except Fault (Value × Cursor) :=
  match read with
  | (.real isNegative magnitude, after) =>
    .error (after.faultHere (.wrongType (.number (.real isNegative magnitude)) expected))
  | (number, after) =>
    if isInRange number then .ok (.number number, after)
    else .error (after.faultHere (.wrongValue (.number number) expected))

theorem streams_judge (expected : String) (isInRange : Number → Bool) (number : Number) :
    Streams Prod.mk fun cursor => judge expected isInRange (number, cursor) := by
  cases number with
  | real isNegative magnitude => exact .fail _
  | natural value => exact .ite (streams_stay _) (.fail _)
  | negative distance => exact .ite (streams_stay _) (.fail _)

theorem solid_whole (expected : String) (isInRange : Number → Bool) (depth : Nat) :
    Solid Prod.mk (whole expected isInRange depth) := by
  have judged := streams_judge expected isInRange
  exact solid_begin fun byte => .ite (((Numeral.streams_read true).andThen judged).advance byte)
    (.ite ((Numeral.streamsFrom_read byte).andThen judged) (.fail (mismatch expected byte)))

theorem solid_optional {shape : Shape} (solid : ∀ depth, Solid Prod.mk (shape depth))
    (depth : Nat) : Solid Prod.mk (optional shape depth) := by
  have null : Solid Prod.mk fun cursor =>
      (cursor.token 0x6e >>= fun after => after.word [0x75, 0x6c, 0x6c]).map fun after =>
        (Value.null, after) := ((solid_token 0x6e).moveThen (stops_word _)).giving Value.null
  have other : Solid Prod.mk fun cursor => shape depth cursor.skipBlanks :=
    .behindBlanks (solid depth).streams (solid depth).fails
  refine (null.ifToken (· = some 0x6e) other).congr fun cursor result => ?_
  unfold optional
  by_cases next : cursor.skipBlanks.peek? = some 0x6e
  · simp only [next, if_true, Cursor.token_of_peek? next]
    rfl
  · simp only [next, if_false]

theorem solid_list {item : Shape} (solid : ∀ depth, Solid Prod.mk (item depth)) (depth : Nat) :
    Solid Prod.mk (list item depth) :=
  solid_begin fun byte => .ite (.ite (.fail _)
    (((streams_array (solid _)).map Value.array).advance byte)) (.fail _)

theorem solid_dictionary {value : Shape} (solid : ∀ depth, Solid Prod.mk (value depth))
    (depth : Nat) : Solid Prod.mk (dictionary value depth) :=
  solid_begin fun byte => .ite (.ite (.fail _)
    (((streams_object (solid _)).map Value.object).advance byte)) (.fail _)

theorem solid_record (name : String) {fields : List Field}
    (solid : ∀ field ∈ fields, ∀ depth, Solid Prod.mk (field.shape depth)) (depth : Nat) :
    Solid Prod.mk (record name fields depth) :=
  solid_begin fun byte => .ite (.ite (.fail _) ((streams_recordItems solid).advance byte))
    (.ite (.ite (.fail _) ((streams_recordEntries solid).advance byte)) (.fail _))

/-- **Every shape is solid.** What a document is read as is owed to the bytes that are taken alone,
wherever they stand, and there is at least one that is no blank. -/
theorem IsTarget.solid {shape : Shape} (target : IsTarget shape) (depth : Nat) :
    Solid Prod.mk (shape depth) := by
  induction target generalizing depth with
  | any => exact solid_any depth
  | text => exact solid_text depth
  | flag => exact solid_flag depth
  | whole expected isInRange => exact solid_whole expected isInRange depth
  | optional _ ih => exact solid_optional ih depth
  | list _ ih => exact solid_list ih depth
  | dictionary _ ih => exact solid_dictionary ih depth
  | record name _ ih => exact solid_record name ih depth

end ResilientHttp.Json.Shape
