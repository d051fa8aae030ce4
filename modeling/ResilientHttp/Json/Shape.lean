import ResilientHttp.Json.Skip

/-!
# Shapes

A shape says what a value of a document has to look like, and reads such a value. There are shapes
for any value, for texts, truth values, whole numbers of a range, values that may be null, lists,
dictionaries, and records with named fields. A record may be given as an object, in which unknown
entries are passed over, or as an array of its fields in order.

Arrays and objects are nested at most 127 deep in what is read; each shape is told how many levels
are left. A fault in an item or entry is extended by the step that leads to it.

Some faults concern a whole array or object: a field is missing, or given twice. They are noticed
behind the end of the array or object if that follows, and otherwise where reading stopped
(`Unplaced`).
-/

set_option autoImplicit false

namespace ResilientHttp.Json

/-- Reads a value of a certain form, given how many levels of nesting are left. -/
abbrev Shape := Nat → Cursor → Except Fault (Value × Cursor)

/-- A fault that has a place, or one that concerns the whole array or object and has none yet. -/
inductive Unplaced where
  | placed (fault : Fault)
  | open (cause : Cause) (cursor : Cursor)

namespace Shape

/-- The number of levels that a whole document may use up. -/
def maxDepth : Nat := 128

/-! ## Arrays -/

/-- Looks for the next item of an array: the position where it begins, or nothing at the end. -/
def nextItem (isFirst : Bool) (cursor : Cursor) : Except Fault (Option Cursor) :=
  let blank := cursor.skipBlanks
  match blank.peek? with
  | none => .error (blank.faultNext .endInList)
  | some byte =>
    if byte = 0x5d then .ok none
    else if isFirst then .ok (some blank)
    else if byte = 0x2c then
      let after := blank.advance.skipBlanks
      match after.peek? with
      | none => .error (after.faultNext .endInValue)
      | some 0x5d => .error (after.faultNext .trailingComma)
      | some _ => .ok (some after)
    else .error (blank.faultNext .noListComma)

/-- Reads the end of an array. -/
def endArray (cursor : Cursor) : Except Fault Cursor :=
  let blank := cursor.skipBlanks
  match blank.peek? with
  | none => .error (blank.faultNext .endInList)
  | some 0x5d => .ok blank.advance
  | some 0x2c =>
    let after := blank.advance.skipBlanks
    if after.peek? = some 0x5d then .error (after.faultNext .trailingComma)
    else .error (after.faultNext .trailingCharacters)
  | some _ => .error (blank.faultNext .trailingCharacters)

/-- Where reading stands after the end of an array was looked for. -/
def behindArray (cursor : Cursor) : Cursor :=
  let blank := cursor.skipBlanks
  match blank.peek? with
  | some 0x5d => blank.advance
  | some 0x2c => blank.advance.skipBlanks
  | _ => blank

/-- Reads the items of an array. -/
def items (item : Cursor → Except Fault (Value × Cursor)) :
    Nat → Nat → Cursor → Except Fault (List Value × Cursor)
  | 0, _, cursor => .error (cursor.faultNext .endInList)
  | fuel + 1, index, cursor => do
    match ← nextItem (index = 0) cursor with
    | none => .ok ([], cursor)
    | some start =>
      let (value, after) ← (item start).mapError (Fault.inside (.item index))
      let (others, behind) ← items item fuel (index + 1) after
      .ok (value :: others, behind)

/-- Reads an array, from behind its bracket. -/
def array (item : Cursor → Except Fault (Value × Cursor)) (cursor : Cursor) :
    Except Fault (List Value × Cursor) := do
  let (values, after) ← items item (cursor.rest.length + 1) 0 cursor
  .ok (values, ← endArray after)

/-! ## Objects -/

/-- Looks for the next name of an object, and reads it. -/
def nextName (isFirst : Bool) (cursor : Cursor) : Except Fault (Option (String × Cursor)) :=
  let read (cursor : Cursor) : Except Fault (Option (String × Cursor)) :=
    (Literal.read cursor.advance).map some
  let found : Except Fault (Option (String × Cursor)) :=
    let blank := cursor.skipBlanks
    match blank.peek? with
    | none => .error (blank.faultNext .endInObject)
    | some byte =>
      if byte = 0x7d then .ok none
      else if isFirst then
        if byte = 0x22 then read blank else .error (blank.faultNext .nameNotText)
      else if byte = 0x2c then
        let after := blank.advance.skipBlanks
        match after.peek? with
        | none => .error (after.faultNext .endInValue)
        | some 0x22 => read after
        | some 0x7d => .error (after.faultNext .trailingComma)
        | some _ => .error (after.faultNext .nameNotText)
      else .error (blank.faultNext .noObjectComma)
  found.mapError (Fault.inside .unknown)

/-- Reads the colon behind a name. -/
def colon (cursor : Cursor) : Except Fault Cursor :=
  let blank := cursor.skipBlanks
  match blank.peek? with
  | none => .error (blank.faultNext .endInObject)
  | some 0x3a => .ok blank.advance
  | some _ => .error (blank.faultNext .noColon)

/-- Reads the value of an entry, from behind its name. -/
def entryValue {α : Type} (name : String) (value : Cursor → Except Fault α) (cursor : Cursor) :
    Except Fault α := do
  (value (← colon cursor)).mapError (Fault.inside (.entry name))

/-- Reads the end of an object. -/
def endObject (cursor : Cursor) : Except Fault Cursor :=
  let blank := cursor.skipBlanks
  match blank.peek? with
  | none => .error (blank.faultNext .endInObject)
  | some 0x7d => .ok blank.advance
  | some 0x2c => .error (blank.faultNext .trailingComma)
  | some _ => .error (blank.faultNext .trailingCharacters)

/-- Where reading stands after the end of an object was looked for. -/
def behindObject (cursor : Cursor) : Cursor :=
  let blank := cursor.skipBlanks
  if blank.peek? = some 0x7d then blank.advance else blank

/-- Reads the entries of an object, sorted by name; of several with one name the last stays. -/
def entries (value : Cursor → Except Fault (Value × Cursor)) :
    Nat → Bool → List (String × Value) → Cursor → Except Fault (List (String × Value) × Cursor)
  | 0, _, _, cursor => .error (cursor.faultNext .endInObject)
  | fuel + 1, isFirst, before, cursor => do
    match ← nextName isFirst cursor with
    | none => .ok (before, cursor)
    | some (name, after) =>
      let (read, behind) ← entryValue name value after
      entries value fuel false (Entries.insert name read before) behind

/-- Reads an object, from behind its brace. -/
def object (value : Cursor → Except Fault (Value × Cursor)) (cursor : Cursor) :
    Except Fault (List (String × Value) × Cursor) := do
  let (read, after) ← entries value (cursor.rest.length + 1) true [] cursor
  .ok (read, ← endObject after)

/-! ## Values -/

/-- Goes to the first byte of a value. -/
def begin {α : Type} (cursor : Cursor) (read : UInt8 → Cursor → Except Fault α) :
    Except Fault α :=
  let blank := cursor.skipBlanks
  match blank.peek? with
  | none => .error (blank.faultNext .endInValue)
  | some byte => read byte blank

/-- Reads a value that is not an array or object; nothing if it is one. -/
def scalar (byte : UInt8) (cursor : Cursor) : Option (Except Fault (Value × Cursor)) :=
  if byte = 0x6e then
    some ((cursor.advance.word [0x75, 0x6c, 0x6c]).map fun after => (.null, after))
  else if byte = 0x74 then
    some ((cursor.advance.word [0x72, 0x75, 0x65]).map fun after => (.bool true, after))
  else if byte = 0x66 then
    some ((cursor.advance.word [0x61, 0x6c, 0x73, 0x65]).map fun after => (.bool false, after))
  else if byte = 0x2d then
    some ((Numeral.read true cursor.advance).map fun read => (.number read.1, read.2))
  else if Numeral.isDigit byte then
    some ((Numeral.read false cursor).map fun read => (.number read.1, read.2))
  else if byte = 0x22 then
    some ((Literal.read cursor.advance).map fun read => (.text read.1, read.2))
  else if byte = 0x5b || byte = 0x7b then none
  else some (.error (cursor.faultNext .noValue))

/-- What a value of the wrong form is called. -/
def found : Value → Found
  | .null => .null
  | .bool value => .bool value
  | .number value => .number value
  | .text value => .text value
  | .array _ => .array
  | .object _ => .object

/-- The fault of a value that is not of the expected form. -/
def mismatch (expected : String) (byte : UInt8) (cursor : Cursor) : Fault :=
  match scalar byte cursor with
  | some (.ok (value, after)) => after.faultHere (.wrongType (found value) expected)
  | some (.error fault) => fault
  | none => cursor.faultHere (.wrongType (if byte = 0x5b then .array else .object) expected)

/-- Any value. -/
def any : Shape
  | 0, cursor => .error (cursor.faultNext .tooDeep)
  | depth + 1, cursor =>
    begin cursor fun byte cursor =>
      match scalar byte cursor with
      | some reading => reading
      | none =>
        if depth = 0 then .error (cursor.faultNext .tooDeep)
        else if byte = 0x5b then
          (array (any depth) cursor.advance).map fun read => (.array read.1, read.2)
        else (object (any depth) cursor.advance).map fun read => (.object read.1, read.2)

/-- A text. -/
def text : Shape := fun _ cursor =>
  begin cursor fun byte cursor =>
    if byte = 0x22 then
      (Literal.read cursor.advance).map fun read => (.text read.1, read.2)
    else .error (mismatch "a string" byte cursor)

/-- A truth value. -/
def flag : Shape := fun _ cursor =>
  begin cursor fun byte cursor =>
    if byte = 0x74 then
      (cursor.advance.word [0x72, 0x75, 0x65]).map fun after => (.bool true, after)
    else if byte = 0x66 then
      (cursor.advance.word [0x61, 0x6c, 0x73, 0x65]).map fun after => (.bool false, after)
    else .error (mismatch "a boolean" byte cursor)

/-- A whole number from a range. -/
def whole (expected : String) (isInRange : Number → Bool) : Shape := fun _ cursor =>
  begin cursor fun byte cursor => do
    let read ←
      if byte = 0x2d then Numeral.read true cursor.advance
      else if Numeral.isDigit byte then Numeral.read false cursor
      else .error (mismatch expected byte cursor)
    match read with
    | (.real isNegative magnitude, after) =>
      .error (after.faultHere (.wrongType (.number (.real isNegative magnitude)) expected))
    | (number, after) =>
      if isInRange number then .ok (.number number, after)
      else .error (after.faultHere (.wrongValue (.number number) expected))

/-- A whole number of 32 bits without sign. -/
def natural32 : Shape :=
  whole "u32" fun number =>
    match number with
    | .natural value => value ≤ 4294967295
    | _ => false

/-- A whole number of 64 bits with sign. -/
def integer64 : Shape :=
  whole "i64" fun number =>
    match number with
    | .natural value => value ≤ 9223372036854775807
    | .negative distance => distance ≤ Numeral.maxNegative
    | .real _ _ => false

/-- A value that may be null. -/
def optional (shape : Shape) : Shape := fun depth cursor =>
  let blank := cursor.skipBlanks
  if blank.peek? = some 0x6e then
    (blank.advance.word [0x75, 0x6c, 0x6c]).map fun after => (.null, after)
  else shape depth blank

/-- A list. -/
def list (item : Shape) : Shape := fun depth cursor =>
  begin cursor fun byte cursor =>
    if byte = 0x5b then
      if depth ≤ 1 then .error (cursor.faultNext .tooDeep)
      else
        (array (item (depth - 1)) cursor.advance).map fun read => (.array read.1, read.2)
    else .error (mismatch "a sequence" byte cursor)

/-- A dictionary. -/
def dictionary (value : Shape) : Shape := fun depth cursor =>
  begin cursor fun byte cursor =>
    if byte = 0x7b then
      if depth ≤ 1 then .error (cursor.faultNext .tooDeep)
      else
        (object (value (depth - 1)) cursor.advance).map fun read => (.object read.1, read.2)
    else .error (mismatch "a map" byte cursor)

/-! ## Records -/

/-- A field of a record: its name, its shape, and the value it has when it is not given. -/
structure Field where
  name : String
  shape : Shape
  default : Option Value := none

/-- A fault that has its place. -/
def placed {α : Type} (result : Except Fault α) : Except Unplaced α :=
  result.mapError .placed

/-- How a record given as an array is described. -/
def lengthText (name : String) (count : Nat) : String :=
  "struct " ++ name ++ " with " ++ toString count ++ (if count = 1 then " element" else " elements")

/-- Reads the fields of a record from an array. -/
def fieldItems (name : String) (count depth : Nat) :
    Nat → List Field → Cursor → Except Unplaced (List (String × Value) × Cursor)
  | _, [], cursor => .ok ([], cursor)
  | index, field :: rest, cursor => do
    match ← placed (nextItem (index = 0) cursor) with
    | some start =>
      let (value, after) ←
        placed ((field.shape depth start).mapError (Fault.inside (.item index)))
      let (others, behind) ← fieldItems name count depth (index + 1) rest after
      .ok ((field.name, value) :: others, behind)
    | none =>
      match field.default with
      | some value =>
        let (others, behind) ← fieldItems name count depth (index + 1) rest cursor
        .ok ((field.name, value) :: others, behind)
      | none => .error (.open (.wrongLength index (lengthText name count)) cursor)

/-- Reads the entries of a record from an object. Unknown entries are passed over. -/
def fieldEntries (fields : List Field) (depth : Nat) :
    Nat → Bool → List (String × Value) → Cursor →
      Except Unplaced (List (String × Value) × Cursor)
  | 0, _, _, cursor => .error (.placed (cursor.faultNext .endInObject))
  | fuel + 1, isFirst, before, cursor => do
    match ← placed (nextName isFirst cursor) with
    | none => .ok (before, cursor)
    | some (name, after) =>
      match fields.find? (·.name == name) with
      | some field =>
        if (before.lookup name).isSome then .error (.open (.duplicateField name) after)
        else
          let (value, behind) ← placed (entryValue name (field.shape depth) after)
          fieldEntries fields depth fuel false ((name, value) :: before) behind
      | none =>
        let behind ← placed (entryValue name Skip.value after)
        fieldEntries fields depth fuel false before behind

/-- The values of the fields in order, taken from the entries that were read. -/
def arrange (read : List (String × Value)) (cursor : Cursor) :
    List Field → Except Unplaced (List (String × Value))
  | [] => .ok []
  | field :: rest =>
    match (read.lookup field.name).orElse fun _ => field.default with
    | some value => (arrange read cursor rest).map ((field.name, value) :: ·)
    | none => .error (.open (.missingField field.name) cursor)

/-- Reads the end of an array or object after its content, and gives a fault that concerns the whole
of it its place. -/
def close (finish : Cursor → Except Fault Cursor) (behind : Cursor → Cursor) :
    Except Unplaced (List (String × Value) × Cursor) → Except Fault (Value × Cursor)
  | .ok (fields, cursor) => (finish cursor).map fun after => (.object fields, after)
  | .error (.placed fault) => .error fault
  | .error (.open cause cursor) => .error ((behind cursor).faultHere cause)

/-- A record. -/
def record (name : String) (fields : List Field) : Shape := fun depth cursor =>
  begin cursor fun byte cursor =>
    if byte = 0x5b then
      if depth ≤ 1 then .error (cursor.faultNext .tooDeep)
      else
        close endArray behindArray
          (fieldItems name fields.length (depth - 1) 0 fields cursor.advance)
    else if byte = 0x7b then
      if depth ≤ 1 then .error (cursor.faultNext .tooDeep)
      else
        close endObject behindObject do
          let inside := cursor.advance
          let (read, after) ←
            fieldEntries fields (depth - 1) (inside.rest.length + 1) true [] inside
          .ok (← arrange read after fields, after)
    else .error (mismatch ("struct " ++ name) byte cursor)

end Shape

/-- Reads the first value of a document; what follows it is not looked at. -/
def decode (shape : Shape) (document : Bytes) : Except Fault Value :=
  (shape Shape.maxDepth { rest := document }).map (·.1)

end ResilientHttp.Json
