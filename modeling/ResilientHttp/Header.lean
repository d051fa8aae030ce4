import ResilientHttp.Text.Fold
import ResilientHttp.Text.Quoted

/-!
# Headers

A header is a name and a value. Names are compared without regard to the case of ASCII letters,
values exactly. A header collection is an ordered list that may hold several values of one name;
the spelling of every name is kept as the caller gave it.

There are two ways to put headers into a collection. `Headers.add` leaves the collection alone if
it already holds the same header, and `Headers.merge` appends another collection as it is. A
collection made from a list (`Headers.ofList`) adds the items one by one, so of several equal items
only the first stays.

Beside the operations stand the two readings they are held to: the values of a name as a list
(`Headers.get`), and the list of items itself.
-/

set_option autoImplicit false

namespace ResilientHttp

/-- A header: a name and a value. -/
structure Header where
  name : String
  value : String
  deriving DecidableEq, Repr

namespace Header

/-- Whether the header has the given name, up to the case of ASCII letters. -/
def hasName (header : Header) (name : String) : Bool :=
  Text.sameFold header.name name

/-- Whether two headers agree: the same name up to case, and exactly the same value. -/
def same (left right : Header) : Bool :=
  left.hasName right.name && left.value == right.value

theorem hasName_iff (header : Header) (name : String) :
    header.hasName name = true ↔ Text.fold header.name = Text.fold name :=
  Text.sameFold_iff _ _

theorem same_iff (left right : Header) :
    left.same right = true ↔
      Text.fold left.name = Text.fold right.name ∧ left.value = right.value := by
  simp [same, hasName_iff]

theorem same_refl (header : Header) : header.same header = true := by
  simp [same_iff]

theorem same_comm (left right : Header) : left.same right = right.same left := by
  rw [Bool.eq_iff_iff, same_iff, same_iff]
  exact ⟨fun both => ⟨both.1.symm, both.2.symm⟩, fun both => ⟨both.1.symm, both.2.symm⟩⟩

theorem same_trans {first second third : Header} (left : first.same second = true)
    (right : second.same third = true) : first.same third = true := by
  rw [same_iff] at *
  exact ⟨left.1.trans right.1, left.2.trans right.2⟩

/-- The header as diagnostics show it. -/
def describe (header : Header) : String :=
  Text.describeRecord "HeaderItem"
    [("name", Text.quote header.name), ("value", Text.quote header.value)]

end Header

/-- An ordered collection of headers. -/
structure Headers where
  items : List Header := []
  deriving DecidableEq, Repr

namespace Headers

/-- The collection without items. -/
def empty : Headers := ⟨[]⟩

/-- Appends a header unless the collection already holds the same one. -/
def add (headers : Headers) (header : Header) : Headers :=
  if headers.items.any (·.same header) then headers else ⟨headers.items ++ [header]⟩

/-- Adds a header given by its name and value. -/
def addValue (headers : Headers) (name value : String) : Headers :=
  headers.add ⟨name, value⟩

/-- Adds several headers, one after another. -/
def addAll (headers : Headers) (items : List Header) : Headers :=
  items.foldl add headers

/-- The collection of a list of headers; an item equal to an earlier one is dropped. -/
def ofList (items : List Header) : Headers :=
  empty.addAll items

/-- Appends the items of another collection as they are. -/
def merge (headers other : Headers) : Headers :=
  ⟨headers.items ++ other.items⟩

/-- The values of a name, in order. -/
def get (headers : Headers) (name : String) : List String :=
  (headers.items.filter (·.hasName name)).map Header.value

/-- The first value of a name. -/
def first? (headers : Headers) (name : String) : Option String :=
  (headers.items.find? (·.hasName name)).map Header.value

/-- Whether some header has the name. -/
def contains (headers : Headers) (name : String) : Bool :=
  headers.items.any (·.hasName name)

/-- The number of headers. -/
def size (headers : Headers) : Nat := headers.items.length

/-- Whether there is no header. -/
def isEmpty (headers : Headers) : Bool := headers.items.isEmpty

/-- The collection as diagnostics show it. -/
def describe (headers : Headers) : String :=
  Text.describeRecord "Headers"
    [("items", Text.describeList (headers.items.map Header.describe))]

/-! ## The items after each operation -/

theorem items_merge (headers other : Headers) :
    (headers.merge other).items = headers.items ++ other.items := rfl

theorem add_of_mem {headers : Headers} {header : Header}
    (held : headers.items.any (·.same header) = true) : headers.add header = headers :=
  if_pos held

theorem items_add_of_not_mem {headers : Headers} {header : Header}
    (new : headers.items.any (·.same header) = false) :
    (headers.add header).items = headers.items ++ [header] := by
  simp [add, new]

theorem addAll_nil (headers : Headers) : headers.addAll [] = headers := rfl

theorem addAll_cons (headers : Headers) (header : Header) (items : List Header) :
    headers.addAll (header :: items) = (headers.add header).addAll items := rfl

theorem addAll_append (headers : Headers) (front back : List Header) :
    headers.addAll (front ++ back) = (headers.addAll front).addAll back :=
  List.foldl_append

/-- The first value of a name is the head of its list of values. -/
theorem first?_eq_head? (headers : Headers) (name : String) :
    headers.first? name = (headers.get name).head? := by
  simp [first?, get, List.head?_map, List.head?_filter]

/-- A name is contained exactly when it has a value. -/
theorem contains_iff (headers : Headers) (name : String) :
    headers.contains name = true ↔ headers.get name ≠ [] := by
  simp [contains, get, List.filter_eq_nil_iff]

end Headers

end ResilientHttp
