import ResilientHttp.Proofs.Headers.Multimap
import ResilientHttp.Proofs.Lists
import ResilientHttp.Proofs.Results
import ResilientHttp.Wire.Network

/-!
# Headers on their way

On the wire headers are grouped by name. Whatever the order in which lines with names and values
come, the groups have the names in lower case, each once, and the group of a name has its values in
the order of the lines (`Wire.HeaderMap.get_ofLines`). To read the groups one after another is to
meet every value once (`Wire.HeaderMap.toList_of_name`).

The headers of a request can be sent exactly if each of them has a name and a value that the wire
allows and there is always room for one more (`Wire.HeaderMap.ofHeaders_eq_ok_iff`). They are sent as
they are, with repetitions (`Wire.Outgoing.exists_carries`). What a caller can use of headers that arrive is,
for each name, the values that are visible ASCII, each once, in order (`Wire.HeaderMap.WellFormed.get_headers`).
So a request's headers that are sent and read again lose their repetitions and nothing else.

Otherwise the request is invalid, and no network is handed a message for it. To say so, fetching is
written once more over any monad in which handing over a message can take effect
(`Wire.fetchBy`): for such a request it has no effect at all (`Wire.fetchBy_of_error`).
-/

set_option autoImplicit false

namespace ResilientHttp

namespace Wire

open Headers (listed)

/-! ## Values that are visible ASCII -/

/-- A text of visible ASCII characters, spaces and tabs. -/
def IsVisibleText (text : String) : Prop :=
  ∀ character ∈ text.toList,
    0x20 ≤ character.toNat ∧ character.toNat < 0x7f ∨ character.toNat = 0x09

instance (text : String) : Decidable (IsVisibleText text) :=
  List.decidableBAll _ _

/-- A character of ASCII is one byte, and the byte is its code. -/
theorem utf8EncodeChar_of_ascii {character : Char} (small : character.toNat < 0x80) :
    String.utf8EncodeChar character = [UInt8.ofNat character.toNat] := by
  unfold String.utf8EncodeChar
  exact if_pos (Nat.le_of_lt_succ small)

/-- The bytes of a text of ASCII characters are their codes. -/
theorem ofString_of_ascii {text : String} (small : ∀ character ∈ text.toList, character.toNat < 0x80) :
    Utf8.ofString text = text.toList.map fun character => UInt8.ofNat character.toNat := by
  unfold Utf8.ofString Utf8.encode
  rw [List.map_eq_flatMap]
  exact List.flatMap_congr fun character member => utf8EncodeChar_of_ascii (small character member)

section Visible

variable {text : String} (visible : IsVisibleText text)
include visible

theorem IsVisibleText.small : ∀ character ∈ text.toList, character.toNat < 0x80 := by
  intro character member
  rcases visible character member with between | tab <;> omega

/-- The bytes of a visible text are visible. -/
theorem IsVisibleText.isVisibleByte : (Utf8.ofString text).all isVisibleByte = true := by
  rw [ofString_of_ascii visible.small, List.all_map, List.all_eq_true]
  intro character member
  have code : (UInt8.ofNat character.toNat).toNat = character.toNat :=
    UInt8.toNat_ofNat_of_lt' (Nat.lt_trans (visible.small character member) (by decide))
  simp only [Function.comp_apply, Wire.isVisibleByte, Bool.or_eq_true, Bool.and_eq_true,
    decide_eq_true_eq, UInt8.le_iff_toNat_le, UInt8.lt_iff_toNat_lt, ← UInt8.toNat_inj, code]
  exact visible character member

/-- A visible text can be read back from its bytes. -/
theorem IsVisibleText.visibleText?_ofString : visibleText? (Utf8.ofString text) = some text := by
  rw [visibleText?, if_pos visible.isVisibleByte, Option.some_inj, ← String.toList_inj,
    String.toList_ofList, ofString_of_ascii visible.small, List.map_map]
  refine (List.map_congr_left fun character member => ?_).trans (List.map_id _)
  have code : (UInt8.ofNat character.toNat).toNat = character.toNat :=
    UInt8.toNat_ofNat_of_lt' (Nat.lt_trans (visible.small character member) (by decide))
  rw [Function.comp_apply, code, Char.ofNat_toNat]
  rfl

/-- The wire allows a visible text as a value. -/
theorem IsVisibleText.isValueByte : (Utf8.ofString text).all isValueByte = true := by
  rw [List.all_eq_true]
  intro byte member
  have seen := List.all_eq_true.1 visible.isVisibleByte byte member
  simp only [Wire.isVisibleByte, Wire.isValueByte, Bool.or_eq_true, Bool.and_eq_true,
    decide_eq_true_eq, UInt8.le_iff_toNat_le, UInt8.lt_iff_toNat_lt, ne_eq,
    ← UInt8.toNat_inj] at seen ⊢
  rcases seen with ⟨low, high⟩ | tab
  · refine .inl ⟨low, fun same => ?_⟩
    rw [same] at high
    exact absurd high (by decide)
  · exact .inr tab

end Visible

theorem toNat_ofNat_byte (byte : UInt8) : (Char.ofNat byte.toNat).toNat = byte.toNat := by
  have valid : byte.toNat.isValidChar := .inl (Nat.lt_trans byte.toNat_lt (by decide))
  rw [Char.ofNat, dif_pos valid]
  rfl

/-- The text of a value is the visible text whose bytes they are, if there is one. -/
theorem visibleText?_eq_some_iff {value : Bytes} {text : String} :
    visibleText? value = some text ↔ IsVisibleText text ∧ Utf8.ofString text = value := by
  constructor
  · intro read
    unfold visibleText? at read
    split at read
    · rename_i visible
      obtain rfl := Option.some.inj read
      have shown : IsVisibleText (String.ofList (value.map fun byte => Char.ofNat byte.toNat)) := by
        intro character member
        rw [String.toList_ofList, List.mem_map] at member
        obtain ⟨byte, present, rfl⟩ := member
        have seen := List.all_eq_true.1 visible byte present
        simp only [isVisibleByte, Bool.or_eq_true, Bool.and_eq_true, decide_eq_true_eq,
          UInt8.le_iff_toNat_le, UInt8.lt_iff_toNat_lt, ← UInt8.toNat_inj] at seen
        rw [toNat_ofNat_byte]
        exact seen
      refine ⟨shown, ?_⟩
      rw [ofString_of_ascii shown.small, String.toList_ofList, List.map_map]
      refine (List.map_congr_left fun byte _ => ?_).trans (List.map_id value)
      rw [Function.comp_apply, toNat_ofNat_byte, UInt8.ofNat_toNat]
      rfl
    · cases read
  · rintro ⟨visible, rfl⟩
    exact visible.visibleText?_ofString

namespace HeaderMap

/-! ## Groups -/

/-- The names of the groups. -/
def names (map : HeaderMap) : List String := map.groups.map Prod.fst

/-- Each name has one group, and is in lower case. -/
structure WellFormed (map : HeaderMap) : Prop where
  nodup : map.names.Nodup
  folded : ∀ name ∈ map.names, Text.fold name = name

/-- The headers of some lines, grouped. -/
def ofLines (lines : List (String × Bytes)) : HeaderMap :=
  lines.foldl (fun map line => map.append line.1 line.2) {}

theorem ofLines_concat (lines : List (String × Bytes)) (line : String × Bytes) :
    ofLines (lines ++ [line]) = (ofLines lines).append line.1 line.2 :=
  List.foldl_concat ..

/-- A value is appended to the group of its name, which comes last if it is new. -/
theorem lookup_appendTo (name other : String) (value : Bytes)
    (groups : List (String × List Bytes)) :
    ((appendTo name value groups).lookup other).getD [] =
      (groups.lookup other).getD [] ++ if other = name then [value] else [] := by
  induction groups with
  | nil =>
      by_cases same : other = name
      · subst same
        simp [appendTo]
      · simp [appendTo, List.lookup_cons, beq_eq_false_iff_ne.2 same, same]
  | cons group rest ih =>
      obtain ⟨key, values⟩ := group
      unfold appendTo
      by_cases here : key = name
      · subst here
        by_cases same : other = key
        · subst same
          simp
        · simp [List.lookup_cons, beq_eq_false_iff_ne.2 same, same]
      · rw [if_neg here, List.lookup_cons, List.lookup_cons]
        by_cases same : other = key
        · subst same
          simp [here]
        · simp only [beq_eq_false_iff_ne.2 same, ih]

theorem names_appendTo (name : String) (value : Bytes) (groups : List (String × List Bytes)) :
    (appendTo name value groups).map Prod.fst =
      if name ∈ groups.map Prod.fst then groups.map Prod.fst
      else groups.map Prod.fst ++ [name] := by
  induction groups with
  | nil => rfl
  | cons group rest ih =>
      obtain ⟨key, values⟩ := group
      unfold appendTo
      by_cases here : key = name
      · subst here
        simp
      · rw [if_neg here, List.map_cons, ih, List.map_cons]
        by_cases there : name ∈ rest.map Prod.fst <;> simp [there, Ne.symm here]

theorem get_append (map : HeaderMap) (name other : String) (value : Bytes) :
    (map.append name value).get other =
      map.get other ++ if Text.sameFold name other then [value] else [] := by
  rw [get, append, lookup_appendTo]
  congr 1
  by_cases same : Text.sameFold name other = true
  · rw [if_pos same, if_pos ((Text.sameFold_iff _ _).1 same).symm]
  · rw [if_neg same, if_neg fun equal => same ((Text.sameFold_iff _ _).2 equal.symm)]

theorem names_append (map : HeaderMap) (name : String) (value : Bytes) :
    (map.append name value).names =
      if Text.fold name ∈ map.names then map.names else map.names ++ [Text.fold name] :=
  names_appendTo _ _ _

/-- **The group of a name has its values in the order of the lines.** -/
theorem get_ofLines (lines : List (String × Bytes)) (name : String) :
    (ofLines lines).get name =
      (lines.filter fun line => Text.sameFold line.1 name).map Prod.snd := by
  induction lines using List.reverseRecOn with
  | nil => rfl
  | append_singleton front last ih =>
      rw [ofLines_concat, get_append, ih, List.filter_append, List.map_append]
      cases same : Text.sameFold last.1 name <;> simp [same]

/-- The groups stand in the order of the first lines with their names. -/
theorem names_ofLines (lines : List (String × Bytes)) :
    (ofLines lines).names = (lines.map fun line => Text.fold line.1).eraseDups := by
  induction lines using List.reverseRecOn with
  | nil => rfl
  | append_singleton front last ih =>
      rw [ofLines_concat, names_append, ih, List.map_append, List.map_singleton,
        Headers.eraseDups_concat]
      simp only [List.mem_eraseDups]

theorem WellFormed.append {map : HeaderMap} (wellFormed : map.WellFormed) (name : String)
    (value : Bytes) : (map.append name value).WellFormed := by
  by_cases there : Text.fold name ∈ map.names
  · refine ⟨?_, ?_⟩ <;> rw [names_append, if_pos there]
    · exact wellFormed.nodup
    · exact wellFormed.folded
  · refine ⟨?_, ?_⟩ <;> rw [names_append, if_neg there]
    · exact List.nodup_append.2 ⟨wellFormed.nodup, List.nodup_singleton _,
        fun one member other new same =>
          there (by rwa [same, List.mem_singleton.1 new] at member)⟩
    · intro other member
      rcases List.mem_append.1 member with old | new
      · exact wellFormed.folded other old
      · rw [List.mem_singleton.1 new, Text.fold_fold]

/-- However lines are grouped, each name has one group. -/
theorem wellFormed_ofLines (lines : List (String × Bytes)) : (ofLines lines).WellFormed := by
  induction lines using List.reverseRecOn with
  | nil => exact ⟨List.nodup_nil, by simp [ofLines, names]⟩
  | append_singleton front last ih =>
      rw [ofLines_concat]
      exact ih.append last.1 last.2

/-! ## What a caller can use of headers that arrive -/

/-- To read the groups one after another is to meet the values of each name once, in order. -/
theorem toList_of_name {groups : List (String × List Bytes)}
    (nodup : (groups.map Prod.fst).Nodup) (key : String) :
    ((HeaderMap.mk groups).toList.filter (·.1 == key)).map Prod.snd =
      (groups.lookup key).getD [] := by
  unfold toList
  induction groups with
  | nil => rfl
  | cons group rest ih =>
      obtain ⟨name, values⟩ := group
      obtain ⟨apart, others⟩ := List.nodup_cons.1 nodup
      rw [List.flatMap_cons, List.filter_append, List.map_append, ih others, List.filter_map,
        List.map_map, List.lookup_cons]
      by_cases here : key = name
      · subst here
        have gone : rest.lookup key = none :=
          List.lookup_eq_none_iff.2 fun entry member => by
            have other : entry.1 ∈ rest.map Prod.fst := List.mem_map_of_mem member
            exact bne_iff_ne.2 fun same => apart (by rwa [same])
        simp [gone, Function.comp_def]
      · simp [beq_eq_false_iff_ne.2 here, beq_eq_false_iff_ne.2 (Ne.symm here), Function.comp_def]

/-- The values under a folding among the usable headers are its values that are visible. -/
theorem listed_usable (entries : List (String × Bytes))
    (folded : ∀ entry ∈ entries, Text.fold entry.1 = entry.1) (key : String) :
    listed (entries.filterMap fun entry =>
        (visibleText? entry.2).map fun value => (⟨entry.1, value⟩ : Header)) key =
      ((entries.filter (·.1 == key)).map Prod.snd).filterMap visibleText? := by
  induction entries with
  | nil => rfl
  | cons entry rest ih =>
      have later := ih fun other member => folded other (List.mem_cons_of_mem _ member)
      have lower : Text.fold entry.1 = entry.1 := folded entry List.mem_cons_self
      cases seen : visibleText? entry.2 with
      | none =>
          rw [List.filterMap_cons, seen, List.filter_cons]
          simp only [Option.map_none, later]
          split <;> simp [seen]
      | some value =>
          rw [List.filterMap_cons, seen, List.filter_cons]
          simp only [Option.map_some, listed, List.filter_cons, lower]
          rw [listed] at later
          split <;> simp [later, seen]

/-- **A caller can use, of each name, the values that are visible ASCII, each once, in order.** -/
theorem WellFormed.get_headers {map : HeaderMap} (wellFormed : map.WellFormed) (name : String) :
    map.headers.get name = ((map.get name).filterMap visibleText?).eraseDups := by
  have folded : ∀ entry ∈ map.toList, Text.fold entry.1 = entry.1 := by
    intro entry member
    obtain ⟨group, there, value⟩ := List.mem_flatMap.1 member
    obtain ⟨_, _, rfl⟩ := List.mem_map.1 value
    exact wellFormed.folded _ (List.mem_map_of_mem there)
  rw [headers, Headers.get_eq_listed, Headers.listed_addAll_empty, listed_usable _ folded,
    toList_of_name wellFormed.nodup]
  rfl

/-! ## From a caller's headers -/

/-- The wire allows the name and the value of a header. -/
def Sendable (header : Header) : Prop :=
  isName header.name = true ∧ (Utf8.ofString header.value).all isValueByte = true

instance (header : Header) : Decidable (Sendable header) :=
  inferInstanceAs (Decidable (_ ∧ _))

/-- A header as a line on the wire. -/
def line (header : Header) : String × Bytes := (header.name, Utf8.ofString header.value)

/-- Before each of some headers there are fewer names than a message can have. -/
def HasRoomFor (items : List Header) : Prop :=
  ∀ before header after, items = before ++ header :: after →
    (before.map fun earlier => Text.fold earlier.name).eraseDups.length < maxNames

theorem checkHeader_eq_ok_iff {header : Header} {name : String} {value : Bytes} :
    checkHeader header = .ok (name, value) ↔ Sendable header ∧ (name, value) = line header := by
  unfold checkHeader Sendable line
  cases isName header.name <;> cases allowed : (Utf8.ofString header.value).all isValueByte <;>
    simp [allowed, eq_comm]

/-- A header is put into a map exactly if the wire allows it and the map is not full. -/
theorem push_eq_ok_iff {map after : HeaderMap} {header : Header} :
    map.push header = .ok after ↔ Sendable header ∧ map.names.length < maxNames ∧
      after = map.append (line header).1 (line header).2 := by
  have size : map.names.length = map.groups.length := List.length_map _
  unfold push
  rw [size]
  cases checked : checkHeader header with
  | error fault =>
      have bad : ¬ Sendable header := fun good => by
        cases checked.symm.trans (checkHeader_eq_ok_iff.2 ⟨good, rfl⟩)
      simp [bad, bind, Except.bind]
  | ok entry =>
      obtain ⟨name, value⟩ := entry
      obtain ⟨good, same⟩ := checkHeader_eq_ok_iff.1 checked
      obtain ⟨rfl, rfl⟩ := Prod.mk.inj same
      by_cases room : map.groups.length < maxNames <;>
        simp [room, good, line, bind, Except.bind, pure, Except.pure, eq_comm]

theorem HasRoomFor.concat_iff {items : List Header} {last : Header} :
    HasRoomFor (items ++ [last]) ↔ HasRoomFor items ∧
      (items.map fun earlier => Text.fold earlier.name).eraseDups.length < maxNames := by
  constructor
  · intro room
    exact ⟨fun before header after split => room before header (after ++ [last]) (by simp [split]),
      room items last [] rfl⟩
  · rintro ⟨room, latest⟩ before header after split
    obtain ⟨rfl, rfl, rfl⟩ | ⟨rest, rfl, old⟩ := Splits.concat_eq_iff.1 split
    · exact latest
    · exact room before header rest old

theorem length_eraseDups_le (values : List String) : values.eraseDups.length ≤ values.length := by
  induction values using List.reverseRecOn with
  | nil => exact Nat.le_refl _
  | append_singleton front last ih =>
      rw [Headers.eraseDups_concat]
      split <;> simp only [List.length_append, List.length_singleton] <;> omega

/-- There is room for as many headers as a message can have names. -/
theorem hasRoomFor_of_length_le {items : List Header} (few : items.length ≤ maxNames) :
    HasRoomFor items := by
  rintro before header after rfl
  have fewer := length_eraseDups_le (before.map fun earlier => Text.fold earlier.name)
  rw [List.length_map] at fewer
  simp only [List.length_append, List.length_cons] at few
  omega

/-- **The headers of a request can be sent exactly if the wire allows each of them and there is
room for them**, and they are grouped as lines in their order. -/
theorem ofHeaders_eq_ok_iff {headers : Headers} {map : HeaderMap} :
    ofHeaders headers = .ok map ↔ (∀ header ∈ headers.items, Sendable header) ∧
      HasRoomFor headers.items ∧ map = ofLines (headers.items.map line) := by
  obtain ⟨items⟩ := headers
  unfold ofHeaders
  induction items using List.reverseRecOn generalizing map with
  | nil =>
      simp [HasRoomFor, ofLines, pure, Except.pure, eq_comm]
  | append_singleton front last ih =>
      rw [List.foldlM_append, List.map_append, List.map_singleton, ofLines_concat,
        HasRoomFor.concat_iff]
      have names : (ofLines (front.map line)).names =
          (front.map fun earlier => Text.fold earlier.name).eraseDups := by
        rw [names_ofLines, List.map_map]
        rfl
      simp only [List.foldlM_cons, List.foldlM_nil, bind_pure, Results.bind_eq_ok_iff, ih,
        push_eq_ok_iff]
      constructor
      · rintro ⟨before, ⟨allowed, room, rfl⟩, good, free, rfl⟩
        refine ⟨fun header member => ?_, ⟨room, names ▸ free⟩, rfl⟩
        rcases List.mem_append.1 member with old | new
        · exact allowed header old
        · rwa [List.mem_singleton.1 new]
      · rintro ⟨allowed, ⟨room, free⟩, rfl⟩
        exact ⟨_, ⟨fun header member => allowed header (List.mem_append_left _ member), room, rfl⟩,
          allowed last (by simp), names ▸ free, rfl⟩

end HeaderMap

/-! ## Messages for requests -/

/-- What a message has of the request that it was made for. -/
structure Outgoing.Carries (outgoing : Outgoing) (request : Request) : Prop where
  method : outgoing.method = request.method
  body : outgoing.body = request.body.getD []
  wellFormed : outgoing.headers.WellFormed
  /-- The values of every name, in order, with repetitions. -/
  values : ∀ name, outgoing.headers.get name = (request.headers.get name).map Utf8.ofString

section Sending

variable {request : Request}

/-- **A request whose URL is a target and whose headers the wire allows can be sent**, and its
message carries them as they are. -/
theorem Outgoing.exists_carries {uri : Uri} (target : Uri.read request.url.text = .ok uri)
    (allowed : ∀ header ∈ request.headers.items, HeaderMap.Sendable header)
    (room : HeaderMap.HasRoomFor request.headers.items) :
    ∃ outgoing, Outgoing.ofRequest request = .ok outgoing ∧ outgoing.uri = uri ∧
      outgoing.Carries request := by
  have grouped := HeaderMap.ofHeaders_eq_ok_iff.2 ⟨allowed, room, rfl⟩
  let lines := request.headers.items.map HeaderMap.line
  refine ⟨{ method := request.method, uri, headers := .ofLines lines, body := request.body.getD [] },
    ?_, rfl, rfl, rfl, HeaderMap.wellFormed_ofLines lines, fun name => ?_⟩
  · rw [Outgoing.ofRequest, target, grouped]
    rfl
  · rw [HeaderMap.get_ofLines, List.filter_map, List.map_map, Headers.get, List.map_map]
    rfl

/-- What keeps a request from being sent is that it is invalid. -/
theorem Outgoing.exists_detail_of_error {failure : Failure}
    (refused : Outgoing.ofRequest request = .error failure) :
    ∃ detail, failure = .invalidRequest detail := by
  unfold Outgoing.ofRequest at refused
  cases read : Uri.read request.url.text with
  | error fault =>
      rw [read] at refused
      exact ⟨fault.message, (Except.error.inj refused).symm⟩
  | ok uri =>
      cases grouped : HeaderMap.ofHeaders request.headers with
      | error fault =>
          rw [read, grouped] at refused
          exact ⟨fault.message, (Except.error.inj refused).symm⟩
      | ok map =>
          rw [read, grouped] at refused
          cases refused

/-- A request with a header that the wire does not allow is invalid. -/
theorem Outgoing.exists_detail_of_unsendable
    (bad : ∃ header ∈ request.headers.items, ¬ HeaderMap.Sendable header) :
    ∃ detail, Outgoing.ofRequest request = .error (.invalidRequest detail) := by
  obtain ⟨header, member, forbidden⟩ := bad
  have never : ∀ outgoing, Outgoing.ofRequest request ≠ .ok outgoing := by
    intro outgoing made
    obtain ⟨_, _, made⟩ := Results.bind_eq_ok_iff.1 made
    obtain ⟨map, grouped, _⟩ := Results.bind_eq_ok_iff.1 made
    have allowed := (HeaderMap.ofHeaders_eq_ok_iff.1 (Results.mapError_eq_ok_iff.1 grouped)).1
    exact forbidden (allowed header member)
  obtain ⟨failure, refused⟩ := Results.exists_error_of_not_ok never
  obtain ⟨detail, rfl⟩ := Outgoing.exists_detail_of_error refused
  exact ⟨detail, refused⟩

/-! ## Handing over with effect -/

section Delivering

variable {Effect : Type → Type} [Monad Effect]

/-- Sends a message, if its target is one that the wire knows, where `deliver` is what it takes to
hand it over. -/
def sendBy (deliver : Outgoing → Effect (Except WireFault Arrival)) (outgoing : Outgoing) :
    Effect (Except WireFault Arrival) :=
  match outgoing.uri.scheme with
  | none => return .error ⟨.absoluteUriRequired, none⟩
  | some scheme =>
    if ["http", "https"].contains (Text.fold scheme) then deliver outgoing
    else return .error ⟨.connect, some ("unsupported scheme " ++ scheme)⟩

/-- What arrives for a request, where `deliver` is what it takes to hand over a message. -/
def fetchBy (deliver : Outgoing → Effect (Except WireFault Arrival)) (request : Request) :
    Effect (Except Failure Arrival) :=
  match Outgoing.ofRequest request with
  | .error failure => return .error failure
  | .ok outgoing => do
    let arrived ← sendBy deliver outgoing
    return arrived.mapError WireFault.failure

/-- Where handing over only gives back what arrives, this is what a network fetches. -/
theorem fetchBy_deliver (network : Network) (request : Request) :
    @fetchBy Id _ network.deliver request = network.fetch request := by
  unfold fetchBy Network.fetch
  cases Outgoing.ofRequest request with
  | error failure => rfl
  | ok outgoing =>
      change (@sendBy Id _ network.deliver outgoing).mapError WireFault.failure =
        (network.send outgoing).mapError WireFault.failure
      unfold sendBy Network.send
      cases outgoing.uri.scheme <;> rfl

/-- For a request that cannot be sent nothing is handed over. -/
theorem fetchBy_of_error (deliver : Outgoing → Effect (Except WireFault Arrival))
    {failure : Failure} (refused : Outgoing.ofRequest request = .error failure) :
    fetchBy deliver request = pure (.error failure) := by
  rw [fetchBy, refused]

end Delivering

/-- A request that cannot be sent fails over every network, and nothing is reported. -/
theorem Network.exchange_of_error {σ : Type} (network : Network) {failure : Failure}
    (refused : Outgoing.ofRequest request = .error failure)
    (report : σ → Notice → Except Failure Unit × σ) (memory : σ) :
    network.exchange request report memory = (.error failure, memory) := by
  rw [exchange, fetch, refused]
  rfl

end Sending

end Wire

end ResilientHttp
