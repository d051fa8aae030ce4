import ResilientHttp.Json.Cursor
import ResilientHttp.Proofs.Results

/-!
# Readers that stream

A reader takes some bytes and stops behind them. What it gives it owes to these bytes alone: wherever
they stand, and whatever stands behind them, it takes the same bytes and gives the same
(`Streams`). The one exception are numerals, which have no end of their own. A reader may therefore
look at the next byte, and the bytes that it has not taken may be exchanged for others that go on in
the same way, or that do not go on as a numeral does (`Alike`).

Readers that stream can be put together: one after another (`Streams.bind`), behind blanks
(`Streams.behindBlanks`), or one of two depending on the next byte (`Streams.ifNext`). Faults play no
part in this. Where a reader stands when it notices a fault is lost, so readers that differ only in
their faults are exchanged for each other (`Streams.congr`).

**Loops.** What has any number of parts is read turn by turn, with an allowance for as many turns as
there are bytes. If every turn takes a byte the allowance is never used up, and the whole loop
streams if its turns do (`Loops.streams`).
-/

set_option autoImplicit false

namespace ResilientHttp.Json

open Results (bind_eq_ok_iff map_eq_ok_iff mapError_eq_ok_iff)

namespace Cursor

variable {cursor after : Cursor} {taken tail : Bytes}

/-! ## Positions -/

theorem advanceBy_add (cursor : Cursor) (first second : Nat) :
    cursor.advanceBy (first + second) = (cursor.advanceBy first).advanceBy second := by
  induction first generalizing cursor with
  | zero => rw [Nat.zero_add, advanceBy]
  | succ count ih => rw [Nat.succ_add, advanceBy, advanceBy, ih]

theorem advanceBy_append (cursor : Cursor) (first second : Bytes) :
    cursor.advanceBy (first ++ second).length =
      (cursor.advanceBy first.length).advanceBy second.length := by
  rw [List.length_append, advanceBy_add]

/-- Behind bytes that stand before others, the others are to be read. -/
theorem rest_advanceBy_of_rest (stands : cursor.rest = taken ++ tail) :
    (cursor.advanceBy taken.length).rest = tail := by
  rw [rest_advanceBy, stands, List.drop_left]

theorem peek?_of_rest {byte : UInt8} (stands : cursor.rest = byte :: tail) :
    cursor.peek? = some byte := by
  rw [peek?, stands, List.head?_cons]

theorem rest_of_peek? {byte : UInt8} (next : cursor.peek? = some byte) :
    cursor.rest = byte :: cursor.advance.rest := by
  obtain ⟨tail, stands⟩ := List.head?_eq_some_iff.1 next
  rw [rest_advance, stands, List.tail_cons]

/-- The bytes that are kept are taken, up to one that is not. -/
theorem takeWhile_spec {keep : UInt8 → Bool} (done : cursor.takeWhile keep = (taken, after)) :
    (∀ byte ∈ taken, keep byte = true) ∧ cursor.rest = taken ++ after.rest ∧
      after = cursor.advanceBy taken.length ∧
      ∀ byte, after.peek? = some byte → keep byte = false := by
  obtain ⟨rfl, rfl⟩ := Prod.mk.inj done
  have stands : cursor.rest = cursor.rest.takeWhile keep ++ cursor.rest.dropWhile keep :=
    List.takeWhile_append_dropWhile.symm
  have left := rest_advanceBy_of_rest stands
  refine ⟨List.all_eq_true.1 List.all_takeWhile, ?_, rfl, fun byte next => ?_⟩
  · rw [left]
    exact stands
  · have first := List.head?_dropWhile_not keep cursor.rest
    rw [peek?, left] at next
    rw [next] at first
    simpa using first

/-- So many bytes are taken, if what follows them is not kept. -/
theorem takeWhile_of_stop {keep : UInt8 → Bool} (kept : ∀ byte ∈ taken, keep byte = true)
    (stops : ∀ byte, tail.head? = some byte → keep byte = false)
    (stands : cursor.rest = taken ++ tail) :
    cursor.takeWhile keep = (taken, cursor.advanceBy taken.length) := by
  have ended : tail.takeWhile keep = [] := by
    cases tail with
    | nil => rfl
    | cons byte rest => exact List.takeWhile_cons_of_neg (by simp [stops byte rfl])
  have all : cursor.rest.takeWhile keep = taken := by
    rw [stands, List.takeWhile_append_of_pos kept, ended, List.append_nil]
  simp only [Cursor.takeWhile, all]

/-! ## Words -/

/-- A word is read if it is there. -/
theorem word_eq_ok_iff {word : Bytes} :
    cursor.word word = .ok after ↔
      cursor.rest = word ++ after.rest ∧ after = cursor.advanceBy word.length := by
  induction word generalizing cursor with
  | nil =>
      simp only [Cursor.word, Except.ok.injEq, List.nil_append, List.length_nil, advanceBy]
      constructor
      · rintro rfl
        exact ⟨rfl, rfl⟩
      · rintro ⟨_, rfl⟩
        rfl
  | cons byte others ih =>
      unfold Cursor.word
      cases next : cursor.peek? with
      | none =>
          have ended : cursor.rest = [] := List.head?_eq_none_iff.1 next
          simp [ended]
      | some found =>
          rw [rest_of_peek? next]
          by_cases same : found = byte
          · subst same
            simp only [if_true, ih, List.cons_append, List.cons.injEq, true_and, List.length_cons]
            rfl
          · simp [same]

/-! ## Blanks -/

/-- The bytes are blanks. -/
def AllBlank (bytes : Bytes) : Prop := ∀ byte ∈ bytes, isBlank byte = true

/-- The cursor that stands behind blanks before a byte that is none. -/
theorem skipBlanks_of_token {blanks : Bytes} {byte : UInt8} (blank : AllBlank blanks)
    (solid : isBlank byte = false) (stands : cursor.rest = blanks ++ byte :: tail) :
    cursor.skipBlanks = cursor.advanceBy blanks.length ∧ cursor.skipBlanks.rest = byte :: tail := by
  have taken := takeWhile_of_stop blank (fun other next => by cases next; exact solid) stands
  have skipped : cursor.skipBlanks = cursor.advanceBy blanks.length := congrArg Prod.snd taken
  exact ⟨skipped, by rw [skipped, rest_advanceBy_of_rest stands]⟩

/-- Blanks are skipped, and then none follows. -/
theorem exists_blanks (cursor : Cursor) :
    ∃ blanks, AllBlank blanks ∧ cursor.rest = blanks ++ cursor.skipBlanks.rest ∧
      cursor.skipBlanks = cursor.advanceBy blanks.length ∧
      ∀ byte, cursor.skipBlanks.peek? = some byte → isBlank byte = false :=
  ⟨_, takeWhile_spec (rfl : cursor.takeWhile isBlank = (_, cursor.skipBlanks))⟩

/-- Before blanks and a byte that is none, the byte is found. -/
theorem exists_token {byte : UInt8} (next : cursor.skipBlanks.peek? = some byte) :
    ∃ blanks, AllBlank blanks ∧ isBlank byte = false ∧
      cursor.rest = blanks ++ byte :: cursor.skipBlanks.advance.rest ∧
      cursor.skipBlanks = cursor.advanceBy blanks.length := by
  obtain ⟨blanks, blank, stands, skipped, solid⟩ := cursor.exists_blanks
  exact ⟨blanks, blank, solid byte next, by rw [← rest_of_peek? next, ← stands], skipped⟩

/-- The cursor behind a byte, if it is the first one that is no blank. -/
def token (cursor : Cursor) (byte : UInt8) : Except Fault Cursor :=
  cursor.skipBlanks.word [byte]

theorem token_eq_ok_iff {byte : UInt8} :
    cursor.token byte = .ok after ↔
      cursor.skipBlanks.peek? = some byte ∧ after = cursor.skipBlanks.advance := by
  rw [token, word_eq_ok_iff]
  constructor
  · rintro ⟨stands, rfl⟩
    exact ⟨peek?_of_rest stands, rfl⟩
  · rintro ⟨next, rfl⟩
    exact ⟨rest_of_peek? next, rfl⟩

theorem token_of_peek? {byte : UInt8} (next : cursor.skipBlanks.peek? = some byte) :
    cursor.token byte = .ok cursor.skipBlanks.advance :=
  token_eq_ok_iff.2 ⟨next, rfl⟩

/-- Before nothing but blanks nothing is found. -/
theorem peek?_skipBlanks_of_blank (blank : AllBlank cursor.rest) :
    cursor.skipBlanks.peek? = none := by
  refine Option.eq_none_iff_forall_ne_some.2 fun byte next => ?_
  obtain ⟨blanks, _, solid, stands, _⟩ := exists_token next
  have there : byte ∈ cursor.rest := by rw [stands]; simp
  cases solid.symm.trans (blank byte there)

end Cursor

open Cursor (AllBlank)

/-! ## Bytes that go on in the same way -/

/-- A byte with which a numeral may go on. -/
def GoesOn (byte : UInt8) : Prop :=
  0x30 ≤ byte ∧ byte ≤ 0x39 ∨ byte = 0x2e ∨ byte = 0x65 ∨ byte = 0x45

instance (byte : UInt8) : Decidable (GoesOn byte) := inferInstanceAs (Decidable (_ ∨ _))

/-- The bytes do not go on as a numeral does. -/
def Separate (bytes : Bytes) : Prop := ∀ byte, bytes.head? = some byte → ¬ GoesOn byte

/-- Bytes may be exchanged for bytes that begin with the same one, or that do not go on as a numeral
does. -/
def Alike (bytes others : Bytes) : Prop := bytes.head? = others.head? ∨ Separate others

theorem separate_nil : Separate [] := fun _ next => by cases next

theorem Alike.append {bytes others : Bytes} (alike : Alike bytes others) (front : Bytes) :
    Alike (front ++ bytes) (front ++ others) := by
  cases front with
  | nil => exact alike
  | cons byte rest => exact .inl rfl

/-- Blanks do not go on as a numeral does. -/
theorem separate_of_blank {bytes : Bytes} (blank : AllBlank bytes) : Separate bytes := by
  intro byte next goesOn
  have there := blank byte (List.mem_of_head? next)
  simp only [Cursor.isBlank, Bool.or_eq_true, decide_eq_true_eq] at there
  rcases there with ((rfl | rfl) | rfl) | rfl <;> exact absurd goesOn (by decide)

/-! ## Readers -/

section Readers

variable {Problem Index Other Result Next Item : Type} {make : Index → Cursor → Result}
  {change : Other → Cursor → Next}

/-- Wherever the bytes stand before the others, the reader takes them and gives the result. -/
def Takes (read : Cursor → Except Problem Result) (result : Cursor → Result) (taken tail : Bytes) :
    Prop :=
  ∀ cursor, cursor.rest = taken ++ tail →
    read cursor = .ok (result (cursor.advanceBy taken.length))

/-- A reader streams if it owes what it gives to the bytes that it takes. Its results are made of what
it gives and of the cursor behind. -/
def Streams (make : Index → Cursor → Result) (read : Cursor → Except Problem Result) : Prop :=
  ∀ cursor given after, read cursor = .ok (make given after) →
    ∃ taken, cursor.rest = taken ++ after.rest ∧
      ∀ tail, Alike after.rest tail → Takes read (make given) taken tail

/-- A reader that only moves on streams. -/
abbrev Stops (read : Cursor → Except Problem Cursor) : Prop :=
  Streams (fun (_ : Unit) after => after) read

/-- A reader streams where it stands before a certain byte, and takes this byte. -/
def StreamsFrom (byte : UInt8) (make : Index → Cursor → Result)
    (read : Cursor → Except Problem Result) : Prop :=
  ∀ cursor given after, cursor.peek? = some byte → read cursor = .ok (make given after) →
    ∃ taken, cursor.rest = byte :: taken ++ after.rest ∧
      ∀ tail, Alike after.rest tail → Takes read (make given) (byte :: taken) tail

namespace Streams

variable {read other : Cursor → Except Problem Result}

/-- Faults play no part. -/
theorem congr {Fault : Type} {other : Cursor → Except Fault Result} (streams : Streams make other)
    (same : ∀ cursor result, read cursor = .ok result ↔ other cursor = .ok result) :
    Streams make read := by
  intro cursor given after done
  obtain ⟨taken, stands, takes⟩ := streams cursor given after ((same _ _).1 done)
  exact ⟨taken, stands, fun tail alike place there => (same _ _).2 (takes tail alike place there)⟩

/-- A reader that always fails streams. -/
theorem fail (fault : Cursor → Problem) : Streams make fun cursor => .error (fault cursor) := by
  intro cursor given after done
  cases done

/-- One reader after another. -/
theorem bind {first : Cursor → Except Problem Result} {second : Result → Except Problem Next}
    (covers : ∀ result, ∃ given after, result = make given after) (one : Streams make first)
    (two : ∀ given, Streams change fun cursor => second (make given cursor)) :
    Streams change fun cursor => first cursor >>= second := by
  intro cursor given after done
  obtain ⟨result, earlier, later⟩ := bind_eq_ok_iff.1 done
  obtain ⟨between, middle, rfl⟩ := covers result
  obtain ⟨front, stands, takes⟩ := one cursor between middle earlier
  obtain ⟨back, follows, goesOn⟩ := two between middle given after later
  refine ⟨front ++ back, by rw [stands, follows, List.append_assoc], fun tail alike place there => ?_⟩
  rw [List.append_assoc] at there
  have begun := takes (back ++ tail) (by rw [follows]; exact alike.append back) place there
  have ended := goesOn tail alike _ (Cursor.rest_advanceBy_of_rest there)
  rw [Cursor.advanceBy_append]
  exact bind_eq_ok_iff.2 ⟨_, begun, ended⟩

/-- A reader whose faults are changed. -/
theorem mapError {Fault : Type} {change : Fault → Problem} {read : Cursor → Except Fault Result}
    (streams : Streams make read) : Streams make fun cursor => (read cursor).mapError change :=
  streams.congr fun _ _ => mapError_eq_ok_iff

/-- A choice that does not depend on the place. -/
theorem ite {chosen : Prop} [Decidable chosen] (one : Streams make read) (two : Streams make other) :
    Streams make fun cursor => if chosen then read cursor else other cursor := by
  by_cases holds : chosen
  · simpa only [holds, if_true] using one
  · simpa only [holds, if_false] using two

/-- A reader that fails at the end takes a byte, so it streams from its first one on. -/
theorem from_ (streams : Streams make read)
    (fails : ∀ cursor result, cursor.rest = [] → read cursor ≠ .ok result) (byte : UInt8) :
    StreamsFrom byte make read := by
  intro cursor given after next done
  obtain ⟨taken, stands, takes⟩ := streams cursor given after done
  cases taken with
  | nil =>
      exact absurd (takes [] (.inr separate_nil) ⟨[], 1, 0⟩ rfl) (fails _ _ rfl)
  | cons first rest =>
      have same := Cursor.rest_of_peek? next
      rw [stands] at same
      obtain ⟨rfl, _⟩ := List.cons.inj same
      exact ⟨rest, stands, takes⟩

/-- A reader that goes on behind the next byte streams from that on. -/
theorem advance (streams : Streams make read) (byte : UInt8) :
    StreamsFrom byte make fun cursor => read cursor.advance := by
  intro cursor given after next done
  obtain ⟨taken, stands, takes⟩ := streams cursor.advance given after done
  refine ⟨taken, by rw [Cursor.rest_of_peek? next, stands]; rfl, fun tail alike place there => ?_⟩
  exact takes tail alike place.advance (by rw [Cursor.rest_advance, there]; rfl)

end Streams

/-- A reader that takes nothing streams. -/
theorem streams_stay (item : Item) :
    Streams Prod.mk fun cursor => (.ok (item, cursor) : Except Problem (Item × Cursor)) := by
  intro cursor given after done
  cases done
  exact ⟨[], rfl, fun tail _ place _ => rfl⟩

/-- A reader that stays where it is streams. -/
theorem stops_stay : Stops fun cursor => (.ok cursor : Except Problem Cursor) := by
  intro cursor given after done
  cases done
  exact ⟨[], rfl, fun tail _ place _ => rfl⟩

/-- A reader whose values are changed. -/
theorem Streams.map {Value : Type} {read : Cursor → Except Problem (Item × Cursor)}
    (streams : Streams Prod.mk read) (change : Item → Value) :
    Streams Prod.mk fun cursor => (read cursor).map fun reading => (change reading.1, reading.2) := by
  intro cursor given after done
  obtain ⟨⟨item, behind⟩, earlier, same⟩ := map_eq_ok_iff.1 done
  obtain ⟨rfl, rfl⟩ := Prod.mk.inj same
  obtain ⟨taken, stands, takes⟩ := streams cursor item behind earlier
  exact ⟨taken, stands, fun tail alike place there =>
    map_eq_ok_iff.2 ⟨_, takes tail alike place there, rfl⟩⟩

/-- A reader that moves on and then gives a value. -/
theorem Streams.giving {read : Cursor → Except Problem Cursor} (stops : Stops read) (item : Item) :
    Streams Prod.mk fun cursor => (read cursor).map fun after => (item, after) := by
  intro cursor given after done
  obtain ⟨behind, earlier, same⟩ := map_eq_ok_iff.1 done
  obtain ⟨rfl, rfl⟩ := Prod.mk.inj same
  obtain ⟨taken, stands, takes⟩ := stops cursor () behind earlier
  exact ⟨taken, stands, fun tail alike place there =>
    map_eq_ok_iff.2 ⟨_, takes tail alike place there, rfl⟩⟩

/-- A reader whose values are left. -/
theorem Streams.moving {read : Cursor → Except Problem (Item × Cursor)}
    (streams : Streams Prod.mk read) : Stops fun cursor => (read cursor).map (·.2) := by
  intro cursor _ after done
  obtain ⟨⟨item, behind⟩, earlier, rfl⟩ := map_eq_ok_iff.1 done
  obtain ⟨taken, stands, takes⟩ := streams cursor item behind earlier
  exact ⟨taken, stands, fun tail alike place there =>
    map_eq_ok_iff.2 ⟨_, takes tail alike place there, rfl⟩⟩

/-- A value, and then what comes with it. -/
theorem Streams.andThen {first : Cursor → Except Problem (Item × Cursor)}
    {second : Item × Cursor → Except Problem Next} (one : Streams Prod.mk first)
    (two : ∀ item, Streams change fun cursor => second (item, cursor)) :
    Streams change fun cursor => first cursor >>= second :=
  one.bind (fun result => ⟨result.1, result.2, rfl⟩) two

/-- A move, and then what comes behind it. -/
theorem Streams.moveThen {first : Cursor → Except Problem Cursor}
    {second : Cursor → Except Problem Next} (one : Stops first) (two : Streams change second) :
    Streams change fun cursor => first cursor >>= second :=
  one.bind (fun result => ⟨(), result, rfl⟩) fun _ => two

namespace StreamsFrom

variable {byte : UInt8}

/-- A reader that always fails streams from every byte on. -/
theorem fail (fault : Cursor → Problem) :
    StreamsFrom byte make fun cursor => .error (fault cursor) := by
  intro cursor given after _ done
  cases done

/-- A choice that does not depend on the place. -/
theorem ite {chosen : Prop} [Decidable chosen] {read other : Cursor → Except Problem Result}
    (one : StreamsFrom byte make read) (two : StreamsFrom byte make other) :
    StreamsFrom byte make fun cursor => if chosen then read cursor else other cursor := by
  split
  · exact one
  · exact two

/-- A value, and then what comes with it. -/
theorem andThen {first : Cursor → Except Problem (Item × Cursor)}
    {second : Item × Cursor → Except Problem Next} (one : StreamsFrom byte Prod.mk first)
    (two : ∀ item, Streams change fun cursor => second (item, cursor)) :
    StreamsFrom byte change fun cursor => first cursor >>= second := by
  intro cursor given after next done
  obtain ⟨⟨item, middle⟩, earlier, later⟩ := bind_eq_ok_iff.1 done
  obtain ⟨front, stands, takes⟩ := one cursor item middle next earlier
  obtain ⟨back, follows, goesOn⟩ := two item middle given after later
  refine ⟨front ++ back, by rw [stands, follows]; simp, fun tail alike place there => ?_⟩
  have again : place.rest = byte :: front ++ (back ++ tail) := by rw [there]; simp
  have begun := takes (back ++ tail) (follows ▸ alike.append back) place again
  have ended := goesOn tail alike _ (Cursor.rest_advanceBy_of_rest again)
  rw [← List.cons_append, Cursor.advanceBy_append]
  exact bind_eq_ok_iff.2 ⟨_, begun, ended⟩

/-- A reader whose values are changed. -/
theorem map {Value : Type} {read : Cursor → Except Problem (Item × Cursor)}
    (streams : StreamsFrom byte Prod.mk read) (change : Item → Value) :
    StreamsFrom byte Prod.mk fun cursor =>
      (read cursor).map fun reading => (change reading.1, reading.2) := by
  intro cursor given after next done
  obtain ⟨⟨item, behind⟩, earlier, same⟩ := map_eq_ok_iff.1 done
  obtain ⟨rfl, rfl⟩ := Prod.mk.inj same
  obtain ⟨taken, stands, takes⟩ := streams cursor item behind next earlier
  exact ⟨taken, stands, fun tail alike place there =>
    map_eq_ok_iff.2 ⟨_, takes tail alike place there, rfl⟩⟩

end StreamsFrom

/-! ## What stands in between -/

/-- Words are taken as they are. -/
theorem stops_word (word : Bytes) : Stops fun cursor => cursor.word word := by
  intro cursor _ after done
  obtain ⟨stands, _⟩ := Cursor.word_eq_ok_iff.1 done
  refine ⟨word, stands, fun tail _ place there => Cursor.word_eq_ok_iff.2 ⟨?_, rfl⟩⟩
  rw [there, Cursor.rest_advanceBy_of_rest there]

/-- Bytes with which a numeral may go on are taken while they last. -/
theorem streams_takeWhile {keep : UInt8 → Bool} (goesOn : ∀ byte, keep byte = true → GoesOn byte) :
    Streams Prod.mk fun cursor =>
      (.ok (cursor.takeWhile keep) : Except Problem (Bytes × Cursor)) := by
  intro cursor taken after done
  obtain ⟨kept, stands, _, stops⟩ := Cursor.takeWhile_spec (Except.ok.inj done)
  refine ⟨taken, stands, fun tail alike place there => ?_⟩
  refine congrArg _ (Cursor.takeWhile_of_stop kept (fun byte next => ?_) there)
  rcases alike with same | separate
  · exact stops byte (same.trans next)
  · exact Bool.eq_false_iff.2 fun more => separate byte next (goesOn byte more)

/-- Behind blanks a reader streams as it does without them, if it needs something to read. -/
theorem Streams.behindBlanks {read : Cursor → Except Problem Result}
    (fails : ∀ cursor result, cursor.rest = [] → read cursor ≠ .ok result)
    (streams : Streams make read) : Streams make fun cursor => read cursor.skipBlanks := by
  intro cursor given after done
  obtain ⟨blanks, blank, stands, _, solid⟩ := cursor.exists_blanks
  obtain ⟨byte, next⟩ : ∃ byte, cursor.skipBlanks.peek? = some byte := by
    refine Option.ne_none_iff_exists'.1 fun ended => ?_
    exact fails _ _ (List.head?_eq_none_iff.1 ended) done
  obtain ⟨taken, there, takes⟩ := streams.from_ fails byte cursor.skipBlanks given after next done
  refine ⟨blanks ++ byte :: taken, by rw [stands, there, List.append_assoc],
    fun tail alike place same => ?_⟩
  rw [List.append_assoc, List.cons_append] at same
  obtain ⟨skipped, ahead⟩ := Cursor.skipBlanks_of_token blank (solid byte next) same
  rw [Cursor.advanceBy_append, ← skipped]
  exact takes tail alike place.skipBlanks ahead

/-- Depending on a byte with which a numeral may go on, one reader reads behind it, or another here. -/
theorem Streams.ifNext {asks : Option UInt8 → Prop} [DecidablePred asks]
    (goesOn : ∀ next, asks next → ∃ byte, next = some byte ∧ GoesOn byte)
    {read other : Cursor → Except Problem Result} (one : Streams make read)
    (two : Streams make other) :
    Streams make fun cursor => if asks cursor.peek? then read cursor.advance else other cursor := by
  intro cursor given after done
  by_cases asked : asks cursor.peek?
  · obtain ⟨byte, next, _⟩ := goesOn _ asked
    obtain ⟨taken, stands, takes⟩ :=
      one.advance byte cursor given after next (by simpa [asked] using done)
    refine ⟨byte :: taken, stands, fun tail alike place there => ?_⟩
    have same : place.peek? = cursor.peek? := by rw [next, Cursor.peek?_of_rest there]
    simpa only [same, asked, if_true] using takes tail alike place there
  · obtain ⟨taken, stands, takes⟩ := two cursor given after (by simpa [asked] using done)
    refine ⟨taken, stands, fun tail alike place there => ?_⟩
    have silent : ¬ asks place.peek? := fun asked' => by
      obtain ⟨byte, next, onward⟩ := goesOn _ asked'
      have together : Alike cursor.rest place.rest := by
        rw [stands, there]
        exact alike.append taken
      rcases together with same | separate
      · exact asked (by rwa [Cursor.peek?, same])
      · exact separate byte next onward
    simpa only [silent, if_false] using takes tail alike place there

/-- A reader that depends on the next byte streams if it does so from every byte on. -/
theorem streams_next (fault : Cursor → Problem) {read : UInt8 → Cursor → Except Problem Result}
    (streams : ∀ byte, StreamsFrom byte make (read byte)) :
    Streams make fun cursor =>
      match cursor.peek? with
      | none => .error (fault cursor)
      | some byte => read byte cursor := by
  intro cursor given after done
  cases next : cursor.peek? with
  | none =>
      simp only [next] at done
      cases done
  | some byte =>
      simp only [next] at done
      obtain ⟨taken, stands, takes⟩ := streams byte cursor given after next done
      refine ⟨byte :: taken, stands, fun tail alike place there => ?_⟩
      simp only [Cursor.peek?_of_rest there]
      exact takes tail alike place there

/-- Tokens are taken with the blanks before them. -/
theorem stops_token (byte : UInt8) : Stops fun cursor => cursor.token byte :=
  (stops_word [byte]).behindBlanks fun cursor after ended => by
    simp [Cursor.word, Cursor.peek?, ended]

/-- Bytes that are kept, and then a reader that depends on them and on the byte behind them. -/
theorem streams_behindKept {keep : UInt8 → Bool} {fault : Cursor → Problem}
    {read : Bytes → UInt8 → Cursor → Except Problem Result}
    (streams : ∀ kept byte, StreamsFrom byte make (read kept byte)) :
    Streams make fun cursor =>
      match (cursor.takeWhile keep).2.peek? with
      | none => .error (fault cursor)
      | some byte => read (cursor.takeWhile keep).1 byte (cursor.takeWhile keep).2 := by
  intro cursor given after done
  rcases split : cursor.takeWhile keep with ⟨kept, middle⟩
  obtain ⟨all, stands, _, stops⟩ := Cursor.takeWhile_spec split
  simp only [split] at done
  cases next : middle.peek? with
  | none =>
      simp only [next] at done
      cases done
  | some byte =>
      simp only [next] at done
      obtain ⟨taken, there, takes⟩ := streams kept byte middle given after next done
      refine ⟨kept ++ byte :: taken, by rw [stands, there, List.append_assoc],
        fun tail alike place same => ?_⟩
      rw [List.append_assoc, List.cons_append] at same
      have ahead := Cursor.rest_advanceBy_of_rest same
      have again := Cursor.takeWhile_of_stop all
        (fun other found => by cases found; exact stops byte next) same
      simp only [again, Cursor.peek?_of_rest ahead]
      rw [Cursor.advanceBy_append]
      exact takes tail alike _ ahead

/-! ## Loops -/

/-- What a turn comes to: the result, or the state of the next turn, and what becomes of the result
that is reached from there. -/
inductive Turn (State Result : Type) where
  | done (result : Result)
  | goesOn (state : State) (change : Result → Result)

variable {State : Type}

/-- What comes after a turn. -/
def Turn.follow (goOn : State → Cursor → Except Problem (Result × Cursor)) :
    Turn State Result × Cursor → Except Problem (Result × Cursor)
  | (done result, after) => .ok (result, after)
  | (goesOn state change, after) =>
    (goOn state after).map fun read => (change read.1, read.2)

theorem Turn.follow_goesOn_id (goOn : State → Cursor → Except Problem (Result × Cursor))
    (state : State) (after : Cursor) :
    Turn.follow goOn (goesOn state id, after) = goOn state after := by
  change (goOn state after).map _ = _
  cases goOn state after <;> rfl

/-- A reader with an allowance that reads turn by turn. -/
structure Loops (turn : State → Cursor → Except Problem (Turn State Result × Cursor))
    (read : Nat → State → Cursor → Except Problem (Result × Cursor)) : Prop where
  zero : ∀ state cursor result, read 0 state cursor ≠ .ok result
  succ : ∀ allowance state cursor result, read (allowance + 1) state cursor = .ok result ↔
    turn state cursor >>= Turn.follow (read allowance) = .ok result

section Loops

variable {turn : State → Cursor → Except Problem (Turn State Result × Cursor)}
  {read : Nat → State → Cursor → Except Problem (Result × Cursor)} (loops : Loops turn read)
  (turns : ∀ state, Streams Prod.mk (turn state))
  (fails : ∀ state cursor result, cursor.rest = [] → turn state cursor ≠ .ok result)
include loops turns fails

/-- Turns that fail at the end take a byte each, so the bytes that they take are allowance enough. -/
theorem Loops.takes (allowance : Nat) (state : State) (cursor : Cursor) (given : Result)
    (after : Cursor) (done : read allowance state cursor = .ok (given, after)) :
    ∃ taken, cursor.rest = taken ++ after.rest ∧
      ∀ tail, Alike after.rest tail → ∀ enough, taken.length ≤ enough →
        Takes (read enough state) (Prod.mk given) taken tail := by
  induction allowance generalizing state cursor given with
  | zero => exact absurd done (loops.zero state cursor _)
  | succ allowance ih =>
      obtain ⟨⟨outcome, middle⟩, turned, follows⟩ :=
        bind_eq_ok_iff.1 ((loops.succ allowance state cursor _).1 done)
      obtain ⟨front, stands, takes⟩ := turns state cursor outcome middle turned
      have taken : 0 < front.length := by
        refine List.length_pos_iff.2 fun empty => ?_
        exact fails state ⟨[], 1, 0⟩ _ rfl
          (takes [] (.inr separate_nil) ⟨[], 1, 0⟩ (by simp [empty]))
      cases outcome with
      | done result =>
          obtain ⟨rfl, rfl⟩ := Prod.mk.inj (Except.ok.inj follows)
          refine ⟨front, stands, fun tail alike enough fits place there => ?_⟩
          obtain ⟨others, rfl⟩ : ∃ others, enough = others + 1 :=
            Nat.exists_eq_add_one.2 (Nat.lt_of_lt_of_le taken fits)
          exact (loops.succ _ _ _ _).2 (bind_eq_ok_iff.2 ⟨_, takes tail alike place there, rfl⟩)
      | goesOn next change =>
          obtain ⟨⟨inner, behind⟩, again, same⟩ := map_eq_ok_iff.1 follows
          obtain ⟨rfl, rfl⟩ := Prod.mk.inj same
          obtain ⟨back, ahead, finish⟩ := ih next middle inner again
          refine ⟨front ++ back, by rw [stands, ahead, List.append_assoc],
            fun tail alike enough fits place there => ?_⟩
          rw [List.length_append] at fits
          rw [List.append_assoc] at there
          obtain ⟨others, rfl⟩ : ∃ others, enough = others + 1 := Nat.exists_eq_add_one.2 (by omega)
          have begun := takes (back ++ tail) (ahead ▸ alike.append back) place there
          have ended := finish tail alike others (by omega) _ (Cursor.rest_advanceBy_of_rest there)
          rw [Cursor.advanceBy_append]
          exact (loops.succ _ _ _ _).2
            (bind_eq_ok_iff.2 ⟨_, begun, map_eq_ok_iff.2 ⟨_, ended, rfl⟩⟩)

/-- With an allowance for all bytes there are, a loop streams if its turns do. -/
theorem Loops.streams (state : State) :
    Streams Prod.mk fun cursor => read (cursor.rest.length + 1) state cursor := by
  intro cursor given after done
  obtain ⟨taken, stands, takes⟩ := loops.takes turns fails _ state cursor given after done
  refine ⟨taken, stands, fun tail alike place there => takes tail alike _ ?_ place there⟩
  rw [there, List.length_append]
  omega

end Loops

end Readers

end ResilientHttp.Json
