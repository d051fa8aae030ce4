import ResilientHttp.Json.Literal
import ResilientHttp.Json.Numeral
import ResilientHttp.Proofs.Json.Reading

/-!
# Texts and numerals stream

A text ends with its quote, and a numeral before the first byte with which it cannot go on. Hence
both are read in the same way wherever they stand (`Literal.streams_read`, `Numeral.streams_read`),
and they are passed over in the same way too (`Literal.stops_skip`, `Numeral.stops_skip`).

A text is read piece by piece: every piece but the last ends with an escape, and the last one with
the quote (`Literal.loops_readFrom`). What a numeral is made of depends on the byte behind its digits,
which is why it may be followed by anything but a byte with which it would go on.
-/

set_option autoImplicit false

namespace ResilientHttp.Json

open Results (bind_eq_ok_iff map_eq_ok_iff)
open Decimal (Binary)

namespace Literal

/-! ## Escapes -/

/-- Four hexadecimal digits are taken. -/
theorem streams_readUnit : Streams Prod.mk readUnit := by
  intro cursor unit after done
  unfold readUnit at done
  split at done
  · rename_i first second third fourth tail stands
    split at done
    · rename_i a b c d valueA valueB valueC valueD
      obtain ⟨rfl, rfl⟩ := Prod.mk.inj (Except.ok.inj done)
      have left : (cursor.advanceBy 4).rest = tail := by
        rw [Cursor.rest_advanceBy, stands]
        rfl
      refine ⟨[first, second, third, fourth], by rw [left, stands]; rfl, fun rest _ place there => ?_⟩
      unfold readUnit
      rw [there]
      simp [valueA, valueB, valueC, valueD]
    · cases done
  · cases done

theorem stops_readInPair (byte : UInt8) : Stops (readInPair byte) := by
  refine (stops_word [byte]).congr fun cursor after => ?_
  unfold readInPair Cursor.word
  cases next : cursor.peek? with
  | none => simp
  | some found => by_cases same : found = byte <;> simp [same, Cursor.word]

/-- What follows the first unit depends on the unit alone. -/
theorem streams_readUnicode : Streams Prod.mk readUnicode := by
  unfold readUnicode
  refine streams_readUnit.andThen fun unit => ?_
  refine .ite (.fail _) (.ite (streams_stay _) ?_)
  refine (stops_readInPair 0x5c).moveThen ((stops_readInPair 0x75).moveThen ?_)
  refine streams_readUnit.andThen fun second => ?_
  exact .ite (.fail _) (streams_stay _)

theorem streams_readEscape : Streams Prod.mk readEscape := by
  unfold readEscape
  refine streams_next _ fun byte => ?_
  by_cases unicode : byte = 0x75
  · simpa only [unicode, if_true] using streams_readUnicode.advance 0x75
  · simp only [unicode, if_false]
    cases shortEscape? byte with
    | some character => exact (streams_stay character).advance byte
    | none => exact .fail fun after => after.advance.faultHere .invalidEscape

/-! ## Texts -/

/-- What is made of a piece of a text and of the byte behind it: the text ends with its quote and goes
on behind an escape. -/
def pieceEnd (before : List Char) (plain : Bytes) (byte : UInt8) (after : Cursor) :
    Except Fault (Turn (List Char) String × Cursor) :=
  match Utf8.decode plain with
  | .error _ => .error (after.faultHere .invalidCharacter)
  | .ok characters =>
    if byte = 0x22 then .ok (.done (String.ofList (before.reverse ++ characters)), after.advance)
    else if byte = 0x5c then
      (readEscape after.advance).map fun escaped =>
        (.goesOn (escaped.1 :: (characters.reverse ++ before)) id, escaped.2)
    else .error (after.faultHere .controlCharacter)

/-- A piece of a text: bytes that stand for themselves, and what ends them. -/
def piece (before : List Char) (cursor : Cursor) :
    Except Fault (Turn (List Char) String × Cursor) :=
  match (cursor.takeWhile isPlain).2.peek? with
  | none => .error (cursor.faultHere .endInText)
  | some byte => pieceEnd before (cursor.takeWhile isPlain).1 byte (cursor.takeWhile isPlain).2

theorem streams_piece (before : List Char) : Streams Prod.mk (piece before) := by
  refine streams_behindKept fun plain byte => ?_
  unfold pieceEnd
  cases Utf8.decode plain with
  | error fault => exact .fail _
  | ok characters =>
      refine .ite ((streams_stay _).advance byte) (.ite ?_ (.fail _))
      exact (streams_readEscape.map fun escaped =>
        Turn.goesOn (escaped :: (characters.reverse ++ before)) id).advance byte

/-- A text is read piece by piece. -/
theorem loops_readFrom : Loops piece readFrom where
  zero before cursor result := nofun
  succ allowance before cursor result := by
    conv => lhs; unfold readFrom
    unfold piece
    rcases cursor.takeWhile isPlain with ⟨plain, after⟩
    cases next : after.peek? with
    | none => simp [next, bind, Except.bind]
    | some byte =>
        simp only [next, pieceEnd, plainCharacters]
        cases Utf8.decode plain with
        | error fault => split <;> simp_all [bind, Except.bind]
        | ok characters =>
            split
            · contradiction
            · simp_all [bind, Except.bind, Turn.follow]
            · cases escape : readEscape after.advance <;>
                simp_all [bind, Except.bind, Except.map, Turn.follow_goesOn_id]
            · simp_all [bind, Except.bind]

/-- A text is read in the same way wherever it stands. -/
theorem streams_read : Streams Prod.mk read := by
  refine loops_readFrom.streams streams_piece (fun before cursor result ended => ?_) []
  simp [piece, Cursor.takeWhile, Cursor.advanceBy, Cursor.peek?, ended]

/-! ## Texts that are passed over -/

theorem stops_skipEscape : Stops skipEscape := by
  unfold skipEscape
  refine streams_next _ fun byte => ?_
  by_cases unicode : byte = 0x75
  · simpa only [unicode, if_true] using streams_readUnit.moving.advance 0x75
  · simp only [unicode, if_false]
    cases short : (shortEscape? byte).isSome with
    | true => exact stops_stay.advance byte
    | false => exact .fail fun after => after.advance.faultHere .invalidEscape

/-- What ends a piece that is passed over. Its bytes are not looked at. -/
def skippedEnd (_ : Bytes) (byte : UInt8) (after : Cursor) :
    Except Fault (Turn Unit Unit × Cursor) :=
  if byte = 0x22 then .ok (.done (), after.advance)
  else if byte = 0x5c then (skipEscape after.advance).map fun behind => (.goesOn () id, behind)
  else .error (after.faultHere .controlCharacter)

/-- A piece of a text that is passed over. -/
def skipped (_ : Unit) (cursor : Cursor) : Except Fault (Turn Unit Unit × Cursor) :=
  match (cursor.takeWhile isPlain).2.peek? with
  | none => .error (cursor.faultHere .endInText)
  | some byte => skippedEnd (cursor.takeWhile isPlain).1 byte (cursor.takeWhile isPlain).2

theorem streams_skipped (state : Unit) : Streams Prod.mk (skipped state) := by
  refine streams_behindKept fun _ byte => ?_
  refine .ite ((streams_stay _).advance byte) (.ite ?_ (.fail _))
  exact (Streams.giving stops_skipEscape (Turn.goesOn () id)).advance byte

/-- A text is passed over piece by piece. -/
theorem loops_skipFrom :
    Loops skipped
      fun allowance _ cursor => (skipFrom allowance cursor).map fun after => ((), after) where
  zero _ cursor result := nofun
  succ allowance _ cursor result := by
    conv => lhs; unfold skipFrom
    unfold skipped
    rcases cursor.takeWhile isPlain with ⟨plain, after⟩
    cases next : after.peek? with
    | none => simp [next, bind, Except.bind, Except.map]
    | some byte =>
        simp only [next, skippedEnd]
        split
        · contradiction
        · simp_all [bind, Except.bind, Except.map, Turn.follow]
        · cases escape : skipEscape after.advance <;>
            simp_all [bind, Except.bind, Except.map, Turn.follow_goesOn_id]
        · simp_all [bind, Except.bind, Except.map]

/-- A text is passed over in the same way wherever it stands. -/
theorem stops_skip : Stops skip := by
  have loop := loops_skipFrom.streams streams_skipped (fun _ cursor result ended => by
    simp [skipped, Cursor.takeWhile, Cursor.advanceBy, Cursor.peek?, ended]) ()
  refine loop.moving.congr fun cursor after => ?_
  simp [skip, map_eq_ok_iff]

end Literal

namespace Numeral

/-! ## Digits -/

theorem goesOn_of_isDigit {byte : UInt8} (digit : isDigit byte = true) : GoesOn byte := by
  simp only [isDigit, Bool.and_eq_true, decide_eq_true_eq] at digit
  exact .inl digit

/-- Digits, and at least one. -/
def someDigits (cursor : Cursor) : Except Fault (Bytes × Cursor) := do
  let (digits, after) ← .ok (cursor.takeWhile isDigit)
  if digits = [] then .error (after.faultHere .invalidNumber) else .ok (digits, after)

theorem streams_someDigits : Streams Prod.mk someDigits := by
  refine (streams_takeWhile fun byte => goesOn_of_isDigit).andThen fun digits => ?_
  exact .ite (.fail _) (streams_stay digits)

/-- Without a digit there are no digits. -/
theorem takeWhile_isDigit_of_peek? {cursor : Cursor}
    (noDigit : ∀ byte, cursor.peek? = some byte → isDigit byte = false) :
    (cursor.takeWhile isDigit).1 = [] := by
  obtain ⟨rest, line, column⟩ := cursor
  cases rest with
  | nil => rfl
  | cons byte rest => exact List.takeWhile_cons_of_neg (by simp [noDigit byte rfl])

theorem someDigits_ne_ok (cursor : Cursor)
    (noDigit : ∀ byte, cursor.peek? = some byte → isDigit byte = false) (result : Bytes × Cursor) :
    someDigits cursor ≠ .ok result := by
  simp [someDigits, takeWhile_isDigit_of_peek? noDigit, bind, Except.bind]

theorem someDigits_of_digit {cursor : Cursor} {byte : UInt8} (next : cursor.peek? = some byte)
    (digit : isDigit byte = true) : someDigits cursor = .ok (cursor.takeWhile isDigit) := by
  have taken : (cursor.takeWhile isDigit).1 ≠ [] := by
    simp [Cursor.takeWhile, Cursor.rest_of_peek? next, digit]
  simp [someDigits, bind, Except.bind, taken]

/-! ## Numerals -/

theorem streams_finish (isNegative : Bool) (whole : Nat) (exponent : Int) :
    Streams Prod.mk (finish isNegative whole exponent) := by
  unfold finish
  cases scale whole exponent with
  | none => exact .fail _
  | some magnitude => exact streams_stay _

/-- Whether the sign of an exponent is not a minus, and the cursor behind the sign. -/
def sign (cursor : Cursor) : Bool × Cursor :=
  match cursor.peek? with
  | some 0x2b => (true, cursor.advance)
  | some 0x2d => (false, cursor.advance)
  | _ => (true, cursor)

theorem sign_of_peek? {cursor : Cursor} {byte : UInt8} (next : cursor.peek? = some byte) :
    sign cursor =
      if byte = 0x2b then (true, cursor.advance)
      else if byte = 0x2d then (false, cursor.advance)
      else (true, cursor) := by
  unfold sign
  rw [next]
  split <;> simp_all

/-- A sign is taken if it is there. -/
theorem streams_signed {Index Result : Type} {make : Index → Cursor → Result}
    {read : Bool → Cursor → Except Fault Result} (streams : ∀ isUp, Streams make (read isUp))
    (fails : ∀ isUp cursor result, cursor.rest = [] → read isUp cursor ≠ .ok result) :
    Streams make fun cursor => read (sign cursor).1 (sign cursor).2 := by
  have signed : Streams make fun cursor =>
      match cursor.peek? with
      | none => .error (cursor.faultHere .invalidNumber)
      | some byte =>
        if byte = 0x2b then read true cursor.advance
        else if byte = 0x2d then read false cursor.advance
        else read true cursor := by
    refine streams_next _ fun byte => ?_
    by_cases plus : byte = 0x2b
    · simpa only [plus, if_true] using (streams true).advance 0x2b
    by_cases minus : byte = 0x2d
    · simpa [minus] using (streams false).advance 0x2d
    · simpa only [plus, minus, if_false] using (streams true).from_ (fails true) byte
  refine signed.congr fun cursor result => ?_
  cases next : cursor.peek? with
  | none =>
      have ended : cursor.rest = [] := List.head?_eq_none_iff.1 next
      simp [sign, next, fails true cursor result ended]
  | some byte =>
      simp only [sign_of_peek? next]
      split
      · rfl
      · split <;> rfl

/-- What the digits of an exponent make of a numeral. -/
def exponentOf (isNegative : Bool) (whole : Nat) (start : Int) (isUp : Bool) (digits : Bytes)
    (after : Cursor) : Except Fault (Number × Cursor) :=
  let (exponent, used) := accumulate maxExponent 0 digits
  if used < digits.length then
    if whole ≠ 0 && isUp then .error (after.faultHere .numberOutOfRange)
    else .ok (.real isNegative Binary.zero, after)
  else finish isNegative whole (if isUp then start + exponent else start - exponent) after

/-- The digits of an exponent, from behind its sign. -/
def behindSign (isNegative : Bool) (whole : Nat) (start : Int) (isUp : Bool) (cursor : Cursor) :
    Except Fault (Number × Cursor) := do
  let (digits, after) ← someDigits cursor
  exponentOf isNegative whole start isUp digits after

theorem streams_behindSign (isNegative : Bool) (whole : Nat) (start : Int) (isUp : Bool) :
    Streams Prod.mk (behindSign isNegative whole start isUp) := by
  refine streams_someDigits.andThen fun digits => ?_
  exact .ite (.ite (.fail _) (streams_stay _)) (streams_finish _ _ _)

theorem behindSign_ne_ok (cursor : Cursor)
    (noDigit : ∀ byte, cursor.peek? = some byte → isDigit byte = false) (isNegative : Bool)
    (whole : Nat) (start : Int) (isUp : Bool) (result : Number × Cursor) :
    behindSign isNegative whole start isUp cursor ≠ .ok result := by
  intro done
  obtain ⟨_, found, _⟩ := bind_eq_ok_iff.1 done
  exact someDigits_ne_ok cursor noDigit _ found

/-- An exponent has a sign or none, and digits. -/
theorem readExponent_eq_ok_iff {isNegative : Bool} {whole : Nat} {start : Int} {cursor : Cursor}
    {result : Number × Cursor} :
    readExponent isNegative whole start cursor = .ok result ↔
      behindSign isNegative whole start (sign cursor).1 (sign cursor).2 = .ok result := by
  unfold readExponent
  split
  rename_i isUp signed same
  rw [show sign cursor = (isUp, signed) from same]
  cases next : signed.peek? with
  | none =>
      have empty := behindSign_ne_ok signed (by simp [next]) isNegative whole start isUp
      simp [empty]
  | some first =>
      cases digit : isDigit first with
      | false =>
          have empty := behindSign_ne_ok signed (by simp [next, digit]) isNegative whole
            start isUp
          simp [empty, digit]
      | true =>
          simp only [behindSign, someDigits_of_digit next digit, digit, if_true, exponentOf, bind,
            Except.bind]
          split
          · split <;> simp
          · rfl

theorem streams_readExponent (isNegative : Bool) (whole : Nat) (start : Int) :
    Streams Prod.mk (readExponent isNegative whole start) := by
  refine (streams_signed (streams_behindSign isNegative whole start) ?_).congr
    fun cursor result => readExponent_eq_ok_iff
  exact fun isUp cursor result ended =>
    behindSign_ne_ok cursor (by simp [Cursor.peek?, ended]) isNegative whole start isUp result

/-- A mark of an exponent is a byte with which a numeral may go on. -/
theorem goesOn_of_isExponentMark (next : Option UInt8) (mark : isExponentMark next = true) :
    ∃ byte, next = some byte ∧ GoesOn byte := by
  simp only [isExponentMark, Bool.or_eq_true, decide_eq_true_eq] at mark
  rcases mark with rfl | rfl <;> exact ⟨_, rfl, by decide⟩

/-- What stands behind the digits of a fraction, and what it makes of it. -/
def behindFraction (isNegative : Bool) (whole dropped : Nat) (digits : Bytes) (after : Cursor) :
    Except Fault (Number × Cursor) :=
  let (longer, used) := accumulate maxWhole whole digits
  let exponent : Int := (dropped : Int) - used
  if isExponentMark after.peek? then readExponent isNegative longer exponent after.advance
  else finish isNegative longer exponent after

/-- A fraction has digits, and perhaps an exponent. -/
theorem streams_readFraction (isNegative : Bool) (whole dropped : Nat) :
    Streams Prod.mk (readFraction isNegative whole dropped) := by
  have fraction : Streams Prod.mk (fun cursor => do
      let (digits, after) ← someDigits cursor
      behindFraction isNegative whole dropped digits after) :=
    streams_someDigits.andThen fun digits =>
      .ifNext goesOn_of_isExponentMark (streams_readExponent _ _ _) (streams_finish _ _ _)
  refine fraction.congr fun cursor result => ?_
  unfold readFraction someDigits
  cases taken : cursor.takeWhile isDigit with
  | mk digits after =>
  cases digits with
  | nil => cases next : after.peek? <;> simp [bind, Except.bind, next]
  | cons first rest =>
      simp only [bind, Except.bind, List.isEmpty_cons, Bool.false_eq_true, reduceCtorEq, if_false,
        behindFraction]

/-- Whether digits begin with a zero that is not the only one. -/
def hasLeadingZero (digits : Bytes) : Bool :=
  digits.head? = some 0x30 && !digits.tail.isEmpty

/-- What stands behind the digits of a whole number, and what it makes of it. -/
def behindDigits (isNegative : Bool) (digits : Bytes) (after : Cursor) :
    Except Fault (Number × Cursor) :=
  let (whole, used) := accumulate maxWhole 0 digits
  let dropped := digits.length - used
  if after.peek? = some 0x2e then readFraction isNegative whole dropped after.advance
  else if isExponentMark after.peek? then readExponent isNegative whole dropped after.advance
  else if dropped = 0 then .ok (signed isNegative whole, after)
  else finish isNegative whole dropped after

/-- A point is a byte with which a numeral may go on. -/
theorem goesOn_of_point (next : Option UInt8) (point : next = some 0x2e) :
    ∃ byte, next = some byte ∧ GoesOn byte :=
  ⟨_, point, by decide⟩

theorem streams_behindDigits (isNegative : Bool) (digits : Bytes) :
    Streams Prod.mk (behindDigits isNegative digits) := by
  refine .ifNext goesOn_of_point (streams_readFraction _ _ _) ?_
  refine .ifNext goesOn_of_isExponentMark (streams_readExponent _ _ _) ?_
  exact .ite (streams_stay _) (streams_finish _ _ _)

/-- A numeral is read in the same way wherever it stands. -/
theorem streams_read (isNegative : Bool) : Streams Prod.mk (read isNegative) := by
  have whole : Streams Prod.mk (fun cursor => do
      let (digits, after) ← someDigits cursor
      if hasLeadingZero digits then .error (after.faultHere .invalidNumber)
      else behindDigits isNegative digits after) :=
    streams_someDigits.andThen fun digits => .ite (.fail _) (streams_behindDigits isNegative digits)
  refine whole.congr fun cursor result => ?_
  unfold read someDigits hasLeadingZero
  cases taken : cursor.takeWhile isDigit with
  | mk digits after =>
  cases digits with
  | nil => cases next : cursor.peek? <;> simp [bind, Except.bind]
  | cons first rest =>
      simp only [bind, Except.bind, reduceCtorEq, if_false, List.head?_cons, List.tail_cons,
        Option.some.injEq, behindDigits]
      split <;> simp

/-- From its first digit on a numeral without sign is read. -/
theorem streamsFrom_read (byte : UInt8) : StreamsFrom byte Prod.mk (read false) :=
  (streams_read false).from_ (fun cursor result ended => by
    simp [read, Cursor.takeWhile, Cursor.peek?, ended]) byte

/-! ## Numerals that are passed over -/

theorem skipExponent_eq_ok_iff {cursor after : Cursor} :
    skipExponent cursor = .ok after ↔ (someDigits (sign cursor).2).map (·.2) = .ok after := by
  have behind : (match cursor.peek? with
      | some 0x2b => cursor.advance
      | some 0x2d => cursor.advance
      | _ => cursor) = (sign cursor).2 := by
    unfold sign
    split <;> simp_all
  have signed : skipExponent cursor =
      match (sign cursor).2.peek? with
      | none => .error ((sign cursor).2.faultHere .invalidNumber)
      | some first =>
        if isDigit first then .ok ((sign cursor).2.takeWhile isDigit).2
        else .error ((sign cursor).2.advance.faultHere .invalidNumber) := by
    rw [← behind]
    rfl
  rw [signed]
  cases next : (sign cursor).2.peek? with
  | none =>
      have empty := someDigits_ne_ok (sign cursor).2 (by simp [next])
      simp [map_eq_ok_iff, empty]
  | some first =>
      cases digit : isDigit first with
      | false =>
          have empty := someDigits_ne_ok (sign cursor).2 (by simp [next, digit])
          simp [map_eq_ok_iff, empty, digit]
      | true =>
          simp [map_eq_ok_iff, someDigits_of_digit next digit, digit]

theorem stops_skipExponent : Stops skipExponent := by
  refine (streams_signed (fun _ => streams_someDigits.moving) ?_).congr
    fun cursor after => skipExponent_eq_ok_iff
  intro _ cursor after ended done
  obtain ⟨_, found, _⟩ := map_eq_ok_iff.1 done
  exact someDigits_ne_ok cursor (by simp [Cursor.peek?, ended]) _ found

/-- Passes over what may stand behind digits, if there is an exponent. -/
def skipMark (after : Cursor) : Except Fault Cursor :=
  if isExponentMark after.peek? then skipExponent after.advance else .ok after

theorem stops_skipMark : Stops skipMark :=
  .ifNext goesOn_of_isExponentMark stops_skipExponent stops_stay

/-- Passes over what may stand behind the digits of a whole number. -/
def skipBehind (after : Cursor) : Except Fault Cursor :=
  if after.peek? = some 0x2e then do
    let (_, behind) ← someDigits after.advance
    skipMark behind
  else skipMark after

theorem stops_skipBehind : Stops skipBehind :=
  .ifNext goesOn_of_point (streams_someDigits.andThen fun _ => stops_skipMark) stops_skipMark

/-- A numeral is passed over in the same way wherever it stands. -/
theorem stops_skip : Stops skip := by
  have whole : Stops (fun cursor => do
      let (digits, after) ← someDigits cursor
      if hasLeadingZero digits then .error (after.faultHere .invalidNumber) else skipBehind after) :=
    streams_someDigits.andThen fun digits => .ite (.fail _) stops_skipBehind
  refine whole.congr fun cursor result => ?_
  unfold skip hasLeadingZero
  cases taken : cursor.takeWhile isDigit with
  | mk digits after =>
  cases digits with
  | nil => cases next : cursor.peek? <;> simp [someDigits, taken, bind, Except.bind]
  | cons first rest =>
      have found : someDigits cursor = .ok (first :: rest, after) := by
        simp [someDigits, taken, bind, Except.bind]
      simp only [found, bind, Except.bind, List.head?_cons, List.tail_cons, Option.some.injEq,
        skipBehind, skipMark]
      split
      · simp
      · split
        · rcases point : after.advance.takeWhile isDigit with ⟨fraction, behind⟩
          cases fraction <;> simp [someDigits, point, bind, Except.bind]
        · rfl

/-- From its first digit on a numeral without sign is passed over. -/
theorem stopsFrom_skip (byte : UInt8) :
    StreamsFrom byte (fun (_ : Unit) after => after) skip :=
  stops_skip.from_ (fun cursor after ended => by
    simp [skip, Cursor.takeWhile, Cursor.peek?, ended]) byte

end Numeral

end ResilientHttp.Json
