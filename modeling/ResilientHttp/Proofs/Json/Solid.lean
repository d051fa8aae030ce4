import ResilientHttp.Proofs.Json.Reading

/-!
# Readers that need something to read

Most readers skip the blanks before what they read and fail where there is nothing else. Such a
reader is solid (`Solid`): what it takes has a first byte that is no blank. This byte is the same
wherever the bytes stand, so one may choose between two solid readers by it (`Solid.ifToken`).
-/

set_option autoImplicit false

namespace ResilientHttp.Json

open Results (bind_eq_ok_iff map_eq_ok_iff mapError_eq_ok_iff)
open Cursor (AllBlank)

section Solid

variable {Problem Index Other Result Next Item : Type} {make : Index → Cursor → Result}
  {change : Other → Cursor → Next}

/-- A reader that streams and gives nothing where there are only blanks. -/
structure Solid (make : Index → Cursor → Result) (read : Cursor → Except Problem Result) : Prop where
  streams : Streams make read
  needs : ∀ cursor result, AllBlank cursor.rest → read cursor ≠ .ok result

namespace Solid

variable {read other : Cursor → Except Problem Result}

theorem fails (solid : Solid make read) (cursor : Cursor) (result : Result)
    (ended : cursor.rest = []) : read cursor ≠ .ok result :=
  solid.needs cursor result (by simp [AllBlank, ended])

/-- What a solid reader takes has a first byte that is no blank. -/
theorem exists_token (solid : Solid make read) {given : Index} {taken : Bytes}
    (takes : Takes read (make given) taken []) :
    ∃ blanks byte more, AllBlank blanks ∧ Cursor.isBlank byte = false ∧
      taken = blanks ++ byte :: more := by
  obtain ⟨blanks, blank, stands, _, solidByte⟩ := Cursor.exists_blanks ⟨taken, 1, 0⟩
  cases next : (Cursor.skipBlanks ⟨taken, 1, 0⟩).peek? with
  | some byte =>
      exact ⟨blanks, byte, _, blank, solidByte byte next,
        by rw [← Cursor.rest_of_peek? next, ← stands]⟩
  | none =>
      rw [List.head?_eq_none_iff.1 next, List.append_nil] at stands
      have only : taken = blanks := stands
      exact absurd (takes ⟨taken, 1, 0⟩ (List.append_nil taken).symm)
        (solid.needs _ _ (only ▸ blank))

/-- Hence this byte is the same wherever it stands. -/
theorem peek?_skipBlanks (solid : Solid make read) {given : Index} {taken tail others : Bytes}
    {cursor place : Cursor} (takes : Takes read (make given) taken [])
    (stands : cursor.rest = taken ++ tail) (there : place.rest = taken ++ others) :
    place.skipBlanks.peek? = cursor.skipBlanks.peek? := by
  obtain ⟨blanks, byte, more, blank, solidByte, rfl⟩ := solid.exists_token takes
  rw [List.append_assoc, List.cons_append] at stands there
  rw [Cursor.peek?_of_rest (Cursor.skipBlanks_of_token blank solidByte stands).2,
    Cursor.peek?_of_rest (Cursor.skipBlanks_of_token blank solidByte there).2]

/-- Faults play no part. -/
theorem congr {Fault : Type} {other : Cursor → Except Fault Result} (solid : Solid make other)
    (same : ∀ cursor result, read cursor = .ok result ↔ other cursor = .ok result) :
    Solid make read where
  streams := solid.streams.congr same
  needs cursor result blank done := solid.needs cursor result blank ((same cursor result).1 done)

/-- A reader that always fails is solid. -/
theorem fail (fault : Cursor → Problem) :
    Solid make fun cursor => .error (fault cursor) where
  streams := .fail fault
  needs := by
    intro cursor result _ done
    cases done

/-- A solid reader, and then what comes with its value. -/
theorem andThen {first : Cursor → Except Problem (Item × Cursor)}
    {second : Item × Cursor → Except Problem Next} (one : Solid Prod.mk first)
    (two : ∀ item, Streams change fun cursor => second (item, cursor)) :
    Solid change fun cursor => first cursor >>= second where
  streams := one.streams.andThen two
  needs cursor result blank done := by
    obtain ⟨value, earlier, _⟩ := bind_eq_ok_iff.1 done
    exact one.needs cursor value blank earlier

/-- A solid move, and then what comes behind it. -/
theorem moveThen {first : Cursor → Except Problem Cursor}
    {second : Cursor → Except Problem Next}
    (one : Solid (fun (_ : Unit) after => after) first) (two : Streams change second) :
    Solid change fun cursor => first cursor >>= second where
  streams := one.streams.moveThen two
  needs cursor result blank done := by
    obtain ⟨after, earlier, _⟩ := bind_eq_ok_iff.1 done
    exact one.needs cursor after blank earlier

/-- A solid reader whose values are changed. -/
theorem map {Value : Type} {read : Cursor → Except Problem (Item × Cursor)}
    (solid : Solid Prod.mk read) (change : Item → Value) :
    Solid Prod.mk fun cursor => (read cursor).map fun reading => (change reading.1, reading.2) where
  streams := solid.streams.map change
  needs cursor result blank done := by
    obtain ⟨reading, earlier, _⟩ := map_eq_ok_iff.1 done
    exact solid.needs cursor reading blank earlier

/-- A solid move that then gives a value. -/
theorem giving {read : Cursor → Except Problem Cursor}
    (solid : Solid (fun (_ : Unit) after => after) read) (item : Item) :
    Solid Prod.mk fun cursor => (read cursor).map fun after => (item, after) where
  streams := Streams.giving solid.streams item
  needs cursor result blank done := by
    obtain ⟨after, earlier, _⟩ := map_eq_ok_iff.1 done
    exact solid.needs cursor after blank earlier

/-- A solid reader whose faults are changed. -/
theorem mapError {Fault : Type} {change : Fault → Problem} {read : Cursor → Except Fault Result}
    (solid : Solid make read) : Solid make fun cursor => (read cursor).mapError change :=
  solid.congr fun _ _ => mapError_eq_ok_iff

/-- A reader behind blanks is solid if it needs something to read. -/
theorem behindBlanks (streams : Streams make read)
    (fails : ∀ cursor result, cursor.rest = [] → read cursor ≠ .ok result) :
    Solid make fun cursor => read cursor.skipBlanks where
  streams := streams.behindBlanks fails
  needs _ _ blank :=
    fails _ _ (List.head?_eq_none_iff.1 (Cursor.peek?_skipBlanks_of_blank blank))

/-- A choice by the first byte that is no blank. -/
theorem ifToken (asks : Option UInt8 → Prop) [DecidablePred asks] (one : Solid make read)
    (two : Solid make other) :
    Solid make fun cursor =>
      if asks cursor.skipBlanks.peek? then read cursor else other cursor where
  streams := by
    intro cursor given after done
    by_cases asked : asks cursor.skipBlanks.peek?
    · simp only [asked, if_true] at done
      obtain ⟨taken, stands, takes⟩ := one.streams cursor given after done
      refine ⟨taken, stands, fun tail alike place there => ?_⟩
      have same := one.peek?_skipBlanks (takes [] (.inr separate_nil)) stands there
      simpa only [same, asked, if_true] using takes tail alike place there
    · simp only [asked, if_false] at done
      obtain ⟨taken, stands, takes⟩ := two.streams cursor given after done
      refine ⟨taken, stands, fun tail alike place there => ?_⟩
      have same := two.peek?_skipBlanks (takes [] (.inr separate_nil)) stands there
      simpa only [same, asked, if_false] using takes tail alike place there
  needs cursor result blank done := by
    split at done
    · exact one.needs cursor result blank done
    · exact two.needs cursor result blank done

end Solid

/-- A token is solid if it is no blank. -/
theorem solid_token (byte : UInt8) :
    Solid (fun (_ : Unit) after => after) fun cursor => cursor.token byte where
  streams := stops_token byte
  needs cursor after blank done := by
    cases (Cursor.token_eq_ok_iff.1 done).1.symm.trans (Cursor.peek?_skipBlanks_of_blank blank)

/-- A loop streams if its turns are solid. -/
theorem Loops.streams_of_solid {State : Type}
    {turn : State → Cursor → Except Problem (Turn State Result × Cursor)}
    {read : Nat → State → Cursor → Except Problem (Result × Cursor)} (loops : Loops turn read)
    (solid : ∀ state, Solid Prod.mk (turn state)) (state : State) :
    Streams Prod.mk fun cursor => read (cursor.rest.length + 1) state cursor :=
  loops.streams (fun state => (solid state).streams) (fun state => (solid state).fails) state

end Solid

end ResilientHttp.Json
