import ResilientHttp.Json.Skip
import ResilientHttp.Proofs.Json.Scalars

/-!
# Passing over a value streams

A value that nobody asked for is passed over with a stack of what is open. Each step that takes
nothing is followed by one that takes a byte, so an allowance of two steps for each byte, and one
more where what follows a value is looked for, is enough (`Skip.passesWithin`). Hence a value is
passed over in the same way wherever it stands (`Skip.stops_value`).
-/

set_option autoImplicit false

namespace ResilientHttp.Json.Skip

open Results (bind_eq_ok_iff)
open Cursor (AllBlank)

/-! ## Values without others in them -/

/-- From a byte on a value is passed over, unless the byte is an opening bracket. -/
theorem scalar_cases (byte : UInt8) :
    (∀ cursor, scalar byte cursor = none) ∨
      ∃ pass : Cursor → Except Fault Cursor, (∀ cursor, scalar byte cursor = some (pass cursor)) ∧
        StreamsFrom byte (fun (_ : Unit) after => after) pass := by
  unfold scalar
  split
  · exact .inr ⟨_, fun _ => rfl, (stops_word _).advance byte⟩
  split
  · exact .inr ⟨_, fun _ => rfl, (stops_word _).advance byte⟩
  split
  · exact .inr ⟨_, fun _ => rfl, (stops_word _).advance byte⟩
  split
  · exact .inr ⟨_, fun _ => rfl, Numeral.stops_skip.advance byte⟩
  split
  · exact .inr ⟨_, fun _ => rfl, Numeral.stopsFrom_skip byte⟩
  split
  · exact .inr ⟨_, fun _ => rfl, Literal.stops_skip.advance byte⟩
  split
  · exact .inl fun _ => rfl
  · exact .inr ⟨_, fun _ => rfl, .fail _⟩

/-! ## Names -/

/-- Passes over the name of an entry and the colon behind it. -/
def nameAndColon (cursor : Cursor) : Except Fault Cursor := do
  let behind ← Literal.skip (← cursor.token 0x22)
  behind.token 0x3a

theorem stops_nameAndColon : Stops nameAndColon :=
  (stops_token 0x22).moveThen (Literal.stops_skip.moveThen (stops_token 0x3a))

theorem stops_entryName (frame : Frame) : Stops (entryName frame) := by
  cases frame with
  | list => exact stops_stay
  | object =>
      refine stops_nameAndColon.congr fun cursor after => ?_
      unfold entryName nameAndColon
      cases next : cursor.skipBlanks.peek? with
      | none => simp [bind_eq_ok_iff, Cursor.token_eq_ok_iff, next]
      | some byte =>
          by_cases quote : byte = 0x22
          · subst quote
            simp only [Cursor.token_of_peek? next, next, bind, Except.bind, if_true]
            cases Literal.skip cursor.skipBlanks.advance with
            | error fault => simp
            | ok behind =>
                simp only [Cursor.token_eq_ok_iff]
                split <;> simp_all [@eq_comm _ after]
          · simp [bind_eq_ok_iff, Cursor.token_eq_ok_iff, next, quote]

/-! ## Open arrays and objects -/

/-- The allowance that is enough to pass over so many bytes. -/
def cost (mode : Mode) (count : Nat) : Nat :=
  match mode with
  | .value => 2 * count
  | .next _ => 2 * count + 1

section Steps

variable {cursor after : Cursor} {byte : UInt8} {stack : List Frame} {frame : Frame}
  {afterValue : Bool} (next : cursor.skipBlanks.peek? = some byte) (allowance : Nat)
include next

theorem through_value :
    through (allowance + 1) .value stack cursor =
      match scalar byte cursor.skipBlanks with
      | some passed => passed >>= through allowance (.next true) stack
      | none =>
        through allowance (.next false) ((if byte = 0x5b then Frame.list else .object) :: stack)
          cursor.skipBlanks.advance := by
  conv => lhs; unfold through
  cases found : scalar byte cursor.skipBlanks <;> simp only [next, found]

theorem through_next :
    through (allowance + 1) (.next afterValue) (frame :: stack) cursor =
      if byte = 0x2c && afterValue then
        entryName frame cursor.skipBlanks.advance >>= through allowance .value (frame :: stack)
      else if byte = frame.closer then through allowance (.next true) stack cursor.skipBlanks.advance
      else if afterValue then .error (cursor.skipBlanks.faultNext frame.noComma)
      else entryName frame cursor.skipBlanks >>= through allowance .value (frame :: stack) := by
  conv => lhs; unfold through
  simp only [next]

end Steps

/-- Without a byte that is no blank nothing is passed over but the end of what is open. -/
theorem exists_token_of_through {allowance : Nat} {mode : Mode} {stack : List Frame}
    {cursor after : Cursor} (done : through (allowance + 1) mode stack cursor = .ok after) :
    (∃ byte, cursor.skipBlanks.peek? = some byte) ∨
      (∃ afterValue, mode = .next afterValue) ∧ stack = [] ∧ cursor = after := by
  cases next : cursor.skipBlanks.peek? with
  | some byte => exact .inl ⟨byte, rfl⟩
  | none =>
  refine .inr ?_
  unfold through at done
  split at done
  · cases done
  · simp only [next] at done
    cases done
  · exact ⟨⟨_, rfl⟩, rfl, Except.ok.inj done⟩
  · simp only [next] at done
    cases done

/-- The bytes between two places are passed over wherever they stand, with the allowance that they
are. -/
def Passes (mode : Mode) (stack : List Frame) (cursor after : Cursor) : Prop :=
  ∃ taken, cursor.rest = taken ++ after.rest ∧
    ∀ tail, Alike after.rest tail → ∀ enough, cost mode taken.length ≤ enough →
      Takes (through enough mode stack) id taken tail

/-- The same from the first byte that is no blank on. -/
def PassesFrom (byte : UInt8) (mode : Mode) (stack : List Frame) (cursor after : Cursor) : Prop :=
  ∃ more, cursor.skipBlanks.rest = byte :: more ++ after.rest ∧
    ∀ tail, Alike after.rest tail → ∀ enough, cost mode (more.length + 1) ≤ enough + 1 →
      ∀ place : Cursor, place.skipBlanks.rest = byte :: more ++ tail →
        through (enough + 1) mode stack place = .ok (place.skipBlanks.advanceBy (more.length + 1))

/-- What is passed over with so much allowance is passed over in the same way wherever it stands. -/
def PassesWithin (allowance : Nat) : Prop :=
  ∀ mode stack cursor after, through allowance mode stack cursor = .ok after →
    Passes mode stack cursor after

section Passing

variable {allowance : Nat} {cursor after : Cursor} {byte : UInt8} {mode : Mode}
  {stack : List Frame} {frame : Frame} {afterValue : Bool} (within : PassesWithin allowance)
  (next : cursor.peek? = some byte)
include within next

/-- First a byte is passed over, then the rest. -/
theorem passes_advance (done : through allowance mode stack cursor.advance = .ok after) :
    ∃ more, cursor.rest = byte :: more ++ after.rest ∧
      ∀ tail, Alike after.rest tail → ∀ enough, cost mode more.length ≤ enough →
        ∀ place : Cursor, place.rest = byte :: more ++ tail →
          through enough mode stack place.advance = .ok (place.advanceBy (more.length + 1)) := by
  obtain ⟨more, follows, takes⟩ := within _ _ _ _ done
  refine ⟨more, by rw [Cursor.rest_of_peek? next, follows]; rfl,
    fun tail alike enough fits place there => ?_⟩
  exact takes tail alike enough fits place.advance (by rw [Cursor.rest_advance, there]; rfl)

/-- First something is passed over from a byte on, then the rest. -/
theorem passes_from {pass : Cursor → Except Fault Cursor}
    (streams : StreamsFrom byte (fun (_ : Unit) after => after) pass)
    (done : pass cursor >>= through allowance mode stack = .ok after) :
    ∃ more, cursor.rest = byte :: more ++ after.rest ∧
      ∀ tail, Alike after.rest tail → ∀ enough, cost mode more.length ≤ enough →
        ∀ place : Cursor, place.rest = byte :: more ++ tail →
          pass place >>= through enough mode stack = .ok (place.advanceBy (more.length + 1)) := by
  obtain ⟨middle, passed, goesOn⟩ := bind_eq_ok_iff.1 done
  obtain ⟨front, stands, takes⟩ := streams cursor () middle next passed
  obtain ⟨back, follows, finish⟩ := within _ _ _ _ goesOn
  refine ⟨front ++ back, by rw [stands, follows]; simp,
    fun tail alike enough fits place there => ?_⟩
  have again : place.rest = byte :: front ++ (back ++ tail) := by rw [there]; simp
  have fewer : cost mode back.length ≤ enough := by
    refine Nat.le_trans ?_ fits
    cases mode <;> simp only [cost, List.length_append] <;> omega
  have ended := finish tail alike enough fewer _ (Cursor.rest_advanceBy_of_rest again)
  rw [id, ← Cursor.advanceBy_append] at ended
  exact bind_eq_ok_iff.2 ⟨_, takes _ (follows ▸ alike.append back) place again, ended⟩

end Passing

section Steps

variable {allowance : Nat} {cursor after : Cursor} {byte : UInt8} {stack : List Frame}
  {frame : Frame} {afterValue : Bool} (within : PassesWithin allowance)
  (next : cursor.skipBlanks.peek? = some byte)
include within next

/-- Where a value is expected it is passed over, or an array or object is opened. -/
theorem passesFrom_value (done : through (allowance + 1) .value stack cursor = .ok after) :
    PassesFrom byte .value stack cursor after := by
  rw [through_value next] at done
  rcases scalar_cases byte with opens | ⟨pass, passes, streams⟩
  · simp only [opens] at done
    obtain ⟨more, stands, takes⟩ := passes_advance within next done
    refine ⟨more, stands, fun tail alike enough fits place there => ?_⟩
    rw [through_value (Cursor.peek?_of_rest there)]
    simp only [opens]
    exact takes tail alike enough (by simp only [cost] at fits ⊢; omega) _ there
  · simp only [passes] at done
    obtain ⟨more, stands, takes⟩ := passes_from within next streams done
    refine ⟨more, stands, fun tail alike enough fits place there => ?_⟩
    rw [through_value (Cursor.peek?_of_rest there)]
    simp only [passes]
    exact takes tail alike enough (by simp only [cost] at fits ⊢; omega) _ there

/-- Where an entry or item begins, its name is passed over if it has one, and its value. -/
theorem passes_entry
    (done : entryName frame cursor.skipBlanks >>= through allowance .value (frame :: stack) =
      .ok after) :
    ∃ more, cursor.skipBlanks.rest = byte :: more ++ after.rest ∧
      ∀ tail, Alike after.rest tail → ∀ enough, cost .value (more.length + 1) ≤ enough →
        ∀ place : Cursor, place.skipBlanks.rest = byte :: more ++ tail →
          entryName frame place.skipBlanks >>= through enough .value (frame :: stack) =
            .ok (place.skipBlanks.advanceBy (more.length + 1)) := by
  obtain ⟨middle, named, goesOn⟩ := bind_eq_ok_iff.1 done
  obtain ⟨front, stands, takes⟩ := stops_entryName frame _ () middle named
  obtain ⟨back, follows, finish⟩ := within _ _ _ _ goesOn
  -- Without a byte there would be no value at the end of the document.
  obtain ⟨first, more, taken⟩ : ∃ first more, front ++ back = first :: more := by
    refine List.exists_cons_of_ne_nil fun empty => ?_
    obtain ⟨rfl, rfl⟩ := List.append_eq_nil_iff.1 empty
    have ended := finish [] (.inr separate_nil) 1 (by simp [cost]) ⟨[], 1, 0⟩ rfl
    rcases exists_token_of_through ended with ⟨_, found⟩ | ⟨⟨_, other⟩, _⟩
    · cases found.symm.trans (Cursor.peek?_skipBlanks_of_blank (by simp [AllBlank]))
    · cases other
  have whole : cursor.skipBlanks.rest = first :: more ++ after.rest := by
    rw [stands, follows, ← taken, List.append_assoc]
  obtain rfl : first = byte := (List.cons.inj (whole.symm.trans (Cursor.rest_of_peek? next))).1
  refine ⟨more, whole, fun tail alike enough fits place there => ?_⟩
  have again : place.skipBlanks.rest = front ++ (back ++ tail) := by
    rw [there, ← taken, List.append_assoc]
  have fewer : cost .value back.length ≤ enough := by
    have lengths := congrArg List.length taken
    simp only [cost, List.length_append, List.length_cons] at lengths fits ⊢
    omega
  have ended := finish tail alike enough fewer _ (Cursor.rest_advanceBy_of_rest again)
  rw [id, ← Cursor.advanceBy_append, taken] at ended
  exact bind_eq_ok_iff.2 ⟨_, takes _ (follows ▸ alike.append back) _ again, ended⟩

/-- Where something is open it goes on or ends. -/
theorem passesFrom_next
    (done : through (allowance + 1) (.next afterValue) (frame :: stack) cursor = .ok after) :
    PassesFrom byte (.next afterValue) (frame :: stack) cursor after := by
  rw [through_next next] at done
  split at done
  · rename_i comma
    obtain ⟨more, stands, takes⟩ :=
      passes_from within next ((stops_entryName frame).advance byte) done
    refine ⟨more, stands, fun tail alike enough fits place there => ?_⟩
    rw [through_next (Cursor.peek?_of_rest there), if_pos comma]
    exact takes tail alike enough (by simp only [cost] at fits ⊢; omega) _ there
  rename_i noComma
  split at done
  · rename_i closes
    obtain ⟨more, stands, takes⟩ := passes_advance within next done
    refine ⟨more, stands, fun tail alike enough fits place there => ?_⟩
    rw [through_next (Cursor.peek?_of_rest there), if_neg noComma, if_pos closes]
    exact takes tail alike enough (by simp only [cost] at fits ⊢; omega) _ there
  rename_i stays
  split at done
  · cases done
  · rename_i first
    obtain ⟨more, stands, takes⟩ := passes_entry within next done
    refine ⟨more, stands, fun tail alike enough fits place there => ?_⟩
    rw [through_next (Cursor.peek?_of_rest there), if_neg noComma, if_neg stays, if_neg first]
    exact takes tail alike enough (by simp only [cost] at fits ⊢; omega) _ there

end Steps

/-- Where nothing is open nothing more is passed over. -/
theorem through_end {allowance : Nat} {afterValue : Bool} {cursor : Cursor} :
    through (allowance + 1) (.next afterValue) [] cursor = .ok cursor := by
  unfold through
  rfl

theorem passes_end {afterValue : Bool} {cursor : Cursor} :
    Passes (.next afterValue) [] cursor cursor := by
  refine ⟨[], rfl, fun tail _ enough fits place _ => ?_⟩
  obtain ⟨more, rfl⟩ : ∃ more, enough = more + 1 := Nat.exists_eq_add_one.2 fits
  exact through_end

/-- Blanks before the first byte that is none are passed over with it. -/
theorem PassesFrom.passes {mode : Mode} {stack : List Frame} {cursor after : Cursor} {byte : UInt8}
    (passes : PassesFrom byte mode stack cursor after)
    (next : cursor.skipBlanks.peek? = some byte) : Passes mode stack cursor after := by
  obtain ⟨blanks, blank, solid, stands, _⟩ := Cursor.exists_token next
  obtain ⟨more, there, takes⟩ := passes
  rw [← Cursor.rest_of_peek? next, there] at stands
  refine ⟨blanks ++ byte :: more, by rw [stands, List.append_assoc],
    fun tail alike enough fits place same => ?_⟩
  rw [List.append_assoc, List.cons_append] at same
  obtain ⟨skipped, ahead⟩ := Cursor.skipBlanks_of_token blank solid same
  have fewer : cost mode (more.length + 1) ≤ enough := by
    refine Nat.le_trans ?_ fits
    cases mode <;> simp only [cost, List.length_append, List.length_cons] <;> omega
  obtain ⟨others, rfl⟩ : ∃ others, enough = others + 1 :=
    Nat.exists_eq_add_one.2 (Nat.lt_of_lt_of_le (by cases mode <;> simp [cost]) fewer)
  rw [id, Cursor.advanceBy_append, ← skipped]
  exact takes tail alike others fewer place ahead

/-- On the way through open arrays and objects bytes are passed over in the same way wherever they
stand. -/
theorem passesWithin (allowance : Nat) : PassesWithin allowance := by
  induction allowance with
  | zero =>
      intro mode stack cursor after done
      cases done
  | succ allowance ih =>
      intro mode stack cursor after done
      rcases exists_token_of_through done with ⟨byte, next⟩ | ⟨⟨_, rfl⟩, rfl, rfl⟩
      · match mode, stack with
        | .value, _ => exact (passesFrom_value ih next done).passes next
        | .next _, _ :: _ => exact (passesFrom_next ih next done).passes next
        | .next _, [] =>
            obtain rfl := Except.ok.inj (through_end.symm.trans done)
            exact passes_end
      · exact passes_end

/-- A value is passed over in the same way wherever it stands. -/
theorem stops_value : Stops value := by
  intro cursor _ after done
  obtain ⟨taken, stands, takes⟩ := passesWithin _ _ _ _ _ done
  refine ⟨taken, stands, fun tail alike place there => takes tail alike _ ?_ place there⟩
  simp only [cost, there, List.length_append]
  omega

end ResilientHttp.Json.Skip
