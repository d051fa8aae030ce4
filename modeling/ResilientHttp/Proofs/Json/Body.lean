import ResilientHttp.Json.Body
import ResilientHttp.Json.Registry
import ResilientHttp.Proofs.Json.Shapes

/-!
# How much of a body is read

A body is read as a value of some shape. One would expect the whole of it to be read: a document of
that shape, and at most blanks behind it (`Json.Shape.IsWhole`). But reading ends behind the first
value, and nothing looks at what follows.

**What follows is ignored.** If a body is read as a value, then it begins with a document of this
value, and anything may follow (`Response.reads_first_value`). The document can be cut off and put
before other bytes, and it is read in the same way, as every shape streams. Only if the other bytes
go on as a numeral does, the document may be read as a part of a longer numeral.

Hence a body that is read is whole if and only if nothing but blanks follows the document, and a
document before anything else is read although the whole is no document
(`Response.not_whole_trailing`). The other way round nothing is lost: a whole body is read, so what
is rejected is not whole (`Response.json_of_isWhole`).
-/

set_option autoImplicit false

namespace ResilientHttp

namespace Json.Shape

open Cursor (AllBlank)

variable {shape : Shape} {document bytes rest : Bytes} {value : Value} {cursor after : Cursor}

/-- The bytes are a document of the value, read to its end. -/
def Decodes (shape : Shape) (document : Bytes) (value : Value) : Prop :=
  ∃ after, shape maxDepth { rest := document } = .ok (value, after) ∧ after.rest = []

/-- The bytes are a document of the value, and nothing but blanks follows it. -/
def IsWhole (shape : Shape) (bytes : Bytes) (value : Value) : Prop :=
  ∃ document blanks, bytes = document ++ blanks ∧ Decodes shape document value ∧ AllBlank blanks

section Target

variable (target : IsTarget shape)
include target

/-- A document is read wherever it stands. -/
theorem reads_of_decodes (decodes : Decodes shape document value) (separate : Separate rest)
    (stands : cursor.rest = document ++ rest) :
    shape maxDepth cursor = .ok (value, cursor.advanceBy document.length) := by
  obtain ⟨after, done, ended⟩ := decodes
  obtain ⟨taken, there, takes⟩ := (target.solid maxDepth).streams _ value after done
  rw [ended, List.append_nil] at there
  obtain rfl : document = taken := there
  exact takes rest (.inr separate) cursor stands

/-- What is read is a document, wherever it stood. -/
theorem decodes_of_reads (done : shape maxDepth cursor = .ok (value, after)) :
    ∃ document, cursor.rest = document ++ after.rest ∧ Decodes shape document value := by
  obtain ⟨taken, stands, takes⟩ := (target.solid maxDepth).streams cursor value after done
  have alone : Cursor.rest { rest := taken } = taken ++ [] := (List.append_nil taken).symm
  exact ⟨taken, stands, _, takes [] (.inr separate_nil) { rest := taken } alone,
    Cursor.rest_advanceBy_of_rest alone⟩

/-- Bytes that are read are whole if nothing but blanks is left. -/
theorem isWhole_iff (done : shape maxDepth { rest := bytes } = .ok (value, after)) :
    IsWhole shape bytes value ↔ AllBlank after.rest := by
  constructor
  · rintro ⟨document, blanks, whole, decodes, blank⟩
    -- Before blanks the document is read as it is, so the blanks are what is left.
    have again : shape maxDepth { rest := bytes } = _ :=
      reads_of_decodes target decodes (separate_of_blank blank) whole
    obtain ⟨_, rfl⟩ := Prod.mk.inj (Except.ok.inj (done.symm.trans again))
    rwa [Cursor.rest_advanceBy_of_rest whole]
  · intro blank
    obtain ⟨document, whole, decodes⟩ := decodes_of_reads target done
    exact ⟨document, after.rest, whole, decodes, blank⟩

end Target

end Json.Shape

/-! ## The documents of a registry -/

namespace Json.Registry

open Shape

theorem isTarget_package : IsTarget package :=
  .record _ (by simp [IsTarget.text])

theorem isTarget_release : IsTarget release :=
  .record _ (by simp [IsTarget.text, IsTarget.flag])

theorem isTarget_index : IsTarget index :=
  .record _ (by simp [IsTarget.list IsTarget.natural32])

theorem isTarget_catalog : IsTarget catalog :=
  .record _ (by
    simp [IsTarget.dictionary (.list isTarget_package), IsTarget.optional IsTarget.integer64])

end Json.Registry

/-! ## Bodies -/

namespace Response

open Json Json.Shape
open Cursor (AllBlank)
open Results (map_eq_ok_iff mapError_eq_ok_iff mapError_ok mapError_error)

/-- A body is read as the first value in it. -/
theorem json_eq_ok_iff {response : Response} {shape : Shape} {value : Value} :
    response.json shape = .ok value ↔
      ∃ after, shape maxDepth { rest := response.body.getD [] } = .ok (value, after) := by
  simp [Response.json, decode, mapError_eq_ok_iff, map_eq_ok_iff]

/-- A whole body is read. -/
theorem json_of_isWhole {shape : Shape} (target : IsTarget shape) {response : Response}
    {value : Value} (whole : IsWhole shape (response.body.getD []) value) :
    response.json shape = .ok value := by
  obtain ⟨document, blanks, stands, decodes, blank⟩ := whole
  exact json_eq_ok_iff.2
    ⟨_, reads_of_decodes target decodes (separate_of_blank blank) stands⟩

/-- A body that is not read is undecodable. -/
theorem undecodable_of_json {shape : Shape} {response : Response} {failure : Failure}
    (rejected : response.json shape = .error failure) :
    ∃ path detail, failure = .undecodable path detail := by
  unfold Response.json at rejected
  cases decoded : decode shape (response.body.getD []) with
  | ok value => simp [decoded, mapError_ok] at rejected
  | error fault =>
      rw [decoded, mapError_error, Except.error.injEq] at rejected
      exact ⟨_, _, rejected.symm⟩

/-- **What follows the first value of a body is ignored.** A body that is read as a value begins with
a document of the value, and it is whole only if nothing but blanks follows the document. Conversely
a body that begins with a document is read as its value, if what follows does not go on as a numeral
does, whether the body is whole or not. A body that is not read is undecodable, and it is not whole
for any value. -/
theorem reads_first_value {shape : Shape} (target : IsTarget shape) (response : Response) :
    (∀ value, response.json shape = .ok value →
      ∃ document rest, response.body.getD [] = document ++ rest ∧ Decodes shape document value ∧
        (IsWhole shape (response.body.getD []) value ↔ AllBlank rest)) ∧
    (∀ document rest value, response.body.getD [] = document ++ rest →
      Decodes shape document value → Separate rest →
        response.json shape = .ok value ∧
          (IsWhole shape (response.body.getD []) value ↔ AllBlank rest)) ∧
    ∀ failure, response.json shape = .error failure →
      (∃ path detail, failure = .undecodable path detail) ∧
        ∀ value, ¬ IsWhole shape (response.body.getD []) value := by
  refine ⟨fun value read => ?_, fun document rest value stands decodes separate => ?_,
    fun failure rejected => ⟨undecodable_of_json rejected, fun value whole => ?_⟩⟩
  · obtain ⟨after, done⟩ := json_eq_ok_iff.1 read
    obtain ⟨document, stands, decodes⟩ := decodes_of_reads target done
    exact ⟨document, after.rest, stands, decodes, isWhole_iff target done⟩
  · have done : shape maxDepth { rest := response.body.getD [] } = _ :=
      reads_of_decodes target decodes separate stands
    refine ⟨json_eq_ok_iff.2 ⟨_, done⟩, ?_⟩
    rw [isWhole_iff target done, Cursor.rest_advanceBy_of_rest stands]
  · cases (json_of_isWhole target whole).symm.trans rejected

/-- A document of a package: `{"name":"n","version":"1"}`. -/
def packageDocument : Bytes :=
  [0x7b, 0x22, 0x6e, 0x61, 0x6d, 0x65, 0x22, 0x3a, 0x22, 0x6e, 0x22, 0x2c, 0x22, 0x76, 0x65, 0x72,
    0x73, 0x69, 0x6f, 0x6e, 0x22, 0x3a, 0x22, 0x31, 0x22, 0x7d]

/-- The package in it. -/
def packageValue : Value := .object [("name", .text "n"), ("version", .text "1")]

theorem decodes_packageDocument : Decodes Registry.package packageDocument packageValue :=
  ⟨⟨[], 1, 26⟩, rfl, rfl⟩

theorem separate_packageDocument : Separate packageDocument := by
  rintro byte ⟨⟩
  decide

/-- Two packages, one after the other, as of a transfer that was mixed up: the first one is read. -/
theorem reads_first_value_twoPackages :
    IsTarget Registry.package ∧ Decodes Registry.package packageDocument packageValue ∧
      Separate packageDocument ∧
        Response.json { body := some (packageDocument ++ packageDocument) } Registry.package =
          .ok packageValue ∧
        ¬ IsWhole Registry.package (packageDocument ++ packageDocument) packageValue := by
  obtain ⟨read, whole⟩ := (reads_first_value Registry.isTarget_package
    { body := some (packageDocument ++ packageDocument) }).2.1 packageDocument packageDocument
      packageValue rfl decodes_packageDocument separate_packageDocument
  refine ⟨Registry.isTarget_package, decodes_packageDocument, separate_packageDocument, read, ?_⟩
  exact fun claimed => absurd (whole.1 claimed 0x7b (by decide)) (by decide)

/-- **A body that is read need not be a document.** Behind the package stands a blank and the word
`trailing`. -/
theorem not_whole_trailing :
    Response.json { body := some (packageDocument ++
        [0x20, 0x74, 0x72, 0x61, 0x69, 0x6c, 0x69, 0x6e, 0x67]) } Registry.package =
        .ok packageValue ∧
      ¬ IsWhole Registry.package (packageDocument ++
        [0x20, 0x74, 0x72, 0x61, 0x69, 0x6c, 0x69, 0x6e, 0x67]) packageValue := by
  have done : Registry.package maxDepth { rest := packageDocument ++
      [0x20, 0x74, 0x72, 0x61, 0x69, 0x6c, 0x69, 0x6e, 0x67] } = .ok (packageValue,
        ⟨[0x20, 0x74, 0x72, 0x61, 0x69, 0x6c, 0x69, 0x6e, 0x67], 1, 26⟩) := rfl
  refine ⟨json_eq_ok_iff.2 ⟨_, done⟩, fun whole => ?_⟩
  have blank := (isWhole_iff Registry.isTarget_package done).1 whole
  exact absurd (blank 0x74 (by decide)) (by decide)

end Response

end ResilientHttp
