import ResilientHttp.Proofs.Lists
import ResilientHttp.Wire.Network
import Mathlib.Data.List.Infix

/-!
# How a body streams in

While a message is read, its handler hears of the bytes so far: before the first frame, and then
after each piece of the body. The list of all reports depends on the sizes of the pieces and on
nothing else of the frames (`Wire.Arrival.reports`). A handler hears this list one by one until it
fails (`Handler.hear`), and reading a message is nothing but that, with the body put together at the
end (`Wire.Arrival.receive_eq`).

So there are two cases. A handler that passes all reports hears all of them and gets the whole body,
or the error with which the body breaks off (`Request.dispatch_of_passes`). A handler that fails hears
no further report, and its failure is the outcome whatever the frames after it are
(`Request.dispatch_of_refusal`). In both cases the notices that it was given are the first of the
reports, and a response comes only after all of them (`Request.dispatch_streamed`).
-/

set_option autoImplicit false

namespace ResilientHttp

/-! ## A handler that hears reports -/

namespace Handler

variable {handler : Handler} {seen notices : List Notice}

/-- The handler hears notices one by one until it fails. The result has all that it has heard then,
and the failure, if there was one. -/
def hear (handler : Handler) (seen : List Notice) : List Notice → List Notice × Option Failure
  | [] => (seen, none)
  | notice :: rest =>
      match handler.respond seen notice with
      | .ok () => handler.hear (seen ++ [notice]) rest
      | .error failure => (seen ++ [notice], some failure)

/-- The handler lets each of the notices pass, when it hears them in this order. -/
def Passes (handler : Handler) (notices : List Notice) : Prop :=
  ∀ before notice after, notices = before ++ notice :: after →
    handler.respond before notice = .ok ()

theorem Passes.of_append {earlier later : List Notice} (passes : handler.Passes (earlier ++ later)) :
    handler.Passes earlier :=
  fun before notice after split => passes before notice (after ++ later) (by simp [split])

/-- One more notice is let pass. -/
theorem passes_concat_iff {notice : Notice} :
    handler.Passes (notices ++ [notice]) ↔
      handler.Passes notices ∧ handler.respond notices notice = .ok () := by
  constructor
  · intro passes
    exact ⟨passes.of_append, passes notices notice [] rfl⟩
  · rintro ⟨passes, newest⟩ before other after split
    obtain ⟨rfl, rfl, rfl⟩ | ⟨rest, rfl, old⟩ := Splits.concat_eq_iff.1 split
    · exact newest
    · exact passes before other rest old

/-- A handler lets all notices pass, or there is a first one at which it fails. -/
theorem passes_or_fails (handler : Handler) (notices : List Notice) :
    handler.Passes notices ∨ ∃ before notice after failure, notices = before ++ notice :: after ∧
      handler.Passes before ∧ handler.respond before notice = .error failure := by
  induction notices using List.reverseRecOn with
  | nil => exact .inl fun before notice after split => by simp at split
  | append_singleton front last ih =>
      rcases ih with passes | ⟨before, notice, after, failure, rfl, passes, fails⟩
      · cases answer : handler.respond front last with
        | ok _ => exact .inl (passes_concat_iff.2 ⟨passes, answer⟩)
        | error failure => exact .inr ⟨front, last, [], failure, rfl, passes, answer⟩
      · exact .inr ⟨before, notice, after ++ [last], failure, by simp, passes, fails⟩

theorem hear_append (handler : Handler) (seen earlier later : List Notice) :
    handler.hear seen (earlier ++ later) =
      match handler.hear seen earlier with
      | (heard, none) => handler.hear heard later
      | (heard, some failure) => (heard, some failure) := by
  induction earlier generalizing seen with
  | nil => rfl
  | cons notice rest ih =>
      rw [List.cons_append, hear, hear]
      cases handler.respond seen notice with
      | ok _ => exact ih _
      | error failure => rfl

/-- A handler that lets all notices pass hears all of them. -/
theorem hear_of_passes (passes : handler.Passes notices) :
    handler.hear [] notices = (notices, none) := by
  induction notices using List.reverseRecOn with
  | nil => rfl
  | append_singleton front last ih =>
      obtain ⟨earlier, newest⟩ := passes_concat_iff.1 passes
      rw [hear_append, ih earlier]
      simp [hear, newest]

/-- A handler that fails hears nothing more. -/
theorem hear_of_fails {before after : List Notice} {notice : Notice} {failure : Failure}
    (passes : handler.Passes before) (fails : handler.respond before notice = .error failure) :
    handler.hear [] (before ++ notice :: after) = (before ++ [notice], some failure) := by
  rw [hear_append, hear_of_passes passes]
  simp [hear, fails]

end Handler

/-! ## Reports -/

namespace Wire

/-- The bytes of a frame, if it is a piece of the body. -/
def Frame.bytes? : Frame → Option Bytes
  | data bytes => some bytes
  | trailers => none

/-- The pieces of the body among some frames. -/
def pieces (frames : List Frame) : List Bytes := frames.filterMap Frame.bytes?

theorem pieces_append (read unread : List Frame) :
    pieces (read ++ unread) = pieces read ++ pieces unread := List.filterMap_append

@[simp] theorem pieces_concat_trailers (frames : List Frame) :
    pieces (frames ++ [.trailers]) = pieces frames :=
  (pieces_append frames [.trailers]).trans (List.append_nil _)

@[simp] theorem pieces_concat_data (frames : List Frame) (bytes : Bytes) :
    pieces (frames ++ [.data bytes]) = pieces frames ++ [bytes] :=
  pieces_append frames [.data bytes]

@[simp] theorem pieces_cons_data (bytes : Bytes) (frames : List Frame) :
    pieces (.data bytes :: frames) = bytes :: pieces frames := rfl

namespace Arrival

/-- All reports on some frames: the number of bytes after no piece, after the first piece, and so on,
always with the same expected length. -/
def reports (expected : Option Nat) (frames : List Frame) : List Notice :=
  (pieces frames).inits.map fun part => ⟨part.flatten.length, expected⟩

/-- What is reported while frames are read, if so many bytes came before. -/
theorem cons_notices (expected : Option Nat) (received : Nat) (frames : List Frame) :
    ⟨received, expected⟩ :: notices expected received frames =
      (pieces frames).inits.map fun part => ⟨received + part.flatten.length, expected⟩ := by
  induction frames generalizing received with
  | nil => rfl
  | cons frame rest ih =>
      cases frame with
      | trailers => exact ih received
      | data bytes =>
          rw [notices, ih, pieces_cons_data, List.inits_cons, List.map_cons, List.map_map]
          simp [Function.comp_def, Nat.add_assoc]

theorem reports_eq_cons (expected : Option Nat) (frames : List Frame) :
    reports expected frames = ⟨0, expected⟩ :: notices expected 0 frames := by
  rw [cons_notices]
  simp [reports]

/-- Trailers are not reported. -/
theorem reports_concat_trailers (expected : Option Nat) (frames : List Frame) :
    reports expected (frames ++ [.trailers]) = reports expected frames := by
  rw [reports, pieces_concat_trailers]
  rfl

/-- One more piece is one more report. -/
theorem reports_concat_data (expected : Option Nat) (frames : List Frame) (bytes : Bytes) :
    reports expected (frames ++ [.data bytes]) =
      reports expected frames ++ [⟨((pieces frames).flatten ++ bytes).length, expected⟩] := by
  simp [reports, List.inits_append]

theorem expected_of_mem_reports {expected : Option Nat} {frames : List Frame} {notice : Notice}
    (member : notice ∈ reports expected frames) : notice.expected = expected := by
  obtain ⟨part, _, rfl⟩ := List.mem_map.1 member
  rfl

/-- No report is of more bytes than there are. -/
theorem received_le_of_mem_reports {expected : Option Nat} {frames : List Frame} {notice : Notice}
    (member : notice ∈ reports expected frames) :
    notice.received ≤ (pieces frames).flatten.length := by
  obtain ⟨part, shorter, rfl⟩ := List.mem_map.1 member
  obtain ⟨rest, whole⟩ := (List.mem_inits _ _).1 shorter
  rw [← whole, List.flatten_append, List.length_append]
  exact Nat.le_add_right _ _

/-- The last report is of the whole body. -/
theorem getLast?_reports (expected : Option Nat) (frames : List Frame) :
    (reports expected frames).getLast? = some ⟨(pieces frames).flatten.length, expected⟩ := by
  induction frames using List.reverseRecOn with
  | nil => rfl
  | append_singleton front last ih =>
      cases last with
      | trailers =>
          rw [reports_concat_trailers, ih, pieces_concat_trailers]
      | data bytes =>
          rw [reports_concat_data, List.getLast?_concat]
          simp

/-- The number of bytes never decreases. -/
theorem pairwise_reports (expected : Option Nat) (frames : List Frame) :
    ((reports expected frames).map Notice.received).Pairwise (· ≤ ·) := by
  induction frames using List.reverseRecOn with
  | nil => simp [reports, pieces]
  | append_singleton front last ih =>
      cases last with
      | trailers => rwa [reports_concat_trailers]
      | data bytes =>
          rw [reports_concat_data, List.map_append, List.pairwise_append]
          refine ⟨ih, List.pairwise_singleton _ _, fun earlier member latest new => ?_⟩
          obtain ⟨notice, present, rfl⟩ := List.mem_map.1 member
          obtain rfl := List.mem_singleton.1 new
          have fewer := received_le_of_mem_reports present
          simp only [List.length_append]
          omega

/-- A report is made when a piece was read, and before any frame after it, even a trailer. -/
theorem exists_read {expected : Option Nat} {frames : List Frame} {before after : List Notice}
    {notice : Notice} (split : reports expected frames = before ++ notice :: after) :
    ∃ read unread, frames = read ++ unread ∧ read.getLast? ≠ some .trailers ∧
      reports expected read = before ++ [notice] := by
  induction frames using List.reverseRecOn generalizing after with
  | nil =>
      obtain ⟨rfl, rfl, rfl⟩ | ⟨rest, _, old⟩ :=
        Splits.concat_eq_iff.1 (show [] ++ [⟨0, expected⟩] = before ++ notice :: after from split)
      · exact ⟨[], [], rfl, by simp, rfl⟩
      · simp at old
  | append_singleton front last ih =>
      cases last with
      | trailers =>
          rw [reports_concat_trailers] at split
          obtain ⟨read, unread, rfl, piece, heard⟩ := ih split
          exact ⟨read, unread ++ [.trailers], by simp, piece, heard⟩
      | data bytes =>
          rw [reports_concat_data] at split
          obtain ⟨rfl, rfl, rfl⟩ | ⟨rest, rfl, old⟩ := Splits.concat_eq_iff.1 split
          · exact ⟨front ++ [.data bytes], [], by simp, by simp,
              reports_concat_data expected front bytes⟩
          · obtain ⟨read, unread, rfl, piece, heard⟩ := ih old
            exact ⟨read, unread ++ [.data bytes], by simp, piece, heard⟩

/-- Further frames are reported after those before them. -/
theorem reports_append (expected : Option Nat) (read unread : List Frame) :
    ∃ later, reports expected (read ++ unread) = reports expected read ++ later := by
  rw [reports, pieces_append, List.inits_append, List.map_append]
  exact ⟨_, rfl⟩

/-- The whole body is made of its pieces. -/
theorem body_eq_flatten (arrival : Arrival) : arrival.body = (pieces arrival.frames).flatten := by
  unfold body
  induction arrival.frames with
  | nil => rfl
  | cons frame rest ih =>
      cases frame with
      | trailers => exact ih
      | data bytes =>
          rw [List.flatMap_cons, ih, pieces_cons_data, List.flatten_cons]

/-- The rest of a message is read as its handler hears of it. -/
theorem receiveFrames_eq (arrival : Arrival) (handler : Handler) (expected : Option Nat)
    (frames : List Frame) (body : Bytes) (seen : List Notice) :
    receiveFrames (Handler.report (some handler)) arrival expected frames body seen =
      match handler.hear seen (notices expected body.length frames) with
      | (heard, none) => (arrival.finish (body ++ (pieces frames).flatten), heard)
      | (heard, some failure) => (.error failure, heard) := by
  induction frames generalizing body seen with
  | nil => simp [receiveFrames, notices, Handler.hear, pieces]
  | cons frame rest ih =>
      cases frame with
      | trailers => exact ih body seen
      | data bytes =>
          rw [receiveFrames, notices, ResilientHttp.Handler.hear, Handler.report, List.length_append]
          cases answer : handler.respond seen ⟨body.length + bytes.length, expected⟩ with
          | error failure => rfl
          | ok _ => simp [ih]

/-- **A message is read as its handler hears of it.** -/
theorem receive_eq (arrival : Arrival) (method : Method) (handler : Handler) :
    arrival.receive method (Handler.report (some handler)) [] =
      match handler.hear [] (reports (arrival.expected method) arrival.frames) with
      | (heard, none) => (arrival.finish arrival.body, heard)
      | (heard, some failure) => (.error failure, heard) := by
  rw [receive, reports_eq_cons, ResilientHttp.Handler.hear, Handler.report, body_eq_flatten]
  cases handler.respond [] ⟨0, arrival.expected method⟩ with
  | error failure => rfl
  | ok _ => exact receiveFrames_eq arrival handler _ arrival.frames [] _

/-- Without a handler the whole message is read. -/
theorem receive_none (arrival : Arrival) (method : Method) :
    arrival.receive method (Handler.report none) [] = (arrival.finish arrival.body, []) := by
  have rest : ∀ (frames : List Frame) (body : Bytes),
      receiveFrames (Handler.report none) arrival (arrival.expected method) frames body [] =
        (arrival.finish (body ++ (pieces frames).flatten), []) := by
    intro frames
    induction frames with
    | nil => intro body; simp [receiveFrames, pieces]
    | cons frame rest ih =>
        intro body
        cases frame with
        | trailers => exact ih body
        | data bytes =>
            simp [receiveFrames, Handler.report, ih]
  rw [body_eq_flatten]
  exact rest arrival.frames []

end Arrival

end Wire

/-! ## A request over a network -/

/-- A handler fails while a message is read: these frames were read then, the last one a piece of the
body, and the handler was given these notices and failed at the last one. -/
structure Handler.Refusal (handler : Handler) (expected : Option Nat) (frames read : List Wire.Frame)
    (given : List Notice) (failure : Failure) : Prop where
  begins : read <+: frames
  piece : read.getLast? ≠ some .trailers
  reported : Wire.Arrival.reports expected read = given
  fails : ∃ before notice, given = before ++ [notice] ∧ handler.Passes before ∧
    handler.respond before notice = .error failure

/-- What the notices that a handler was given have to do with the message and with the outcome. -/
structure Wire.Arrival.Streamed (arrival : Wire.Arrival) (expected : Option Nat) (outcome : Outcome)
    (given : List Notice) : Prop where
  first : given.head? = some ⟨0, expected⟩
  counted : given <+: Wire.Arrival.reports expected arrival.frames
  announced : ∀ notice ∈ given, notice.expected = expected
  increasing : (given.map Notice.received).Pairwise (· ≤ ·)
  /-- With a response the handler has heard everything, and the response has the whole body. -/
  whole : ∀ response, outcome = .ok response →
    given = Wire.Arrival.reports expected arrival.frames ∧
      given.getLast? = some ⟨response.bodyLength, expected⟩ ∧
      response.body = if arrival.body.isEmpty then none else some arrival.body

namespace Wire.Arrival

theorem bodyLength_response (arrival : Arrival) (body : Bytes) :
    (arrival.response body).bodyLength = body.length := by
  cases body <;> rfl

/-- Only a body that does not break off makes a response. -/
theorem finish_eq_ok_iff {arrival : Arrival} {body : Bytes} {response : Response} :
    arrival.finish body = .ok response ↔
      arrival.breakOff = none ∧ response = arrival.response body := by
  unfold finish
  cases arrival.breakOff <;> simp [eq_comm]

/-- What holds of some of the reports, if they are all of them when there is a response. -/
theorem Streamed.of_counted {arrival : Arrival} {expected : Option Nat} {outcome : Outcome}
    {given : List Notice} (counted : given <+: reports expected arrival.frames) (told : given ≠ [])
    (whole : ∀ response, outcome = .ok response → response = arrival.response arrival.body ∧
      given = reports expected arrival.frames) : arrival.Streamed expected outcome given where
  first := by
    obtain ⟨rest, all⟩ := counted
    rw [reports_eq_cons] at all
    cases given with
    | nil => exact absurd rfl told
    | cons notice others => rw [(List.cons.inj all).1, List.head?_cons]
  counted := counted
  announced := fun notice member => expected_of_mem_reports (counted.subset member)
  increasing :=
    (pairwise_reports expected arrival.frames).sublist (counted.sublist.map Notice.received)
  whole := fun response answered => by
    obtain ⟨rfl, rfl⟩ := whole response answered
    refine ⟨rfl, ?_, rfl⟩
    rw [getLast?_reports, bodyLength_response, body_eq_flatten]

end Wire.Arrival

namespace Request

open Wire.Arrival (reports)

variable {request : Request} {network : Wire.Network} {arrival : Wire.Arrival} {handler : Handler}

theorem dispatch_eq (fetched : network.fetch request = .ok arrival) (watcher : Option Handler) :
    request.dispatch network watcher =
      arrival.receive request.method (Wire.Handler.report watcher) [] := by
  rw [dispatch, Wire.Network.exchange, fetched]

/-- **A handler that lets all reports pass hears all of them**, and the whole message is read. -/
theorem dispatch_of_passes (fetched : network.fetch request = .ok arrival)
    (passes : handler.Passes (reports (arrival.expected request.method) arrival.frames)) :
    request.dispatch network (some handler) =
      (arrival.finish arrival.body, reports (arrival.expected request.method) arrival.frames) := by
  rw [dispatch_eq fetched, Wire.Arrival.receive_eq, Handler.hear_of_passes passes]

/-- **A handler that fails at a report hears no other, and its failure is the outcome**, whatever
frames would come and however the body would end. -/
theorem dispatch_of_refusal {frames read : List Wire.Frame} {given : List Notice} {failure : Failure}
    (refusal : handler.Refusal (arrival.expected request.method) frames read given failure)
    (later : List Wire.Frame) (breakOff : Option String)
    (fetched : network.fetch request = .ok { arrival with frames := read ++ later, breakOff }) :
    request.dispatch network (some handler) = (.error failure, given) := by
  obtain ⟨before, notice, ended, passes, fails⟩ := refusal.fails
  obtain ⟨unheard, all⟩ :=
    Wire.Arrival.reports_append (arrival.expected request.method) read later
  rw [refusal.reported, ended, List.append_assoc, List.singleton_append] at all
  have read_until : Wire.Arrival.reports
      (Wire.Arrival.expected { arrival with frames := read ++ later, breakOff } request.method)
      (read ++ later) = before ++ notice :: unheard := all
  rw [dispatch_eq fetched, Wire.Arrival.receive_eq, read_until, Handler.hear_of_fails passes fails,
    ended]

/-- One of both happens. -/
theorem dispatch_cases (fetched : network.fetch request = .ok arrival) (handler : Handler) :
    handler.Passes (reports (arrival.expected request.method) arrival.frames) ∧
        request.dispatch network (some handler) =
          (arrival.finish arrival.body,
            reports (arrival.expected request.method) arrival.frames) ∨
      ∃ read given failure,
        handler.Refusal (arrival.expected request.method) arrival.frames read given failure ∧
        request.dispatch network (some handler) = (.error failure, given) := by
  rcases handler.passes_or_fails (reports (arrival.expected request.method) arrival.frames) with
    passes | ⟨before, notice, after, failure, split, passes, fails⟩
  · exact .inl ⟨passes, dispatch_of_passes fetched passes⟩
  · obtain ⟨read, unread, frames, piece, heard⟩ := Wire.Arrival.exists_read split
    have refusal : handler.Refusal (arrival.expected request.method) arrival.frames read
        (before ++ [notice]) failure :=
      ⟨⟨unread, frames.symm⟩, piece, heard, before, notice, rfl, passes, fails⟩
    refine .inr ⟨read, before ++ [notice], failure, refusal, ?_⟩
    refine dispatch_of_refusal refusal unread arrival.breakOff ?_
    rw [fetched, ← frames]

/-- **The notices that a handler is given count the bytes of the body.** -/
theorem dispatch_streamed (fetched : network.fetch request = .ok arrival) (handler : Handler) :
    arrival.Streamed (arrival.expected request.method)
      (request.dispatch network (some handler)).1 (request.dispatch network (some handler)).2 := by
  rcases dispatch_cases fetched handler with
    ⟨_, dispatched⟩ | ⟨read, given, failure, refusal, dispatched⟩
  · rw [dispatched]
    refine .of_counted (List.prefix_refl _) (by simp [Wire.Arrival.reports_eq_cons]) ?_
    intro response answered
    exact ⟨(Wire.Arrival.finish_eq_ok_iff.1 answered).2, rfl⟩
  · rw [dispatched]
    obtain ⟨unread, frames⟩ := refusal.begins
    obtain ⟨unheard, all⟩ :=
      Wire.Arrival.reports_append (arrival.expected request.method) read unread
    obtain ⟨before, notice, ended, _⟩ := refusal.fails
    refine .of_counted ⟨unheard, ?_⟩ (by simp [ended]) ?_
    · rw [← frames, all, refusal.reported]
    · intro response answered
      cases answered

end Request

end ResilientHttp
