import ResilientHttp.Proofs.Engine.Attempt
import ResilientHttp.Proofs.Wire.Streaming

/-!
# Downloads

A message that arrives is read frame by frame. What the handler hears and what the exchange ends with
is known for every list of frames (`Request.dispatch_of_passes`, `Request.dispatch_of_refusal`). Here
the handler is the one that an attempt gives to its transport, which answers as the attempt's guard
does (`SizeGuard.watcher`), and the outcome of the attempt is the verdict on what the handler heard.

The guard is told of the bytes so far, and these depend on how the body is cut into frames. But the
last report is of the whole body and no report is of more, so there is an excess exactly if the
announced length or the length of the whole body is too large (`SizeGuard.verdict_streamed`). Hence
whether a download succeeds does not depend on the frames (`World.downloads_streamed`).
-/

set_option autoImplicit false

namespace ResilientHttp

open Wire (pieces)
open Wire.Arrival (reports)

/-! ## The handler of a guard -/

namespace SizeGuard

variable {guard : SizeGuard}

/-- A handler that answers as the guard does after what it has heard. -/
def asHandler (guard : SizeGuard) : Handler :=
  ⟨fun seen notice => ((guard.after seen).check notice).1⟩

/-- The handler that the transport is given, if it is given one. -/
def watcher (guard : SizeGuard) : Option Handler :=
  if guard.isWatching then some guard.asHandler else none

/-- **A guard without a caller's handler hears all notices if none of them exceeds its cap**, and
otherwise those up to the first excess. -/
theorem hear_cases (fresh : guard.exceeded = none) (alone : guard.handler = none)
    (notices : List Notice) :
    (∀ notice ∈ notices, ¬ notice.Exceeds guard.cap) ∧
        guard.asHandler.hear [] notices = (notices, none) ∨
      ∃ heard unheard bytes failure, notices = heard ++ unheard ∧
        IsFirstExcess guard.cap heard bytes ∧
        guard.asHandler.hear [] notices = (heard, some failure) := by
  rcases guard.asHandler.passes_or_fails notices with
    passes | ⟨before, notice, after, failure, rfl, passes, fails⟩
  · refine .inl ⟨fun notice member exceeds => ?_, Handler.hear_of_passes passes⟩
    obtain ⟨before, after, split⟩ := List.append_of_mem member
    obtain ⟨bytes, _, answer⟩ := answer_of_exceeds fresh before exceeds
    cases (passes before notice after split).symm.trans answer
  · have exceeds : notice.Exceeds guard.cap := by
      by_contra within
      have answer := answer_of_within guard before within
      rw [alone] at answer
      cases answer.symm.trans fails
    obtain ⟨bytes, first, _⟩ := answer_of_exceeds fresh before exceeds
    exact .inr ⟨before ++ [notice], after, bytes, failure, by simp, first,
      Handler.hear_of_fails passes fails⟩

end SizeGuard

/-! ## The verdict on a download -/

/-- For the same notices and the same answer there is one verdict. -/
theorem Verdict.unique {cap : Option Nat} {notices : List Notice} {answer one two : Outcome}
    (first : Verdict cap notices answer one) (second : Verdict cap notices answer two) :
    one = two := by
  have fresh : (SizeGuard.mk cap none none []).exceeded = none := rfl
  exact ((SizeGuard.verdict_iff fresh notices).1 first).symm.trans
    ((SizeGuard.verdict_iff fresh notices).1 second)

namespace Wire.Arrival

/-- What a message yields under a cap: the response if the announced length, if there is one, and the
length of the body are at most the cap, and otherwise a failure with the first excess of the
reports. -/
def Yields (arrival : Arrival) (method : Method) (cap : Nat) (outcome : Outcome) : Prop :=
  if (∀ total, arrival.expected method = some total → total ≤ cap) ∧ arrival.body.length ≤ cap then
    outcome = .ok (arrival.response arrival.body)
  else ∃ bytes, IsFirstExcess (some cap) (reports (arrival.expected method) arrival.frames) bytes ∧
    outcome = .error (.tooLarge bytes)

/-- No report exceeds the cap exactly if neither the announced length nor the length of the whole
body does. -/
theorem within_reports_iff {expected : Option Nat} {frames : List Frame} {cap : Nat} :
    (∀ notice ∈ reports expected frames, ¬ notice.Exceeds (some cap)) ↔
      (∀ total, expected = some total → total ≤ cap) ∧ (pieces frames).flatten.length ≤ cap := by
  constructor
  · intro within
    have last := List.mem_of_getLast? (getLast?_reports expected frames)
    refine ⟨fun total announced => ?_, ?_⟩
    · exact Nat.le_of_not_lt fun larger =>
        within _ last ⟨cap, rfl, .inr ⟨total, announced, larger⟩⟩
    · exact Nat.le_of_not_lt fun larger => within _ last ⟨cap, rfl, .inl larger⟩
  · rintro ⟨announced, whole⟩ notice member ⟨bound, capped, exceeds⟩
    obtain rfl := Option.some.inj capped
    rcases exceeds with larger | ⟨total, told, larger⟩
    · exact absurd (Nat.le_trans (received_le_of_mem_reports member) whole) (Nat.not_le.2 larger)
    · rw [expected_of_mem_reports member] at told
      exact absurd (announced total told) (Nat.not_le.2 larger)

end Wire.Arrival

section Streamed

variable {request : Request} {network : Wire.Network} {arrival : Wire.Arrival} {guard : SizeGuard}
  {cap : Nat}

/-- **Whether a download succeeds depends on two lengths**, the announced one and that of the whole
body, and not on the frames. -/
theorem SizeGuard.verdict_streamed (fetched : network.fetch request = .ok arrival)
    (unbroken : arrival.breakOff = none) (fresh : guard.exceeded = none)
    (alone : guard.handler = none) (capped : guard.cap = some cap) {outcome : Outcome} :
    Verdict (some cap) (request.dispatch network guard.watcher).2
        (request.dispatch network guard.watcher).1 outcome ↔
      arrival.Yields request.method cap outcome := by
  have watched : guard.watcher = some guard.asHandler := by
    simp [watcher, isWatching, capped]
  have measured : (∀ notice ∈ reports (arrival.expected request.method) arrival.frames,
      ¬ notice.Exceeds (some cap)) ↔ _ := Wire.Arrival.within_reports_iff
  rw [← arrival.body_eq_flatten] at measured
  rw [watched, Request.dispatch_eq fetched, Wire.Arrival.receive_eq]
  rcases hear_cases fresh alone (reports (arrival.expected request.method) arrival.frames) with
    ⟨within, heard⟩ | ⟨heard, unheard, bytes, failure, split, first, stopped⟩
  · rw [capped] at within
    have fits := measured.1 within
    have good : Verdict (some cap) (reports (arrival.expected request.method) arrival.frames)
        (.ok (arrival.response arrival.body)) (.ok (arrival.response arrival.body)) := by
      refine .answered within fun bound same => ?_
      obtain rfl := Option.some.inj same
      exact (arrival.bodyLength_response _).trans_le fits.2
    rw [heard, Wire.Arrival.Yields, if_pos fits, Wire.Arrival.finish, unbroken]
    exact ⟨fun verdict => verdict.unique good, fun same => same ▸ good⟩
  · rw [capped] at first
    have whole : IsFirstExcess (some cap)
        (reports (arrival.expected request.method) arrival.frames) bytes :=
      split ▸ first.append unheard
    obtain ⟨notice, member, exceeds⟩ := whole.exists_exceeds
    rw [stopped, Wire.Arrival.Yields,
      if_neg fun fits => measured.2 fits notice member exceeds]
    constructor
    · intro verdict
      exact ⟨bytes, whole, verdict.unique (.exceeded first)⟩
    · rintro ⟨other, found, rfl⟩
      obtain rfl := found.unique whole
      exact .exceeded first

end Streamed

namespace World

variable {config : Config} {front mid : List Label} {id attempt : Nat} {request : Request}
  {begun : Flight}

/-! ## The attempt of a download -/

/-- For an attempt of the request the transport was called at a look, and the end of the attempt was
not told since. -/
structure Sends (config : Config) (front mid : List Label) (id attempt : Nat) (request : Request)
    (begun : Flight) : Prop where
  found : ((new config).run front).flight? id = some begun
  called : ∃ watched inFlight,
    ((new config).run front).Tells (.poll id) (.called id attempt request watched inFlight)
  unended : ∀ part label, part ++ [label] <+: mid → ∀ ending,
    ¬ ((new config).run (front ++ .poll id :: part)).Tells label (.ended id attempt ending)

theorem Sends.exists_underWay (sends : Sends config front mid id attempt request begun) :
    ∃ flight exchange, UnderWay config id attempt front mid begun flight exchange := by
  obtain ⟨watched, inFlight, called⟩ := sends.called
  obtain ⟨_, flight, found, way⟩ := begins_of_called called
  obtain rfl := Option.some.inj (found.symm.trans sends.found)
  exact World.exists_underWay way sends.unended

/-- A notice is answered as the handler answers it that the transport was given. -/
theorem UnderWay.answer_eq {flight : Flight} {exchange : Exchange}
    (way : UnderWay config id attempt front mid begun flight exchange) (notice : Notice) :
    World.answer flight notice =
      begun.newGuard.asHandler.respond (Label.noticesTo id mid) notice := by
  unfold answer
  rw [way.stage]
  exact congrArg (fun guard => (SizeGuard.check guard notice).1) way.guard

/-- **An attempt without a time limit and with a quiet token ends when the download does**, with a
response exactly if the announced length and the length of the body are within the cap. -/
theorem UnderWay.download_iff {network : Wire.Network} {arrival : Wire.Arrival} {flight : Flight}
    {exchange : Exchange} {cap : Nat} {label : Label}
    (way : UnderWay config id attempt front mid begun flight exchange)
    (fetched : network.fetch request = .ok arrival) (unbroken : arrival.breakOff = none)
    (alone : begun.watcher = none) (capped : begun.request.options.maxResponseSize = some cap)
    (unlimited : begun.request.options.timeout = none)
    (quiet : ((new config).run (front ++ .poll id :: mid)).isCancelled begun = false)
    (stays : label ≠ .drop id)
    (played : ∀ answer, label = .complete id answer →
      (answer, Label.noticesTo id mid) = request.dispatch network begun.newGuard.watcher)
    (ending : Option Outcome) :
    ((new config).run (front ++ .poll id :: mid)).Tells label (.ended id attempt ending) ↔
      ∃ answer outcome, label = .complete id answer ∧ ending = some outcome ∧
        Label.IsLookedAt id mid ∧ arrival.Yields request.method cap outcome := by
  have untouched : ((new config).run (front ++ .poll id :: mid)).isCancelled flight = false := by
    rw [← quiet, isCancelled, isCancelled, Flight.token?, Flight.token?, way.request]
  have fresh : begun.newGuard.exceeded = none := rfl
  rw [way.ends_iff]
  constructor
  · rintro (⟨struck⟩ | @⟨answer, outcome, attended, verdict⟩ | ⟨_, allowed, _, _⟩ | _)
    · cases untouched.symm.trans struck
    · have same := played answer rfl
      refine ⟨answer, outcome, rfl, rfl, attended, ?_⟩
      refine (SizeGuard.verdict_streamed fetched unbroken fresh alone capped).1 ?_
      rw [← same]
      rwa [way.request, capped] at verdict
    · rw [way.request, unlimited] at allowed
      cases allowed
    · exact absurd rfl stays
  · rintro ⟨answer, outcome, rfl, rfl, attended, result⟩
    have same := played answer rfl
    refine .answered attended ?_
    have verdict := (SizeGuard.verdict_streamed fetched unbroken fresh alone capped).2 result
    rw [← same] at verdict
    rw [way.request, capped]
    exact verdict

/-! ## Downloads of every shape -/

/-- **A download is told of from zero on, piece by piece, and its verdict does not depend on the
pieces.** Consider a request for which a message arrives, with any frames.

* Without a handler the whole message is read.
* A handler is told of zero bytes first, and then of the bytes so far after each piece, always with
  the same expected length (`Wire.Arrival.Streamed`). If it passes all of this, the outcome is the
  response, or the error with which the body breaks off. If it fails, its failure is the outcome, and
  neither the frames after that nor the end of the body matter (`Handler.Refusal`).
* Consider an attempt of the request with a cap, without a handler of the caller and without a time
  limit, whose token was not cancelled, and let its transport read the message. The transport is
  answered as it is by the handler that it was given. Unless the caller walks away, the attempt ends
  when the transport answers, while it is looked at, and at no other time. It ends with the response
  if the announced length, if there is one, and the length of the body are at most the cap, and
  otherwise with the first excess that was told of. -/
theorem downloads_streamed {request : Request} {network : Wire.Network} {arrival : Wire.Arrival}
    (fetched : network.fetch request = .ok arrival) :
    let expected := arrival.expected request.method
    request.dispatch network none = (arrival.finish arrival.body, []) ∧
      (∀ handler : Handler,
        let dispatched := request.dispatch network (some handler)
        arrival.Streamed expected dispatched.1 dispatched.2 ∧
          (handler.Passes (reports expected arrival.frames) ∧
              dispatched.1 = (match arrival.breakOff with
                | some detail => .error (.transport ⟨.body, detail⟩)
                | none => .ok (arrival.response arrival.body)) ∧
              dispatched.2 = reports expected arrival.frames ∨
            ∃ read given failure, handler.Refusal expected arrival.frames read given failure ∧
              dispatched = (.error failure, given) ∧
              ∀ (later : List Wire.Frame) (breakOff : Option String) (other : Wire.Network),
                other.fetch request = .ok { arrival with frames := read ++ later, breakOff } →
                  request.dispatch other (some handler) = (.error failure, given))) ∧
      ∀ (config : Config) (front mid : List Label) (id attempt : Nat) (begun : Flight) (cap : Nat),
        let world : World := (new config).run (front ++ .poll id :: mid)
        Sends config front mid id attempt request begun → arrival.breakOff = none →
          begun.watcher = none → begun.request.options.maxResponseSize = some cap →
          begun.request.options.timeout = none → world.isCancelled begun = false →
          ∃ flight, world.flight? id = some flight ∧
            (∀ notice, World.answer flight notice =
              begun.newGuard.asHandler.respond (Label.noticesTo id mid) notice) ∧
            ∀ label, label ≠ .drop id →
              (∀ answer, label = .complete id answer →
                (answer, Label.noticesTo id mid) =
                  request.dispatch network begun.newGuard.watcher) →
              ∀ ending, world.Tells label (.ended id attempt ending) ↔
                ∃ answer outcome, label = .complete id answer ∧ ending = some outcome ∧
                  Label.IsLookedAt id mid ∧ arrival.Yields request.method cap outcome := by
  intro expected
  refine ⟨?_, fun handler => ⟨Request.dispatch_streamed fetched handler, ?_⟩, ?_⟩
  · rw [Request.dispatch_eq fetched, Wire.Arrival.receive_none]
  · rcases Request.dispatch_cases fetched handler with
      ⟨passes, dispatched⟩ | ⟨read, given, failure, refusal, dispatched⟩
    · exact .inl ⟨passes, by rw [dispatched]; rfl, by rw [dispatched]⟩
    · exact .inr ⟨read, given, failure, refusal, dispatched, fun later breakOff _ arrives =>
        Request.dispatch_of_refusal refusal later breakOff arrives⟩
  · intro config front mid id attempt begun cap world sends unbroken alone capped unlimited quiet
    obtain ⟨flight, exchange, way⟩ := sends.exists_underWay
    exact ⟨flight, way.found, way.answer_eq, fun label stays played ending =>
      way.download_iff fetched unbroken alone capped unlimited quiet stays played ending⟩

/-! ### A body in pieces

A request allows five bytes. Five bytes arrive in three pieces, one of them empty, and then a
trailer. -/

/-- The request. -/
def tightRequest : Request :=
  { method := .get, url := plainUrl, options := { maxResponseSize := some 5 } }

/-- The message. -/
def piecewise : Wire.Arrival :=
  { status := 200, frames := [.data [1, 2], .data [], .data [3, 4, 5], .trailers] }

/-- The request comes to the gate. -/
def tightRun : List Label := [.submit 0 tightRequest none, .poll 0, .poll 0]

/-- The transport reads the message. -/
def piecewiseRun : List Label :=
  .poll 0 :: [0, 2, 2, 5].map fun received => .notify 0 ⟨received, none⟩

/-- With the last piece the body is as long as it may be, and the download succeeds. -/
theorem downloads_streamed_piecewise :
    ((new {}).run (tightRun ++ .poll 0 :: piecewiseRun)).Tells
      (.complete 0 (.ok (piecewise.response [1, 2, 3, 4, 5])))
      (.ended 0 1 (some (.ok (piecewise.response [1, 2, 3, 4, 5])))) := by
  have fetched : (⟨fun _ => .ok piecewise⟩ : Wire.Network).fetch (prepare {} tightRequest) =
      .ok piecewise := by decide +kernel
  have still : (((new {}).run (tightRun ++ [.poll 0])).run piecewiseRun).journal =
      ((new {}).run (tightRun ++ [.poll 0])).journal := rfl
  have sends : Sends {} tightRun piecewiseRun 0 1 (prepare {} tightRequest)
      { id := 0, request := tightRequest, prepared := prepare {} tightRequest
        stage := .entering 1 } :=
    { found := rfl
      called := ⟨true, 1, [_], rfl, List.mem_singleton.2 rfl⟩
      unended := fun part label shorter ending => not_tells_of_still still shorter _ }
  have looked : Label.IsLookedAt 0 piecewiseRun := ⟨[], _, rfl, by simp⟩
  have unannounced : piecewise.expected (prepare {} tightRequest).method = none := by decide
  obtain ⟨flight, _, _, ends⟩ := (downloads_streamed fetched).2.2 {} tightRun piecewiseRun 0 1 _ 5
    sends rfl rfl rfl rfl rfl
  refine (ends _ (by simp) (fun answer same => ?_) _).2 ⟨_, _, rfl, rfl, looked, ?_⟩
  · cases same
    rw [Request.dispatch_eq fetched]
    rfl
  · rw [Wire.Arrival.Yields, if_pos ⟨by simp [unannounced], by decide⟩]
    rfl

end World

end ResilientHttp
