import ResilientHttp.Proofs.Engine.Download
import ResilientHttp.Proofs.Headers.Preparation
import ResilientHttp.Proofs.Wire.HeaderTransfer

/-!
# Sending a request

What a transport is called with is the prepared request, which has all headers of the caller's
(`World.Sends.prepared`). If the wire allows its headers and its URL, its message carries them as they
are, and whoever reads the message gets them without repetitions (`Request.exists_carried`). If the
wire does not allow one of its headers, the transport answers at once that the request is invalid, and
reports nothing (`Request.dispatch_of_error`).

This is a failure that is not worth another attempt and does not speak against the host. With an
answer of that kind the attempt ends, and its request with it for good: the breaker stays as it is,
and nothing is told but the two ends (`World.UnderWay.givesUp`).
-/

set_option autoImplicit false

namespace ResilientHttp

open Wire (Outgoing HeaderMap IsVisibleText visibleText? fetchBy)

namespace Request

variable {request : Request} {failure : Failure}

/-! ## There and back -/

/-- A header with a name and a visible value can be sent. -/
theorem sendable_of_visible {header : Header} (named : Wire.isName header.name = true)
    (visible : IsVisibleText header.value) : HeaderMap.Sendable header :=
  ⟨named, visible.isValueByte⟩

/-- Visible values are read back as they were. -/
theorem filterMap_visibleText? {values : List String} (visible : ∀ value ∈ values, IsVisibleText value) :
    (values.map Utf8.ofString).filterMap visibleText? = values := by
  induction values with
  | nil => rfl
  | cons value rest ih =>
      rw [List.map_cons, List.filterMap_cons_some (visible value List.mem_cons_self).visibleText?_ofString,
        ih fun other member => visible other (List.mem_cons_of_mem _ member)]

/-- **Headers that are sent and read again lose their repetitions and nothing else.** -/
theorem exists_carried {uri : Wire.Uri} (target : Wire.Uri.read request.url.text = .ok uri)
    (allowed : ∀ header ∈ request.headers.items,
      Wire.isName header.name = true ∧ IsVisibleText header.value)
    (room : HeaderMap.HasRoomFor request.headers.items) :
    ∃ outgoing, Outgoing.ofRequest request = .ok outgoing ∧ outgoing.uri = uri ∧
      outgoing.Carries request ∧
      ∀ name, outgoing.headers.headers.get name = (request.headers.get name).eraseDups := by
  obtain ⟨outgoing, made, aimed, carries⟩ := Outgoing.exists_carries target
    (fun header member => sendable_of_visible (allowed header member).1 (allowed header member).2) room
  refine ⟨outgoing, made, aimed, carries, fun name => ?_⟩
  rw [carries.wellFormed.get_headers, carries.values, filterMap_visibleText? fun value member => ?_]
  obtain ⟨header, listed, rfl⟩ := List.mem_map.1 member
  exact (allowed header (List.mem_filter.1 listed).1).2

/-- A request that cannot be sent fails at once over every network, and no handler hears of it. -/
theorem dispatch_of_error (refused : Outgoing.ofRequest request = .error failure)
    (network : Wire.Network) (watcher : Option Handler) :
    request.dispatch network watcher = (.error failure, []) :=
  network.exchange_of_error refused _ _

end Request

namespace World

variable {world : World} {config : Config} {front mid : List Label} {id attempt : Nat}
  {request : Request} {begun flight : Flight} {exchange : Exchange} {failure : Failure}

/-! ## What the transport is called with -/

/-- **A transport is called with the prepared request.** -/
theorem Sends.prepared (sends : Sends config front mid id attempt request begun) :
    request = prepare config begun.request := by
  obtain ⟨_, _, recent, grown, new⟩ := sends.called
  obtain ⟨_, ⟨_, _, _, other⟩ | other | ⟨flight, member, change, turn, _, _, present⟩⟩ :=
    (((World.new config).run front).step_move (.poll id)).turn_of_mem grown new
  · cases other
  · cases other
  · obtain ⟨rfl, rfl, _, stage, _⟩ := turn.of_called present
    have found := flight?_of_mem (orderly_run config front).nodup member
    obtain rfl := Option.some.inj (found.symm.trans sends.found)
    have told := (narrated_run config front).told flight member
    rcases stage with entering | queued
    · rw [entering] at told
      obtain ⟨_, _, _, begins, _⟩ := told
      exact begins.prepared
    · rw [queued] at told
      obtain ⟨_, _, _, begins, _⟩ := told
      exact begins.prepared

/-- The prepared request has the caller's headers. -/
theorem mem_headers_prepare {header : Header} (member : header ∈ request.headers.items) :
    header ∈ (prepare config request).headers.items := by
  rw [Preparation.prepare_eq_completed, (Preparation.completion_completed config request _).items]
  simp [member]

/-! ## Failures that end a request -/

/-- With the step the attempt ends with a failure, and the request with the same failure for good,
while the breaker stays as it is. -/
structure GivesUp (world : World) (label : Label) (id attempt : Nat) (failure : Failure) :
    Prop where
  result : ∃ flight, world.flight? id = some flight ∧
    (world.step label).flight? id = some (flight.onward (.finished (.error failure))) ∧
    ∀ signal, world.Tells label signal ↔ signal = .ended id attempt (some (.error failure)) ∨
      signal = flight.verdict world.now (.error failure)
  breaker : (world.step label).breaker = world.breaker
  /-- Whatever happens then, nothing else happens to the request, and nothing else is told of it. -/
  forGood : ∀ later, SameFor id ((world.step label).run later) (world.step label)

/-- A failure with which the guard lets an exchange end is the end of the request, unless it is worth
another attempt. -/
theorem givesUp_of_hopeless (orderly : world.Orderly config) (found : world.flight? id = some flight)
    (stage : flight.stage = .exchanging exchange) (looked : exchange.attended = true)
    (passed : exchange.guard.finish (.error failure) = .error failure)
    (hopeless : failure.isRetryable = false) :
    world.GivesUp (.complete id (.error failure)) id exchange.attempt failure := by
  obtain ⟨member, rfl⟩ := mem_of_flight? found
  have answered : exchange.answer? flight.request.options world.now
      (.complete flight.id (.error failure)) = some (.error failure) :=
    Exchange.answer?_complete_iff.2 ⟨looked, rfl⟩
  have turn : Turn world flight (world.concluded flight exchange (.error failure)) :=
    turn_concluded stage _
  have after := step_of_answer found stage rfl answered
  rw [concluded_of_hopeless hopeless] at turn
  rw [passed, concluded_of_hopeless hopeless] at after
  have landed := flight?_apply orderly.nodup member turn
  rw [← after] at landed
  refine ⟨⟨flight, found, landed, fun signal => ?_⟩, ?_, fun later => ?_⟩
  · rw [tells_iff_of_apply after]
    simp
  · rw [after, breaker_apply]
  · exact sameFor_run_of_ended (orderly.move (step_move _ _)) landed rfl later

/-- **An attempt whose transport answers with a failure that is not worth another attempt gives up**,
unless a notice exceeded its cap. -/
theorem UnderWay.givesUp (way : UnderWay config id attempt front mid begun flight exchange)
    (looked : Label.IsLookedAt id mid)
    (within : ∀ notice ∈ Label.noticesTo id mid,
      ¬ notice.Exceeds flight.request.options.maxResponseSize)
    (hopeless : failure.isRetryable = false) :
    ((new config).run (front ++ .poll id :: mid)).GivesUp (.complete id (.error failure)) id
      attempt failure := by
  have passed : exchange.guard.finish (.error failure) = .error failure :=
    way.verdict_iff.1 (.failed within)
  rw [← way.same]
  exact givesUp_of_hopeless (orderly_run config _) way.found way.stage (way.looked.2 looked) passed
    hopeless

/-! ## The way of the headers -/

/-- **Headers come through the wire without their repetitions, or the request is invalid.**

* A request can be sent whose URL is a target and whose headers, for which there is room, have names
  and visible values. The message has its method and its body, and of every name its values in
  order, with repetitions. Whoever reads the message gets of every name its values in order, each
  once.
* In whatever order lines with names and values arrive, and whatever groups are read, what a caller
  gets of a name is its values that are visible ASCII, each once, in order.
* If the wire does not allow the name or the value of a header, the request is invalid. Fetching it
  has no effect, in whatever way messages are handed over, and no notice is given. If an attempt of
  such a request is answered by its transport, its request ends with that failure for good, no
  other attempt is made, and nothing is recorded against the host. This goes for the headers that
  the transport is called with, which are those of the prepared request, the caller's among them. -/
theorem headers_transferred (request : Request) :
    (∀ uri, Wire.Uri.read request.url.text = .ok uri →
      (∀ header ∈ request.headers.items,
        Wire.isName header.name = true ∧ IsVisibleText header.value) →
      HeaderMap.HasRoomFor request.headers.items →
      ∃ outgoing, Outgoing.ofRequest request = .ok outgoing ∧ outgoing.uri = uri ∧
        outgoing.Carries request ∧
        ∀ name, outgoing.headers.headers.get name = (request.headers.get name).eraseDups) ∧
      ((∀ value text, visibleText? value = some text ↔
          IsVisibleText text ∧ Utf8.ofString text = value) ∧
        (∀ lines name, (HeaderMap.ofLines lines).headers.get name =
          (((lines.filter fun line => Text.sameFold line.1 name).map Prod.snd).filterMap
            visibleText?).eraseDups) ∧
        ∀ map : HeaderMap, map.WellFormed → ∀ name,
          map.headers.get name = ((map.get name).filterMap visibleText?).eraseDups) ∧
      ((∃ header ∈ request.headers.items, ¬ HeaderMap.Sendable header) →
        ∃ detail,
          (∀ (Effect : Type → Type) [Monad Effect]
            (deliver : Outgoing → Effect (Except Wire.WireFault Wire.Arrival)),
            fetchBy deliver request = pure (.error (.invalidRequest detail))) ∧
          (∀ (network : Wire.Network) (watcher : Option Handler),
            @fetchBy Id _ network.deliver request = network.fetch request ∧
              request.dispatch network watcher = (.error (.invalidRequest detail), [])) ∧
          ∀ (config : Config) (front mid : List Label) (id attempt : Nat) (begun : Flight)
            (network : Wire.Network) (answer : Outcome),
            Sends config front mid id attempt request begun → Label.IsLookedAt id mid →
              (answer, Label.noticesTo id mid) =
                request.dispatch network begun.newGuard.watcher →
              answer = .error (.invalidRequest detail) ∧
                ((new config).run (front ++ .poll id :: mid)).GivesUp (.complete id answer) id
                  attempt (.invalidRequest detail)) ∧
      ∀ (config : Config) (front mid : List Label) (id attempt : Nat) (begun : Flight),
        Sends config front mid id attempt request begun →
          request = prepare config begun.request ∧
            ∀ header ∈ begun.request.headers.items, header ∈ request.headers.items := by
  refine ⟨fun uri target allowed room => Request.exists_carried target allowed room,
    ⟨fun _ _ => Wire.visibleText?_eq_some_iff, fun lines name => ?_,
      fun map wellFormed name => wellFormed.get_headers name⟩, fun bad => ?_, ?_⟩
  · rw [(HeaderMap.wellFormed_ofLines lines).get_headers, HeaderMap.get_ofLines]
  · obtain ⟨detail, refused⟩ := Outgoing.exists_detail_of_unsendable bad
    refine ⟨detail, fun Effect _ deliver => Wire.fetchBy_of_error deliver refused,
      fun network watcher => ⟨Wire.fetchBy_deliver network request,
        Request.dispatch_of_error refused network watcher⟩, ?_⟩
    intro config front mid id attempt begun network answer sends looked played
    rw [Request.dispatch_of_error refused] at played
    obtain ⟨rfl, silent⟩ := Prod.mk.inj played
    obtain ⟨flight, exchange, way⟩ := sends.exists_underWay
    exact ⟨rfl, way.givesUp looked (by simp [silent]) rfl⟩
  · intro config front mid id attempt begun sends
    obtain rfl := sends.prepared
    exact ⟨rfl, fun header member => mem_headers_prepare member⟩

/-! ### A value that is repeated, and a name that is none

One request has a header in two spellings, with one value twice, around another header. Another
request has a name with a space in it. -/

/-- The first request. -/
def repeatingRequest : Request :=
  { method := .get, url := plainUrl
    headers := ⟨[⟨"X-Tag", "one"⟩, ⟨"Accept", "text/html"⟩, ⟨"x-tag", "two"⟩, ⟨"X-TAG", "one"⟩]⟩ }

/-- The second request. -/
def misnamedRequest : Request :=
  { method := .get, url := plainUrl, headers := ⟨[⟨"bad name", "one"⟩]⟩ }

/-- The second request comes to its transport. -/
def misnamedRun : List Label := [.submit 0 misnamedRequest none, .poll 0, .poll 0]

/-- The first request is sent, and read without the repetition. The second one ends with the answer
of its transport. -/
theorem headers_transferred_repeatingRequest :
    (∃ outgoing, Outgoing.ofRequest repeatingRequest = .ok outgoing ∧
      outgoing.headers.headers.get "x-tag" = ["one", "two"]) ∧
      ∃ detail, ((new {}).run (misnamedRun ++ .poll 0 :: [.poll 0])).GivesUp
        (.complete 0 (.error (.invalidRequest detail))) 0 1 (.invalidRequest detail) := by
  constructor
  · obtain ⟨outgoing, made, _, _, values⟩ := (headers_transferred repeatingRequest).1
      { scheme := some "http", authority := "a", pathAndQuery := "" } (by decide +kernel)
      (by decide +kernel) (HeaderMap.hasRoomFor_of_length_le (by decide))
    refine ⟨outgoing, made, (values "x-tag").trans ?_⟩
    simp only [Headers.get, repeatingRequest, Header.hasName, Text.sameFold_eq]
    decide +kernel
  · have sends : Sends {} misnamedRun [.poll 0] 0 1 (prepare {} misnamedRequest)
        { id := 0, request := misnamedRequest, prepared := prepare {} misnamedRequest
          stage := .entering 1 } :=
      { found := rfl
        called := ⟨false, 1, [_], rfl, List.mem_singleton.2 rfl⟩
        unended := fun part label shorter ending => not_tells_of_still rfl shorter _ }
    obtain ⟨_, _, invalid, prepared⟩ := headers_transferred (prepare {} misnamedRequest)
    have kept := (prepared {} misnamedRun [.poll 0] 0 1 _ sends).2 _ (List.mem_singleton_self _)
    obtain ⟨detail, _, dispatched, ends⟩ := invalid ⟨_, kept, by decide +kernel⟩
    refine ⟨detail, (ends {} misnamedRun [.poll 0] 0 1 _ ⟨fun _ => .ok { status := 200, frames := [] }⟩
      _ sends ⟨[], [], rfl, by simp⟩ ?_).2⟩
    rw [(dispatched _ _).2]
    rfl

end World

end ResilientHttp
