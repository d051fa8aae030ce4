import ResilientHttp.Preparation
import Mathlib.Data.List.Basic

/-!
# What preparation does to headers

The headers of a prepared request are those of the configuration, then the request's own, then the
client's name, then the credential. The first two stand there as they are. Of the last two each is
left out if the same header, up to the case of its name, stands before it already
(`Headers.missing`). So nothing is removed, moved or overwritten, and what was asked for is there at
least once (`Preparation.Completion`).

A source of credentials may do more than answer: it may fetch something, fail, or remember that it
was asked. The steps of the preparation are therefore written once more, in order, over any monad in
which asking can take effect (`Preparation.prepareAsking`). Where asking has no effect this is
`prepare`; where asking is written down, the log grows by `Preparation.consulted`, which is what a
client notes when it starts a request. In every monad the whole effect of the preparation is that of
one question, for the URL of the request, and no effect if there is no source; and whatever the
answer is, the request is completed with it as above (`Preparation.headers_prepared`).
-/

set_option autoImplicit false

namespace ResilientHttp

namespace Headers

/-- A header as a list, empty if the same header is among the given ones. -/
def missing (items : List Header) (name value : String) : List Header :=
  if ∃ header ∈ items, Text.sameFold header.name name = true ∧ header.value = value then []
  else [⟨name, value⟩]

/-- To add a header is to append it if it is missing. -/
theorem items_addValue (headers : Headers) (name value : String) :
    (headers.addValue name value).items = headers.items ++ missing headers.items name value := by
  have held : headers.items.any (·.same ⟨name, value⟩) = true ↔
      ∃ header ∈ headers.items, Text.sameFold header.name name = true ∧ header.value = value := by
    simp only [List.any_eq_true, Header.same_iff, Text.sameFold_iff]
  unfold addValue missing
  by_cases there : headers.items.any (·.same ⟨name, value⟩) = true
  · rw [add_of_mem there, if_pos (held.1 there), List.append_nil]
  · rw [items_add_of_not_mem (by simpa using there), if_neg (mt held.2 there)]

/-- The values of a name in a list of headers. -/
theorem get_append (front back : List Header) (name : String) :
    (Headers.mk (front ++ back)).get name = (Headers.mk front).get name ++ (Headers.mk back).get name := by
  simp only [get, List.filter_append, List.map_append]

/-- A header that is added brings no value to another name. -/
theorem get_missing_of_other {name other : String} (differ : Text.sameFold name other = false)
    (items : List Header) (value : String) :
    (Headers.mk (missing items name value)).get other = [] := by
  unfold missing
  split
  · rfl
  · simp [get, Header.hasName, differ]

/-- A header that was added is there. -/
theorem mem_get_append_missing (items : List Header) (name value : String) :
    value ∈ (Headers.mk (items ++ missing items name value)).get name := by
  unfold missing
  split
  · rename_i there
    obtain ⟨header, member, named, rfl⟩ := there
    rw [List.append_nil]
    exact List.mem_map_of_mem (List.mem_filter.2 ⟨member, named⟩)
  · rw [get_append]
    refine List.mem_append_right _ (List.mem_map_of_mem (a := ⟨name, value⟩) (f := Header.value) ?_)
    exact List.mem_filter.2 ⟨List.mem_singleton_self _, Text.sameFold_refl name⟩

end Headers

namespace Preparation

/-! ## Preparing with an answer -/

/-- Adds the credential a source has answered with, unless that is empty. -/
def withAnswer (answer : Option String) (headers : Headers) : Headers :=
  match answer.filter (!·.isEmpty) with
  | some value => headers.addValue authorizationName value
  | none => headers

/-- The request as it is sent, given what its source of credentials has answered. -/
def completed (config : Config) (request : Request) (answer : Option String) : Request :=
  { request with
    headers := withAnswer answer (withUserAgent config request (joinedHeaders config request)) }

/-- To prepare a request is to complete it with what its source gives for its URL. -/
theorem prepare_eq_completed (config : Config) (request : Request) :
    prepare config request =
      completed config request (request.options.authorization.bind fun source => source request.url) :=
  rfl

/-! ## The headers of a completed request -/

/-- The client's name as a list of headers, given what stands before it. -/
def agentItems (config : Config) (request : Request) (before : List Header) : List Header :=
  if request.options.addUserAgent then Headers.missing before userAgentName config.userAgent else []

/-- The credential as a list of headers, given the source's answer and what stands before it. -/
def credentialItems (answer : Option String) (before : List Header) : List Header :=
  match answer.filter (!·.isEmpty) with
  | some value => Headers.missing before authorizationName value
  | none => []

/-- What it means that a request was prepared with a given answer of its source of credentials: only
its headers are others, and they are the headers of the configuration and of the request as they
are, then the client's name if it is asked for and missing, then the credential if it is not empty
and missing. -/
structure Completion (config : Config) (request : Request) (answer : Option String)
    (sent : Request) : Prop where
  method : sent.method = request.method
  url : sent.url = request.url
  body : sent.body = request.body
  options : sent.options = request.options
  /-- The headers, in order. -/
  items :
    let joined := config.headers.items ++ request.headers.items
    let named := joined ++ agentItems config request joined
    sent.headers.items = named ++ credentialItems answer named
  /-- The values of the names preparation does not write. -/
  others : ∀ name, Text.sameFold userAgentName name = false →
    Text.sameFold authorizationName name = false →
    sent.headers.get name = config.headers.get name ++ request.headers.get name
  /-- The client is named if it is asked for. -/
  agent : request.options.addUserAgent = true →
    config.userAgent ∈ sent.headers.get userAgentName
  /-- A credential that is not empty is carried. -/
  credential : ∀ value, answer = some value → value ≠ "" →
    value ∈ sent.headers.get authorizationName

theorem items_withUserAgent (config : Config) (request : Request) (headers : Headers) :
    (withUserAgent config request headers).items =
      headers.items ++ agentItems config request headers.items := by
  unfold withUserAgent agentItems
  split
  · exact Headers.items_addValue _ _ _
  · exact (List.append_nil _).symm

theorem items_withAnswer (answer : Option String) (headers : Headers) :
    (withAnswer answer headers).items = headers.items ++ credentialItems answer headers.items := by
  unfold withAnswer credentialItems
  split
  · exact Headers.items_addValue _ _ _
  · exact (List.append_nil _).symm

/-- The client's name brings no value to another name. -/
theorem get_agentItems_of_other {name : String} (other : Text.sameFold userAgentName name = false)
    (config : Config) (request : Request) (before : List Header) :
    (Headers.mk (agentItems config request before)).get name = [] := by
  unfold agentItems
  split
  · exact Headers.get_missing_of_other other _ _
  · rfl

/-- The credential brings no value to another name. -/
theorem get_credentialItems_of_other {name : String}
    (other : Text.sameFold authorizationName name = false) (answer : Option String)
    (before : List Header) : (Headers.mk (credentialItems answer before)).get name = [] := by
  unfold credentialItems
  split
  · exact Headers.get_missing_of_other other _ _
  · rfl

/-- A completed request is complete. -/
theorem completion_completed (config : Config) (request : Request) (answer : Option String) :
    Completion config request answer (completed config request answer) := by
  let joined := config.headers.items ++ request.headers.items
  let named := joined ++ agentItems config request joined
  have items : (completed config request answer).headers =
      ⟨named ++ credentialItems answer named⟩ := by
    rw [Headers.mk.injEq, completed, items_withAnswer, items_withUserAgent]
    rfl
  refine ⟨rfl, rfl, rfl, rfl, congrArg Headers.items items, ?_, ?_, ?_⟩
  · intro name notAgent notCredential
    rw [items, Headers.get_append, Headers.get_append, Headers.get_append,
      get_agentItems_of_other notAgent, get_credentialItems_of_other notCredential,
      List.append_nil, List.append_nil]
  · intro asked
    rw [items, Headers.get_append]
    refine List.mem_append_left _ ?_
    simp only [named, agentItems, asked, if_true]
    exact Headers.mem_get_append_missing _ _ _
  · rintro value rfl filled
    have usable : (some value).filter (!·.isEmpty) = some value := by simp [filled]
    rw [items]
    simp only [credentialItems, usable]
    exact Headers.mem_get_append_missing _ _ _

/-! ## Asking with effect -/

section Asking

variable {Effect : Type → Type} [Monad Effect]

/-- The last step where asking a source takes effect. -/
def withAsked (ask : (Url → Option String) → Url → Effect (Option String)) (request : Request)
    (headers : Headers) : Effect Headers :=
  match request.options.authorization with
  | some source => do
    let answer ← ask source request.url
    return withAnswer answer headers
  | none => return headers

/-- The steps of the preparation, in order. -/
def steps (ask : (Url → Option String) → Url → Effect (Option String)) (config : Config)
    (request : Request) : List (Headers → Effect Headers) :=
  [fun _ => return joinedHeaders config request,
    fun headers => return withUserAgent config request headers,
    withAsked ask request]

/-- Prepares a request, where `ask` is what it takes to ask a source of credentials for a URL. -/
def prepareAsking (ask : (Url → Option String) → Url → Effect (Option String)) (config : Config)
    (request : Request) : Effect Request := do
  let headers ← (steps ask config request).foldlM (fun headers step => step headers) Headers.empty
  return { request with headers }

/-- The effect of the preparation is that of asking the source once, for the URL of the request. -/
theorem prepareAsking_eq [LawfulMonad Effect]
    (ask : (Url → Option String) → Url → Effect (Option String)) (config : Config)
    (request : Request) :
    prepareAsking ask config request =
      match request.options.authorization with
      | some source => completed config request <$> ask source request.url
      | none => pure (completed config request none) := by
  simp only [prepareAsking, steps, List.foldlM_cons, List.foldlM_nil, pure_bind, bind_pure,
    withAsked]
  cases request.options.authorization with
  | some source => simp only [bind_assoc, pure_bind, map_eq_pure_bind, completed]
  | none => simp only [pure_bind]; rfl

end Asking

/-- Asking a source that only answers, and writing down the URL. -/
def askNoting (source : Url → Option String) (url : Url) : StateM (List Url) (Option String) := do
  modify (· ++ [url])
  return source url

/-- Preparing with a log adds to it the URLs for which the source is consulted. -/
theorem prepareAsking_askNoting (config : Config) (request : Request) (log : List Url) :
    (prepareAsking askNoting config request).run log =
      (prepare config request, log ++ consulted request) := by
  rw [prepareAsking_eq, prepare_eq_completed, consulted]
  cases request.options.authorization with
  | some source => rfl
  | none => simp; rfl

/-- Preparation asks the source of credentials once, for the URL of the request, if there is one, and
completes the request with its answer: method, URL, body and options stay, and the headers are those
of the configuration and of the request, followed by the client's name and the credential where they
are missing. -/
theorem headers_prepared (config : Config) (request : Request) :
    ∃ complete : Option String → Request,
      (∀ answer, Completion config request answer (complete answer)) ∧
      prepare config request =
        complete (request.options.authorization.bind fun source => source request.url) ∧
      (∀ log, (prepareAsking askNoting config request).run log =
        (prepare config request, log ++ consulted request)) ∧
      ∀ (Effect : Type → Type) [Monad Effect] [LawfulMonad Effect]
        (ask : (Url → Option String) → Url → Effect (Option String)),
        prepareAsking ask config request =
          match request.options.authorization with
          | some source => complete <$> ask source request.url
          | none => pure (complete none) :=
  ⟨completed config request, completion_completed config request, prepare_eq_completed config request,
    prepareAsking_askNoting config request, fun _ _ _ ask => prepareAsking_eq ask config request⟩

/-- A configuration that names its client twice: in a header of its own spelling, and as its name. -/
def spelledConfig : Config :=
  { headers := ⟨[⟨"user-agent", "registry-bot"⟩, ⟨"Accept", "text/html"⟩]⟩
    userAgent := "registry-bot" }

/-- A request with a header the configuration has too, and with a source of credentials. -/
def credentialRequest : Request :=
  { method := .get, url := { scheme := "https", host := some "registry.example.org" }
    headers := ⟨[⟨"Accept", "text/html"⟩]⟩
    options := { authorization := some fun _ => some "Bearer secret" } }

/-- Both equal headers stay, the client is not named again, and the credential comes last; the source
was asked once. -/
theorem headers_prepared_credentialRequest :
    (prepare spelledConfig credentialRequest).headers.items =
        [⟨"user-agent", "registry-bot"⟩, ⟨"Accept", "text/html"⟩, ⟨"Accept", "text/html"⟩,
          ⟨"Authorization", "Bearer secret"⟩] ∧
      ((prepareAsking askNoting spelledConfig credentialRequest).run []).2 =
        [credentialRequest.url] := by
  obtain ⟨complete, completion, prepared, noting, -⟩ :=
    headers_prepared spelledConfig credentialRequest
  constructor
  · refine (congrArg (fun sent => sent.headers.items) prepared).trans
      ((completion (some "Bearer secret")).items.trans ?_)
    -- Folding a text does not compute in the kernel; lowering its characters does.
    simp only [agentItems, credentialItems, Headers.missing, Text.sameFold_iff,
      ← String.toList_inj, Text.fold_toList]
    decide +kernel
  · rw [noting]
    rfl

end Preparation

end ResilientHttp
