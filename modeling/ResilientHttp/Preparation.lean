import ResilientHttp.Config
import ResilientHttp.Request

/-!
# Preparation

Before a request is sent for the first time its headers are completed: the headers of the
configuration come first, then the request's own, then the client's name if the request asks for
it, then the credential if the request has a source of credentials and the source gives a text that
is not empty. The first two are joined as they are; the last two are left out if the same header is
there already. Method, URL, body and options stay as they are.
-/

set_option autoImplicit false

namespace ResilientHttp

namespace Preparation

/-- The name of the header that names the client. -/
def userAgentName : String := "User-Agent"

/-- The name of the header that carries the credential. -/
def authorizationName : String := "Authorization"

/-- The credential for a request: what its source gives for its URL, unless that is empty. -/
def credential (request : Request) : Option String :=
  (request.options.authorization.bind fun source => source request.url).filter (!·.isEmpty)

/-- The headers of configuration and request, joined. -/
def joinedHeaders (config : Config) (request : Request) : Headers :=
  config.headers.merge request.headers

/-- Adds the client's name if the request asks for it. -/
def withUserAgent (config : Config) (request : Request) (headers : Headers) : Headers :=
  if request.options.addUserAgent then headers.addValue userAgentName config.userAgent else headers

/-- Adds the credential if there is one. -/
def withCredential (request : Request) (headers : Headers) : Headers :=
  match credential request with
  | some value => headers.addValue authorizationName value
  | none => headers

/-- The headers of the prepared request. -/
def headers (config : Config) (request : Request) : Headers :=
  withCredential request (withUserAgent config request (joinedHeaders config request))

/-- The URLs for which preparing the request asks its source of credentials. -/
def consulted (request : Request) : List Url :=
  if request.options.authorization.isSome then [request.url] else []

end Preparation

/-- The request as it is sent. -/
def prepare (config : Config) (request : Request) : Request :=
  { request with headers := Preparation.headers config request }

end ResilientHttp
