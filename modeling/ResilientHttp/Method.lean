/-!
# Request methods

The five methods a request can have, and the token that names each of them.
-/

set_option autoImplicit false

namespace ResilientHttp

/-- The method of a request. -/
inductive Method where
  | head
  | get
  | post
  | put
  | delete
  deriving DecidableEq, Repr

namespace Method

/-- Every method. -/
def all : List Method := [head, get, post, put, delete]

/-- The token that names the method. -/
def text : Method → String
  | head => "HEAD"
  | get => "GET"
  | post => "POST"
  | put => "PUT"
  | delete => "DELETE"

/-- The method that a token names. -/
def ofText? (token : String) : Option Method :=
  all.find? fun method => method.text == token

/-- Reading the token of a method gives the method back. -/
theorem ofText?_text (method : Method) : ofText? method.text = some method := by
  cases method <;> rfl

end Method

end ResilientHttp
