import ApiShapes.Shape.Basic

/-!
# Handlers

* `Method` : the nine verbs that name a handler, `Method.ofKey?` reads one;
* `Side` : request or response;
* `Handler` : the shapes of one method's request and response.
-/

namespace ApiShapes

/-- An HTTP verb that names a handler in a method table. -/
inductive Method where
  | get
  | head
  | post
  | put
  | delete
  | connect
  | options
  | trace
  | patch
  deriving DecidableEq, Repr

namespace Method

def all : List Method :=
  [get, head, post, put, delete, connect, options, trace, patch]

/-- The verb as a table key. -/
def key : Method → String
  | get => "GET"
  | head => "HEAD"
  | post => "POST"
  | put => "PUT"
  | delete => "DELETE"
  | connect => "CONNECT"
  | options => "OPTIONS"
  | trace => "TRACE"
  | patch => "PATCH"

/-- The verb of a table key, which must be in capitals. -/
def ofKey? (key : String) : Option Method :=
  all.find? (·.key == key)

def unrecognized (key : String) : String :=
  "Unrecognized HTTP method: " ++ key

end Method

/-- The side of an exchange that a declaration describes. -/
inductive Side where
  | request
  | response
  deriving DecidableEq, Repr

def Side.suffixText : Side → String
  | request => "Request"
  | response => "Response"

structure Handler where
  method : Method
  request : Shape
  response : Shape
  deriving Repr

end ApiShapes
