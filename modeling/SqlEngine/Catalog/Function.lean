import SqlEngine.Error
import SqlEngine.Value.Basic

/-!
Functions that the host program registers, to be called by SQL terms.
-/

namespace SqlEngine

/-- The declaration of a function. -/
structure Signature where
  name : String
  args : List SqlType
  /-- The type of further arguments, if any number of them may follow. -/
  rest : Option SqlType
  returns : SqlType
  /-- Whether the function is called on NULL; otherwise it gives NULL for a NULL argument. -/
  takesNull : Bool
deriving DecidableEq, Repr, Inhabited

namespace Signature

/-- Can the function be called with so many arguments? -/
def accepts (s : Signature) (count : Nat) : Bool :=
  count == s.args.length || (s.rest.isSome && s.args.length < count)

/-- The type of an argument. -/
def argType? (s : Signature) (position : Nat) : Option SqlType :=
  s.args[position]?.or s.rest

end Signature

/-- A registered function. Functions are told apart by the order of their registration. -/
structure HostFunction where
  id : Nat
  schema : String
  signature : Signature
  body : List Value → Except SqlError Value

namespace HostFunction

def call (f : HostFunction) (args : List Value) : Except SqlError Value :=
  if !f.signature.takesNull && args.any Value.isNull then .ok .null else f.body args

end HostFunction

end SqlEngine
