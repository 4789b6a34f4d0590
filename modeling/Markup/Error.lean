import Markup.Json.Fault

/-!
# Errors

What can go wrong for a caller: a JSON text cannot be read, or a pattern does not compile.
-/

namespace Markup

/-- An error of the library.
Source: `Error` (section 10.8) -/
inductive Error
  /-- A JSON text cannot be read. -/
  | json (fault : Json.Fault)
  /-- A pattern does not compile; the engine reports the reason. -/
  | pattern (source reason : String)
deriving DecidableEq

/-- The message of an error. The message of a fault does not tell the place of the fault.
Source: the messages of `Error` -/
def Error.message : Error → String
  | .json fault => "invalid json: " ++ fault.message
  | .pattern source reason => (Json.Fault.invalidPattern source reason).message

end Markup
