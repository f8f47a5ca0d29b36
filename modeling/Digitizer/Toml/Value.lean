/-!
# TOML values
-/
namespace Digitizer.Toml

/-- What a document is made of. A document as a whole is a table. -/
inductive Value where
  | string (text : String)
  | integer (z : Int)
  | float (v : Float)
  | boolean (b : Bool)
  /-- A date, a time or both, as written. -/
  | moment (text : String)
  | array (elements : List Value)
  | table (entries : List (String × Value))

end Digitizer.Toml
