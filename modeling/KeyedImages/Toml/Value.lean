import KeyedImages.Toml.Moment

/-! The values of a TOML document. -/
namespace KeyedImages.Toml

inductive Value
  | boolean (b : Bool)
  | integer (i : Int)
  | float (f : Float)
  | string (s : String)
  | moment (m : Moment)
  | array (items : List Value)
  | table (members : List (String × Value))

end KeyedImages.Toml
