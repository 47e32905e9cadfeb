import SwiftTuples.Decimal.Binary
/-!
# TOML values

What a configuration document says. A table keeps its entries in the order of their keys' first
appearance.
-/

namespace SwiftTuples.Toml

/-- A number with a fraction or an exponent. -/
inductive FloatValue where
  /-- A binary number, below zero if `negative`. -/
  | finite (negative : Bool) (magnitude : Decimal.Scaled)
  | infinite (negative : Bool)
  | nan
deriving DecidableEq, Repr

/-- A value of a document. -/
inductive Value where
  | string (text : String)
  | integer (n : Int)
  | float (x : FloatValue)
  | boolean (b : Bool)
  /-- A date, a time or both. -/
  | date (text : String)
  | array (items : List Value)
  | table (entries : List (String × Value))
deriving Repr

/-- The text of a float. -/
def FloatValue.text : FloatValue → String
  | finite negative magnitude => (if negative then "-" else "") ++ magnitude.text
  | infinite negative => if negative then "-inf.0" else "inf.0"
  | nan => "NaN.0"

end SwiftTuples.Toml
