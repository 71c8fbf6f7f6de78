/-!
# TOML values

The values of a document, as far as readers of settings tell them apart: a float and a date or time keep
no more than their type. Tables hold each key once.
-/

namespace HidAccess.Toml

inductive Value where
  | string (s : String)
  | integer (i : Int)
  | float
  | boolean (b : Bool)
  | moment
  | array (items : List Value)
  | table (entries : List (String × Value))
  deriving Repr, Inhabited

abbrev Table := List (String × Value)

def minInteger : Int := -9223372036854775808
def maxInteger : Int := 9223372036854775807

end HidAccess.Toml
