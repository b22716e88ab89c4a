/-!
# Documents

The data of a structured document, whatever the format it was written in. A date or a time is kept
as it was written.
-/

namespace RetailMarket

inductive Document where
  | null
  | boolean (value : Bool)
  | integer (value : Int)
  | number (value : Float)
  | text (value : String)
  | moment (value : String)
  | list (elements : List Document)
  | table (entries : List (String × Document))
  deriving Inhabited

end RetailMarket
