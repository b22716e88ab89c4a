/-!
# Comma-separated text

A record is a line of fields. A field is quoted exactly when it holds a comma, a quote or a line
break, or when it is empty and alone in its record; a quote inside a quoted field is doubled. A
reader accepts quotes around any field, and a carriage return before a line feed.
-/

namespace RetailMarket.Csv

/-! ## Writing -/

def isSpecial (c : Char) : Bool := c == ',' || c == '"' || c == '\n' || c == '\r'

def doubleQuotes : List Char → List Char
  | [] => []
  | c :: rest => if c = '"' then '"' :: '"' :: doubleQuotes rest else c :: doubleQuotes rest

def quote (field : List Char) : List Char := '"' :: (doubleQuotes field ++ ['"'])

def writeField (field : List Char) : List Char :=
  if field.any isSpecial then quote field else field

def writeFields : List (List Char) → List Char
  | [] => []
  | [field] => writeField field
  | field :: rest => writeField field ++ ',' :: writeFields rest

def writeRecord (record : List (List Char)) : List Char :=
  (if record = [[]] then quote [] else writeFields record) ++ ['\n']

def write (records : List (List String)) : String :=
  String.ofList (records.flatMap fun record => writeRecord (record.map String.toList))

/-! ## Reading -/

/-- Where a reader stands: before a record, before a later field, in a bare field, in a quoted
field, or behind its closing quote. -/
inductive Place where
  | record
  | field
  | bare
  | quoted
  | closed
  deriving DecidableEq, Repr

/-- Reads the rest of a text. `field` is what has been read of the current field, and `record` what
has been read of the current record, both reversed. -/
def readFrom? : Place → (field : List Char) → (record : List (List Char)) → List Char →
    Option (List (List (List Char)))
  | .record, _, _, [] => some []
  | .quoted, _, _, [] => none
  | _, field, record, [] => some [(field.reverse :: record).reverse]
  | .quoted, field, record, c :: rest =>
    if c = '"' then readFrom? .closed field record rest
    else readFrom? .quoted (c :: field) record rest
  | _, field, record, '\r' :: '\n' :: rest =>
    (readFrom? .record [] [] rest).map ((field.reverse :: record).reverse :: ·)
  | place, field, record, c :: rest =>
    if c = '\n' then (readFrom? .record [] [] rest).map ((field.reverse :: record).reverse :: ·)
    else if c = ',' then readFrom? .field [] (field.reverse :: record) rest
    else if c = '\r' then none
    else if c = '"' then
      match place with
      | .closed => readFrom? .quoted (c :: field) record rest
      | .bare => none
      | _ => readFrom? .quoted [] record rest
    else if place = .closed then none
    else readFrom? .bare (c :: field) record rest

/-- The records of a text, unless a quote or a carriage return is out of place. -/
def read? (text : String) : Option (List (List String)) :=
  (readFrom? .record [] [] text.toList).map fun records =>
    records.map fun record => record.map String.ofList

end RetailMarket.Csv
