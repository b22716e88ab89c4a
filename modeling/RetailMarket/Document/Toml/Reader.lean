import RetailMarket.Document.Toml.Layout
import RetailMarket.Document.Toml.Moment
import RetailMarket.Document.Toml.Scalar

/-!
# Reading TOML

A document is read line by line: headers, and keys with values. Values may be nested to a limit;
every reader takes the number of characters that are left as the bound of its recursion.
-/

namespace RetailMarket.Toml

/-- Arrays and inline tables are nested, and the parts of a key are counted, to less than this. -/
def nestingLimit : Nat := 80

/-! ## Keys -/

def simpleKey? (text : List Char) : Option (String × List Char) :=
  match text with
  | '"' :: _ | '\x27' :: _ =>
    (lineString? text).map fun (key, rest) => (String.ofList key, rest)
  | _ =>
    let (key, rest) := text.span isBareKey
    if key.isEmpty then none else some (String.ofList key, rest)

def dottedKey? : (fuel : Nat) → List Char → Option (List String × List Char)
  | 0, _ => none
  | fuel + 1, text => do
    let (key, rest) ← simpleKey? (dropBlanks text)
    match dropBlanks rest with
    | '.' :: rest => (dottedKey? fuel rest).map fun (keys, rest) => (key :: keys, rest)
    | rest => some ([key], rest)

def key? (text : List Char) : Option (List String × List Char) :=
  (dottedKey? (text.length + 1) text).filter fun read => decide (read.1.length < nestingLimit)

/-! ## Comments and line ends -/

/-- The text after a comment, if one stands here; control characters in it are refused. -/
def dropComment? : List Char → Option (List Char)
  | '#' :: rest => some (rest.dropWhile isPlain)
  | rest => some rest

def endLine? (text : List Char) : Option (List Char) := do
  let rest ← dropComment? (dropBlanks text)
  if rest.isEmpty then some [] else dropLineEnd? rest

def dropSpace? : (fuel : Nat) → List Char → Option (List Char)
  | 0, _ => none
  | fuel + 1, text =>
    match dropBlanks text with
    | '#' :: rest => (dropLineEnd? (rest.dropWhile isPlain)).bind (dropSpace? fuel)
    | rest =>
      match dropLineEnd? rest with
      | some after => dropSpace? fuel after
      | none => some rest

/-! ## Values -/

mutual

/-- A value inside as many arrays and inline tables as `depth` says. -/
def value? : (fuel depth : Nat) → List Char → Option (Document × List Char)
  | 0, _, _ => none
  | fuel + 1, depth, text =>
    match text with
    | '"' :: _ | '\x27' :: _ =>
      (string? text).map fun (value, rest) => (.text (String.ofList value), rest)
    | '[' :: rest => if depth + 1 < nestingLimit then elements? fuel (depth + 1) [] rest else none
    | '\x7b' :: rest =>
      if depth + 1 < nestingLimit then
        match dropBlanks rest with
        | '\x7d' :: rest => some (.table [], rest)
        | rest => pairs? fuel (depth + 1) [] rest
      else none
    | _ =>
      match moment? text with
      | some rest =>
        some (.moment (String.ofList (text.take (text.length - rest.length))), rest)
      | none =>
        let (scalar, rest) := text.span isScalar
        (scalar? scalar).map (·, rest)

def elements? : (fuel depth : Nat) → (read : List Document) → List Char →
    Option (Document × List Char)
  | 0, _, _, _ => none
  | fuel + 1, depth, read, text => do
    match ← dropSpace? (text.length + 1) text with
    | ']' :: rest => some (.list read.reverse, rest)
    | rest =>
      let (value, rest) ← value? fuel depth rest
      match ← dropSpace? (rest.length + 1) rest with
      | ']' :: rest => some (.list (value :: read).reverse, rest)
      | ',' :: rest => elements? fuel depth (value :: read) rest
      | _ => none

def pairs? : (fuel depth : Nat) → (read : Entries) → List Char → Option (Document × List Char)
  | 0, _, _, _ => none
  | fuel + 1, depth, read, text => do
    let (keys, rest) ← key? text
    match rest with
    | '=' :: rest =>
      let (value, rest) ← value? fuel depth (dropBlanks rest)
      let read ← Entries.addDotted keys value read
      match dropBlanks rest with
      | '\x7d' :: rest => some (.table (entryDocuments read), rest)
      | ',' :: rest => pairs? fuel depth read rest
      | _ => none
    | _ => none

end

/-! ## Lines -/

/-- What has been read: the tables, and the path of the table that keys go to. -/
structure State where
  entries : Entries := []
  path : List String := []

def header? (state : State) (isElement : Bool) (text : List Char) :
    Option (State × List Char) := do
  let (keys, rest) ← key? text
  let rest ←
    match isElement, rest with
    | true, ']' :: ']' :: rest => some rest
    | false, ']' :: rest => some rest
    | _, _ => none
  let entries ←
    if isElement then Entries.openElement keys state.entries
    else Entries.openTable keys state.entries
  some ({ entries, path := keys }, rest)

def pair? (state : State) (text : List Char) : Option (State × List Char) := do
  let (keys, rest) ← key? text
  match rest with
  | '=' :: rest =>
    let (value, rest) ← value? (rest.length + 1) 0 (dropBlanks rest)
    let entries ← Entries.atHeader (Entries.addDotted keys value) state.path state.entries
    some ({ state with entries }, rest)
  | _ => none

def line? (state : State) (text : List Char) : Option (State × List Char) := do
  let (state, rest) ←
    match text with
    | '[' :: '[' :: rest => header? state true rest
    | '[' :: rest => header? state false rest
    | _ => pair? state text
  (endLine? rest).map (state, ·)

def lines? : (fuel : Nat) → State → List Char → Option State
  | 0, _, _ => none
  | fuel + 1, state, text =>
    match dropBlanks text with
    | [] => some state
    | '#' :: rest => (endLine? ('#' :: rest)).bind (lines? fuel state)
    | c :: rest =>
      match dropLineEnd? (c :: rest) with
      | some after => lines? fuel state after
      | none => (line? state (c :: rest)).bind fun (state, rest) => lines? fuel state rest

def dropByteOrderMark : List Char → List Char
  | '\ufeff' :: rest => rest
  | text => text

def read (text : String) : Option Document :=
  let characters := dropByteOrderMark text.toList
  (lines? (characters.length + 1) {} characters).map fun state =>
    .table (entryDocuments state.entries)

end RetailMarket.Toml
