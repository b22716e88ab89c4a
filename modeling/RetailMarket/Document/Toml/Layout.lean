import RetailMarket.Document.Value

/-!
# Tables of a TOML document

A document is laid out by headers and dotted keys. A table is opened at most once: by its header,
which may also complete one that headers of its children have brought into being, or by dotted
keys of the table that holds it. An array of tables grows by one table with each of its headers,
and keys that lead through it mean its last table.
-/

namespace RetailMarket.Toml

/-- How a table has come into being: on the way of a header, by dotted keys, or by its header. -/
inductive TableOrigin where
  | onTheWay
  | dotted
  | header
  deriving DecidableEq, Repr

inductive Node where
  | value (document : Document)
  | table (origin : TableOrigin) (entries : List (String × Node))
  | tables (elements : List (List (String × Node)))

abbrev Entries := List (String × Node)

namespace Entries

def replace (key : String) (node : Node) (entries : Entries) : Entries :=
  entries.map fun entry => if entry.1 = key then (key, node) else entry

def put (key : String) (node : Node) (entries : Entries) : Entries :=
  if (entries.lookup key).isSome then replace key node entries else entries ++ [(key, node)]

def changeLast {α : Type} (change : α → Option α) : List α → Option (List α)
  | [] => none
  | [last] => (change last).map fun last => [last]
  | element :: next :: rest => (changeLast change (next :: rest)).map (element :: ·)

def atHeader (change : Entries → Option Entries) : List String → Entries → Option Entries
  | [], entries => change entries
  | key :: path, entries =>
    match entries.lookup key with
    | none => (atHeader change path []).map fun inner => put key (.table .onTheWay inner) entries
    | some (.value _) => none
    | some (.table origin inner) =>
      (atHeader change path inner).map fun inner => put key (.table origin inner) entries
    | some (.tables elements) =>
      (changeLast (atHeader change path) elements).map fun elements =>
        put key (.tables elements) entries

/-- Changes the table that the path of a dotted key leads to; it has to be one that dotted keys
opened. -/
def atDotted (change : Entries → Option Entries) : List String → Entries → Option Entries
  | [], entries => change entries
  | key :: path, entries =>
    match entries.lookup key with
    | none => (atDotted change path []).map fun inner => put key (.table .dotted inner) entries
    | some (.value _) => none
    | some (.table origin inner) =>
      if origin = .header ∨ (path = [] ∧ origin ≠ .dotted) then none
      else (atDotted change path inner).map fun inner => put key (.table origin inner) entries
    | some (.tables elements) =>
      if path = [] then none
      else
        (changeLast (atDotted change path) elements).map fun elements =>
          put key (.tables elements) entries

def addNew (key : String) (value : Document) (entries : Entries) : Option Entries :=
  if (entries.lookup key).isSome then none else some (entries ++ [(key, .value value)])

def addDotted (keys : List String) (value : Document) (entries : Entries) : Option Entries :=
  match keys.getLast? with
  | none => none
  | some key => atDotted (addNew key value) keys.dropLast entries

def openTable (keys : List String) (entries : Entries) : Option Entries :=
  let start (key : String) (parent : Entries) : Option Entries :=
    match parent.lookup key with
    | none => some (parent ++ [(key, .table .header [])])
    | some (.table .onTheWay inner) => some (replace key (.table .header inner) parent)
    | some _ => none
  match keys.getLast? with
  | none => none
  | some key => atHeader (start key) keys.dropLast entries

def openElement (keys : List String) (entries : Entries) : Option Entries :=
  let start (key : String) (parent : Entries) : Option Entries :=
    match parent.lookup key with
    | none => some (parent ++ [(key, .tables [[]])])
    | some (.tables elements) => some (replace key (.tables (elements ++ [[]])) parent)
    | some _ => none
  match keys.getLast? with
  | none => none
  | some key => atHeader (start key) keys.dropLast entries

end Entries

/-! ## Documents of tables -/

mutual

def Node.document : Node → Document
  | .value document => document
  | .table _ entries => .table (entryDocuments entries)
  | .tables elements => .list (elementDocuments elements)

def entryDocuments : List (String × Node) → List (String × Document)
  | [] => []
  | (key, node) :: rest => (key, node.document) :: entryDocuments rest

def elementDocuments : List (List (String × Node)) → List Document
  | [] => []
  | entries :: rest => .table (entryDocuments entries) :: elementDocuments rest

end

end RetailMarket.Toml
