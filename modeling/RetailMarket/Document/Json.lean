import RetailMarket.Document.Value
import RetailMarket.Number.Nearest

/-!
# Reading JSON

Every reader takes a bound of its recursion. An integer is a number written with digits alone that
fits 64 bits; of two fields with one key the later counts.
-/

namespace RetailMarket.Json

def isSpace (c : Char) : Bool := c == ' ' || c == '\t' || c == '\n' || c == '\r'

def dropSpace (text : List Char) : List Char := text.dropWhile isSpace

/-! ## Numbers -/

def isNumeric (c : Char) : Bool :=
  c.isDigit || c == '+' || c == '-' || c == '.' || c == 'e' || c == 'E'

def digits? (text : List Char) : Option (List Nat) :=
  if text.isEmpty || !text.all Char.isDigit then none else some (text.map digitValue)

def exponent? : List Char → Option Int
  | '-' :: digits => (digits? digits).map fun ds => -(ofDigits 10 ds : Int)
  | '+' :: digits => (digits? digits).map fun ds => (ofDigits 10 ds : Int)
  | digits => (digits? digits).map fun ds => (ofDigits 10 ds : Int)

/-- A number with its sign; one too large to be represented is refused. -/
def finite? (negative : Bool) (magnitude : Float) : Option Document :=
  if magnitude == 1.0 / 0.0 then none
  else some (.number (if negative then -magnitude else magnitude))

/-- A whole number that does not fit 64 bits, and the negative zero, are not integers. -/
def whole? (negative : Bool) (digits : List Nat) : Option Document :=
  let magnitude := ofDigits 10 digits
  if negative then
    if 0 < magnitude ∧ magnitude ≤ Nat.pow 2 63 then some (.integer (-(magnitude : Int)))
    else finite? negative (nearestNumber digits 0)
  else if magnitude < UInt64.size then some (.integer magnitude)
  else finite? negative (nearestNumber digits 0)

def number? (text : List Char) : Option Document := do
  let (negative, unsigned) := match text with
    | '-' :: rest => (true, rest)
    | rest => (false, rest)
  let (mantissa, mark) := unsigned.span fun c => c != 'e' && c != 'E'
  let (first, point) := mantissa.span (· != '.')
  let wholeDigits ← digits? first
  if 1 < first.length ∧ first.head? = some '0' then none
  else if point.isEmpty ∧ mark.isEmpty then whole? negative wholeDigits
  else
    let fraction ← if point.isEmpty then some [] else digits? (point.drop 1)
    let exponent ← if mark.isEmpty then some 0 else exponent? (mark.drop 1)
    finite? negative (nearestNumber (wholeDigits ++ fraction) (exponent - fraction.length))

/-! ## Strings -/

def unit? (digits : List Char) : Option Nat :=
  if digits.all fun c => decide (digitValue c < 16) then
    some (ofDigits 16 (digits.map digitValue))
  else none

def character? (first : Nat) (second : Option Nat) : Option Char :=
  let code := match second with
    | some low => 0x10000 + (first - 0xd800) * 0x400 + (low - 0xdc00)
    | none => first
  if h : code.isValidChar then some (Char.ofNatAux code h) else none

def simpleEscape? : Char → Option Char
  | '"' => some '"'
  | '\\' => some '\\'
  | '/' => some '/'
  | 'b' => some '\x08'
  | 'f' => some '\x0c'
  | 'n' => some '\n'
  | 'r' => some '\r'
  | 't' => some '\t'
  | _ => none

def escape? : List Char → Option (Char × List Char)
  | 'u' :: a :: b :: c :: d :: rest => do
    let first ← unit? [a, b, c, d]
    if 0xd800 ≤ first ∧ first < 0xdc00 then
      match rest with
      | '\\' :: 'u' :: e :: f :: g :: h :: rest =>
        let second ← unit? [e, f, g, h]
        if 0xdc00 ≤ second ∧ second < 0xe000 then
          (character? first (some second)).map (·, rest)
        else none
      | _ => none
    else (character? first none).map (·, rest)
  | c :: rest => (simpleEscape? c).map (·, rest)
  | [] => none

def string? : (fuel : Nat) → (read : List Char) → List Char → Option (String × List Char)
  | 0, _, _ => none
  | _, _, [] => none
  | _, read, '"' :: rest => some (String.ofList read.reverse, rest)
  | fuel + 1, read, '\\' :: rest =>
    (escape? rest).bind fun (c, rest) => string? fuel (c :: read) rest
  | fuel + 1, read, c :: rest => if ' ' ≤ c then string? fuel (c :: read) rest else none

/-! ## Values -/

mutual

def value? : (fuel : Nat) → List Char → Option (Document × List Char)
  | 0, _ => none
  | fuel + 1, text =>
    match dropSpace text with
    | '"' :: rest =>
      (string? (rest.length + 1) [] rest).map fun (text, rest) => (.text text, rest)
    | '[' :: rest =>
      match dropSpace rest with
      | ']' :: rest => some (.list [], rest)
      | rest => elements? fuel [] rest
    | '\x7b' :: rest =>
      match dropSpace rest with
      | '\x7d' :: rest => some (.table [], rest)
      | rest => fields? fuel [] rest
    | 't' :: 'r' :: 'u' :: 'e' :: rest => some (.boolean true, rest)
    | 'f' :: 'a' :: 'l' :: 's' :: 'e' :: rest => some (.boolean false, rest)
    | 'n' :: 'u' :: 'l' :: 'l' :: rest => some (.null, rest)
    | rest =>
      let (number, rest) := rest.span isNumeric
      (number? number).map (·, rest)

def elements? : (fuel : Nat) → (read : List Document) → List Char → Option (Document × List Char)
  | 0, _, _ => none
  | fuel + 1, read, text => do
    let (value, rest) ← value? fuel text
    match dropSpace rest with
    | ']' :: rest => some (.list (value :: read).reverse, rest)
    | ',' :: rest => elements? fuel (value :: read) rest
    | _ => none

def fields? : (fuel : Nat) → (read : List (String × Document)) → List Char →
    Option (Document × List Char)
  | 0, _, _ => none
  | fuel + 1, read, text =>
    match dropSpace text with
    | '"' :: rest => do
      let (key, rest) ← string? (rest.length + 1) [] rest
      match dropSpace rest with
      | ':' :: rest =>
        let (value, rest) ← value? fuel rest
        let read := (key, value) :: read.filter fun field => field.1 != key
        match dropSpace rest with
        | '\x7d' :: rest => some (.table read.reverse, rest)
        | ',' :: rest => fields? fuel read rest
        | _ => none
      | _ => none
    | _ => none

end

def read (text : String) : Option Document := do
  let characters := text.toList
  let (value, rest) ← value? (characters.length + 1) characters
  if (dropSpace rest).isEmpty then some value else none

end RetailMarket.Json
