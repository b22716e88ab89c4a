import RetailMarket.Document.Value
import RetailMarket.Number.Nearest

/-!
# Scalars of a TOML document

Numbers and truth values are written without quotes and read from the whole run of characters they
could be made of. Strings come in a basic and a literal form, each on one line or on several.
-/

namespace RetailMarket.Toml

/-! ## Characters -/

def isBlank (c : Char) : Bool := c == ' ' || c == '\t'

/-- Characters that may stand in a comment or a string: the tab and all but control characters. -/
def isPlain (c : Char) : Bool := c == '\t' || (decide (' ' ≤ c) && c != '\x7f')

def isBareKey (c : Char) : Bool := c.isAlphanum || c == '_' || c == '-'

def isScalar (c : Char) : Bool := isBareKey c || c == '+' || c == '.' || c == ':'

def dropLineEnd? : List Char → Option (List Char)
  | '\n' :: rest => some rest
  | '\r' :: '\n' :: rest => some rest
  | _ => none

def dropBlanks (text : List Char) : List Char := text.dropWhile isBlank

/-! ## Numbers -/

/-- The digits of a number in a base, which single underscores may separate. -/
def digits? (base : Nat) : List Char → Option (List Nat)
  | [] => none
  | [c] => if digitValue c < base then some [digitValue c] else none
  | c :: '_' :: rest =>
    if digitValue c < base then (digits? base rest).map (digitValue c :: ·) else none
  | c :: rest =>
    if digitValue c < base then (digits? base rest).map (digitValue c :: ·) else none

/-- Digits without a leading zero, but for zero itself. -/
def leadingDigits? (text : List Char) : Option (List Nat) :=
  match text with
  | ['0'] => some [0]
  | '0' :: _ => none
  | _ => digits? 10 text

def splitSign : List Char → Bool × List Char
  | '-' :: rest => (true, rest)
  | '+' :: rest => (false, rest)
  | text => (false, text)

/-- Integers are signed 64-bit numbers. -/
def boundedInteger (value : Int) : Option Document :=
  if Int64.minValue.toInt ≤ value ∧ value ≤ Int64.maxValue.toInt then some (.integer value) else none

def integer? (text : List Char) : Option Document :=
  match text with
  | '0' :: 'x' :: rest => (digits? 16 rest).bind fun ds => boundedInteger (ofDigits 16 ds)
  | '0' :: 'o' :: rest => (digits? 8 rest).bind fun ds => boundedInteger (ofDigits 8 ds)
  | '0' :: 'b' :: rest => (digits? 2 rest).bind fun ds => boundedInteger (ofDigits 2 ds)
  | _ =>
    let (negative, digits) := splitSign text
    (leadingDigits? digits).bind fun ds =>
      let value : Int := ofDigits 10 ds
      boundedInteger (if negative then -value else value)

def exponent? (text : List Char) : Option Int :=
  let (negative, digits) := splitSign text
  (digits? 10 digits).map fun ds =>
    let value : Int := ofDigits 10 ds
    if negative then -value else value

/-- A number with a fraction, an exponent or both. One too large to be represented is refused,
unless it is negative. -/
def float? (text : List Char) : Option Document :=
  let (negative, unsigned) := splitSign text
  let isMark (c : Char) : Bool := c == 'e' || c == 'E'
  let (mantissa, mark) := unsigned.span fun c => !isMark c
  let (whole, point) := mantissa.span (· != '.')
  if point.isEmpty && mark.isEmpty then none
  else do
    let wholeDigits ← leadingDigits? whole
    let fraction ← if point.isEmpty then some [] else digits? 10 (point.drop 1)
    let exponent ← if mark.isEmpty then some 0 else exponent? (mark.drop 1)
    let value := nearestNumber (wholeDigits ++ fraction) (exponent - fraction.length)
    let signed := if negative then -value else value
    if signed == 1.0 / 0.0 then none else some (.number signed)

def special? (text : List Char) : Option Document :=
  let (negative, name) := splitSign text
  if name = ['i', 'n', 'f'] then
    some (.number (if negative then -1.0 / 0.0 else 1.0 / 0.0))
  else if name = ['n', 'a', 'n'] then some (.number (0.0 / 0.0))
  else none

def boolean? (text : List Char) : Option Document :=
  if text = ['t', 'r', 'u', 'e'] then some (.boolean true)
  else if text = ['f', 'a', 'l', 's', 'e'] then some (.boolean false)
  else none

def scalar? (text : List Char) : Option Document :=
  (boolean? text).orElse fun _ =>
    (special? text).orElse fun _ => (float? text).orElse fun _ => integer? text

/-! ## Strings -/

def character? (digits : List Char) : Option Char :=
  if digits.all fun c => decide (digitValue c < 16) then
    let code := ofDigits 16 (digits.map digitValue)
    if h : code.isValidChar then some (Char.ofNatAux code h) else none
  else none

def simpleEscape? : Char → Option Char
  | 'b' => some '\x08'
  | 't' => some '\t'
  | 'n' => some '\n'
  | 'f' => some '\x0c'
  | 'r' => some '\r'
  | '"' => some '"'
  | '\\' => some '\\'
  | _ => none

def escape? : List Char → Option (Char × List Char)
  | 'u' :: a :: b :: c :: d :: rest => (character? [a, b, c, d]).map (·, rest)
  | 'U' :: a :: b :: c :: d :: e :: f :: g :: h :: rest =>
    (character? [a, b, c, d, e, f, g, h]).map (·, rest)
  | c :: rest => (simpleEscape? c).map (·, rest)
  | [] => none

def prepend (c : Char) (read : Option (List Char × List Char)) : Option (List Char × List Char) :=
  read.map fun (text, rest) => (c :: text, rest)

def basic? : (fuel : Nat) → List Char → Option (List Char × List Char)
  | 0, _ => none
  | _, [] => none
  | _, '"' :: rest => some ([], rest)
  | fuel + 1, '\\' :: rest => (escape? rest).bind fun (c, rest) => prepend c (basic? fuel rest)
  | fuel + 1, c :: rest => if isPlain c then prepend c (basic? fuel rest) else none

def literal? : List Char → Option (List Char × List Char)
  | [] => none
  | '\x27' :: rest => some ([], rest)
  | c :: rest => if isPlain c then prepend c (literal? rest) else none

/-- The end of a string of several lines: three quotes, which up to two quotes of the string may
precede. -/
def closing? (quote : Char) (text : List Char) : Option (List Char × List Char) :=
  match text with
  | a :: b :: c :: rest =>
    if a = quote ∧ b = quote ∧ c = quote then
      match rest with
      | d :: e :: after =>
        if d = quote ∧ e = quote then some ([quote, quote], after)
        else if d = quote then some ([quote], e :: after)
        else some ([], rest)
      | [d] => if d = quote then some ([quote], []) else some ([], rest)
      | [] => some ([], rest)
    else none
  | _ => none

def lineEndsHere (text : List Char) : Bool := (dropLineEnd? (dropBlanks text)).isSome

/-- The rest of a basic string of several lines. After a backslash at the end of a line, blanks and
line ends are skipped. -/
def basicLines? : (fuel : Nat) → (skipping : Bool) → List Char → Option (List Char × List Char)
  | 0, _, _ => none
  | _, _, [] => none
  | fuel + 1, skipping, c :: rest =>
    match closing? '"' (c :: rest) with
    | some closed => some closed
    | none =>
      match dropLineEnd? (c :: rest) with
      | some after =>
        if skipping then basicLines? fuel true after else prepend '\n' (basicLines? fuel false after)
      | none =>
        if skipping && isBlank c then basicLines? fuel true rest
        else if c = '\\' then
          if lineEndsHere rest then basicLines? fuel true rest
          else (escape? rest).bind fun (c, rest) => prepend c (basicLines? fuel false rest)
        else if isPlain c then prepend c (basicLines? fuel false rest)
        else none

def literalLines? : (fuel : Nat) → List Char → Option (List Char × List Char)
  | 0, _ => none
  | _, [] => none
  | fuel + 1, c :: rest =>
    match closing? '\x27' (c :: rest) with
    | some closed => some closed
    | none =>
      match dropLineEnd? (c :: rest) with
      | some after => prepend '\n' (literalLines? fuel after)
      | none => if isPlain c then prepend c (literalLines? fuel rest) else none

/-- A line end right after the opening quotes does not belong to the string. -/
def dropFirstLineEnd (text : List Char) : List Char := (dropLineEnd? text).getD text

def lineString? : List Char → Option (List Char × List Char)
  | '"' :: rest => basic? (rest.length + 1) rest
  | '\x27' :: rest => literal? rest
  | _ => none

def string? (text : List Char) : Option (List Char × List Char) :=
  match text with
  | '"' :: '"' :: '"' :: rest => basicLines? (rest.length + 1) false (dropFirstLineEnd rest)
  | '\x27' :: '\x27' :: '\x27' :: rest => literalLines? (rest.length + 1) (dropFirstLineEnd rest)
  | _ => lineString? text

end RetailMarket.Toml
