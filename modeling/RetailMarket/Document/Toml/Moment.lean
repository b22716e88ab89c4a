import RetailMarket.Number.Nearest

/-!
# Dates and times of a TOML document

A moment is a date, a time of day, or a date with a time of day, which may then have an offset. The
readers check every part against the calendar and return the text that is left.
-/

namespace RetailMarket.Toml

/-! ## Parts -/

def digitsOf? (count : Nat) (text : List Char) : Option (Nat × List Char) :=
  let digits := text.take count
  if digits.length = count ∧ digits.all Char.isDigit then
    some (ofDigits 10 (digits.map digitValue), text.drop count)
  else none

def pairWithin? (least greatest : Nat) (text : List Char) : Option (Nat × List Char) := do
  let (number, rest) ← digitsOf? 2 text
  if least ≤ number ∧ number ≤ greatest then some (number, rest) else none

def drop? (c : Char) : List Char → Option (List Char)
  | [] => none
  | first :: rest => if first = c then some rest else none

/-! ## Dates -/

def isLeapYear (year : Nat) : Bool := year % 4 == 0 && (year % 100 != 0 || year % 400 == 0)

def daysIn (year month : Nat) : Nat :=
  if month = 2 then if isLeapYear year then 29 else 28
  else if month = 4 ∨ month = 6 ∨ month = 9 ∨ month = 11 then 30
  else 31

def date? (text : List Char) : Option (List Char) := do
  let (year, rest) ← digitsOf? 4 text
  let (month, rest) ← pairWithin? 1 12 (← drop? '-' rest)
  let (_, rest) ← pairWithin? 1 (daysIn year month) (← drop? '-' rest)
  some rest

/-! ## Times -/

def clock? (text : List Char) : Option (List Char) := do
  let (_, rest) ← pairWithin? 0 23 text
  let (_, rest) ← pairWithin? 0 59 (← drop? ':' rest)
  some rest

/-- A time of day. There may be a leap second and a fraction of a second. -/
def time? (text : List Char) : Option (List Char) := do
  let (_, rest) ← pairWithin? 0 60 (← drop? ':' (← clock? text))
  match rest with
  | '.' :: digit :: fraction =>
    some (if digit.isDigit then fraction.dropWhile Char.isDigit else rest)
  | _ => some rest

def offset? : List Char → Option (List Char)
  | 'Z' :: rest | 'z' :: rest => some rest
  | '+' :: rest | '-' :: rest => clock? rest
  | _ => none

/-! ## Moments -/

def isTimeMark (c : Char) : Bool := c == 'T' || c == 't' || c == ' '

/-- The text after a moment. A date stands alone unless a time follows its mark. -/
def moment? (text : List Char) : Option (List Char) :=
  match date? text with
  | none => time? text
  | some [] => some []
  | some (mark :: rest) =>
    match if isTimeMark mark then time? rest else none with
    | none => some (mark :: rest)
    | some after => some ((offset? after).getD after)

end RetailMarket.Toml
