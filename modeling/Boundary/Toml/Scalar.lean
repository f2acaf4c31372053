import Boundary.Toml.Draft

/-!
Scalars without quotes: flags, integers, floats, dates and times. Each is one unbroken run of
characters that fits its form as a whole.
-/

namespace Boundary.Toml

def isDecimal (char : Char) : Bool := decide ('0' ≤ char) && decide (char ≤ '9')

def isOctal (char : Char) : Bool := decide ('0' ≤ char) && decide (char ≤ '7')

def isBinary (char : Char) : Bool := char == '0' || char == '1'

def isHexadecimal (char : Char) : Bool :=
  isDecimal char || (decide ('a' ≤ char) && decide (char ≤ 'f')) ||
    (decide ('A' ≤ char) && decide (char ≤ 'F'))

def isAsciiLetter (char : Char) : Bool :=
  (decide ('a' ≤ char) && decide (char ≤ 'z')) || (decide ('A' ≤ char) && decide (char ≤ 'Z'))

def isScalarChar (char : Char) : Bool :=
  isDecimal char || isAsciiLetter char || ['_', '+', '-', '.', ':'].contains char

def isGrouped (digit : Char → Bool) : List Char → Bool
  | [] => false
  | [char] => digit char
  | char :: '_' :: rest => digit char && isGrouped digit rest
  | char :: rest => digit char && isGrouped digit rest

def digitValue (char : Char) : Nat :=
  if isDecimal char then char.toNat - '0'.toNat
  else if 'a' ≤ char then char.toNat - 'a'.toNat + 10
  else char.toNat - 'A'.toNat + 10

def numberOf (base : Nat) (digits : List Char) : Nat :=
  (digits.filter (· != '_')).foldl (fun total digit => total * base + digitValue digit) 0

def splitSign : List Char → Bool × List Char
  | '-' :: rest => (true, rest)
  | '+' :: rest => (false, rest)
  | text => (false, text)

def isPlainDecimal (text : List Char) : Bool :=
  isGrouped isDecimal text && (text.head? != some '0' || text.length == 1)

def inRange (value : Int) : Option Draft :=
  if Int64.minValue.toInt ≤ value ∧ value ≤ Int64.maxValue.toInt then some (.integer value) else none

def basedInteger? (digit : Char → Bool) (base : Nat) (digits : List Char) : Option Draft :=
  if isGrouped digit digits then inRange (numberOf base digits) else none

def integer? : List Char → Option Draft
  | '0' :: 'x' :: digits => basedInteger? isHexadecimal 16 digits
  | '0' :: 'o' :: digits => basedInteger? isOctal 8 digits
  | '0' :: 'b' :: digits => basedInteger? isBinary 2 digits
  | text =>
    let (negative, digits) := splitSign text
    if isPlainDecimal digits then
      let magnitude : Int := numberOf 10 digits
      inRange (if negative then -magnitude else magnitude)
    else
      none

def isFinite (digits : Nat) (exponent : Int) : Bool :=
  let places : Int := (Nat.toDigits 10 digits).length + exponent
  if digits = 0 ∨ places < 300 then true
  else if 310 < places then false
  else
    let limit := 0x3fffffffffffff <<< 970
    if 0 ≤ exponent then decide (digits * Nat.pow 10 exponent.toNat < limit)
    else decide (digits < limit * Nat.pow 10 (-exponent).toNat)

def exponent? (text : List Char) : Option Int :=
  let (negative, digits) := splitSign text
  if isGrouped isDecimal digits then
    let magnitude : Int := numberOf 10 digits
    some (if negative then -magnitude else magnitude)
  else
    none

def floatParts? (text : List Char) : Option (List Char × Int) :=
  let isMark (char : Char) : Bool := char == 'e' || char == 'E'
  let mantissa := text.takeWhile fun char => !isMark char
  let whole := mantissa.takeWhile (· != '.')
  let exponent :=
    match text.dropWhile fun char => !isMark char with
    | [] => some 0
    | _ :: rest => exponent? rest
  match mantissa.dropWhile (· != '.') with
  | [] =>
    if isPlainDecimal whole && text.any isMark then
      exponent.map fun exponent => (whole, exponent)
    else
      none
  | _ :: fraction =>
    if isPlainDecimal whole && isGrouped isDecimal fraction then
      exponent.map fun exponent =>
        (whole ++ fraction, exponent - (fraction.filter (· != '_')).length)
    else
      none

def float? (text : List Char) : Option Draft :=
  let (negative, body) := splitSign text
  let node := Draft.float (String.ofList text)
  if body = "inf".toList ∨ body = "nan".toList then some node
  else
    match floatParts? body with
    | none => none
    | some (digits, exponent) =>
      if negative || isFinite (numberOf 10 digits) exponent then some node else none

def pair? (low high : Nat) (tens ones : Char) : Option Nat :=
  if isDecimal tens && isDecimal ones then
    let value := numberOf 10 [tens, ones]
    if low ≤ value ∧ value ≤ high then some value else none
  else
    none

def isLeapYear (year : Nat) : Bool :=
  year % 4 == 0 && (year % 100 != 0 || year % 400 == 0)

def daysInMonth (year month : Nat) : Nat :=
  if month = 2 then (if isLeapYear year then 29 else 28)
  else if month = 4 ∨ month = 6 ∨ month = 9 ∨ month = 11 then 30
  else 31

def afterDate? : List Char → Option (List Char)
  | a :: b :: c :: d :: '-' :: e :: f :: '-' :: g :: h :: rest => do
    let year ← if [a, b, c, d].all isDecimal then some (numberOf 10 [a, b, c, d]) else none
    let month ← pair? 1 12 e f
    let _ ← pair? 1 (daysInMonth year month) g h
    some rest
  | _ => none

def afterFraction : List Char → List Char
  | '.' :: digit :: rest =>
    if isDecimal digit then rest.dropWhile isDecimal else '.' :: digit :: rest
  | text => text

def afterTime? : List Char → Option (List Char)
  | a :: b :: ':' :: c :: d :: ':' :: e :: f :: rest => do
    let _ ← pair? 0 23 a b
    let _ ← pair? 0 59 c d
    let _ ← pair? 0 60 e f
    some (afterFraction rest)
  | _ => none

def isOffset : List Char → Bool
  | [] => true
  | ['Z'] => true
  | ['z'] => true
  | [sign, a, b, ':', c, d] =>
    (sign == '+' || sign == '-') && (pair? 0 23 a b).isSome && (pair? 0 59 c d).isSome
  | _ => false

def isTimeWithOffset (text : List Char) : Bool :=
  match afterTime? text with
  | some rest => isOffset rest
  | none => false

def isDate (text : List Char) : Bool := afterDate? text == some []

def isMoment (text : List Char) : Bool :=
  match afterDate? text with
  | some [] => true
  | some (mark :: rest) => (mark == 'T' || mark == 't') && isTimeWithOffset rest
  | none => afterTime? text == some []

def scalar? (text : List Char) : Option Draft :=
  if text = "true".toList then some (.boolean true)
  else if text = "false".toList then some (.boolean false)
  else if isMoment text then some (.moment (String.ofList text))
  else (integer? text).orElse fun _ => float? text

end Boundary.Toml
