import TranscriptSearch.Number.Shortest
import TranscriptSearch.Json.Value

namespace TranscriptSearch.Json

/-- The lower-case hexadecimal digit of a number below sixteen. -/
def hexDigit (n : Nat) : Char :=
  "0123456789abcdef".toList.getD n '0'

/-- A character as it stands in a string.  Quote, backslash and the first 32 characters are
escaped, all others stand for themselves. -/
def escapeChar (c : Char) : List Char :=
  match c with
  | '"' => ['\\', '"']
  | '\\' => ['\\', '\\']
  | '\x08' => ['\\', 'b']
  | '\t' => ['\\', 't']
  | '\n' => ['\\', 'n']
  | '\x0c' => ['\\', 'f']
  | '\r' => ['\\', 'r']
  | _ =>
    if c.toNat < 0x20 then ['\\', 'u', '0', '0', hexDigit (c.toNat / 16), hexDigit (c.toNat % 16)]
    else [c]

def printString (text : String) : String :=
  .ofList ('"' :: text.toList.flatMap escapeChar ++ ['"'])

def digitsOf (n : Nat) : List Char :=
  Nat.toDigits 10 n

/-- A floating-point number.  It is written in full, with at least one digit on each side of the
point, from a hundred-thousandth up to ten to the sixteenth, and with an exponent outside that
range. -/
def printFloat (x : Binary64) : String :=
  let sign := if x.negative then ['-'] else []
  let body : List Char :=
    if x.isZero then ['0', '.', '0']
    else
      let decimal := x.shortest
      let digits := digitsOf decimal.digits
      let point : Int := digits.length + decimal.exponent
      if 0 < point ∧ point ≤ 16 then
        let whole := point.toNat
        if digits.length ≤ whole then
          digits ++ List.replicate (whole - digits.length) '0' ++ ['.', '0']
        else digits.take whole ++ '.' :: digits.drop whole
      else if -5 < point ∧ point ≤ 0 then
        ['0', '.'] ++ List.replicate (-point).toNat '0' ++ digits
      else
        let fraction := if digits.length = 1 then [] else '.' :: digits.drop 1
        let power := point - 1
        let powerSign := if power < 0 then '-' else '+'
        digits.take 1 ++ fraction ++ ['e', powerSign] ++ digitsOf power.natAbs
  .ofList (sign ++ body)

def printNumber : Number → String
  | .int value => toString value
  | .float value => printFloat value

mutual

def Value.print : Value → String
  | .null => "null"
  | .bool true => "true"
  | .bool false => "false"
  | .number value => printNumber value
  | .string text => printString text
  | .array [] => "[]"
  | .array (item :: items) => "[" ++ item.print ++ printItems items ++ "]"
  | .object [] => "\x7b\x7d"
  | .object (member :: members) =>
    "\x7b" ++ printString member.1 ++ ":" ++ member.2.print ++ printMembers members ++ "\x7d"

/-- The items of an array after the first, each with the comma before it. -/
def printItems : List Value → String
  | [] => ""
  | item :: items => "," ++ item.print ++ printItems items

/-- The members of an object after the first, each with the comma before it. -/
def printMembers : List (String × Value) → String
  | [] => ""
  | member :: members =>
    "," ++ printString member.1 ++ ":" ++ member.2.print ++ printMembers members

end

end TranscriptSearch.Json
