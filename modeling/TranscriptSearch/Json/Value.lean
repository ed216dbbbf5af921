import TranscriptSearch.Number.Binary64

namespace TranscriptSearch.Json

/-- A number: whole if it was written without fraction and exponent and fits 64 bits. -/
inductive Number where
  | int (value : Int)
  | float (value : Binary64)
deriving DecidableEq

/-- A JSON value. -/
inductive Value where
  | null
  | bool (value : Bool)
  | number (value : Number)
  | string (text : String)
  | array (items : List Value)
  | object (members : List (String × Value))
deriving Inhabited

namespace Value

/-- The member of an object with the given key.  Any other value has no members. -/
def member? (key : String) : Value → Option Value
  | object members => members.lookup key
  | _ => none

def string? : Value → Option String
  | string text => some text
  | _ => none

def items? : Value → Option (List Value)
  | array items => some items
  | _ => none

def bool? : Value → Option Bool
  | bool value => some value
  | _ => none

def nat? : Value → Option Nat
  | number (.int (.ofNat n)) => some n
  | _ => none

end Value

/-- The order of keys: by their bytes, which for UTF-8 is the order of their code points. -/
def keyLt (a b : String) : Bool :=
  a.toList < b.toList

/-- Sorted members with one more, which replaces a member of the same key. -/
def insertMember (key : String) (value : Value) : List (String × Value) → List (String × Value)
  | [] => [(key, value)]
  | (other, held) :: rest =>
    if keyLt key other then (key, value) :: (other, held) :: rest
    else if key = other then (key, value) :: rest
    else (other, held) :: insertMember key value rest

end TranscriptSearch.Json
