import Acceptance.Decimal.Binary64

/-!
# JSON values

Values of the JSON data format and their compact text. Members of an object keep their order and
their duplicates, so that a reader may tell them apart; the compact text shows the last member of
each name, sorted by name. A text may be in the format and yet ask for what no value can hold, such as
a number beyond all bounds; it matters only where the value is used.
-/

namespace Acceptance

/-- A JSON value. Numbers that are written as integers of at most 64 bits are kept apart from all
others. What is in the format but stands for no value is improper. -/
inductive Json
  | null
  | bool (value : Bool)
  | integer (value : Int)
  | number (value : Binary64)
  | string (text : String)
  | array (items : List Json)
  | object (members : List (String × Json))
  | improper
deriving Inhabited

namespace Json

/-- Two hexadecimal digits of a control character. -/
def hexPair (n : Nat) : List Char := [Nat.digitChar (n / 16), Nat.digitChar (n % 16)]

/-- How a character is written between quotes. -/
def escapeChar (c : Char) : List Char :=
  if c == '"' then ['\\', '"']
  else if c == '\\' then ['\\', '\\']
  else if c == '\n' then ['\\', 'n']
  else if c == '\r' then ['\\', 'r']
  else if c == '\t' then ['\\', 't']
  else if c.toNat == 8 then ['\\', 'b']
  else if c.toNat == 12 then ['\\', 'f']
  else if c.toNat < 0x20 then ['\\', 'u', '0', '0'] ++ hexPair c.toNat
  else [c]

/-- A text between quotes. -/
def quote (text : String) : String :=
  String.ofList ('"' :: (text.toList.flatMap escapeChar ++ ['"']))

/-- Sets a member in a list of members that is sorted by name. -/
def insertMember {α : Type} (name : String) (value : α) : List (String × α) → List (String × α)
  | [] => [(name, value)]
  | (other, old) :: rest =>
    if name < other then (name, value) :: (other, old) :: rest
    else if name = other then (name, value) :: rest
    else (other, old) :: insertMember name value rest

/-- The last member of each name, sorted by name. -/
def sortMembers {α : Type} (members : List (String × α)) : List (String × α) :=
  members.foldl (fun sorted member => insertMember member.1 member.2 sorted) []

mutual

/-- The text of a value without blanks between its parts. -/
def compact : Json → String
  | null => "null"
  | bool true => "true"
  | bool false => "false"
  | integer value => toString value
  | number value => value.toScientificText
  | string text => quote text
  | array items => "[" ++ ",".intercalate (compactItems items) ++ "]"
  | object members =>
    "\x7b" ++
      ",".intercalate ((sortMembers (compactMembers members)).map fun member =>
        quote member.1 ++ ":" ++ member.2) ++
      "\x7d"
  | improper => "null"

/-- The texts of the items of an array. -/
def compactItems : List Json → List String
  | [] => []
  | item :: rest => item.compact :: compactItems rest

/-- The names and texts of the members of an object. -/
def compactMembers : List (String × Json) → List (String × String)
  | [] => []
  | (name, value) :: rest => (name, value.compact) :: compactMembers rest

end

mutual

/-- Whether nothing in a value is improper and its arrays and objects nest at most `depth` levels
deep. -/
def isProper (depth : Nat) : Json → Bool
  | improper => false
  | array items =>
    match depth with
    | 0 => false
    | depth + 1 => areProper depth items
  | object members =>
    match depth with
    | 0 => false
    | depth + 1 => membersProper depth members
  | _ => true

/-- Whether all of some values are proper. -/
def areProper (depth : Nat) : List Json → Bool
  | [] => true
  | item :: rest => item.isProper depth && areProper depth rest

/-- Whether all values of some members are proper. -/
def membersProper (depth : Nat) : List (String × Json) → Bool
  | [] => true
  | (_, value) :: rest => value.isProper depth && membersProper depth rest

end

end Json

end Acceptance
