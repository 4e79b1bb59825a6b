-- JSON values and their compact text: no blanks, members in the order in
-- which they stand, and only those characters escaped that must be.
import RuleFields.Json.Number
import RuleFields.SortedMap

namespace RuleFields

/-- A JSON value. -/
inductive Json where
  | null
  | bool (b : Bool)
  | number (n : Json.Number)
  | string (s : String)
  | array (items : List Json)
  | object (members : List (String × Json))

namespace Json

/-- An object with its keys in ascending order. Of two members with one key the later counts. -/
def ofMembers (members : List (String × Json)) : Json := .object (SortedMap.ofList members).entries

/-- The text of a value that is a text. -/
def string? : Json → Option String
  | string s => some s
  | _ => none

theorem mem_filterMap_string?_iff {items : List Json} {s : String} :
    s ∈ items.filterMap string? ↔ string s ∈ items := by
  rw [List.mem_filterMap]
  refine ⟨?_, fun h => ⟨_, h, rfl⟩⟩
  rintro ⟨j, hj, hs⟩
  cases j <;> cases hs
  exact hj

/-! ## The compact text -/

/-- A digit of base sixteen, in lower case. -/
def hexDigit (n : Nat) : Char := Nat.digitChar (n % 16)

/-- How a character stands inside quotes. -/
def escapeChar (c : Char) : List Char :=
  if c = '"' then ['\\', '"']
  else if c = '\\' then ['\\', '\\']
  else if c = '\x08' then ['\\', 'b']
  else if c = '\x0c' then ['\\', 'f']
  else if c = '\n' then ['\\', 'n']
  else if c = '\r' then ['\\', 'r']
  else if c = '\t' then ['\\', 't']
  else if c.toNat < 0x20 then ['\\', 'u', '0', '0', hexDigit (c.toNat / 16), hexDigit c.toNat]
  else [c]

/-- A text in quotes. -/
def writeString (s : String) : List Char := '"' :: s.toList.flatMap escapeChar ++ ['"']

mutual

/-- The compact text of a value. -/
def write : Json → List Char
  | null => ['n', 'u', 'l', 'l']
  | bool true => ['t', 'r', 'u', 'e']
  | bool false => ['f', 'a', 'l', 's', 'e']
  | number n => n.write
  | string s => writeString s
  | array [] => ['[', ']']
  | array (x :: rest) => '[' :: write x ++ writeItems rest
  | object [] => ['\x7b', '\x7d']
  | object ((k, x) :: rest) => '\x7b' :: writeString k ++ ':' :: write x ++ writeMembers rest

/-- The items after the first, and the end of the list. -/
def writeItems : List Json → List Char
  | [] => [']']
  | x :: rest => ',' :: write x ++ writeItems rest

/-- The members after the first, and the end of the object. -/
def writeMembers : List (String × Json) → List Char
  | [] => ['\x7d']
  | (k, x) :: rest => ',' :: writeString k ++ ':' :: write x ++ writeMembers rest

end

/-- The compact text of a value. -/
def compact (j : Json) : String := String.ofList j.write

end Json

end RuleFields
