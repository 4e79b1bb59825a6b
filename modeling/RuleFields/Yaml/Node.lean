-- YAML documents of texts, lists and mappings, in block style: one item or
-- member a line, two more spaces for each level, and the items of a list not
-- indented below its key.
import RuleFields.Yaml.Scalar

namespace RuleFields.Yaml

inductive Node where
  | text (s : String)
  | sequence (items : List Node)
  | mapping (members : List (String × Node))

/-- The end of a line, unless the text has ended it. -/
def endLine (written : List Char) : List Char :=
  if written.getLast?.any isBreak then written else written ++ ['\n']

namespace Node

mutual

/-- What stands after a key in column `col`, to the end of the line or of the lines below. -/
def writeValue (col : Nat) : Node → List Char
  | text s => ' ' :: endLine (writeText (col + 2) s)
  | sequence [] => [' ', '[', ']', '\n']
  | sequence items => '\n' :: writeItems col items
  | mapping [] => [' ', '\x7b', '\x7d', '\n']
  | mapping members => '\n' :: writeMembers (col + 2) members

/-- What stands after the dash of an item in column `col`. -/
def writeItem (col : Nat) : Node → List Char
  | text s => endLine (writeText (col + 2) s)
  | sequence [] => ['[', ']', '\n']
  | sequence (x :: rest) => '-' :: ' ' :: writeItem (col + 2) x ++ writeItems (col + 2) rest
  | mapping [] => ['\x7b', '\x7d', '\n']
  | mapping ((k, x) :: rest) =>
    writeText (col + 2) k ++ ':' :: writeValue (col + 2) x ++ writeMembers (col + 2) rest

def writeItems (col : Nat) : List Node → List Char
  | [] => []
  | x :: rest => indentation col ++ '-' :: ' ' :: writeItem col x ++ writeItems col rest

def writeMembers (col : Nat) : List (String × Node) → List Char
  | [] => []
  | (k, x) :: rest =>
    indentation col ++ writeText col k ++ ':' :: writeValue col x ++ writeMembers col rest

end

/-- The text of a document that is a list. -/
def document (items : List Node) : String :=
  String.ofList (if items.isEmpty then ['[', ']', '\n'] else writeItems 0 items)

end Node

end RuleFields.Yaml
