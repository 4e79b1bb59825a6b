-- JSON documents: a text as it is written, with the members of its objects in
-- order and with every repetition. A document is read off the tokens by a
-- machine with a stack of what is still open.
import RuleFields.Json.Token

namespace RuleFields.Json

/-- A document. A number or a text that no value can hold is `none`. -/
inductive Doc where
  | null
  | bool (b : Bool)
  | number (n : Option Number)
  | string (s : Option String)
  | array (items : List Doc)
  | object (members : List (Option String × Doc))

namespace Doc

/-! ## The machine -/

/-- What is open around the next value. What was read of it stands last part first. -/
inductive Frame where
  | array (items : List Doc)
  | object (members : List (Option String × Doc)) (key : Option String)

/-- What may come next. -/
inductive State where
  | value (outer : List Frame)
  | firstItem (outer : List Frame)
  | afterItem (items : List Doc) (outer : List Frame)
  | firstKey (outer : List Frame)
  | key (members : List (Option String × Doc)) (outer : List Frame)
  | colon (members : List (Option String × Doc)) (key : Option String) (outer : List Frame)
  | afterMember (members : List (Option String × Doc)) (outer : List Frame)
  | done (d : Doc)

namespace State

/-- The state after a whole value. -/
def put (d : Doc) : List Frame → State
  | [] => done d
  | .array items :: outer => afterItem (d :: items) outer
  | .object members k :: outer => afterMember ((k, d) :: members) outer

/-- The state after the first token of a value. -/
def begin (outer : List Frame) : Token → Option State
  | .null => some (put .null outer)
  | .bool b => some (put (.bool b) outer)
  | .number n => some (put (.number n) outer)
  | .string s => some (put (.string s) outer)
  | .openArray => some (firstItem outer)
  | .openObject => some (firstKey outer)
  | _ => none

/-- The state after one more token. -/
def step : State → Token → Option State
  | value outer, t => begin outer t
  | firstItem outer, .closeArray => some (put (.array []) outer)
  | firstItem outer, t => begin (.array [] :: outer) t
  | afterItem items outer, .comma => some (value (.array items :: outer))
  | afterItem items outer, .closeArray => some (put (.array items.reverse) outer)
  | firstKey outer, .closeObject => some (put (.object []) outer)
  | firstKey outer, .string k => some (colon [] k outer)
  | key members outer, .string k => some (colon members k outer)
  | colon members k outer, .colon => some (value (.object members k :: outer))
  | afterMember members outer, .comma => some (key members outer)
  | afterMember members outer, .closeObject => some (put (.object members.reverse) outer)
  | _, _ => none

end State

/-- The document of a list of tokens. -/
def ofTokens? (ts : List Token) : Option Doc :=
  match ts.foldlM State.step (.value []) with
  | some (.done d) => some d
  | _ => none

/-- The document that a text holds. -/
def read? (text : String) : Option Doc := Token.scan? text.toList >>= ofTokens?

/-! ## The value of a document -/

/-- How many lists and objects may stand inside one another in a value. -/
def nestingLimit : Nat := 127

mutual

/-- The value of a document, if values can hold all of it. `room` is how many more lists and
objects may be nested. -/
def value? (room : Nat) : Doc → Option Json
  | null => some .null
  | bool b => some (.bool b)
  | number n => Json.number <$> n
  | string s => Json.string <$> s
  | array items => if room = 0 then none else .array <$> values? (room - 1) items
  | object members => if room = 0 then none else ofMembers <$> memberValues? (room - 1) members

def values? (room : Nat) : List Doc → Option (List Json)
  | [] => some []
  | d :: rest => do
    let j ← d.value? room
    let js ← values? room rest
    return j :: js

def memberValues? (room : Nat) : List (Option String × Doc) → Option (List (String × Json))
  | [] => some []
  | (k, d) :: rest => do
    let k ← k
    let j ← d.value? room
    let js ← memberValues? room rest
    return (k, j) :: js

end

/-- A value can hold all of the document. -/
def isReadable (room : Nat) (d : Doc) : Bool := (d.value? room).isSome

end Doc

mutual

/-- The document that writes a value. -/
def toDoc : Json → Doc
  | null => .null
  | bool b => .bool b
  | number n => .number (some n)
  | string s => .string (some s)
  | array items => .array (docs items)
  | object members => .object (memberDocs members)

def docs : List Json → List Doc
  | [] => []
  | j :: rest => j.toDoc :: docs rest

def memberDocs : List (String × Json) → List (Option String × Doc)
  | [] => []
  | (k, j) :: rest => (some k, j.toDoc) :: memberDocs rest

end

/-- The value that a text holds. -/
def parse? (text : String) : Option Json :=
  Doc.read? text >>= Doc.value? Doc.nestingLimit

end RuleFields.Json
