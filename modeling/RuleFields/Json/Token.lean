-- The tokens of a JSON text. A text is read one character at a time, with a
-- mode that says what has begun and is not finished yet. A number beyond the
-- doubles and a text with half a surrogate pair are tokens too: they stand in
-- a well-formed text, and it is for the reader of a value to refuse them.
import RuleFields.Json.Value

namespace RuleFields.Json

inductive Token where
  | openArray
  | closeArray
  | openObject
  | closeObject
  | comma
  | colon
  | null
  | bool (b : Bool)
  /-- `none` stands for a number beyond the doubles. -/
  | number (n : Option Number)
  /-- `none` stands for a text with half a surrogate pair. -/
  | string (s : Option String)
deriving DecidableEq

/-! ## Texts in quotes -/

/-- What stands inside quotes: a character, or the number of an escape of four digits, which is
a character or one half of a surrogate pair. -/
inductive Piece where
  | char (c : Char)
  | unit (n : Nat)
deriving DecidableEq

def isHighSurrogate (n : Nat) : Bool := 0xD800 ≤ n && n < 0xDC00

def isLowSurrogate (n : Nat) : Bool := 0xDC00 ≤ n && n < 0xE000

/-- The characters of the pieces. A high surrogate goes with the low one that must come next. -/
def Piece.join : List Piece → Option (List Char)
  | [] => some []
  | .char c :: rest => (c :: ·) <$> join rest
  | .unit high :: .unit low :: rest =>
    if isHighSurrogate high then
      if isLowSurrogate low then
        (Char.ofNat (0x10000 + (high - 0xD800) * 0x400 + (low - 0xDC00)) :: ·) <$> join rest
      else none
    else if isLowSurrogate high then none
    else (Char.ofNat high :: ·) <$> join (.unit low :: rest)
  | .unit n :: rest =>
    if isHighSurrogate n || isLowSurrogate n then none else (Char.ofNat n :: ·) <$> join rest

/-- The character that a letter after a backslash stands for. -/
def escaped? (c : Char) : Option Char :=
  if c = '"' ∨ c = '\\' ∨ c = '/' then some c
  else if c = 'b' then some '\x08'
  else if c = 'f' then some '\x0c'
  else if c = 'n' then some '\n'
  else if c = 'r' then some '\r'
  else if c = 't' then some '\t'
  else none

def hexValue? (c : Char) : Option Nat :=
  if '0' ≤ c ∧ c ≤ '9' then some (c.toNat - 48)
  else if 'a' ≤ c ∧ c ≤ 'f' then some (c.toNat - 87)
  else if 'A' ≤ c ∧ c ≤ 'F' then some (c.toNat - 55)
  else none

/-! ## The scanner -/

/-- What has begun. What was read of it stands last character first. -/
inductive Mode where
  | between
  | word (read : List Char)
  | numeral (read : List Char)
  | quoted (read : List Piece)
  | escape (read : List Piece)
  /-- An escape of four digits, `missing` of which are still to come. -/
  | unit (read : List Piece) (missing : Nat) (value : Nat)

def isBlank (c : Char) : Bool := c = ' ' || c = '\t' || c = '\n' || c = '\r'

def isWordChar (c : Char) : Bool := 'a' ≤ c && c ≤ 'z'

def isNumeralChar (c : Char) : Bool :=
  c.isDigit || c = '-' || c = '+' || c = '.' || c = 'e' || c = 'E'

def punctuation? (c : Char) : Option Token :=
  if c = '[' then some .openArray
  else if c = ']' then some .closeArray
  else if c = '\x7b' then some .openObject
  else if c = '\x7d' then some .closeObject
  else if c = ',' then some .comma
  else if c = ':' then some .colon
  else none

def word? (cs : List Char) : Option Token :=
  if cs = ['n', 'u', 'l', 'l'] then some .null
  else if cs = ['t', 'r', 'u', 'e'] then some (.bool true)
  else if cs = ['f', 'a', 'l', 's', 'e'] then some (.bool false)
  else none

def numeral? (cs : List Char) : Option Token :=
  (Numeral.ofChars? cs).map fun n => .number n.value?

namespace Mode

/-- The mode after a character between tokens, and the token that the character is. -/
def begin (c : Char) : Option (Mode × List Token) :=
  if isBlank c then some (between, [])
  else if c = '"' then some (quoted [], [])
  else if c.isDigit || c = '-' then some (numeral [c], [])
  else if isWordChar c then some (word [c], [])
  else (punctuation? c).map fun t => (between, [t])

/-- The mode after a character that ends the token `t`. -/
def endWith (t : Option Token) (c : Char) : Option (Mode × List Token) := do
  let t ← t
  let (m, ts) ← begin c
  return (m, t :: ts)

/-- The mode after one more character, and the tokens that it completes. -/
def step (m : Mode) (c : Char) : Option (Mode × List Token) :=
  match m with
  | between => begin c
  | word read =>
    if isWordChar c then some (word (c :: read), []) else endWith (word? read.reverse) c
  | numeral read =>
    if isNumeralChar c then some (numeral (c :: read), []) else endWith (numeral? read.reverse) c
  | quoted read =>
    if c = '"' then some (between, [.string ((Piece.join read.reverse).map String.ofList)])
    else if c = '\\' then some (escape read, [])
    else if c.toNat < 0x20 then none
    else some (quoted (.char c :: read), [])
  | escape read =>
    if c = 'u' then some (unit read 4 0, [])
    else (escaped? c).map fun e => (quoted (.char e :: read), [])
  | unit read missing value =>
    (hexValue? c).map fun d =>
      let value := 16 * value + d
      if missing ≤ 1 then (quoted (.unit value :: read), [])
      else (unit read (missing - 1) value, [])

/-- The tokens that the end of the text completes. -/
def finish : Mode → Option (List Token)
  | between => some []
  | word read => (word? read.reverse).map ([·])
  | numeral read => (numeral? read.reverse).map ([·])
  | _ => none

end Mode

namespace Token

/-- The tokens of the rest of a text. -/
def scanFrom (m : Mode) : List Char → Option (List Token)
  | [] => m.finish
  | c :: cs => do
    let (m, ts) ← m.step c
    let rest ← scanFrom m cs
    return ts ++ rest

/-- The tokens of a text. -/
def scan? (cs : List Char) : Option (List Token) := scanFrom .between cs

end Token

end RuleFields.Json
