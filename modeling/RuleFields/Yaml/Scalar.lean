-- How a text is written in YAML: plain if that is safe, a text of several
-- lines as a literal block, in single quotes if a plain text would be misread,
-- and in double quotes if something must be escaped.
import RuleFields.Yaml.Resolution

namespace RuleFields.Yaml

inductive Style where
  | plain
  | singleQuoted
  | doubleQuoted
  | literal
deriving DecidableEq, Repr

/-! ## Characters -/

/-- A character that ends a line. -/
def isBreak (c : Char) : Bool :=
  c = '\n' || c = '\r' || c = '\x85' || c = '\u2028' || c = '\u2029'

/-- A character that may stand in a text without an escape. -/
def isPrintable (c : Char) : Bool :=
  let n := c.toNat
  n = 0x0A || (0x20 ≤ n && n ≤ 0x7E) || (0xA0 ≤ n && n ≤ 0xD7FF) ||
    (0xE000 ≤ n && n ≤ 0xFFFD && n != 0xFEFF) || 0x10000 ≤ n

/-- A character with which no plain text begins. -/
def isIndicator (c : Char) : Bool :=
  ['#', ',', '[', ']', '\x7b', '\x7d', '&', '*', '!', '|', '>', '\'', '"', '%', '@',
    '\x60'].contains c

/-! ## What a text contains -/

/-- Two neighbours of these kinds stand in the text. -/
def hasNeighbours (p q : Char → Bool) : List Char → Bool
  | a :: b :: rest => (p a && q b) || hasNeighbours p q (b :: rest)
  | _ => false

def isSpace (c : Char) : Bool := c = ' '

/-- Nothing or a space comes next. -/
def endsWord (rest : List Char) : Bool := rest.head?.all isSpace

/-- A mark inside a plain text would end it: a colon before a space, or a hash after one. -/
def hasInnerMark (before : Char) : List Char → Bool
  | [] => false
  | c :: rest => (c = ':' && endsWord rest) || (c = '#' && isSpace before) || hasInnerMark c rest

/-- The text would be taken for structure if it stood plain. -/
def looksLikeStructure (s : List Char) : Bool :=
  match s with
  | [] => false
  | c :: rest =>
    s.take 3 = ['-', '-', '-'] || s.take 3 = ['.', '.', '.'] || isIndicator c ||
      ((c = '?' || c = ':' || c = '-') && endsWord rest) || hasInnerMark c rest

def isEdge (c : Char) : Bool := isSpace c || isBreak c

/-- The text may stand plain. -/
def allowsPlain (s : List Char) : Bool :=
  !s.head?.any isEdge && !s.getLast?.any isEdge && !s.any isBreak && s.all isPrintable &&
    !looksLikeStructure s

/-- The text may stand in single quotes. -/
def allowsSingleQuoted (s : List Char) : Bool :=
  s.all isPrintable && !hasNeighbours isBreak isSpace s && !hasNeighbours isSpace isBreak s

/-- The text may stand as a literal block. -/
def allowsLiteral (s : List Char) : Bool :=
  s.all isPrintable && !s.getLast?.any isSpace && !hasNeighbours isSpace isBreak s

/-- The style of a text. -/
def style (s : List Char) : Style :=
  if s.contains '\n' then if allowsLiteral s then .literal else .doubleQuoted
  else if allowsPlain s && !readsAsOther s then .plain
  else if allowsSingleQuoted s then .singleQuoted
  else .doubleQuoted

/-! ## The written forms -/

/-- The last digits of a number in base sixteen, in upper case. -/
def hexDigits (width n : Nat) : List Char :=
  (List.range width).reverse.map fun i => (Nat.digitChar (n / Nat.pow 16 i % 16)).toUpper

/-- The short escapes. -/
def shortEscapes : List (Char × Char) :=
  [('\x00', '0'), ('\x07', 'a'), ('\x08', 'b'), ('\t', 't'), ('\n', 'n'), ('\x0b', 'v'),
    ('\x0c', 'f'), ('\r', 'r'), ('\x1b', 'e'), ('"', '"'), ('\\', '\\'), ('\x85', 'N'),
    ('\xa0', '_'), ('\u2028', 'L'), ('\u2029', 'P')]

/-- How a character stands in double quotes. -/
def escapeChar (c : Char) : List Char :=
  if isPrintable c && !isBreak c && c != '"' && c != '\\' then [c]
  else
    match shortEscapes.lookup c with
    | some e => ['\\', e]
    | none =>
      if c.toNat ≤ 0xFF then '\\' :: 'x' :: hexDigits 2 c.toNat
      else if c.toNat ≤ 0xFFFF then '\\' :: 'u' :: hexDigits 4 c.toNat
      else '\\' :: 'U' :: hexDigits 8 c.toNat

def indentation (indent : Nat) : List Char := List.replicate indent ' '

/-- A text with its lines after the first indented, by way of `afterBreak`. Empty lines are not
indented. -/
def indentLines (indent : Nat) (write : Char → List Char) (afterBreak : Bool) :
    List Char → List Char
  | [] => []
  | c :: rest =>
    if isBreak c then c :: indentLines indent write true rest
    else
      (if afterBreak then indentation indent else []) ++ write c ++
        indentLines indent write false rest

/-- A text in single quotes. A quote in it stands twice. -/
def writeSingleQuoted (indent : Nat) (s : List Char) : List Char :=
  let closing := if s.getLast?.any isBreak then indentation indent else []
  '\'' :: indentLines indent (fun c => if c = '\'' then ['\'', '\''] else [c]) false s ++
    closing ++ ['\'']

/-- The head of a literal block: whether its indentation must be told, and what becomes of the
breaks at its end. -/
def literalHead (s : List Char) : List Char :=
  let told := if s.head?.any isEdge then ['2'] else []
  let kept :=
    match s.reverse with
    | [] => ['-']
    | [c] => if isBreak c then ['+'] else ['-']
    | c :: d :: _ => if !isBreak c then ['-'] else if isBreak d then ['+'] else []
  '|' :: told ++ kept ++ ['\n']

/-- A text in its style. Lines after the first are indented. -/
def writeText (indent : Nat) (text : String) : List Char :=
  let s := text.toList
  match style s with
  | .plain => s
  | .singleQuoted => writeSingleQuoted indent s
  | .doubleQuoted => '"' :: s.flatMap escapeChar ++ ['"']
  | .literal => literalHead s ++ indentLines indent (fun c => [c]) true s

end RuleFields.Yaml
