import ObjectPath.Json.Basic
import ObjectPath.Json.NumberReader
import ObjectPath.Json.StringReader

/-! Reading documents. -/
namespace ObjectPath.Json

def isGap (c : Char) : Bool := c == ' ' || c == '\n' || c == '\t' || c == '\r'

def skipGaps (cs : List Char) : List Char := cs.dropWhile isGap

/-- Reads the rest of a word that stands for a document. -/
def readWord (document : Json) : List Char → Reader Json
  | [], cs => .ok (document, cs)
  | _ :: _, [] => .error (.before .endInValue [])
  | w :: word, c :: cs =>
    if c = w then readWord document word cs else .error (.on .expectedLiteral (c :: cs))

/--
Reads what follows an item of an array. Each round reads a comma, so `count` rounds suffice for a
text that is shorter.
-/
def readMoreItems (item : Reader Json) : Nat → Reader (List Json)
  | 0, cs => .error (.on .endInList cs)
  | count + 1, cs =>
    match skipGaps cs with
    | [] => .error (.on .endInList [])
    | ']' :: rest => .ok ([], rest)
    | ',' :: rest =>
      match skipGaps rest with
      | [] => .error (.on .endInValue [])
      | cs@(']' :: _) => .error (.on .trailingComma cs)
      | cs => do
        let (x, rest) ← item cs
        let (xs, rest) ← readMoreItems item count rest
        return (x :: xs, rest)
    | cs => .error (.on .expectedListSeparator cs)

def readItems (item : Reader Json) : Reader (List Json) := fun cs =>
  match skipGaps cs with
  | [] => .error (.on .endInList [])
  | ']' :: rest => .ok ([], rest)
  | cs => do
    let (x, rest) ← item cs
    let (xs, rest) ← readMoreItems item (rest.length + 1) rest
    return (x :: xs, rest)

def readMember (value : Reader Json) : Reader (String × Json)
  | '"' :: rest => do
    let (key, rest) ← readString rest
    match skipGaps rest with
    | [] => .error (.on .endInObject [])
    | ':' :: rest => do
      let (v, rest) ← value rest
      return ((key, v), rest)
    | cs => .error (.on .expectedColon cs)
  | cs => .error (.on .keyNotString cs)

/--
Reads what follows a member of an object. Each round reads a comma, so `count` rounds suffice for a
text that is shorter.
-/
def readMoreMembers (value : Reader Json) : Nat → Reader (List (String × Json))
  | 0, cs => .error (.on .endInObject cs)
  | count + 1, cs =>
    match skipGaps cs with
    | [] => .error (.on .endInObject [])
    | '\x7d' :: rest => .ok ([], rest)
    | ',' :: rest =>
      match skipGaps rest with
      | [] => .error (.on .endInValue [])
      | cs@('\x7d' :: _) => .error (.on .trailingComma cs)
      | cs => do
        let (m, rest) ← readMember value cs
        let (ms, rest) ← readMoreMembers value count rest
        return (m :: ms, rest)
    | cs => .error (.on .expectedObjectSeparator cs)

def readMembers (value : Reader Json) : Reader (List (String × Json)) := fun cs =>
  match skipGaps cs with
  | [] => .error (.on .endInObject [])
  | '\x7d' :: rest => .ok ([], rest)
  | cs => do
    let (m, rest) ← readMember value cs
    let (ms, rest) ← readMoreMembers value (rest.length + 1) rest
    return (m :: ms, rest)

/-- Reads a document; arrays and objects may be nested in each other up to a depth. -/
def readValue (depth : Nat) : Reader Json := fun cs =>
  match skipGaps cs with
  | [] => .error (.on .endInValue [])
  | 'n' :: rest => readWord null ['u', 'l', 'l'] rest
  | 't' :: rest => readWord (bool true) ['r', 'u', 'e'] rest
  | 'f' :: rest => readWord (bool false) ['a', 'l', 's', 'e'] rest
  | '-' :: rest => (readNumber true rest).map fun (n, rest) => (number n, rest)
  | '"' :: rest => (readString rest).map fun (s, rest) => (string s, rest)
  | cs@('[' :: rest) =>
    match depth with
    | 0 => .error (.on .nestingTooDeep cs)
    | depth + 1 => (readItems (readValue depth) rest).map fun (xs, rest) => (array xs, rest)
  | cs@('\x7b' :: rest) =>
    match depth with
    | 0 => .error (.on .nestingTooDeep cs)
    | depth + 1 => (readMembers (readValue depth) rest).map fun (ms, rest) => (ofMembers ms, rest)
  | cs@(c :: _) =>
    if c.isDigit then (readNumber false cs).map fun (n, rest) => (number n, rest)
    else .error (.on .expectedValue cs)

/-- The number of arrays and objects that may be nested in each other. -/
def maxDepth : Nat := 127

def readDocument (cs : List Char) : Except Fault Json := do
  let (j, rest) ← readValue maxDepth cs
  match skipGaps rest with
  | [] => return j
  | rest => .error (.on .trailingCharacters rest)

def parse (text : String) : Except SyntaxError Json :=
  (readDocument text.toList).mapError (SyntaxError.ofFault text.toList)

/-- A text taken for a scalar document if it is the text of one, and for a plain string if not. -/
def ofLiteral (text : String) : Json :=
  match parse text with
  | .ok j => if j.isScalar then j else string text
  | .error _ => string text

end ObjectPath.Json
