import ObjectPath.Json.Basic
import ObjectPath.Text.Quoted

/-! The texts of documents: compact, indented, and with the kind of each part spelled out. -/
namespace ObjectPath.Json

/-- A character of a string literal; quotes, backslashes and control characters are escaped. -/
def escapeChar (c : Char) : List Char :=
  if c = '"' then ['\\', '"']
  else if c = '\\' then ['\\', '\\']
  else if c = '\x08' then ['\\', 'b']
  else if c = '\x0c' then ['\\', 'f']
  else if c = '\n' then ['\\', 'n']
  else if c = '\r' then ['\\', 'r']
  else if c = '\t' then ['\\', 't']
  else if c.toNat < 0x20 then
    ['\\', 'u', '0', '0', Nat.digitChar (c.toNat / 16), Nat.digitChar (c.toNat % 16)]
  else [c]

def stringChars (s : String) : List Char := '"' :: s.toList.flatMap escapeChar ++ ['"']

mutual

def chars : Json → List Char
  | null => ['n', 'u', 'l', 'l']
  | bool true => ['t', 'r', 'u', 'e']
  | bool false => ['f', 'a', 'l', 's', 'e']
  | number n => n.chars
  | string s => stringChars s
  | array [] => ['[', ']']
  | array (x :: xs) => '[' :: chars x ++ moreItems xs
  | object [] => ['\x7b', '\x7d']
  | object ((k, v) :: ms) => '\x7b' :: stringChars k ++ ':' :: chars v ++ moreMembers ms

/-- What follows an item of an array: a comma and the next one, or the closing bracket. -/
def moreItems : List Json → List Char
  | [] => [']']
  | x :: xs => ',' :: chars x ++ moreItems xs

/-- What follows a member of an object: a comma and the next one, or the closing brace. -/
def moreMembers : List (String × Json) → List Char
  | [] => ['\x7d']
  | (k, v) :: ms => ',' :: stringChars k ++ ':' :: chars v ++ moreMembers ms

end

def render (j : Json) : String := String.ofList j.chars

@[simp] theorem render_toList (j : Json) : j.render.toList = j.chars := String.toList_ofList

/-- A new line, indented by two spaces for each level. -/
def newLine (level : Nat) : List Char := '\n' :: List.replicate (2 * level) ' '

mutual

/-- The text of a document with each item and member on a line of its own. -/
def prettyChars (level : Nat) : Json → List Char
  | array (x :: xs) =>
    '[' :: newLine (level + 1) ++ prettyChars (level + 1) x ++ prettyItems level xs
  | object ((k, v) :: ms) =>
    '\x7b' :: newLine (level + 1) ++ stringChars k ++ ':' :: ' ' :: prettyChars (level + 1) v ++
      prettyMembers level ms
  | array [] => ['[', ']']
  | object [] => ['\x7b', '\x7d']
  | null => chars null
  | bool b => chars (bool b)
  | number n => n.chars
  | string s => stringChars s

def prettyItems (level : Nat) : List Json → List Char
  | [] => newLine level ++ [']']
  | x :: xs => ',' :: newLine (level + 1) ++ prettyChars (level + 1) x ++ prettyItems level xs

def prettyMembers (level : Nat) : List (String × Json) → List Char
  | [] => newLine level ++ ['\x7d']
  | (k, v) :: ms =>
    ',' :: newLine (level + 1) ++ stringChars k ++ ':' :: ' ' :: prettyChars (level + 1) v ++
      prettyMembers level ms

end

def pretty (j : Json) : String := String.ofList (j.prettyChars 0)

mutual

/-- The text of a document in which each part is named by its kind. -/
def inspect : Json → String
  | null => "Null"
  | bool b => "Bool(" ++ (if b then "true" else "false") ++ ")"
  | number n => "Number(" ++ String.ofList n.chars ++ ")"
  | string s => "String(" ++ Text.quote s ++ ")"
  | array xs => "Array [" ++ ", ".intercalate (inspectItems xs) ++ "]"
  | object ms => "Object \x7b" ++ ", ".intercalate (inspectMembers ms) ++ "\x7d"

def inspectItems : List Json → List String
  | [] => []
  | x :: xs => inspect x :: inspectItems xs

def inspectMembers : List (String × Json) → List String
  | [] => []
  | (k, v) :: ms => (Text.quote k ++ ": " ++ inspect v) :: inspectMembers ms

end

end ObjectPath.Json
