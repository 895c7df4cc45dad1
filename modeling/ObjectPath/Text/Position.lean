/-! Byte lengths of text and the line and column of a byte offset. -/
namespace ObjectPath.Text

def byteLength : List Char → Nat
  | [] => 0
  | c :: cs => c.utf8Size + byteLength cs

@[simp] theorem byteLength_nil : byteLength [] = 0 := rfl

@[simp] theorem byteLength_cons (c : Char) (cs : List Char) :
    byteLength (c :: cs) = c.utf8Size + byteLength cs := rfl

@[simp] theorem byteLength_append (a b : List Char) :
    byteLength (a ++ b) = byteLength a + byteLength b := by
  induction a with
  | nil => simp
  | cons c a ih => simp [ih, Nat.add_assoc]

/-- A place in a text: lines count from one, columns are the bytes passed on the line. -/
structure Position where
  line : Nat
  column : Nat
deriving DecidableEq

namespace Position

def start : Position := ⟨1, 0⟩

/-- Moves over one character of which `bytes` bytes are passed. -/
def advance (p : Position) (c : Char) (bytes : Nat) : Position :=
  if c = '\n' then ⟨p.line + 1, 0⟩ else ⟨p.line, p.column + bytes⟩

/-- The place after some bytes of the text, which may end inside a character. -/
def skip (p : Position) : List Char → Nat → Position
  | [], _ => p
  | c :: cs, bytes =>
    if bytes = 0 then p
    else (p.advance c (min bytes c.utf8Size)).skip cs (bytes - c.utf8Size)

end Position

def locate (text : List Char) (offset : Nat) : Position :=
  Position.start.skip text offset

end ObjectPath.Text
