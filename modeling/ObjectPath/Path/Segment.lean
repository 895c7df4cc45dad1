/-! Segments of a path: a field name and the bracket clause that may follow it. -/
namespace ObjectPath

/-- What follows the field name of a segment. -/
inductive Clause
  /-- Nothing: the field itself is meant. -/
  | bare
  /-- The element under a key, `[token]`. -/
  | key (token : String)
  /-- A field of the elements that hold a value, `[field==value].result`. -/
  | filter (field value result : String)
deriving DecidableEq

/-- One step of a path: the field to read and the clause to apply to it. -/
structure Segment where
  name : String
  clause : Clause
deriving DecidableEq

namespace Clause

def isFilter : Clause → Bool
  | filter .. => true
  | _ => false

/-- The fields that a clause reads on the elements of a sequence. -/
def fields : Clause → List String
  | filter field _ result => [field, result]
  | _ => []

def chars : Clause → List Char
  | bare => []
  | key token => '[' :: token.toList ++ [']']
  | filter field value result =>
    '[' :: field.toList ++ ['=', '='] ++ value.toList ++ [']', '.'] ++ result.toList

end Clause

namespace Segment

def field (name : String) : Segment := ⟨name, .bare⟩

def key (name token : String) : Segment := ⟨name, .key token⟩

def filter (name field value result : String) : Segment := ⟨name, .filter field value result⟩

def isFilter (s : Segment) : Bool := s.clause.isFilter

/-- The fields that a segment reads: its own, then those of its clause. -/
def fields (s : Segment) : List String := s.name :: s.clause.fields

def chars (s : Segment) : List Char := s.name.toList ++ s.clause.chars

def render (s : Segment) : String := String.ofList s.chars

@[simp] theorem render_toList (s : Segment) : s.render.toList = s.chars := String.toList_ofList

end Segment

end ObjectPath
