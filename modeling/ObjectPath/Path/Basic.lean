import ObjectPath.Path.Segment

/-! Paths: the segments to walk from a value, written with dots between them. -/
namespace ObjectPath

structure Path where
  segments : List Segment
deriving DecidableEq

namespace Path

def length (p : Path) : Nat := p.segments.length

def isEmpty (p : Path) : Bool := p.segments.isEmpty

def charsOf : List Segment → List Char
  | [] => []
  | [s] => s.chars
  | s :: t :: rest => s.chars ++ '.' :: charsOf (t :: rest)

/-- The written form of a path: its segments with dots between them. -/
def chars (p : Path) : List Char := charsOf p.segments

def render (p : Path) : String := String.ofList p.chars

@[simp] theorem render_toList (p : Path) : p.render.toList = p.chars := String.toList_ofList

/-- The names of the fields that a walk along the path reads, in order. -/
def accessedFields (p : Path) : List String := p.segments.flatMap Segment.fields

end Path

end ObjectPath
