import ObjectPath.Path.Reader
import ObjectPath.Resolve.Filter
import ObjectPath.Resolve.Trail

/-! Resolving a path: walking from a value along the segments of the path. -/
namespace ObjectPath

def filterElements (mode : Comparison) (v : Value) (field literal result : String) : Trail :=
  match v.elements? with
  | none => .failed (.notSequence v.typeName)
  | some elements =>
    match Filter.project result (elements.filter (Filter.keeps mode field literal)) with
    | .error e => .failed e
    | .ok vs => ⟨[.filtered field literal vs.length], .ok (Filter.collapse vs)⟩

/--
Walks from a value along segments. An absent value ends the walk with nothing. A filter ends the
walk with what it finds, and no segment follows it in a path that was read.
-/
def walk (mode : Comparison) (current : Value) : List Segment → Trail
  | [] => if current.isAbsent then .nothing else .found (.one current)
  | s :: rest =>
    if current.isAbsent then .nothing
    else
      match current.field? s.name with
      | none =>
        .failed (if rest.isEmpty then .noSuchField s.name current.typeName
          else .noSuchStep s.name current.typeName)
      | some v =>
        .after (.read s.name current.typeName)
          (if v.isAbsent then .nothing
          else
            match s.clause with
            | .bare => walk mode v rest
            | .key token =>
              match v.lookup token with
              | .found element => walk mode element rest
              | .missing => .failed (.noSuchKey token v.typeName)
              | .unsupported => .failed (.notKeyed v.typeName)
            | .filter field literal result => filterElements mode v field literal result)

namespace Path

def trail (mode : Comparison) (root : Value) (p : Path) : Trail := walk mode root p.segments

def resolve (mode : Comparison) (root : Value) (p : Path) : Outcome := (p.trail mode root).outcome

end Path

def readAndTrail (mode : Comparison) (root : Value) (text : String) : Trail :=
  match Path.parse text with
  | .error e => .failed (.malformed e)
  | .ok p => .after (.parsed text p.length) (p.trail mode root)

/-- Resolves the text of a path; an absent root leads to nothing whatever the text is. -/
def resolveTrail (mode : Comparison) (root : Value) (text : String) : Trail :=
  if root.isAbsent then .nothing else readAndTrail mode root text

def resolve (mode : Comparison) (root : Value) (text : String) : Outcome :=
  (resolveTrail mode root text).outcome

end ObjectPath
