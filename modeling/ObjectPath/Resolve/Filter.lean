import ObjectPath.Json.Reader
import ObjectPath.Resolve.Found

/-! Filters: the elements of a sequence that hold a value in a field, and a field of theirs. -/
namespace ObjectPath

inductive Comparison
  /-- By its text; what has none does not match. -/
  | text
  /-- By its document, with the value read as the text of a scalar document. -/
  | typed
deriving DecidableEq

def Comparison.holds (mode : Comparison) (field : Value) (literal : String) : Bool :=
  match mode with
  | text => field.text? == some literal
  | typed => field.snapshot.equalValue (Json.ofLiteral literal)

namespace Filter

/-- Whether an element is there and has the field with the value. -/
def keeps (mode : Comparison) (field literal : String) (element : Value) : Bool :=
  !element.isAbsent &&
    match element.field? field with
    | some v => mode.holds v literal
    | none => false

/-- The result fields of some elements; each has to have one. -/
def project (result : String) : List Value → Except Failure (List (Option Value))
  | [] => .ok []
  | e :: es =>
    match e.field? result with
    | none => .error (.noSuchField result e.typeName)
    | some v => (project result es).map (v.present? :: ·)

/-- A single projected value stands for itself. -/
def collapse : List (Option Value) → Option Found
  | [v] => v.map .one
  | vs => some (.many vs)

end Filter

end ObjectPath
