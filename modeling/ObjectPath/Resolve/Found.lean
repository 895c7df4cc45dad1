import ObjectPath.Json.Printer
import ObjectPath.Resolve.Failure
import ObjectPath.Value.Access
import ObjectPath.Value.Snapshot

/-! What a path is resolved to. -/
namespace ObjectPath

/-- What a path leads to. -/
inductive Found
  | one (v : Value)
  /-- The projected fields of the elements that a filter keeps; none stands for an absent value. -/
  | many (vs : List (Option Value))

/-- A resolution fails, finds nothing, or finds something. -/
abbrev Outcome := Except Failure (Option Found)

namespace Found

def isMany : Found → Bool
  | one _ => false
  | many _ => true

/-- The snapshot of a projected value; an absent one is null. -/
def itemSnapshot : Option Value → Json
  | some v => v.snapshot
  | none => .null

def snapshot : Found → Json
  | one v => v.snapshot
  | many vs => .array (vs.map itemSnapshot)

/-- Whether two results are of one kind and have equal documents. -/
def same (a b : Found) : Bool := a.isMany == b.isMany && a.snapshot.same b.snapshot

/-- Whether two results are both nothing, or equal. -/
def sameResult : Option Found → Option Found → Bool
  | none, none => true
  | some a, some b => a.same b
  | _, _ => false

def inspect : Option Found → String
  | none => "None"
  | some found =>
    "Some(" ++ (if found.isMany then "Many" else "One") ++ "(" ++ found.snapshot.inspect ++ "))"

end Found

end ObjectPath
