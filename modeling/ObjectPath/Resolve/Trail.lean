import ObjectPath.Resolve.Found
import ObjectPath.Text.Quoted

/-! Records of what happens on the way of a resolution. -/
namespace ObjectPath

inductive Level
  | trace | debug
deriving DecidableEq

/-- Something that happened on the way. -/
inductive Record
  | parsed (text : String) (segments : Nat)
  | read (field typeName : String)
  | filtered (field literal : String) (kept : Nat)
deriving DecidableEq

namespace Record

def level : Record → Level
  | filtered .. => .debug
  | _ => .trace

def message : Record → String
  | parsed text segments =>
    "parsed " ++ Text.quote text ++ " into " ++ segments.repr ++ " segment(s)"
  | read field typeName => "read `" ++ field ++ "` on " ++ typeName
  | filtered field literal kept =>
    "filter " ++ field ++ "==" ++ literal ++ " matched " ++ kept.repr ++ " element(s)"

end Record

/-- The outcome of a resolution, with the records of the way to it. -/
structure Trail where
  records : List Record
  outcome : Outcome

namespace Trail

def nothing : Trail := ⟨[], .ok none⟩

def found (f : Found) : Trail := ⟨[], .ok (some f)⟩

def failed (f : Failure) : Trail := ⟨[], .error f⟩

def after (r : Record) (t : Trail) : Trail := { t with records := r :: t.records }

end Trail

end ObjectPath
