import ObjectPath.Resolve.Walk

/-! Exploring object graphs: a place in a graph, the last result, and named paths and results. -/
namespace ObjectPath

/-- The state of an exploration. The place is the front of a list of values that were entered. -/
structure Explorer where
  place : Value
  entered : List Value
  last : Option Found
  mode : Comparison
  paths : List (String × Path)
  saved : List (String × Option Found)

namespace Explorer

def start (root : Value) : Explorer := ⟨root, [], none, .text, [], []⟩

def depth (e : Explorer) : Nat := e.entered.length + 1

def restart (e : Explorer) (root : Value) : Explorer := { e with place := root, entered := [] }

def setMode (e : Explorer) (mode : Comparison) : Explorer := { e with mode }

/-- Remembers what a resolution found; a failure leaves nothing. -/
def remember (e : Explorer) (outcome : Outcome) : Outcome × Explorer :=
  (outcome, { e with last := (outcome.toOption).join })

/-- Resolves the text of a path at the place. Without a text nothing is found. -/
def resolveText (e : Explorer) (text : Option String) : Outcome × Explorer :=
  e.remember (match text with
    | some text => resolve e.mode e.place text
    | none => .ok none)

def resolveNamed (e : Explorer) (name : String) : Option Outcome × Explorer :=
  match Entries.find? name e.paths with
  | some p =>
    let (outcome, e) := e.remember (p.resolve e.mode e.place)
    (some outcome, e)
  | none => (none, e)

/-- Reads a path and names it; the name keeps its path when there is an error. -/
def namePath (e : Explorer) (name text : String) : Except SyntaxError Nat × Explorer :=
  match Path.parse text with
  | .ok p => (.ok p.length, { e with paths := Entries.insert name p e.paths })
  | .error error => (.error error, e)

/-- Whether two names have equal paths, or both have none. -/
def samePath (e : Explorer) (a b : String) : Bool :=
  Entries.find? a e.paths == Entries.find? b e.paths

private def push (e : Explorer) (v : Value) : Explorer :=
  { e with place := v, entered := e.place :: e.entered }

/-- Goes to a value if there is one, and tells whether there was. -/
private def goTo (e : Explorer) : Option Value → Bool × Explorer
  | some v => (true, e.push v)
  | none => (false, e)

def lastOne (e : Explorer) : Option Value :=
  match e.last with
  | some (.one v) => some v
  | _ => none

def lastItem (e : Explorer) (i : Nat) : Option Value :=
  match e.last with
  | some (.many vs) => vs[i]?.join
  | _ => none

def enter (e : Explorer) : Bool × Explorer := e.goTo e.lastOne

def enterItem (e : Explorer) (i : Nat) : Bool × Explorer := e.goTo (e.lastItem i)

def enterElement (e : Explorer) (i : Nat) : Bool × Explorer :=
  e.goTo (e.place.elements?.bind (·[i]?))

/-- Goes back to where the place was entered from. -/
def up (e : Explorer) : Explorer :=
  match e.entered with
  | [] => e
  | v :: rest => { e with place := v, entered := rest }

def save (e : Explorer) (name : String) : Explorer :=
  { e with saved := Entries.insert name e.last e.saved }

def sameSaved (e : Explorer) (a b : String) : Bool :=
  match Entries.find? a e.saved, Entries.find? b e.saved with
  | none, none => true
  | some a, some b => Found.sameResult a b
  | _, _ => false

end Explorer

end ObjectPath
