import ObjectPath.CommandLine.Program

/-! A showcase: what some paths lead to in a sample object. -/
namespace ObjectPath.Showcase

private def text (s : String) : Value := .text .owned s

private def smallInteger (i : Int) (h : (IntegerType.mk true .bits32).Contains i) : Value :=
  .integer ⟨⟨true, .bits32⟩, i, h⟩

def element (name value : String) : Value :=
  .record "Element" [("Name", text name), ("Value", text value)]

/-- An object with a text, a list of elements, a list of integers and nested objects. -/
def sample : Value :=
  .record "Sample" [
    ("SimpleProperty", text "Some Value"),
    ("ListProperty", .sequence .vector [
      element "SomeElementName" "SomeElementValue",
      element "AnotherElementName" "AnotherElementValue"]),
    ("SimpleListProperty", .sequence .vector [
      smallInteger 1 (by decide), smallInteger 2 (by decide), smallInteger 3 (by decide)]),
    ("NesTedObject", .record "NestedObject" [
      ("AnotherNestedObject", .record "AnotherNestedObject" [
        ("YetAnotherNestedObject", .record "YetAnotherNestedObject" [
          ("NestedProperty", text "SuperNestedPropertyValue")])])])]

/-- The text of a result: that of a scalar, or else its document. -/
def describe : Option Found → String
  | none => "<absent>"
  | some (.one v) => v.text?.getD v.snapshot.render
  | some found => found.snapshot.render

def firstElement (v : Value) : String :=
  match v.elements? with
  | some (e :: _) => e.snapshot.render
  | _ => "<empty>"

/-- A step of the showcase: the lines it writes, or a failure that ends it. -/
abbrev Step := Except Failure (List String)

private def find (v : Value) (path : String) : Outcome := resolve .text v path

private def tell (v : Value) (label path : String) : Step := do
  return [label ++ describe (← find v path)]

def steps (v : Value) : List Step := [
  tell v "Getting value of SimpleProperty: " "SimpleProperty",
  do
    match ← find v "SimpleListProperty" with
    | some (.one items) => return ["Getting value of SimpleListProperty: " ++ firstElement items]
    | _ => return [],
  tell v "Getting value of ListProperty through a simple filter: "
    "ListProperty[Name==SomeElementName].Value",
  tell v "Getting value of ListProperty through a simple filter: "
    "ListProperty[Value==AnotherElementValue].Name",
  do
    match ← find v "ListProperty[Value==asda].Name" with
    | some (.many []) => return ["No values matched this filter"]
    | other => return ["Unexpected filter result: " ++ describe other],
  match find v "NotAvailableProperty" with
  | .ok other => .ok ["Unexpectedly resolved to " ++ describe other]
  | .error e => if e.isNotFound then .ok ["The property was not found"] else .error e,
  do
    match ← find v "NesTedObject.AnotherNestedObject.YetAnotherNestedObject" with
    | some (.one nested) =>
      tell nested "Getting value of a nested object's property: " "NestedProperty"
    | _ => return []]

/-- The lines of steps up to the first that fails, and its failure. -/
def runSteps : List Step → List String × Option Failure
  | [] => ([], none)
  | .error e :: _ => ([], some e)
  | .ok lines :: rest =>
    let (more, failure) := runSteps rest
    (lines ++ more, failure)

private def unlines (lines : List String) : String := String.join (lines.map (· ++ "\n"))

def program : CommandLine.Run :=
  let (lines, failure) := runSteps (steps sample)
  let output := unlines ([
    "Running test for: dynamically reading values from an object",
    "Creating a complex object"] ++ lines)
  match failure with
  | none => ⟨0, output, ""⟩
  | some e => ⟨1, output, e.message ++ "\n"⟩

end ObjectPath.Showcase
