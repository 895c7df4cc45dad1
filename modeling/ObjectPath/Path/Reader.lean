import ObjectPath.Path.Basic
import ObjectPath.Path.SyntaxError
import ObjectPath.Text.Blank
import ObjectPath.Text.Position

/-! Reading the text of a path, one segment after the other. -/
namespace ObjectPath.Path

open ObjectPath.Text

/-- Names end before a dot or a bracket. -/
def isNameChar (c : Char) : Bool := c != '.' && c != '[' && c != ']'

def splitOperator : List Char → Option (List Char × List Char)
  | [] => none
  | c :: cs =>
    match c, cs with
    | '=', '=' :: rest => some ([], rest)
    | _, _ => (splitOperator cs).map fun (before, after) => (c :: before, after)

/-- A place in the text of a path: the bytes before it and the characters after it. -/
structure Cursor where
  position : Nat
  rest : List Char
deriving DecidableEq

namespace Cursor

def start (text : List Char) : Cursor := ⟨0, text⟩

def name (c : Cursor) : List Char × Cursor :=
  let taken := c.rest.takeWhile isNameChar
  (taken, ⟨c.position + byteLength taken, c.rest.dropWhile isNameChar⟩)

end Cursor

/-- What was read of a path: a segment, and where the next one starts if a dot follows. -/
abbrev Step := Segment × Option Cursor

def readSeparator (segment : Segment) (c : Cursor) : Except SyntaxError Step :=
  match c.rest with
  | [] => .ok (segment, none)
  | '.' :: rest => .ok (segment, some ⟨c.position + 1, rest⟩)
  | char :: _ => .error (.unexpected char c.position)

/-- Reads the dot and the result field that end a filter, and the path with it. -/
def readResult (name field value : List Char) (rest : List Char) : Except SyntaxError Step :=
  match rest with
  | '.' :: tail =>
    let result := tail.takeWhile isNameChar
    if result.isEmpty then .error .missingResult
    else if tail.dropWhile isNameChar = [] then
      .ok (.filter (String.ofList name) (String.ofList field) (String.ofList value)
        (String.ofList result), none)
    else .error .trailingAfterFilter
  | _ => .error .missingResult

/-- Reads a bracket clause from behind the bracket that opens it at position `opening`. -/
def readClause (name : List Char) (opening : Nat) (text : List Char) : Except SyntaxError Step :=
  let body := text.takeWhile (· != ']')
  match text.dropWhile (· != ']') with
  | [] => .error (.unclosedBracket opening)
  | _ :: rest =>
    if '[' ∈ body then
      .error (.unexpected '[' (opening + 1 + byteLength (body.takeWhile (· != '['))))
    else match splitOperator body with
      | some (field, value) =>
        if isBlank field || isBlank value then .error .emptyOperand
        else readResult name field value rest
      | none =>
        if body.isEmpty then .error .emptyKey
        else readSeparator (.key (String.ofList name) (String.ofList body))
          ⟨opening + 1 + byteLength body + 1, rest⟩

/-- Reads the segment that starts at a place, with the dot behind it. -/
def readSegment (c : Cursor) : Except SyntaxError Step :=
  let (name, after) := c.name
  match after.rest with
  | '[' :: rest => readClause name after.position rest
  | _ => readSeparator (.field (String.ofList name)) after

theorem readSeparator_shorter {s t : Segment} {c d : Cursor}
    (h : readSeparator s c = .ok (t, some d)) : d.rest.length < c.rest.length := by
  unfold readSeparator at h
  split at h <;> simp_all
  obtain ⟨_, rfl⟩ := h
  simp

theorem readResult_final {name field value rest : List Char} {s : Segment} {next : Option Cursor}
    (h : readResult name field value rest = .ok (s, next)) : next = none := by
  unfold readResult at h
  split at h
  · simp only at h
    split at h
    · simp at h
    · split at h <;> simp_all
  · simp at h

private theorem length_dropWhile_le (p : Char → Bool) (cs : List Char) :
    (cs.dropWhile p).length ≤ cs.length :=
  (List.dropWhile_sublist p).length_le

theorem readClause_shorter {name text : List Char} {opening : Nat} {s : Segment} {d : Cursor}
    (h : readClause name opening text = .ok (s, some d)) : d.rest.length < text.length := by
  unfold readClause at h
  have hle := length_dropWhile_le (· != ']') text
  simp only at h
  split at h
  · simp at h
  · rename_i rest hrest
    rw [hrest] at hle
    simp only [List.length_cons] at hle
    split at h
    · simp at h
    · split at h
      · split at h
        · simp at h
        · exact absurd (readResult_final h) (by simp)
      · split at h
        · simp at h
        · have := readSeparator_shorter h
          simp only at this
          omega

/-- What is left after a segment is shorter than what was there before it. -/
theorem readSegment_shorter {s : Segment} {c d : Cursor}
    (h : readSegment c = .ok (s, some d)) : d.rest.length < c.rest.length := by
  have hle := length_dropWhile_le isNameChar c.rest
  unfold readSegment Cursor.name at h
  simp only at h
  split at h
  · rename_i rest hrest
    rw [hrest] at hle
    simp only [List.length_cons] at hle
    have := readClause_shorter h
    omega
  · have := readSeparator_shorter h
    simp only at this
    omega

def readSegments (c : Cursor) : Except SyntaxError (List Segment) :=
  match _h : readSegment c with
  | .error e => .error e
  | .ok (s, none) => .ok [s]
  | .ok (s, some d) => (readSegments d).map (s :: ·)
termination_by c.rest.length
decreasing_by exact readSegment_shorter _h

def parse (text : String) : Except SyntaxError Path :=
  (readSegments (.start text.toList)).map Path.mk

/-- Splits the leading segment off a path; the rest is given when a dot follows the segment. -/
def splitFirst (text : String) : Except SyntaxError (Segment × Option String) :=
  (readSegment (.start text.toList)).map fun (s, next) =>
    (s, next.map fun d => String.ofList d.rest)

end ObjectPath.Path
