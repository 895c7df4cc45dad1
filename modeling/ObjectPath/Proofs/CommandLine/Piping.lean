import ObjectPath.CommandLine.Lookup
import ObjectPath.Proofs.Resolve.Composition
import ObjectPath.Proofs.Resolve.Parts

/-! The text that a lookup gives can be looked into again. -/
namespace ObjectPath.CommandLine

/-- The document that stands for an outcome, or the failure. -/
def answer : Outcome → Except LookupError Json
  | .error e => .error (.path e)
  | .ok none => .ok .null
  | .ok (some found) => .ok found.snapshot

theorem lookupDocument_eq_answer {document : String} {j : Json}
    (hdoc : Json.parse document = .ok j) (mode : Comparison) (path : String) :
    lookupDocument mode document path = answer (resolve mode (.json j) path) := by
  simp only [lookupDocument, hdoc]
  cases resolve mode (.json j) path with
  | error e => rfl
  | ok found? => cases found? <;> rfl

theorem lookup_eq_answer {document text : String} {j : Json} {p : Path}
    (hdoc : Json.parse document = .ok j) (htext : Path.parse text = .ok p) (mode : Comparison) :
    lookup mode document text = (answer (p.resolve mode (.json j))).map Json.render := by
  rw [lookup, lookupDocument_eq_answer hdoc, resolve_eq_resolve_path htext]

theorem answer_ne_error {outcome : Outcome} {e : LookupError}
    (h : (answer outcome).map Json.render = .error e) : ∃ f, e = .path f := by
  cases outcome with
  | error f => exact ⟨f, (Except.error.inj h).symm⟩
  | ok found? => cases found? <;> cases h

/--
The document that a path leads to is a part of the one it starts from, or null. A second path leads
from there where both together lead from the start.
-/
theorem resolve_of_answer {mode : Comparison} {j k : Json} {p q : Path}
    (hfree : ∀ s ∈ p.segments, s.isFilter = false) (hq : q.segments ≠ [])
    (h : answer (p.resolve mode (.json j)) = .ok k) :
    (j.IsPart k ∨ k = .null) ∧
      q.resolve mode (.json k) = Path.resolve mode (.json j) ⟨p.segments ++ q.segments⟩ := by
  cases hfront : p.resolve mode (.json j) with
  | error e =>
    rw [hfront] at h
    cases h
  | ok found? =>
    rw [hfront] at h
    rw [Path.resolve_append hfree hq, hfront]
    match found? with
    | none =>
      obtain rfl : Json.null = k := Except.ok.inj h
      exact ⟨.inr rfl, Path.resolve_of_isAbsent rfl mode q⟩
    | some (.one v) =>
      obtain ⟨part, rfl, hpart⟩ := Path.isPart_of_resolve hfront
      obtain rfl : part = k := Except.ok.inj h
      exact ⟨.inl hpart, rfl⟩
    | some (.many vs) => exact absurd hfront (Path.resolve_ne_many hfree mode _ vs)

/--
Lookups can be piped. In a document without floats, what one path gives is the text of a document
again; a second path gives on it what the joined path gives on the first document, be that a text
or a failure of the path.
-/
theorem lookup_pipe (mode : Comparison) {document a b out : String} {j : Json} {p q : Path}
    (hdoc : Json.parse document = .ok j) (hfloat : j.FloatFree) (ha : Path.parse a = .ok p)
    (hfree : ∀ s ∈ p.segments, s.isFilter = false) (hb : Path.parse b = .ok q)
    (hout : lookup mode document a = .ok out) :
    lookup mode out b = lookup mode document (a ++ "." ++ b) ∧
      ∀ e, lookup mode out b = .error e → ∃ f, e = .path f := by
  rw [lookup_eq_answer hdoc ha] at hout
  obtain ⟨k, hk, rfl⟩ := Json.map_eq_ok hout
  have hq : q.segments ≠ [] := (Path.parse_eq_ok hb).1.nonempty
  obtain ⟨hpart, hresolve⟩ := resolve_of_answer hfree hq hk
  have hread : Json.parse k.render = .ok k := by
    rcases hpart with hpart | rfl
    · exact Json.parse_render ((Json.fits_of_parse hdoc).of_isPart hpart) (hfloat.of_isPart hpart)
    · exact Json.parse_render (.scalar rfl) .null
  rw [lookup_eq_answer hread hb, lookup_eq_answer hdoc (Path.parse_append ha hfree hb), hresolve]
  exact ⟨rfl, fun e => answer_ne_error⟩

theorem lookup_pipe_nested :
    let document := "\x7b\"a\":[\x7b\"k\":\"q\\\"\",\"n\":-7\x7d],\"z\":null\x7d"
    let part := "\x7b\"k\":\"q\\\"\",\"n\":-7\x7d"
    (lookup .text document "a[0]" = .ok part ∧
      lookup .text part "n" = lookup .text document ("a[0]" ++ "." ++ "n")) ∧
    (lookup .text document "z" = .ok "null" ∧
      lookup .text "null" "n" = lookup .text document ("z" ++ "." ++ "n")) := by
  intro document part
  let record : Json := .object [("k", .string "q\""), ("n", .number (.integer (-7) (by decide)))]
  let root : Json := .object [("a", .array [record]), ("z", .null)]
  have hfits : Json.Fits Json.maxDepth root := by
    refine .object (by decide) (List.forall_mem_cons.mpr ⟨.array ?_, ?_⟩)
    · refine List.forall_mem_singleton.mpr (.object (by decide) (List.forall_mem_cons.mpr ?_))
      exact ⟨.scalar rfl, List.forall_mem_singleton.mpr (.scalar rfl)⟩
    · exact List.forall_mem_singleton.mpr (.scalar rfl)
  have hfloat : root.FloatFree := by
    refine .object (List.forall_mem_cons.mpr ⟨.array ?_, ?_⟩)
    · refine List.forall_mem_singleton.mpr (.object (List.forall_mem_cons.mpr ?_))
      exact ⟨.string _, List.forall_mem_singleton.mpr (.integer _ _)⟩
    · exact List.forall_mem_singleton.mpr .null
  have hdoc : Json.parse document = .ok root := by
    have hrender : root.render = document := by decide
    rw [← hrender]
    exact Json.parse_render hfits hfloat
  have hitem : Path.parse "a[0]" = .ok ⟨[.key "a" "0"]⟩ :=
    Path.parse_of_render (by decide) (by decide)
  have hnull : Path.parse "z" = .ok ⟨[.field "z"]⟩ := Path.parse_of_render (by decide) (by decide)
  have hnext : Path.parse "n" = .ok ⟨[.field "n"]⟩ := Path.parse_of_render (by decide) (by decide)
  have hpart : lookup .text document "a[0]" = .ok part := by
    rw [lookup_eq_answer hdoc hitem]
    decide
  have habsent : lookup .text document "z" = .ok "null" := by
    rw [lookup_eq_answer hdoc hnull]
    decide
  exact ⟨⟨hpart, (lookup_pipe .text hdoc hfloat hitem (by decide) hnext hpart).1⟩,
    habsent, (lookup_pipe .text hdoc hfloat hnull (by decide) hnext habsent).1⟩

end ObjectPath.CommandLine
