import ObjectPath.CommandLine.Program
import ObjectPath.Proofs.CommandLine.Arguments
import ObjectPath.Proofs.CommandLine.Piping
import ObjectPath.Proofs.Json.Printing

/-! What a whole run reports: its exit code, its one line of output, and the first thing wrong. -/
namespace ObjectPath

theorem Value.isAbsent_json {j : Json} (hj : j ≠ .null) : (json j).isAbsent = false := by
  cases j with
  | null => exact absurd rfl hj
  | _ => rfl

namespace CommandLine

/-- An input that is the text of a document, perhaps with white space around it. -/
def Supplies (input : ByteArray) (j : Json) : Prop :=
  ∃ text, String.fromUTF8? input = some text ∧ Json.parse (trimText text) = .ok j

/--
Why a run fails whose arguments were accepted, and what it reports: the input comes first, then its
document, then the path. A path is only looked at when the document is not null.
-/
inductive Fails (o : Options) (input : ByteArray) : String → Prop
  | notText (h : String.fromUTF8? input = none) :
    Fails o input "stream did not contain valid UTF-8"
  | notDocument {text : String} {e : Json.SyntaxError}
    (htext : String.fromUTF8? input = some text) (h : Json.parse (trimText text) = .error e) :
    Fails o input (LookupError.document e).message
  | malformedPath {j : Json} {e : SyntaxError} (hinput : Supplies input j) (hj : j ≠ .null)
    (h : Path.parse o.path = .error e) : Fails o input (LookupError.path (.malformed e)).message
  | unresolved {j : Json} {p : Path} {f : Failure} (hinput : Supplies input j) (hj : j ≠ .null)
    (hpath : Path.parse o.path = .ok p) (h : p.resolve o.comparison (.json j) = .error f) :
    Fails o input (LookupError.path f).message

def Options.print (o : Options) (j : Json) : String := if o.pretty then j.pretty else j.render

namespace Supplies

variable {o : Options} {input : ByteArray} {j : Json}

/-- A run on the text of a document prints what the path leads to, or reports the failure. -/
theorem ofInput_eq (h : Supplies input j) : Run.ofInput o input =
    match answer (resolve o.comparison (.json j) o.path) with
    | .ok k => .success (o.print k)
    | .error e => .failure 1 e.message := by
  obtain ⟨text, htext, hdoc⟩ := h
  simp only [Run.ofInput, htext, run, lookupDocument_eq_answer hdoc]
  cases answer (resolve o.comparison (.json j) o.path) <;> rfl

theorem ofInput_error (h : Supplies input j) {f : Failure}
    (hresolve : resolve o.comparison (.json j) o.path = .error f) :
    Run.ofInput o input = .failure 1 (LookupError.path f).message := by
  rw [h.ofInput_eq, hresolve]
  rfl

theorem ofInput_ok (h : Supplies input j) {found? : Option Found}
    (hresolve : resolve o.comparison (.json j) o.path = .ok found?) :
    ∃ k : Json, Run.ofInput o input = .success (o.print k) := by
  rw [h.ofInput_eq, hresolve]
  cases found? with
  | none => exact ⟨.null, rfl⟩
  | some found => exact ⟨found.snapshot, rfl⟩

/-- The null document has nothing to look up, whatever the path is. -/
theorem ofInput_null (h : Supplies input .null) : Run.ofInput o input = .success "null" := by
  have hnull : resolve o.comparison (.json .null) o.path = .ok none := rfl
  have hprint : o.print .null = "null" := by
    unfold Options.print
    cases o.pretty <;> decide
  rw [h.ofInput_eq, hnull]
  exact congrArg Run.success hprint

end Supplies

/-- Every reason to fail is reported with code 1. -/
theorem Fails.ofInput_eq {o : Options} {input : ByteArray} {message : String}
    (h : Fails o input message) : Run.ofInput o input = .failure 1 message := by
  cases h with
  | notText h => simp only [Run.ofInput, h]
  | notDocument htext h => simp only [Run.ofInput, htext, run, lookupDocument, h, Except.map]
  | malformedPath hinput hj h =>
    exact hinput.ofInput_error (resolve_malformed (Value.isAbsent_json hj) h _)
  | unresolved hinput _ hpath h =>
    exact hinput.ofInput_error ((resolve_eq_resolve_path hpath _ _).trans h)

/-- A run on an input fails for one of the reasons, or it prints a document. -/
theorem Run.ofInput_cases (o : Options) (input : ByteArray) :
    (∃ message, Fails o input message) ∨
      ∃ k : Json, ofInput o input = .success (o.print k) := by
  cases htext : String.fromUTF8? input with
  | none => exact .inl ⟨_, .notText htext⟩
  | some text =>
    cases hdoc : Json.parse (trimText text) with
    | error e => exact .inl ⟨_, .notDocument htext hdoc⟩
    | ok j =>
      have hinput : Supplies input j := ⟨text, htext, hdoc⟩
      by_cases hj : j = .null
      · subst hj
        exact .inr (hinput.ofInput_ok rfl)
      · cases hpath : Path.parse o.path with
        | error e => exact .inl ⟨_, .malformedPath hinput hj hpath⟩
        | ok p =>
          cases h : p.resolve o.comparison (.json j) with
          | error f => exact .inl ⟨_, .unresolved hinput hj hpath h⟩
          | ok found? =>
            have hresolve := (resolve_eq_resolve_path hpath o.comparison (.json j)).trans h
            exact .inr (hinput.ofInput_ok hresolve)

theorem program_of_error {arguments : List String} {e : UsageError}
    (h : Options.parse arguments = .error e) (input : ByteArray) :
    program arguments input = .failure 2 e.message := by
  rw [program, h]

theorem program_of_ok {arguments : List String} {o : Options}
    (h : Options.parse arguments = .ok o) (input : ByteArray) :
    program arguments input = .ofInput o input := by
  rw [program, h]

/-- The checks of a run are made one after the other: its arguments, then its input. -/
theorem program_cases (arguments : List String) (input : ByteArray) :
    (∃ e, Options.parse arguments = .error e ∧
      program arguments input = .failure 2 e.message) ∨
    (∃ o message, Options.parse arguments = .ok o ∧ Fails o input message ∧
      program arguments input = .failure 1 message) ∨
    ∃ (o : Options) (k : Json), Options.parse arguments = .ok o ∧
      program arguments input = .success (o.print k) := by
  cases hparse : Options.parse arguments with
  | error e => exact .inl ⟨e, rfl, program_of_error hparse input⟩
  | ok o =>
    have hprogram := program_of_ok hparse input
    rcases Run.ofInput_cases o input with ⟨message, hfails⟩ | ⟨k, hsuccess⟩
    · exact .inr (.inl ⟨o, message, rfl, hfails, hprogram.trans hfails.ofInput_eq⟩)
    · exact .inr (.inr ⟨o, k, rfl, hprogram.trans hsuccess⟩)

theorem code_eq_two_iff (arguments : List String) (input : ByteArray) :
    (program arguments input).code = 2 ↔ ∃ e, Options.parse arguments = .error e := by
  rcases program_cases arguments input with
    ⟨e, hparse, hrun⟩ | ⟨o, message, hparse, -, hrun⟩ | ⟨o, k, hparse, hrun⟩
  · simp [hparse, hrun, Run.failure]
  · simp [hparse, hrun, Run.failure]
  · simp [hparse, hrun, Run.success]

theorem code_eq_one_iff {arguments : List String} {o : Options}
    (h : Options.parse arguments = .ok o) (input : ByteArray) :
    (program arguments input).code = 1 ↔ ∃ message, Fails o input message := by
  rw [program_of_ok h]
  constructor
  · intro hcode
    rcases Run.ofInput_cases o input with hfails | ⟨k, hsuccess⟩
    · exact hfails
    · rw [hsuccess] at hcode
      exact absurd hcode (by simp [Run.success])
  · rintro ⟨message, hfails⟩
    rw [hfails.ofInput_eq]
    rfl

theorem code_eq_zero_iff {arguments : List String} {o : Options}
    (h : Options.parse arguments = .ok o) (input : ByteArray) :
    (program arguments input).code = 0 ↔ ¬ ∃ message, Fails o input message := by
  rw [← code_eq_one_iff h, program_of_ok h]
  rcases Run.ofInput_cases o input with ⟨message, hfails⟩ | ⟨k, hsuccess⟩
  · simp [hfails.ofInput_eq, Run.failure]
  · simp [hsuccess, Run.success]

/-- Only one of the two outputs is written to. -/
theorem errors_of_program (arguments : List String) (input : ByteArray) :
    ((program arguments input).code = 0 → (program arguments input).errors = "") ∧
    ((program arguments input).code ≠ 0 →
      (program arguments input).output = "" ∧ (program arguments input).errors ≠ "") := by
  rcases program_cases arguments input with
    ⟨e, -, hrun⟩ | ⟨o, message, -, -, hrun⟩ | ⟨o, k, -, hrun⟩
  · simp [hrun, Run.failure]
  · simp [hrun, Run.failure]
  · simp [hrun, Run.success]

/-- Without indentation, a run that succeeds prints the compact text of a document. -/
theorem output_of_program {arguments : List String} {input : ByteArray}
    (hcode : (program arguments input).code = 0) (hpretty : "--pretty" ∉ arguments) :
    ∃ k : Json, (program arguments input).output = k.render ++ "\n" := by
  rcases program_cases arguments input with
    ⟨e, -, hrun⟩ | ⟨o, message, -, -, hrun⟩ | ⟨o, k, hparse, hrun⟩
  · rw [hrun] at hcode
    exact absurd hcode (by simp [Run.failure])
  · rw [hrun] at hcode
    exact absurd hcode (by simp [Run.failure])
  · obtain ⟨-, -, -, hflag⟩ := Options.parse_accepts_iff.mp hparse
    have hcompact : o.pretty = false := by
      rw [← Bool.not_eq_true, hflag]
      exact hpretty
    rw [hrun, Options.print, hcompact]
    exact ⟨k, rfl⟩

/--
The contract of a whole run. Refused arguments give code 2, whatever the input is. Else the run
gives code 1 and reports the first thing that is wrong, or code 0. A malformed path is not wrong for
the null document. Only one of the outputs is written to; a result that is not indented is a line.
-/
theorem program_contract (arguments : List String) (input : ByteArray) :
    ((program arguments input).code = 2 ↔ ∃ e, Options.parse arguments = .error e) ∧
    (∀ e, Options.parse arguments = .error e →
      program arguments input = .failure 2 e.message) ∧
    (∀ o, Options.parse arguments = .ok o →
      ((program arguments input).code = 1 ↔ ∃ message, Fails o input message) ∧
      ((program arguments input).code = 0 ↔ ¬ ∃ message, Fails o input message) ∧
      (∀ message, Fails o input message → program arguments input = .failure 1 message) ∧
      (Supplies input .null → program arguments input = .success "null")) ∧
    ((program arguments input).code = 0 → (program arguments input).errors = "") ∧
    ((program arguments input).code ≠ 0 →
      (program arguments input).output = "" ∧ (program arguments input).errors ≠ "") ∧
    ((program arguments input).code = 0 → "--pretty" ∉ arguments →
      ∃ line, (program arguments input).output = line ++ "\n" ∧ Text.OneLine line.toList) := by
  obtain ⟨hsucceeds, hfails⟩ := errors_of_program arguments input
  refine ⟨code_eq_two_iff arguments input, ?_, ?_, hsucceeds, hfails, ?_⟩
  · intro e hparse
    exact program_of_error hparse input
  · intro o hparse
    refine ⟨code_eq_one_iff hparse input, code_eq_zero_iff hparse input, ?_, ?_⟩
    · intro message hfails
      rw [program_of_ok hparse, hfails.ofInput_eq]
    · intro hnull
      rw [program_of_ok hparse, hnull.ofInput_null]
  · intro hcode hpretty
    obtain ⟨k, houtput⟩ := output_of_program hcode hpretty
    refine ⟨k.render, houtput, ?_⟩
    rw [Json.render_toList]
    exact Json.oneLine_chars k

theorem program_contract_controls :
    let control := "\x7b\"\\n\":\"\\u0001\"\x7d\n".toUTF8
    let broken : ByteArray := ⟨#[0xff]⟩
    (program ["\n"] control = ⟨0, "\"\\u0001\"\n", ""⟩ ∧
      ∃ line, "\"\\u0001\"\n" = line ++ "\n" ∧ Text.OneLine line.toList) ∧
    program ["o["] "null".toUTF8 = .success "null" ∧
    (program ["o["] control).code = 1 ∧
    program ["o["] broken = .failure 1 "stream did not contain valid UTF-8" ∧
    (program ["a", "b"] broken).code = 2 := by
  intro control broken
  let root : Json := .object [("\n", .string "\x01")]
  have hfits : Json.Fits Json.maxDepth root :=
    .object (by decide) (List.forall_mem_singleton.mpr (.scalar rfl))
  have hfloat : root.FloatFree := .object (List.forall_mem_singleton.mpr (.string _))
  have hdoc : Supplies control root := by
    refine ⟨"\x7b\"\\n\":\"\\u0001\"\x7d\n", by decide, ?_⟩
    have htrim : trimText "\x7b\"\\n\":\"\\u0001\"\x7d\n" = root.render := by decide
    rw [htrim]
    exact Json.parse_render hfits hfloat
  have hnull : Supplies "null".toUTF8 .null := by
    refine ⟨"null", by decide, ?_⟩
    have htrim : trimText "null" = Json.null.render := by decide
    rw [htrim]
    exact Json.parse_render (.scalar rfl) .null
  have hmalformed : Path.parse "o[" = .error (.unclosedBracket 1) := by
    rw [Path.parse, Path.readSegments_eq]
    rfl
  have hfield : Path.parse "\n" = .ok ⟨[.field "\n"]⟩ :=
    Path.parse_of_render (by decide) (by decide)
  have hline : program ["\n"] control = ⟨0, "\"\\u0001\"\n", ""⟩ := by
    let o : Options := ⟨"\n", .text, false⟩
    have hok : Options.parse ["\n"] = .ok o := by decide
    have hfound : resolve o.comparison (.json root) o.path =
        .ok (some (.one (.json (.string "\x01")))) := by
      rw [resolve_eq_resolve_path hfield]
      rfl
    rw [program_of_ok hok, hdoc.ofInput_eq, hfound]
    decide
  obtain ⟨-, -, -, -, -, honeLine⟩ := program_contract ["\n"] control
  obtain ⟨-, -, hnullRun, -⟩ := program_contract ["o["] "null".toUTF8
  obtain ⟨-, -, hcontrolRun, -⟩ := program_contract ["o["] control
  obtain ⟨-, -, hbrokenRun, -⟩ := program_contract ["o["] broken
  have hbracket : Options.parse ["o["] = .ok ⟨"o[", .text, false⟩ := by decide
  obtain ⟨-, -, -, hnullOutput⟩ := hnullRun _ hbracket
  obtain ⟨hcode, -⟩ := hcontrolRun _ hbracket
  obtain ⟨-, -, hreport, -⟩ := hbrokenRun _ hbracket
  refine ⟨⟨hline, ?_⟩, hnullOutput hnull, ?_, ?_, ?_⟩
  · rw [hline] at honeLine
    exact honeLine rfl (by decide)
  · exact hcode.mpr ⟨_, .malformedPath hdoc Json.noConfusion hmalformed⟩
  · exact hreport _ (.notText (by decide))
  · exact (program_contract ["a", "b"] broken).1.mpr ⟨.secondPath, by decide⟩

end CommandLine

end ObjectPath
