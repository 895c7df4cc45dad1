import ObjectPath.Proofs.Json.Equality
import ObjectPath.Proofs.Json.RoundTrip
import ObjectPath.Resolve.Filter

/-! The literals of filters name scalars: each one without float by its text, and strings bare. -/
namespace ObjectPath.Json

def IsScalarText (text : String) : Prop := ∃ j, parse text = .ok j ∧ j.isScalar = true

theorem isScalar_ofLiteral (text : String) : (ofLiteral text).isScalar = true := by
  unfold ofLiteral
  split
  · split
    · assumption
    · rfl
  · rfl

theorem ofLiteral_of_parse {text : String} {j : Json} (h : parse text = .ok j)
    (hscalar : j.isScalar = true) : ofLiteral text = j := by
  unfold ofLiteral
  rw [h]
  exact if_pos hscalar

theorem ofLiteral_of_not_isScalarText {text : String} (h : ¬ IsScalarText text) :
    ofLiteral text = string text := by
  unfold ofLiteral
  split
  · rename_i j hparse
    exact if_neg fun hscalar => h ⟨j, hparse, hscalar⟩
  · rfl

theorem parse_render_scalar {v : Json} (hv : v.isScalar = true) (hfree : v.FloatFree) :
    parse v.render = .ok v :=
  parse_render (.scalar hv) hfree

theorem ofLiteral_render {v : Json} (hv : v.isScalar = true) (hfree : v.FloatFree) :
    ofLiteral v.render = v :=
  ofLiteral_of_parse (parse_render_scalar hv hfree) hv

/-- Where no floats are involved a scalar equals nothing but itself. -/
theorem equalValue_iff_eq {x v : Json} (hv : v.isScalar = true) (hfree : v.FloatFree)
    (hx : x.FloatFree) : x.equalValue v = true ↔ x = v := by
  cases hfree with
  | array _ => exact absurd hv Bool.false_ne_true
  | object _ => exact absurd hv Bool.false_ne_true
  | _ => cases hx <;> simp [equalValue, same]

/--
The text of a scalar without float is a literal for this scalar, and a typed filter with it keeps
the elements whose field holds the scalar. A literal never is an array or object: what is not the
text of a scalar stands for itself, as a string.
-/
theorem ofLiteral_names_scalars :
    (∀ v : Json, v.isScalar = true → v.FloatFree → ofLiteral v.render = v ∧
      ∀ (element c : Value) (field : String), element.isAbsent = false →
        element.field? field = some c →
        (c.snapshot = v → Filter.keeps .typed field v.render element = true) ∧
        (c.snapshot.FloatFree →
          (Filter.keeps .typed field v.render element = true ↔ c.snapshot = v))) ∧
    (∀ text, (ofLiteral text).isScalar = true) ∧
    (∀ text j, parse text = .ok j → j.isScalar = true → ofLiteral text = j) ∧
    (∀ text, ¬ IsScalarText text → ofLiteral text = string text) := by
  refine ⟨?_, isScalar_ofLiteral, fun _ _ => ofLiteral_of_parse,
    fun _ => ofLiteral_of_not_isScalarText⟩
  intro v hv hfree
  have hliteral := ofLiteral_render hv hfree
  refine ⟨hliteral, ?_⟩
  intro element c field hpresent hfield
  have hkeeps : Filter.keeps .typed field v.render element = c.snapshot.equalValue v := by
    simp [Filter.keeps, hpresent, hfield, Comparison.holds, hliteral]
  rw [hkeeps]
  refine ⟨?_, equalValue_iff_eq hv hfree⟩
  intro hc
  rw [hc]
  exact (equalValue_iff_eq hv hfree hfree).mpr rfl

theorem ofLiteral_names_scalars_escaped :
    let s := "\"😀\\\x01"
    let element : Value := .record "Element" [("k", .text .owned s)]
    (string s).render = "\"\\\"😀\\\\\\u0001\"" ∧ ofLiteral (string s).render = string s ∧
      Filter.keeps .typed "k" (string s).render element = true ∧
      ofLiteral "-7" = number (.integer (-7) (by decide)) ∧ ofLiteral "[7]" = string "[7]" := by
  intro s element
  obtain ⟨hnames, -, hread, hplain⟩ := ofLiteral_names_scalars
  obtain ⟨hliteral, hkeeps⟩ := hnames (string s) rfl (.string s)
  have harray : parse "[7]" = .ok (array [number (.integer 7 (by decide))]) := by rfl
  have hnot : ¬ IsScalarText "[7]" := by
    rintro ⟨j, hj, hscalar⟩
    obtain rfl := Except.ok.inj (harray.symm.trans hj)
    exact absurd hscalar Bool.false_ne_true
  exact ⟨by decide, hliteral, (hkeeps element (.text .owned s) "k" rfl rfl).1 rfl,
    hread "-7" _ (by rfl) rfl, hplain "[7]" hnot⟩

end ObjectPath.Json
