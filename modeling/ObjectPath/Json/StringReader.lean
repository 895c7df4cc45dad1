import ObjectPath.Json.Fault

/-! Reading the string literals of documents. -/
namespace ObjectPath.Json

def hexValue? (c : Char) : Option Nat :=
  let n := c.toNat
  if c.isDigit then some (n - 48)
  else if 65 ≤ n && n ≤ 70 then some (n - 55)
  else if 97 ≤ n && n ≤ 102 then some (n - 87)
  else none

def hexValue4? (a b c d : Char) : Option Nat := do
  let high := (← hexValue? a) * 16 + (← hexValue? b)
  let low := (← hexValue? c) * 16 + (← hexValue? d)
  return high * 256 + low

/-- Reads the four digits of an escape; they take four bytes, whatever these are. -/
def readHex : Reader Nat := fun cs =>
  if Text.byteLength cs < 4 then .error ⟨.endInString, 0⟩
  else
    match cs with
    | a :: b :: c :: d :: rest =>
      match hexValue4? a b c d with
      | some n => .ok (n, rest)
      | none => .error (.behind .invalidEscape 4 cs)
    | _ => .error (.behind .invalidEscape 4 cs)

def isLeading (n : Nat) : Bool := 0xD800 ≤ n && n < 0xDC00

def isTrailing (n : Nat) : Bool := 0xDC00 ≤ n && n < 0xE000

/-- Reads the escape of a trailing surrogate that has to follow a leading one. -/
def readTrailing (leading : Nat) : Reader Char
  | '\\' :: 'u' :: rest => do
    let (n, rest) ← readHex rest
    if isTrailing n then
      .ok (Char.ofNat ((leading - 0xD800) * 1024 + (n - 0xDC00) + 0x10000), rest)
    else .error (.before .loneSurrogate rest)
  | ['\\'] => .error (.before .endInString [])
  | '\\' :: rest => .error (.on .missingSurrogate rest)
  | [] => .error (.before .endInString [])
  | cs => .error (.on .missingSurrogate cs)

/-- Reads a character from behind `\u`: one of the basic plane, or two surrogates. -/
def readUnicode : Reader Char := fun cs => do
  let (n, rest) ← readHex cs
  if isTrailing n then .error (.before .loneSurrogate rest)
  else if isLeading n then readTrailing n rest
  else .ok (Char.ofNat n, rest)

def readEscape : Reader Char
  | [] => .error (.before .endInString [])
  | '"' :: rest => .ok ('"', rest)
  | '\\' :: rest => .ok ('\\', rest)
  | '/' :: rest => .ok ('/', rest)
  | 'b' :: rest => .ok ('\x08', rest)
  | 'f' :: rest => .ok ('\x0c', rest)
  | 'n' :: rest => .ok ('\n', rest)
  | 'r' :: rest => .ok ('\r', rest)
  | 't' :: rest => .ok ('\t', rest)
  | 'u' :: rest => readUnicode rest
  | cs => .error (.on .invalidEscape cs)

theorem readHex_shorter {cs rest : List Char} {n : Nat} (h : readHex cs = .ok (n, rest)) :
    rest.length < cs.length := by
  unfold readHex at h
  split at h
  · simp at h
  · split at h
    · split at h
      · simp only [Except.ok.injEq, Prod.mk.injEq] at h
        obtain ⟨_, rfl⟩ := h
        simp only [List.length_cons]
        omega
      · simp at h
    · simp at h

theorem readTrailing_shorter {leading : Nat} {cs rest : List Char} {c : Char}
    (h : readTrailing leading cs = .ok (c, rest)) : rest.length < cs.length := by
  unfold readTrailing at h
  split at h
  · rename_i tail
    cases hx : readHex tail with
    | error e => simp [hx, bind, Except.bind] at h
    | ok p =>
      obtain ⟨n, more⟩ := p
      have hs := readHex_shorter hx
      simp only [hx, bind, Except.bind] at h
      split at h
      · simp only [Except.ok.injEq, Prod.mk.injEq] at h
        obtain ⟨_, rfl⟩ := h
        simp only [List.length_cons]
        omega
      · simp at h
  all_goals simp at h

theorem readUnicode_shorter {cs rest : List Char} {c : Char}
    (h : readUnicode cs = .ok (c, rest)) : rest.length < cs.length := by
  unfold readUnicode at h
  cases hx : readHex cs with
  | error e => simp [hx, bind, Except.bind] at h
  | ok p =>
    obtain ⟨n, more⟩ := p
    have hs := readHex_shorter hx
    simp only [hx, bind, Except.bind] at h
    split at h
    · simp at h
    · split at h
      · exact Nat.lt_trans (readTrailing_shorter h) hs
      · simp only [Except.ok.injEq, Prod.mk.injEq] at h
        obtain ⟨_, rfl⟩ := h
        exact hs

theorem readEscape_shorter {cs rest : List Char} {c : Char}
    (h : readEscape cs = .ok (c, rest)) : rest.length < cs.length := by
  unfold readEscape at h
  split at h
  case h_10 tail =>
    have := readUnicode_shorter h
    simp only [List.length_cons]
    omega
  all_goals simp at h
  all_goals
    obtain ⟨_, rfl⟩ := h
    simp

def readChars (cs : List Char) : Except Fault (List Char × List Char) :=
  match cs with
  | [] => .error (.before .endInString [])
  | '"' :: rest => .ok ([], rest)
  | '\\' :: rest =>
    match _h : readEscape rest with
    | .error e => .error e
    | .ok (c, more) => (readChars more).map fun (text, rest) => (c :: text, rest)
  | c :: rest =>
    if c.toNat < 0x20 then .error (.before .controlCharacter rest)
    else (readChars rest).map fun (text, rest) => (c :: text, rest)
termination_by cs.length
decreasing_by
  · have := readEscape_shorter _h
    simp only [List.length_cons]
    omega
  · simp

def readString : Reader String := fun cs =>
  (readChars cs).map fun (text, rest) => (String.ofList text, rest)

end ObjectPath.Json
