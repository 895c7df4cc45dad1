import ObjectPath.Proofs.Value.Snapshot

/-! Values without layers, at any depth; they show what the values with layers show. -/
namespace ObjectPath

def Lookup.map (f : Value → Value) : Lookup → Lookup
  | found v => found (f v)
  | missing => missing
  | unsupported => unsupported

theorem Lookup.map_ofOption (f : Value → Value) (v? : Option Value) :
    (ofOption v?).map f = ofOption (v?.map f) := by
  cases v? <;> rfl

namespace Value

mutual

/-- A value without the layers around it and around its parts, at any depth. -/
def strip : Value → Value
  | wrapped _ v => v.strip
  | sequence kind items => sequence kind (stripItems items)
  | map kind keyType entries => map kind keyType (stripEntries entries)
  | record name fields => record name (stripFields fields)
  | v => v

def stripItems : List Value → List Value
  | [] => []
  | v :: vs => v.strip :: stripItems vs

def stripEntries : List (Key × Value) → List (Key × Value)
  | [] => []
  | (k, v) :: es => (k, v.strip) :: stripEntries es

def stripFields : List (String × Value) → List (String × Value)
  | [] => []
  | (name, v) :: fs => (name, v.strip) :: stripFields fs

end

/-- Values that hold no others; documents are not looked into. -/
def isLeaf : Value → Bool
  | wrapped .. | sequence .. | map .. | record .. => false
  | _ => true

/-- A value that has no layers, neither around it nor around any of its parts. -/
inductive IsBare : Value → Prop
  | leaf {v : Value} (h : v.isLeaf = true) : IsBare v
  | sequence (kind : SequenceKind) {items : List Value} (h : ∀ v ∈ items, IsBare v) :
    IsBare (.sequence kind items)
  | map (kind : MapKind) (keyType : KeyType) {entries : List (Key × Value)}
    (h : ∀ e ∈ entries, IsBare e.2) : IsBare (.map kind keyType entries)
  | record (name : String) {fields : List (String × Value)} (h : ∀ f ∈ fields, IsBare f.2) :
    IsBare (.record name fields)

theorem stripItems_eq (items : List Value) : stripItems items = items.map strip := by
  induction items with
  | nil => rfl
  | cons v vs ih => rw [stripItems, ih, List.map_cons]

theorem stripEntries_eq (entries : List (Key × Value)) :
    stripEntries entries = entries.map fun e => (e.1, e.2.strip) := by
  induction entries with
  | nil => rfl
  | cons e es ih => rw [stripEntries, ih, List.map_cons]

theorem stripFields_eq (fields : List (String × Value)) :
    stripFields fields = fields.map fun f => (f.1, f.2.strip) := by
  induction fields with
  | nil => rfl
  | cons f fs ih => rw [stripFields, ih, List.map_cons]

mutual

theorem isBare_strip : (v : Value) → v.strip.IsBare
  | wrapped _ v => isBare_strip v
  | sequence kind items => .sequence kind (isBare_stripItems items)
  | map kind keyType entries => .map kind keyType (isBare_stripEntries entries)
  | record name fields => .record name (isBare_stripFields fields)
  | boolean _ | character _ | text _ _ | integer _ | single _ | double _ | json _ | absent
  | sealed _ _ => .leaf rfl

theorem isBare_stripItems : (items : List Value) → ∀ v ∈ stripItems items, v.IsBare
  | [] => fun _ hv => absurd hv List.not_mem_nil
  | v :: vs => List.forall_mem_cons.mpr ⟨isBare_strip v, isBare_stripItems vs⟩

theorem isBare_stripEntries : (entries : List (Key × Value)) →
    ∀ e ∈ stripEntries entries, e.2.IsBare
  | [] => fun _ he => absurd he List.not_mem_nil
  | (_, v) :: es => List.forall_mem_cons.mpr ⟨isBare_strip v, isBare_stripEntries es⟩

theorem isBare_stripFields : (fields : List (String × Value)) → ∀ f ∈ stripFields fields, f.2.IsBare
  | [] => fun _ hf => absurd hf List.not_mem_nil
  | (_, v) :: fs => List.forall_mem_cons.mpr ⟨isBare_strip v, isBare_stripFields fs⟩

end

mutual

/-- Layers do not show in snapshots. -/
theorem snapshot_strip : (v : Value) → v.strip.snapshot = v.snapshot
  | wrapped _ v => snapshot_strip v
  | sequence _ items => congrArg Json.array (itemSnapshots_stripItems items)
  | map kind keyType entries => by
    rw [strip, snapshot, snapshot, entrySnapshots_stripEntries]
  | record name fields => by
    rw [strip, snapshot, snapshot, fieldSnapshots_stripFields]
  | boolean _ | character _ | text _ _ | integer _ | single _ | double _ | json _ | absent
  | sealed _ _ => rfl

theorem itemSnapshots_stripItems : (items : List Value) →
    itemSnapshots (stripItems items) = itemSnapshots items
  | [] => rfl
  | v :: vs => by
    rw [stripItems, itemSnapshots, itemSnapshots, snapshot_strip v, itemSnapshots_stripItems vs]

theorem entrySnapshots_stripEntries : (entries : List (Key × Value)) →
    entrySnapshots (stripEntries entries) = entrySnapshots entries
  | [] => rfl
  | (k, v) :: es => by
    rw [stripEntries, entrySnapshots, entrySnapshots, snapshot_strip v,
      entrySnapshots_stripEntries es]

theorem fieldSnapshots_stripFields : (fields : List (String × Value)) →
    fieldSnapshots (stripFields fields) = fieldSnapshots fields
  | [] => rfl
  | (name, v) :: fs => by
    rw [stripFields, fieldSnapshots, fieldSnapshots, snapshot_strip v,
      fieldSnapshots_stripFields fs]

end

theorem typeName_strip : (v : Value) → v.strip.typeName = v.typeName
  | wrapped _ v => typeName_strip v
  | sequence .. | map .. | record .. | boolean _ | character _ | text .. | integer _ | single _
  | double _ | json _ | absent | sealed .. => rfl

theorem isAbsent_strip : (v : Value) → v.strip.isAbsent = v.isAbsent
  | wrapped _ v => isAbsent_strip v
  | sequence .. | map .. | record .. | boolean _ | character _ | text .. | integer _ | single _
  | double _ | json _ | absent | sealed .. => rfl

theorem text?_strip : (v : Value) → v.strip.text? = v.text?
  | wrapped _ v => text?_strip v
  | sequence .. | map .. | record .. | boolean _ | character _ | text .. | integer _ | single _
  | double _ | json _ | absent | sealed .. => rfl

theorem map_strip_json (j? : Option Json) : (j?.map json).map strip = j?.map json := by
  cases j? <;> rfl

theorem map_strip_items (items : List Json) : (items.map json).map strip = items.map json := by
  rw [List.map_map]
  rfl

theorem select?_stripEntries (keyType : KeyType) (entries : List (Key × Value)) (token : String) :
    select? keyType (stripEntries entries) token = (select? keyType entries token).map strip := by
  have hfind : ∀ key, Entries.find? key (stripEntries entries) =
      (Entries.find? key entries).map strip := by
    intro key
    rw [stripEntries_eq]
    exact Entries.find?_map (fun k => k) strip fun e _ h => h
  rw [select?, select?]
  cases keyType.read? token with
  | none => rfl
  | some key => exact hfind key

theorem find?_stripFields (fields : List (String × Value)) (name : String) :
    Entries.find? name (stripFields fields) = (Entries.find? name fields).map strip := by
  rw [stripFields_eq]
  exact Entries.find?_map (fun n => n) strip fun f _ h => h

theorem item?_map (f : Value → Value) (items : List Value) (token : String) :
    item? (items.map f) token = (item? items token).map f := by
  rw [item?, item?]
  cases Numeral.position? token.toList with
  | none => rfl
  | some i => exact List.getElem?_map

theorem field?_strip (name : String) : (v : Value) → v.strip.field? name = (v.field? name).map strip
  | wrapped _ v => field?_strip name v
  | map _ keyType entries => select?_stripEntries keyType entries name
  | record _ fields => find?_stripFields fields name
  | json (.object _) => (map_strip_json _).symm
  | json .null | json (.bool _) | json (.number _) | json (.string _) | json (.array _)
  | sequence .. | boolean _ | character _ | text .. | integer _ | single _ | double _ | absent
  | sealed .. => rfl

theorem lookup_strip (token : String) : (v : Value) → v.strip.lookup token = (v.lookup token).map strip
  | wrapped _ v => lookup_strip token v
  | sequence _ items => by
    show Lookup.ofOption (item? (stripItems items) token) = _
    rw [stripItems_eq, item?_map, ← Lookup.map_ofOption]
    rfl
  | map _ keyType entries => by
    show Lookup.ofOption (select? keyType (stripEntries entries) token) = _
    rw [select?_stripEntries, ← Lookup.map_ofOption]
    rfl
  | json (.object members) => by
    show Lookup.ofOption ((Entries.find? token members).map json) = (Lookup.ofOption _).map strip
    rw [Lookup.map_ofOption, map_strip_json]
  | json (.array items) => by
    show Lookup.ofOption (item? (items.map json) token) = (Lookup.ofOption _).map strip
    rw [Lookup.map_ofOption, ← item?_map, map_strip_items]
  | json .null | json (.bool _) | json (.number _) | json (.string _) | record .. | boolean _
  | character _ | text .. | integer _ | single _ | double _ | absent | sealed .. => rfl

theorem elements?_strip : (v : Value) → v.strip.elements? = v.elements?.map (List.map strip)
  | wrapped _ v => elements?_strip v
  | sequence _ items => congrArg some (stripItems_eq items)
  | json (.array items) => congrArg some (map_strip_items items).symm
  | json .null | json (.bool _) | json (.number _) | json (.string _) | json (.object _) | map ..
  | record .. | boolean _ | character _ | text .. | integer _ | single _ | double _ | absent
  | sealed .. => rfl

end Value

end ObjectPath
