import Meterboard.Proofs.Cbor.Conform

/-!
# Records, field by field

The reader of a record first collects what it finds under the names of the fields and then puts the
record together in their order.  A tidy kind has no name twice, so the two passes come to the same
as one in which every field is looked up and read on its own.  What an entry of another name does to
a record, or the order of the entries, can be told from that alone.

* `Item.record` — a map whose keys are texts.
* `fieldOf?`, `fieldsOf?` — what one field, and all fields, contribute to the record.
* `conform?_record` — reading a record is reading its fields, as long as no name is repeated.
-/

namespace Meterboard.Cbor

open Wire

/-- A map whose keys are texts: no other map is read as a record. -/
def Item.record (es : List (String × Item)) : Item := .map (es.map fun e => (.text e.1, e.2))

lemma textEntries?_map (es : List (String × Item)) :
    textEntries? (es.map fun e => (.text e.1, e.2)) = some es := by
  have hread : textEntries? (es.map fun e => (.text e.1, e.2)) = some (es.map id) :=
    mapM_map_eq_some fun _ _ => rfl
  rwa [List.map_id] at hread

/-- Entries with text keys are those of a record. -/
lemma eq_map_of_textEntries? {entries : List (Item × Item)} {es : List (String × Item)}
    (h : textEntries? entries = some es) : entries = es.map fun e => (.text e.1, e.2) := by
  induction entries generalizing es with
  | nil =>
      cases h
      rfl
  | cons e entries ih =>
      obtain ⟨key, item⟩ := e
      simp only [textEntries?, List.mapM_cons, Option.bind_eq_bind, Option.bind_eq_some_iff,
        Option.map_eq_some_iff] at h
      obtain ⟨_, ⟨k, hkey, rfl⟩, rest, hrest, h⟩ := h
      cases h
      cases key <;> cases hkey
      rw [List.map_cons, ih hrest]

/-! ## One field -/

/-- What an entry, if there is one, contributes to a record as the value of a field. -/
def fieldOf? (name : String) (presence : Presence) (kind : Kind) :
    Option Item → Option (List (String × Value))
  | none => absent? name presence kind
  | some .null => if presence = .optional then some [] else none
  | some item => (conform? kind item).map fun v => [(name, v)]

/-- What all fields contribute, each with the entry under its name. -/
def fieldsOf? (entry : String → Option Item) : Fields → Option (List (String × Value))
  | .nil => some []
  | .cons name presence kind rest => do
      let here ← fieldOf? name presence kind (entry name)
      return here ++ (← fieldsOf? entry rest)

/-- No item is read as null. -/
lemma ne_null_of_conform? {kind : Kind} {item : Item} {v : Value}
    (h : conform? kind item = some v) : v ≠ .null := by
  rintro rfl
  cases kind <;> cases item <;>
    simp [conform?, Option.bind_eq_some_iff] at h

section

variable {name : String} {presence : Presence} {kind : Kind} {rest : Fields}

lemma fieldOf?_some {item : Item} (hitem : item ≠ .null) :
    fieldOf? name presence kind (some item) = (conform? kind item).map fun v => [(name, v)] := by
  cases item <;> first | rfl | exact absurd rfl hitem

/-! ## All fields -/

lemma assemble?_congr {f g : String → Option Value} : ∀ {fields : Fields},
    (∀ name ∈ fields.names, f name = g name) → fields.assemble? f = fields.assemble? g
  | .nil, _ => rfl
  | .cons name _ _ rest, h => by
      obtain ⟨hname, hrest⟩ := List.forall_mem_cons.1 h
      rw [Fields.assemble?, Fields.assemble?, hname, assemble?_congr hrest]

lemma found?_cons_null {es : List (String × Item)} (hentry : valueOf? es name = some .null) :
    found? (.cons name presence kind rest) es = (do
      let others ← found? rest es
      if presence = .optional then some ((name, .null) :: others) else none) := by
  obtain ⟨⟨k, i⟩, hfind, hnull⟩ := Option.map_eq_some_iff.1 hentry
  cases hnull
  rw [found?, hfind]
  rfl

/-- What was found stands under names of fields. -/
lemma key_mem_of_found? {es : List (String × Item)} :
    ∀ {fields : Fields} {found : List (String × Value)}, found? fields es = some found →
      ∀ e ∈ found, e.1 ∈ fields.names
  | .nil, _, h => by
      cases h
      simp
  | .cons name presence kind rest, found, h => by
      simp only [found?, Option.bind_eq_bind, Option.bind_eq_some_iff] at h
      obtain ⟨others, hothers, h⟩ := h
      have hrest : ∀ e ∈ others, e.1 ∈ (Fields.cons name presence kind rest).names :=
        fun e he => List.mem_cons_of_mem _ (key_mem_of_found? hothers e he)
      have hhere : ∀ v : Value, ∀ e ∈ (name, v) :: others,
          e.1 ∈ (Fields.cons name presence kind rest).names :=
        fun v => List.forall_mem_cons.2 ⟨List.mem_cons_self, hrest⟩
      split at h
      · cases h
        exact hrest
      · split at h
        · cases h
          exact hhere _
        · cases h
      · obtain ⟨v, _, h⟩ := Option.bind_eq_some_iff.1 h
        cases h
        exact hhere v

end

/-- Finding first and putting together then is reading field by field. -/
theorem found?_bind_assemble? {es : List (String × Item)} : ∀ {fields : Fields},
    fields.names.Nodup →
    (found? fields es).bind (fun found => fields.assemble? (valueOf? found)) =
      fieldsOf? (valueOf? es) fields
  | .nil, _ => rfl
  | .cons name presence kind rest, hnodup => by
      obtain ⟨hname, hnodup⟩ := List.nodup_cons.1 hnodup
      have hothers : (found? rest es).bind (fun found => rest.assemble? (valueOf? found)) =
          fieldsOf? (valueOf? es) rest := found?_bind_assemble? hnodup
      -- what was found under the first name is not looked at by the others
      have hskip : ∀ (v : Value) (others : List (String × Value)),
          rest.assemble? (valueOf? ((name, v) :: others)) = rest.assemble? (valueOf? others) :=
        fun v others => assemble?_congr fun other hother =>
          valueOf?_cons_of_ne (ne_of_mem_of_not_mem hother hname) v others
      rw [fieldsOf?, ← hothers]
      cases hentry : valueOf? es name with
      | none =>
          rw [found?_cons_none hentry]
          cases hfound : found? rest es with
          | none => simp
          | some others =>
              have hhere : valueOf? others name = none :=
                valueOf?_eq_none fun e he heq => hname (heq ▸ key_mem_of_found? hfound e he)
              simp [Fields.assemble?, fieldOf?, hhere]
      | some item =>
          by_cases hnull : item = .null
          · subst hnull
            rw [found?_cons_null hentry]
            by_cases hpresence : presence = .optional
            · cases hfound : found? rest es <;>
                simp [Fields.assemble?, fieldOf?, hpresence, hskip]
            · simp [fieldOf?, hpresence]
          · rw [found?_cons_some hentry hnull, fieldOf?_some hnull]
            cases hread : conform? kind item with
            | none => simp
            | some v =>
                cases hfound : found? rest es with
                | none => simp
                | some others =>
                    have hhere : valueOf? ((name, v) :: others) name = some v :=
                      valueOf?_cons_self name v others
                    simp [assemble?_cons_some hhere (ne_null_of_conform? hread), hskip,
                      Option.map_eq_bind]

/-- **Reading a record is reading its fields**, as long as no name is repeated. -/
theorem conform?_record {fields : Fields} (hnodup : fields.names.Nodup)
    (es : List (String × Item)) :
    conform? (.record fields) (.record es) =
      if distinctIn fields.names es then (fieldsOf? (valueOf? es) fields).map .record
      else none := by
  rw [Item.record, conform?, textEntries?_map, ← found?_bind_assemble? hnodup]
  cases hdistinct : distinctIn fields.names es with
  | false => simp [hdistinct]
  | true =>
      simp only [Option.bind_eq_bind, Option.bind_some, hdistinct]
      cases found? fields es <;> rfl

/-- A first field with a default that no entry is for has its default. -/
lemma field?_of_absent {name : String} {kind : Kind} {rest : Fields}
    (hnodup : (Fields.cons name .defaulted kind rest).names.Nodup) {entries : List (Item × Item)}
    (habsent : ∀ e ∈ entries, e.1 ≠ .text name) {v : Value}
    (h : conform? (.record (.cons name .defaulted kind rest)) (.map entries) = some v) :
    v.field? name = some kind.empty := by
  cases hes : textEntries? entries with
  | none => simp [conform?, hes] at h
  | some es =>
      obtain rfl := eq_map_of_textEntries? hes
      have hnone : valueOf? es name = none := by
        refine valueOf?_eq_none fun e he heq => ?_
        exact habsent _ (List.mem_map_of_mem he) (congrArg Item.text heq)
      have hread := conform?_record hnodup es
      rw [Item.record, h] at hread
      split at hread
      · obtain ⟨fields, hfields, rfl⟩ := Option.map_eq_some_iff.1 hread.symm
        simp only [fieldsOf?, hnone, fieldOf?, absent?, Option.bind_eq_bind, Option.bind_some,
          Option.bind_eq_some_iff] at hfields
        obtain ⟨others, -, hfields⟩ := hfields
        cases hfields
        exact valueOf?_cons_self name kind.empty others
      · cases hread

end Meterboard.Cbor
