import Meterboard.Cbor.Item
import Meterboard.Labels
import Meterboard.Wire.Kind
import Mathlib.Tactic.Ring

/-!
# Values of a kind

A kind says what a message may look like.  Here it is said which values are of a kind: those that a
writer may produce for it, with every record in the order of its fields and only optional fields
left out.  A record of this form is what a reader puts together again from its entries.

* `Value.Every` — a property of all parts of a value; `Value.Sized` — all lengths are below two to
  the sixty-fourth.
* `Kind.Holds`, `Fields.Holds` — the values of a kind.
* `Kind.tidy` — no field has the name of another, and numbers have at most 64 bits.
* `assemble?_of_holds` — a record comes together from what is found under its names.
-/

namespace Meterboard.Wire

/-! ## Parts of a value -/

namespace Value

mutual

/-- A property holds of a value and of all values in it. -/
def Every (p : Value → Prop) : Value → Prop
  | .list items => p (.list items) ∧ EveryItem p items
  | .record entries => p (.record entries) ∧ EveryEntry p entries
  | v => p v

/-- See `Every`. -/
def EveryItem (p : Value → Prop) : List Value → Prop
  | [] => True
  | v :: rest => v.Every p ∧ EveryItem p rest

/-- See `Every`. -/
def EveryEntry (p : Value → Prop) : List (String × Value) → Prop
  | [] => True
  | (_, v) :: rest => v.Every p ∧ EveryEntry p rest

end

lemma everyItem_iff {p : Value → Prop} {items : List Value} :
    EveryItem p items ↔ ∀ v ∈ items, v.Every p := by
  induction items with
  | nil => simp [EveryItem]
  | cons v rest ih => simp [EveryItem, ih]

lemma everyEntry_iff {p : Value → Prop} {entries : List (String × Value)} :
    EveryEntry p entries ↔ ∀ e ∈ entries, e.2.Every p := by
  induction entries with
  | nil => simp [EveryEntry]
  | cons e rest ih => simp [EveryEntry, ih]

section

variable (p : Value → Prop) [DecidablePred p]

mutual

/-- Whether a property holds everywhere in a value can be decided when it can be at each place. -/
def decidableEvery : ∀ v : Value, Decidable (v.Every p)
  | .null => inferInstanceAs (Decidable (p .null))
  | .flag b => inferInstanceAs (Decidable (p (.flag b)))
  | .natural n => inferInstanceAs (Decidable (p (.natural n)))
  | .double x => inferInstanceAs (Decidable (p (.double x)))
  | .text s => inferInstanceAs (Decidable (p (.text s)))
  | .list items =>
      have := decidableEveryItem items
      inferInstanceAs (Decidable (p (.list items) ∧ EveryItem p items))
  | .record entries =>
      have := decidableEveryEntry entries
      inferInstanceAs (Decidable (p (.record entries) ∧ EveryEntry p entries))

/-- See `decidableEvery`. -/
def decidableEveryItem : ∀ items : List Value, Decidable (EveryItem p items)
  | [] => inferInstanceAs (Decidable True)
  | v :: rest =>
      have := decidableEvery v
      have := decidableEveryItem rest
      inferInstanceAs (Decidable (v.Every p ∧ EveryItem p rest))

/-- See `decidableEvery`. -/
def decidableEveryEntry : ∀ entries : List (String × Value), Decidable (EveryEntry p entries)
  | [] => inferInstanceAs (Decidable True)
  | (_, v) :: rest =>
      have := decidableEvery v
      have := decidableEveryEntry rest
      inferInstanceAs (Decidable (v.Every p ∧ EveryEntry p rest))

end

instance (v : Value) : Decidable (v.Every p) := decidableEvery p v

end

/-- The lengths that a value states are below two to the sixty-fourth. -/
def LengthsFit : Value → Prop
  | .text s => (Cbor.utf8 s).length < 2 ^ 64
  | .list items => items.length < 2 ^ 64
  | .record entries =>
      entries.length < 2 ^ 64 ∧ ∀ e ∈ entries, (Cbor.utf8 e.1).length < 2 ^ 64
  | _ => True

instance : DecidablePred LengthsFit
  | .null | .flag _ | .natural _ | .double _ => inferInstanceAs (Decidable True)
  | .text s => inferInstanceAs (Decidable ((Cbor.utf8 s).length < 2 ^ 64))
  | .list items => inferInstanceAs (Decidable (items.length < 2 ^ 64))
  | .record entries => inferInstanceAs (Decidable
      (entries.length < 2 ^ 64 ∧ ∀ e ∈ entries, (Cbor.utf8 e.1).length < 2 ^ 64))

/-- All texts, lists and records in a value are shorter than two to the sixty-fourth, texts counted
in bytes.  What fits into a memory with addresses of 64 bits is. -/
def Sized (v : Value) : Prop := v.Every LengthsFit

instance (v : Value) : Decidable v.Sized := inferInstanceAs (Decidable (v.Every LengthsFit))

/-- A number is below two to the sixty-fourth. -/
def NumberFits : Value → Prop
  | .natural n => n < 2 ^ 64
  | _ => True

/-- A value is not a double. -/
def NotDouble : Value → Prop
  | .double _ => False
  | _ => True

end Value

/-! ## Values of a kind -/

mutual

/-- The values of a kind. -/
inductive Kind.Holds : Kind → Value → Prop
  | flag (b : Bool) : Kind.Holds .flag (.flag b)
  | natural {width n : Nat} (hn : n < 2 ^ width) : Kind.Holds (.natural width) (.natural n)
  | double (x : Double) : Kind.Holds .double (.double x)
  | text (s : String) : Kind.Holds .text (.text s)
  | choice {names : List String} {s : String} (hs : s ∈ names) :
      Kind.Holds (.choice names) (.text s)
  | list {item : Kind} {items : List Value} (hitems : ∀ v ∈ items, Kind.Holds item v) :
      Kind.Holds (.list item) (.list items)
  | record {fields : Fields} {entries : List (String × Value)}
      (hentries : Fields.Holds fields entries) : Kind.Holds (.record fields) (.record entries)
  | labels (ls : Labels) :
      Kind.Holds .labels (.record (ls.entries.map fun e => (e.1, .text e.2)))

/-- The entries of a record: its fields in their order, of which optional ones may be left out. -/
inductive Fields.Holds : Fields → List (String × Value) → Prop
  | nil : Fields.Holds .nil []
  | written {name : String} {presence : Presence} {kind : Kind} {rest : Fields} {v : Value}
      {entries : List (String × Value)} (hv : Kind.Holds kind v)
      (hrest : Fields.Holds rest entries) :
      Fields.Holds (.cons name presence kind rest) ((name, v) :: entries)
  | leftOut {name : String} {kind : Kind} {rest : Fields} {entries : List (String × Value)}
      (hrest : Fields.Holds rest entries) :
      Fields.Holds (.cons name .optional kind rest) entries

end

mutual

/-- No field of a record has the name of another, and numbers have at most 64 bits. -/
def Kind.tidy : Kind → Bool
  | .natural width => width ≤ 64
  | .list item => item.tidy
  | .record fields => decide fields.names.Nodup && fields.tidy
  | _ => true

/-- See `Kind.tidy`. -/
def Fields.tidy : Fields → Bool
  | .nil => true
  | .cons _ _ kind rest => kind.tidy && rest.tidy

end

lemma Kind.tidy_record {fields : Fields} (h : (Kind.record fields).tidy) :
    fields.names.Nodup ∧ fields.tidy := by
  obtain ⟨hnodup, htidy⟩ := Bool.and_eq_true_iff.1 h
  exact ⟨of_decide_eq_true hnodup, htidy⟩

lemma Kind.Holds.ne_null {kind : Kind} {v : Value} (h : kind.Holds v) : v ≠ .null := by
  rintro rfl
  cases h

mutual

/-- The numbers in a value of a tidy kind are below two to the sixty-fourth. -/
theorem Kind.Holds.numbersFit : ∀ {kind : Kind} {v : Value}, kind.Holds v → kind.tidy →
    v.Every Value.NumberFits
  | .flag, _, .flag _, _ | .double, _, .double _, _ | .text, _, .text _, _
  | .choice _, _, .choice _, _ => trivial
  | .natural width, .natural n, .natural hn, htidy => by
      have hwidth : width ≤ 64 := of_decide_eq_true htidy
      exact Nat.lt_of_lt_of_le hn (Nat.pow_le_pow_right (by decide) hwidth)
  | .list item, _, .list hitems, htidy =>
      ⟨trivial, Value.everyItem_iff.2 fun v hv => (hitems v hv).numbersFit htidy⟩
  | .record fields, _, .record hentries, htidy =>
      ⟨trivial, hentries.numbersFit (Bool.and_eq_true_iff.1 htidy).2⟩
  | .labels, _, .labels ls, _ => by
      refine ⟨trivial, Value.everyEntry_iff.2 fun e he => ?_⟩
      obtain ⟨label, _, rfl⟩ := List.mem_map.1 he
      trivial

lemma Fields.Holds.numbersFit : ∀ {fields : Fields} {entries : List (String × Value)},
    fields.Holds entries → fields.tidy → Value.EveryEntry Value.NumberFits entries
  | .nil, _, .nil, _ => trivial
  | .cons _ _ _ _, _, .written hv hrest, htidy =>
      ⟨hv.numbersFit (Bool.and_eq_true_iff.1 htidy).1,
        hrest.numbersFit (Bool.and_eq_true_iff.1 htidy).2⟩
  | .cons _ _ _ _, _, .leftOut hrest, htidy =>
      hrest.numbersFit (Bool.and_eq_true_iff.1 htidy).2

end

/-! ## Looking up and putting together -/

/-- Reading what was written item by item gives back what was written. -/
lemma mapM_map_eq_some {α β γ : Type} {f : β → Option γ} {g : α → β} {h : α → γ} {as : List α}
    (hread : ∀ a ∈ as, f (g a) = some (h a)) : (as.map g).mapM f = some (as.map h) := by
  induction as with
  | nil => rfl
  | cons a as ih =>
      obtain ⟨ha, has⟩ := List.forall_mem_cons.1 hread
      simp [ha, ih has]

/-- What stands under a name in entries. -/
def valueOf? {α : Type} (entries : List (String × α)) (name : String) : Option α :=
  (entries.find? (·.1 == name)).map (·.2)

@[simp] lemma valueOf?_cons_self {α : Type} (name : String) (a : α)
    (entries : List (String × α)) : valueOf? ((name, a) :: entries) name = some a := by
  simp [valueOf?]

lemma valueOf?_cons_of_ne {α : Type} {name other : String} (h : other ≠ name) (a : α)
    (entries : List (String × α)) :
    valueOf? ((name, a) :: entries) other = valueOf? entries other := by
  simp [valueOf?, Ne.symm h]

@[simp] lemma valueOf?_append {α : Type} (xs ys : List (String × α)) (name : String) :
    valueOf? (xs ++ ys) name = (valueOf? xs name).or (valueOf? ys name) := by
  simp only [valueOf?, List.find?_append, Option.map_or]

lemma valueOf?_map {α β : Type} (f : α → β) (entries : List (String × α)) (name : String) :
    valueOf? (entries.map fun e => (e.1, f e.2)) name = (valueOf? entries name).map f := by
  simp only [valueOf?, List.find?_map, Option.map_map]
  rfl

lemma valueOf?_eq_none {α : Type} {entries : List (String × α)} {name : String}
    (h : ∀ e ∈ entries, e.1 ≠ name) : valueOf? entries name = none := by
  simpa [valueOf?] using h

/-- A key that stands once finds its value wherever the entry is. -/
lemma valueOf?_perm {α : Type} {es es' : List (String × α)} (hperm : es.Perm es') {name : String}
    (honce : (es.map (·.1)).count name ≤ 1) : valueOf? es name = valueOf? es' name := by
  have hfilter := hperm.filter (·.1 == name)
  have hlength : (es.filter (·.1 == name)).length ≤ 1 := by
    rwa [List.count, List.countP_map, List.countP_eq_length_filter] at honce
  have hsame : es.filter (·.1 == name) = es'.filter (·.1 == name) := by
    generalize es.filter (·.1 == name) = here at *
    match here, hlength with
    | [], _ => exact hfilter.nil_eq
    | [e], _ => exact (List.perm_singleton.1 hfilter.symm).symm
  rw [valueOf?, valueOf?, ← List.head?_filter, ← List.head?_filter, hsame]

/-- The keys of a record are names of its kind, in their order. -/
lemma Fields.Holds.keys_sublist : ∀ {fields : Fields} {entries : List (String × Value)},
    fields.Holds entries → (entries.map (·.1)).Sublist fields.names
  | .nil, _, .nil => .slnil
  | .cons name _ _ _, _, .written _ hrest => hrest.keys_sublist.cons_cons name
  | .cons name _ _ _, _, .leftOut hrest => hrest.keys_sublist.cons name

lemma Fields.Holds.key_mem {fields : Fields} {entries : List (String × Value)}
    (h : fields.Holds entries) {e : String × Value} (he : e ∈ entries) : e.1 ∈ fields.names :=
  h.keys_sublist.subset (List.mem_map_of_mem he)

lemma Fields.Holds.valueOf?_eq_none {fields : Fields} {entries : List (String × Value)}
    (h : fields.Holds entries) {name : String} (hname : name ∉ fields.names) :
    valueOf? entries name = none :=
  Wire.valueOf?_eq_none fun _ he heq => hname (heq ▸ h.key_mem he)

section

variable {found : String → Option Value} {name : String} {presence : Presence} {kind : Kind}
  {rest : Fields}

lemma assemble?_cons_some {v : Value} (hfound : found name = some v) (hv : v ≠ .null) :
    (Fields.cons name presence kind rest).assemble? found =
      (rest.assemble? found).map ((name, v) :: ·) := by
  rw [Fields.assemble?, hfound]
  cases v <;> first | exact absurd rfl hv | (cases rest.assemble? found <;> rfl)

lemma assemble?_cons_none (hfound : found name = none) :
    (Fields.cons name .optional kind rest).assemble? found = rest.assemble? found := by
  rw [Fields.assemble?, hfound]
  cases rest.assemble? found <;> rfl

end

/-- **A record comes together** from what is found under its names. -/
theorem assemble?_of_holds {found : String → Option Value} :
    ∀ {fields : Fields} {entries : List (String × Value)}, fields.Holds entries →
      fields.names.Nodup → (∀ name ∈ fields.names, found name = valueOf? entries name) →
      fields.assemble? found = some entries
  | .nil, _, .nil => fun _ _ => rfl
  | .cons name _ _ rest, _, @Fields.Holds.written _ _ _ _ v entries hv hrest => by
      intro hnodup hfound
      obtain ⟨hname, hnodup⟩ := List.nodup_cons.1 hnodup
      have hhere : found name = some v := by
        rw [hfound name List.mem_cons_self, valueOf?_cons_self]
      have hothers : ∀ other ∈ rest.names, found other = valueOf? entries other := by
        intro other hother
        rw [hfound other (List.mem_cons_of_mem _ hother),
          valueOf?_cons_of_ne (ne_of_mem_of_not_mem hother hname)]
      rw [assemble?_cons_some hhere hv.ne_null, assemble?_of_holds hrest hnodup hothers]
      rfl
  | .cons name _ kind rest, entries, .leftOut hrest => by
      intro hnodup hfound
      obtain ⟨hname, hnodup⟩ := List.nodup_cons.1 hnodup
      have hhere : found name = none := by
        rw [hfound name List.mem_cons_self, hrest.valueOf?_eq_none hname]
      have hothers : ∀ other ∈ rest.names, found other = valueOf? entries other :=
        fun other hother => hfound other (List.mem_cons_of_mem _ hother)
      rw [assemble?_cons_none hhere, assemble?_of_holds hrest hnodup hothers]

end Meterboard.Wire
