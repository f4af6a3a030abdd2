import Mathlib.Data.List.Count
import Mathlib.Logic.Relation
import Meterboard.Proofs.Cbor.Record

/-!
# Rewritten items

A message may be written in many ways.  Heads may be longer than they need to be and lengths may be
left unstated; these are spellings of one item.  What is left are rewritings of the item itself: the
entries of a record come in any order, others of unknown keys stand among them, and a field that has
nothing to say is left out or written as nothing.  None of them changes what is read.

* `Item.Rewrites` — one rewriting, at any depth of an item that is read as a kind.
* `Item.Alike` — items that become each other by rewritings, back and forth.
* `Item.Repeats` — some record in the item has two entries for one of its fields.
* `conform?_of_alike` — items that are alike are read as the same value, or both refused.
* `conform?_of_repeats` — an item with a repeated field is refused.

A rewriting touches the entries of one record.  Whether it is noticed is decided by two things: how
often each field of the record occurs, and what each field contributes (`conform?_record_congr`).
-/

namespace Meterboard.Wire

/-! ## Fields of a record -/

/-- A record has a field of this name, presence and kind. -/
inductive Fields.Has (name : String) (presence : Presence) (kind : Kind) : Fields → Prop
  | first (rest : Fields) : Has name presence kind (.cons name presence kind rest)
  | later (other : String) (otherPresence : Presence) (otherKind : Kind) {rest : Fields}
      (h : Has name presence kind rest) :
      Has name presence kind (.cons other otherPresence otherKind rest)

section

variable {name : String} {presence : Presence} {kind : Kind} {fields : Fields}

lemma Fields.Has.mem_names (h : fields.Has name presence kind) : name ∈ fields.names := by
  induction h with
  | first rest => exact List.mem_cons_self
  | later _ _ _ _ ih => exact List.mem_cons_of_mem _ ih

lemma Fields.Has.tidy (h : fields.Has name presence kind) (htidy : fields.tidy) : kind.tidy := by
  induction h with
  | first rest => exact (Bool.and_eq_true_iff.1 htidy).1
  | later _ _ _ _ ih => exact ih (Bool.and_eq_true_iff.1 htidy).2

end

end Meterboard.Wire

namespace Meterboard.Cbor

open Wire

/-! ## Rewritings -/

/-- One rewriting of an item that is read as a kind: it leaves the message as it is. -/
inductive Item.Rewrites : Kind → Item → Item → Prop
  /-- The entries of a record come in another order. -/
  | permuted {fields : Fields} {es es' : List (String × Item)} (hperm : es.Perm es') :
      Rewrites (.record fields) (.record es) (.record es')
  /-- An entry that belongs to no field comes in, with any item as its value. -/
  | unknown {fields : Fields} {before after : List (String × Item)} {key : String} {item : Item}
      (hkey : key ∉ fields.names) :
      Rewrites (.record fields) (.record (before ++ after))
        (.record (before ++ (key, item) :: after))
  /-- A field that may be absent, and is, is written as null. -/
  | nulled {fields : Fields} {before after : List (String × Item)} {name : String} {kind : Kind}
      (hfield : fields.Has name .optional kind) (habsent : ∀ e ∈ before ++ after, e.1 ≠ name) :
      Rewrites (.record fields) (.record (before ++ after))
        (.record (before ++ (name, .null) :: after))
  /-- A field with a default is left out when it has it. -/
  | defaulted {fields : Fields} {before after : List (String × Item)} {name : String} {kind : Kind}
      (hfield : fields.Has name .defaulted kind) (hempty : kind.empty ≠ .null)
      (honce : ∀ e ∈ before ++ after, e.1 ≠ name) :
      Rewrites (.record fields) (.record (before ++ (name, .ofValue kind.empty) :: after))
        (.record (before ++ after))
  /-- The value of a field is rewritten. -/
  | field {fields : Fields} {before after : List (String × Item)} {name : String}
      {presence : Presence} {kind : Kind} {item item' : Item}
      (hfield : fields.Has name presence kind) (hitem : Rewrites kind item item') :
      Rewrites (.record fields) (.record (before ++ (name, item) :: after))
        (.record (before ++ (name, item') :: after))
  /-- An item of a list is rewritten. -/
  | item {kind : Kind} {before after : List Item} {item item' : Item}
      (hitem : Rewrites kind item item') :
      Rewrites (.list kind) (.list (before ++ item :: after)) (.list (before ++ item' :: after))

/-- Items that become each other by rewritings, back and forth. -/
def Item.Alike (kind : Kind) : Item → Item → Prop := Relation.EqvGen (Item.Rewrites kind)

/-- Some record in the item has two entries for one of its fields. -/
inductive Item.Repeats : Kind → Item → Prop
  | here {fields : Fields} {entries : List (Item × Item)} {name : String}
      (hname : name ∈ fields.names)
      (htwice : 1 < (entries.map fun e => key? e.1).count (some name)) :
      Repeats (.record fields) (.map entries)
  | field {fields : Fields} {entries : List (Item × Item)} {name : String} {presence : Presence}
      {kind : Kind} {item : Item} (hfield : fields.Has name presence kind)
      (hentry : (.text name, item) ∈ entries) (hitem : Repeats kind item) :
      Repeats (.record fields) (.map entries)
  | item {kind : Kind} {items : List Item} {item : Item} (hmem : item ∈ items)
      (hitem : Repeats kind item) : Repeats (.list kind) (.list items)

/-! ## What decides how a record is read -/

section

variable {fields : Fields} {es es' : List (String × Item)}

/-- Records are read alike when they repeat the same fields and, unless one is repeated, every field
contributes the same. -/
lemma conform?_record_congr (hnodup : fields.names.Nodup)
    (hcount : ∀ n ∈ fields.names,
      (es.map (·.1)).count n ≤ 1 ↔ (es'.map (·.1)).count n ≤ 1)
    (hfields : (∀ n ∈ fields.names, (es.map (·.1)).count n ≤ 1) →
      fieldsOf? (valueOf? es) fields = fieldsOf? (valueOf? es') fields) :
    conform? (.record fields) (.record es) = conform? (.record fields) (.record es') := by
  have hdistinct : distinctIn fields.names es = distinctIn fields.names es' := by
    rw [Bool.eq_iff_iff, distinctIn_iff, distinctIn_iff]
    exact forall₂_congr hcount
  rw [conform?_record hnodup, conform?_record hnodup, ← hdistinct]
  split
  · rename_i hread
    rw [hfields (distinctIn_iff.1 hread)]
  · rfl

end

section

variable {f g : String → Option Item}

lemma fieldsOf?_congr : ∀ {fields : Fields}, (∀ name ∈ fields.names, f name = g name) →
    fieldsOf? f fields = fieldsOf? g fields
  | .nil, _ => rfl
  | .cons _ _ _ _, h => by
      obtain ⟨hname, hrest⟩ := List.forall_mem_cons.1 h
      rw [fieldsOf?, fieldsOf?, hname, fieldsOf?_congr hrest]

variable {name : String} {presence : Presence} {kind : Kind} {fields : Fields}

/-- Entries that differ under the name of one field only matter by what that field contributes. -/
lemma fieldsOf?_congr_at (hfield : fields.Has name presence kind) (hnodup : fields.names.Nodup)
    (hothers : ∀ other, other ≠ name → f other = g other)
    (hhere : fieldOf? name presence kind (f name) = fieldOf? name presence kind (g name)) :
    fieldsOf? f fields = fieldsOf? g fields := by
  induction hfield with
  | first rest =>
      have hname := (List.nodup_cons.1 hnodup).1
      have hrest : fieldsOf? f rest = fieldsOf? g rest :=
        fieldsOf?_congr fun other hother => hothers other (ne_of_mem_of_not_mem hother hname)
      rw [fieldsOf?, fieldsOf?, hhere, hrest]
  | later other _ _ hrest ih =>
      obtain ⟨hother, hnodup⟩ := List.nodup_cons.1 hnodup
      have hne : other ≠ name := fun heq => hother (heq ▸ hrest.mem_names)
      rw [fieldsOf?, fieldsOf?, hothers other hne, ih hnodup]

lemma fieldsOf?_eq_none (hfield : fields.Has name presence kind)
    (hhere : fieldOf? name presence kind (f name) = none) : fieldsOf? f fields = none := by
  induction hfield with
  | first rest => simp [fieldsOf?, hhere]
  | later other _ _ _ ih => simp [fieldsOf?, ih]

end

/-! ## Entries of a record -/

section

variable {α : Type} {before after : List (String × α)} {name : String}

lemma valueOf?_insert_of_ne {other : String} (h : other ≠ name) (a : α) :
    valueOf? (before ++ (name, a) :: after) other = valueOf? (before ++ after) other := by
  rw [valueOf?_append, valueOf?_append, valueOf?_cons_of_ne h]

lemma valueOf?_insert_self (hbefore : ∀ e ∈ before, e.1 ≠ name) (a : α) :
    valueOf? (before ++ (name, a) :: after) name = some a := by
  rw [valueOf?_append, valueOf?_eq_none hbefore, valueOf?_cons_self, Option.none_or]

/-- A key that stands once does not stand in front of where it stands. -/
lemma ne_of_count_insert {a : α}
    (honce : ((before ++ (name, a) :: after).map (·.1)).count name ≤ 1) :
    ∀ e ∈ before, e.1 ≠ name := by
  rintro e he rfl
  have hpos : 0 < (before.map (·.1)).count e.1 := List.count_pos_iff.2 (List.mem_map_of_mem he)
  rw [List.map_append, List.map_cons, List.count_append, List.count_cons_self] at honce
  omega

lemma count_insert_of_ne {other : String} (h : other ≠ name) (a : α) :
    ((before ++ (name, a) :: after).map (·.1)).count other =
      ((before ++ after).map (·.1)).count other := by
  simp [List.count_append, List.count_cons_of_ne (Ne.symm h)]

end

lemma count_eq_zero {α : Type} {es : List (String × α)} {name : String}
    (h : ∀ e ∈ es, e.1 ≠ name) : (es.map (·.1)).count name = 0 := by
  rw [List.count_eq_zero]
  intro hmem
  obtain ⟨e, he, heq⟩ := List.mem_map.1 hmem
  exact h e he heq

/-! ## Rewritings are not noticed -/

section

variable {fields : Fields} {before after : List (String × Item)} {name : String}

lemma conform?_insert_unknown (hnodup : fields.names.Nodup) (hname : name ∉ fields.names)
    (item : Item) :
    conform? (.record fields) (.record (before ++ (name, item) :: after)) =
      conform? (.record fields) (.record (before ++ after)) := by
  have hne : ∀ n ∈ fields.names, n ≠ name := fun n hn => ne_of_mem_of_not_mem hn hname
  refine conform?_record_congr hnodup (fun n hn => ?_) fun _ => ?_
  · rw [count_insert_of_ne (hne n hn)]
  · exact fieldsOf?_congr fun n hn => valueOf?_insert_of_ne (hne n hn) item

variable {presence : Presence} {kind : Kind}

/-- An entry that contributes what its absence does may be there or not. -/
lemma conform?_insert_absent (hnodup : fields.names.Nodup)
    (hfield : fields.Has name presence kind) (habsent : ∀ e ∈ before ++ after, e.1 ≠ name)
    {item : Item}
    (hhere : fieldOf? name presence kind (some item) = fieldOf? name presence kind none) :
    conform? (.record fields) (.record (before ++ (name, item) :: after)) =
      conform? (.record fields) (.record (before ++ after)) := by
  have hbefore : ∀ e ∈ before, e.1 ≠ name := fun e he => habsent e (List.mem_append_left _ he)
  refine conform?_record_congr hnodup (fun n _ => ?_) fun _ => ?_
  · by_cases hn : n = name
    · subst hn
      have hzero := count_eq_zero habsent
      have hone : ((before ++ (n, item) :: after).map (·.1)).count n = 1 := by
        rw [List.map_append, List.count_append] at hzero
        rw [List.map_append, List.map_cons, List.count_append, List.count_cons_self]
        omega
      omega
    · rw [count_insert_of_ne hn]
  · refine fieldsOf?_congr_at hfield hnodup (fun n hn => valueOf?_insert_of_ne hn item) ?_
    rw [valueOf?_insert_self hbefore, valueOf?_eq_none habsent, hhere]

/-- An entry may have another value that is read as the same. -/
lemma conform?_replace (hnodup : fields.names.Nodup) (hfield : fields.Has name presence kind)
    {item item' : Item}
    (hhere : fieldOf? name presence kind (some item) = fieldOf? name presence kind (some item')) :
    conform? (.record fields) (.record (before ++ (name, item) :: after)) =
      conform? (.record fields) (.record (before ++ (name, item') :: after)) := by
  refine conform?_record_congr hnodup (fun n _ => by simp) fun honce => ?_
  refine fieldsOf?_congr_at hfield hnodup (fun n hn => ?_) ?_
  · rw [valueOf?_insert_of_ne hn, valueOf?_insert_of_ne hn]
  · have hbefore : ∀ e ∈ before, e.1 ≠ name := ne_of_count_insert (honce name hfield.mem_names)
    rw [valueOf?_insert_self hbefore, valueOf?_insert_self hbefore, hhere]

end

/-- The item of a default is read as the default. -/
lemma conform?_empty {kind : Kind} (h : kind.empty ≠ .null) :
    conform? kind (.ofValue kind.empty) = some kind.empty := by
  cases kind <;> first | rfl | exact absurd rfl h

lemma Item.Rewrites.ne_null {kind : Kind} {item item' : Item} (h : item.Rewrites kind item') :
    item ≠ .null ∧ item' ≠ .null := by
  cases h <;> exact ⟨Item.noConfusion, Item.noConfusion⟩

/-- **A rewriting is not noticed.** -/
theorem conform?_of_rewrites {kind : Kind} {item item' : Item} (h : Item.Rewrites kind item item')
    (htidy : kind.tidy) : conform? kind item = conform? kind item' := by
  induction h with
  | permuted hperm =>
      refine conform?_record_congr (Kind.tidy_record htidy).1 (fun n _ => ?_) fun honce => ?_
      · rw [(hperm.map (·.1)).count_eq]
      · exact fieldsOf?_congr fun n hn => valueOf?_perm hperm (honce n hn)
  | unknown hkey =>
      exact (conform?_insert_unknown (Kind.tidy_record htidy).1 hkey _).symm
  | nulled hfield habsent =>
      exact (conform?_insert_absent (Kind.tidy_record htidy).1 hfield habsent rfl).symm
  | @defaulted _ _ _ name kind hfield hempty honce =>
      refine conform?_insert_absent (Kind.tidy_record htidy).1 hfield honce ?_
      rw [fieldOf?_some (ofValue_ne_null hempty), conform?_empty hempty]
      rfl
  | field hfield hitem ih =>
      obtain ⟨hnodup, hfields⟩ := Kind.tidy_record htidy
      obtain ⟨hleft, hright⟩ := hitem.ne_null
      refine conform?_replace hnodup hfield ?_
      rw [fieldOf?_some hleft, fieldOf?_some hright, ih (hfield.tidy hfields)]
  | item _ ih =>
      simp only [conform?, List.mapM_append, List.mapM_cons, ih htidy]

/-- **Items that are alike are read alike.** -/
theorem conform?_of_alike {kind : Kind} {item item' : Item} (h : Item.Alike kind item item')
    (htidy : kind.tidy) : conform? kind item = conform? kind item' := by
  induction h with
  | rel _ _ hstep => exact conform?_of_rewrites hstep htidy
  | refl => rfl
  | symm _ _ _ ih => exact ih.symm
  | trans _ _ _ _ _ ih ih' => exact ih.trans ih'

/-! ## Repeated fields are refused -/

lemma mapM_eq_none {α β : Type} {f : α → Option β} {a : α} {as : List α} (hmem : a ∈ as)
    (h : f a = none) : as.mapM f = none := by
  induction as with
  | nil => cases hmem
  | cons b as ih =>
      rcases List.mem_cons.1 hmem with rfl | hmem
      · simp [h]
      · simp [ih hmem]

lemma Item.Repeats.ne_null {kind : Kind} {item : Item} (h : item.Repeats kind) : item ≠ .null := by
  cases h <;> exact Item.noConfusion

lemma conform?_of_count {fields : Fields} (hnodup : fields.names.Nodup) {es : List (String × Item)}
    {name : String} (hname : name ∈ fields.names) (htwice : 1 < (es.map (·.1)).count name) :
    conform? (.record fields) (.record es) = none := by
  rw [conform?_record hnodup, if_neg]
  intro hdistinct
  exact absurd (distinctIn_iff.1 hdistinct name hname) (Nat.not_le.2 htwice)

lemma conform?_of_entry {fields : Fields} (hnodup : fields.names.Nodup) {es : List (String × Item)}
    {name : String} {presence : Presence} {kind : Kind} {item : Item}
    (hfield : fields.Has name presence kind) (hentry : (name, item) ∈ es) (hitem : item ≠ .null)
    (hrefused : conform? kind item = none) : conform? (.record fields) (.record es) = none := by
  rw [conform?_record hnodup]
  split
  · rename_i hdistinct
    have honce := distinctIn_iff.1 hdistinct name hfield.mem_names
    have hvalue : valueOf? es name = some item := by
      obtain ⟨before, after, rfl⟩ := List.append_of_mem hentry
      exact valueOf?_insert_self (ne_of_count_insert honce) item
    have hhere : fieldOf? name presence kind (valueOf? es name) = none := by
      rw [hvalue, fieldOf?_some hitem, hrefused, Option.map_none]
    rw [fieldsOf?_eq_none hfield hhere, Option.map_none]
  · rfl

/-- **A repeated field is refused**, wherever the record with it is. -/
theorem conform?_of_repeats {kind : Kind} {item : Item} (h : Item.Repeats kind item)
    (htidy : kind.tidy) : conform? kind item = none := by
  induction h with
  | @here fields entries name hname htwice =>
      cases hes : textEntries? entries with
      | none => simp [conform?, hes]
      | some es =>
          obtain rfl := eq_map_of_textEntries? hes
          refine conform?_of_count (Kind.tidy_record htidy).1 hname ?_
          have hkeys : (es.map fun e => (Item.text e.1, e.2)).map (fun e => key? e.1) =
              (es.map (·.1)).map some := by
            rw [List.map_map, List.map_map]
            rfl
          rwa [hkeys, List.count_map_of_injective _ _ (Option.some_injective _)] at htwice
  | @field fields entries name presence kind item hfield hentry hitem ih =>
      obtain ⟨hnodup, hfields⟩ := Kind.tidy_record htidy
      cases hes : textEntries? entries with
      | none => simp [conform?, hes]
      | some es =>
          obtain rfl := eq_map_of_textEntries? hes
          obtain ⟨⟨k, i⟩, hmem, heq⟩ := List.mem_map.1 hentry
          cases heq
          exact conform?_of_entry hnodup hfield hmem hitem.ne_null
            (ih (hfield.tidy hfields))
  | item hmem _ ih => rw [conform?, mapM_eq_none hmem (ih htidy), Option.map_none]

end Meterboard.Cbor
