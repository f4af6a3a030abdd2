import Mathlib.Data.List.Nodup
import Meterboard.Cbor.Reader
import Meterboard.Proofs.Cbor.Write
import Meterboard.Proofs.Identifier

/-!
# Items of a kind

An item that stands for a value of a kind is read as that value.  The reader looks every field up by
its name, so what it needs is that a name finds its value among the entries; for the entries that
were written this holds because a tidy kind has no name twice.

* `conform?_ofValue` — the item of a value of a kind is read as that value.
* `read?_write` — what was written for a value of a kind is read as that value.
-/

namespace Meterboard.Cbor

open Wire

/-! ## Entries as they were written -/

/-- The entries of a record with the items of their values. -/
def itemsOf (entries : List (String × Value)) : List (String × Item) :=
  entries.map fun e => (e.1, .ofValue e.2)

lemma textEntries?_ofFields (entries : List (String × Value)) :
    textEntries? (Entries.ofFields entries) = some (itemsOf entries) := by
  rw [textEntries?, Entries.ofFields_eq_map, itemsOf]
  exact mapM_map_eq_some fun _ _ => rfl

lemma keys_itemsOf (entries : List (String × Value)) :
    (itemsOf entries).map (·.1) = entries.map (·.1) := by
  rw [itemsOf, List.map_map]
  rfl

lemma distinctIn_iff {names : List String} {entries : List (String × Item)} :
    distinctIn names entries = true ↔ ∀ n ∈ names, (entries.map (·.1)).count n ≤ 1 := by
  simp only [distinctIn, List.all_eq_true, decide_eq_true_eq]
  refine forall₂_congr fun n _ => ?_
  rw [List.count, List.countP_map, List.countP_eq_length_filter]
  rfl

/-- Keys that are distinct are not repeated under any names. -/
lemma distinctIn_of_nodup {entries : List (String × Item)} (h : (entries.map (·.1)).Nodup)
    (names : List String) : distinctIn names entries = true :=
  distinctIn_iff.2 fun n _ => List.nodup_iff_count_le_one.1 h n

lemma ofValue_ne_null {v : Value} (h : v ≠ .null) : Item.ofValue v ≠ .null := by
  cases v <;> simp_all [Item.ofValue]

section

variable {name : String} {presence : Presence} {kind : Kind} {rest : Fields}
  {es : List (String × Item)}

lemma found?_cons_some {item : Item} (hentry : valueOf? es name = some item)
    (hitem : item ≠ .null) :
    found? (.cons name presence kind rest) es = (do
      let others ← found? rest es
      return (name, ← conform? kind item) :: others) := by
  obtain ⟨⟨k, i⟩, hfind, rfl⟩ := Option.map_eq_some_iff.1 hentry
  rw [found?, hfind]
  cases i <;> first | exact absurd rfl hitem | rfl

lemma found?_cons_none (hentry : valueOf? es name = none) :
    found? (.cons name presence kind rest) es = found? rest es := by
  have hfind := Option.map_eq_none_iff.1 hentry
  rw [found?, hfind]
  cases found? rest es <;> rfl

end

/-! ## Values and their items -/

mutual

/-- **The item of a value of a kind is read as that value.** -/
theorem conform?_ofValue : ∀ {kind : Kind} {v : Value}, kind.Holds v → kind.tidy →
    conform? kind (.ofValue v) = some v
  | .flag, _, .flag _, _ | .double, _, .double _, _ | .text, _, .text _, _ => rfl
  | .natural _, _, .natural hn, _ => if_pos hn
  | .choice _, _, .choice hs, _ => if_pos (List.contains_iff_mem.2 hs)
  | .list item, .list items, .list hitems, htidy => by
      have hread : ∀ v ∈ items, conform? item (.ofValue v) = some (id v) :=
        fun v hv => conform?_ofValue (hitems v hv) htidy
      rw [Item.ofValue, conform?, Items.ofValues_eq_map, mapM_map_eq_some hread, List.map_id]
      rfl
  | .record fields, .record entries, .record hentries, htidy => by
      obtain ⟨hnames, htidy⟩ := Kind.tidy_record htidy
      have hdistinct : distinctIn fields.names (itemsOf entries) = true :=
        distinctIn_of_nodup (by rw [keys_itemsOf]; exact hentries.keys_sublist.nodup hnames) _
      have hfound : found? fields (itemsOf entries) = some entries :=
        found?_of_holds hentries htidy hnames fun _ _ => valueOf?_map _ _ _
      have hrecord : fields.assemble? (valueOf? entries) = some entries :=
        assemble?_of_holds hentries hnames fun _ _ => rfl
      rw [Item.ofValue, conform?, textEntries?_ofFields]
      simp only [Option.bind_eq_bind, Option.bind_some, hdistinct, hfound]
      exact congrArg (Option.map Value.record) hrecord
  | .labels, _, .labels ls, _ => by
      have htexts : ((itemsOf (ls.entries.map fun e => (e.1, Value.text e.2))).mapM fun e =>
          (key? e.2).map fun s => (e.1, s)) = some (ls.entries.map id) := by
        rw [itemsOf, List.map_map]
        exact mapM_map_eq_some fun _ _ => rfl
      rw [Item.ofValue, conform?, textEntries?_ofFields]
      simp only [Option.bind_eq_bind, Option.bind_some, htexts, List.map_id, Labels.ofList_entries,
        Option.pure_def]

/-- The values of a record are found under their names. -/
lemma found?_of_holds {es : List (String × Item)} : ∀ {fields : Fields}
    {entries : List (String × Value)}, fields.Holds entries → fields.tidy → fields.names.Nodup →
      (∀ name ∈ fields.names, valueOf? es name = (valueOf? entries name).map .ofValue) →
      found? fields es = some entries
  | .nil, _, .nil, _, _, _ => rfl
  | .cons name presence kind rest, (_, v) :: entries, .written hv hrest, htidy, hnodup, hes => by
      obtain ⟨hkind, htidy⟩ := Bool.and_eq_true_iff.1 htidy
      obtain ⟨hname, hnodup⟩ := List.nodup_cons.1 hnodup
      have hentry : valueOf? es name = some (.ofValue v) := by
        rw [hes name List.mem_cons_self, valueOf?_cons_self, Option.map_some]
      have hothers : found? rest es = some entries := by
        refine found?_of_holds hrest htidy hnodup fun other hother => ?_
        rw [hes other (List.mem_cons_of_mem _ hother),
          valueOf?_cons_of_ne (ne_of_mem_of_not_mem hother hname)]
      rw [found?_cons_some hentry (ofValue_ne_null hv.ne_null), hothers,
        conform?_ofValue hv hkind]
      rfl
  | .cons name _ kind rest, entries, .leftOut hrest, htidy, hnodup, hes => by
      obtain ⟨_, htidy⟩ := Bool.and_eq_true_iff.1 htidy
      obtain ⟨hname, hnodup⟩ := List.nodup_cons.1 hnodup
      have hentry : valueOf? es name = none := by
        rw [hes name List.mem_cons_self, hrest.valueOf?_eq_none hname, Option.map_none]
      rw [found?_cons_none hentry]
      exact found?_of_holds hrest htidy hnodup fun other hother =>
        hes other (List.mem_cons_of_mem _ hother)

end

/-- **What was written for a value of a kind is read as that value**, and what is behind it is not
looked at. -/
theorem read?_write {kind : Kind} {v : Value} (hv : kind.Holds v) (htidy : kind.tidy)
    (hsized : v.Sized) (rest : List UInt8) : read? kind (write v ++ rest) = some v := by
  rw [read?, item?_write hsized (hv.numbersFit htidy)]
  exact conform?_ofValue hv htidy

/-- **What was cut off is read as nothing**, for whatever kind it is read. -/
theorem read?_eq_none_of_append {kind : Kind} {v : Value} (hv : kind.Holds v) (htidy : kind.tidy)
    (hsized : v.Sized) {front back : List UInt8} (hwrite : write v = front ++ back)
    (hback : back ≠ []) (kind' : Kind) : read? kind' front = none := by
  have hs := spelled_write hsized (hv.numbersFit htidy)
  rw [hwrite] at hs
  rw [read?, item?_eq_none_of_append hs hback]
  rfl

end Meterboard.Cbor
