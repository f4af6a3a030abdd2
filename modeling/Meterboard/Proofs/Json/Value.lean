import Mathlib.Data.List.Nodup
import Meterboard.Proofs.Identifier
import Meterboard.Proofs.Json.Token
import Meterboard.Proofs.Wire.Kind

/-!
# Values in JSON, read back

The reader of a kind takes each value of the kind off the text that was written for it.  The proof
follows the kind: a list comes back item by item, and a record entry by entry, where each entry is
read by the field of its name.  A tidy kind has no name twice, so this is the field that the entry
was written for, and no entry is taken for a repeated one.

* `Restores` — a reader brings a value back, wherever it stands.
* `itemsFrom`, `entriesFrom` — the items of a list and the entries of a record from some point on,
  so that one induction covers the first of them and those behind a comma.
* `restores_of_holds` — **every value of a kind that holds no double comes back.**
-/

namespace Meterboard.Json

open Wire

/-- The reader recognises a value by the character it is written with first, and takes it off any
text it stands in front of. -/
structure Restores (r : Reader Value) (v : Value) : Prop where
  opens : ∃ c cs, chars v = c :: cs ∧ Opens c
  takes : ∀ s, Ends s → Takes r (chars v ++ s) v s

/-- The comma between two items. -/
def separator : Bool → List Char
  | true => []
  | false => [',']

/-! ## Lists -/

/-- Items, of which the first one follows another or not. -/
def itemsFrom (first : Bool) : List Value → List Char := if first then itemsText else itemsAfter

lemma itemsFrom_nil (first : Bool) : itemsFrom first [] = [] := by
  cases first <;> rfl

lemma itemsFrom_cons (first : Bool) (v : Value) (vs : List Value) :
    itemsFrom first (v :: vs) = separator first ++ (chars v ++ itemsFrom false vs) := by
  cases first <;> rfl

lemma ends_itemsFrom (vs : List Value) (s : List Char) : Ends (itemsFrom false vs ++ ']' :: s) := by
  cases vs with
  | nil => exact .bracket s
  | cons v vs => exact .comma _

lemma takes_moreItems (first : Bool) {c : Char} (hc : Opens c) (s : List Char) :
    Takes (moreItems first) (separator first ++ c :: s) true (c :: s) := by
  have htoken := takes_peekToken hc.isBlank_eq s
  cases first with
  | true =>
      refine htoken.bind ?_
      split
      next heq => cases heq
      next heq => exact absurd (Option.some.inj heq) hc.ne_bracket
      next => rfl
  | false =>
      refine (takes_peekToken rfl (c :: s)).bind ((takes_drop ',' (c :: s)).bind ?_)
      refine htoken.bind ?_
      split
      next heq => cases heq
      next heq => exact absurd (Option.some.inj heq) hc.ne_bracket
      next => rfl

lemma takes_endList (s : List Char) : Takes endList (']' :: s) () s := rfl

lemma takes_items {item : Reader Value} {vs : List Value} (hvs : ∀ v ∈ vs, Restores item v)
    (first : Bool) {fuel : Nat} (hfuel : vs.length < fuel) (s : List Char) :
    Takes (items item fuel first) (itemsFrom first vs ++ ']' :: s) vs (']' :: s) := by
  induction vs generalizing first fuel with
  | nil =>
      obtain ⟨fuel, rfl⟩ := Nat.exists_eq_add_one_of_ne_zero (Nat.ne_zero_of_lt hfuel)
      rw [itemsFrom_nil]
      cases first <;> rfl
  | cons v vs ih =>
      obtain ⟨fuel, rfl⟩ := Nat.exists_eq_add_one_of_ne_zero (Nat.ne_zero_of_lt hfuel)
      obtain ⟨hv, hvs⟩ := List.forall_mem_cons.1 hvs
      obtain ⟨c, cs, hcs, hc⟩ := hv.opens
      have hmore := takes_moreItems first hc (cs ++ (itemsFrom false vs ++ ']' :: s))
      rw [← List.cons_append, ← hcs] at hmore
      have hitem := hv.takes _ (ends_itemsFrom vs s)
      have hothers := ih hvs false (Nat.lt_of_succ_lt_succ hfuel)
      rw [itemsFrom_cons, List.append_assoc, List.append_assoc]
      exact hmore.bind (hitem.bind (hothers.bind (takes_pure _ _)))

/-- No item is written as nothing, so a list has no more items than characters. -/
lemma length_le_itemsFrom {item : Reader Value} {vs : List Value}
    (hvs : ∀ v ∈ vs, Restores item v) (first : Bool) : vs.length ≤ (itemsFrom first vs).length := by
  induction vs generalizing first with
  | nil => exact Nat.zero_le _
  | cons v vs ih =>
      obtain ⟨hv, hvs⟩ := List.forall_mem_cons.1 hvs
      obtain ⟨c, cs, hcs, -⟩ := hv.opens
      have hothers := ih hvs false
      rw [itemsFrom_cons, hcs]
      simp only [List.length_append, List.length_cons]
      omega

lemma chars_list (vs : List Value) (s : List Char) :
    chars (.list vs) ++ s = '[' :: (itemsFrom true vs ++ ']' :: s) := by
  simp [chars, itemsFrom]

/-- A list comes back when each of its items does. -/
lemma restores_list {item : Reader Value} {vs : List Value} (hvs : ∀ v ∈ vs, Restores item v) :
    Restores (list item) (.list vs) where
  opens := ⟨_, _, by rw [chars]; rfl, .bracket⟩
  takes s hs := by
    have hfuel : vs.length < (itemsFrom true vs ++ ']' :: s).length + 1 := by
      have hle := length_le_itemsFrom hvs true
      rw [List.length_append]
      omega
    rw [chars_list]
    refine (takes_peekToken rfl _).bind ((takes_drop _ _).bind ((takes_get _).bind ?_))
    exact (takes_items hvs true hfuel s).bind ((takes_endList s).bind (takes_pure _ s))

/-! ## Records -/

/-- Entries, of which the first one follows another or not. -/
def entriesFrom (first : Bool) : List (String × Value) → List Char :=
  if first then entriesText else entriesAfter

lemma entriesFrom_nil (first : Bool) : entriesFrom first [] = [] := by
  cases first <;> rfl

lemma entriesFrom_cons (first : Bool) (e : String × Value) (es : List (String × Value)) :
    entriesFrom first (e :: es)
      = separator first ++ (quoted e.1 ++ ':' :: (chars e.2 ++ entriesFrom false es)) := by
  cases first
  · simp [entriesFrom, entriesAfter, separator]
  · simp [entriesFrom, entriesText, separator]

lemma ends_entriesFrom (es : List (String × Value)) (s : List Char) :
    Ends (entriesFrom false es ++ '\x7d' :: s) := by
  cases es with
  | nil => exact .brace s
  | cons e es => exact .comma _

/-- Each entry has a colon, so a record has no more entries than characters. -/
lemma length_le_entriesFrom (es : List (String × Value)) (first : Bool) :
    es.length ≤ (entriesFrom first es).length := by
  induction es generalizing first with
  | nil => exact Nat.zero_le _
  | cons e es ih =>
      have hothers := ih false
      rw [entriesFrom_cons]
      simp only [List.length_append, List.length_cons]
      omega

lemma takes_moreEntries (first : Bool) (key : String) (s : List Char) :
    Takes (moreEntries first) (separator first ++ (quoted key ++ s)) true (quoted key ++ s) := by
  cases first <;> rfl

lemma chars_record (es : List (String × Value)) (s : List Char) :
    chars (.record es) ++ s = '\x7b' :: (entriesFrom true es ++ '\x7d' :: s) := by
  simp [chars, entriesFrom]

/-- Counting characters is enough to reach the end of a record. -/
lemma lt_fuel (es : List (String × Value)) (s : List Char) :
    es.length < (entriesFrom true es ++ '\x7d' :: s).length + 1 := by
  have hle := length_le_entriesFrom es true
  rw [List.length_append]
  omega

lemma takes_colon (s : List Char) : Takes colon (':' :: s) () s := rfl

/-- An entry comes back from the field of its name. -/
def Filed (fs : List FieldReader) (e : String × Value) : Prop :=
  ∃ f, fs.find? (·.name == e.1) = some f ∧ Restores f.value e.2

/-- The entries are found in their order, so the last of them stands first. -/
lemma takes_entries {fs : List FieldReader} {es found : List (String × Value)}
    (hes : ∀ e ∈ es, Filed fs e)
    (hnodup : ((es ++ found).map (·.1)).Nodup) (first : Bool) {fuel : Nat}
    (hfuel : es.length < fuel) (s : List Char) :
    Takes (entries fs fuel first found) (entriesFrom first es ++ '\x7d' :: s) (es.reverse ++ found)
      s := by
  induction es generalizing first fuel found with
  | nil =>
      obtain ⟨fuel, rfl⟩ := Nat.exists_eq_add_one_of_ne_zero (Nat.ne_zero_of_lt hfuel)
      rw [entriesFrom_nil]
      cases first <;> rfl
  | cons e es ih =>
      obtain ⟨fuel, rfl⟩ := Nat.exists_eq_add_one_of_ne_zero (Nat.ne_zero_of_lt hfuel)
      obtain ⟨⟨f, hf, he⟩, hes⟩ := List.forall_mem_cons.1 hes
      rw [List.cons_append, List.map_cons, List.nodup_cons] at hnodup
      have hnew : found.any (·.1 == e.1) = false := by
        simp only [List.any_eq_false, beq_iff_eq]
        intro d hd hkey
        exact hnodup.1 (hkey ▸ List.mem_map_of_mem (List.mem_append_right es hd))
      have hlater : ((es ++ e :: found).map (·.1)).Nodup := by
        refine ((List.perm_middle (a := e)).map (·.1)).nodup_iff.2 ?_
        exact List.nodup_cons.2 hnodup
      have hmore := takes_moreEntries first e.1
        (':' :: (chars e.2 ++ (entriesFrom false es ++ '\x7d' :: s)))
      have hvalue := he.takes _ (ends_entriesFrom es s)
      have hothers := ih hes hlater false (Nat.lt_of_succ_lt_succ hfuel)
      rw [entriesFrom_cons]
      simp only [List.append_assoc, List.cons_append]
      refine hmore.bind ((takes_string e.1 _).bind ?_)
      rw [hf]
      dsimp only
      rw [hnew]
      refine (takes_colon _).bind (hvalue.bind ?_)
      rw [List.reverse_cons, List.append_assoc]
      exact hothers

/-- An optional value comes back as any other: none is written as null. -/
lemma Restores.value {f : FieldReader} {v : Value} (h : Restores f.read v) :
    Restores f.value v where
  opens := h.opens
  takes s hs := by
    obtain ⟨c, cs, hcs, hc⟩ := h.opens
    have hread := h.takes s hs
    unfold FieldReader.value
    split
    case h_1 =>
      rw [hcs, List.cons_append] at hread ⊢
      refine (takes_peekToken hc.isBlank_eq _).bind ?_
      split
      next heq => exact absurd (Option.some.inj heq) hc.ne_letter
      next => exact hread
    case h_2 => exact hread

/-- An entry is not looked for under other names. -/
lemma Filed.cons {rest : Fields} {e : String × Value} (h : Filed (fieldReaders rest) e)
    {name : String} (hname : e.1 ≠ name) (presence : Presence) (kind : Kind) :
    Filed (fieldReaders (.cons name presence kind rest)) e := by
  obtain ⟨f, hf, hread⟩ := h
  exact ⟨f, (List.find?_cons_of_neg (by simpa using hname.symm)).trans hf, hread⟩

/-- A record of a kind comes back when its entries do. -/
lemma restores_record {fields : Fields} {fs : List FieldReader} {es : List (String × Value)}
    (hes : fields.Holds es) (hnodup : fields.names.Nodup)
    (hread : ∀ e ∈ es, Filed fs e) :
    Restores (record fields fs) (.record es) where
  opens := ⟨_, _, by rw [chars]; rfl, .brace⟩
  takes s hs := by
    have hkeys : (es.map (·.1)).Nodup := hes.keys_sublist.nodup hnodup
    have hdistinct : ((es ++ []).map Prod.fst).Nodup := by rwa [List.append_nil]
    have hentries := takes_entries hread hdistinct true (lt_fuel es s) s
    rw [List.append_nil] at hentries
    have hrecord : fields.assemble? (fun name => (es.reverse.find? (·.1 == name)).map (·.2))
        = some es :=
      assemble?_of_holds hes hnodup fun name _ =>
        (valueOf?_perm es.reverse_perm.symm (List.nodup_iff_count_le_one.1 hkeys name)).symm
    rw [chars_record]
    refine (takes_peekToken rfl _).bind ((takes_drop _ _).bind ((takes_get _).bind ?_))
    refine hentries.bind ?_
    dsimp only
    rw [hrecord]
    exact takes_pure _ s

/-! ## Label sets -/

/-- The entries of a record of texts. -/
def textEntries (es : List (String × String)) : List (String × Value) :=
  es.map fun e => (e.1, .text e.2)

lemma takes_text (t : String) (s : List Char) : Takes text (quoted t ++ s) t s :=
  (takes_peekToken (c := '"') rfl _).bind (takes_string t s)

lemma takes_texts (es : List (String × String)) (first : Bool) {fuel : Nat}
    (hfuel : es.length < fuel) (found : Labels) (s : List Char) :
    Takes (texts fuel first found) (entriesFrom first (textEntries es) ++ '\x7d' :: s)
      (es.foldl (fun ls e => ls.insert e.1 e.2) found) s := by
  induction es generalizing first fuel found with
  | nil =>
      obtain ⟨fuel, rfl⟩ := Nat.exists_eq_add_one_of_ne_zero (Nat.ne_zero_of_lt hfuel)
      cases first <;> rfl
  | cons e es ih =>
      obtain ⟨fuel, rfl⟩ := Nat.exists_eq_add_one_of_ne_zero (Nat.ne_zero_of_lt hfuel)
      have hothers := ih false (Nat.lt_of_succ_lt_succ hfuel) (found.insert e.1 e.2)
      have hmore := takes_moreEntries first e.1
        (':' :: (quoted e.2 ++ (entriesFrom false (textEntries es) ++ '\x7d' :: s)))
      rw [textEntries, List.map_cons, entriesFrom_cons]
      simp only [List.append_assoc, List.cons_append]
      refine hmore.bind ((takes_string e.1 _).bind ?_)
      exact (takes_colon _).bind ((takes_text e.2 _).bind hothers)

/-- A label set comes back: writing its entries in their order gives the set again. -/
lemma restores_labels (ls : Labels) : Restores labels (.record (textEntries ls.entries)) where
  opens := ⟨_, _, by rw [chars]; rfl, .brace⟩
  takes s hs := by
    have hfuel := lt_fuel (textEntries ls.entries) s
    have hlength : (textEntries ls.entries).length = ls.entries.length := List.length_map _
    rw [hlength] at hfuel
    have htexts := takes_texts ls.entries true hfuel Labels.empty s
    rw [← Labels.ofList, Labels.ofList_entries] at htexts
    rw [chars_record]
    refine (takes_peekToken rfl _).bind ((takes_drop _ _).bind ((takes_get _).bind ?_))
    exact htexts.bind (takes_pure _ s)

/-! ## Values of a kind -/

/-- One of some texts comes back. -/
lemma restores_choice {names : List String} {t : String} (ht : t ∈ names) :
    Restores (choice names) (.text t) where
  opens := ⟨_, _, by rw [chars, scalar, quoted]; rfl, .quote⟩
  takes s _ := by
    have hnamed : Takes (choice.named names) (quoted t ++ s) (.text t) s := by
      refine (takes_string t s).bind ?_
      rw [if_pos (List.contains_iff_mem.2 ht)]
      exact takes_pure _ s
    exact (takes_peekToken (c := '"') rfl _).bind hnamed

lemma restores_flag (b : Bool) : Restores flag (.flag b) where
  opens := by
    cases b
    · exact ⟨_, _, rfl, .no⟩
    · exact ⟨_, _, rfl, .yes⟩
  takes s _ := by cases b <;> rfl

lemma restores_natural {width n : Nat} (hn : n < 2 ^ width) (hwidth : width ≤ 64) :
    Restores (natural width) (.natural n) where
  opens := by
    obtain ⟨c, ds, hcons, hc⟩ := decimal_eq_cons n
    exact ⟨c, ds, by rw [chars, scalar, hcons], .digit hc⟩
  takes s hs := takes_natural hn hwidth hs

lemma restores_text (t : String) : Restores (do return .text (← text)) (.text t) where
  opens := ⟨_, _, by rw [chars, scalar, quoted]; rfl, .quote⟩
  takes s _ := (takes_text t s).bind (takes_pure _ s)

mutual

/-- **A value of a kind comes back**, if there is no double in it. -/
theorem restores_of_holds : ∀ {kind : Kind} {v : Value}, kind.Holds v → kind.tidy →
    v.Every Value.NotDouble → Restores (value kind) v
  | .flag, _, .flag b, _, _ => restores_flag b
  | .natural _, _, .natural hn, htidy, _ => restores_natural hn (of_decide_eq_true htidy)
  | .double, _, .double _, _, hv => hv.elim
  | .text, _, .text t, _, _ => restores_text t
  | .choice _, _, .choice ht, _, _ => restores_choice ht
  | .list _, _, .list hitems, htidy, hv =>
      restores_list fun w hw =>
        restores_of_holds (hitems w hw) htidy (Value.everyItem_iff.1 hv.2 w hw)
  | .record _, _, .record hentries, htidy, hv =>
      have hfields := Kind.tidy_record htidy
      restores_record hentries hfields.1 (filed_of_holds hentries hfields.2 hfields.1 hv.2)
  | .labels, _, .labels ls, _, _ => restores_labels ls

/-- Each entry of a record comes back from the field of its name. -/
lemma filed_of_holds : ∀ {fields : Fields} {es : List (String × Value)}, fields.Holds es →
    fields.tidy → fields.names.Nodup → Value.EveryEntry Value.NotDouble es →
    ∀ e ∈ es, Filed (fieldReaders fields) e
  | .nil, _, .nil, _, _, _ => by simp
  | .cons name _ _ _, (_, v) :: _, .written hv hrest, htidy, hnodup, hevery => by
      obtain ⟨hkind, htidy⟩ := Bool.and_eq_true_iff.1 htidy
      obtain ⟨hname, hnodup⟩ := List.nodup_cons.1 hnodup
      have hothers := filed_of_holds hrest htidy hnodup hevery.2
      refine List.forall_mem_cons.2 ⟨⟨_, List.find?_cons_of_pos (beq_self_eq_true name), ?_⟩, ?_⟩
      · exact Restores.value (restores_of_holds hv hkind hevery.1)
      · intro e he
        exact (hothers e he).cons (ne_of_mem_of_not_mem (hrest.key_mem he) hname) _ _
  | .cons _ _ _ _, _, .leftOut hrest, htidy, hnodup, hevery => by
      obtain ⟨_, htidy⟩ := Bool.and_eq_true_iff.1 htidy
      obtain ⟨hname, hnodup⟩ := List.nodup_cons.1 hnodup
      have hothers := filed_of_holds hrest htidy hnodup hevery
      intro e he
      exact (hothers e he).cons (ne_of_mem_of_not_mem (hrest.key_mem he) hname) _ _

end

end Meterboard.Json
