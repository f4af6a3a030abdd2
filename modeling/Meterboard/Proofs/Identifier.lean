import Mathlib.Tactic.Lemma
import Meterboard.Identifier

/-!
# Identifiers that survive being written and read

The text of an identifier has no escapes, so reading gives back what was written only as long as no
name, key or value holds a character that reading splits at.

**What survives.**  `Identifier.Survives` — the name is there and has no opening brace, there is a
label, no key has a comma or an equals sign, and no value has a comma.  Values may hold braces and
equals signs: the name ends at the first opening brace, the labels end at the last closing one, and
a segment is split at its first equals sign.

**Both directions.**  `parse?_text` — what survives is read back.  `survives_of_parse?` — whatever
is read from any text at all survives, so that names and label values that came out of a listing can
be put into a variable again.  `read_back_iff_survives` — so survival is being read back.

Reading splits a text in three ways, and each has a lemma for the way in and one for the way out:
`splitFirst?` at the first character of a kind, `beforeLast?` at the last, `pieces` at all of them.
-/

namespace Meterboard

/-! ## Label sets -/

namespace Labels

/-- A key above all others goes to the end. -/
lemma insertEntry_of_lt {k v : String} {es : List (String × String)} (h : ∀ e ∈ es, e.1 < k) :
    insertEntry k v es = es ++ [(k, v)] := by
  induction es with
  | nil => rfl
  | cons e rest ih =>
      obtain ⟨he, hrest⟩ := List.forall_mem_cons.1 h
      simp [insertEntry, String.lt_asymm he, he, ih hrest]

/-- Writing ascending keys above those that are there appends them. -/
lemma entries_foldl_insert (ls : Labels) {es : List (String × String)}
    (h : (ls.entries ++ es).Pairwise (·.1 < ·.1)) :
    (es.foldl (fun ls e => ls.insert e.1 e.2) ls).entries = ls.entries ++ es := by
  induction es generalizing ls with
  | nil => simp
  | cons e rest ih =>
      have hlast : ∀ f ∈ ls.entries, f.1 < e.1 := fun f hf =>
        (List.pairwise_append.1 h).2.2 f hf e (by simp)
      have hinsert : (ls.insert e.1 e.2).entries = ls.entries ++ [e] := insertEntry_of_lt hlast
      rw [List.foldl_cons, ih, hinsert, List.append_assoc, List.singleton_append]
      rw [hinsert, List.append_assoc]
      exact h

/-- A set of labels is what writing its entries gives. -/
lemma ofList_entries (ls : Labels) : ofList ls.entries = ls := by
  have hentries : (ofList ls.entries).entries = ls.entries :=
    entries_foldl_insert empty ls.ascending
  obtain ⟨entries, ascending⟩ := ls
  generalize ofList entries = written at hentries
  obtain ⟨_, _⟩ := written
  cases hentries
  rfl

lemma mem_foldl_insert {es : List (String × String)} {ls : Labels} {e : String × String}
    (h : e ∈ (es.foldl (fun ls e => ls.insert e.1 e.2) ls).entries) :
    e ∈ ls.entries ∨ e ∈ es := by
  induction es generalizing ls with
  | nil => exact .inl h
  | cons f rest ih =>
      rcases ih h with hls | hrest
      · rcases mem_insertEntry hls with rfl | hold
        · exact .inr (by simp)
        · exact .inl hold
      · exact .inr (List.mem_cons_of_mem _ hrest)

/-- Every label of a set was written into it. -/
lemma mem_ofList {es : List (String × String)} {e : String × String}
    (h : e ∈ (ofList es).entries) : e ∈ es := by
  rcases mem_foldl_insert h with hempty | hes
  · cases hempty
  · exact hes

/-- A write leaves no set of labels empty. -/
lemma insert_entries_ne_nil (ls : Labels) (k v : String) : (ls.insert k v).entries ≠ [] := by
  show insertEntry k v ls.entries ≠ []
  cases ls.entries with
  | nil => simp [insertEntry]
  | cons e rest =>
      simp only [insertEntry]
      split
      · simp
      · split <;> simp

lemma foldl_insert_ne_nil (es : List (String × String)) {ls : Labels} (h : ls.entries ≠ []) :
    (es.foldl (fun ls e => ls.insert e.1 e.2) ls).entries ≠ [] := by
  induction es generalizing ls with
  | nil => exact h
  | cons e rest ih => exact ih (insert_entries_ne_nil ls e.1 e.2)

/-- A set is empty only if nothing was written into it. -/
lemma ofList_entries_ne_nil {es : List (String × String)} (h : es ≠ []) :
    (ofList es).entries ≠ [] := by
  cases es with
  | nil => exact absurd rfl h
  | cons e rest => exact foldl_insert_ne_nil rest (insert_entries_ne_nil empty e.1 e.2)

lemma mem_of_get? {ls : Labels} {k v : String} (h : ls.get? k = some v) :
    (k, v) ∈ ls.entries := by
  obtain ⟨e, hfind, rfl⟩ := Option.map_eq_some_iff.1 h
  obtain rfl : e.1 = k := by simpa using List.find?_some hfind
  exact List.mem_of_find?_eq_some hfind

end Labels

namespace Identifier

/-! ## Splitting -/

lemma splitFirst?_append {c : Char} {p : List Char} (h : c ∉ p) (rest : List Char) :
    splitFirst? c (p ++ c :: rest) = some (p, rest) := by
  induction p with
  | nil => simp [splitFirst?]
  | cons d p ih =>
      have hd : c ≠ d := List.ne_of_not_mem_cons h
      have hp : c ∉ p := List.not_mem_of_not_mem_cons h
      simp [splitFirst?, hd.symm, ih hp]

lemma eq_of_splitFirst? {c : Char} {s p rest : List Char} (h : splitFirst? c s = some (p, rest)) :
    s = p ++ c :: rest ∧ c ∉ p := by
  induction s generalizing p with
  | nil => cases h
  | cons d s ih =>
      simp only [splitFirst?] at h
      split at h
      · rename_i hd
        cases h
        exact ⟨by simp [hd], by simp⟩
      · rename_i hd
        obtain ⟨⟨q, r⟩, hq, hp⟩ := Option.map_eq_some_iff.1 h
        cases hp
        obtain ⟨rfl, hmem⟩ := ih hq
        exact ⟨rfl, List.not_mem_cons_of_ne_of_not_mem (Ne.symm hd) hmem⟩

lemma not_mem_of_splitFirst? {c : Char} {s : List Char} (h : splitFirst? c s = none) : c ∉ s := by
  induction s with
  | nil => simp
  | cons d s ih =>
      simp only [splitFirst?] at h
      split at h
      · cases h
      · rename_i hd
        exact List.not_mem_cons_of_ne_of_not_mem (Ne.symm hd) (ih (Option.map_eq_none_iff.1 h))

lemma splitFirst?_eq_none {c : Char} {s : List Char} (h : c ∉ s) : splitFirst? c s = none := by
  refine Option.eq_none_iff_forall_ne_some.2 fun p hp => h ?_
  obtain ⟨rfl, -⟩ := eq_of_splitFirst? hp
  simp

lemma beforeLast?_eq_none_iff {c : Char} {s : List Char} : beforeLast? c s = none ↔ c ∉ s := by
  induction s with
  | nil => simp [beforeLast?]
  | cons d s ih =>
      simp only [beforeLast?]
      cases hs : beforeLast? c s with
      | none =>
          have hrest : c ∉ s := ih.1 hs
          by_cases hd : c = d
          · simp [hd]
          · simp [hd, Ne.symm hd, hrest]
      | some p =>
          have hrest : ¬ c ∉ s := fun h => by simp [ih.2 h] at hs
          have hmem : c ∈ s := Decidable.not_not.1 hrest
          simp [hmem]

lemma beforeLast?_append {c : Char} (p : List Char) {t : List Char} (h : c ∉ t) :
    beforeLast? c (p ++ c :: t) = some p := by
  induction p with
  | nil => simp [beforeLast?, beforeLast?_eq_none_iff.2 h]
  | cons d p ih => simp [beforeLast?, ih]

lemma eq_of_beforeLast? {c : Char} {s p : List Char} (h : beforeLast? c s = some p) :
    ∃ t, s = p ++ c :: t ∧ c ∉ t := by
  induction s generalizing p with
  | nil => cases h
  | cons d s ih =>
      simp only [beforeLast?] at h
      split at h
      · rename_i q hq
        cases h
        obtain ⟨t, rfl, ht⟩ := ih hq
        exact ⟨t, rfl, ht⟩
      · rename_i hnone
        split at h
        · rename_i hd
          cases h
          exact ⟨s, by simp [hd], beforeLast?_eq_none_iff.1 hnone⟩
        · cases h

lemma pieces_of_not_mem {c : Char} {s : List Char} (h : c ∉ s) : pieces c s = [s] := by
  induction s with
  | nil => rfl
  | cons d s ih =>
      have hd : c ≠ d := List.ne_of_not_mem_cons h
      have hs : c ∉ s := List.not_mem_of_not_mem_cons h
      simp [pieces, hd.symm, ih hs]

lemma pieces_append {c : Char} {p : List Char} (h : c ∉ p) (rest : List Char) :
    pieces c (p ++ c :: rest) = p :: pieces c rest := by
  induction p with
  | nil => simp [pieces]
  | cons d p ih =>
      have hd : c ≠ d := List.ne_of_not_mem_cons h
      have hp : c ∉ p := List.not_mem_of_not_mem_cons h
      simp [pieces, hd.symm, ih hp]

lemma pieces_ne_nil (c : Char) (s : List Char) : pieces c s ≠ [] := by
  cases s with
  | nil => simp [pieces]
  | cons d s =>
      simp only [pieces]
      split
      · simp
      · split <;> simp

/-- No piece holds a separator. -/
lemma not_mem_of_mem_pieces {c : Char} {s p : List Char} (h : p ∈ pieces c s) : c ∉ p := by
  induction s generalizing p with
  | nil =>
      obtain rfl : p = [] := by simpa [pieces] using h
      simp
  | cons d s ih =>
      simp only [pieces] at h
      split at h
      · rcases List.mem_cons.1 h with rfl | h
        · simp
        · exact ih h
      · rename_i hd
        split at h
        · rename_i hnil
          exact absurd hnil (pieces_ne_nil c s)
        · rename_i q qs hpieces
          rcases List.mem_cons.1 h with rfl | h
          · have hq : c ∉ q := ih (hpieces ▸ List.mem_cons_self)
            exact List.not_mem_cons_of_ne_of_not_mem (Ne.symm hd) hq
          · exact ih (hpieces ▸ List.mem_cons_of_mem _ h)

/-! ## Segments -/

lemma entryOf_append {k v : List Char} (h : '=' ∉ k) :
    entryOf (k ++ '=' :: v) = (String.ofList k, String.ofList v) := by
  simp [entryOf, splitFirst?_append h]

/-- A segment without a comma gives a key and a value without one, and no key has an equals sign. -/
lemma entryOf_plain {segment : List Char} (h : ',' ∉ segment) :
    ',' ∉ (entryOf segment).1.toList ∧ '=' ∉ (entryOf segment).1.toList ∧
      ',' ∉ (entryOf segment).2.toList := by
  simp only [entryOf]
  split
  · rename_i k v hsplit
    obtain ⟨rfl, hk⟩ := eq_of_splitFirst? hsplit
    have hparts : ',' ∉ k ∧ ',' ∉ v := by simpa using h
    simpa using ⟨hparts.1, hk, hparts.2⟩
  · rename_i hsplit
    simpa using ⟨h, not_mem_of_splitFirst? hsplit⟩

/-- The segments of written entries are the entries, as long as none of them holds a comma. -/
lemma pieces_entriesText {es : List (String × String)} (hne : es ≠ [])
    (h : ∀ e ∈ es, ',' ∉ e.1.toList ∧ ',' ∉ e.2.toList) :
    pieces ',' (entriesText es) = es.map fun e => e.1.toList ++ '=' :: e.2.toList := by
  induction es with
  | nil => exact absurd rfl hne
  | cons e rest ih =>
      obtain ⟨⟨hkey, hvalue⟩, hrest⟩ := List.forall_mem_cons.1 h
      have hsegment : ',' ∉ e.1.toList ++ '=' :: e.2.toList := by simp [hkey, hvalue]
      cases rest with
      | nil => simpa [entriesText] using pieces_of_not_mem hsegment
      | cons f rest =>
          have hpieces := pieces_append hsegment (entriesText (f :: rest))
          rw [ih (by simp) hrest] at hpieces
          simpa [entriesText] using hpieces

/-! ## Writing and reading -/

/-- The identifier can be written without an escape. -/
structure Survives (id : Identifier) : Prop where
  named : id.name ≠ ""
  name : '\x7b' ∉ id.name.toList
  labelled : id.labels.entries ≠ []
  labels : ∀ e ∈ id.labels.entries, ',' ∉ e.1.toList ∧ '=' ∉ e.1.toList ∧ ',' ∉ e.2.toList

/-- The labels that are written are read back. -/
lemma labelsOf_entriesText {ls : Labels} (hne : ls.entries ≠ [])
    (h : ∀ e ∈ ls.entries, ',' ∉ e.1.toList ∧ '=' ∉ e.1.toList ∧ ',' ∉ e.2.toList) :
    labelsOf (entriesText ls.entries) = ls := by
  have hentry : ∀ e ∈ ls.entries, entryOf (e.1.toList ++ '=' :: e.2.toList) = e := by
    intro e he
    simpa using entryOf_append (v := e.2.toList) (h e he).2.1
  have hread : (ls.entries.map fun e => e.1.toList ++ '=' :: e.2.toList).map entryOf
      = ls.entries := by
    rw [List.map_map]
    exact (List.map_congr_left hentry).trans (List.map_id _)
  rw [labelsOf, pieces_entriesText hne fun e he => ⟨(h e he).1, (h e he).2.2⟩, hread,
    Labels.ofList_entries]

/-- A text is read by its first opening and its last closing brace, if there is something before the
former and between the two. -/
lemma parseChars?_eq_some_iff {s : List Char} {id : Identifier} :
    parseChars? s = some id ↔ ∃ name body tail, s = name ++ '\x7b' :: (body ++ '\x7d' :: tail) ∧
      name ≠ [] ∧ '\x7b' ∉ name ∧ body ≠ [] ∧ '\x7d' ∉ tail ∧
      id = ⟨String.ofList name, labelsOf body⟩ := by
  constructor
  · intro h
    simp only [parseChars?, Option.bind_eq_bind, Option.bind_eq_some_iff] at h
    obtain ⟨⟨name, rest⟩, hsplit, body, hbody, hid⟩ := h
    obtain ⟨rfl, hname⟩ := eq_of_splitFirst? hsplit
    obtain ⟨tail, rfl, htail⟩ := eq_of_beforeLast? hbody
    dsimp only at hid
    split at hid
    · cases hid
    · rename_i hnonempty
      obtain ⟨hname', hbody'⟩ : name ≠ [] ∧ body ≠ [] := by simpa using hnonempty
      exact ⟨name, body, tail, rfl, hname', hname, hbody', htail, (Option.some.inj hid).symm⟩
  · rintro ⟨name, body, tail, rfl, hname', hname, hbody', htail, rfl⟩
    simp [parseChars?, splitFirst?_append hname, beforeLast?_append body htail, hname', hbody']

/-- **What survives is read back.** -/
theorem parse?_text {id : Identifier} (h : id.Survives) : parse? id.text = some id := by
  have hchars : id.text.toList
      = id.name.toList ++ '\x7b' :: (entriesText id.labels.entries ++ '\x7d' :: []) := by
    simp [text, chars, h.labelled]
  have hname : id.name.toList ≠ [] := by simpa using h.named
  have hbody : entriesText id.labels.entries ≠ [] := by
    intro hnil
    obtain ⟨e, rest, hentries⟩ := List.exists_cons_of_ne_nil h.labelled
    rw [hentries] at hnil
    cases rest <;> simp [entriesText] at hnil
  rw [parse?, hchars, parseChars?_eq_some_iff]
  refine ⟨_, _, [], rfl, hname, h.name, hbody, List.not_mem_nil, ?_⟩
  rw [labelsOf_entriesText h.labelled h.labels, String.ofList_toList]

/-- **What is read survives**, whatever the text. -/
theorem survives_of_parse? {s : String} {id : Identifier} (h : parse? s = some id) :
    id.Survives := by
  obtain ⟨name, body, tail, -, hnamed, hname, -, -, rfl⟩ := parseChars?_eq_some_iff.1 h
  refine ⟨by simpa using hnamed, by simpa using hname,
    Labels.ofList_entries_ne_nil (by simpa using pieces_ne_nil ',' body), fun e he => ?_⟩
  obtain ⟨segment, hsegment, rfl⟩ := List.mem_map.1 (Labels.mem_ofList he)
  exact entryOf_plain (not_mem_of_mem_pieces hsegment)

/-- A label that was read has no comma in its value. -/
lemma Survives.label? {id : Identifier} (h : id.Survives) {key value : String}
    (hlabel : id.label? key = some value) : ',' ∉ value.toList :=
  (h.labels _ (Labels.mem_of_get? hlabel)).2.2

/-- **Survival is being read back.**  The identifiers that are read back from what they are written
as are exactly those that survive, and reading yields no others: once read from any text at all, an
identifier may be written and read as often as one likes. -/
theorem read_back_iff_survives :
    (∀ id : Identifier, parse? id.text = some id ↔ id.Survives) ∧
      ∀ (s : String) (id : Identifier), parse? s = some id →
        id.Survives ∧ parse? id.text = some id := by
  refine ⟨fun id => ⟨survives_of_parse?, parse?_text⟩, fun s id h => ?_⟩
  have hsurvives := survives_of_parse? h
  exact ⟨hsurvives, parse?_text hsurvives⟩

/-- Braces and an equals sign in values, a key that is written twice, and a text that goes on behind
the last brace. -/
theorem read_back_iff_survives_braces :
    parse? "m\x7bb=0,a=x=y,b=\x7d\x7b\x7dz" =
        some ⟨"m", Labels.ofList [("a", "x=y"), ("b", "\x7d\x7b")]⟩ ∧
      parse? (Identifier.text ⟨"m", Labels.ofList [("a", "x=y"), ("b", "\x7d\x7b")]⟩) =
        some ⟨"m", Labels.ofList [("a", "x=y"), ("b", "\x7d\x7b")]⟩ :=
  have hread : parse? "m\x7bb=0,a=x=y,b=\x7d\x7b\x7dz" =
      some ⟨"m", Labels.ofList [("a", "x=y"), ("b", "\x7d\x7b")]⟩ := by decide
  ⟨hread, (read_back_iff_survives.2 _ _ hread).2⟩

end Identifier

end Meterboard
