import Mathlib.Data.List.Induction
import Mathlib.Data.List.Sort
import Meterboard.Proofs.Identifier
import Meterboard.Proofs.Run

/-!
# The grammar of an identifier

An identifier is a name, an opening brace, a body, a closing brace, and a tail that nobody looks at.
Braces may nest, cross and repeat.  What settles where the parts end is that the name has no opening
brace and the tail no closing one, so a text is cut in one way at most.

* `Parts`, `Parts.Of` — a text around its braces.
* `Segmented` — a body, cut at each of its commas.
* `Entry`, `Binds` — the key and the value of a segment; of several segments with one key the last
  one counts.
* `parse?_eq_some_iff` — the reader finds the parts.
* `get?_labelsOf` — the labels are the bindings of the segments.
* `parse?_iff_grammar` — what is read of every text.

A set of labels is known by what is found under each key (`Labels.ext_get?`), and under a key there
is what was written last (`Labels.get?_ofList`).
-/

namespace Meterboard

/-! ## Label sets by their keys -/

namespace Labels

lemma find?_insertEntry (k v key : String) (es : List (String × String)) :
    (insertEntry k v es).find? (·.1 == key)
      = if k = key then some (k, v) else es.find? (·.1 == key) := by
  induction es with
  | nil => by_cases hk : k = key <;> simp [insertEntry, hk]
  | cons e rest ih =>
      simp only [insertEntry]
      split
      · by_cases hk : k = key <;> simp [hk]
      · rename_i hke
        split
        · rename_i hek
          have hne : e.1 ≠ k := fun h => String.lt_irrefl k (h ▸ hek)
          by_cases hk : k = key
          · subst hk
            simpa [hne] using ih
          · simp [List.find?_cons, ih, hk]
        · rename_i hek
          -- the key is there already and gets a new value
          have heq : e.1 = k := String.le_antisymm (String.not_lt.1 hke) (String.not_lt.1 hek)
          by_cases hk : k = key <;> simp [heq, hk]

/-- Under the key that was written there is the new value, and under any other what was there. -/
lemma get?_insert (ls : Labels) (k v key : String) :
    (ls.insert k v).get? key = if k = key then some v else ls.get? key := by
  have hfind := find?_insertEntry k v key ls.entries
  simp only [get?, insert, hfind]
  split <;> rfl

/-- Under a key there is what was written last. -/
lemma get?_ofList (es : List (String × String)) (key : String) :
    (ofList es).get? key = latest? (fun e => if e.1 = key then some e.2 else none) es := by
  induction es using List.reverseRecOn with
  | nil => rfl
  | append_singleton es e ih =>
      have hwrite : ofList (es ++ [e]) = (ofList es).insert e.1 e.2 := by simp [ofList]
      rw [hwrite, get?_insert, latest?_concat, ih]
      split <;> rfl

lemma mem_iff_get? {ls : Labels} {k v : String} : (k, v) ∈ ls.entries ↔ ls.get? k = some v := by
  refine ⟨fun hmem => ?_, mem_of_get?⟩
  rw [← ofList_entries ls, get?_ofList, latest?_eq_some_iff]
  obtain ⟨before, after, hentries⟩ := List.append_of_mem hmem
  refine ⟨before, (k, v), after, hentries, by simp, fun e he => ?_⟩
  have hascending := ls.ascending
  rw [hentries] at hascending
  have hlt : k < e.1 :=
    (List.pairwise_cons.1 (List.pairwise_append.1 hascending).2.1).1 e he
  have hne : e.1 ≠ k := fun h => String.lt_irrefl k (h ▸ hlt)
  simp [hne]

/-- Two sets with the same values under the same keys are the same. -/
lemma ext_get? {a b : Labels} (h : ∀ key, a.get? key = b.get? key) : a = b := by
  have hirrefl : Std.Irrefl fun e f : String × String => e.1 < f.1 :=
    ⟨fun e => String.lt_irrefl e.1⟩
  have hantisymm : Std.Antisymm fun e f : String × String => e.1 < f.1 :=
    ⟨fun e f hef hfe => absurd hfe (String.lt_asymm hef)⟩
  have hentries : a.entries = b.entries := by
    refine a.ascending.eq_of_mem_iff b.ascending fun e => ?_
    rw [mem_iff_get?, mem_iff_get?, h e.1]
  obtain ⟨entries, ascending⟩ := a
  obtain ⟨_, _⟩ := b
  cases hentries
  rfl

end Labels

namespace Identifier

/-! ## Texts -/

/-- A text around its braces. -/
@[ext]
structure Parts where
  name : String
  body : String
  tail : String

/-- The parts make up the text.  The name ends before the first opening brace, and the tail begins
behind the last closing one; neither name nor body is empty. -/
structure Parts.Of (p : Parts) (s : String) : Prop where
  text : s = p.name ++ "\x7b" ++ p.body ++ "\x7d" ++ p.tail
  named : p.name ≠ ""
  name_plain : '\x7b' ∉ p.name.toList
  filled : p.body ≠ ""
  tail_plain : '\x7d' ∉ p.tail.toList

/-- A body in segments: there is a comma between each two of them, and none in any of them. -/
structure Segmented (body : String) (segments : List String) : Prop where
  some_segment : segments ≠ []
  plain : ∀ s ∈ segments, ',' ∉ s.toList
  joined : ",".intercalate segments = body

/-- The key and the value of a segment are what stands before and behind its first equals sign.  A
segment without one is a key, and its value is empty. -/
inductive Entry : String → String → String → Prop
  | pair {key value : String} : '=' ∉ key.toList → Entry (key ++ "=" ++ value) key value
  | bare {key : String} : '=' ∉ key.toList → Entry key key ""

/-- The last of the segments with this key gives it the value. -/
def Binds (segments : List String) (key value : String) : Prop :=
  ∃ before last after, segments = before ++ last :: after ∧ Entry last key value ∧
    ∀ s ∈ after, ∀ other, ¬ Entry s key other

/-! ## The reader finds the parts -/

/-- What is read of a text are its parts. -/
lemma parse?_eq_some_iff {s : String} {id : Identifier} :
    parse? s = some id ↔
      ∃ p : Parts, p.Of s ∧ id = ⟨p.name, labelsOf p.body.toList⟩ := by
  rw [parse?, parseChars?_eq_some_iff]
  constructor
  · rintro ⟨name, body, tail, hs, hname', hname, hbody', htail, rfl⟩
    refine ⟨⟨String.ofList name, String.ofList body, String.ofList tail⟩, ⟨?_, ?_, ?_, ?_, ?_⟩, ?_⟩
    · apply String.toList_inj.1
      simpa using hs
    · simpa using hname'
    · simpa using hname
    · simpa using hbody'
    · simpa using htail
    · simp
  · rintro ⟨p, h, rfl⟩
    refine ⟨p.name.toList, p.body.toList, p.tail.toList, ?_, ?_, h.name_plain, ?_, h.tail_plain,
      ?_⟩
    · simp [h.text]
    · simpa using h.named
    · simpa using h.filled
    · simp

/-- A text has parts in one way at most. -/
lemma Parts.Of.unique {p q : Parts} {s : String} (hp : p.Of s) (hq : q.Of s) : p = q := by
  have hsplit : ∀ {r : Parts}, r.Of s → splitFirst? '\x7b' s.toList
      = some (r.name.toList, r.body.toList ++ '\x7d' :: r.tail.toList) := by
    intro r hr
    have hs : s.toList
        = r.name.toList ++ '\x7b' :: (r.body.toList ++ '\x7d' :: r.tail.toList) := by
      simp [hr.text]
    rw [hs, splitFirst?_append hr.name_plain]
  obtain ⟨hname, hrest⟩ := Prod.mk.inj (Option.some.inj ((hsplit hp).symm.trans (hsplit hq)))
  have hfound := beforeLast?_append p.body.toList hp.tail_plain
  rw [hrest, beforeLast?_append q.body.toList hq.tail_plain] at hfound
  have hbody : q.body.toList = p.body.toList := Option.some.inj hfound
  rw [hbody] at hrest
  have htail : p.tail.toList = q.tail.toList :=
    (List.cons.inj (List.append_cancel_left hrest)).2
  exact Parts.ext (String.toList_inj.1 hname) (String.toList_inj.1 hbody.symm)
    (String.toList_inj.1 htail)

/-! ## The labels are the bindings of the segments -/

lemma pieces_eq_splitOn (c : Char) (s : List Char) : pieces c s = s.splitOn c := by
  induction s with
  | nil => rfl
  | cons d s ih =>
      rw [List.splitOn_cons_eq_if_modifyHead, ← ih]
      simp only [pieces]
      by_cases hd : d = c
      · simp [hd]
      · obtain ⟨p, ps, hpieces⟩ := List.exists_cons_of_ne_nil (pieces_ne_nil c s)
        simp [hd, hpieces]

lemma segmented_iff {body : String} {segments : List String} :
    Segmented body segments ↔ segments.map String.toList = pieces ',' body.toList := by
  constructor
  · rintro ⟨hsome, hplain, rfl⟩
    rw [String.toList_intercalate, pieces_eq_splitOn]
    refine (List.splitOn_intercalate ',' ?_ ?_).symm
    · simpa using hplain
    · simpa using hsome
  · intro h
    refine ⟨?_, fun s hs => not_mem_of_mem_pieces (h ▸ List.mem_map_of_mem hs), ?_⟩
    · rintro rfl
      exact pieces_ne_nil _ _ h.symm
    · apply String.toList_inj.1
      rw [String.toList_intercalate, h, pieces_eq_splitOn]
      exact List.intercalate_splitOn ','

/-- Every body has its segments, and no others. -/
lemma exists_unique_segmented (body : String) : ∃! segments, Segmented body segments := by
  refine ⟨(pieces ',' body.toList).map String.ofList, segmented_iff.2 ?_, fun segments h => ?_⟩
  · simp [Function.comp_def]
  · rw [← segmented_iff.1 h]
    simp [Function.comp_def]

lemma entry_iff {segment key value : String} :
    Entry segment key value ↔ entryOf segment.toList = (key, value) := by
  constructor
  · rintro (hkey | hkey)
    · have hentry := entryOf_append (v := value.toList) hkey
      simpa using hentry
    · simp [entryOf, splitFirst?_eq_none hkey]
  · intro h
    unfold entryOf at h
    split at h
    · rename_i k v hsplit
      obtain ⟨hsegment, hkey⟩ := eq_of_splitFirst? hsplit
      cases h
      have hpair : segment = String.ofList k ++ "=" ++ String.ofList v := by
        apply String.toList_inj.1
        simpa using hsegment
      rw [hpair]
      exact .pair (by simpa using hkey)
    · rename_i hsplit
      cases h
      rw [String.ofList_toList]
      exact .bare (not_mem_of_splitFirst? hsplit)

/-- Under a key there is the value that the segments bind to it. -/
lemma get?_labelsOf {body : String} {segments : List String} (h : Segmented body segments)
    (key value : String) :
    (labelsOf body.toList).get? key = some value ↔ Binds segments key value := by
  rw [labelsOf, Labels.get?_ofList, ← segmented_iff.1 h, latest?_map, latest?_map,
    latest?_eq_some_iff]
  have hentry : ∀ segment other, (if (entryOf segment.toList).1 = key
      then some (entryOf segment.toList).2 else none) = some other ↔ Entry segment key other := by
    intro segment other
    rw [entry_iff, Prod.ext_iff]
    simp
  simp only [Binds, hentry, Option.eq_none_iff_forall_ne_some, ne_eq]

/-! ## What is read of every text -/

/-- **The reader accepts just the grammar.**  What is read of a text has the name before its first
opening brace, and under each key the value of the last segment with this key.  Any other text is
refused.  A text is cut in one way at most, and a body into its segments in just one way. -/
theorem parse?_iff_grammar :
    (∀ (s : String) (id : Identifier), parse? s = some id ↔
      ∃ (p : Parts) (segments : List String), p.Of s ∧ id.name = p.name ∧
        Segmented p.body segments ∧
        ∀ key value, id.label? key = some value ↔ Binds segments key value) ∧
    (∀ s : String, parse? s = none ↔ ∀ p : Parts, ¬ p.Of s) ∧
    (∀ (s : String) (p q : Parts), p.Of s → q.Of s → p = q) ∧
    ∀ body : String, ∃! segments, Segmented body segments := by
  refine ⟨fun s id => ?read, fun s => ?refused, fun s p q => Parts.Of.unique,
    exists_unique_segmented⟩
  case read =>
    rw [parse?_eq_some_iff]
    constructor
    · rintro ⟨p, hp, rfl⟩
      obtain ⟨segments, hsegments, -⟩ := exists_unique_segmented p.body
      exact ⟨p, segments, hp, rfl, hsegments, get?_labelsOf hsegments⟩
    · rintro ⟨p, segments, hp, hname, hsegments, hlabels⟩
      have hsame : id.labels = labelsOf p.body.toList := by
        refine Labels.ext_get? fun key => Option.ext fun value => ?_
        rw [get?_labelsOf hsegments]
        exact hlabels key value
      obtain ⟨name, labels⟩ := id
      exact ⟨p, hp, by rw [← hname, ← hsame]⟩
  case refused =>
    rw [Option.eq_none_iff_forall_ne_some]
    constructor
    · intro h p hp
      exact h _ (parse?_eq_some_iff.2 ⟨p, hp, rfl⟩)
    · intro h id hid
      obtain ⟨p, hp, -⟩ := parse?_eq_some_iff.1 hid
      exact h p hp

/-- Braces that cross, a key that comes twice, and a segment without anything in it. -/
theorem parse?_iff_grammar_crossed :
    parse? "m\x7ba=0,,a=1=\x7d\x7b\x7dz"
        = some ⟨"m", Labels.ofList [("a", "1=\x7d\x7b"), ("", "")]⟩ ∧
      Parts.Of ⟨"m", "a=0,,a=1=\x7d\x7b", "z"⟩ "m\x7ba=0,,a=1=\x7d\x7b\x7dz" ∧
      ∃ segments, Segmented "a=0,,a=1=\x7d\x7b" segments ∧
        Binds segments "" "" ∧ Binds segments "a" "1=\x7d\x7b" := by
  have hread : parse? "m\x7ba=0,,a=1=\x7d\x7b\x7dz"
      = some ⟨"m", Labels.ofList [("a", "1=\x7d\x7b"), ("", "")]⟩ := by decide
  have hparts : Parts.Of ⟨"m", "a=0,,a=1=\x7d\x7b", "z"⟩ "m\x7ba=0,,a=1=\x7d\x7b\x7dz" :=
    ⟨by decide, by decide, by decide, by decide, by decide⟩
  obtain ⟨hgrammar, -, hunique, -⟩ := parse?_iff_grammar
  obtain ⟨p, segments, hp, -, hsegments, hlabels⟩ := (hgrammar _ _).1 hread
  obtain rfl := hunique _ _ _ hp hparts
  exact ⟨hread, hparts, segments, hsegments, (hlabels _ _).1 (by decide),
    (hlabels _ _).1 (by decide)⟩

end Identifier

end Meterboard
