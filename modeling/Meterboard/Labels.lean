/-!
# Label sets

A metric stream carries labels, each key at most once.  Two sets with the same keys and values are
the same set, so the entries are kept in ascending order of their keys and the order is part of the
type.

* `Labels` — entries with strictly ascending keys, in the order of their UTF-8 bytes.
* `Labels.insert`, `Labels.get?` — writing (the last write of a key wins) and looking up.
* `Sorted.ofList` — the distinct texts of a list in ascending order; `Sorted.mem_ofList`,
  `Sorted.pairwise_ofList`.
-/

namespace Meterboard

/-! ## Entries -/

namespace Labels

/-- Write a key into ascending entries, in its place. -/
def insertEntry (k v : String) : List (String × String) → List (String × String)
  | [] => [(k, v)]
  | e :: rest =>
      if k < e.1 then (k, v) :: e :: rest
      else if e.1 < k then e :: insertEntry k v rest
      else (k, v) :: rest

/-- The keys after a write are the old ones and the one that was written. -/
theorem mem_insertEntry {k v : String} {es : List (String × String)} {e : String × String}
    (h : e ∈ insertEntry k v es) : e = (k, v) ∨ e ∈ es := by
  induction es with
  | nil => simpa [insertEntry] using h
  | cons f rest ih =>
      simp only [insertEntry] at h
      split at h
      · simpa using h
      · split at h
        · rcases List.mem_cons.1 h with rfl | h
          · simp
          · rcases ih h with rfl | h <;> simp [*]
        · rcases List.mem_cons.1 h with rfl | h <;> simp [*]

/-- A write keeps the keys ascending. -/
theorem pairwise_insertEntry {k v : String} {es : List (String × String)}
    (h : es.Pairwise (·.1 < ·.1)) : (insertEntry k v es).Pairwise (·.1 < ·.1) := by
  induction es with
  | nil => simp [insertEntry]
  | cons e rest ih =>
      obtain ⟨he, hr⟩ := List.pairwise_cons.1 h
      simp only [insertEntry]
      split
      · rename_i hk
        refine List.pairwise_cons.2 ⟨fun f hf => ?_, h⟩
        rcases List.mem_cons.1 hf with rfl | hf
        · exact hk
        · exact String.lt_trans hk (he f hf)
      · rename_i hk
        split
        · rename_i hk'
          refine List.pairwise_cons.2 ⟨fun f hf => ?_, ih hr⟩
          rcases mem_insertEntry hf with rfl | hf
          · exact hk'
          · exact he f hf
        · rename_i hk'
          have hke : k = e.1 :=
            String.le_antisymm (String.not_lt.1 hk') (String.not_lt.1 hk)
          exact List.pairwise_cons.2 ⟨fun f hf => hke ▸ he f hf, hr⟩

end Labels

/-! ## The set -/

/-- A set of labels: entries whose keys ascend strictly. -/
structure Labels where
  entries : List (String × String)
  ascending : entries.Pairwise (·.1 < ·.1)

namespace Labels

instance : DecidableEq Labels := fun a b =>
  if h : a.entries = b.entries then isTrue (by cases a; cases b; cases h; rfl)
  else isFalse fun hab => h (hab ▸ rfl)

/-- No labels. -/
def empty : Labels := ⟨[], List.Pairwise.nil⟩

/-- Set a label; a key that is there gets the new value. -/
def insert (ls : Labels) (k v : String) : Labels :=
  ⟨insertEntry k v ls.entries, pairwise_insertEntry ls.ascending⟩

/-- Set the labels of a list one after the other, so that the last write of a key wins. -/
def ofList (es : List (String × String)) : Labels :=
  es.foldl (fun ls e => ls.insert e.1 e.2) empty

/-- The value of a label. -/
def get? (ls : Labels) (k : String) : Option String :=
  (ls.entries.find? (·.1 == k)).map (·.2)

end Labels

/-! ## Sorted texts -/

namespace Sorted

/-- Put a text into an ascending list, unless it is there. -/
def insert (x : String) : List String → List String
  | [] => [x]
  | y :: ys => if x < y then x :: y :: ys else if y < x then y :: insert x ys else y :: ys

/-- The distinct texts of a list, in ascending order of their UTF-8 bytes. -/
def ofList (xs : List String) : List String := xs.foldr insert []

theorem mem_insert {x y : String} {ys : List String} : y ∈ insert x ys ↔ y = x ∨ y ∈ ys := by
  induction ys with
  | nil => simp [insert]
  | cons z zs ih =>
      simp only [insert]
      split
      · simp
      · rename_i hxz
        split
        · rw [List.mem_cons, ih, List.mem_cons, or_left_comm]
        · rename_i hzx
          have hx : x = z := String.le_antisymm (String.not_lt.1 hzx) (String.not_lt.1 hxz)
          simp [hx]

/-- Sorting keeps exactly the texts of the list. -/
@[simp] theorem mem_ofList {x : String} {xs : List String} : x ∈ ofList xs ↔ x ∈ xs := by
  induction xs with
  | nil => simp [ofList]
  | cons y ys ih =>
      have h : x ∈ insert y (ofList ys) ↔ x = y ∨ x ∈ ofList ys := mem_insert
      rw [List.mem_cons, ← ih]
      exact h

/-- Putting a text in keeps an ascending list ascending. -/
theorem pairwise_insert {x : String} {ys : List String} (h : ys.Pairwise (· < ·)) :
    (insert x ys).Pairwise (· < ·) := by
  induction ys with
  | nil => simp [insert]
  | cons y ys ih =>
      obtain ⟨hy, hys⟩ := List.pairwise_cons.1 h
      simp only [insert]
      split
      · rename_i hxy
        refine List.pairwise_cons.2 ⟨fun z hz => ?_, h⟩
        rcases List.mem_cons.1 hz with rfl | hz
        · exact hxy
        · exact String.lt_trans hxy (hy z hz)
      · split
        · rename_i hyx
          refine List.pairwise_cons.2 ⟨fun z hz => ?_, ih hys⟩
          rcases mem_insert.1 hz with rfl | hz
          · exact hyx
          · exact hy z hz
        · exact h

/-- Sorted texts ascend strictly, so that each is there once. -/
theorem pairwise_ofList (xs : List String) : (ofList xs).Pairwise (· < ·) := by
  induction xs with
  | nil => exact List.Pairwise.nil
  | cons x xs ih => exact pairwise_insert ih

/-- Nothing is left of a list only if nothing was in it. -/
theorem ofList_eq_nil {xs : List String} : ofList xs = [] ↔ xs = [] := by
  simp only [List.eq_nil_iff_forall_not_mem, mem_ofList]

end Sorted

end Meterboard
