import Meterboard.Proofs.Cbor.Head
import Meterboard.Proofs.Text.Utf8

/-!
# The grammar of CBOR items

What the reader accepts is said a second time, as a grammar without fuel and without a rest of the
input.  The two agree, and so no spelling is the beginning of another one: a message that was cut
off is not taken for a shorter one.

* `Item.Spelled`, `Items.Spelled`, `Entries.Spelled` — the grammar.
* `Closes` — a list or a map is of stated length, or it ends with a break.
* `item?_eq_some_iff` — the reader is the grammar.
* `item?_eq_none_of_append` — a spelling that is cut off is no item.

Both directions go by induction on the fuel, for items, lists and maps at once (`ReadsSpelled`,
`ReadsOnlySpelled`): an item of a list is read with one less than the list.
-/

namespace Meterboard.Cbor

/-! ## The grammar -/

/-- The chunks of a string of unstated length, with the break.  A text is UTF-8 in each chunk. -/
inductive Chunks (major : Nat) : List UInt8 → Prop
  | stop : Chunks major [0xff]
  | chunk {info : Nat} {hd front rest : List UInt8}
      (hhead : Head.Spelled ⟨major, info, some front.length⟩ hd)
      (htext : major = 3 → ∃ s, front = utf8 s) (hrest : Chunks major rest) :
      Chunks major (hd ++ front ++ rest)

/-- How so many items are closed: nothing when their number stands in the head, else a break. -/
inductive Closes : Option Nat → Nat → List UInt8 → Prop
  | stated (n : Nat) : Closes (some n) n []
  | unstated (n : Nat) : Closes none n [0xff]

mutual

/-- The spellings of an item. -/
inductive Item.Spelled : Item → List UInt8 → Prop
  | unsigned {info n : Nat} {hd : List UInt8} (hhead : Head.Spelled ⟨0, info, some n⟩ hd) :
      Item.Spelled (.unsigned n) hd
  | negative {info n : Nat} {hd : List UInt8} (hhead : Head.Spelled ⟨1, info, some n⟩ hd) :
      Item.Spelled (.negative n) hd
  | bytes {info : Nat} {hd front : List UInt8}
      (hhead : Head.Spelled ⟨2, info, some front.length⟩ hd) :
      Item.Spelled (.bytes front) (hd ++ front)
  | text {info : Nat} {hd : List UInt8} {s : String}
      (hhead : Head.Spelled ⟨3, info, some (utf8 s).length⟩ hd) :
      Item.Spelled (.text s) (hd ++ utf8 s)
  | chunked {major info : Nat} {hd body : List UInt8} (hmajor : major = 2 ∨ major = 3)
      (hhead : Head.Spelled ⟨major, info, none⟩ hd) (hbody : Chunks major body) :
      Item.Spelled .chunked (hd ++ body)
  | list {info : Nat} {count? : Option Nat} {items : List Item} {hd body stop : List UInt8}
      (hhead : Head.Spelled ⟨4, info, count?⟩ hd) (hbody : Items.Spelled items body)
      (hstop : Closes count? items.length stop) :
      Item.Spelled (.list items) (hd ++ body ++ stop)
  | map {info : Nat} {count? : Option Nat} {entries : List (Item × Item)}
      {hd body stop : List UInt8}
      (hhead : Head.Spelled ⟨5, info, count?⟩ hd) (hbody : Entries.Spelled entries body)
      (hstop : Closes count? entries.length stop) :
      Item.Spelled (.map entries) (hd ++ body ++ stop)
  | tagged {info tag : Nat} {item : Item} {hd body : List UInt8}
      (hhead : Head.Spelled ⟨6, info, some tag⟩ hd) (hbody : Item.Spelled item body) :
      Item.Spelled (.tagged tag item) (hd ++ body)
  | simple {info : Nat} {n? : Option Nat} {item : Item} {hd : List UInt8}
      (hhead : Head.Spelled ⟨7, info, n?⟩ hd) (hitem : simple? ⟨7, info, n?⟩ = some item) :
      Item.Spelled item hd

/-- The spellings of items, one behind the other. -/
inductive Items.Spelled : List Item → List UInt8 → Prop
  | nil : Items.Spelled [] []
  | cons {item : Item} {items : List Item} {front body : List UInt8}
      (hitem : Item.Spelled item front) (hitems : Items.Spelled items body) :
      Items.Spelled (item :: items) (front ++ body)

/-- The spellings of entries, each a key and a value. -/
inductive Entries.Spelled : List (Item × Item) → List UInt8 → Prop
  | nil : Entries.Spelled [] []
  | cons {key value : Item} {entries : List (Item × Item)} {front middle body : List UInt8}
      (hkey : Item.Spelled key front) (hvalue : Item.Spelled value middle)
      (hentries : Entries.Spelled entries body) :
      Entries.Spelled ((key, value) :: entries) (front ++ middle ++ body)

end

/-! ## Where a spelling begins -/

lemma Item.Spelled.length_pos {item : Item} {bs : List UInt8} (hs : item.Spelled bs) :
    0 < bs.length := by
  cases hs with
  | unsigned hhead | negative hhead | simple hhead _ => exact hhead.length_pos
  | bytes hhead | text hhead | chunked _ hhead _ | tagged hhead _ =>
      exact List.length_append ▸ Nat.add_pos_left hhead.length_pos _
  | list hhead _ _ | map hhead _ _ =>
      have hpos := hhead.length_pos
      simp only [List.length_append]
      omega

lemma head?_break (rest : List UInt8) : head? (0xff :: rest) = some (⟨7, 31, none⟩, rest) := by
  simp [head?]

/-- No item begins with a break. -/
lemma readItem_break (fuel : Nat) (rest : List UInt8) : readItem fuel (0xff :: rest) = none := by
  cases fuel with
  | zero => rfl
  | succ fuel => simp [readItem, head?_break, simple?]

lemma ne_break_of_readItem {fuel : Nat} {bs rest : List UInt8} {item : Item}
    (h : readItem fuel bs = some (item, rest)) (tail : List UInt8) : bs ≠ 0xff :: tail := by
  rintro rfl
  rw [readItem_break] at h
  cases h

/-! ## One step of a list or a map -/

lemma readItems_close {count? : Option Nat} {stop : List UInt8} (hstop : Closes count? 0 stop)
    (fuel : Nat) (rest : List UInt8) :
    readItems (fuel + 1) count? (stop ++ rest) = some ([], rest) := by
  cases hstop with
  | stated => rfl
  | unstated => rfl

lemma readEntries_close {count? : Option Nat} {stop : List UInt8} (hstop : Closes count? 0 stop)
    (fuel : Nat) (rest : List UInt8) :
    readEntries (fuel + 1) count? (stop ++ rest) = some ([], rest) := by
  cases hstop with
  | stated => rfl
  | unstated => rfl

/-- Another item is due: the count is not used up, or no break has come. -/
structure Continues (count? : Option Nat) (bs : List UInt8) : Prop where
  counted : count? ≠ some 0
  unbroken : count? = none → ∀ tail, bs ≠ 0xff :: tail

lemma closes_or_continues (count? : Option Nat) (bs : List UInt8) :
    (∃ stop rest, bs = stop ++ rest ∧ Closes count? 0 stop) ∨ Continues count? bs := by
  by_cases hcount : count? = some 0
  · exact .inl ⟨[], bs, rfl, hcount ▸ .stated 0⟩
  by_cases hbreak : count? = none ∧ ∃ tail, bs = 0xff :: tail
  · obtain ⟨rfl, tail, rfl⟩ := hbreak
    exact .inl ⟨[0xff], tail, rfl, .unstated 0⟩
  · exact .inr ⟨hcount, fun hnone tail hbs => hbreak ⟨hnone, tail, hbs⟩⟩

section

variable {count? : Option Nat} {bs : List UInt8} (h : Continues count? bs) (fuel : Nat)
include h

lemma readItems_succ :
    readItems (fuel + 1) count? bs = (do
      let (item, rest) ← readItem fuel bs
      let (items, rest) ← readItems fuel (count?.map (· - 1)) rest
      return (item :: items, rest)) := by
  rw [readItems.eq_def]
  split
  · exact absurd rfl h.counted
  · rename_i hzero _
    cases hzero
  · rename_i hsucc _
    cases hsucc
    split
    · exact absurd rfl (h.unbroken rfl _)
    · rfl

lemma readEntries_succ :
    readEntries (fuel + 1) count? bs = (do
      let (key, rest) ← readItem fuel bs
      let (value, rest) ← readItem fuel rest
      let (entries, rest) ← readEntries fuel (count?.map (· - 1)) rest
      return ((key, value) :: entries, rest)) := by
  rw [readEntries.eq_def]
  split
  · exact absurd rfl h.counted
  · rename_i hzero _
    cases hzero
  · rename_i hsucc _
    cases hsucc
    split
    · exact absurd rfl (h.unbroken rfl _)
    · rfl

end

/-- An item goes on where it is read and more are to come. -/
lemma Closes.continues {count? : Option Nat} {n : Nat} {stop bs rest : List UInt8} {fuel : Nat}
    {item : Item} (h : Closes count? (n + 1) stop) (hread : readItem fuel bs = some (item, rest)) :
    Continues count? bs where
  counted := by cases h <;> simp
  unbroken _ := ne_break_of_readItem hread

lemma Closes.pred {count? : Option Nat} {n : Nat} {stop : List UInt8}
    (h : Closes count? (n + 1) stop) : Closes (count?.map (· - 1)) n stop := by
  cases h with
  | stated => exact .stated n
  | unstated => exact .unstated n

lemma Closes.succ {count? : Option Nat} {n : Nat} {stop : List UInt8}
    (h : Closes (count?.map (· - 1)) n stop) (hcount : count? ≠ some 0) :
    Closes count? (n + 1) stop := by
  cases count? with
  | none =>
      cases h
      exact .unstated (n + 1)
  | some m =>
      cases m with
      | zero => exact absurd rfl hcount
      | succ m =>
          cases h
          exact .stated (m + 1)

/-! ## Every spelling is read -/

lemma chunks?_append {major : Nat} {body : List UInt8} (h : Chunks major body) {fuel : Nat}
    (hfuel : body.length ≤ fuel) (rest : List UInt8) :
    chunks? major fuel (body ++ rest) = some rest := by
  induction h generalizing fuel with
  | stop =>
      cases fuel with
      | zero => cases hfuel
      | succ fuel => rfl
  | @chunk info hd front body hhead htext _ ih =>
      have hpos := hhead.length_pos
      simp only [List.length_append] at hfuel
      obtain ⟨fuel, rfl⟩ : ∃ f, fuel = f + 1 := ⟨fuel - 1, by omega⟩
      have hread := head?_append hhead (front ++ (body ++ rest))
      have hvalid : major = 3 → ¬ text? front = none := by
        intro hthree
        obtain ⟨s, rfl⟩ := htext hthree
        simp [text?_utf8]
      rw [List.append_assoc, List.append_assoc, chunks?]
      · simpa [hread, ih (show body.length ≤ fuel by omega)] using hvalid
      · intro tail hbreak
        rw [hbreak, head?_break] at hread
        cases hread

/-- What the reader does with the fuel it has: an item takes two for each of its bytes. -/
structure ReadsSpelled (fuel : Nat) : Prop where
  item : ∀ {item bs}, Item.Spelled item bs → 2 * bs.length ≤ fuel →
    ∀ rest, readItem fuel (bs ++ rest) = some (item, rest)
  items : ∀ {items bs count? stop}, Items.Spelled items bs → Closes count? items.length stop →
    2 * bs.length + 1 ≤ fuel →
    ∀ rest, readItems fuel count? (bs ++ stop ++ rest) = some (items, rest)
  entries : ∀ {entries bs count? stop}, Entries.Spelled entries bs →
    Closes count? entries.length stop → 2 * bs.length + 1 ≤ fuel →
    ∀ rest, readEntries fuel count? (bs ++ stop ++ rest) = some (entries, rest)

lemma readsSpelled_zero : ReadsSpelled 0 where
  item hs hfuel := by
    have hpos := hs.length_pos
    omega
  items _ _ hfuel := by omega
  entries _ _ hfuel := by omega

section

variable {fuel : Nat} (ih : ReadsSpelled fuel)
include ih

lemma readItem_of_spelled {item : Item} {bs : List UInt8} (hs : Item.Spelled item bs)
    (hfuel : 2 * bs.length ≤ fuel + 1) (rest : List UInt8) :
    readItem (fuel + 1) (bs ++ rest) = some (item, rest) := by
  cases hs with
  | unsigned hhead => simp [readItem, head?_append hhead]
  | negative hhead => simp [readItem, head?_append hhead]
  | bytes hhead => simp [readItem, head?_append hhead]
  | text hhead => simp [readItem, head?_append hhead, text?_utf8]
  | @chunked major info hd body hmajor hhead hbody =>
      have hpos := hhead.length_pos
      have hfuel' : body.length ≤ fuel := by
        rw [List.length_append] at hfuel
        omega
      rcases hmajor with rfl | rfl
      · simp [readItem, head?_append hhead, chunks?_append hbody hfuel']
      · simp [readItem, head?_append hhead, chunks?_append hbody hfuel']
  | @list info count? items hd body stop hhead hbody hstop =>
      have hpos := hhead.length_pos
      have hread := ih.items hbody hstop (by simp only [List.length_append] at hfuel; omega) rest
      simp only [List.append_assoc] at hread
      simp [readItem, head?_append hhead, hread]
  | @map info count? items hd body stop hhead hbody hstop =>
      have hpos := hhead.length_pos
      have hread := ih.entries hbody hstop (by simp only [List.length_append] at hfuel; omega) rest
      simp only [List.append_assoc] at hread
      simp [readItem, head?_append hhead, hread]
  | @tagged info tag item hd body hhead hbody =>
      have hpos := hhead.length_pos
      have hread := ih.item hbody (by rw [List.length_append] at hfuel; omega) rest
      simp [readItem, head?_append hhead, hread]
  | simple hhead hitem => simp [readItem, head?_append hhead, hitem]

lemma readItems_of_spelled {items : List Item} {bs stop : List UInt8} {count? : Option Nat}
    (hs : Items.Spelled items bs) (hstop : Closes count? items.length stop)
    (hfuel : 2 * bs.length + 1 ≤ fuel + 1) (rest : List UInt8) :
    readItems (fuel + 1) count? (bs ++ stop ++ rest) = some (items, rest) := by
  cases hs with
  | nil => exact readItems_close hstop fuel rest
  | @cons item items front body hitem hitems =>
      have hpos := hitem.length_pos
      rw [List.length_append] at hfuel
      have hfirst := ih.item hitem (by omega) (body ++ stop ++ rest)
      have hothers := ih.items hitems hstop.pred (by omega) rest
      have hinput : front ++ body ++ stop ++ rest = front ++ (body ++ stop ++ rest) := by
        simp only [List.append_assoc]
      rw [hinput, readItems_succ (hstop.continues hfirst), hfirst]
      simp only [Option.bind_eq_bind, Option.bind_some, hothers, Option.pure_def]

lemma readEntries_of_spelled {entries : List (Item × Item)} {bs stop : List UInt8}
    {count? : Option Nat} (hs : Entries.Spelled entries bs)
    (hstop : Closes count? entries.length stop) (hfuel : 2 * bs.length + 1 ≤ fuel + 1)
    (rest : List UInt8) :
    readEntries (fuel + 1) count? (bs ++ stop ++ rest) = some (entries, rest) := by
  cases hs with
  | nil => exact readEntries_close hstop fuel rest
  | @cons key value entries front middle body hkey hvalue hentries =>
      have hkeyPos := hkey.length_pos
      have hvaluePos := hvalue.length_pos
      simp only [List.length_append] at hfuel
      have hfirst := ih.item hkey (by omega) (middle ++ (body ++ stop ++ rest))
      have hsecond := ih.item hvalue (by omega) (body ++ stop ++ rest)
      have hothers := ih.entries hentries hstop.pred (by omega) rest
      have hinput : front ++ middle ++ body ++ stop ++ rest =
          front ++ (middle ++ (body ++ stop ++ rest)) := by simp only [List.append_assoc]
      rw [hinput, readEntries_succ (hstop.continues hfirst), hfirst]
      simp only [Option.bind_eq_bind, Option.bind_some, hsecond, hothers, Option.pure_def]

end

lemma readsSpelled (fuel : Nat) : ReadsSpelled fuel := by
  induction fuel with
  | zero => exact readsSpelled_zero
  | succ fuel ih =>
      exact ⟨readItem_of_spelled ih, readItems_of_spelled ih, readEntries_of_spelled ih⟩

/-- **A spelled item is read**, whatever comes behind it. -/
theorem readItem_append {item : Item} {bs : List UInt8} (hs : item.Spelled bs) {fuel : Nat}
    (hfuel : 2 * bs.length ≤ fuel) (rest : List UInt8) :
    readItem fuel (bs ++ rest) = some (item, rest) :=
  (readsSpelled fuel).item hs hfuel rest

/-! ## Only spellings are read -/

lemma exists_chunks_of_chunks? {major fuel : Nat} {bs rest : List UInt8}
    (h : chunks? major fuel bs = some rest) : ∃ body, bs = body ++ rest ∧ Chunks major body := by
  induction fuel generalizing bs with
  | zero => cases h
  | succ fuel ih =>
      rw [chunks?.eq_def] at h
      dsimp only at h
      split at h
      · cases h
        exact ⟨[0xff], rfl, .stop⟩
      · simp only [Option.bind_eq_bind, Option.bind_eq_some_iff] at h
        obtain ⟨⟨⟨m, info, n?⟩, afterHead⟩, hhead, n, rfl, h⟩ := h
        dsimp only at h
        split at h
        · cases h
        · rename_i hmajor
          simp only [ne_eq, Decidable.not_not] at hmajor
          subst hmajor
          simp only [Option.bind_eq_some_iff] at h
          obtain ⟨⟨front, afterFront⟩, htake, h⟩ := h
          split at h
          · cases h
          · rename_i hvalid
            obtain ⟨hd, rfl, hs⟩ := exists_spelled_of_head? hhead
            obtain ⟨rfl, rfl⟩ := of_take? htake
            obtain ⟨body, rfl, hbody⟩ := ih h
            refine ⟨hd ++ front ++ body, by simp only [List.append_assoc], .chunk hs ?_ hbody⟩
            intro hthree
            cases htext : text? front with
            | none => exact absurd ⟨hthree, by simp [htext]⟩ hvalid
            | some s => exact ⟨s, eq_utf8_of_text? htext⟩

/-- What the reader takes off the front of its input is a spelling. -/
structure ReadsOnlySpelled (fuel : Nat) : Prop where
  item : ∀ {bs item rest}, readItem fuel bs = some (item, rest) →
    ∃ front, bs = front ++ rest ∧ Item.Spelled item front
  items : ∀ {count? bs items rest}, readItems fuel count? bs = some (items, rest) →
    ∃ front stop, bs = front ++ stop ++ rest ∧ Items.Spelled items front ∧
      Closes count? items.length stop
  entries : ∀ {count? bs entries rest}, readEntries fuel count? bs = some (entries, rest) →
    ∃ front stop, bs = front ++ stop ++ rest ∧ Entries.Spelled entries front ∧
      Closes count? entries.length stop

lemma readsOnlySpelled_zero : ReadsOnlySpelled 0 where
  item h := by cases h
  items {count? bs items rest} h := by
    rcases count? with _ | _ | n
    · cases h
    · cases h
      exact ⟨[], [], rfl, .nil, .stated 0⟩
    · cases h
  entries {count? bs entries rest} h := by
    rcases count? with _ | _ | n
    · cases h
    · cases h
      exact ⟨[], [], rfl, .nil, .stated 0⟩
    · cases h

section

variable {fuel : Nat} (ih : ReadsOnlySpelled fuel)
include ih

lemma spelled_of_readItem {bs rest : List UInt8} {item : Item}
    (h : readItem (fuel + 1) bs = some (item, rest)) :
    ∃ front, bs = front ++ rest ∧ Item.Spelled item front := by
  simp only [readItem, Option.bind_eq_bind, Option.bind_eq_some_iff] at h
  obtain ⟨⟨⟨major, info, n?⟩, afterHead⟩, hhead, h⟩ := h
  obtain ⟨hd, rfl, hs⟩ := exists_spelled_of_head? hhead
  dsimp only at h
  -- the cases are those of the reader: one for each major type
  split at h
  · obtain ⟨n, rfl, hitem⟩ := Option.bind_eq_some_iff.1 h
    cases hitem
    exact ⟨hd, rfl, .unsigned hs⟩
  · obtain ⟨n, rfl, hitem⟩ := Option.bind_eq_some_iff.1 h
    cases hitem
    exact ⟨hd, rfl, .negative hs⟩
  · cases n? with
    | none =>
        obtain ⟨afterBody, hchunks, h⟩ := Option.bind_eq_some_iff.1 h
        cases h
        obtain ⟨body, rfl, hbody⟩ := exists_chunks_of_chunks? hchunks
        exact ⟨hd ++ body, (List.append_assoc _ _ _).symm, .chunked (.inl rfl) hs hbody⟩
    | some n =>
        obtain ⟨⟨front, afterFront⟩, htake, h⟩ := Option.bind_eq_some_iff.1 h
        cases h
        obtain ⟨rfl, rfl⟩ := of_take? htake
        exact ⟨hd ++ front, (List.append_assoc _ _ _).symm, .bytes hs⟩
  · cases n? with
    | none =>
        obtain ⟨afterBody, hchunks, h⟩ := Option.bind_eq_some_iff.1 h
        cases h
        obtain ⟨body, rfl, hbody⟩ := exists_chunks_of_chunks? hchunks
        exact ⟨hd ++ body, (List.append_assoc _ _ _).symm, .chunked (.inr rfl) hs hbody⟩
    | some n =>
        obtain ⟨⟨front, afterFront⟩, htake, h⟩ := Option.bind_eq_some_iff.1 h
        obtain ⟨s, htext, h⟩ := Option.bind_eq_some_iff.1 h
        cases h
        obtain ⟨rfl, rfl⟩ := of_take? htake
        obtain rfl := eq_utf8_of_text? htext
        exact ⟨hd ++ utf8 s, (List.append_assoc _ _ _).symm, .text hs⟩
  · obtain ⟨⟨items, afterItems⟩, hitems, h⟩ := Option.bind_eq_some_iff.1 h
    cases h
    obtain ⟨body, stop, rfl, hbody, hstop⟩ := ih.items hitems
    exact ⟨hd ++ body ++ stop, by simp only [List.append_assoc], .list hs hbody hstop⟩
  · obtain ⟨⟨entries, afterEntries⟩, hentries, h⟩ := Option.bind_eq_some_iff.1 h
    cases h
    obtain ⟨body, stop, rfl, hbody, hstop⟩ := ih.entries hentries
    exact ⟨hd ++ body ++ stop, by simp only [List.append_assoc], .map hs hbody hstop⟩
  · obtain ⟨tag, rfl, hitem⟩ := Option.bind_eq_some_iff.1 h
    obtain ⟨⟨inner, afterInner⟩, hinner, hitem⟩ := Option.bind_eq_some_iff.1 hitem
    cases hitem
    obtain ⟨body, rfl, hbody⟩ := ih.item hinner
    exact ⟨hd ++ body, (List.append_assoc _ _ _).symm, .tagged hs hbody⟩
  · rename_i h0 h1 h2 h3 h4 h5 h6
    obtain rfl : major = 7 := by
      have hlt : major < 8 := hs.major_lt
      simp only [imp_false] at h0 h1 h2 h3 h4 h5 h6
      omega
    obtain ⟨simple, hsimple, h⟩ := Option.bind_eq_some_iff.1 h
    cases h
    exact ⟨hd, rfl, .simple hs hsimple⟩

lemma spelled_of_readItems {count? : Option Nat} {bs rest : List UInt8} {items : List Item}
    (h : readItems (fuel + 1) count? bs = some (items, rest)) :
    ∃ front stop, bs = front ++ stop ++ rest ∧ Items.Spelled items front ∧
      Closes count? items.length stop := by
  rcases closes_or_continues count? bs with ⟨stop, after, rfl, hstop⟩ | hmore
  · rw [readItems_close hstop] at h
    cases h
    exact ⟨[], stop, rfl, .nil, hstop⟩
  · rw [readItems_succ hmore] at h
    obtain ⟨⟨item, afterItem⟩, hitem, h⟩ := Option.bind_eq_some_iff.1 h
    obtain ⟨⟨others, afterOthers⟩, hothers, h⟩ := Option.bind_eq_some_iff.1 h
    cases h
    obtain ⟨front, rfl, hfront⟩ := ih.item hitem
    obtain ⟨body, stop, rfl, hbody, hstop⟩ := ih.items hothers
    exact ⟨front ++ body, stop, by simp only [List.append_assoc], .cons hfront hbody,
      hstop.succ hmore.counted⟩

lemma spelled_of_readEntries {count? : Option Nat} {bs rest : List UInt8}
    {entries : List (Item × Item)} (h : readEntries (fuel + 1) count? bs = some (entries, rest)) :
    ∃ front stop, bs = front ++ stop ++ rest ∧ Entries.Spelled entries front ∧
      Closes count? entries.length stop := by
  rcases closes_or_continues count? bs with ⟨stop, after, rfl, hstop⟩ | hmore
  · rw [readEntries_close hstop] at h
    cases h
    exact ⟨[], stop, rfl, .nil, hstop⟩
  · rw [readEntries_succ hmore] at h
    obtain ⟨⟨key, afterKey⟩, hkey, h⟩ := Option.bind_eq_some_iff.1 h
    obtain ⟨⟨value, afterValue⟩, hvalue, h⟩ := Option.bind_eq_some_iff.1 h
    obtain ⟨⟨others, afterOthers⟩, hothers, h⟩ := Option.bind_eq_some_iff.1 h
    cases h
    obtain ⟨front, rfl, hfront⟩ := ih.item hkey
    obtain ⟨middle, rfl, hmiddle⟩ := ih.item hvalue
    obtain ⟨body, stop, rfl, hbody, hstop⟩ := ih.entries hothers
    exact ⟨front ++ middle ++ body, stop, by simp only [List.append_assoc],
      .cons hfront hmiddle hbody, hstop.succ hmore.counted⟩

end

lemma readsOnlySpelled (fuel : Nat) : ReadsOnlySpelled fuel := by
  induction fuel with
  | zero => exact readsOnlySpelled_zero
  | succ fuel ih =>
      exact ⟨spelled_of_readItem ih, spelled_of_readItems ih, spelled_of_readEntries ih⟩

/-- **Only a spelling of an item is read as it.** -/
theorem exists_spelled_of_readItem {fuel : Nat} {bs rest : List UInt8} {item : Item}
    (h : readItem fuel bs = some (item, rest)) :
    ∃ front, bs = front ++ rest ∧ item.Spelled front :=
  (readsOnlySpelled fuel).item h

/-! ## The reader and the grammar -/

/-- **The reader is the grammar**: it takes an item off its input when a spelling of that item
stands in front, and leaves what is behind. -/
theorem item?_eq_some_iff {bs rest : List UInt8} {item : Item} :
    item? bs = some (item, rest) ↔ ∃ front, bs = front ++ rest ∧ item.Spelled front := by
  refine ⟨exists_spelled_of_readItem, ?_⟩
  rintro ⟨front, rfl, hs⟩
  exact readItem_append hs (by rw [List.length_append]; omega) rest

/-- What is read to its end is a spelling. -/
lemma spelled_of_item? {item : Item} {bs : List UInt8} (h : item? bs = some (item, [])) :
    item.Spelled bs := by
  obtain ⟨front, hbs, hs⟩ := item?_eq_some_iff.1 h
  rwa [hbs, List.append_nil]

/-- No spelling is the beginning of another, and none spells two items. -/
theorem Item.Spelled.append_inj {item item' : Item} {front back : List UInt8}
    (hs : item.Spelled front) (hs' : item'.Spelled (front ++ back)) : item' = item ∧ back = [] := by
  have hshort : item? (front ++ back) = some (item, back) := item?_eq_some_iff.2 ⟨front, rfl, hs⟩
  have hlong : item? (front ++ back) = some (item', []) :=
    item?_eq_some_iff.2 ⟨front ++ back, (List.append_nil _).symm, hs'⟩
  rw [hshort] at hlong
  cases hlong
  exact ⟨rfl, rfl⟩

/-- **A spelling that is cut off is no item.** -/
theorem item?_eq_none_of_append {item : Item} {front back : List UInt8}
    (hs : item.Spelled (front ++ back)) (hback : back ≠ []) : item? front = none := by
  cases hread : item? front with
  | none => rfl
  | some r =>
      obtain ⟨used, rfl, hused⟩ := item?_eq_some_iff.1 hread
      rw [List.append_assoc] at hs
      have hnil := (hused.append_inj hs).2
      exact absurd (List.append_eq_nil_iff.1 hnil).2 hback

end Meterboard.Cbor
