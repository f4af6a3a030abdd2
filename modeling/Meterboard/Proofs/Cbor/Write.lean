import Meterboard.Proofs.Cbor.Grammar
import Meterboard.Proofs.Wire.Kind

/-!
# Written values are spelled items

The writer produces one spelling of the item that stands for a value, so reading what was written
gives that item back and nothing is left over.  A head has room for a number below two to the
sixty-fourth; a value has to keep to that in its numbers and in its lengths.

* `Item.ofValue`, `spelled_write` — the item of a value, and its spelling.
* `item?_write` — a written value is read back as its item.
-/

namespace Meterboard.Cbor

open Wire (Value)

/-! ## The item of a value -/

mutual

/-- The item that a value is written as. -/
def Item.ofValue : Value → Item
  | .null => .null
  | .flag b => .flag b
  | .natural n => .unsigned n
  | .double x => .double x
  | .text s => .text s
  | .list items => .list (Items.ofValues items)
  | .record entries => .map (Entries.ofFields entries)

/-- The items that values are written as. -/
def Items.ofValues : List Value → List Item
  | [] => []
  | v :: rest => .ofValue v :: Items.ofValues rest

/-- The entries that fields are written as. -/
def Entries.ofFields : List (String × Value) → List (Item × Item)
  | [] => []
  | (k, v) :: rest => (.text k, .ofValue v) :: Entries.ofFields rest

end

lemma Items.ofValues_eq_map (items : List Value) : Items.ofValues items = items.map .ofValue := by
  induction items with
  | nil => rfl
  | cons v rest ih => rw [Items.ofValues, ih, List.map_cons]

lemma Entries.ofFields_eq_map (entries : List (String × Value)) :
    Entries.ofFields entries = entries.map fun e => (.text e.1, .ofValue e.2) := by
  induction entries with
  | nil => rfl
  | cons e rest ih => rw [Entries.ofFields, ih, List.map_cons]

/-! ## The writer keeps to the grammar -/

lemma spelled_writeText {s : String} (h : (utf8 s).length < 2 ^ 64) :
    Item.Spelled (.text s) (writeText s) := by
  obtain ⟨info, hhead⟩ := spelled_head (show 3 < 8 by decide) h
  exact .text hhead

lemma spelled_double (x : Double) :
    Item.Spelled (.double x) (0xfb :: bigEndian 8 x.bits.toNat) := by
  have hhead : Head.Spelled ⟨7, 27, some x.bits.toNat⟩ (0xfb :: bigEndian 8 x.bits.toNat) := by
    have hs := Head.Spelled.long (show 7 < 8 by decide) (show 3 < 4 by decide)
      (length_bigEndian (2 ^ 3) x.bits.toNat)
    rwa [ofBigEndian_bigEndian x.bits.toNat_lt] at hs
  refine .simple hhead ?_
  simp [simple?, Nat.toUInt64]

mutual

/-- **What is written for a value spells its item.** -/
theorem spelled_write : ∀ {v : Value}, v.Sized → v.Every Value.NumberFits →
    Item.Spelled (.ofValue v) (write v)
  | .null, _, _ => .simple (.short (by decide) (show 22 < 24 by decide)) rfl
  | .flag false, _, _ => .simple (.short (by decide) (show 20 < 24 by decide)) rfl
  | .flag true, _, _ => .simple (.short (by decide) (show 21 < 24 by decide)) rfl
  | .natural n, _, hn => by
      obtain ⟨info, hhead⟩ := spelled_head (show 0 < 8 by decide) hn
      exact .unsigned hhead
  | .double x, _, _ => spelled_double x
  | .text s, hs, _ => spelled_writeText hs
  | .list items, ⟨hlength, hs⟩, ⟨_, hn⟩ => by
      obtain ⟨info, hhead⟩ := spelled_head (show 4 < 8 by decide) hlength
      have hbody := spelled_writeItems hs hn
      have hstop : Closes (some items.length) (Items.ofValues items).length [] := by
        rw [Items.ofValues_eq_map, List.length_map]
        exact .stated _
      simpa [write, Item.ofValue] using Item.Spelled.list hhead hbody hstop
  | .record entries, ⟨⟨hlength, hkeys⟩, hs⟩, ⟨_, hn⟩ => by
      obtain ⟨info, hhead⟩ := spelled_head (show 5 < 8 by decide) hlength
      have hbody := spelled_writeEntries hkeys hs hn
      have hstop : Closes (some entries.length) (Entries.ofFields entries).length [] := by
        rw [Entries.ofFields_eq_map, List.length_map]
        exact .stated _
      simpa [write, Item.ofValue] using Item.Spelled.map hhead hbody hstop

lemma spelled_writeItems : ∀ {items : List Value}, Value.EveryItem Value.LengthsFit items →
    Value.EveryItem Value.NumberFits items → Items.Spelled (Items.ofValues items) (writeItems items)
  | [], _, _ => .nil
  | _ :: _, ⟨hs, hrest⟩, ⟨hn, hnrest⟩ =>
      .cons (spelled_write hs hn) (spelled_writeItems hrest hnrest)

lemma spelled_writeEntries : ∀ {entries : List (String × Value)},
    (∀ e ∈ entries, (utf8 e.1).length < 2 ^ 64) → Value.EveryEntry Value.LengthsFit entries →
    Value.EveryEntry Value.NumberFits entries →
    Entries.Spelled (Entries.ofFields entries) (writeEntries entries)
  | [], _, _, _ => .nil
  | _ :: _, hkeys, ⟨hs, hrest⟩, ⟨hn, hnrest⟩ =>
      .cons (spelled_writeText (hkeys _ List.mem_cons_self)) (spelled_write hs hn)
        (spelled_writeEntries (fun e he => hkeys e (List.mem_cons_of_mem _ he)) hrest hnrest)

end

/-- A written value is read back as its item, and what is behind it is left. -/
theorem item?_write {v : Value} (hs : v.Sized) (hn : v.Every Value.NumberFits)
    (rest : List UInt8) : item? (write v ++ rest) = some (.ofValue v, rest) :=
  item?_eq_some_iff.2 ⟨write v, rfl, spelled_write hs hn⟩

end Meterboard.Cbor
