import Mathlib.Data.Int.ModEq
import Mathlib.Data.List.Nodup
import Mathlib.Data.List.Perm.Subperm
import Mathlib.Tactic.Ring
import Meterboard.Proofs.Run
import Meterboard.Selection

/-!
# Stepping through the options

The options are places on a circle.  A selection that can be reached stands at one of them, and a
step moves on by so many places, so steps add up like numbers and a full turn leads back.

**Reached selections.**  `Selection.selections` is all that can happen to a selection.  No option is
ever there twice, and one is chosen as soon as there are any (`steppable_of_run`).  Both are needed:
an option that stood twice would be stepped from at its first place only.

**The circle.**  `around` is the selection at a place, which may be any integer; `around_eq_iff`
says which places are the same.  `step_around` is a step on the circle, `walk_around` a walk of many
steps; `getLast?_walk` and `perm_walk` are about whole turns.

* `steps_go_round` — steps add up, are taken back by their opposites, and go through all options
  once before they are back.
-/

namespace Meterboard

namespace Selection

/-! ## Reached selections -/

/-- What is done to a selection. -/
inductive Op where
  | replace (offered : List String)
  | clear
  | choose (value : String)

/-- Do something to a selection.  A value that is not offered is not chosen. -/
def perform (s : Selection) : Op → Selection
  | .replace offered => s.replace offered
  | .clear => s.clear
  | .choose value => (s.choose? value).getD s

/-- All that can happen to a selection, which may start with a preferred value. -/
def selections (preferred? : Option String) : System Selection Op :=
  ⟨preferring preferred?, fun _ _ => True, perform⟩

/-- No option stands twice, and one of them is chosen as soon as there are any. -/
structure Steppable (s : Selection) : Prop where
  nodup : s.options.Nodup
  chosen : s.options ≠ [] → ∃ value ∈ s.options, s.current? = some value

lemma steppable_preferring (value? : Option String) : (preferring value?).Steppable where
  nodup := List.nodup_nil
  chosen h := absurd rfl h

lemma steppable_clear (s : Selection) : s.clear.Steppable where
  nodup := List.nodup_nil
  chosen h := absurd rfl h

lemma steppable_replace (s : Selection) (offered : List String) :
    (s.replace offered).Steppable where
  nodup := by
    rw [replace_options]
    exact (Sorted.pairwise_ofList offered).imp fun h => String.ne_of_lt h
  chosen := by
    intro h
    have hsome : (s.replace offered).current? ≠ none :=
      fun hnone => h (settled_replace s offered hnone)
    obtain ⟨value, hvalue⟩ := Option.ne_none_iff_exists'.1 hsome
    refine ⟨value, ?_, hvalue⟩
    rw [replace_options]
    exact Sorted.mem_ofList.2 (mem_of_replace hvalue)

lemma choose?_of_mem {s : Selection} {value : String} (h : value ∈ s.options) :
    s.choose? value = some ⟨s.options, some value⟩ := if_pos h

lemma choose?_of_not_mem {s : Selection} {value : String} (h : value ∉ s.options) :
    s.choose? value = none := if_neg h

lemma Steppable.perform {s : Selection} (hs : s.Steppable) (op : Op) :
    (s.perform op).Steppable := by
  cases op with
  | replace offered => exact steppable_replace s offered
  | clear => exact steppable_clear s
  | choose value =>
      rw [Selection.perform]
      by_cases h : value ∈ s.options
      · rw [choose?_of_mem h]
        exact ⟨hs.nodup, fun _ => ⟨value, h, rfl⟩⟩
      · rw [choose?_of_not_mem h]
        exact hs

lemma steppable_of_run {preferred? : Option String} {history : List (Selection × Op)}
    {s : Selection} (run : Run (selections preferred?) history s) : s.Steppable :=
  run.invariant (steppable_preferring preferred?) fun _ op hs _ => hs.perform op

lemma position_of_mem {s : Selection} {value : String} (hvalue : s.current? = some value)
    (hmem : value ∈ s.options) : s.position = s.options.idxOf value := by
  rw [position, hvalue]
  exact if_pos hmem

/-! ## The circle -/

/-- Choose the option so many places along.  Where nothing is offered nothing happens. -/
def step (s : Selection) (delta : Int) : Selection := ((s.neighbour? delta).bind s.choose?).getD s

/-- The selections after each of so many steps. -/
def walk (delta : Int) : Nat → Selection → List Selection
  | 0, _ => []
  | n + 1, s => s.step delta :: walk delta n (s.step delta)

/-- The options with the one at a place chosen, where the places go on around both ends. -/
def around (options : List String) (place : Int) : Selection :=
  ⟨options, options[(place % (options.length : Int)).toNat]?⟩

/-- The options form a circle: there are some, and none stands twice. -/
structure Circle (options : List String) : Prop where
  ne_nil : options ≠ []
  nodup : options.Nodup

namespace Circle

variable {options : List String} (h : Circle options)

include h

lemma length_pos : (0 : Int) < options.length := by
  exact_mod_cast List.length_pos_iff.2 h.ne_nil

lemma toNat_place (place : Int) :
    ((place % (options.length : Int)).toNat : Int) = place % (options.length : Int) :=
  Int.toNat_of_nonneg (Int.emod_nonneg _ h.length_pos.ne')

lemma place_lt (place : Int) : (place % (options.length : Int)).toNat < options.length := by
  have hlt := Int.emod_lt_of_pos place h.length_pos
  have hcast := h.toNat_place place
  omega

/-- At every place there is an option. -/
lemma exists_chosen (place : Int) :
    ∃ value ∈ options, (around options place).current? = some value :=
  ⟨_, List.getElem_mem (h.place_lt place), List.getElem?_eq_getElem (h.place_lt place)⟩

lemma position_around (place : Int) :
    ((around options place).position : Int) = place % (options.length : Int) := by
  have hcurrent : (around options place).current? = some _ :=
    List.getElem?_eq_getElem (h.place_lt place)
  rw [position_of_mem hcurrent (List.getElem_mem _)]
  dsimp only [around]
  rw [h.nodup.idxOf_getElem, h.toNat_place]

/-- Two places hold the same option just if they are some full turns apart. -/
lemma around_eq_iff (i j : Int) :
    around options i = around options j ↔ i ≡ j [ZMOD options.length] := by
  constructor
  · intro heq
    rw [Int.ModEq, ← h.position_around i, heq, h.position_around j]
  · intro hmod
    rw [around, around, hmod]

lemma neighbour?_around (place delta : Int) :
    (around options place).neighbour? delta = (around options (place + delta)).current? := by
  rw [neighbour?, h.position_around]
  dsimp only [around]
  rw [Int.emod_add_emod]

/-- **A step moves on by so many places.** -/
lemma choose?_around (place delta : Int) :
    ((around options place).neighbour? delta).bind (around options place).choose?
      = some (around options (place + delta)) := by
  obtain ⟨value, hmem, hvalue⟩ := h.exists_chosen (place + delta)
  rw [h.neighbour?_around, hvalue, Option.bind_some, choose?_of_mem hmem, ← hvalue]
  rfl

lemma step_around (place delta : Int) :
    (around options place).step delta = around options (place + delta) := by
  rw [step, h.choose?_around, Option.getD_some]

lemma walk_around (delta : Int) (n : Nat) (place : Int) :
    walk delta n (around options place)
      = (List.range n).map fun k => around options (place + (k + 1 : Nat) * delta) := by
  induction n generalizing place with
  | zero => rfl
  | succ n ih =>
      have hfirst : place + ((0 + 1 : Nat) : Int) * delta = place + delta := by simp
      have hlater (k : Nat) :
          place + delta + (k + 1 : Nat) * delta = place + ((k + 1) + 1 : Nat) * delta := by
        push_cast
        ring
      rw [walk, h.step_around, ih, List.range_succ_eq_map, List.map_cons, List.map_map, hfirst]
      simp only [hlater]
      rfl

end Circle

/-- A reached selection with options stands at a place of their circle. -/
lemma Steppable.exists_place {s : Selection} (hs : s.Steppable) (hoptions : s.options ≠ []) :
    Circle s.options ∧ ∃ place, s = around s.options place := by
  obtain ⟨value, hmem, hvalue⟩ := hs.chosen hoptions
  refine ⟨⟨hoptions, hs.nodup⟩, s.options.idxOf value, ?_⟩
  have hlt := List.idxOf_lt_length_of_mem hmem
  have hplace : ((s.options.idxOf value : Int) % (s.options.length : Int)).toNat
      = s.options.idxOf value := by
    rw [← Int.natCast_emod, Int.toNat_natCast, Nat.mod_eq_of_lt hlt]
  rw [around, hplace, List.getElem?_idxOf hmem, ← hvalue]

/-! ## Turns -/

namespace Circle

variable {options : List String} (h : Circle options) (delta place : Int)

include h

/-- As many steps of one length as there are options make whole turns. -/
lemma getLast?_walk : (walk delta options.length (around options place)).getLast?
    = some (around options place) := by
  obtain ⟨n, hn⟩ := Nat.exists_eq_succ_of_ne_zero (List.length_pos_iff.2 h.ne_nil).ne'
  have hback : around options (place + (n + 1 : Nat) * delta) = around options place := by
    rw [h.around_eq_iff, hn]
    exact Int.modEq_iff_dvd.2 ⟨-delta, by push_cast; ring⟩
  rw [h.walk_around, hn, List.range_succ, List.map_append, ← hback]
  exact List.getLast?_concat

lemma walk_subset (n : Nat) :
    (walk delta n (around options place)).map current? ⊆ options.map some := by
  intro choice hchoice
  rw [h.walk_around, List.map_map] at hchoice
  obtain ⟨k, -, rfl⟩ := List.mem_map.1 hchoice
  obtain ⟨value, hmem, hvalue⟩ := h.exists_chosen (place + (k + 1 : Nat) * delta)
  exact List.mem_map.2 ⟨value, hmem, hvalue.symm⟩

variable {delta} (hdelta : delta = 1 ∨ delta = -1)

include hdelta

/-- Single steps that are less than a turn apart lead to different options. -/
lemma eq_of_steps {k l : Nat} (hk : k < options.length) (hl : l < options.length)
    (heq : around options (place + (k + 1 : Nat) * delta)
      = around options (place + (l + 1 : Nat) * delta)) : k = l := by
  have hmod : ((k + 1 : Nat) : Int) * delta ≡ (l + 1 : Nat) * delta [ZMOD options.length] :=
    ((h.around_eq_iff _ _).1 heq).add_left_cancel' place
  have hnat : ((k + 1 : Nat) : Int) ≡ (l + 1 : Nat) [ZMOD options.length] := by
    rcases hdelta with rfl | rfl
    · simpa only [mul_one] using hmod
    · simpa only [mul_neg, mul_one, neg_neg] using hmod.neg
  have hsmall : k ≡ l [MOD options.length] :=
    (Int.natCast_modEq_iff.1 hnat).add_right_cancel' 1
  exact hsmall.eq_of_lt_of_lt hk hl

lemma nodup_walk : ((walk delta options.length (around options place)).map current?).Nodup := by
  rw [h.walk_around, List.map_map]
  refine List.Nodup.map_on (fun k hk l hl heq => ?_) List.nodup_range
  refine h.eq_of_steps place hdelta (List.mem_range.1 hk) (List.mem_range.1 hl) ?_
  exact congrArg (Selection.mk options) heq

/-- In a turn of single steps each option is chosen once. -/
lemma perm_walk : ((walk delta options.length (around options place)).map current?).Perm
    (options.map some) := by
  refine (List.subperm_of_subset (h.nodup_walk place hdelta)
    (h.walk_subset delta place _)).perm_of_length_le ?_
  rw [h.walk_around, List.length_map, List.length_map, List.length_map, List.length_range]

end Circle

/-- **Stepping through the options goes round.**  Whatever happened to a selection, if it has
options,

* the option any number of places along, forward or backward, is there and can be chosen,
* steps add up: what is so many places along after a step is what both together lead to at once,
* a step is taken back by the opposite one, and
* as many single steps, forward or backward, as there are options choose each of them once and end
  where they began. -/
theorem steps_go_round {preferred? : Option String} {history : List (Selection × Op)}
    {s : Selection} (run : Run (selections preferred?) history s) (hoptions : s.options ≠ []) :
    (∀ delta, ∃ value ∈ s.options, s.neighbour? delta = some value ∧
      s.choose? value = some (s.step delta)) ∧
    (∀ d e, (s.step d).neighbour? e = s.neighbour? (d + e)) ∧
    (∀ delta, (s.step delta).step (-delta) = s) ∧
    ∀ delta, delta = 1 ∨ delta = -1 →
      (walk delta s.options.length s).getLast? = some s ∧
      ((walk delta s.options.length s).map current?).Nodup ∧
      ((walk delta s.options.length s).map current?).Perm (s.options.map some) := by
  obtain ⟨hcircle, place, hs⟩ := (steppable_of_run run).exists_place hoptions
  generalize s.options = options at hcircle hs ⊢
  subst hs
  refine ⟨fun delta => ?_, fun d e => ?_, fun delta => ?_, fun delta hdelta => ?_⟩
  · obtain ⟨value, hmem, hvalue⟩ := hcircle.exists_chosen (place + delta)
    have hneighbour : (around options place).neighbour? delta = some value := by
      rw [hcircle.neighbour?_around, hvalue]
    refine ⟨value, hmem, hneighbour, ?_⟩
    have hchoose := hcircle.choose?_around place delta
    rw [hneighbour, Option.bind_some] at hchoose
    rw [hchoose, hcircle.step_around]
  · rw [hcircle.step_around, hcircle.neighbour?_around, hcircle.neighbour?_around, add_assoc]
  · rw [hcircle.step_around, hcircle.step_around, add_neg_cancel_right]
  · exact ⟨hcircle.getLast?_walk delta place, hcircle.nodup_walk place hdelta,
      hcircle.perm_walk place hdelta⟩

/-- Interfaces of a host: two are listed, then three, and the last is chosen. -/
def relisted : List Op :=
  [.replace ["eth1", "eth0"], .replace ["eth1", "lo", "eth0"], .choose "lo"]

/-- Seven places back and eight on, over the end of the list each time. -/
theorem steps_go_round_relisted :
    ∃ s, s = (selections (some "eth9")).after (preferring (some "eth9")) relisted ∧
      s.current? = some "lo" ∧ (s.step (-7)).neighbour? 8 = some "eth0" ∧
      (s.step (-7)).step 7 = s ∧
      (walk (-1) 3 s).map current? = [some "eth1", some "eth0", some "lo"] ∧
      (walk (-1) 3 s).getLast? = some s := by
  have hrun := (Run.start (S := selections (some "eth9"))).extend relisted fun _ _ => trivial
  obtain ⟨-, hadd, hback, hturn⟩ := steps_go_round hrun (by decide)
  refine ⟨_, rfl, by decide, (hadd (-7) 8).trans (by decide), hback 7, by decide, ?_⟩
  exact (hturn (-1) (.inr rfl)).1

end Selection

end Meterboard
