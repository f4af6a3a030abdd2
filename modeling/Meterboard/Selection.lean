import Meterboard.Labels

/-!
# Selections

One selector of the board: the options the store offers and the one that is chosen.

* `Selection.replace` — new options; a choice that is still offered stays, otherwise the first
  option is chosen.
* `Selection.choose?` — choose an option, if it is offered.
* `Selection.neighbour?` — the option some places along, around the end.
-/

namespace Meterboard

/-- Options in ascending order and a choice.  Before the first options arrive the choice may be a
preferred value that nobody has offered yet. -/
structure Selection where
  options : List String
  current? : Option String
deriving DecidableEq

namespace Selection

/-- No options yet, and perhaps a preferred value. -/
def preferring (value? : Option String) : Selection := ⟨[], value?⟩

/-- Take new options, each once and in ascending order.  The choice stays if it is still offered;
otherwise it becomes the first option. -/
def replace (s : Selection) (offered : List String) : Selection :=
  let options := Sorted.ofList offered
  match s.current? with
  | some c => if c ∈ options then ⟨options, some c⟩ else ⟨options, options.head?⟩
  | none => ⟨options, options.head?⟩

/-- No options and no choice. -/
def clear (_ : Selection) : Selection := ⟨[], none⟩

/-- Choose an option; nothing if it is not offered. -/
def choose? (s : Selection) (value : String) : Option Selection :=
  if value ∈ s.options then some ⟨s.options, some value⟩ else none

/-- The place of the choice among the options; a choice that is not offered counts as the first. -/
def position (s : Selection) : Nat :=
  match s.current? with
  | some c => if c ∈ s.options then s.options.idxOf c else 0
  | none => 0

/-- The option `delta` places after the chosen one, going around at both ends. -/
def neighbour? (s : Selection) (delta : Int) : Option String :=
  s.options[((s.position + delta) % (s.options.length : Int)).toNat]?

/-! ## Choices and options -/

/-- Nothing is offered where nothing is chosen. -/
def Settled (s : Selection) : Prop := s.current? = none → s.options = []

/-- Where something is offered, something is chosen. -/
theorem Settled.isSome_of_mem {s : Selection} (h : s.Settled) {value : String}
    (hvalue : value ∈ s.options) : s.current?.isSome := by
  refine Option.isSome_iff_ne_none.2 fun hnone => ?_
  rw [h hnone] at hvalue
  cases hvalue

theorem settled_preferring (value? : Option String) : (preferring value?).Settled := fun _ => rfl

theorem settled_clear (s : Selection) : s.clear.Settled := fun _ => rfl

theorem settled_some (options : List String) (value : String) :
    Settled ⟨options, some value⟩ := fun h => nomatch h

@[simp] theorem replace_options (s : Selection) (offered : List String) :
    (s.replace offered).options = Sorted.ofList offered := by
  unfold replace
  dsimp only
  split
  · split <;> rfl
  · rfl

/-- New options keep a choice that is among them; any other gives way to the first. -/
theorem replace_current (s : Selection) (offered : List String) :
    (s.replace offered).current?
      = (s.current?.filter (· ∈ offered)).or (Sorted.ofList offered).head? := by
  unfold replace
  dsimp only
  split
  · rename_i c hc
    by_cases h : c ∈ offered <;> simp [hc, h, Option.filter]
  · rename_i hc
    simp [hc]

/-- After new options the choice is one of them. -/
theorem mem_of_replace {s : Selection} {offered : List String} {value : String}
    (h : (s.replace offered).current? = some value) : value ∈ offered := by
  rw [replace_current, Option.or_eq_some_iff] at h
  rcases h with h | ⟨_, h⟩
  · simpa using (Option.filter_eq_some_iff.1 h).2
  · exact Sorted.mem_ofList.1 (List.mem_of_head? h)

/-- New options leave no choice only where there are none. -/
theorem settled_replace (s : Selection) (offered : List String) : (s.replace offered).Settled := by
  intro h
  rw [replace_current, Option.or_eq_none_iff] at h
  rw [replace_options]
  exact List.head?_eq_none_iff.1 h.2

end Selection

end Meterboard
