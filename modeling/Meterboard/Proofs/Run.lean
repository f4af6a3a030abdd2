import Mathlib.Tactic.Lemma

/-!
# Runs of a system that is driven from outside

The board never decides what comes next: a user chooses, a timer fires, a store answers when it
likes and in any order.  A theorem about all of that is a theorem about every sequence of inputs
that the surroundings may produce, and about the state after it.

* `System` — a start, the inputs the surroundings may produce in a state, and where they lead.
* `Run` — a history and the state after it.  The history keeps each input **with the state that met
  it**, so that "earlier in the run this happened" is membership in a list.
* `Run.invariant` — what holds at the start and is kept by every step holds after every run.
* `Run.reached` — a state in a history was itself reached by the part of the history before it.
* `Run.simulate` — a system whose steps are steps of another one, or none, has its runs there.
* `Run.mono` — surroundings that may do more have every run of those that may do less.
* `latest?` — the latest thing of some sort in a history.
* `Run.extend` — inputs that are allowed one after the other prolong a run; a concrete run is built
  by evaluation with it.
-/

namespace Meterboard

/-- A system that is driven by inputs from outside. -/
structure System (σ ι : Type) where
  start : σ
  /-- The surroundings may produce the input in this state. -/
  allows : σ → ι → Prop
  next : σ → ι → σ

/-- The histories of a system, each with the state after it. -/
inductive Run {σ ι : Type} (S : System σ ι) : List (σ × ι) → σ → Prop
  | start : Run S [] S.start
  | step {history : List (σ × ι)} {s : σ} {i : ι} :
      Run S history s → S.allows s i → Run S (history ++ [(s, i)]) (S.next s i)

variable {σ ι : Type} {S : System σ ι}

/-- What holds at the start and is kept by every step holds after every run. -/
theorem Run.invariant {I : σ → Prop} (hstart : I S.start)
    (hstep : ∀ s i, I s → S.allows s i → I (S.next s i)) {history : List (σ × ι)} {s : σ}
    (run : Run S history s) : I s := by
  induction run with
  | start => exact hstart
  | step _ allowed ih => exact hstep _ _ ih allowed

/-- A state in a history was reached by what came before it, and allowed the input it met. -/
theorem Run.reached {history : List (σ × ι)} {s : σ} (run : Run S history s) {x : σ × ι}
    (hx : x ∈ history) :
    ∃ before after, history = before ++ x :: after ∧ Run S before x.1 ∧ S.allows x.1 x.2 := by
  induction run with
  | start => cases hx
  | @step history s i run allowed ih =>
      rcases List.mem_append.1 hx with hx | hx
      · obtain ⟨before, after, rfl, hrun, hallowed⟩ := ih hx
        exact ⟨before, after ++ [(s, i)], by simp, hrun, hallowed⟩
      · obtain rfl := List.mem_singleton.1 hx
        exact ⟨history, [], rfl, run, allowed⟩

/-- **Simulation.**  If every step of a system is seen through `f` as a step of another one, or as
no step at all, then every state it reaches is seen as one that the other reaches. -/
theorem Run.simulate {τ κ : Type} {T : System τ κ} (f : σ → τ) (hstart : f S.start = T.start)
    (hstep : ∀ s i, S.allows s i →
      f (S.next s i) = f s ∨ ∃ k, T.allows (f s) k ∧ f (S.next s i) = T.next (f s) k)
    {history : List (σ × ι)} {s : σ} (run : Run S history s) :
    ∃ seen, Run T seen (f s) := by
  induction run with
  | start => exact ⟨[], hstart ▸ Run.start⟩
  | @step history s i _ allowed ih =>
      obtain ⟨seen, hseen⟩ := ih
      rcases hstep s i allowed with h | ⟨k, hk, h⟩
      · exact ⟨seen, h ▸ hseen⟩
      · exact ⟨seen ++ [(f s, k)], h ▸ hseen.step hk⟩

/-- Surroundings that may do more have every run of those that may do less. -/
theorem Run.mono {T : System σ ι} (hstart : S.start = T.start) (hnext : S.next = T.next)
    (hallows : ∀ s i, S.allows s i → T.allows s i) {history : List (σ × ι)} {s : σ}
    (run : Run S history s) : Run T history s := by
  induction run with
  | start => exact hstart ▸ Run.start
  | step _ allowed ih => exact hnext ▸ ih.step (hallows _ _ allowed)

/-! ## What came last -/

/-- The latest thing of some sort that a history holds. -/
def latest? {α β : Type} (f : α → Option β) (history : List α) : Option β :=
  (history.filterMap f).getLast?

lemma latest?_concat {α β : Type} (f : α → Option β) (history : List α) (x : α) :
    latest? f (history ++ [x]) = (f x).or (latest? f history) := by
  rw [latest?, List.filterMap_append, List.getLast?_append]
  cases h : f x with
  | none => simp [h, latest?]
  | some y => simp [h]

lemma latest?_cons {α β : Type} (f : α → Option β) (x : α) (history : List α) :
    latest? f (x :: history) = (latest? f history).or (f x) := by
  rw [latest?, List.filterMap_cons]
  cases h : f x with
  | none => simp [latest?]
  | some y => rw [List.getLast?_cons, latest?]; cases (history.filterMap f).getLast? <;> rfl

lemma latest?_map {α β γ : Type} (f : β → Option γ) (g : α → β) (history : List α) :
    latest? f (history.map g) = latest? (fun x => f (g x)) history := by
  rw [latest?, List.filterMap_map]
  rfl

/-- The latest thing is there, and nothing of its sort behind it. -/
lemma latest?_eq_some_iff {α β : Type} {f : α → Option β} {history : List α} {y : β} :
    latest? f history = some y ↔ ∃ before x after, history = before ++ x :: after ∧ f x = some y ∧
      ∀ z ∈ after, f z = none := by
  induction history with
  | nil => simp [latest?]
  | cons x rest ih =>
      rw [latest?_cons, Option.or_eq_some_iff, ih]
      constructor
      · rintro (⟨before, z, after, rfl, hz, hafter⟩ | ⟨hnone, hx⟩)
        · exact ⟨x :: before, z, after, rfl, hz, hafter⟩
        · refine ⟨[], x, rest, rfl, hx, ?_⟩
          simpa [latest?] using hnone
      · rintro ⟨before, z, after, hsplit, hz, hafter⟩
        cases before with
        | nil =>
            obtain ⟨rfl, rfl⟩ := List.cons.inj hsplit
            exact .inr ⟨by simpa [latest?] using hafter, hz⟩
        | cons w before =>
            obtain ⟨rfl, rfl⟩ := List.cons.inj hsplit
            exact .inl ⟨before, z, after, rfl, hz, hafter⟩

/-! ## Concrete runs -/

namespace System

/-- Inputs one after the other, each with the state that meets it. -/
def trace (S : System σ ι) : σ → List ι → List (σ × ι)
  | _, [] => []
  | s, i :: is => (s, i) :: S.trace (S.next s i) is

/-- The state after inputs. -/
def after (S : System σ ι) (s : σ) (is : List ι) : σ := is.foldl S.next s

end System

/-- Inputs that are allowed one after the other prolong a run. -/
theorem Run.extend {history : List (σ × ι)} {s : σ} (run : Run S history s) (is : List ι)
    (allowed : ∀ x ∈ S.trace s is, S.allows x.1 x.2) :
    Run S (history ++ S.trace s is) (S.after s is) := by
  induction is generalizing history s with
  | nil => simpa [System.trace, System.after] using run
  | cons i is ih =>
      rw [System.trace, List.forall_mem_cons] at allowed
      have hrest := ih (run.step allowed.1) allowed.2
      rw [List.append_assoc] at hrest
      exact hrest

end Meterboard
