import Meterboard.Proofs.Cascade.Scope
import Meterboard.Proofs.View.Session

/-!
# Stale outcomes leave no trace

Every call carries the number of its kind: one count for root listings, one for listings of
interfaces, one for queries.  An outcome counts only if its number is the latest when it arrives.
Taking one outcome issues other calls, and so decides which of the later outcomes are stale.

**Several events.**  `View.play` handles events one after the other and collects the effects.

**Two runs.**  `View.Tampered` relates a sequence of events to one in which stale outcomes are
missing or say something else; whether an outcome is stale is decided when it arrives, in the first
sequence.  `play_tampered` is that both lead to the same view and the same effects.  It is an
induction on the relation: a stale outcome changes nothing (`handle_of_stale`), so the two runs are
in the same view again after it.  `View.prompt` leaves out every stale outcome.

**Numbers.**  `play_numbers` — the calls of a kind that are issued along a run carry the numbers
that follow the count at its start, without a gap; so no number is used twice.
-/

namespace Meterboard

namespace View

/-! ## Several events -/

/-- Handle events one after the other; the effects are collected in order. -/
def play (v : View) : List (Event × UInt64) → View × List Effect
  | [] => (v, [])
  | (e, now) :: es =>
      let step := v.handle e now
      let rest := step.view.play es
      (rest.1, step.effects ++ rest.2)

/-! ## Stale outcomes -/

/-- The event is an outcome, but not that of the latest call of its level or kind. -/
def stale (v : View) : Event → Bool
  | .listCompleted level generation _ => generation ≠ v.cascade.issued level
  | .getCompleted generation _ => generation ≠ v.getsIssued
  | _ => false

/-- Two outcomes of the same call, whatever they say. -/
inductive Event.SameCall : Event → Event → Prop
  | list (level : Level) (generation : Nat) (result result' : Except StoreError ListResponse) :
      SameCall (.listCompleted level generation result) (.listCompleted level generation result')
  | get (generation : Nat) (result result' : Except StoreError GetResponse) :
      SameCall (.getCompleted generation result) (.getCompleted generation result')

/-- In the second sequence stale outcomes of the first one are missing, or say something else. -/
inductive Tampered : View → List (Event × UInt64) → List (Event × UInt64) → Prop
  | nil {v : View} : Tampered v [] []
  | kept {v : View} {e : Event} {now : UInt64} {es es' : List (Event × UInt64)} :
      Tampered (v.handle e now).view es es' → Tampered v ((e, now) :: es) ((e, now) :: es')
  | dropped {v : View} {e : Event} {now : UInt64} {es es' : List (Event × UInt64)} :
      v.stale e = true → Tampered (v.handle e now).view es es' → Tampered v ((e, now) :: es) es'
  | replaced {v : View} {e e' : Event} {now : UInt64} {es es' : List (Event × UInt64)} :
      v.stale e = true → e.SameCall e' → Tampered (v.handle e now).view es es' →
        Tampered v ((e, now) :: es) ((e', now) :: es')

/-- The events without the outcomes that are stale when they arrive. -/
def prompt (v : View) : List (Event × UInt64) → List (Event × UInt64)
  | [] => []
  | (e, now) :: es =>
      let rest := (v.handle e now).view.prompt es
      if v.stale e then rest else (e, now) :: rest

/-- A stale outcome changes nothing and asks for nothing. -/
lemma handle_of_stale {v : View} {e : Event} (h : v.stale e = true) (now : UInt64) :
    (v.handle e now).view = v ∧ (v.handle e now).effects = [] := by
  cases e with
  | listCompleted level generation result =>
      have hstale : generation ≠ v.cascade.issued level := by simpa [stale] using h
      unfold handle takeList
      simp [Cascade.apply, hstale]
  | getCompleted generation result =>
      have hstale : generation ≠ v.getsIssued := by simpa [stale] using h
      unfold handle takeGet
      simp [hstale]
  | _ => cases h

lemma play_cons_of_stale {v : View} {e : Event} (h : v.stale e = true) (now : UInt64)
    (es : List (Event × UInt64)) : v.play ((e, now) :: es) = v.play es := by
  obtain ⟨hview, heffects⟩ := handle_of_stale h now
  simp only [play, hview, heffects, List.nil_append]

/-- What the outcome says does not matter for whether it is stale. -/
lemma Event.SameCall.stale {e e' : Event} (h : e.SameCall e') (v : View) :
    v.stale e' = v.stale e := by
  cases h with
  | list => rfl
  | get => rfl

/-- **Stale outcomes are invisible**: without them, or with others in their place, the view ends up
the same and asks for the same. -/
theorem play_tampered {v : View} {es es' : List (Event × UInt64)} (h : Tampered v es es') :
    v.play es' = v.play es := by
  induction h with
  | nil => rfl
  | kept _ ih => simp only [play, ih]
  | @dropped v e now es es' hstale _ ih =>
      rw [(handle_of_stale hstale now).1] at ih
      rw [play_cons_of_stale hstale now es, ih]
  | @replaced v e e' now es es' hstale hsame _ ih =>
      rw [(handle_of_stale hstale now).1] at ih
      have hstale' : v.stale e' = true := (hsame.stale v).trans hstale
      rw [play_cons_of_stale hstale' now es', play_cons_of_stale hstale now es, ih]

lemma tampered_prompt (v : View) (es : List (Event × UInt64)) :
    Tampered v es (v.prompt es) := by
  induction es generalizing v with
  | nil => exact .nil
  | cons x es ih =>
      obtain ⟨e, now⟩ := x
      simp only [prompt]
      split
      · rename_i hstale
        exact .dropped hstale (ih _)
      · exact .kept (ih _)

/-! ## Numbers -/

/-- The number of a listing of the level that an effect sends. -/
def Effect.listNumber? (level : Level) : Effect → Option Nat
  | .list call => if call.level = level then some call.generation else none
  | _ => none

/-- The number of a query that an effect sends. -/
def Effect.getNumber? : Effect → Option Nat
  | .get call => some call.generation
  | _ => none

lemma filterMap_listNumber? (level : Level) (es : List Effect) :
    es.filterMap (Effect.listNumber? level)
      = (es.filterMap Effect.list?).filterMap
          fun call => if call.level = level then some call.generation else none := by
  rw [List.filterMap_filterMap]
  congr 1
  funext effect
  cases effect <;> rfl

lemma filterMap_getNumber? (es : List Effect) :
    es.filterMap Effect.getNumber? = (es.filterMap Effect.get?).map GetCall.generation := by
  rw [List.map_filterMap]
  congr 1
  funext effect
  cases effect <;> rfl

end View

/-- An operation hands out the next number of a level, or none. -/
lemma Cascade.numbers_perform (c : Cascade) (op : Op) (level : Level) :
    c.issued level ≤ (c.perform op).1.issued level ∧
      ((c.perform op).2.toList.filterMap fun call =>
          if call.level = level then some call.generation else none)
        = List.range' (c.issued level + 1) ((c.perform op).1.issued level - c.issued level) := by
  refine ⟨issued_le_perform c op level, ?_⟩
  have hmoves := moves_perform c op
  generalize c.perform op = moved at hmoves
  cases hmoves with
  | refused _ => simp
  | root => cases level <;> simp [issued]
  | asked hd _ =>
      obtain ⟨-, -, htop, hinterfaces⟩ := hd.frame
      cases level <;> simp [issued, htop, hinterfaces]
  | cleared hd _ =>
      obtain ⟨-, -, htop, hinterfaces⟩ := hd.frame
      cases level <;> simp [issued, htop, hinterfaces]
  | picked _ => cases level <;> simp [issued]
  | listed => cases level <;> simp [issued]

namespace View

lemma list_numbers_handle (v : View) (e : Event) (now : UInt64) (level : Level) :
    v.cascade.issued level ≤ (v.handle e now).view.cascade.issued level ∧
      (v.handle e now).effects.filterMap (Effect.listNumber? level)
        = List.range' (v.cascade.issued level + 1)
            ((v.handle e now).view.cascade.issued level - v.cascade.issued level) := by
  rw [filterMap_listNumber?, handle_lists, handle_cascade]
  cases e.op? with
  | none => simp
  | some op => exact Cascade.numbers_perform v.cascade op level

lemma get_numbers_handle (v : View) (e : Event) (now : UInt64) :
    v.getsIssued ≤ (v.handle e now).view.getsIssued ∧
      (v.handle e now).effects.filterMap Effect.getNumber?
        = List.range' (v.getsIssued + 1) ((v.handle e now).view.getsIssued - v.getsIssued) := by
  refine ⟨getsIssued_le_handle v e now, ?_⟩
  rw [filterMap_getNumber?]
  rcases handle_gets v e now with ⟨hnone, hsame, -⟩ | ⟨_, _, _, -, -, hnext, hgets⟩
  · simp [hnone, hsame]
  · simp [hgets, hnext]

/-- Where every event issues the next number of a count or none, a run issues all numbers that
follow the count at its start. -/
theorem play_numbers (count : View → Nat) (number? : Effect → Option Nat)
    (hhandle : ∀ v e now, count v ≤ count (v.handle e now).view ∧
      (v.handle e now).effects.filterMap number?
        = List.range' (count v + 1) (count (v.handle e now).view - count v))
    (v : View) (es : List (Event × UInt64)) :
    count v ≤ count (v.play es).1 ∧
      (v.play es).2.filterMap number?
        = List.range' (count v + 1) (count (v.play es).1 - count v) := by
  induction es generalizing v with
  | nil => simp [play]
  | cons x es ih =>
      obtain ⟨e, now⟩ := x
      obtain ⟨hle, hnumbers⟩ := hhandle v e now
      obtain ⟨hrest, hmore⟩ := ih (v.handle e now).view
      simp only [play, List.filterMap_append, hnumbers, hmore]
      refine ⟨Nat.le_trans hle hrest, ?_⟩
      have hstart : count (v.handle e now).view + 1
          = count v + 1 + 1 * (count (v.handle e now).view - count v) := by omega
      have hlength : count ((v.handle e now).view.play es).1 - count v
          = count (v.handle e now).view - count v
            + (count ((v.handle e now).view.play es).1 - count (v.handle e now).view) := by
        omega
      rw [hstart, hlength, List.range'_append]

/-- **Stale outcomes are invisible, and numbers are never used twice.**  Whatever a view is told,
the outcomes that are stale when they arrive may as well be left out, or say something else: the
view and all effects are the same.  The listings of each level, and the queries, that are sent along
the way carry ascending numbers. -/
theorem stale_invisible (settings : ViewSettings) (es : List (Event × UInt64)) :
    (ofSettings settings).play ((ofSettings settings).prompt es)
        = (ofSettings settings).play es ∧
    (∀ es', Tampered (ofSettings settings) es es' →
      (ofSettings settings).play es' = (ofSettings settings).play es) ∧
    (∀ level, (((ofSettings settings).play es).2.filterMap
      (Effect.listNumber? level)).Pairwise (· < ·)) ∧
    (((ofSettings settings).play es).2.filterMap Effect.getNumber?).Pairwise (· < ·) := by
  refine ⟨?_, ?_, ?_, ?_⟩
  · exact play_tampered (tampered_prompt (ofSettings settings) es)
  · exact fun _ => play_tampered
  · intro level
    have hnumbers := play_numbers (fun v => v.cascade.issued level) (Effect.listNumber? level)
      (fun v e now => list_numbers_handle v e now level) (ofSettings settings) es
    rw [hnumbers.2]
    exact List.pairwise_lt_range'
  · have hnumbers := play_numbers View.getsIssued Effect.getNumber? get_numbers_handle
      (ofSettings settings) es
    rw [hnumbers.2]
    exact List.pairwise_lt_range'

/-- A transform is selected while a query is on its way, so that its outcome is stale. -/
def outrun (result : Except StoreError GetResponse) : List (Event × UInt64) :=
  [(.start, 0), (.listCompleted .top 1 Cascade.oneInterface, 0),
    (.listCompleted .interfaces 1 Cascade.oneInterface, 0), (.transformSelected .delta, 0),
    (.getCompleted 1 result, 0), (.getCompleted 2 (.ok ⟨true, none, []⟩), 0)]

/-- It does not matter whether the query that was outrun succeeded. -/
theorem stale_invisible_outrun :
    Tampered (ofSettings default) (outrun (.ok ⟨true, none, []⟩))
      (outrun (.error (.transport .get .timeout))) ∧
    (ofSettings default).play (outrun (.error (.transport .get .timeout)))
      = (ofSettings default).play (outrun (.ok ⟨true, none, []⟩)) := by
  have htampered : Tampered (ofSettings default) (outrun (.ok ⟨true, none, []⟩))
      (outrun (.error (.transport .get .timeout))) :=
    .kept (.kept (.kept (.kept (.replaced (by decide) (.get 1 _ _) (.kept .nil)))))
  obtain ⟨-, hinvisible, -, -⟩ := stale_invisible default (outrun (.ok ⟨true, none, []⟩))
  exact ⟨htampered, hinvisible _ htampered⟩

end View

end Meterboard
