import Mathlib.Data.List.Sort
import Meterboard.Proofs.Cascade.Offered

/-!
# A listing is a set of identifiers

A store lists variables in any order, as often as it likes, with samples or without, and with others
between them that are no identifiers.  Nothing of that is seen in the selections.

* `Names`, `Reads` — the identifiers of a listing, and the variables they are read of.
* `Part` — the selections of a cascade, each with what an identifier adds to it.
* `Selection.Renewed` — a selection takes new options: all of them and no others, in order, and the
  choice stays where it can.
* `apply_listing` — a listing that is taken replaces the options of the selections of its level.
* `listing_counts_as_set` — two listings of the same identifiers lead to the same, and what that is.

That two listings lead to the same comes down to `Sorted.ofList_congr`: an ascending list is known
by its members.
-/

namespace Meterboard

/-! ## Options -/

/-- An ascending list is known by its members. -/
lemma Sorted.ofList_congr {xs ys : List String} (h : ∀ x, x ∈ xs ↔ x ∈ ys) :
    ofList xs = ofList ys := by
  refine (pairwise_ofList xs).eq_of_mem_iff (pairwise_ofList ys) fun x => ?_
  rw [mem_ofList, mem_ofList, h]

namespace Selection

/-- A selection has taken new options, each once and in order of their bytes.  The choice is the old
one if it is still offered, and otherwise the first option. -/
structure Renewed (old new : Selection) (offered : String → Prop) : Prop where
  options : ∀ value, value ∈ new.options ↔ offered value
  ascending : new.Ascending
  kept : ∀ value, old.current? = some value → offered value → new.current? = some value
  first : (∀ value, old.current? = some value → ¬ offered value) →
    new.current? = new.options.head?

lemma renewed_replace (s : Selection) (offered : List String) :
    s.Renewed (s.replace offered) (· ∈ offered) where
  options := by simp
  ascending := ascending_replace s offered
  kept := by
    intro value hvalue hoffered
    simp [replace_current, hvalue, hoffered]
  first := by
    intro hgone
    have hnone : s.current?.filter (· ∈ offered) = none := by
      rw [Option.filter_eq_none_iff]
      simpa using hgone
    rw [replace_current, hnone, Option.none_or, replace_options]

lemma replace_congr (s : Selection) {xs ys : List String} (h : ∀ x, x ∈ xs ↔ x ∈ ys) :
    s.replace xs = s.replace ys := by
  unfold replace
  rw [Sorted.ofList_congr h]

end Selection

namespace Cascade

/-! ## Listings -/

/-- An identifier can be read of some variable of the listing. -/
def Names (r : ListResponse) (id : Identifier) : Prop :=
  ∃ s ∈ r.streams, Identifier.parse? s.name = some id

/-- The variable is listed, and an identifier can be read of it. -/
def Reads (r : ListResponse) (name : String) : Prop :=
  (∃ s ∈ r.streams, s.name = name) ∧ Identifier.parse? name ≠ none

lemma mem_identifiers {r : ListResponse} {id : Identifier} :
    id ∈ identifiers r ↔ Names r id := List.mem_filterMap

lemma names_of_reads {r r' : ListResponse} (h : ∀ name, Reads r name → Reads r' name)
    {id : Identifier} (hid : Names r id) : Names r' id := by
  obtain ⟨s, hs, hread⟩ := hid
  have hsome : Identifier.parse? s.name ≠ none := by simp [hread]
  obtain ⟨⟨t, ht, hsame⟩, -⟩ := h s.name ⟨⟨s, hs, rfl⟩, hsome⟩
  exact ⟨t, ht, hsame ▸ hread⟩

/-! ## The selections of a cascade -/

/-- One of the selections of a cascade. -/
inductive Part where
  | metric
  | host
  | interface
deriving DecidableEq, Repr

/-- The selection in its place. -/
def part (c : Cascade) : Part → Selection
  | .metric => c.metric
  | .host => c.host
  | .interface => c.interface

namespace Part

/-- The listings that fill the selection. -/
def level : Part → Level
  | .metric => .top
  | .host => .top
  | .interface => .interfaces

/-- What an identifier adds to the options. -/
def value? : Part → Identifier → Option String
  | .metric, id => some id.name
  | .host, id => id.label? Identifier.hostLabel
  | .interface, id => id.label? Identifier.interfaceLabel

/-- The listing offers the value to the selection. -/
def Offered (p : Part) (r : ListResponse) (value : String) : Prop :=
  ∃ id, Names r id ∧ p.value? id = some value

/-- All that a listing offers to the selection, in its order. -/
def values (p : Part) (r : ListResponse) : List String := (identifiers r).filterMap p.value?

lemma mem_values {p : Part} {r : ListResponse} {value : String} :
    value ∈ p.values r ↔ p.Offered r value := by
  rw [values, List.mem_filterMap]
  exact exists_congr fun id => and_congr_left' mem_identifiers

lemma values_metric (r : ListResponse) :
    values .metric r = (identifiers r).map Identifier.name := by
  rw [values, ← List.filterMap_eq_map]
  rfl

end Part

/-- Asking for interfaces leaves metric and host alone. -/
lemma refreshInterfaces_top (c : Cascade) :
    c.refreshInterfaces.1.metric = c.metric ∧ c.refreshInterfaces.1.host = c.host := by
  unfold refreshInterfaces
  split <;> exact ⟨rfl, rfl⟩

lemma takeTop_top (c : Cascade) (ids : List Identifier) :
    (c.takeTop ids).1.metric = c.metric.replace (ids.map Identifier.name) ∧
      (c.takeTop ids).1.host = c.host.replace (labelValues Identifier.hostLabel ids) := by
  have hkept := refreshInterfaces_top { c with
    metric := c.metric.replace (ids.map Identifier.name)
    host := c.host.replace (labelValues Identifier.hostLabel ids) }
  rw [← takeTop_eq] at hkept
  exact hkept

/-- A listing that is taken replaces the options of the selections of its level. -/
lemma apply_listing (c : Cascade) (p : Part) (r : ListResponse) :
    (c.apply p.level (c.issued p.level) (.ok r)).cascade.part p
      = (c.part p).replace (p.values r) := by
  have htaken : (c.apply .top c.topIssued (.ok r)).cascade = (c.takeTop (identifiers r)).1 := by
    simp [apply, issued]
  cases p with
  | metric => exact Part.values_metric r ▸ htaken ▸ (takeTop_top c (identifiers r)).1
  | host => exact htaken ▸ (takeTop_top c (identifiers r)).2
  | interface =>
      have hlisted : (c.apply .interfaces c.interfacesIssued (.ok r)).cascade
          = (c.takeInterfaces (identifiers r)).1 := by simp [apply, issued]
      exact hlisted ▸ rfl

/-! ## Listings of the same identifiers -/

lemma takeTop_congr (c : Cascade) {ids ids' : List Identifier} (h : ∀ id, id ∈ ids ↔ id ∈ ids') :
    c.takeTop ids = c.takeTop ids' := by
  have hmetric : c.metric.replace (ids.map Identifier.name)
      = c.metric.replace (ids'.map Identifier.name) :=
    c.metric.replace_congr fun value => by simp only [List.mem_map, h]
  have hhost : c.host.replace (labelValues Identifier.hostLabel ids)
      = c.host.replace (labelValues Identifier.hostLabel ids') :=
    c.host.replace_congr fun value => by simp only [labelValues, List.mem_filterMap, h]
  simp only [takeTop, hmetric, hhost]

lemma takeInterfaces_congr (c : Cascade) {ids ids' : List Identifier}
    (h : ∀ id, id ∈ ids ↔ id ∈ ids') : c.takeInterfaces ids = c.takeInterfaces ids' := by
  have hinterface : c.interface.replace (labelValues Identifier.interfaceLabel ids)
      = c.interface.replace (labelValues Identifier.interfaceLabel ids') :=
    c.interface.replace_congr fun value => by simp only [labelValues, List.mem_filterMap, h]
  simp only [takeInterfaces, hinterface]

lemma apply_congr (c : Cascade) (level : Level) (generation : Nat) {r r' : ListResponse}
    (h : ∀ id, Names r id ↔ Names r' id) :
    c.apply level generation (.ok r) = c.apply level generation (.ok r') := by
  have hids : ∀ id, id ∈ identifiers r ↔ id ∈ identifiers r' := fun id => by
    rw [mem_identifiers, mem_identifiers, h]
  unfold apply
  cases level with
  | top => simp only [takeTop_congr c hids]
  | interfaces => simp only [takeInterfaces_congr c hids]

/-- **A listing counts as a set.**  Listings of the same variables, as far as these can be read,
name the same identifiers, and listings that name the same identifiers lead to the same cascade, the
same outcome and the same log.  A listing that is taken renews the selections of its level: the
options are the distinct values it offers, in order, and the choice stays if it is still offered. -/
theorem listing_counts_as_set (c : Cascade) (level : Level) (generation : Nat) :
    (∀ r r' : ListResponse, (∀ name, Reads r name ↔ Reads r' name) →
      ∀ id, Names r id ↔ Names r' id) ∧
    (∀ r r' : ListResponse, (∀ id, Names r id ↔ Names r' id) →
      c.apply level generation (.ok r) = c.apply level generation (.ok r')) ∧
    ∀ (r : ListResponse) (p : Part), p.level = level → generation = c.issued level →
      (c.part p).Renewed ((c.apply level generation (.ok r)).cascade.part p) (p.Offered r) := by
  refine ⟨fun r r' h id => ⟨?_, ?_⟩, fun r r' => apply_congr c level generation, ?_⟩
  · exact names_of_reads fun name => (h name).1
  · exact names_of_reads fun name => (h name).2
  · rintro r p rfl rfl
    have hrenewed := (c.part p).renewed_replace (p.values r)
    have hoffered : (· ∈ p.values r) = p.Offered r := funext fun _ => propext Part.mem_values
    rw [← apply_listing, hoffered] at hrenewed
    exact hrenewed

/-- Two metrics, each listed once. -/
def listedInOrder : ListResponse :=
  ⟨true, none, [⟨"m\x7bhostname=h\x7d", []⟩, ⟨"n\x7bhostname=h\x7d", []⟩]⟩

/-- The same in another order, one of them twice, and a variable without labels between them. -/
def listedAnyhow : ListResponse :=
  ⟨true, none, [⟨"n\x7bhostname=h\x7d", []⟩, ⟨"uptime", []⟩, ⟨"m\x7bhostname=h\x7d", []⟩,
    ⟨"n\x7bhostname=h\x7d", [⟨0, none, some "up", none⟩]⟩]⟩

/-- A cascade that waits for its first listing and prefers the second metric. -/
def awaiting : Cascade := (start "/n" (some "n") none none).refreshTop.1

/-- Both listings lead to the same, and the second metric is chosen. -/
theorem listing_counts_as_set_anyhow :
    (∀ name, Reads listedAnyhow name ↔ Reads listedInOrder name) ∧
    awaiting.apply .top 1 (.ok listedAnyhow) = awaiting.apply .top 1 (.ok listedInOrder) ∧
    Part.Offered .metric listedAnyhow "n" ∧
    (awaiting.apply .top 1 (.ok listedAnyhow)).cascade.metric.current? = some "n" := by
  have hsame : ∀ name, Reads listedAnyhow name ↔ Reads listedInOrder name := by
    intro name
    constructor
    · rintro ⟨⟨s, hs, rfl⟩, hread⟩
      refine ⟨?_, hread⟩
      simp only [listedAnyhow, List.mem_cons, List.not_mem_nil, or_false] at hs
      rcases hs with rfl | rfl | rfl | rfl
      · exact ⟨_, .tail _ (.head _), rfl⟩
      · exact absurd (by decide) hread
      · exact ⟨_, .head _, rfl⟩
      · exact ⟨_, .tail _ (.head _), rfl⟩
    · rintro ⟨⟨s, hs, rfl⟩, hread⟩
      refine ⟨?_, hread⟩
      simp only [listedInOrder, List.mem_cons, List.not_mem_nil, or_false] at hs
      rcases hs with rfl | rfl
      · exact ⟨_, .tail _ (.tail _ (.head _)), rfl⟩
      · exact ⟨_, .head _, rfl⟩
  obtain ⟨hnames, happly, hrenews⟩ := listing_counts_as_set awaiting .top 1
  have hoffered : Part.Offered .metric listedAnyhow "n" :=
    ⟨⟨"n", Labels.ofList [("hostname", "h")]⟩, ⟨_, .head _, by decide⟩, rfl⟩
  exact ⟨hsame, happly _ _ (hnames _ _ hsame), hoffered,
    (hrenews listedAnyhow .metric rfl rfl).kept "n" rfl hoffered⟩

end Cascade

end Meterboard
