import Meterboard.Proofs.Cascade.Scope
import Meterboard.Proofs.Text.Utf8

/-!
# What is offered and what is chosen

A selection starts with a preferred value that nobody has offered.  From the first listing on, its
options are those of the latest listing and its choice is one of them; the interfaces may also be
cleared, and then offer nothing until they are listed again.

**The system.**  `Cascade.told` is every cascade under every sequence of operations, outcomes
included that nobody asked for.

**What came last.**  `Op.listing?` is the listing of a level that an operation takes, and
`Op.interfaces?` what it leaves of the interfaces: the labels of a listing that is taken, or nothing
where the level is cleared.  `latest?` picks the last of these in a history.

**Invariants.**  `Selection.Offers` ties a selection to what was offered last and
`Selection.Ascending` is the order of its options.  The two lemmas on a step (`top_perform`,
`interface_perform`) are case analyses on `Moves`, and `choices_of_run` is the induction on the run.
-/

namespace Meterboard

/-! ## Selections -/

namespace Selection

/-- Each option stands once, in the order of the UTF-8 bytes. -/
def Ascending (s : Selection) : Prop := s.options.Pairwise fun a b => Cbor.utf8 a < Cbor.utf8 b

/-- The options are what was offered, and the choice is one of them; nothing is chosen just where
nothing was offered. -/
structure Offers (s : Selection) (offered : List String) : Prop where
  options : ∀ value, value ∈ s.options ↔ value ∈ offered
  missing : s.current? = none ↔ offered = []
  chosen : ∀ value, s.current? = some value → value ∈ offered

lemma ascending_preferring (value? : Option String) : (preferring value?).Ascending :=
  List.Pairwise.nil

lemma ascending_clear (s : Selection) : s.clear.Ascending := List.Pairwise.nil

lemma ascending_replace (s : Selection) (offered : List String) :
    (s.replace offered).Ascending := by
  rw [Ascending, replace_options]
  exact (Sorted.pairwise_ofList offered).imp Cbor.utf8_lt_utf8.2

lemma offers_clear (s : Selection) : s.clear.Offers [] where
  options := by simp [clear]
  missing := by simp [clear]
  chosen := by simp [clear]

lemma offers_replace (s : Selection) (offered : List String) :
    (s.replace offered).Offers offered where
  options := by simp
  missing := by
    constructor
    · intro h
      have hoptions := settled_replace s offered h
      rwa [replace_options, Sorted.ofList_eq_nil] at hoptions
    · rintro rfl
      simp [replace_current, Sorted.ofList]
  chosen := fun _ => mem_of_replace

lemma Offers.pick {s : Selection} {offered : List String} (h : s.Offers offered) {value : String}
    (hvalue : value ∈ s.options) : Offers ⟨s.options, some value⟩ offered where
  options := h.options
  missing := by
    have hmem := (h.options value).1 hvalue
    simp [List.ne_nil_of_mem hmem]
  chosen := by
    rintro _ ⟨⟩
    exact (h.options value).1 hvalue

/-- Nothing is chosen just where there are no options. -/
lemma Offers.settled_iff {s : Selection} {offered : List String} (h : s.Offers offered) :
    s.current? = none ↔ s.options = [] := by
  rw [h.missing, List.eq_nil_iff_forall_not_mem, List.eq_nil_iff_forall_not_mem]
  exact forall_congr' fun value => not_congr (h.options value).symm

end Selection

namespace Cascade

/-! ## The system -/

/-- All that can happen to a cascade that starts from some preferences, whatever outcomes it is told
of. -/
def told (root : String) (metric? host? interface? : Option String) : System Cascade Op :=
  ⟨.start root metric? host? interface?, fun _ _ => True, fun c op => (c.perform op).1⟩

/-! ## What came last -/

/-- The listing of a level that an operation takes. -/
def Op.listing? (level : Level) (c : Cascade) : Op → Option ListResponse
  | .apply l generation (.ok response) =>
      if l = level ∧ generation = c.issued l then some response else none
  | _ => none

/-- The operation asks for interfaces, if metric and host are chosen after it. -/
def Op.asks (c : Cascade) : Op → Bool
  | .refreshInterfaces => true
  | .chooseMetric value => value ∈ c.metric.options
  | .chooseHost value => value ∈ c.host.options
  | .apply .top generation (.ok _) => generation = c.topIssued
  | _ => false

/-- The operation asks for interfaces where metric or host are missing. -/
def Op.clears (c : Cascade) (op : Op) : Bool :=
  op.asks c && (c.perform op).1.scope?.isNone

/-- What an operation leaves of the interfaces: nothing where it clears them, and the labels of the
listing that it takes. -/
def Op.interfaces? (c : Cascade) (op : Op) : Option (List String) :=
  if op.clears c then some []
  else (op.listing? .interfaces c).map fun r =>
    labelValues Identifier.interfaceLabel (identifiers r)

/-! ## One operation -/

lemma listing?_of_refuses {c : Cascade} {op : Op} (h : c.Refuses op) (level : Level) :
    op.listing? level c = none := by
  cases op with
  | apply l generation result =>
      rcases h with h | ⟨e, rfl⟩
      · cases result <;> simp [Op.listing?, h]
      · rfl
  | _ => rfl

lemma asks_of_refuses {c : Cascade} {op : Op} (h : c.Refuses op) : op.asks c = false := by
  cases op with
  | refreshInterfaces => cases h
  | chooseMetric value => simpa [Op.asks, Refuses] using h
  | chooseHost value => simpa [Op.asks, Refuses] using h
  | apply l generation result =>
      cases l with
      | interfaces => rfl
      | top =>
          rcases h with h | ⟨e, rfl⟩
          · cases result with
            | error e => rfl
            | ok response => simpa [Op.asks, issued] using h
          · rfl
  | _ => rfl

lemma asks_of_retargets {c d : Cascade} {op : Op} (h : c.Retargets op d) : op.asks c = true := by
  cases h with
  | again => rfl
  | metric hvalue => simpa [Op.asks] using hvalue
  | host hvalue => simpa [Op.asks] using hvalue
  | listing => simp [Op.asks]

lemma listing?_of_retargets {c d : Cascade} {op : Op} (h : c.Retargets op d) :
    op.listing? .interfaces c = none := by
  cases h with
  | listing => simp [Op.listing?]
  | _ => rfl

/-- Metric and host follow a listing of the root that is taken; any other operation leaves them with
what was offered before. -/
lemma top_perform (c : Cascade) (op : Op) :
    (∃ response, op.listing? .top c = some response ∧
      (c.perform op).1.metric.Offers ((identifiers response).map Identifier.name) ∧
      (c.perform op).1.host.Offers
        (labelValues Identifier.hostLabel (identifiers response))) ∨
    op.listing? .top c = none ∧ ∀ names hosts, c.metric.Offers names → c.host.Offers hosts →
      (c.perform op).1.metric.Offers names ∧ (c.perform op).1.host.Offers hosts := by
  have hretarget : ∀ {d : Cascade}, c.Retargets op d →
      (∃ response, op.listing? .top c = some response ∧
        d.metric.Offers ((identifiers response).map Identifier.name) ∧
        d.host.Offers (labelValues Identifier.hostLabel (identifiers response))) ∨
      op.listing? .top c = none ∧ ∀ names hosts, c.metric.Offers names → c.host.Offers hosts →
        d.metric.Offers names ∧ d.host.Offers hosts := by
    intro d hd
    cases hd with
    | again => exact .inr ⟨rfl, fun _ _ hm hh => ⟨hm, hh⟩⟩
    | metric hvalue => exact .inr ⟨rfl, fun _ _ hm hh => ⟨hm.pick hvalue, hh⟩⟩
    | host hvalue => exact .inr ⟨rfl, fun _ _ hm hh => ⟨hm, hh.pick hvalue⟩⟩
    | @listing response =>
        refine .inl ⟨response, by simp [Op.listing?, issued], ?_, ?_⟩
        · exact Selection.offers_replace _ _
        · exact Selection.offers_replace _ _
  have hmoves := moves_perform c op
  generalize c.perform op = moved at hmoves
  cases hmoves with
  | refused h => exact .inr ⟨listing?_of_refuses h _, fun _ _ hm hh => ⟨hm, hh⟩⟩
  | root => exact .inr ⟨rfl, fun _ _ hm hh => ⟨hm, hh⟩⟩
  | @asked _ d _ hd _ => exact hretarget (d := d) hd
  | @cleared _ d hd _ => exact hretarget (d := d) hd
  | picked _ => exact .inr ⟨rfl, fun _ _ hm hh => ⟨hm, hh⟩⟩
  | listed => exact .inr ⟨by simp [Op.listing?], fun _ _ hm hh => ⟨hm, hh⟩⟩

/-- The interfaces follow a listing of theirs that is taken, and are gone where they are cleared;
any other operation leaves them with what was offered before. -/
lemma interface_perform (c : Cascade) (op : Op) :
    (∃ labels, op.interfaces? c = some labels ∧ (c.perform op).1.interface.Offers labels) ∨
    op.interfaces? c = none ∧
      ∀ labels, c.interface.Offers labels → (c.perform op).1.interface.Offers labels := by
  have hmoves := moves_perform c op
  unfold Op.interfaces? Op.clears
  generalize c.perform op = moved at hmoves
  cases hmoves with
  | refused h =>
      exact .inr ⟨by simp [asks_of_refuses h, listing?_of_refuses h], fun _ hi => hi⟩
  | root => exact .inr ⟨rfl, fun _ hi => hi⟩
  | @asked _ d scope hd hscope =>
      obtain ⟨-, hsame, -, -⟩ := hd.frame
      refine .inr ⟨?_, fun _ hi => hsame ▸ hi⟩
      have hkept : ({ d with interfacesIssued := d.interfacesIssued + 1 } : Cascade).scope?
          = some scope := hscope
      simp [hkept, listing?_of_retargets hd]
  | @cleared _ d hd hnone =>
      have hkept : ({ d with interface := d.interface.clear } : Cascade).scope? = none := hnone
      exact .inl ⟨[], by simp [asks_of_retargets hd, hkept], Selection.offers_clear d.interface⟩
  | picked hvalue => exact .inr ⟨rfl, fun _ hi => hi.pick hvalue⟩
  | @listed response =>
      refine .inl ⟨_, ?_, Selection.offers_replace _ _⟩
      simp [Op.asks, Op.listing?, issued]

/-! ## Runs -/

variable {root : String} {metric? host? interface? : Option String}
  {history : List (Cascade × Op)} {c : Cascade}

/-- Options are always in order. -/
lemma ascending_of_run (run : Run (told root metric? host? interface?) history c) :
    c.metric.Ascending ∧ c.host.Ascending ∧ c.interface.Ascending := by
  have hpick : ∀ (s : Selection) (value : String), s.Ascending →
      Selection.Ascending ⟨s.options, some value⟩ := fun _ _ h => h
  refine run.invariant (I := fun c => c.metric.Ascending ∧ c.host.Ascending ∧
    c.interface.Ascending) ?_ fun c op h _ => ?_
  · exact ⟨Selection.ascending_preferring metric?, Selection.ascending_preferring host?,
      Selection.ascending_preferring interface?⟩
  · exact selections_perform Selection.ascending_replace Selection.ascending_clear hpick op h

/-- Metric and host are among what the last listing of the root offered. -/
lemma top_of_run (run : Run (told root metric? host? interface?) history c)
    {response : ListResponse}
    (h : latest? (fun x => x.2.listing? .top x.1) history = some response) :
    c.metric.Offers ((identifiers response).map Identifier.name) ∧
      c.host.Offers (labelValues Identifier.hostLabel (identifiers response)) := by
  induction run with
  | start => cases h
  | @step history c op _ _ ih =>
      rw [latest?_concat] at h
      rcases top_perform c op with ⟨taken, htaken, hmetric, hhost⟩ | ⟨hnone, hkept⟩
      · obtain rfl : taken = response := by simpa [htaken] using h
        exact ⟨hmetric, hhost⟩
      · rw [hnone, Option.none_or] at h
        exact hkept _ _ (ih h).1 (ih h).2

/-- The interfaces are what the last listing of them offered, or none since they were cleared. -/
lemma interface_of_run (run : Run (told root metric? host? interface?) history c)
    {labels : List String}
    (h : latest? (fun x => x.2.interfaces? x.1) history = some labels) :
    c.interface.Offers labels := by
  induction run with
  | start => cases h
  | @step history c op _ _ ih =>
      rw [latest?_concat] at h
      rcases interface_perform c op with ⟨left, hleft, hinterface⟩ | ⟨hnone, hkept⟩
      · obtain rfl : left = labels := by simpa [hleft] using h
        exact hinterface
      · rw [hnone, Option.none_or] at h
        exact hkept _ (ih h)

/-- **A selection never names what is no longer offered.**  The options of each selector stand in
the order of their bytes, each once.  After a listing of the root, metric and host are chosen from
the last one, and missing just where it had nothing to choose from.  After a listing of interfaces
or after they were cleared, the interfaces are those of the last listing, or none if they were
cleared since, and one of them is chosen if there are any. -/
theorem choices_of_run (run : Run (told root metric? host? interface?) history c) :
    (c.metric.Ascending ∧ c.host.Ascending ∧ c.interface.Ascending) ∧
    (∀ response, latest? (fun x => x.2.listing? .top x.1) history = some response →
      (c.metric.current? = none ↔ identifiers response = []) ∧
      (∀ name, c.metric.current? = some name →
        ∃ id ∈ identifiers response, id.name = name) ∧
      (c.host.current? = none ↔
        ∀ id ∈ identifiers response, id.label? Identifier.hostLabel = none) ∧
      (∀ host, c.host.current? = some host →
        ∃ id ∈ identifiers response, id.label? Identifier.hostLabel = some host)) ∧
    (∀ labels, latest? (fun x => x.2.interfaces? x.1) history = some labels →
      (∀ value, value ∈ c.interface.options ↔ value ∈ labels) ∧
      (c.interface.current? = none ↔ c.interface.options = []) ∧
      (∀ value, c.interface.current? = some value → value ∈ c.interface.options)) := by
  refine ⟨ascending_of_run run, fun response h => ?_, fun labels h => ?_⟩
  · obtain ⟨hmetric, hhost⟩ := top_of_run run h
    refine ⟨?_, fun name hname => ?_, ?_, fun host hvalue => ?_⟩
    · rw [hmetric.missing, List.map_eq_nil_iff]
    · exact List.mem_map.1 (hmetric.chosen name hname)
    · rw [hhost.missing, labelValues, List.filterMap_eq_nil_iff]
    · exact List.mem_filterMap.1 (hhost.chosen host hvalue)
  · have hinterface := interface_of_run run h
    exact ⟨hinterface.options, hinterface.settled_iff, fun value hvalue =>
      (hinterface.options value).2 (hinterface.chosen value hvalue)⟩

/-- A metric is preferred that the store does not have. -/
abbrev preferringOther : System Cascade Op := told "/n" (some "q") none none

/-- The store is listed once, and then the interfaces. -/
def listedOnce : List Op :=
  [.refreshTop, .apply .top 1 oneInterface, .apply .interfaces 1 oneInterface]

/-- The store's metric and interface are chosen then. -/
theorem choices_of_run_unoffered :
    (preferringOther.after preferringOther.start listedOnce).metric.current? = some "m" ∧
    (∃ id ∈ identifiers ⟨true, none, [⟨"m\x7bhostname=h,interface=i\x7d", []⟩]⟩, id.name = "m") ∧
    (preferringOther.after preferringOther.start listedOnce).interface.current? = some "i" ∧
    "i" ∈ (preferringOther.after preferringOther.start listedOnce).interface.options := by
  have hrun := (Run.start (S := preferringOther)).extend listedOnce fun _ _ => trivial
  have hmetric :
      (preferringOther.after preferringOther.start listedOnce).metric.current? = some "m" := by
    decide
  have hinterface :
      (preferringOther.after preferringOther.start listedOnce).interface.current? = some "i" := by
    decide
  obtain ⟨-, htop, hinterfaces⟩ := choices_of_run hrun
  refine ⟨hmetric, ?_, hinterface, ?_⟩
  · exact (htop _ (by rfl)).2.1 "m" hmetric
  · exact (hinterfaces ["i"] (by decide)).2.2 "i" hinterface

end Cascade

end Meterboard
