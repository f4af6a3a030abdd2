import Meterboard.Proofs.Cascade.Traffic
import Meterboard.Proofs.Identifier

/-!
# Names that a variable can carry

The text of a variable has no escapes.  A metric with an opening brace, or a host or an interface
with a comma, would ask the store for something else than what is chosen.

* `MetricName`, `LabelValue` — what a variable can carry.
* `Cascade.Askable` — everything on offer, and everything chosen, can be carried.
* `askable_perform` — no operation loses that: whatever is offered was read out of a variable, and
  what was read survives (`Identifier.survives_of_parse?`).  Only a preference can bring a bad name.
* `parse?_variableOf` — a variable made of such names is read back as just those names.
-/

namespace Meterboard

/-- A text that can stand before the labels of a variable. -/
def MetricName (name : String) : Prop := name ≠ "" ∧ '\x7b' ∉ name.toList

/-- A text that can stand as the value of a label. -/
def LabelValue (value : String) : Prop := ',' ∉ value.toList

instance (name : String) : Decidable (MetricName name) := inferInstanceAs (Decidable (_ ∧ _))

instance (value : String) : Decidable (LabelValue value) := inferInstanceAs (Decidable (¬ _))

/-! ## Selections -/

/-- Everything on offer and everything chosen is of one sort. -/
structure Selection.Only (P : String → Prop) (s : Selection) : Prop where
  offered : ∀ value ∈ s.options, P value
  chosen : ∀ value, s.current? = some value → P value

namespace Selection

variable {P : String → Prop}

lemma only_preferring {value? : Option String} (h : ∀ value, value? = some value → P value) :
    (preferring value?).Only P where
  offered := by simp [preferring]
  chosen := h

lemma only_clear (s : Selection) : s.clear.Only P where
  offered := by simp [clear]
  chosen := by simp [clear]

lemma only_replace {s : Selection} {offered : List String} (h : ∀ value ∈ offered, P value) :
    (s.replace offered).Only P where
  offered := by simpa using h
  chosen := fun _ hvalue => h _ (mem_of_replace hvalue)

lemma Only.pick {s : Selection} (h : s.Only P) {value : String} (hvalue : value ∈ s.options) :
    Only P ⟨s.options, some value⟩ where
  offered := h.offered
  chosen := by
    rintro _ ⟨⟩
    exact h.offered _ hvalue

end Selection

/-! ## Cascades -/

namespace Cascade

/-- Everything that is offered or chosen can be carried by a variable. -/
structure Askable (c : Cascade) : Prop where
  metric : c.metric.Only MetricName
  host : c.host.Only LabelValue
  interface : c.interface.Only LabelValue

lemma askable_start {root : String} {metric? host? interface? : Option String}
    (hmetric : ∀ value, metric? = some value → MetricName value)
    (hhost : ∀ value, host? = some value → LabelValue value)
    (hinterface : ∀ value, interface? = some value → LabelValue value) :
    (start root metric? host? interface?).Askable where
  metric := Selection.only_preferring hmetric
  host := Selection.only_preferring hhost
  interface := Selection.only_preferring hinterface

/-- What a listing names was read, so it can be written again. -/
lemma survives_of_mem {response : ListResponse} {id : Identifier}
    (h : id ∈ identifiers response) : id.Survives := by
  obtain ⟨stream, -, hparse⟩ := List.mem_filterMap.1 h
  exact Identifier.survives_of_parse? hparse

lemma metricName_of_mem {response : ListResponse} {name : String}
    (h : name ∈ (identifiers response).map Identifier.name) : MetricName name := by
  obtain ⟨id, hid, rfl⟩ := List.mem_map.1 h
  exact ⟨(survives_of_mem hid).named, (survives_of_mem hid).name⟩

lemma labelValue_of_mem {response : ListResponse} {key value : String}
    (h : value ∈ labelValues key (identifiers response)) : LabelValue value := by
  obtain ⟨id, hid, hlabel⟩ := List.mem_filterMap.1 h
  exact (survives_of_mem hid).label? hlabel

lemma Askable.retarget {c d : Cascade} {op : Op} (h : c.Askable) (hd : c.Retargets op d) :
    d.Askable := by
  cases hd with
  | again => exact h
  | metric hvalue => exact ⟨h.metric.pick hvalue, h.host, h.interface⟩
  | host hvalue => exact ⟨h.metric, h.host.pick hvalue, h.interface⟩
  | listing =>
      exact ⟨Selection.only_replace fun _ => metricName_of_mem,
        Selection.only_replace fun _ => labelValue_of_mem, h.interface⟩

/-- **No operation brings a name that cannot be asked for**, not even an outcome that nobody asked
for. -/
theorem askable_perform {c : Cascade} (h : c.Askable) (op : Op) : (c.perform op).1.Askable := by
  have hmoves := moves_perform c op
  generalize c.perform op = moved at hmoves
  cases hmoves with
  | refused _ => exact h
  | root => exact ⟨h.metric, h.host, h.interface⟩
  | asked hd _ =>
      have hretarget := h.retarget hd
      exact ⟨hretarget.metric, hretarget.host, hretarget.interface⟩
  | @cleared _ d hd _ =>
      have hretarget := h.retarget hd
      exact ⟨hretarget.metric, hretarget.host, Selection.only_clear d.interface⟩
  | picked hvalue => exact ⟨h.metric, h.host, h.interface.pick hvalue⟩
  | listed =>
      exact ⟨h.metric, h.host, Selection.only_replace fun _ => labelValue_of_mem⟩

/-- A variable of such names is read back as the metric with the two labels, and no other. -/
theorem parse?_variableOf {metric host interface : String} (hmetric : MetricName metric)
    (hhost : LabelValue host) (hinterface : LabelValue interface) :
    ∃ id, Identifier.parse? (variableOf metric host interface) = some id ∧ id.name = metric ∧
      id.labels.entries
        = [(Identifier.hostLabel, host), (Identifier.interfaceLabel, interface)] := by
  have hlabels := labels_variable metric host interface
  refine ⟨_, Identifier.parse?_text ⟨hmetric.1, hmetric.2, ?_, ?_⟩, rfl, hlabels⟩
  · rw [hlabels]
    simp
  · rw [hlabels]
    intro e he
    have hkeys : ',' ∉ Identifier.hostLabel.toList ∧ '=' ∉ Identifier.hostLabel.toList ∧
        ',' ∉ Identifier.interfaceLabel.toList ∧ '=' ∉ Identifier.interfaceLabel.toList := by
      decide
    simp only [List.mem_cons, List.not_mem_nil, or_false] at he
    rcases he with rfl | rfl
    · exact ⟨hkeys.1, hkeys.2.1, hhost⟩
    · exact ⟨hkeys.2.2.1, hkeys.2.2.2, hinterface⟩

/-- What is chosen in an askable cascade is asked for exactly. -/
lemma Askable.parse? {c : Cascade} (h : c.Askable) {metric host interface : String}
    (hcomplete : c.complete? = some (metric, host, interface)) :
    ∃ id, Identifier.parse? (variableOf metric host interface) = some id ∧ id.name = metric ∧
      id.labels.entries
        = [(Identifier.hostLabel, host), (Identifier.interfaceLabel, interface)] := by
  obtain ⟨hmetric, hhost, hinterface⟩ := complete?_eq_some.1 hcomplete
  exact parse?_variableOf (h.metric.chosen _ hmetric) (h.host.chosen _ hhost)
    (h.interface.chosen _ hinterface)

end Cascade

end Meterboard
