import Meterboard.Cascade
import Meterboard.Proofs.Run

/-!
# The cascade and the listings on their way

A cascade hands out listings and is told their outcomes by a store that answers when it likes, in
any order or not at all.  This file puts the cascade together with the listings that nobody has
answered yet, lets the surroundings do whatever they may, and keeps the invariants that the
statements about selections rest on.

**Operations.**  `Cascade.Op` is one thing that is done to a cascade, `Cascade.perform` does it, and
`Cascade.traffic` is the system of all cascades that start from some preferences.  The outcome of a
listing arrives only for a call that is pending, and closes it.

**What an operation can do.**  `Cascade.Moves` lists it case by case: nothing, a listing of the
root, metric and host settled anew (`Cascade.Retargets`) with interfaces asked for or cleared, an
interface picked, interfaces listed.  `moves_perform` says that this is all, and every invariant
below is a case analysis on it.

**Invariants.**  `Traffic.Sound` says that no pending call is ahead of its level's counter, and that
the latest listing of interfaces was asked for the metric and host that are chosen now, if both
are.  `sound_of_run` is that it holds of every run.
-/

namespace Meterboard.Cascade

/-! ## Patterns -/

/-- The labels of a variable: host, then interface. -/
lemma labels_variable (metric host interface : String) :
    (((Identifier.ofName metric).withLabel Identifier.hostLabel host).withLabel
        Identifier.interfaceLabel interface).labels.entries
      = [(Identifier.hostLabel, host), (Identifier.interfaceLabel, interface)] := by
  simp only [Identifier.withLabel, Identifier.ofName, Labels.insert, Labels.empty,
    Labels.insertEntry, Identifier.interfaceLabel, Identifier.hostLabel]
  rw [if_neg (by decide), if_pos (by decide)]

/-- A variable as text: the metric, then host and interface as labels. -/
lemma variableOf_eq (metric host interface : String) :
    variableOf metric host interface
      = metric ++ "\x7bhostname=" ++ host ++ ",interface=" ++ interface ++ "\x7d" := by
  apply String.toList_inj.1
  simp only [variableOf, Identifier.text, Identifier.chars, labels_variable]
  simp [Identifier.entriesText, Identifier.withLabel, Identifier.ofName, Identifier.hostLabel,
    Identifier.interfaceLabel]

/-- The pattern of the interfaces of a metric on a host, as text. -/
lemma interfacesPattern_eq (metric host : String) :
    interfacesPattern metric host
      = metric ++ "\x7bhostname=" ++ host ++ ",interface=*\x7d" := by
  rw [interfacesPattern, variableOf_eq]
  simp [anyValue, String.append_assoc]

/-! ## Operations -/

/-- What is done to a cascade. -/
inductive Op where
  | refreshTop
  | refreshInterfaces
  | chooseMetric (value : String)
  | chooseHost (value : String)
  | chooseInterface (value : String)
  /-- The outcome of a listing arrives. -/
  | apply (level : Level) (generation : Nat) (result : Except StoreError ListResponse)

/-- The listing that an outcome asks for. -/
def Outcome.call? : Outcome → Option ListCall
  | .topReady call => some call
  | _ => none

/-- Do something to a cascade; the listing that it leads to is handed out. -/
def perform (c : Cascade) : Op → Cascade × Option ListCall
  | .refreshTop => (c.refreshTop.1, some c.refreshTop.2)
  | .refreshInterfaces => c.refreshInterfaces
  | .chooseMetric value => c.chooseMetric value
  | .chooseHost value => c.chooseHost value
  | .chooseInterface value => ((c.chooseInterface? value).getD c, none)
  | .apply level generation result =>
      ((c.apply level generation result).cascade, (c.apply level generation result).outcome.call?)

/-- The operation is the outcome of the call. -/
def Op.answers : Op → ListCall → Bool
  | .apply level generation _, call => call.level = level ∧ call.generation = generation
  | _, _ => false

/-- A cascade, and the listings it handed out that nobody has answered. -/
structure Traffic where
  cascade : Cascade
  pending : List ListCall

namespace Traffic

/-- An outcome arrives only for a call that is pending. -/
def allows (t : Traffic) : Op → Prop
  | .apply level generation result =>
      ∃ call ∈ t.pending, (Op.apply level generation result).answers call = true
  | _ => True

instance (t : Traffic) (op : Op) : Decidable (t.allows op) := by
  cases op <;> unfold allows <;> infer_instance

/-- The traffic after an operation: an answered call is pending no more. -/
def next (t : Traffic) (op : Op) : Traffic :=
  ⟨(t.cascade.perform op).1,
    t.pending.filter (!op.answers ·) ++ (t.cascade.perform op).2.toList⟩

end Traffic

/-- All that can happen to a cascade that starts from some preferences. -/
def traffic (root : String) (metric? host? interface? : Option String) : System Traffic Op :=
  ⟨⟨.start root metric? host? interface?, []⟩, Traffic.allows, Traffic.next⟩

instance (root : String) (metric? host? interface? : Option String) (t : Traffic) (op : Op) :
    Decidable ((traffic root metric? host? interface?).allows t op) :=
  inferInstanceAs (Decidable (t.allows op))

/-! ## What an operation can do -/

/-- The metric and the host that interfaces are asked for. -/
def scope? (c : Cascade) : Option (String × String) := do
  return (← c.metric.current?, ← c.host.current?)

lemma scope?_eq_some {c : Cascade} {scope : String × String} :
    c.scope? = some scope ↔
      c.metric.current? = some scope.1 ∧ c.host.current? = some scope.2 := by
  cases hm : c.metric.current? <;> cases hh : c.host.current? <;>
    simp [scope?, hm, hh, Prod.ext_iff]

lemma scope?_eq_none {c : Cascade} :
    c.scope? = none ↔ c.metric.current? = none ∨ c.host.current? = none := by
  cases hm : c.metric.current? <;> cases hh : c.host.current? <;> simp [scope?, hm, hh]

lemma complete?_eq_some {c : Cascade} {metric host interface : String} :
    c.complete? = some (metric, host, interface) ↔
      c.metric.current? = some metric ∧ c.host.current? = some host ∧
        c.interface.current? = some interface := by
  cases hm : c.metric.current? <;> cases hh : c.host.current? <;>
    cases hi : c.interface.current? <;> simp [complete?, hm, hh, hi]

lemma scope?_isSome {c : Cascade} :
    c.scope?.isSome ↔ c.metric.current?.isSome ∧ c.host.current?.isSome := by
  cases hm : c.metric.current? <;> cases hh : c.host.current? <;> simp [scope?, hm, hh]

/-- Everything is chosen where metric and host are, and an interface is. -/
lemma complete?_isSome {c : Cascade} :
    c.complete?.isSome ↔ c.scope?.isSome ∧ c.interface.current?.isSome := by
  cases hm : c.metric.current? <;> cases hh : c.host.current? <;>
    cases hi : c.interface.current? <;> simp [complete?, scope?, hm, hh, hi]

/-- The listing asks for the interfaces of a metric on a host. -/
def AsksFor (call : ListCall) (scope : String × String) : Prop :=
  call.request = .ofPattern (interfacesPattern scope.1 scope.2)

/-- The operation is refused: what is chosen is not offered, or an outcome is stale or a failure. -/
def Refuses (c : Cascade) : Op → Prop
  | .chooseMetric value => value ∉ c.metric.options
  | .chooseHost value => value ∉ c.host.options
  | .chooseInterface value => value ∉ c.interface.options
  | .apply level generation result => generation ≠ c.issued level ∨ ∃ e, result = .error e
  | _ => False

/-- The operation settles metric and host anew, as in the second cascade, before interfaces are
asked for. -/
inductive Retargets (c : Cascade) : Op → Cascade → Prop
  | again : Retargets c .refreshInterfaces c
  | metric {value : String} : value ∈ c.metric.options →
      Retargets c (.chooseMetric value) { c with metric := ⟨c.metric.options, some value⟩ }
  | host {value : String} : value ∈ c.host.options →
      Retargets c (.chooseHost value) { c with host := ⟨c.host.options, some value⟩ }
  | listing {response : ListResponse} :
      Retargets c (.apply .top c.topIssued (.ok response))
        { c with
          metric := c.metric.replace ((identifiers response).map Identifier.name)
          host := c.host.replace (labelValues Identifier.hostLabel (identifiers response)) }

/-- Everything an operation can do: the cascade after it, and the listing it hands out. -/
inductive Moves (c : Cascade) : Op → Cascade × Option ListCall → Prop
  | refused {op : Op} : c.Refuses op → Moves c op (c, none)
  | root : Moves c .refreshTop
      ({ c with topIssued := c.topIssued + 1 },
        some ⟨.top, c.topIssued + 1, .ofPattern c.topPattern⟩)
  | asked {op : Op} {d : Cascade} {scope : String × String} : c.Retargets op d →
      d.scope? = some scope →
      Moves c op ({ d with interfacesIssued := d.interfacesIssued + 1 },
        some ⟨.interfaces, d.interfacesIssued + 1,
          .ofPattern (interfacesPattern scope.1 scope.2)⟩)
  | cleared {op : Op} {d : Cascade} : c.Retargets op d → d.scope? = none →
      Moves c op ({ d with interface := d.interface.clear }, none)
  | picked {value : String} : value ∈ c.interface.options →
      Moves c (.chooseInterface value)
        ({ c with interface := ⟨c.interface.options, some value⟩ }, none)
  | listed {response : ListResponse} :
      Moves c (.apply .interfaces c.interfacesIssued (.ok response))
        ({ c with
            interface :=
              c.interface.replace (labelValues Identifier.interfaceLabel (identifiers response)) },
          none)

lemma refreshInterfaces_of_some {c : Cascade} {scope : String × String}
    (h : c.scope? = some scope) :
    c.refreshInterfaces
      = ({ c with interfacesIssued := c.interfacesIssued + 1 },
          some ⟨.interfaces, c.interfacesIssued + 1,
            .ofPattern (interfacesPattern scope.1 scope.2)⟩) := by
  cases hm : c.metric.current? with
  | none => simp [scope?, hm] at h
  | some metric =>
      cases hh : c.host.current? with
      | none => simp [scope?, hm, hh] at h
      | some host =>
          obtain rfl : (metric, host) = scope := by simpa [scope?, hm, hh] using h
          simp [refreshInterfaces, hm, hh]

lemma refreshInterfaces_of_none {c : Cascade} (h : c.scope? = none) :
    c.refreshInterfaces = ({ c with interface := c.interface.clear }, none) := by
  cases hm : c.metric.current? with
  | none => simp [refreshInterfaces, hm]
  | some metric =>
      cases hh : c.host.current? with
      | none => simp [refreshInterfaces, hm, hh]
      | some host => simp [scope?, hm, hh] at h

/-- Asking for interfaces hands out a listing if metric and host are both chosen, and clears the
level if not. -/
lemma moves_of_retargets {c d : Cascade} {op : Op} (h : c.Retargets op d) :
    Moves c op d.refreshInterfaces := by
  cases hs : d.scope? with
  | none => exact refreshInterfaces_of_none hs ▸ .cleared h hs
  | some scope => exact refreshInterfaces_of_some hs ▸ .asked h hs

/-- The outcome of a top-level listing hands out what the cascade then asks for. -/
lemma takeTop_eq (c : Cascade) (ids : List Identifier) :
    ((c.takeTop ids).1, (c.takeTop ids).2.call?)
      = { c with
          metric := c.metric.replace (ids.map Identifier.name)
          host := c.host.replace (labelValues Identifier.hostLabel ids) }.refreshInterfaces := by
  unfold takeTop
  dsimp only
  split <;> rename_i h <;> simp [h, Outcome.call?]

/-- An operation does nothing but what `Moves` lists. -/
theorem moves_perform (c : Cascade) (op : Op) : c.Moves op (c.perform op) := by
  cases op with
  | refreshTop => exact .root
  | refreshInterfaces => exact moves_of_retargets .again
  | chooseMetric value =>
      by_cases h : value ∈ c.metric.options
      · simpa [perform, chooseMetric, Selection.choose?, h] using moves_of_retargets (.metric h)
      · have hrefused : c.Moves (.chooseMetric value) (c, none) := .refused h
        simpa [perform, chooseMetric, Selection.choose?, h] using hrefused
  | chooseHost value =>
      by_cases h : value ∈ c.host.options
      · simpa [perform, chooseHost, Selection.choose?, h] using moves_of_retargets (.host h)
      · have hrefused : c.Moves (.chooseHost value) (c, none) := .refused h
        simpa [perform, chooseHost, Selection.choose?, h] using hrefused
  | chooseInterface value =>
      by_cases h : value ∈ c.interface.options
      · simpa [perform, chooseInterface?, Selection.choose?, h] using Moves.picked (c := c) h
      · have hrefused : c.Moves (.chooseInterface value) (c, none) := .refused h
        simpa [perform, chooseInterface?, Selection.choose?, h] using hrefused
  | apply level generation result =>
      by_cases hg : generation = c.issued level
      · subst hg
        cases result with
        | error e =>
            have hrefused : c.Moves (.apply level (c.issued level) (.error e)) (c, none) :=
              .refused (.inr ⟨e, rfl⟩)
            simpa [perform, apply, Outcome.call?] using hrefused
        | ok response =>
            cases level with
            | top =>
                have hlisting : c.Retargets (.apply .top c.topIssued (.ok response)) _ := .listing
                have hmoves := moves_of_retargets hlisting
                rw [← takeTop_eq] at hmoves
                simpa [perform, apply, issued] using hmoves
            | interfaces =>
                have hcall : (c.takeInterfaces (identifiers response)).2.call? = none := by
                  unfold takeInterfaces
                  dsimp only
                  split <;> rfl
                have hperform : c.perform (.apply .interfaces c.interfacesIssued (.ok response))
                    = ((c.takeInterfaces (identifiers response)).1, none) := by
                  simp [perform, apply, issued, hcall]
                exact hperform ▸ .listed
      · have hrefused : c.Moves (.apply level generation result) (c, none) := .refused (.inl hg)
        simpa [perform, apply, hg, Outcome.call?] using hrefused

/-- Settling metric and host anew touches nothing else. -/
lemma Retargets.frame {c d : Cascade} {op : Op} (h : c.Retargets op d) :
    d.root = c.root ∧ d.interface = c.interface ∧ d.topIssued = c.topIssued ∧
      d.interfacesIssued = c.interfacesIssued := by
  cases h <;> exact ⟨rfl, rfl, rfl, rfl⟩

/-! ## Invariants -/

/-- What holds of a cascade and the listings on their way, whatever happens. -/
structure Traffic.Sound (t : Traffic) : Prop where
  /-- No pending call is ahead of the counter of its level. -/
  numbered : ∀ call ∈ t.pending, call.generation ≤ t.cascade.issued call.level
  /-- The latest listing of interfaces is for the metric and host that are chosen. -/
  inScope : ∀ call ∈ t.pending, call.level = .interfaces →
    call.generation = t.cascade.interfacesIssued →
      ∀ scope, t.cascade.scope? = some scope → AsksFor call scope
  metric : t.cascade.metric.Settled
  host : t.cascade.host.Settled
  interface : t.cascade.interface.Settled

lemma Traffic.sound_start (root : String) (metric? host? interface? : Option String) :
    (traffic root metric? host? interface?).start.Sound where
  numbered := by simp [traffic]
  inScope := by simp [traffic]
  metric := Selection.settled_preferring metric?
  host := Selection.settled_preferring host?
  interface := Selection.settled_preferring interface?

/-- A call that is pending after an operation was pending before it, or was just handed out. -/
lemma Traffic.mem_pending_next {t : Traffic} {op : Op} {call : ListCall}
    (h : call ∈ (t.next op).pending) :
    call ∈ t.pending ∨ (t.cascade.perform op).2 = some call := by
  rcases List.mem_append.1 h with h | h
  · exact .inl ((List.mem_filter.1 h).1)
  · exact .inr (Option.mem_toList.1 h)

/-- Counters never go back. -/
lemma issued_le_perform (c : Cascade) (op : Op) (level : Level) :
    c.issued level ≤ (c.perform op).1.issued level := by
  have hmoves := moves_perform c op
  generalize c.perform op = moved at hmoves
  cases hmoves with
  | refused _ => exact Nat.le_refl _
  | root => cases level <;> simp [issued]
  | asked h _ => obtain ⟨-, -, ht, hi⟩ := h.frame; cases level <;> simp [issued, ht, hi]
  | cleared h _ => obtain ⟨-, -, ht, hi⟩ := h.frame; cases level <;> simp [issued, ht, hi]
  | picked _ => cases level <;> exact Nat.le_refl _
  | listed => cases level <;> exact Nat.le_refl _

/-- A listing that is handed out carries the new count of its level; one of interfaces is for the
metric and host that are chosen with it. -/
lemma perform_call {c : Cascade} {op : Op} {call : ListCall}
    (h : (c.perform op).2 = some call) :
    call.generation = (c.perform op).1.issued call.level ∧
      c.issued call.level < call.generation ∧
      (call.level = .interfaces →
        ∃ scope, (c.perform op).1.scope? = some scope ∧ AsksFor call scope) := by
  have hmoves := moves_perform c op
  generalize c.perform op = moved at h hmoves
  cases hmoves with
  | refused _ => cases h
  | root =>
      obtain rfl := Option.some.inj h
      exact ⟨rfl, Nat.lt_succ_self _, fun hl => nomatch hl⟩
  | @asked _ d scope hd hscope =>
      obtain rfl := Option.some.inj h
      obtain ⟨-, -, -, hi⟩ := hd.frame
      exact ⟨rfl, by simp [issued, hi], fun _ => ⟨scope, hscope, rfl⟩⟩
  | cleared _ _ => cases h
  | picked _ => cases h
  | listed => cases h

/-- While no listing of interfaces is handed out, metric and host stay as they are, or one of them
is not chosen afterwards. -/
lemma scope_of_no_listing {c : Cascade} {op : Op} {scope : String × String}
    (hquiet : (c.perform op).1.interfacesIssued = c.interfacesIssued)
    (h : (c.perform op).1.scope? = some scope) : c.scope? = some scope := by
  have hmoves := moves_perform c op
  generalize c.perform op = moved at h hquiet hmoves
  cases hmoves with
  | refused _ => exact h
  | root => exact h
  | asked hd _ => obtain ⟨-, -, -, hi⟩ := hd.frame; simp [hi] at hquiet
  | cleared _ hnone => exact absurd (hnone.symm.trans h) (by simp)
  | picked _ => exact h
  | listed => exact h

/-- What new options, clearing and picking an option keep of a selection, every operation keeps of
all three. -/
lemma selections_perform {P : Selection → Prop}
    (hreplace : ∀ (s : Selection) (offered : List String), P (s.replace offered))
    (hclear : ∀ s : Selection, P s.clear)
    (hpick : ∀ (s : Selection) (value : String), P s → P ⟨s.options, some value⟩)
    {c : Cascade} (op : Op) (h : P c.metric ∧ P c.host ∧ P c.interface) :
    P (c.perform op).1.metric ∧ P (c.perform op).1.host ∧ P (c.perform op).1.interface := by
  have hmoves := moves_perform c op
  generalize c.perform op = moved at hmoves
  obtain ⟨hm, hh, hi⟩ := h
  have hretarget : ∀ {d : Cascade}, c.Retargets op d → P d.metric ∧ P d.host := by
    intro d hd
    cases hd with
    | again => exact ⟨hm, hh⟩
    | metric _ => exact ⟨hpick _ _ hm, hh⟩
    | host _ => exact ⟨hm, hpick _ _ hh⟩
    | listing => exact ⟨hreplace _ _, hreplace _ _⟩
  cases hmoves with
  | refused _ => exact ⟨hm, hh, hi⟩
  | root => exact ⟨hm, hh, hi⟩
  | asked hd _ =>
      obtain ⟨-, hsame, -, -⟩ := hd.frame
      exact ⟨(hretarget hd).1, (hretarget hd).2, hsame ▸ hi⟩
  | @cleared _ d hd _ => exact ⟨(hretarget hd).1, (hretarget hd).2, hclear d.interface⟩
  | picked _ => exact ⟨hm, hh, hpick _ _ hi⟩
  | listed => exact ⟨hm, hh, hreplace _ _⟩

/-- Every operation leaves nothing on offer in a selection without a choice. -/
lemma settled_perform {c : Cascade} (op : Op)
    (h : c.metric.Settled ∧ c.host.Settled ∧ c.interface.Settled) :
    (c.perform op).1.metric.Settled ∧ (c.perform op).1.host.Settled ∧
      (c.perform op).1.interface.Settled :=
  selections_perform Selection.settled_replace Selection.settled_clear
    (fun s value _ => Selection.settled_some s.options value) op h

/-- The invariants survive every operation.  A listing of interfaces stays the latest only while no
other one is handed out, and as long as none is, `scope_of_no_listing` keeps its scope. -/
theorem Traffic.sound_next {t : Traffic} (h : t.Sound) (op : Op) : (t.next op).Sound := by
  obtain ⟨hm, hh, hi⟩ := settled_perform op ⟨h.metric, h.host, h.interface⟩
  refine ⟨fun call hcall => ?_, fun call hcall hlevel hlatest scope hscope => ?_, hm, hh, hi⟩
  · rcases mem_pending_next hcall with hold | hnew
    · exact Nat.le_trans (h.numbered call hold) (issued_le_perform _ _ _)
    · exact Nat.le_of_eq (perform_call hnew).1
  · rcases mem_pending_next hcall with hold | hnew
    · have hle := h.numbered call hold
      have hmono := issued_le_perform t.cascade op .interfaces
      simp only [hlevel, issued] at hle hmono
      have hlatest : call.generation = (t.cascade.perform op).1.interfacesIssued := hlatest
      have hquiet : (t.cascade.perform op).1.interfacesIssued = t.cascade.interfacesIssued := by
        omega
      exact h.inScope call hold hlevel (by omega) scope (scope_of_no_listing hquiet hscope)
    · obtain ⟨asked, hasked, hfor⟩ := (perform_call hnew).2.2 hlevel
      obtain rfl : asked = scope := Option.some.inj (hasked.symm.trans hscope)
      exact hfor

/-- **The invariants hold of every run**, in whatever order the user, the root listings and the
listings of interfaces come. -/
theorem sound_of_run {root : String} {metric? host? interface? : Option String}
    {history : List (Traffic × Op)} {t : Traffic}
    (run : Run (traffic root metric? host? interface?) history t) : t.Sound :=
  run.invariant (Traffic.sound_start root metric? host? interface?)
    fun _ op h _ => Traffic.sound_next h op

end Meterboard.Cascade
