import Meterboard.Proofs.Cascade.Scope
import Meterboard.Proofs.View.Session

/-!
# Whose data is on the chart

A query is sent for what is chosen, and its outcome replaces the series as long as no later query
was sent.  In between the user and the store may change what is chosen, and not every such change
sends a query at once.

**Subjects.**  `View.subject?` is the variable and the transform that a query would ask for now;
`View.Matches` says that a request asks for just that.

**Silent changes.**  `subject_handle` — an event that sends no query changes the subject only if it
chooses a metric or a host, or takes a listing (`View.Redirects`).  Both lead to a query only later,
by way of the interfaces.  An interface, a transform and a window send theirs at once.

**Exactness.**  `applied_matches_iff` says that the outcome of a query which is taken is for what is
chosen **if and only if** the subject is again the one the query was sent for, and that a silent
change came in between if it is not.  `superseded_reply_is_charted` is a run in which this happens:
a metric is chosen while a query for another one is on its way.
-/

namespace Meterboard.View

/-! ## Subjects -/

/-- What a query would ask for: the variable of what is chosen, and the transform. -/
def subject? (v : View) : Option (String × Transform) :=
  v.cascade.complete?.map fun choice =>
    (Cascade.variableOf choice.1 choice.2.1 choice.2.2, v.transform)

/-- The request asks for the metric, the host and the interface that are chosen, under the chosen
transform. -/
def Matches (v : View) (request : GetRequest) : Prop :=
  ∃ metric host interface, v.cascade.complete? = some (metric, host, interface) ∧
    request.name = metric ++ "\x7bhostname=" ++ host ++ ",interface=" ++ interface ++ "\x7d" ∧
    request.mutations = [⟨v.transform, none, none⟩]

/-- The event chooses a metric or a host that is offered, or brings the latest listing of a
level. -/
def Redirects (v : View) (e : Event) : Prop :=
  (∃ value ∈ v.cascade.metric.options, e = .metricSelected value) ∨
  (∃ value ∈ v.cascade.host.options, e = .hostSelected value) ∨
  ∃ level response, e = .listCompleted level (v.cascade.issued level) (.ok response)

lemma subject?_query {v : View} (now : UInt64) {metric host interface : String}
    (h : v.cascade.complete? = some (metric, host, interface)) :
    v.subject? = some ((v.query metric host interface now).name, v.transform) := by
  rw [subject?, h]
  rfl

/-- A query that was sent from one view matches another one just when their subjects agree. -/
lemma matches_query_iff {v w : View} (now : UInt64) {metric host interface : String}
    (h : w.cascade.complete? = some (metric, host, interface)) :
    v.Matches (w.query metric host interface now) ↔ v.subject? = w.subject? := by
  rw [subject?_query now h]
  constructor
  · rintro ⟨metric', host', interface', hchosen, hname, hmutations⟩
    have htransform : w.transform = v.transform := by
      have hfirst := congrArg (List.map Mutation.transform) hmutations
      simpa [query] using hfirst
    rw [subject?, hchosen, hname, htransform, ← Cascade.variableOf_eq]
    rfl
  · intro hsubject
    obtain ⟨⟨metric', host', interface'⟩, hchosen, hpair⟩ := Option.map_eq_some_iff.1 hsubject
    obtain ⟨hname, htransform⟩ := Prod.mk.inj hpair
    refine ⟨metric', host', interface', hchosen, ?_, ?_⟩
    · rw [← Cascade.variableOf_eq]
      exact hname.symm
    · show [(⟨w.transform, none, none⟩ : Mutation)] = _
      rw [htransform]

/-! ## Silent changes -/

lemma changed_transform {v : View} {e : Event} (h : ∀ transform, e ≠ .transformSelected transform) :
    (v.changed e).transform = v.transform := by
  cases e with
  | transformSelected transform => exact absurd rfl (h transform)
  | _ => simp only [changed]

/-- Two views with the same choice and the same transform have the same subject. -/
lemma subject?_congr {v w : View} (hcomplete : v.cascade.complete? = w.cascade.complete?)
    (htransform : v.transform = w.transform) : v.subject? = w.subject? := by
  rw [subject?, subject?, hcomplete, htransform]

lemma subject?_eq_none {v : View} : v.subject? = none ↔ v.cascade.complete? = none :=
  Option.map_eq_none_iff

/-- An operation that an event amounts to leaves the choice as it is, or redirects the view, or
picks an interface. -/
lemma complete?_perform {v : View} {e : Event} {op : Cascade.Op} (hop : e.op? = some op) :
    (v.cascade.perform op).1.complete? = v.cascade.complete? ∨ v.Redirects e ∨
      ∃ value ∈ v.cascade.interface.options, e = .interfaceSelected value ∧
        ((v.cascade.perform op).1.complete? = none → v.cascade.complete? = none) := by
  have hmoves := Cascade.moves_perform v.cascade op
  generalize v.cascade.perform op = moved at hmoves
  have hretarget : ∀ {d : Cascade}, v.cascade.Retargets op d → v.Redirects e := by
    intro d hd
    cases hd with
    | again => cases e <;> cases hop
    | @metric value hvalue =>
        cases e <;> cases hop
        exact .inl ⟨value, hvalue, rfl⟩
    | @host value hvalue =>
        cases e <;> cases hop
        exact .inr (.inl ⟨value, hvalue, rfl⟩)
    | @listing response =>
        obtain rfl := Event.eq_listCompleted hop
        exact .inr (.inr ⟨.top, response, rfl⟩)
  cases hmoves with
  | refused _ => exact .inl rfl
  | root => exact .inl rfl
  | asked hd _ => exact .inr (.inl (hretarget hd))
  | cleared hd _ => exact .inr (.inl (hretarget hd))
  | @picked value hvalue =>
      cases e <;> cases hop
      refine .inr (.inr ⟨value, hvalue, rfl, ?_⟩)
      intro hnone
      have hscope : v.cascade.scope? = none := by
        rw [← Option.not_isSome_iff_eq_none, Cascade.complete?_isSome] at hnone
        exact Option.not_isSome_iff_eq_none.1 fun hscope => hnone ⟨hscope, rfl⟩
      rw [← Option.not_isSome_iff_eq_none, Cascade.complete?_isSome, hscope]
      simp
  | @listed response =>
      obtain rfl := Event.eq_listCompleted hop
      exact .inr (.inl (.inr (.inr ⟨.interfaces, response, rfl⟩)))

/-- **An event that sends no query keeps the subject, or redirects the view.** -/
theorem subject_handle {v : View} {e : Event} {now : UInt64}
    (hquiet : (v.handle e now).view.getsIssued = v.getsIssued) :
    (v.handle e now).view.subject? = v.subject? ∨ v.Redirects e := by
  have hcascade := handle_cascade v e now
  have htransform := handle_transform v e now
  -- without a query, an event that fetches ends with something missing
  have hmissing : v.fetches e = true → (v.handle e now).view.cascade.complete? = none := by
    intro hfetches
    rcases handle_gets v e now with ⟨-, -, hnone | hidle⟩ | ⟨_, _, _, -, -, hsent, -⟩
    · exact hnone
    · rw [hfetches] at hidle
      cases hidle
    · omega
  cases hop : e.op? with
  | none =>
      rw [hop] at hcascade
      have hcomplete : (v.handle e now).view.cascade.complete? = v.cascade.complete? := by
        rw [hcascade]
        rfl
      refine .inl ?_
      by_cases hselects : ∃ transform, e = .transformSelected transform
      · obtain ⟨transform, rfl⟩ := hselects
        have hnone := hmissing rfl
        rw [subject?_eq_none.2 hnone, subject?_eq_none.2 (hcomplete.symm.trans hnone)]
      · have hkept := changed_transform (v := v) fun transform he => hselects ⟨transform, he⟩
        exact subject?_congr hcomplete (htransform.trans hkept)
  | some op =>
      have hcomplete : (v.handle e now).view.cascade.complete?
          = (v.cascade.perform op).1.complete? := by
        rw [hcascade, hop]
        rfl
      have hkept : (v.changed e).transform = v.transform := by
        refine changed_transform ?_
        rintro transform rfl
        cases hop
      rcases complete?_perform (v := v) hop with
        hsame | hredirects | ⟨value, hvalue, rfl, hback⟩
      · exact .inl (subject?_congr (hcomplete.trans hsame) (htransform.trans hkept))
      · exact .inr hredirects
      · have hnone := hmissing (decide_eq_true hvalue)
        refine .inl ?_
        rw [subject?_eq_none.2 hnone, subject?_eq_none.2 (hback (hcomplete.symm.trans hnone))]

/-! ## Pending queries -/

/-- A query that is pending after an input was pending before it, or was just sent. -/
lemma mem_gets_next {s : Session} {i : Input} {call : GetCall} (h : call ∈ (s.next i).gets) :
    call ∈ s.gets ∨ .get call ∈ (s.view.handle i.event i.now).effects := by
  rcases List.mem_append.1 h with hold | hnew
  · exact .inl (List.mem_filter.1 hold).1
  · exact .inr (mem_gets.1 hnew)

variable {settings : ViewSettings} {history : List (Session × Input)} {s : Session}

/-- No pending query is ahead of the counter. -/
lemma gets_numbered (run : Run (session settings) history s) :
    ∀ call ∈ s.gets, call.generation ≤ s.view.getsIssued := by
  refine run.invariant (I := fun s => ∀ call ∈ s.gets, call.generation ≤ s.view.getsIssued)
    (by simp [session]) ?_
  intro s i hnumbered _ call hcall
  have hle := getsIssued_le_handle s.view i.event i.now
  rcases mem_gets_next hcall with hold | hnew
  · exact Nat.le_trans (hnumbered call hold) hle
  · exact Nat.le_of_eq (sent_query hnew).1

/-- The latest query was sent by some input of the run, and if the subject is no longer the one it
was sent for, the view was redirected since. -/
lemma sent_of_pending (run : Run (session settings) history s) {call : GetCall}
    (hcall : call ∈ s.gets) (hlatest : call.generation = s.view.getsIssued) :
    ∃ before x after, history = before ++ x :: after ∧
      .get call ∈ (x.1.view.handle x.2.event x.2.now).effects ∧
      (s.view.subject? ≠ (x.1.next x.2).view.subject? →
        ∃ y ∈ after, y.1.view.Redirects y.2.event ∧
          (y.1.next y.2).view.subject? ≠ y.1.view.subject?) := by
  induction run with
  | start => cases hcall
  | @step history s i run allowed ih =>
      have hle := getsIssued_le_handle s.view i.event i.now
      have hlatest : call.generation = (s.view.handle i.event i.now).view.getsIssued := hlatest
      rcases mem_gets_next hcall with hold | hnew
      · have hnumbered := gets_numbered run call hold
        have hquiet : (s.view.handle i.event i.now).view.getsIssued = s.view.getsIssued := by omega
        obtain ⟨before, x, after, rfl, hsent, hchanged⟩ := ih hold (by omega)
        refine ⟨before, x, after ++ [(s, i)], by simp, hsent, ?_⟩
        intro hdiffers
        by_cases hsame : (s.next i).view.subject? = s.view.subject?
        · obtain ⟨y, hy, hredirects⟩ := hchanged fun h => hdiffers (hsame.trans h)
          exact ⟨y, List.mem_append_left _ hy, hredirects⟩
        · rcases subject_handle hquiet with hkept | hredirects
          · exact absurd hkept hsame
          · exact ⟨(s, i), by simp, hredirects, hsame⟩
      · exact ⟨history, (s, i), [], rfl, hnew, fun hdiffers => absurd rfl hdiffers⟩

/-! ## Exactness -/

lemma latest_of_applied {v : View} {generation : Nat} {response : GetResponse} {now : UInt64}
    (h : (v.handle (.getCompleted generation (.ok response)) now).effects ≠ []) :
    generation = v.getsIssued := by
  refine Decidable.byContradiction fun hstale => h ?_
  unfold handle takeGet
  simp [hstale]

/-- **Whose data is charted.**  The outcome of a pending query that is taken replaces the series.
It matches what is chosen if and only if the subject is the one that the query was sent for; if it
is not, a metric or a host was chosen since, or a listing was taken. -/
theorem applied_matches_iff (run : Run (session settings) history s) {call : GetCall}
    (hcall : call ∈ s.gets) {response : GetResponse} (now : UInt64)
    (happlied :
      (s.view.handle (.getCompleted call.generation (.ok response)) now).effects ≠ []) :
    (s.view.handle (.getCompleted call.generation (.ok response)) now).view
      = { s.view with series := response.streams.map ChartSeries.ofStream } ∧
    ∃ before x after, history = before ++ x :: after ∧
      .get call ∈ (x.1.view.handle x.2.event x.2.now).effects ∧
      (s.view.Matches call.request ↔ s.view.subject? = (x.1.next x.2).view.subject?) ∧
      (¬ s.view.Matches call.request →
        ∃ y ∈ after, y.1.view.Redirects y.2.event ∧
          (y.1.next y.2).view.subject? ≠ y.1.view.subject?) := by
  have hlatest := latest_of_applied happlied
  refine ⟨?_, ?_⟩
  · unfold handle takeGet
    simp [hlatest]
  · obtain ⟨before, x, after, rfl, hsent, hchanged⟩ := sent_of_pending run hcall hlatest
    obtain ⟨-, metric, host, interface, hcomplete, hrequest⟩ := sent_query hsent
    have hmatches : s.view.Matches call.request ↔
        s.view.subject? = (x.1.next x.2).view.subject? := by
      rw [hrequest]
      exact matches_query_iff x.2.now hcomplete
    exact ⟨before, x, after, rfl, hsent, hmatches, fun hnot => hchanged (mt hmatches.2 hnot)⟩

/-! ## A query that is superseded -/

/-- A store with two metrics. -/
def twoMetrics : Except StoreError ListResponse :=
  .ok ⟨true, none,
    [⟨"m\x7bhostname=h,interface=i\x7d", []⟩, ⟨"n\x7bhostname=h,interface=i\x7d", []⟩]⟩

/-- The other metric is chosen while the query for the first one is on its way. -/
def superseded : List Input :=
  [.tell .start 0, .tell (.listCompleted .top 1 twoMetrics) 0,
    .tell (.listCompleted .interfaces 1 twoMetrics) 0, .tell (.metricSelected "n") 0]

/-- The query that is on its way. -/
def supersededCall : GetCall :=
  ⟨1, ⟨"m\x7bhostname=h,interface=i\x7d", some 0, none, [⟨.rate, none, none⟩],
    some defaultMaxVariables, none⟩⟩

/-- Its outcome. -/
def supersededResponse : GetResponse :=
  ⟨true, none, [⟨"m\x7bhostname=h,interface=i\x7d", []⟩]⟩

lemma run_superseded :
    Run plainSession (plainSession.trace plainSession.start superseded)
      (plainSession.after plainSession.start superseded) :=
  Run.start.extend superseded (by decide)

lemma superseded_not_matches :
    ¬ (plainSession.after plainSession.start superseded).view.Matches supersededCall.request := by
  rintro ⟨metric, host, interface, hchosen, hname, -⟩
  have hcomplete : (plainSession.after plainSession.start superseded).view.cascade.complete?
      = some ("n", "h", "i") := by decide
  obtain ⟨rfl, rfl, rfl⟩ : "n" = metric ∧ "h" = host ∧ "i" = interface := by
    simpa [hcomplete] using hchosen
  exact absurd hname (by decide)

/-- The query that is on its way does not match, for the view was redirected since. -/
theorem applied_matches_iff_superseded :
    supersededCall ∈ (plainSession.after plainSession.start superseded).gets ∧
    ((plainSession.after plainSession.start superseded).view.handle
      (.getCompleted supersededCall.generation (.ok supersededResponse)) 0).effects ≠ [] ∧
    ∃ y ∈ plainSession.trace plainSession.start superseded,
      y.1.view.Redirects y.2.event ∧ (y.1.next y.2).view.subject? ≠ y.1.view.subject? := by
  have hcall : supersededCall ∈ (plainSession.after plainSession.start superseded).gets := by
    decide
  have happlied : ((plainSession.after plainSession.start superseded).view.handle
      (.getCompleted supersededCall.generation (.ok supersededResponse)) 0).effects ≠ [] := by
    decide
  obtain ⟨-, before, x, after, hhistory, -, -, hredirected⟩ :=
    applied_matches_iff run_superseded hcall 0 happlied
  obtain ⟨y, hy, hredirects⟩ := hredirected superseded_not_matches
  refine ⟨hcall, happlied, y, ?_, hredirects⟩
  rw [hhistory]
  exact List.mem_append_right _ (List.mem_cons_of_mem _ hy)

/-- **A superseded reply can be charted.**  One metric is chosen, and the outcome of the query for
another one replaces the series. -/
theorem superseded_reply_is_charted :
    ∃ history s call response, Run plainSession history s ∧ call ∈ s.gets ∧
      s.view.cascade.complete? = some ("n", "h", "i") ∧
      call.request.name = "m\x7bhostname=h,interface=i\x7d" ∧
      ((s.view.handle (.getCompleted call.generation (.ok response)) 0).view.series.map
        ChartSeries.label) = ["m\x7bhostname=h,interface=i\x7d"] ∧
      ¬ s.view.Matches call.request :=
  ⟨_, _, supersededCall, supersededResponse, run_superseded, by decide, by decide, rfl, by decide,
    superseded_not_matches⟩

end Meterboard.View
