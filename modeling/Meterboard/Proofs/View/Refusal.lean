import Meterboard.Proofs.View.Stale

/-!
# What a view refuses

A listing or a query can fail, a typed window can be no window, a window can be too long to double,
and a value can be chosen that is not on offer.  In each of these cases `View.handle` has looked at
parts of the view that it writes when all goes well.

* `View.refusal?` — the table of these cases, each with all the effects that it has.
* `handle_of_refusal` — a refused event leaves the whole view as it was and has just these effects.
* `handle_notices` — the user is told what the table says, and nothing else.
* `play_accepted` — over several events: without the refused ones the view ends up the same, and the
  same calls are sent on the way.
-/

namespace Meterboard

/-! ## Texts that are no window -/

namespace Window

/-- A text reads as a window when it reads as a positive number of seconds, exactly or by its
leading integer. -/
def reads (s : String) : Bool := (Duration.read s).seconds?.any (0 < ·)

lemma ofText_of_reads {s : String} (h : reads s = true) :
    ∃ accepted, ofText s = .ok accepted := by
  unfold ofText
  unfold reads at h
  cases hread : Duration.read s with
  | exact n =>
      have hpos : 0 < n := by simpa [hread, Duration.Reading.seconds?] using h
      exact ⟨⟨n, []⟩, by simp [hpos]⟩
  | lenient n =>
      have hpos : 0 < n := by simpa [hread, Duration.Reading.seconds?] using h
      exact ⟨_, by simp [hpos]; rfl⟩
  | unreadable => simp [hread, Duration.Reading.seconds?] at h

lemma ofText_of_not_reads {s : String} (h : reads s = false) : ofText s = .error ⟨s⟩ := by
  unfold ofText
  unfold reads at h
  cases hread : Duration.read s with
  | exact n =>
      have hpos : ¬ 0 < n := by simpa [hread, Duration.Reading.seconds?] using h
      simp [hpos]
  | lenient n =>
      have hpos : ¬ 0 < n := by simpa [hread, Duration.Reading.seconds?] using h
      simp [hpos]
  | unreadable => rfl

end Window

/-- Only the latest call of a level can have failed. -/
lemma Cascade.failed_of_outcome {c : Cascade} {level : Level} {generation : Nat}
    {result : Except StoreError ListResponse} {message : String}
    (h : (c.apply level generation result).outcome = .failed message) :
    generation = c.issued level ∧ ∃ e, result = .error e := by
  by_cases hlatest : generation = c.issued level
  · refine ⟨hlatest, ?_⟩
    cases result with
    | error e => exact ⟨e, rfl⟩
    | ok response =>
        simp only [apply, hlatest, ne_eq, not_true, if_false] at h
        cases level with
        | top =>
            unfold takeTop at h
            dsimp only at h
            split at h <;> cases h
        | interfaces =>
            unfold takeInterfaces at h
            dsimp only at h
            split at h <;> cases h
  · simp [apply, hlatest] at h

namespace View

/-! ## The table -/

/-- All effects of an event that fails or is refused; nothing for any other event. -/
def refusal? (v : View) : Event → Option (List Effect)
  | .metricSelected value =>
      if value ∈ v.cascade.metric.options then none else some [.render]
  | .hostSelected value =>
      if value ∈ v.cascade.host.options then none else some [.render]
  | .interfaceSelected value =>
      if value ∈ v.cascade.interface.options then none else some []
  | .windowDoubled =>
      if 2 * Window.displayed v.window ≤ Duration.limit then none
      else some [.notice longestWindow]
  | .windowEntered text =>
      if Window.reads (Text.trim text) then none
      else some [.notice (Window.Refusal.message ⟨Text.trim text⟩)]
  | .listCompleted level generation (.error e) =>
      if generation = v.cascade.issued level then some [.notice e.userMessage] else none
  | .getCompleted generation (.error e) =>
      if generation = v.getsIssued then some [.notice e.userMessage, .armRefetch refetchDelay]
      else none
  | _ => none

/-! ## One event -/

/-- An event that fails or is refused changes nothing and has the effects of the table. -/
lemma handle_of_refusal {v : View} {e : Event} {es : List Effect} (h : v.refusal? e = some es)
    (now : UInt64) : (v.handle e now).view = v ∧ (v.handle e now).effects = es := by
  cases e with
  | metricSelected value =>
      obtain ⟨hvalue, rfl⟩ : value ∉ v.cascade.metric.options ∧ [.render] = es := by
        simpa [refusal?] using h
      unfold handle
      simp [Cascade.chooseMetric, Selection.choose?, hvalue, afterChoice]
  | hostSelected value =>
      obtain ⟨hvalue, rfl⟩ : value ∉ v.cascade.host.options ∧ [.render] = es := by
        simpa [refusal?] using h
      unfold handle
      simp [Cascade.chooseHost, Selection.choose?, hvalue, afterChoice]
  | interfaceSelected value =>
      obtain ⟨hvalue, rfl⟩ : value ∉ v.cascade.interface.options ∧ [] = es := by
        simpa [refusal?] using h
      unfold handle
      simp [Cascade.chooseInterface?, Selection.choose?, hvalue]
  | windowDoubled =>
      obtain ⟨hlimit, rfl⟩ : ¬ 2 * Window.displayed v.window ≤ Duration.limit ∧
          [.notice longestWindow] = es := by
        simpa [refusal?] using h
      unfold handle
      simp only [hlimit, if_false, and_self]
  | windowEntered text =>
      obtain ⟨hreads, rfl⟩ : Window.reads (Text.trim text) = false ∧
          [.notice (Window.Refusal.message ⟨Text.trim text⟩)] = es := by
        simpa [refusal?] using h
      unfold handle
      simp only [Window.ofText_of_not_reads hreads, and_self]
  | listCompleted level generation result =>
      cases result with
      | ok response => cases h
      | error err =>
          obtain ⟨hlatest, rfl⟩ : generation = v.cascade.issued level ∧
              [.notice err.userMessage] = es := by
            simpa [refusal?] using h
          unfold handle takeList
          simp [Cascade.apply, hlatest]
  | getCompleted generation result =>
      cases result with
      | ok response => cases h
      | error err =>
          obtain ⟨hlatest, rfl⟩ : generation = v.getsIssued ∧
              [.notice err.userMessage, .armRefetch refetchDelay] = es := by
            simpa [refusal?] using h
          unfold handle takeGet
          simp [hlatest]
  | _ => cases h

/-- The effects of the table send no call. -/
lemma calls_of_refusal {v : View} {e : Event} {es : List Effect} (h : v.refusal? e = some es) :
    es.filterMap Effect.list? = [] ∧ es.filterMap Effect.get? = [] := by
  unfold refusal? at h
  -- whatever row of the table it is, the effects are written out there
  split at h <;> (try split at h) <;> cases h <;> exact ⟨rfl, rfl⟩

/-- What an effect tells the user. -/
def Effect.notice? : Effect → Option String
  | .notice message => some message
  | _ => none

lemma mem_notices {es : List Effect} {message : String} :
    message ∈ es.filterMap Effect.notice? ↔ .notice message ∈ es := by
  refine mem_filterMap_iff fun effect message => ?_
  cases effect <;> simp [Effect.notice?]

/-- **The notices of an event are those of the table**: what is neither failed nor refused tells the
user nothing. -/
theorem handle_notices (v : View) (e : Event) (now : UInt64) :
    (v.handle e now).effects.filterMap Effect.notice?
      = ((v.refusal? e).getD []).filterMap Effect.notice? := by
  have hchoice : ∀ chosen : Cascade × Option ListCall,
      (v.afterChoice chosen).effects.filterMap Effect.notice? = [] := by
    rintro ⟨c, _ | call⟩ <;> rfl
  have hquery := startGet_filterMap Effect.notice? fun _ => rfl
  have hfetch := fetch_filterMap Effect.notice? rfl fun _ => rfl
  cases h : v.refusal? e with
  | some es =>
      rw [(handle_of_refusal h now).2]
      rfl
  | none =>
      show (v.handle e now).effects.filterMap Effect.notice? = []
      cases e with
      | start => rfl
      | metricSelected value => exact hchoice _
      | hostSelected value => exact hchoice _
      | interfaceSelected value =>
          unfold handle
          dsimp only
          split
          · rfl
          · exact hfetch _ now
      | transformSelected transform => exact hfetch _ now
      | windowDoubled =>
          have hlimit : 2 * Window.displayed v.window ≤ Duration.limit := by
            simpa [refusal?] using h
          unfold handle
          simp only [hlimit, if_true]
          exact hquery _ now
      | windowHalved => exact hquery _ now
      | windowEntered text =>
          have hreads : Window.reads (Text.trim text) = true := by simpa [refusal?] using h
          obtain ⟨accepted, haccepted⟩ := Window.ofText_of_reads hreads
          unfold handle
          simp only [haccepted]
          exact hquery _ now
      | zoomSelected range => rfl
      | zoomOut => rfl
      | refetch => exact hfetch v now
      | listCompleted level generation result =>
          unfold handle takeList
          dsimp only
          split
          · rfl
          · rename_i message hfailed
            obtain ⟨hlatest, err, rfl⟩ := Cascade.failed_of_outcome hfailed
            have hstale : generation ≠ v.cascade.issued level := by simpa [refusal?] using h
            exact absurd hlatest hstale
          · rfl
          · rfl
          · exact hfetch _ now
      | getCompleted generation result =>
          unfold handle takeGet
          dsimp only
          split
          · rfl
          · rename_i hlatest
            cases result with
            | ok response => rfl
            | error err =>
                have hstale : generation ≠ v.getsIssued := by simpa [refusal?] using h
                exact absurd hstale hlatest

/-- **What fails or is refused changes nothing**, whatever the view was told before: no option, no
choice, no number, no window, no transform, no range and no series.  Its effects are those of the
table, without any call; and the user is told of nothing else. -/
theorem refusal_changes_nothing (v : View) (e : Event) (now : UInt64) :
    (∀ es, v.refusal? e = some es →
      (v.handle e now).view = v ∧ (v.handle e now).effects = es ∧
        es.filterMap Effect.list? = [] ∧ es.filterMap Effect.get? = []) ∧
    ((∃ message, .notice message ∈ (v.handle e now).effects) → (v.refusal? e).isSome) := by
  refine ⟨fun es h => ?_, ?_⟩
  · obtain ⟨hview, heffects⟩ := handle_of_refusal h now
    exact ⟨hview, heffects, calls_of_refusal h⟩
  · rintro ⟨message, hmessage⟩
    rw [← mem_notices, handle_notices] at hmessage
    cases hrefusal : v.refusal? e with
    | none => simp [hrefusal] at hmessage
    | some es => rfl

/-- The view that waits for its second query. -/
def waiting : View := ((ofSettings default).play ((outrun (.ok ⟨true, none, []⟩)).take 4)).1

/-- The query that it waits for fails: the user is told, and the next one is scheduled. -/
theorem refusal_changes_nothing_failed :
    waiting.refusal? (.getCompleted 2 (.error (.transport .get .timeout)))
      = some [.notice "Error in /get request: Request timed out", .armRefetch 30000] ∧
    (waiting.handle (.getCompleted 2 (.error (.transport .get .timeout))) 0).view = waiting ∧
    (waiting.handle (.getCompleted 2 (.error (.transport .get .timeout))) 0).effects
      = [.notice "Error in /get request: Request timed out", .armRefetch 30000] := by
  have hrefused : waiting.refusal? (.getCompleted 2 (.error (.transport .get .timeout)))
      = some [.notice "Error in /get request: Request timed out", .armRefetch 30000] := by rfl
  obtain ⟨hview, heffects, -⟩ := (refusal_changes_nothing waiting _ 0).1 _ hrefused
  exact ⟨hrefused, hview, heffects⟩

/-! ## Several events -/

/-- The events without those that fail or are refused when they arrive. -/
def accepted (v : View) : List (Event × UInt64) → List (Event × UInt64)
  | [] => []
  | (e, now) :: es =>
      let rest := (v.handle e now).view.accepted es
      if (v.refusal? e).isSome then rest else (e, now) :: rest

/-- **Failures and refusals leave no trace in a run**: without them the view ends up the same, and
the same listings and queries are sent. -/
theorem play_accepted (v : View) (es : List (Event × UInt64)) :
    (v.play (v.accepted es)).1 = (v.play es).1 ∧
      (v.play (v.accepted es)).2.filterMap Effect.list? = (v.play es).2.filterMap Effect.list? ∧
      (v.play (v.accepted es)).2.filterMap Effect.get? = (v.play es).2.filterMap Effect.get? := by
  induction es generalizing v with
  | nil => exact ⟨rfl, rfl, rfl⟩
  | cons x es ih =>
      obtain ⟨e, now⟩ := x
      obtain ⟨hview, hlists, hgets⟩ := ih (v.handle e now).view
      cases hrefusal : v.refusal? e with
      | none =>
          simp only [accepted, play, hrefusal, Option.isSome_none, Bool.false_eq_true, if_false,
            List.filterMap_append]
          exact ⟨hview, by rw [hlists], by rw [hgets]⟩
      | some effects =>
          -- the next event finds the view where the refused one found it
          obtain ⟨hsame, heffects⟩ := handle_of_refusal hrefusal now
          obtain ⟨hlist, hget⟩ := calls_of_refusal hrefusal
          simp only [accepted, play, hrefusal, Option.isSome_some, if_true, heffects,
            List.filterMap_append, hlist, hget, List.nil_append]
          rw [hsame] at hview hlists hgets ⊢
          exact ⟨hview, hlists, hgets⟩

end View

end Meterboard
