import Meterboard.Proofs.View.Session

/-!
# A selection that is announced as ready

A listing of interfaces ends as `Cascade.Outcome.ready` when everything is chosen afterwards, and
the view then fetches at once.  Metric and host were chosen when the listing was sent, the interface
comes from its outcome, and in between the user and other listings may have changed the first two.

* `outcome_ready` — a selection becomes ready only by the latest listing of interfaces.
* `fetch_ready` — what the view then asks for.
* `ready_consistent` — the query names the metric and the host that the listing was sent for, which
  are still the chosen ones, and an interface out of that very listing.

The first of these three facts rests on `Cascade.Traffic.Sound.inScope`, which the simulation brings
to every session.
-/

namespace Meterboard

namespace Cascade

lemma apply_interfaces (c : Cascade) (response : ListResponse) :
    c.apply .interfaces c.interfacesIssued (.ok response)
      = ⟨(c.takeInterfaces (identifiers response)).1,
          (c.takeInterfaces (identifiers response)).2, []⟩ := by
  simp [apply, issued]

/-- A selection becomes ready only by the latest listing of interfaces, which offers the interface
that is chosen then. -/
lemma outcome_ready {c : Cascade} {level : Level} {generation : Nat}
    {result : Except StoreError ListResponse}
    (h : (c.apply level generation result).outcome = .ready) :
    level = .interfaces ∧ generation = c.interfacesIssued ∧ ∃ response, result = .ok response ∧
      (c.apply level generation result).cascade
        = { c with
            interface :=
              c.interface.replace (labelValues Identifier.interfaceLabel (identifiers response)) } ∧
      (c.apply level generation result).cascade.complete?.isSome := by
  by_cases hg : generation = c.issued level
  · subst hg
    cases result with
    | error e => simp [apply] at h
    | ok response =>
        cases level with
        | top =>
            simp only [apply, ne_eq, not_true, if_false, takeTop] at h
            split at h <;> cases h
        | interfaces =>
            have hissued : c.issued .interfaces = c.interfacesIssued := rfl
            rw [hissued, apply_interfaces] at h ⊢
            refine ⟨rfl, rfl, response, rfl, rfl, ?_⟩
            simp only [takeInterfaces] at h ⊢
            split at h
            · rename_i hcomplete
              exact hcomplete
            · cases h
  · simp [apply, hg] at h

/-- The latest listing of interfaces makes the selection ready wherever everything is chosen
afterwards. -/
lemma outcome_of_complete {c : Cascade} {response : ListResponse}
    (h : (c.apply .interfaces c.interfacesIssued (.ok response)).cascade.complete?.isSome) :
    (c.apply .interfaces c.interfacesIssued (.ok response)).outcome = .ready := by
  rw [apply_interfaces] at h ⊢
  exact if_pos h

/-- An interface among the labels of a listing is the label of one of its variables. -/
lemma exists_of_mem_labelValues {key value : String} {response : ListResponse}
    (h : value ∈ labelValues key (identifiers response)) :
    ∃ stream ∈ response.streams, ∃ id, Identifier.parse? stream.name = some id ∧
      id.label? key = some value := by
  obtain ⟨id, hid, hlabel⟩ := List.mem_filterMap.1 h
  obtain ⟨stream, hstream, hparse⟩ := List.mem_filterMap.1 hid
  exact ⟨stream, hstream, id, hparse, hlabel⟩

end Cascade

namespace View

/-- Where everything is chosen, the view draws, stops the timer and sends a query for just that. -/
lemma fetch_ready {v : View} {level : Level} {generation : Nat}
    {result : Except StoreError ListResponse} (now : UInt64)
    {metric host interface : String}
    (hready : (v.cascade.apply level generation result).outcome = .ready)
    (hcomplete : (v.cascade.apply level generation result).cascade.complete?
      = some (metric, host, interface)) :
    (v.handle (.listCompleted level generation result) now).effects
      = [.render, .cancelRefetch,
          .get ⟨v.getsIssued + 1, v.query metric host interface now⟩] := by
  unfold handle takeList
  dsimp only
  rw [hready]
  dsimp only
  rw [renderAndFetch_effects, fetch_effects, (startGet_of_some now hcomplete).2]
  rfl

/-- That query is the latest one. -/
lemma issued_ready {v : View} {level : Level} {generation : Nat}
    {result : Except StoreError ListResponse} (now : UInt64)
    (hready : (v.cascade.apply level generation result).outcome = .ready)
    (hcomplete : (v.cascade.apply level generation result).cascade.complete?.isSome) :
    (v.handle (.listCompleted level generation result) now).view.getsIssued
      = v.getsIssued + 1 := by
  obtain ⟨⟨metric, host, interface⟩, hcomplete⟩ := Option.isSome_iff_exists.1 hcomplete
  unfold handle takeList
  dsimp only
  rw [hready]
  dsimp only
  obtain ⟨span, hview⟩ := (startGet_of_some
    (v := { v with cascade := (v.cascade.apply level generation result).cascade })
    now hcomplete).1
  rw [renderAndFetch_view, hview]

/-- **A ready selection is consistent.**  When the outcome of a pending listing makes the selection
ready, the listing was sent for the metric and the host that are chosen, the view draws, stops the
timer and sends a query, and the query names that metric, that host and an interface out of the
listing. -/
theorem ready_consistent {settings : ViewSettings} {history : List (Session × Input)} {s : Session}
    (run : Run (looseSession settings) history s) {call : ListCall} (hcall : call ∈ s.lists)
    {result : Except StoreError ListResponse} (now : UInt64)
    (hready : (s.view.cascade.apply call.level call.generation result).outcome = .ready) :
    ∃ metric host interface request response,
      (s.view.handle (.listCompleted call.level call.generation result) now).view.cascade.complete?
        = some (metric, host, interface) ∧
      call.request.pattern = metric ++ "\x7bhostname=" ++ host ++ ",interface=*\x7d" ∧
      (s.view.handle (.listCompleted call.level call.generation result) now).effects
        = [.render, .cancelRefetch, .get ⟨s.view.getsIssued + 1, request⟩] ∧
      request.name
        = metric ++ "\x7bhostname=" ++ host ++ ",interface=" ++ interface ++ "\x7d" ∧
      result = .ok response ∧
      ∃ stream ∈ response.streams, ∃ id, Identifier.parse? stream.name = some id ∧
        id.label? Identifier.interfaceLabel = some interface := by
  obtain ⟨hlevel, hlatest, response, hresult, hcascade, hsome⟩ := Cascade.outcome_ready hready
  obtain ⟨⟨metric, host, interface⟩, hcomplete⟩ := Option.isSome_iff_exists.1 hsome
  obtain ⟨hmetric, hhost, hinterface⟩ := Cascade.complete?_eq_some.1 hcomplete
  rw [hcascade] at hmetric hhost hinterface
  refine ⟨metric, host, interface, s.view.query metric host interface now, response, ?_, ?_, ?_, ?_,
    hresult, ?_⟩
  · rw [handle_cascade]
    exact hcomplete
  · have hscope : s.view.cascade.scope? = some (metric, host) :=
      Cascade.scope?_eq_some.2 ⟨hmetric, hhost⟩
    have hasks := (sound_of_session run).inScope call hcall hlevel hlatest _ hscope
    rw [hasks]
    exact Cascade.interfacesPattern_eq metric host
  · exact fetch_ready now hready hcomplete
  · exact Cascade.variableOf_eq metric host interface
  · exact Cascade.exists_of_mem_labelValues (Selection.mem_of_replace hinterface)

/-- A store with a metric on two hosts. -/
def twoHosts : Except StoreError ListResponse :=
  .ok ⟨true, none, [⟨"m\x7bhostname=h\x7d", []⟩, ⟨"m\x7bhostname=k\x7d", []⟩]⟩

/-- The other host is chosen before the interfaces of the first one arrive. -/
def rechosen : List Input :=
  [.tell .start 0, .tell (.listCompleted .top 1 twoHosts) 0, .tell (.hostSelected "k") 0,
    .tell (.listCompleted .interfaces 1 (.ok ⟨true, none, [⟨"m\x7binterface=i\x7d", []⟩]⟩)) 0]

/-- The listing that is then on its way. -/
def rechosenCall : ListCall := ⟨.interfaces, 2, .ofPattern "m\x7bhostname=k,interface=*\x7d"⟩

/-- The interfaces of the second host, which come last, make the selection ready. -/
theorem ready_consistent_rechosen :
    rechosenCall ∈ (plainSession.after plainSession.start rechosen).lists ∧
    ∃ metric host interface request,
      rechosenCall.request.pattern = metric ++ "\x7bhostname=" ++ host ++ ",interface=*\x7d" ∧
      ((plainSession.after plainSession.start rechosen).view.handle (.listCompleted .interfaces 2
          (.ok ⟨true, none, [⟨"m\x7binterface=j\x7d", []⟩]⟩)) 0).effects
        = [.render, .cancelRefetch, .get ⟨1, request⟩] ∧
      request.name
        = metric ++ "\x7bhostname=" ++ host ++ ",interface=" ++ interface ++ "\x7d" := by
  have hrun := loose_of_session ((Run.start (S := plainSession)).extend rechosen (by decide))
  have hcall : rechosenCall ∈ (plainSession.after plainSession.start rechosen).lists := by decide
  have hready : ((plainSession.after plainSession.start rechosen).view.cascade.apply .interfaces 2
      (.ok ⟨true, none, [⟨"m\x7binterface=j\x7d", []⟩]⟩)).outcome = .ready := by decide
  obtain ⟨metric, host, interface, request, -, -, hpattern, heffects, hname, -⟩ :=
    ready_consistent hrun hcall 0 hready
  exact ⟨hcall, metric, host, interface, request, hpattern, heffects, hname⟩

end View

end Meterboard
