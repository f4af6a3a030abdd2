import Meterboard.Proofs.View.Step

/-!
# Sessions

A view asks for effects and leaves them to others.  A session carries them out: it keeps the calls
that nobody has answered and whether the refetch timer is set.  The surroundings are a user, a
clock, a timer and a store that answers a pending call at most once, when it likes, in any order.

**The system.**  `View.Session`, `View.Input` and `View.session`.  The effects of a step are carried
out in order; `Effect.setTimer` is what one effect does to the timer.  `View.looseSession` asks less
of the surroundings: only listings are sure to be answered at most once.

**Simulation.**  A session seen through `Session.traffic` is a cascade with the listings on their
way: `traffic_next` says that each event of the view is one operation on the cascade or none
(`Event.op?`), and that the listings it sends are those that the operation hands out.  Hence
`traffic_of_run`, and what holds of every cascade holds of the cascade in every session.
-/

namespace Meterboard.View

/-! ## The system -/

/-- The event is the outcome of the listing. -/
def Event.answersList (e : Event) (call : ListCall) : Bool := e.op?.any (·.answers call)

/-- The event is the outcome of the query. -/
def Event.answersGet : Event → GetCall → Bool
  | .getCompleted generation _, call => call.generation = generation
  | _, _ => false

/-- What comes from outside, at a time of the clock. -/
inductive Input where
  | tell (event : Event) (now : UInt64)
  /-- The refetch timer fires. -/
  | fire (now : UInt64)

/-- The event that the view is told of. -/
def Input.event : Input → Event
  | .tell event _ => event
  | .fire _ => .refetch

/-- The time of the clock. -/
def Input.now : Input → UInt64
  | .tell _ now => now
  | .fire now => now

/-- The input is the timer. -/
def Input.isFire : Input → Bool
  | .tell _ _ => false
  | .fire _ => true

/-- A view, the calls that nobody has answered, and whether the refetch timer is set. -/
structure Session where
  view : View
  lists : List ListCall
  gets : List GetCall
  armed : Bool

namespace Session

/-- Outcomes of listings arrive only for pending calls. -/
def listed (s : Session) : Input → Prop
  | .tell (.listCompleted level generation result) _ =>
      ∃ call ∈ s.lists, (Event.listCompleted level generation result).answersList call = true
  | _ => True

/-- Outcomes arrive only for pending calls, and the timer fires only when it is set. -/
def allows (s : Session) : Input → Prop
  | .fire _ => s.armed = true
  | .tell (.listCompleted level generation result) _ =>
      ∃ call ∈ s.lists, (Event.listCompleted level generation result).answersList call = true
  | .tell (.getCompleted generation result) _ =>
      ∃ call ∈ s.gets, (Event.getCompleted generation result).answersGet call = true
  | .tell _ _ => True

instance (s : Session) (i : Input) : Decidable (s.allows i) := by
  unfold allows
  split <;> infer_instance

lemma listed_of_allows {s : Session} {i : Input} (h : s.allows i) : s.listed i := by
  cases i with
  | fire now => trivial
  | tell e now =>
      cases e with
      | listCompleted level generation result => exact h
      | _ => trivial

/-- The session after an input: answered calls are pending no more, a timer that fired is not set,
and the effects are carried out in order. -/
def next (s : Session) (i : Input) : Session where
  view := (s.view.handle i.event i.now).view
  lists := s.lists.filter (!i.event.answersList ·)
    ++ (s.view.handle i.event i.now).effects.filterMap Effect.list?
  gets := s.gets.filter (!i.event.answersGet ·)
    ++ (s.view.handle i.event i.now).effects.filterMap Effect.get?
  armed := (s.view.handle i.event i.now).effects.foldl Effect.setTimer (s.armed && !i.isFire)

/-- The cascade of the view, with the listings on their way. -/
def traffic (s : Session) : Cascade.Traffic := ⟨s.view.cascade, s.lists⟩

end Session

/-- All that can happen to a view with some settings. -/
def session (settings : ViewSettings) : System Session Input :=
  ⟨⟨.ofSettings settings, [], [], false⟩, Session.allows, Session.next⟩

instance (settings : ViewSettings) (s : Session) (i : Input) :
    Decidable ((session settings).allows s i) :=
  inferInstanceAs (Decidable (s.allows i))

/-- The same, where queries may be answered and the timer may fire at any time. -/
def looseSession (settings : ViewSettings) : System Session Input :=
  ⟨⟨.ofSettings settings, [], [], false⟩, Session.listed, Session.next⟩

lemma loose_of_session {settings : ViewSettings} {history : List (Session × Input)} {s : Session}
    (run : Run (session settings) history s) : Run (looseSession settings) history s :=
  Run.mono (S := session settings) (T := looseSession settings) rfl rfl
    (fun _ _ => Session.listed_of_allows) run

/-- The sessions without preferences. -/
abbrev plainSession : System Session Input := session default

/-- All that can happen to a view with some settings, whatever it is told. -/
def told (settings : ViewSettings) : System View (Event × UInt64) :=
  ⟨.ofSettings settings, fun _ _ => True, fun v e => (v.handle e.1 e.2).view⟩

/-! ## The cascade in a session -/

/-- An input without an operation leaves the cascade alone. -/
lemma next_cascade_of_none {s : Session} {i : Input} (h : i.event.op? = none) :
    (s.next i).view.cascade = s.view.cascade := by
  have hcascade := handle_cascade s.view i.event i.now
  rw [h] at hcascade
  exact hcascade

lemma next_cascade_of_some {s : Session} {i : Input} {op : Cascade.Op}
    (h : i.event.op? = some op) :
    (s.next i).view.cascade = (s.view.cascade.perform op).1 := by
  have hcascade := handle_cascade s.view i.event i.now
  rw [h] at hcascade
  exact hcascade

/-- **Simulation.**  In a session, every input is one operation on the cascade and the listings on
their way, or none. -/
theorem traffic_next (s : Session) (i : Input) :
    (s.next i).traffic = (i.event.op?.map s.traffic.next).getD s.traffic := by
  have hcascade := handle_cascade s.view i.event i.now
  have hlists := handle_lists s.view i.event i.now
  simp only [Session.traffic, Session.next, hcascade, hlists]
  cases hop : i.event.op? with
  | none =>
      have hanswers : ∀ call, i.event.answersList call = false := by
        simp [Event.answersList, hop]
      simp [hanswers]
  | some op =>
      have hanswers : ∀ call, i.event.answersList call = op.answers call := by
        simp [Event.answersList, hop]
      simp [hanswers, Cascade.Traffic.next]

/-- Only the outcome of a listing amounts to one. -/
lemma Event.eq_listCompleted {e : Event} {level : Level} {generation : Nat}
    {result : Except StoreError ListResponse} (h : e.op? = some (.apply level generation result)) :
    e = .listCompleted level generation result := by
  cases e with
  | listCompleted _ _ _ =>
      cases h
      rfl
  | _ => cases h

/-- An input with the outcome of a pending listing, if any, is an operation that the traffic
allows. -/
lemma traffic_allows {s : Session} {i : Input} (allowed : s.listed i) {op : Cascade.Op}
    (hop : i.event.op? = some op) : s.traffic.allows op := by
  cases op with
  | apply level generation result =>
      cases i with
      | fire now => cases hop
      | tell e now =>
          obtain rfl : e = .listCompleted level generation result := Event.eq_listCompleted hop
          exact allowed
  | _ => trivial

/-- The cascade of a session is a cascade with its listings on their way. -/
theorem traffic_of_run {settings : ViewSettings} {history : List (Session × Input)} {s : Session}
    (run : Run (looseSession settings) history s) :
    ∃ seen, Run (Cascade.traffic settings.root settings.metric? settings.host?
      settings.interface?) seen s.traffic := by
  refine run.simulate Session.traffic rfl fun s i allowed => ?_
  rw [show (looseSession settings).next s i = s.next i from rfl, traffic_next]
  cases hop : i.event.op? with
  | none => exact .inl rfl
  | some op => exact .inr ⟨op, traffic_allows allowed hop, rfl⟩

/-- What holds of every cascade holds of the cascade in every session. -/
theorem sound_of_session {settings : ViewSettings} {history : List (Session × Input)}
    {s : Session} (run : Run (looseSession settings) history s) : s.traffic.Sound :=
  let ⟨_, hrun⟩ := traffic_of_run run
  Cascade.sound_of_run hrun

end Meterboard.View
