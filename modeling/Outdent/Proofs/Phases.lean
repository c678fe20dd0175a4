import Mathlib.Data.List.Induction
import Outdent.Trace

/-!
# Phases of a trace

A script of recording comes to a sequence of single actions, however its blocks are nested and
wherever it gives up. What is recorded by such a sequence keeps one invariant: the phases that are
open are those that have begun and not ended, and an event belongs to the innermost of them. So
phases begin and end like brackets. Main statements: `takeAll_eq`, a script comes to its actions,
`Steady.after`, an action keeps the invariant, `openPhases_ofSteps`, blocks alone leave no phase
open, and `ofSteps_brackets`, which says what the trace of a script is at every moment, and what a
block around balanced steps does.
-/
namespace Outdent

/-- What is done with a trace. -/
inductive Trace.Action where
  /-- Something that is no phase is recorded. -/
  | record (happening : Happening) (plain : happening.isPhase = false)
  /-- A phase begins. -/
  | start (name detail : Text)
  /-- The innermost open phase ends. -/
  | finish

namespace Trace

/-- The trace after an action. -/
def after (trace : Trace) : Action → Trace
  | .record happening _ => trace.record happening
  | .start name detail => trace.startPhase name detail
  | .finish => trace.endPhase

/-- The trace after some actions. -/
def afterAll (trace : Trace) (actions : List Action) : Trace := actions.foldl after trace

/-- The trace after more actions. -/
theorem afterAll_append (trace : Trace) (first second : List Action) :
    trace.afterAll (first ++ second) = (trace.afterAll first).afterAll second :=
  List.foldl_append

end Trace

/-! ## The actions of a script -/

namespace TraceStep

open Trace (Action)

mutual

/-- What a step of a script does with the trace, and whether it gives up. -/
def actions : TraceStep → List Action × Bool
  | .record happening plain => ([.record happening plain], false)
  | .start name detail => ([.start name detail], false)
  | .finish => ([.finish], false)
  | .phase name detail body =>
    -- The block ends also when its body gives up.
    (.start name detail :: (actionsOf body).1 ++ [.finish], (actionsOf body).2)
  | .giveUp => ([], true)
  | .attempt body => ((actionsOf body).1, false)

/-- What the steps of a script do with the trace until one gives up, and whether one does. -/
def actionsOf : List TraceStep → List Action × Bool
  | [] => ([], false)
  | step :: steps =>
    if step.actions.2 then step.actions
    else (step.actions.1 ++ (actionsOf steps).1, (actionsOf steps).2)

end

end TraceStep

namespace Recording

open Trace (afterAll_append)

mutual

/-- A step comes to its actions. -/
theorem take_eq (recording : Recording) (goes : recording.gaveUp = false) (step : TraceStep) :
    (recording.take step).trace = recording.trace.afterAll step.actions.1 ∧
      (recording.take step).gaveUp = step.actions.2 := by
  cases step with
  | record happening plain => exact ⟨rfl, goes⟩
  | start name detail => exact ⟨rfl, goes⟩
  | finish => exact ⟨rfl, goes⟩
  | phase name detail body =>
    obtain ⟨trace, gaveUp⟩ := takeAll_eq
      { recording with trace := recording.trace.startPhase name detail } goes body
    rw [take, TraceStep.actions, afterAll_append]
    exact ⟨congrArg Trace.endPhase trace, gaveUp⟩
  | giveUp => exact ⟨rfl, rfl⟩
  | attempt body => exact ⟨(takeAll_eq recording goes body).1, rfl⟩

/-- The steps of a script come to their actions. -/
theorem takeAll_eq (recording : Recording) (goes : recording.gaveUp = false)
    (steps : List TraceStep) :
    (recording.takeAll steps).trace = recording.trace.afterAll (TraceStep.actionsOf steps).1 ∧
      (recording.takeAll steps).gaveUp = (TraceStep.actionsOf steps).2 := by
  cases steps with
  | nil => exact ⟨rfl, goes⟩
  | cons step steps =>
    obtain ⟨trace, gaveUp⟩ := take_eq recording goes step
    rw [takeAll, TraceStep.actionsOf]
    cases stops : step.actions.2 with
    | true => simp [gaveUp, stops, trace]
    | false =>
      obtain ⟨later, last⟩ := takeAll_eq (recording.take step) (gaveUp.trans stops) steps
      simp [gaveUp, stops, later, last, trace, afterAll_append]

end

end Recording

/-! ## Phases in events -/

/-- Does a phase begin? -/
def Happening.isStart : Happening → Bool
  | phaseStart _ _ => true
  | _ => false

namespace Trace

variable {events : List Event}

/-- The places of the events that begin a phase, the last first. -/
def begun (events : List Event) : List Nat :=
  (events.zipIdx.filterMap fun (event, place) =>
    if event.happening.isStart then some place else none).reverse

/-- Does an event end the phase that begins at a place? -/
def isEndOf (place : Nat) (event : Event) : Bool :=
  event.happening == .phaseEnd && event.parent == some place

/-- Has the phase that begins at a place ended? -/
def hasEnded (events : List Event) (place : Nat) : Bool := events.any (isEndOf place)

/-- The phases that have begun and not ended, the last first. -/
def pending (events : List Event) : List Nat :=
  (begun events).filter fun place => !hasEnded events place

/-- One more event begins a phase or does not. -/
theorem begun_concat (events : List Event) (event : Event) :
    begun (events ++ [event]) =
      if event.happening.isStart then events.length :: begun events else begun events := by
  unfold begun
  split <;> rename_i starts <;> simp [List.zipIdx_append, starts]

/-- The places of the events that begin a phase. -/
theorem mem_begun_iff {place : Nat} :
    place ∈ begun events ↔
      ∃ event, events[place]? = some event ∧ event.happening.isStart = true := by
  simp [begun, List.mem_zipIdx_iff_getElem?]

/-- A phase begins at an event. -/
theorem lt_of_mem_begun {place : Nat} (begins : place ∈ begun events) : place < events.length := by
  obtain ⟨_, there, _⟩ := mem_begun_iff.mp begins
  exact (List.getElem?_eq_some_iff.mp there).1

/-- The phase that began last comes first. -/
theorem pairwise_begun (events : List Event) : (begun events).Pairwise (· > ·) := by
  induction events using List.reverseRecOn with
  | nil => exact .nil
  | append_singleton events event ih =>
    rw [begun_concat]
    split
    · exact .cons (fun place before => lt_of_mem_begun before) ih
    · exact ih

/-- What is pending comes in the order in which phases began, the last first. -/
theorem pairwise_pending (events : List Event) : (pending events).Pairwise (· > ·) :=
  (pairwise_begun events).filter _

/-- A pending phase has begun. -/
theorem lt_of_mem_pending {place : Nat} (pend : place ∈ pending events) : place < events.length :=
  lt_of_mem_begun (List.mem_filter.mp pend).1

/-! ## Brackets -/

/-- The two places where the last of some events can stand. -/
theorem eq_or_exists_of_concat {event other : Event} {front behind : List Event}
    (same : events ++ [event] = front ++ other :: behind) :
    (events = front ∧ event = other) ∨ ∃ rest, events = front ++ other :: rest := by
  obtain rfl | ⟨rest, last, rfl⟩ := List.eq_nil_or_concat behind
  · obtain ⟨rfl, last⟩ := List.append_inj' same rfl
    exact Or.inl ⟨rfl, (List.cons.inj last).1⟩
  · rw [List.concat_eq_append, ← List.cons_append, ← List.append_assoc] at same
    exact Or.inr ⟨rest, (List.append_inj' same rfl).1⟩

/-- Events that each belong to the innermost of the phases that were pending before them. -/
structure Bracketed (events : List Event) : Prop where
  /-- An event belongs to the innermost phase, if there is one. -/
  parent_eq : ∀ {front event behind}, events = front ++ event :: behind →
    event.parent = (pending front).head?
  /-- A phase ends only if there is one. -/
  pending_ne_nil : ∀ {front event behind}, events = front ++ event :: behind →
    event.happening = .phaseEnd → pending front ≠ []

namespace Bracketed

/-- Without events nothing belongs to a phase. -/
theorem nil : Bracketed [] where
  parent_eq same := by simp at same
  pending_ne_nil same := by simp at same

/-- One more event belongs to the innermost phase. -/
theorem concat (bracketed : Bracketed events) {event : Event}
    (parent : event.parent = (pending events).head?)
    (ends : event.happening = .phaseEnd → pending events ≠ []) : Bracketed (events ++ [event]) where
  parent_eq same := by
    obtain ⟨rfl, rfl⟩ | ⟨rest, before⟩ := eq_or_exists_of_concat same
    · exact parent
    · exact bracketed.parent_eq before
  pending_ne_nil same := by
    obtain ⟨rfl, rfl⟩ | ⟨rest, before⟩ := eq_or_exists_of_concat same
    · exact ends
    · exact bracketed.pending_ne_nil before

/-- A phase has begun when it ends. -/
theorem lt_of_hasEnded (bracketed : Bracketed events) {place : Nat}
    (ended : hasEnded events place = true) : place < events.length := by
  obtain ⟨event, member, ends⟩ := List.any_eq_true.mp ended
  simp only [isEndOf, Bool.and_eq_true, beq_iff_eq] at ends
  obtain ⟨front, behind, same⟩ := List.append_of_mem member
  have innermost := bracketed.parent_eq same
  rw [ends.2] at innermost
  have before := lt_of_mem_pending (List.mem_of_head? innermost.symm)
  rw [same, List.length_append]
  exact Nat.lt_add_right _ before

/-- What is pending after one more event that is no end. -/
theorem pending_concat (bracketed : Bracketed events) {event : Event}
    (goes : event.happening ≠ .phaseEnd) :
    pending (events ++ [event]) =
      if event.happening.isStart then events.length :: pending events else pending events := by
  have ended : hasEnded (events ++ [event]) = hasEnded events := funext fun place => by
    simp [hasEnded, isEndOf, goes]
  have fresh : hasEnded events events.length = false := Bool.eq_false_iff.mpr fun ended =>
    Nat.lt_irrefl _ (bracketed.lt_of_hasEnded ended)
  unfold pending
  rw [begun_concat, ended]
  split
  · rw [List.filter_cons_of_pos (by rw [fresh]; rfl)]
  · rfl

end Bracketed

/-- The innermost phase is pending no longer when it ends. -/
theorem pending_concat_end {first : Nat} {outer : List Nat} {event : Event}
    (open_eq : pending events = first :: outer) (ends : isEndOf first event = true) :
    pending (events ++ [event]) = outer := by
  have ordered : (first :: outer).Pairwise (· > ·) := open_eq ▸ pairwise_pending events
  have others : ∀ place ∈ outer, place ≠ first := fun place member =>
    Nat.ne_of_lt (List.rel_of_pairwise_cons ordered member)
  obtain ⟨kind, parent⟩ : event.happening = .phaseEnd ∧ event.parent = some first := by
    simpa [isEndOf] using ends
  have ended : ∀ place, (!hasEnded (events ++ [event]) place) =
      (!(first == place) && !hasEnded events place) := fun place => by
    simp only [hasEnded, List.any_append, List.any_cons, List.any_nil, Bool.or_false, Bool.not_or,
      isEndOf, kind, parent, BEq.rfl, Bool.true_and, Option.some_beq_some]
    exact Bool.and_comm ..
  -- Its place is taken out, and it stands there only once.
  have rest : pending (events ++ [event]) =
      (pending events).filter fun place => !(first == place) := by
    unfold pending
    rw [begun_concat, kind, List.filter_filter]
    exact List.filter_congr fun place _ => ended place
  rw [rest, open_eq, List.filter_cons_of_neg (by simp), List.filter_eq_self]
  intro place member
  simpa using (others place member).symm

/-- Events in which phases begin and end like brackets. -/
structure Nested (events : List Event) : Prop where
  /-- What ends is the innermost of the phases that were pending. -/
  innermost : ∀ {front event behind}, events = front ++ event :: behind →
    event.happening = .phaseEnd →
      ∃ place, event.parent = some place ∧ (pending front).head? = some place
  /-- No phase ends twice. -/
  once : ∀ {front first between last behind},
    events = front ++ first :: (between ++ last :: behind) → first.happening = .phaseEnd →
      last.happening = .phaseEnd → first.parent ≠ last.parent
  /-- A phase that begins inside of another one ends before it. -/
  inside : ∀ {front opening between closing behind place},
    events = front ++ opening :: (between ++ closing :: behind) →
      opening.happening.isStart = true → isEndOf place closing = true → place < front.length →
        hasEnded between front.length = true

namespace Bracketed

/-- What stands at the front of bracketed events is bracketed. -/
theorem of_append {front behind : List Event} (bracketed : Bracketed (front ++ behind)) :
    Bracketed front where
  parent_eq same := bracketed.parent_eq (by rw [same, List.append_assoc, List.cons_append])
  pending_ne_nil same :=
    bracketed.pending_ne_nil (by rw [same, List.append_assoc, List.cons_append])

/-- The innermost pending phase ends. -/
theorem innermost (bracketed : Bracketed events) {front behind : List Event} {event : Event}
    (same : events = front ++ event :: behind) (ends : event.happening = .phaseEnd) :
    ∃ place, event.parent = some place ∧ (pending front).head? = some place := by
  have parent := bracketed.parent_eq same
  cases pend : pending front with
  | nil => exact absurd pend (bracketed.pending_ne_nil same ends)
  | cons place outer => exact ⟨place, by rw [parent, pend]; rfl, rfl⟩

/-- Phases of bracketed events begin and end like brackets. -/
theorem nested (bracketed : Bracketed events) : Nested events where
  innermost := bracketed.innermost
  once := by
    intro front first between last behind same firstEnds lastEnds alike
    rw [← List.cons_append, ← List.append_assoc] at same
    obtain ⟨place, parent, head⟩ := bracketed.innermost same lastEnds
    have unended := (List.mem_filter.mp (List.mem_of_head? head)).2
    have ended : hasEnded (front ++ first :: between) place = true :=
      List.any_eq_true.mpr ⟨first, by simp, by simp [isEndOf, firstEnds, alike, parent]⟩
    rw [ended] at unended
    cases unended
  inside := by
    intro front opening between closing behind place same opens closes before
    rw [← List.cons_append, ← List.append_assoc] at same
    obtain ⟨ends, parent⟩ : closing.happening = .phaseEnd ∧ closing.parent = some place := by
      simpa [isEndOf] using closes
    obtain ⟨other, named, head⟩ := bracketed.innermost same ends
    obtain rfl : other = place := Option.some.inj (named.symm.trans parent)
    have begins : front.length ∈ begun (front ++ opening :: between) :=
      mem_begun_iff.mpr ⟨opening, by simp, opens⟩
    have fresh : hasEnded front front.length = false := Bool.eq_false_iff.mpr fun ended =>
      have bracketed : Bracketed front := (same ▸ bracketed).of_append.of_append
      Nat.lt_irrefl _ (bracketed.lt_of_hasEnded ended)
    have noEnd : isEndOf front.length opening = false := by
      rw [isEndOf]
      cases kind : opening.happening with
      | phaseEnd => rw [kind] at opens; cases opens
      | _ => rfl
    -- If it had not ended, it would be pending; but the innermost phase began before it.
    by_contra goes
    have pend : front.length ∈ pending (front ++ opening :: between) := by
      refine List.mem_filter.mpr ⟨begins, ?_⟩
      rw [Bool.not_eq_true] at goes
      rw [hasEnded] at fresh goes ⊢
      rw [List.any_append, List.any_cons, fresh, noEnd, goes]
      rfl
    obtain ⟨outer, order⟩ := List.head?_eq_some_iff.mp head
    have ordered := order ▸ pairwise_pending (front ++ opening :: between)
    rw [order] at pend
    obtain same | later := List.mem_cons.mp pend
    · omega
    · have above := List.rel_of_pairwise_cons ordered later
      omega

end Bracketed

/-! ## Traces -/

/-- What an action does: it adds one event, which belongs to the innermost open phase, or
nothing. -/
theorem after_cases (trace : Trace) (action : Action) :
    trace.after action = trace ∨ ∃ happening openPhases,
      trace.after action =
        ⟨trace.events ++ [⟨happening, trace.openPhases.head?⟩], openPhases⟩ ∧
      ((happening ≠ .phaseEnd ∧ openPhases = if happening.isStart then
          trace.events.length :: trace.openPhases else trace.openPhases) ∨
        happening = .phaseEnd ∧ ∃ first, trace.openPhases = first :: openPhases) := by
  cases action with
  | record happening plain =>
    cases happening with
    | phaseStart | phaseEnd => cases plain
    | replace | skip | warning => exact Or.inr ⟨_, _, rfl, Or.inl ⟨by simp, rfl⟩⟩
  | start name detail => exact Or.inr ⟨_, _, rfl, Or.inl ⟨by simp, rfl⟩⟩
  | finish =>
    simp only [after, endPhase]
    split
    · exact Or.inl rfl
    · rename_i first outer same
      exact Or.inr ⟨_, _, rfl, Or.inr ⟨rfl, first, same⟩⟩

/-- The events are bracketed, and the phases that are open are those that are pending. -/
structure Steady (trace : Trace) : Prop where
  /-- The events are bracketed. -/
  bracketed : Bracketed trace.events
  /-- The phases that are open are those that are pending. -/
  openPhases_eq : trace.openPhases = pending trace.events

/-- A trace without events is steady. -/
theorem Steady.nil : Steady {} := ⟨.nil, rfl⟩

/-- An action keeps a trace steady. -/
theorem Steady.after {trace : Trace} (steady : trace.Steady) (action : Action) :
    (trace.after action).Steady := by
  obtain same | ⟨happening, openPhases, same, goes⟩ := trace.after_cases action
  · rw [same]
    exact steady
  rw [same]
  have open_eq := steady.openPhases_eq
  -- An event that is no end may begin a phase; an end takes the phase off that it belongs to.
  obtain ⟨goes, rfl⟩ | ⟨rfl, first, there⟩ := goes
  · refine ⟨steady.bracketed.concat (open_eq ▸ rfl) (fun ends => absurd ends goes), ?_⟩
    rw [steady.bracketed.pending_concat goes, open_eq]
  · have pend : pending trace.events = first :: openPhases := open_eq ▸ there
    refine ⟨steady.bracketed.concat (open_eq ▸ rfl) (fun _ none => ?_), ?_⟩
    · rw [pend] at none
      cases none
    · rw [pending_concat_end pend (by simp [isEndOf, there])]

/-- Actions keep a trace steady. -/
theorem Steady.afterAll {trace : Trace} (steady : trace.Steady) (actions : List Action) :
    (trace.afterAll actions).Steady := by
  induction actions generalizing trace with
  | nil => exact steady
  | cons action actions ih => exact ih (steady.after action)

/-- Actions only add events. -/
theorem prefix_afterAll (trace : Trace) (actions : List Action) :
    trace.events <+: (trace.afterAll actions).events := by
  induction actions generalizing trace with
  | nil => exact List.prefix_rfl
  | cons action actions ih =>
    refine List.IsPrefix.trans ?_ (ih (trace.after action))
    obtain same | ⟨happening, openPhases, same, -⟩ := trace.after_cases action
    · exact same.symm ▸ List.prefix_rfl
    · rw [same]
      exact List.prefix_append _ _

/-- An event after an action was there before, or the action adds it. -/
theorem added_or_exists {trace : Trace} {action : Action} {front behind : List Event}
    {event : Event} (same : (trace.after action).events = front ++ event :: behind) :
    (trace.events = front ∧ (trace.after action).events = front ++ [event] ∧
      event.parent = trace.openPhases.head?) ∨ ∃ rest, trace.events = front ++ event :: rest := by
  obtain stays | ⟨happening, openPhases, adds, -⟩ := trace.after_cases action
  · exact Or.inr ⟨behind, by rw [← same, stays]⟩
  · rw [adds] at same ⊢
    obtain ⟨rfl, rfl⟩ | before := eq_or_exists_of_concat same
    · exact Or.inl ⟨rfl, rfl, rfl⟩
    · exact Or.inr before

/-- Every event has its moment, at which it is added and belongs to the innermost open phase. -/
theorem exists_moment {actions : List Action} {front behind : List Event} {event : Event}
    (same : (afterAll {} actions).events = front ++ event :: behind) :
    ∃ done action left, actions = done ++ action :: left ∧ (afterAll {} done).events = front ∧
      (afterAll {} (done ++ [action])).events = front ++ [event] ∧
      event.parent = (afterAll {} done).openPhases.head? := by
  -- From the last action on: it adds the event, or the event was there before.
  induction actions using List.reverseRecOn generalizing behind with
  | nil => simp [afterAll] at same
  | append_singleton actions action ih =>
    rw [afterAll_append] at same
    obtain now | ⟨rest, before⟩ := added_or_exists same
    · exact ⟨actions, action, [], rfl, now.1, by rw [afterAll_append]; exact now.2.1, now.2.2⟩
    · obtain ⟨done, first, left, rfl, moment⟩ := ih before
      exact ⟨done, first, left ++ [action], by simp, moment⟩

/-! ## Balanced actions -/

/-- The number of phases that are open after an action, of those that began with it or were counted
before; none if it would end another one. -/
def Action.level? (level : Nat) : Action → Option Nat
  | .record _ _ => some level
  | .start _ _ => some (level + 1)
  | .finish => if level = 0 then none else some (level - 1)

/-- The number of phases that are open after some actions, of those that began with them or were
counted before; none if they would end another one. -/
def level? (level : Nat) (actions : List Action) : Option Nat := actions.foldlM Action.level? level

/-- The phases that are open after more actions. -/
theorem level?_append (level : Nat) (first second : List Action) :
    level? level (first ++ second) = (level? level first).bind (level? · second) :=
  List.foldlM_append

/-- Actions that end the phases that they begin, and no others. -/
def Balanced (actions : List Action) : Prop := level? 0 actions = some 0

/-- An event that ends a phase only if this one did not begin before a place. -/
def EndsSince (first : Nat) (event : Event) : Prop :=
  event.happening = .phaseEnd → ∃ place, event.parent = some place ∧ first ≤ place

/-- A trace that goes on from another one, with some more phases open; only phases that began since
are open in addition, and only such phases ended. -/
structure Above (before : Trace) (level : Nat) (trace : Trace) : Prop where
  /-- The phases that are open in addition began since. -/
  opened : ∃ own : List Nat, trace.openPhases = own ++ before.openPhases ∧ own.length = level ∧
    ∀ place ∈ own, before.events.length ≤ place
  /-- The phases that ended began since. -/
  added : ∃ inside, trace.events = before.events ++ inside ∧
    ∀ event ∈ inside, EndsSince before.events.length event

/-- A trace goes on from itself. -/
theorem Above.self (trace : Trace) : Above trace 0 trace :=
  ⟨⟨[], rfl, rfl, by simp⟩, ⟨[], by simp, by simp⟩⟩

/-- A trace goes on when an action is counted. -/
theorem Above.after {before trace : Trace} {level next : Nat} (above : Above before level trace)
    {action : Action} (counts : action.level? level = some next) :
    Above before next (trace.after action) := by
  obtain ⟨⟨own, opened, rfl, since⟩, inside, added, closed⟩ := above
  -- Whatever is done, at most one event is added behind those added before.
  have grows : ∀ event, EndsSince before.events.length event →
      ∃ inside, trace.events ++ [event] = before.events ++ inside ∧
        ∀ event ∈ inside, EndsSince before.events.length event := by
    intro event fits
    refine ⟨inside ++ [event], by rw [added, List.append_assoc], ?_⟩
    rw [List.forall_mem_append, List.forall_mem_singleton]
    exact ⟨closed, fits⟩
  cases action with
  | record happening plain =>
    obtain rfl := Option.some.inj counts
    have fits : EndsSince before.events.length ⟨happening, trace.openPhases.head?⟩ := fun ends => by
      rw [show happening = .phaseEnd from ends] at plain
      cases plain
    exact ⟨⟨own, opened, rfl, since⟩, grows _ fits⟩
  | start name detail =>
    obtain rfl := Option.some.inj counts
    have later : before.events.length ≤ trace.events.length := by
      rw [added, List.length_append]
      exact Nat.le_add_right _ _
    have owned : ∀ place ∈ trace.events.length :: own, before.events.length ≤ place := by
      rw [List.forall_mem_cons]
      exact ⟨later, since⟩
    exact ⟨⟨_ :: own, congrArg (_ :: ·) opened, rfl, owned⟩, grows _ nofun⟩
  | finish =>
    cases own with
    | nil => cases counts
    | cons place own =>
      obtain rfl : own.length = next := Option.some.inj counts
      rw [List.forall_mem_cons] at since
      have ended : trace.after .finish =
          ⟨trace.events ++ [⟨.phaseEnd, some place⟩], own ++ before.openPhases⟩ := by
        simp only [Trace.after, endPhase, opened, List.cons_append, record, List.head?_cons]
      rw [ended]
      exact ⟨⟨own, rfl, rfl, since.2⟩, grows _ fun _ => ⟨place, rfl, since.1⟩⟩

/-- A trace goes on when actions are counted. -/
theorem Above.afterAll {before trace : Trace} {level last : Nat} (above : Above before level trace)
    {actions : List Action} (counts : level? level actions = some last) :
    Above before last (trace.afterAll actions) := by
  induction actions generalizing level trace with
  | nil =>
    obtain rfl := Option.some.inj counts
    exact above
  | cons action actions ih =>
    obtain ⟨next, first, others⟩ := Option.bind_eq_some_iff.mp counts
    exact ih (above.after first) others

/-- Balanced actions leave the phases open that were open before, and end only what they begin. -/
theorem afterAll_of_balanced {actions : List Action} (balanced : Balanced actions) (trace : Trace) :
    (trace.afterAll actions).openPhases = trace.openPhases ∧
      ∃ inside, (trace.afterAll actions).events = trace.events ++ inside ∧
        ∀ event ∈ inside, EndsSince trace.events.length event := by
  obtain ⟨⟨own, opened, none, -⟩, added⟩ := (Above.self trace).afterAll balanced
  rw [List.eq_nil_of_length_eq_zero none, List.nil_append] at opened
  exact ⟨opened, added⟩

/-- A phase around balanced actions is the one that ends behind them, and what ended inside began
inside. -/
theorem phase_of_balanced {actions : List Action} (balanced : Balanced actions) (trace : Trace)
    (name detail : Text) :
    ∃ inside, trace.phase name detail (·.afterAll actions) =
        ⟨trace.events ++ ⟨.phaseStart name detail, trace.openPhases.head?⟩ ::
          (inside ++ [⟨.phaseEnd, some trace.events.length⟩]), trace.openPhases⟩ ∧
      ∀ event ∈ inside, EndsSince (trace.events.length + 1) event := by
  let opening := trace.startPhase name detail
  have length : opening.events.length = trace.events.length + 1 := List.length_append
  obtain ⟨opened, inside, added, closed⟩ := afterAll_of_balanced balanced opening
  refine ⟨inside, ?_, length ▸ closed⟩
  have innermost : (opening.afterAll actions).openPhases =
      trace.events.length :: trace.openPhases := opened
  have events : (opening.afterAll actions).events = trace.events ++
      ⟨.phaseStart name detail, trace.openPhases.head?⟩ :: inside :=
    added.trans (List.append_assoc ..)
  change (opening.afterAll actions).endPhase = _
  simp only [endPhase, innermost, record, events, List.head?_cons, List.append_assoc,
    List.cons_append]

end Trace

namespace TraceStep

open Trace (level? level?_append)

mutual

/-- Does a step of a script begin and end phases by blocks only? -/
def onlyBlocks : TraceStep → Bool
  | .record _ _ | .giveUp => true
  | .start _ _ | .finish => false
  | .phase _ _ body | .attempt body => onlyBlocksOf body

/-- Do the steps of a script begin and end phases by blocks only? -/
def onlyBlocksOf : List TraceStep → Bool
  | [] => true
  | step :: steps => step.onlyBlocks && onlyBlocksOf steps

end

mutual

/-- With blocks only, a step leaves as many phases open as before, also when it gives up. -/
theorem level?_actions (level : Nat) (step : TraceStep) (blocks : step.onlyBlocks = true) :
    level? level step.actions.1 = some level := by
  cases step with
  | record happening plain => rfl
  | start name detail => cases blocks
  | finish => cases blocks
  | phase name detail body =>
    have inside : level? level (.start name detail :: (actionsOf body).1) = some (level + 1) :=
      level?_actionsOf (level + 1) body blocks
    rw [actions, level?_append, inside]
    rfl
  | giveUp => rfl
  | attempt body => exact level?_actionsOf level body blocks

/-- With blocks only, steps leave as many phases open as before, also when one gives up. -/
theorem level?_actionsOf (level : Nat) (steps : List TraceStep)
    (blocks : onlyBlocksOf steps = true) : level? level (actionsOf steps).1 = some level := by
  cases steps with
  | nil => rfl
  | cons step steps =>
    obtain ⟨first, others⟩ := Bool.and_eq_true_iff.mp blocks
    have here := level?_actions level step first
    have there := level?_actionsOf level steps others
    rw [actionsOf]
    split
    · exact here
    · rw [level?_append, here]
      exact there

end

end TraceStep

/-! ## Scripts -/

open Trace (pending Nested Balanced EndsSince)

/-- With blocks only, a script leaves no phase open, wherever it gives up. -/
theorem openPhases_ofSteps {steps : List TraceStep}
    (blocks : TraceStep.onlyBlocksOf steps = true) :
    (Recording.ofSteps steps).trace.openPhases = [] := by
  rw [Recording.ofSteps, (Recording.takeAll_eq {} rfl steps).1]
  exact (Trace.afterAll_of_balanced (TraceStep.level?_actionsOf 0 steps blocks) {}).1

/-- Phases begin and end like brackets. The trace of a script is that of its actions, which only add
events. At every moment the phases that are open are those that have begun and not ended, and an
event belongs to the innermost phase that was open when it was added. What ends is this phase, and
it ends only once; a phase that begins inside of another one ends before it. A block around steps
that are balanced, be it up to where one gives up, leaves the phases open that were open before: the
phase that it begins ends behind the steps, and what ended among them began among them. -/
theorem ofSteps_brackets :
    (∀ steps : List TraceStep,
      let actions := (TraceStep.actionsOf steps).1
      let events := (Recording.ofSteps steps).trace.events
      (Recording.ofSteps steps).trace = Trace.afterAll {} actions ∧
      (∀ done left, actions = done ++ left →
        (Trace.afterAll {} done).events <+: events ∧
          (Trace.afterAll {} done).openPhases = pending (Trace.afterAll {} done).events) ∧
      (∀ front event behind, events = front ++ event :: behind →
        ∃ done action left, actions = done ++ action :: left ∧
          (Trace.afterAll {} done).events = front ∧
          (Trace.afterAll {} (done ++ [action])).events = front ++ [event] ∧
          event.parent = (Trace.afterAll {} done).openPhases.head?) ∧
      Nested events) ∧
    ∀ (trace : Trace) counts name detail body, Balanced (TraceStep.actionsOf body).1 →
      let after := Recording.take { trace, counts } (.phase name detail body)
      after.gaveUp = (TraceStep.actionsOf body).2 ∧
      after.trace.openPhases = trace.openPhases ∧
      ∃ inside, after.trace.events =
          trace.events ++ ⟨.phaseStart name detail, trace.openPhases.head?⟩ ::
            (inside ++ [⟨.phaseEnd, some trace.events.length⟩]) ∧
        ∀ event ∈ inside, EndsSince (trace.events.length + 1) event := by
  refine ⟨fun steps => ?_, fun trace counts name detail body balanced => ?_⟩
  · have whole := (Recording.takeAll_eq {} rfl steps).1
    intro actions events
    have same : events = (Trace.afterAll {} actions).events := congrArg Trace.events whole
    refine ⟨whole, fun done left split => ⟨?_, (Trace.Steady.nil.afterAll done).openPhases_eq⟩,
      fun front event behind place => ?_, ?_⟩
    · rw [same, split, Trace.afterAll_append]
      exact Trace.prefix_afterAll _ left
    · exact Trace.exists_moment (same ▸ place)
    · rw [same]
      exact (Trace.Steady.nil.afterAll actions).bracketed.nested
  · obtain ⟨taken, gaveUp⟩ := Recording.take_eq { trace, counts } rfl (.phase name detail body)
    obtain ⟨inside, phase, closed⟩ := Trace.phase_of_balanced balanced trace name detail
    have block : (Recording.take { trace, counts } (.phase name detail body)).trace = _ :=
      (taken.trans (Trace.afterAll_append ..)).trans phase
    have openPhases := congrArg Trace.openPhases block
    have events := congrArg Trace.events block
    exact ⟨gaveUp, openPhases, inside, events, closed⟩

/-- A block whose body gives up inside of another block, before ends that would not be balanced:
both blocks end, and the phase around them stays open. -/
theorem ofSteps_brackets_raised :
    let trace := Trace.startPhase {} "Outer" []
    let inner : TraceStep := .phase "Inner" [] [.record (.warning "careful"), .giveUp, .finish]
    let body := [inner, .finish, .finish]
    let after := Recording.take { trace } (.phase "Block" [] body)
    Balanced (TraceStep.actionsOf body).1 ∧ after.gaveUp = true ∧ after.trace.openPhases = [0] ∧
      after.trace.events.map Event.parent = [none, some 0, some 1, some 2, some 2, some 1] := by
  intro trace inner body after
  have balanced : Balanced (TraceStep.actionsOf body).1 := rfl
  obtain ⟨gaveUp, openPhases, -⟩ := ofSteps_brackets.2 trace [] "Block" [] body balanced
  exact ⟨balanced, gaveUp, openPhases, rfl⟩

end Outdent
