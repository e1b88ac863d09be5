import Mathlib
import Stencil.Clock

/-!
# Timers in their order

What happens on a clock is a list of moments, each with an event and the clock right after it. The
events alone tell which timers wait (`Waits`): those that were set and neither forgotten nor fired
since. `Moment.Lawful` says what holds of a moment after those before it: no waiting timer is
overdue, the clock does not go back, and the timer that fires is the first one that waits, by the
time at which it is due and then by when it was set.

`Reaches` takes a clock one step at a time, with the numbers that were taken for timers which are
not yet set. All moments on the way are lawful (`Reaches.orderly`), and so are those of any
operations, whatever the callbacks ask for (`history_orderly`).
-/

namespace Stencil

variable {τ α : Type}

namespace Clock

/-! ### Operations -/

/-- What a script asks of a clock. -/
inductive Request (τ α : Type) where
  /-- To set a timer. The script may ask for more while its delay is read. -/
  | set (reading : List (Request τ α)) (delay : τ) (callback : α)
  /-- To forget the timer of a number, if there is one. -/
  | clear (id : Nat)

/-- What is done with a clock. -/
inductive Operation (τ α : Type) where
  | request (request : Request τ α)
  /-- To fire the timer that is due first. Its callback asks for something before it returns or
  throws. -/
  | fire (inside : List (Request τ α)) (throws : Bool)

/-- What happened on a clock. -/
inductive Event (τ α : Type) where
  | set (timer : Timer τ α)
  | cleared (id : Nat)
  | fired (timer : Timer τ α) (throws : Bool)
  /-- No timer was there to fire. -/
  | idle

/-- An event and the clock right after it. -/
structure Moment (τ α : Type) where
  event : Event τ α
  clock : Clock τ α

section

variable [Add τ]

mutual

/-- The moments of a request, and the clock after it. -/
def serve : Clock τ α → Request τ α → List (Moment τ α) × Clock τ α
  | clock, .set reading delay callback =>
    let (id, clock) := clock.number
    let (moments, clock) := serveAll clock reading
    let timer : Timer τ α := ⟨id, clock.now + delay, callback⟩
    let clock := clock.set id delay callback
    (moments ++ [⟨.set timer, clock⟩], clock)
  | clock, .clear id                   =>
    let clock := clock.clear id
    ([⟨.cleared id, clock⟩], clock)

/-- The moments of requests one after another, and the clock after them. -/
def serveAll : Clock τ α → List (Request τ α) → List (Moment τ α) × Clock τ α
  | clock, []                  => ([], clock)
  | clock, request :: requests =>
    let (first, clock) := serve clock request
    let (rest, clock) := serveAll clock requests
    (first ++ rest, clock)

end

variable [LT τ] [DecidableLT τ]

/-- The moments of an operation, and the clock after it. -/
def operate (clock : Clock τ α) : Operation τ α → List (Moment τ α) × Clock τ α
  | .request request    => clock.serve request
  | .fire inside throws =>
    match clock.fire? with
    | none                => ([⟨.idle, clock⟩], clock)
    | some (timer, clock) =>
      let (moments, later) := clock.serveAll inside
      (⟨.fired timer throws, clock⟩ :: moments, later)

/-- The moments of operations one after another. -/
def history : Clock τ α → List (Operation τ α) → List (Moment τ α)
  | _, []                  => []
  | clock, operation :: operations =>
    let (moments, clock) := clock.operate operation
    moments ++ history clock operations

end

/-! ### Waiting timers -/

/-- Whether an event ends the waiting of the timer of a number. -/
def Event.Ends (id : Nat) : Event τ α → Prop
  | .set _         => False
  | .cleared other => id = other
  | .fired timer _ => id = timer.id
  | .idle          => False

/-- Whether a timer was set, and neither forgotten nor fired since. -/
def Waits (events : List (Event τ α)) (timer : Timer τ α) : Prop :=
  ∃ before since, events = before ++ .set timer :: since ∧ ∀ event ∈ since, ¬event.Ends timer.id

/-- Whether one timer was set before another. -/
def SetBefore (events : List (Event τ α)) (timer other : Timer τ α) : Prop :=
  List.Sublist [.set timer, .set other] events

/-- The timers that wait after one more event. -/
def waitingAfter (timers : List (Timer τ α)) : Event τ α → List (Timer τ α)
  | .set timer     => timers ++ [timer]
  | .cleared id    => timers.filter fun timer => timer.id ≠ id
  | .fired fired _ => timers.filter fun timer => timer.id ≠ fired.id
  | .idle          => timers

/-- The timers that wait after events, in the order in which they were set. -/
def waiting (events : List (Event τ α)) : List (Timer τ α) := events.foldl waitingAfter []

section

variable {events : List (Event τ α)} {event : Event τ α} {timer other : Timer τ α}

lemma waiting_concat (events : List (Event τ α)) (event : Event τ α) :
    waiting (events ++ [event]) = waitingAfter (waiting events) event := by
  rw [waiting, List.foldl_append]
  rfl

lemma waits_concat :
    Waits (events ++ [event]) timer ↔
      event = .set timer ∨ (Waits events timer ∧ ¬event.Ends timer.id) := by
  constructor
  · rintro ⟨before, since, heq, hsince⟩
    rcases List.eq_nil_or_concat since with rfl | ⟨since, last, rfl⟩
    · exact .inl (List.singleton_inj.mp (List.append_inj' heq rfl).2)
    · rw [List.concat_eq_append] at heq hsince
      rw [← List.cons_append, ← List.append_assoc] at heq
      obtain ⟨rfl, hlast⟩ := List.append_inj' heq rfl
      cases hlast
      refine .inr ⟨⟨before, since, rfl, fun event hevent => ?_⟩, ?_⟩
      · exact hsince event (List.mem_append_left _ hevent)
      · exact hsince _ (List.mem_append_right _ (List.mem_singleton_self _))
  · rintro (rfl | ⟨⟨before, since, rfl, hsince⟩, hevent⟩)
    · exact ⟨events, [], rfl, List.forall_mem_nil _⟩
    · refine ⟨before, since ++ [event], by rw [List.append_assoc, List.cons_append], ?_⟩
      exact List.forall_mem_append.mpr ⟨hsince, List.forall_mem_singleton.mpr hevent⟩

/-- The list of waiting timers holds those that wait. -/
lemma mem_waiting : timer ∈ waiting events ↔ Waits events timer := by
  induction events using List.reverseRecOn with
  | nil =>
    refine ⟨fun h => (List.not_mem_nil h).elim, fun ⟨before, since, h, _⟩ => ?_⟩
    cases before <;> cases h
  | append_singleton events event ih =>
    rw [waiting_concat, waits_concat, ← ih]
    cases event with
    | set other          => simp [waitingAfter, Event.Ends, eq_comm, or_comm]
    | cleared id         => simp [waitingAfter, Event.Ends]
    | fired other throws => simp [waitingAfter, Event.Ends]
    | idle               => simp [waitingAfter, Event.Ends]

/-- The list of waiting timers is in the order in which they were set. -/
lemma waiting_sublist (events : List (Event τ α)) :
    ((waiting events).map Event.set).Sublist events := by
  induction events using List.reverseRecOn with
  | nil => exact List.Sublist.refl _
  | append_singleton events event ih =>
    rw [waiting_concat]
    have hfilter (p : Timer τ α → Bool) :
        (((waiting events).filter p).map Event.set).Sublist (events ++ [event]) :=
      (List.filter_sublist.map _).trans (ih.trans (List.sublist_append_left _ _))
    cases event with
    | set timer =>
      rw [waitingAfter, List.map_append]
      exact ih.append (List.Sublist.refl _)
    | cleared id => exact hfilter _
    | fired timer throws => exact hfilter _
    | idle => exact ih.trans (List.sublist_append_left _ _)

end

/-! ### The first timer -/

section

variable {timers : List (Timer τ α)} {timer : Timer τ α} {clock later : Clock τ α}

section

variable [LT τ] [DecidableLT τ]

lemma first?_eq_none : first? timers = none ↔ timers = [] := by
  cases timers with
  | nil => exact ⟨fun _ => rfl, fun _ => rfl⟩
  | cons head tail =>
    refine ⟨fun h => ?_, nofun⟩
    rw [first?] at h
    split at h
    · cases h
    · split at h <;> cases h

lemma fire?_eq_none : clock.fire? = none ↔ clock.timers = [] := by
  rw [← first?_eq_none, fire?]
  split <;> simp_all

end

variable [LinearOrder τ]

/-- The first timer is due before those that stand before it, and not after those behind it. -/
lemma first?_eq_some (h : first? timers = some timer) :
    ∃ front back, timers = front ++ timer :: back ∧ (∀ other ∈ front, timer.due < other.due) ∧
      ∀ other ∈ back, timer.due ≤ other.due := by
  induction timers generalizing timer with
  | nil => cases h
  | cons head tail ih =>
    rw [first?] at h
    rcases htail : first? tail with _ | first <;> rw [htail] at h
    · cases h
      rw [first?_eq_none.mp htail]
      exact ⟨[], [], rfl, List.forall_mem_nil _, List.forall_mem_nil _⟩
    obtain ⟨front, back, rfl, hfront, hback⟩ := ih htail
    dsimp only at h
    split at h
    next hlt =>
      cases h
      exact ⟨head :: front, back, rfl, List.forall_mem_cons.mpr ⟨hlt, hfront⟩, hback⟩
    next hle =>
      cases h
      have hhead : head.due ≤ first.due := not_lt.mp hle
      refine ⟨[], front ++ first :: back, rfl, List.forall_mem_nil _, ?_⟩
      refine List.forall_mem_append.mpr
        ⟨fun other hother => ?_, List.forall_mem_cons.mpr ⟨hhead, ?_⟩⟩
      · exact hhead.trans (hfront other hother).le
      · exact fun other hother => hhead.trans (hback other hother)

lemma fire?_eq_some (h : clock.fire? = some (timer, later)) :
    first? clock.timers = some timer ∧
      later = { clock.clear timer.id with now := max clock.now timer.due } := by
  rw [fire?] at h
  split at h
  · cases h
  next first hfirst =>
    cases h
    refine ⟨hfirst, ?_⟩
    rw [max_def_lt]

end

/-! ### Lawful moments -/

/-- The events of moments. -/
def events (moments : List (Moment τ α)) : List (Event τ α) := moments.map Moment.event

/-- What holds of a moment after those in the past. -/
structure Moment.Lawful [LinearOrder τ] (past : List (Moment τ α)) (m : Moment τ α) : Prop where
  /-- No timer is overdue. -/
  now_le_due : ∀ timer ∈ m.clock.timers, m.clock.now ≤ timer.due
  /-- The clock does not go back. -/
  le_now : ∀ earlier ∈ past, earlier.clock.now ≤ m.clock.now
  /-- The timers of the clock are those that wait. -/
  mem_timers : ∀ timer, timer ∈ m.clock.timers ↔ Waits (events past ++ [m.event]) timer
  /-- Each timer has a number of its own. -/
  of_set : ∀ timer, m.event = .set timer → ∀ other, .set other ∈ events past → other.id ≠ timer.id
  /-- The timer that fires is the first one that waits, by the time at which it is due and then by
  when it was set. -/
  of_fired : ∀ timer throws, m.event = .fired timer throws → Waits (events past) timer ∧
    ∀ other, Waits (events past) other → other ≠ timer →
      timer.due < other.due ∨ timer.due = other.due ∧ SetBefore (events past) timer other
  /-- A timer fires once, and after those that were due before it. -/
  fired_once : ∀ timer throws, m.event = .fired timer throws →
    ∀ other threw, .fired other threw ∈ events past → other.id ≠ timer.id ∧ other.due ≤ timer.due
  /-- A timer does not fire after it was forgotten. -/
  not_cleared : ∀ timer throws, m.event = .fired timer throws →
    ∀ before since, events past = before ++ .set timer :: since → .cleared timer.id ∉ since
  /-- There is nothing to fire only when no timer waits. -/
  of_idle : m.event = .idle → ∀ timer, ¬Waits (events past) timer

/-! ### Steps -/

/-- The number of the timer that an event set. -/
def Event.setId? : Event τ α → Option Nat
  | .set timer => some timer.id
  | _          => none

/-- The numbers of the timers that were set. -/
def setIds (moments : List (Moment τ α)) : List Nat := (events moments).filterMap Event.setId?

section

variable [LinearOrder τ] [Add τ]

/-- The clocks that are reached from the time `start` on, with the past moments and with the numbers
that were taken for timers which are not set. -/
inductive Reaches (start : τ) : (taken : List Nat) → List (Moment τ α) → Clock τ α → Prop where
  | start : Reaches start [] [] (.starting start)
  | number {taken : List Nat} {past : List (Moment τ α)} {clock : Clock τ α}
      (h : Reaches start taken past clock) :
      Reaches start (clock.nextId :: taken) past clock.number.2
  | set {taken : List Nat} {id : Nat} {past : List (Moment τ α)} {clock : Clock τ α}
      (h : Reaches start (id :: taken) past clock) (delay : τ) (callback : α) :
      Reaches start taken
        (past ++ [⟨.set ⟨id, clock.now + delay, callback⟩, clock.set id delay callback⟩])
        (clock.set id delay callback)
  | clear {taken : List Nat} {past : List (Moment τ α)} {clock : Clock τ α}
      (h : Reaches start taken past clock) (id : Nat) :
      Reaches start taken (past ++ [⟨.cleared id, clock.clear id⟩]) (clock.clear id)
  | fire {taken : List Nat} {past : List (Moment τ α)} {clock later : Clock τ α}
      {timer : Timer τ α} (h : Reaches start taken past clock)
      (hfire : clock.fire? = some (timer, later)) (throws : Bool) :
      Reaches start taken (past ++ [⟨.fired timer throws, later⟩]) later
  | idle {taken : List Nat} {past : List (Moment τ α)} {clock : Clock τ α}
      (h : Reaches start taken past clock) (hidle : clock.fire? = none) :
      Reaches start taken (past ++ [⟨.idle, clock⟩]) clock

/-- What a clock and its past have in common. -/
structure Fits (start : τ) (taken : List Nat) (past : List (Moment τ α)) (clock : Clock τ α) :
    Prop where
  start_le : start ≤ clock.now
  timers : clock.timers = waiting (events past)
  now_le_due : ∀ timer ∈ clock.timers, clock.now ≤ timer.due
  le_now : ∀ earlier ∈ past, earlier.clock.now ≤ clock.now
  due_le_now : ∀ timer throws, .fired timer throws ∈ events past → timer.due ≤ clock.now
  lt_nextId : ∀ id ∈ taken ++ setIds past, id < clock.nextId
  nodup : (taken ++ setIds past).Nodup
  fired_mem : ∀ timer throws, .fired timer throws ∈ events past → timer.id ∈ setIds past
  fired_ne : ∀ timer throws, .fired timer throws ∈ events past →
    ∀ other ∈ clock.timers, other.id ≠ timer.id

end

section

variable {past : List (Moment τ α)} {m : Moment τ α} {timer other : Timer τ α}

lemma events_concat (past : List (Moment τ α)) (m : Moment τ α) :
    events (past ++ [m]) = events past ++ [m.event] :=
  List.map_append

lemma setIds_concat (past : List (Moment τ α)) (m : Moment τ α) :
    setIds (past ++ [m]) = setIds past ++ m.event.setId?.toList := by
  rw [setIds, events_concat, List.filterMap_append]
  rcases m with ⟨_ | _ | _ | _, _⟩ <;> rfl

lemma mem_setIds (h : .set timer ∈ events past) : timer.id ∈ setIds past :=
  List.mem_filterMap.mpr ⟨_, h, rfl⟩

lemma Waits.mem (h : Waits (events past) timer) : .set timer ∈ events past := by
  obtain ⟨before, since, heq, -⟩ := h
  rw [heq]
  exact List.mem_append_right _ (List.mem_cons_self ..)

/-- A timer that waits was not forgotten since it was set. -/
lemma Waits.not_cleared (h : Waits (events past) timer) (hnodup : (setIds past).Nodup)
    {before since : List (Event τ α)} (heq : events past = before ++ .set timer :: since) :
    .cleared timer.id ∉ since := by
  obtain ⟨before', since', heq', hsince⟩ := h
  have honce {front middle back : List (Event τ α)}
      (h : events past = front ++ .set timer :: (middle ++ .set timer :: back)) : False := by
    rw [setIds, h] at hnodup
    simp [Event.setId?, List.nodup_append, List.nodup_cons] at hnodup
  have hsame : since = since' := by
    rcases List.append_eq_append_iff.mp (heq.symm.trans heq') with
        ⟨middle, rfl, h⟩ | ⟨middle, rfl, h⟩ <;>
      rcases middle with _ | ⟨_, middle⟩ <;> cases h
    · rfl
    · exact (honce heq).elim
    · rfl
    · exact (honce heq').elim
  rw [hsame]
  exact fun hmem => hsince _ hmem rfl

end

namespace Fits

variable [LinearOrder τ] {start : τ} {taken : List Nat} {past : List (Moment τ α)}
  {clock later : Clock τ α} {m : Moment τ α} {timer : Timer τ α} {id : Nat}

lemma starting (start : τ) : Fits (α := α) start [] [] (.starting start) where
  start_le := le_rfl
  timers := rfl
  now_le_due := List.forall_mem_nil _
  le_now := List.forall_mem_nil _
  due_le_now _ _ h := (List.not_mem_nil h).elim
  lt_nextId := List.forall_mem_nil _
  nodup := List.nodup_nil
  fired_mem _ _ h := (List.not_mem_nil h).elim
  fired_ne _ _ h := (List.not_mem_nil h).elim

lemma number (h : Fits start taken past clock) :
    Fits start (clock.nextId :: taken) past clock.number.2 := by
  obtain ⟨hstart, htimers, hdue, hnow, hfired, hlt, hnodup, hmem, hne⟩ := h
  refine ⟨hstart, htimers, hdue, hnow, hfired, ?_, ?_, hmem, hne⟩
  · refine List.forall_mem_cons.mpr ⟨Nat.lt_succ_self _, fun id hid => ?_⟩
    exact Nat.lt_succ_of_lt (hlt id hid)
  · exact List.nodup_cons.mpr ⟨fun hid => (hlt _ hid).false, hnodup⟩

/-- What is left to show of a moment is what its event tells. -/
lemma lawful (h : Fits start taken (past ++ [m]) m.clock)
    (of_set : ∀ timer, m.event = .set timer →
      ∀ other, .set other ∈ events past → other.id ≠ timer.id)
    (of_fired : ∀ timer throws, m.event = .fired timer throws → Waits (events past) timer ∧
      ∀ other, Waits (events past) other → other ≠ timer →
        timer.due < other.due ∨ timer.due = other.due ∧ SetBefore (events past) timer other)
    (fired_once : ∀ timer throws, m.event = .fired timer throws →
      ∀ other threw, .fired other threw ∈ events past →
        other.id ≠ timer.id ∧ other.due ≤ timer.due)
    (of_idle : m.event = .idle → ∀ timer, ¬Waits (events past) timer) : m.Lawful past where
  now_le_due := h.now_le_due
  le_now earlier hearlier := h.le_now earlier (List.mem_append_left _ hearlier)
  mem_timers timer := by rw [h.timers, mem_waiting, events_concat]
  of_set := of_set
  of_fired := of_fired
  fired_once := fired_once
  not_cleared timer throws hevent before since heq := by
    have hnodup := (List.nodup_append.mp h.nodup).2.1
    rw [setIds_concat] at hnodup
    exact (of_fired timer throws hevent).1.not_cleared (List.nodup_append.mp hnodup).1 heq
  of_idle := of_idle

variable (h : Fits start taken past clock)
include h

/-- A step that sets no timer. -/
lemma step (hset : m.event.setId? = none) (hnext : m.clock.nextId = clock.nextId)
    (hnow : clock.now ≤ m.clock.now) (htimers : m.clock.timers = waitingAfter clock.timers m.event)
    (hdue : ∀ timer ∈ m.clock.timers, m.clock.now ≤ timer.due)
    (hfired : ∀ timer throws, m.event = .fired timer throws → timer ∈ clock.timers ∧
      timer.due ≤ m.clock.now ∧ ∀ other ∈ m.clock.timers, other.id ≠ timer.id) :
    Fits start taken (past ++ [m]) m.clock := by
  have hids : setIds (past ++ [m]) = setIds past := by
    rw [setIds_concat, hset]
    exact List.append_nil _
  have hsubset : ∀ timer ∈ m.clock.timers, timer ∈ clock.timers := by
    rw [htimers]
    rcases m with ⟨_ | _ | _ | _, _⟩
    · cases hset
    · exact fun timer htimer => (List.mem_filter.mp htimer).1
    · exact fun timer htimer => (List.mem_filter.mp htimer).1
    · exact fun timer htimer => htimer
  have hmem {timer : Timer τ α} {throws : Bool} (h : .fired timer throws ∈ events (past ++ [m])) :
      .fired timer throws ∈ events past ∨ m.event = .fired timer throws := by
    rw [events_concat] at h
    exact (List.mem_append.mp h).imp_right fun h => (List.mem_singleton.mp h).symm
  refine ⟨h.start_le.trans hnow, ?_, hdue, ?_, fun timer throws hevent => ?_, ?_, ?_,
    fun timer throws hevent => ?_, fun timer throws hevent => ?_⟩
  · rw [events_concat, waiting_concat, ← h.timers, htimers]
  · refine List.forall_mem_append.mpr ⟨?_, List.forall_mem_singleton.mpr le_rfl⟩
    exact fun earlier hearlier => (h.le_now earlier hearlier).trans hnow
  · rcases hmem hevent with hevent | hevent
    · exact (h.due_le_now timer throws hevent).trans hnow
    · exact (hfired timer throws hevent).2.1
  · rw [hids, hnext]
    exact h.lt_nextId
  · rw [hids]
    exact h.nodup
  · rw [hids]
    rcases hmem hevent with hevent | hevent
    · exact h.fired_mem timer throws hevent
    · have hwaits := (hfired timer throws hevent).1
      rw [h.timers, mem_waiting] at hwaits
      exact mem_setIds hwaits.mem
  · rcases hmem hevent with hevent | hevent
    · exact fun other hother => h.fired_ne timer throws hevent other (hsubset other hother)
    · exact (hfired timer throws hevent).2.2

lemma clear (id : Nat) :
    Fits start taken (past ++ [⟨.cleared id, clock.clear id⟩]) (clock.clear id) :=
  h.step rfl rfl le_rfl rfl
    (fun timer htimer => h.now_le_due timer (List.mem_filter.mp htimer).1) nofun

lemma idle : Fits start taken (past ++ [⟨.idle, clock⟩]) clock :=
  h.step rfl rfl le_rfl rfl h.now_le_due nofun

lemma fire (hfire : clock.fire? = some (timer, later)) (throws : Bool) :
    Fits start taken (past ++ [⟨.fired timer throws, later⟩]) later := by
  obtain ⟨hfirst, rfl⟩ := fire?_eq_some hfire
  obtain ⟨front, back, htimers, hfront, hback⟩ := first?_eq_some hfirst
  have hmem : timer ∈ clock.timers := by
    rw [htimers]
    exact List.mem_append_right _ (List.mem_cons_self ..)
  refine h.step (m := ⟨.fired timer throws, _⟩) rfl rfl (le_max_left _ _) rfl ?_ ?_
  · intro other hother
    obtain ⟨hother, hne⟩ := List.mem_filter.mp hother
    refine max_le (h.now_le_due other hother) ?_
    rw [htimers] at hother
    rcases List.mem_append.mp hother with hother | hother
    · exact (hfront other hother).le
    · rcases List.mem_cons.mp hother with rfl | hother
      · exact le_rfl
      · exact hback other hother
  · rintro _ _ ⟨⟩
    exact ⟨hmem, le_max_right _ _,
      fun other hother => of_decide_eq_true (List.mem_filter.mp hother).2⟩

/-- The timer that fires is the first one that waits. -/
lemma first_waits (hfire : clock.fire? = some (timer, later)) :
    Waits (events past) timer ∧ ∀ other, Waits (events past) other → other ≠ timer →
      timer.due < other.due ∨ timer.due = other.due ∧ SetBefore (events past) timer other := by
  obtain ⟨hfirst, -⟩ := fire?_eq_some hfire
  obtain ⟨front, back, htimers, hfront, hback⟩ := first?_eq_some hfirst
  have hwaiting := h.timers.symm.trans htimers
  refine ⟨?_, fun other hother hne => ?_⟩
  · rw [← mem_waiting, hwaiting]
    exact List.mem_append_right _ (List.mem_cons_self ..)
  rw [← mem_waiting, hwaiting] at hother
  rcases List.mem_append.mp hother with hother | hother
  · exact .inl (hfront other hother)
  rcases List.mem_cons.mp hother with rfl | hother
  · exact (hne rfl).elim
  refine (hback other hother).lt_or_eq.imp_right fun hdue => ⟨hdue, ?_⟩
  have hpair : List.Sublist [timer, other] (waiting (events past)) := by
    rw [hwaiting]
    exact ((List.singleton_sublist.mpr hother).cons_cons timer).trans
      (List.sublist_append_right _ _)
  exact (hpair.map Event.set).trans (waiting_sublist _)

omit h in
lemma set [Add τ] [CanonicallyOrderedAdd τ] (h : Fits start (id :: taken) past clock) (delay : τ)
    (callback : α) :
    Fits start taken
      (past ++ [⟨.set ⟨id, clock.now + delay, callback⟩, clock.set id delay callback⟩])
      (clock.set id delay callback) := by
  have hids : setIds (past ++ [⟨.set ⟨id, clock.now + delay, callback⟩,
      clock.set id delay callback⟩]) = setIds past ++ [id] :=
    setIds_concat ..
  have hperm : (taken ++ (setIds past ++ [id])).Perm (id :: taken ++ setIds past) := by
    rw [← List.append_assoc]
    exact List.perm_append_singleton ..
  have hfresh : id ∉ setIds past := fun hid =>
    (List.nodup_cons.mp h.nodup).1 (List.mem_append_right _ hid)
  have hmem {timer other : Timer τ α} {throws : Bool} {clock : Clock τ α}
      (h : .fired timer throws ∈ events (past ++ [⟨.set other, clock⟩])) :
      .fired timer throws ∈ events past := by
    rw [events_concat] at h
    exact (List.mem_append.mp h).elim (fun h => h) fun h => nomatch List.mem_singleton.mp h
  refine ⟨h.start_le, ?_, ?_, ?_,
    fun timer throws hevent => h.due_le_now timer throws (hmem hevent), ?_, ?_,
    fun timer throws hevent => ?_, fun timer throws hevent => ?_⟩
  · rw [events_concat, waiting_concat, ← h.timers]
    rfl
  · exact List.forall_mem_append.mpr ⟨h.now_le_due, List.forall_mem_singleton.mpr le_self_add⟩
  · exact List.forall_mem_append.mpr ⟨h.le_now, List.forall_mem_singleton.mpr le_rfl⟩
  · rw [hids]
    exact fun other hother => h.lt_nextId other (hperm.mem_iff.mp hother)
  · rw [hids]
    exact hperm.nodup_iff.mpr h.nodup
  · rw [hids]
    exact List.mem_append_left _ (h.fired_mem timer throws (hmem hevent))
  · refine List.forall_mem_append.mpr ⟨h.fired_ne timer throws (hmem hevent), ?_⟩
    refine List.forall_mem_singleton.mpr fun heq => hfresh ?_
    rw [show id = timer.id from heq]
    exact h.fired_mem timer throws (hmem hevent)

end Fits

/-! ### Histories -/

/-- Whether all moments are lawful, and none is before the start. -/
def Orderly [LinearOrder τ] (start : τ) (moments : List (Moment τ α)) : Prop :=
  ∀ past m later, moments = past ++ m :: later → start ≤ m.clock.now ∧ m.Lawful past

section

variable [LinearOrder τ] {start : τ} {moments : List (Moment τ α)} {m : Moment τ α}

lemma Orderly.nil (start : τ) : Orderly (α := α) start [] := by
  intro past m later h
  cases past <;> cases h

lemma Orderly.concat (h : Orderly start moments) (hstart : start ≤ m.clock.now)
    (hm : m.Lawful moments) : Orderly start (moments ++ [m]) := by
  intro past other later heq
  rcases List.eq_nil_or_concat later with rfl | ⟨later, last, rfl⟩
  · obtain ⟨rfl, hlast⟩ := List.append_inj' heq rfl
    cases hlast
    exact ⟨hstart, hm⟩
  · rw [List.concat_eq_append, ← List.cons_append, ← List.append_assoc] at heq
    exact h past other later (List.append_inj' heq rfl).1

variable [Add τ] {taken : List Nat} {past : List (Moment τ α)} {clock later : Clock τ α}

/-- All moments on the way to a clock are lawful. -/
theorem Reaches.orderly [CanonicallyOrderedAdd τ] (h : Reaches start taken past clock) :
    Fits start taken past clock ∧ Orderly start past := by
  induction h with
  | start => exact ⟨.starting start, .nil start⟩
  | number _ ih => exact ⟨ih.1.number, ih.2⟩
  | @set taken id past clock _ delay callback ih =>
    have hfits := ih.1.set delay callback
    refine ⟨hfits, ih.2.concat hfits.start_le (hfits.lawful ?_ nofun nofun nofun)⟩
    rintro _ ⟨⟩ other hother heq
    have hid := (List.nodup_cons.mp ih.1.nodup).1
    rw [show id = other.id from heq.symm] at hid
    exact hid (List.mem_append_right _ (mem_setIds hother))
  | clear _ id ih =>
    have hfits := ih.1.clear id
    exact ⟨hfits, ih.2.concat hfits.start_le (hfits.lawful nofun nofun nofun nofun)⟩
  | @fire _ past clock _ timer _ hfire throws ih =>
    have hfits := ih.1.fire hfire throws
    refine ⟨hfits, ih.2.concat hfits.start_le (hfits.lawful nofun ?_ ?_ nofun)⟩
    · rintro _ _ ⟨⟩
      exact ih.1.first_waits hfire
    · rintro _ _ ⟨⟩ other threw hother
      have hmem := (ih.1.first_waits hfire).1
      rw [← mem_waiting, ← ih.1.timers] at hmem
      exact ⟨(ih.1.fired_ne other threw hother timer hmem).symm,
        (ih.1.due_le_now other threw hother).trans (ih.1.now_le_due timer hmem)⟩
  | idle _ hidle ih =>
    refine ⟨ih.1.idle, ih.2.concat ih.1.start_le (ih.1.idle.lawful nofun nofun nofun ?_)⟩
    intro _ timer htimer
    rw [← mem_waiting, ← ih.1.timers, fire?_eq_none.mp hidle] at htimer
    exact List.not_mem_nil htimer

mutual

lemma Reaches.serve {taken : List Nat} {past : List (Moment τ α)} {clock : Clock τ α}
    (h : Reaches start taken past clock) (request : Request τ α) :
    Reaches start taken (past ++ (clock.serve request).1) (clock.serve request).2 := by
  match request with
  | .set reading delay callback =>
    have hreading := h.number.serveAll reading
    rw [Clock.serve, ← List.append_assoc]
    exact hreading.set delay callback
  | .clear id => exact h.clear id

lemma Reaches.serveAll {taken : List Nat} {past : List (Moment τ α)} {clock : Clock τ α}
    (h : Reaches start taken past clock) (requests : List (Request τ α)) :
    Reaches start taken (past ++ (clock.serveAll requests).1) (clock.serveAll requests).2 := by
  match requests with
  | []                  =>
    rw [Clock.serveAll, List.append_nil]
    exact h
  | request :: requests =>
    rw [Clock.serveAll, ← List.append_assoc]
    exact (h.serve request).serveAll requests

end

lemma Reaches.operate (h : Reaches start taken past clock) (operation : Operation τ α) :
    Reaches start taken (past ++ (clock.operate operation).1) (clock.operate operation).2 := by
  cases operation with
  | request request    => exact h.serve request
  | fire inside throws =>
    rw [Clock.operate]
    rcases hfire : clock.fire? with _ | ⟨timer, later⟩
    · exact h.idle hfire
    · have hinside := (h.fire hfire throws).serveAll inside
      rwa [List.append_assoc] at hinside

lemma Reaches.history (h : Reaches start taken past clock) (operations : List (Operation τ α)) :
    ∃ later, Reaches start taken (past ++ clock.history operations) later := by
  induction operations generalizing past clock with
  | nil =>
    rw [Clock.history, List.append_nil]
    exact ⟨clock, h⟩
  | cons operation operations ih =>
    rw [Clock.history, ← List.append_assoc]
    exact ih (h.operate operation)

end

/-- Timers keep their order in any sequence of operations, whatever the callbacks do: each moment is
lawful, the one right after a timer was set by a callback and the one after a callback threw
included. -/
theorem history_orderly [LinearOrder τ] [Add τ] [CanonicallyOrderedAdd τ] (start : τ)
    (operations : List (Operation τ α)) :
    Orderly start ((Clock.starting start).history operations) := by
  obtain ⟨later, h⟩ := Reaches.start.history operations
  exact h.orderly.2

/-- The numbers of the timers that wait after each moment, where times are exact or infinite. The
second timer is set after the third, which is set while the delay of the second is read. The
callback of the third one forgets the first, sets a fourth that is never due, and throws. -/
theorem history_orderly_exact :
    let moments := (Clock.starting (0 : WithTop ℚ≥0)).history [
      .request (.set [] 2 ()), .request (.set [.set [] 1 ()] 1 ()),
      .fire [.clear 1, .set [] ⊤ ()] true, .fire [] false, .fire [] false, .fire [] false]
    (moments.map fun m => m.clock.timers.map Timer.id) =
        [[1], [1, 3], [1, 3, 2], [1, 2], [2], [2, 4], [4], [], []] ∧
      Orderly 0 moments :=
  ⟨by decide +kernel, history_orderly 0 _⟩

end Clock

end Stencil
