import Gatehouse.Proofs.Agent.Books

/-! # Failures in a row

An agent that fails too often in a row is left alone for a while. A row of
failures begins when the agent is first registered, and again after each success
and each failure that opens a cooldown; the failure with which a row gets as long
as the threshold is the one that opens the next. Cooldowns do not add up and
nothing cuts them short: an agent is left alone as long as some cooldown that was
ever opened is not over.

The book keeps one count and one end of a cooldown for each agent. What it ought
to keep is said by looking at the calls and at which failures opened a cooldown.
-/

namespace Gatehouse.LoadBook

/-- What can be asked of the load book. -/
inductive Action where
  | register (agent : String) (wanted : Option Nat)
  | reserve (agent : String) (now : Moment)
  | release (agent : String)
  | fail (agent : String) (now : Moment)
  | succeed (agent : String)
  deriving DecidableEq

/-- What the clock shows at a failure. -/
def Action.failedAt? : Action → Option Moment
  | .fail _ now => some now
  | .register .. | .reserve .. | .release _ | .succeed _ => none

/-- A call, and whether it opened a cooldown. -/
structure Event where
  action : Action
  opened : Bool
  deriving DecidableEq

namespace Event

variable (agent : String)

/-- The agent is registered, maybe not for the first time. -/
def lists : Event → Bool
  | ⟨.register other _, _⟩ => agent = other
  | _ => false

/-- The agent fails. -/
def fails : Event → Bool
  | ⟨.fail other _, _⟩ => agent = other
  | _ => false

/-- A row of failures of the agent ends, by a success or because it got too long. -/
def endsRow : Event → Bool
  | ⟨.succeed other, _⟩ => agent = other
  | ⟨.fail other _, opened⟩ => agent = other && opened
  | _ => false

/-- When a cooldown of the agent began. -/
def opening? : Event → Option Moment
  | ⟨.fail other now, opened⟩ => if agent = other && opened then some now else none
  | _ => none

variable {agent}

/-- Where an agent is registered its row goes on as it was. -/
theorem of_lists {event : Event} (hlists : event.lists agent) :
    event.fails agent = false ∧ event.endsRow agent = false := by
  obtain ⟨action, opened⟩ := event
  cases action with
  | register => exact ⟨rfl, rfl⟩
  | reserve | release | fail | succeed => contradiction

end Event

/-- What a call makes of the book, and whether it opened a cooldown. -/
def perform (book : LoadBook) : Action → LoadBook × Bool
  | .register agent wanted => (book.register agent wanted, false)
  | .reserve agent now => (book.afterReserve agent now, false)
  | .release agent => (book.release agent, false)
  | .fail agent now =>
    let (after, effect) := book.failed agent now
    (after, decide (effect = .opened))
  | .succeed agent => (book.succeeded agent, false)

/-- What happens at a call. -/
def event (book : LoadBook) (action : Action) : Event :=
  ⟨action, (book.perform action).2⟩

/-- What a list of calls makes of the book. -/
def run (book : LoadBook) (actions : List Action) : LoadBook :=
  actions.foldl (fun book action => (book.perform action).1) book

/-- What happens during a list of calls. -/
def history (book : LoadBook) : List Action → List Event
  | [] => []
  | action :: rest => book.event action :: (book.perform action).1.history rest

/-- When the failures among some calls happened. -/
def failureTimes (actions : List Action) : List Moment :=
  actions.filterMap Action.failedAt?

section Recall

variable (agent : String)

/-- The agent has been registered. -/
def listed (past : List Event) : Bool :=
  past.any (Event.lists agent)

/-- The failures of an agent since it was first registered, since its last success and since its
last cooldown was opened, whichever came last. -/
def row (past : List Event) : Nat :=
  ((past.dropWhile fun event => !event.lists agent).reverse.takeWhile
    fun event => !event.endsRow agent).countP (Event.fails agent)

/-- When the cooldowns of an agent began. -/
def openings (past : List Event) : List Moment :=
  past.filterMap (Event.opening? agent)

end Recall

/-- The threshold is one failure or more, failures are told in the order of time, and the calendar
shows the ends of the cooldowns that they may open. -/
structure Orderly (policy : LoadPolicy) (actions : List Action) : Prop where
  breaking : 1 ≤ policy.failureThreshold
  inTime : (failureTimes actions).Pairwise (· ≤ ·)
  ending : ∀ now ∈ failureTimes actions, now.add? policy.cooldown ≠ none

/-- The clock has passed all these failures. -/
def Passed (actions : List Action) (now : Moment) : Prop :=
  ∀ failed ∈ failureTimes actions, failed ≤ now

section Recall

variable {book : LoadBook} {actions more : List Action} {action : Action} {past : List Event}
  {event : Event} {agent : String} {policy : LoadPolicy}

theorem run_append (book : LoadBook) (actions more : List Action) :
    book.run (actions ++ more) = (book.run actions).run more :=
  List.foldl_append

theorem failureTimes_append (actions more : List Action) :
    failureTimes (actions ++ more) = failureTimes actions ++ failureTimes more :=
  List.filterMap_append

theorem history_append (book : LoadBook) (actions more : List Action) :
    book.history (actions ++ more) = book.history actions ++ (book.run actions).history more := by
  induction actions generalizing book with
  | nil => rfl
  | cons first rest ih =>
      rw [List.cons_append, history, history, ih, List.cons_append]
      rfl

theorem listed_concat :
    listed agent (past ++ [event]) = (listed agent past || event.lists agent) := by
  simp [listed]

theorem openings_concat :
    openings agent (past ++ [event]) = openings agent past ++ (event.opening? agent).toList := by
  rw [openings, List.filterMap_append]
  cases hopening : event.opening? agent <;> simp [openings, hopening]

theorem dropWhile_of_not_listed (hlisted : listed agent past = false) :
    past.dropWhile (fun event => !event.lists agent) = [] :=
  List.dropWhile_eq_nil_iff.mpr fun event hevent => by
    simpa using List.any_eq_false.mp hlisted event hevent

theorem dropWhile_of_listed (hlisted : listed agent past) :
    past.dropWhile (fun event => !event.lists agent) ≠ [] := by
  intro hnil
  obtain ⟨event, hevent, hlists⟩ := List.any_eq_true.mp hlisted
  have hnot := List.dropWhile_eq_nil_iff.mp hnil event hevent
  simp [hlists] at hnot

/-- Nothing is counted of what came before an agent was registered. -/
theorem row_of_not_listed (hlisted : listed agent past = false) : row agent past = 0 := by
  rw [row, dropWhile_of_not_listed hlisted]
  rfl

/-- One more failure makes a row longer by one, unless it ends it. -/
theorem row_concat : row agent (past ++ [event]) = if event.endsRow agent then 0 else
    row agent past + if listed agent past && event.fails agent then 1 else 0 := by
  cases hlisted : listed agent past with
  | false =>
      -- An event that registers the agent for the first time is not a failure.
      rw [row_of_not_listed hlisted, row, List.dropWhile_append, dropWhile_of_not_listed hlisted]
      obtain ⟨action, opened⟩ := event
      cases action with
      | register other wanted =>
          by_cases heq : agent = other <;> simp [Event.lists, Event.endsRow, Event.fails, heq]
      | reserve | release | fail | succeed => simp [Event.lists]
  | true =>
      rw [row, List.dropWhile_append, if_neg (by simpa using dropWhile_of_listed hlisted),
        List.reverse_append, List.reverse_singleton, List.singleton_append, List.takeWhile_cons]
      cases hends : event.endsRow agent with
      | true => simp
      | false => simp [row, List.countP_cons]

/-- Every cooldown began with a failure, in the order in which they are told. -/
theorem openings_sublist (agent : String) (book : LoadBook) (actions : List Action) :
    (openings agent (book.history actions)).Sublist (failureTimes actions) := by
  induction actions generalizing book with
  | nil => exact .slnil
  | cons action rest ih =>
      have hrest := ih (book.perform action).1
      unfold openings failureTimes at hrest ⊢
      cases action with
      | fail other now =>
          simp only [history, List.filterMap_cons, Event.opening?, Action.failedAt?]
          split
          next => exact hrest.cons _
          next since hopening =>
            obtain ⟨-, hsince⟩ := Option.ite_none_right_eq_some.mp hopening
            obtain rfl := Option.some.inj hsince
            exact hrest.cons_cons _
      | register | reserve | release | succeed => exact hrest

theorem Orderly.before (horderly : Orderly policy (actions ++ more)) : Orderly policy actions where
  breaking := horderly.breaking
  inTime := by
    have htimes := horderly.inTime
    rw [failureTimes_append, List.pairwise_append] at htimes
    exact htimes.1
  ending := fun now hnow => horderly.ending now <| by
    rw [failureTimes_append]
    exact List.mem_append_left _ hnow

end Recall

section Run

variable {policy : LoadPolicy} {book : LoadBook} {past : List Event} {actions more : List Action}
  {agent : String} {now since u : Moment}

theorem policy_perform (book : LoadBook) (action : Action) :
    (book.perform action).1.policy = book.policy := by
  cases action with
  | register | release | succeed => rfl
  | reserve agent now =>
      exact afterReserve_unchanged LoadBook.policy book agent now fun _ _ hok => policy_reserve hok
  | fail agent now => exact policy_failed book agent now

/-- An agent has a count from when it is registered; the count grows with its failures and starts
afresh where a row of them ends. -/
theorem failures?_perform (book : LoadBook) (action : Action) (agent : String) :
    (book.perform action).1.failures? agent =
      if (book.event action).lists agent then some ((book.failures? agent).getD 0)
      else (book.failures? agent).map fun count =>
        if (book.event action).endsRow agent then 0
        else count + if (book.event action).fails agent then 1 else 0 := by
  cases action with
  | register other wanted =>
      by_cases heq : agent = other <;>
        simp [perform, failures?_register, event, Event.lists, Event.endsRow, Event.fails, heq]
  | reserve other now =>
      have hsame : (book.afterReserve other now).failures? agent = book.failures? agent :=
        afterReserve_unchanged (failures? · agent) book other now fun _ _ hok =>
          failures?_reserve hok agent
      simp [perform, hsame, event, Event.lists, Event.endsRow, Event.fails]
  | release other =>
      simp [perform, failures?_release, event, Event.lists, Event.endsRow, Event.fails]
  | fail other now =>
      by_cases heq : agent = other <;>
        simp [perform, failures?_failed, event, Event.lists, Event.endsRow, Event.fails, heq]
  | succeed other =>
      by_cases heq : agent = other <;>
        simp [perform, failures?_succeeded, event, Event.lists, Event.endsRow, Event.fails, heq]

/-- The end of a cooldown is set where one opens, and never otherwise. -/
theorem cooldown?_perform (book : LoadBook) (action : Action) (agent : String) :
    (book.perform action).1.cooldown? agent =
      ((book.event action).opening? agent).elim (book.cooldown? agent)
        (·.add? book.policy.cooldown) := by
  cases action with
  | register other wanted => exact cooldown?_register ..
  | reserve other now =>
      exact afterReserve_unchanged (cooldown? · agent) book other now fun _ _ hok =>
        cooldown?_reserve hok agent
  | release other => exact cooldown?_release ..
  | fail other now =>
      simp only [perform, cooldown?_failed, event, Event.opening?, Bool.and_eq_true,
        decide_eq_true_eq]
      split <;> rfl
  | succeed other => exact cooldown?_succeeded ..

/-- What the book says of each agent is what follows from the past. -/
structure Agrees (policy : LoadPolicy) (past : List Event) (book : LoadBook) : Prop where
  kept : book.policy = policy
  failures : ∀ agent,
    book.failures? agent = if listed agent past then some (row agent past) else none
  bounded : ∀ agent, row agent past < policy.failureThreshold
  cooldown : ∀ agent,
    book.cooldown? agent = (openings agent past).getLast?.bind (·.add? policy.cooldown)

theorem agrees_new (hbreaking : 1 ≤ policy.failureThreshold) : Agrees policy [] (new policy) where
  kept := rfl
  failures := fun _ => rfl
  bounded := fun _ => hbreaking
  cooldown := fun _ => rfl

/-- The failure with which a row gets as long as the threshold opens a cooldown. -/
theorem Agrees.opened_iff (hagrees : Agrees policy past book)
    (hends : now.add? policy.cooldown = some u) (agent : String) :
    (book.failed agent now).2 = .opened ↔
      listed agent past ∧ row agent past + 1 = policy.failureThreshold := by
  have hbounded := hagrees.bounded agent
  rw [LoadBook.opened_iff (by rwa [hagrees.kept]), hagrees.failures, hagrees.kept]
  constructor
  · rintro ⟨count, hcount, hreached⟩
    split at hcount
    next hlisted =>
      cases hcount
      exact ⟨hlisted, by omega⟩
    next => contradiction
  · rintro ⟨hlisted, hreached⟩
    exact ⟨row agent past, if_pos hlisted, hreached.ge⟩

theorem Agrees.perform (hagrees : Agrees policy past book) (action : Action)
    (hends : ∀ now, action.failedAt? = some now → now.add? policy.cooldown ≠ none) :
    Agrees policy (past ++ [book.event action]) (book.perform action).1 where
  kept := (policy_perform book action).trans hagrees.kept
  failures := by
    intro agent
    rw [failures?_perform, hagrees.failures, listed_concat, row_concat]
    cases hlists : (book.event action).lists agent with
    | true =>
        obtain ⟨hfails, hendsRow⟩ := Event.of_lists hlists
        cases hlisted : listed agent past with
        | true => simp [hfails, hendsRow]
        | false => simp [hfails, hendsRow, row_of_not_listed hlisted]
    | false => cases hlisted : listed agent past <;> simp
  bounded := by
    intro agent
    have hbounded := hagrees.bounded agent
    rw [row_concat]
    split
    next => omega
    next hgoes =>
      split
      next hlonger =>
        -- Had this failure made the row as long as the threshold, it would have ended it.
        rw [Bool.and_eq_true] at hlonger
        cases action with
        | fail other now =>
            obtain rfl : agent = other := by simpa [event, Event.fails] using hlonger.2
            obtain ⟨u, hu⟩ := Option.ne_none_iff_exists'.mp (hends now rfl)
            have hopened := hagrees.opened_iff hu agent
            simp [event, LoadBook.perform, Event.endsRow, hopened, hlonger.1] at hgoes
            omega
        | register | reserve | release | succeed => simp [event, Event.fails] at hlonger
      next => exact hbounded
  cooldown := by
    intro agent
    rw [cooldown?_perform, hagrees.cooldown, hagrees.kept, openings_concat]
    cases (book.event action).opening? agent <;> simp

theorem agrees_run (horderly : Orderly policy actions) :
    Agrees policy ((new policy).history actions) ((new policy).run actions) := by
  induction actions using List.reverseRecOn with
  | nil => exact agrees_new horderly.breaking
  | append_singleton actions action ih =>
      rw [run_append, history_append]
      refine (ih horderly.before).perform action fun now hnow => ?_
      apply horderly.ending now
      rw [failureTimes_append, List.mem_append]
      exact .inr (by simp [failureTimes, hnow])

/-- Of the cooldowns of an agent the last one that was opened began last. -/
theorem latest_opening (horderly : Orderly policy actions)
    (hopening : since ∈ openings agent (book.history actions)) :
    ∃ last, (openings agent (book.history actions)).getLast? = some last ∧ since ≤ last := by
  have htimes := horderly.inTime.sublist (openings_sublist agent book actions)
  rcases (openings agent (book.history actions)).eq_nil_or_concat' with
    hnone | ⟨earlier, last, hlast⟩
  · simp [hnone] at hopening
  · rw [hlast, List.pairwise_append] at htimes
    rw [hlast, List.mem_append, List.mem_singleton] at hopening
    refine ⟨last, by rw [hlast, List.getLast?_concat], ?_⟩
    rcases hopening with hearlier | rfl
    · exact htimes.2.2 since hearlier last (by simp)
    · exact Int.le_refl _

/-- An agent is left alone when and only when some cooldown of it has begun and is not over. -/
theorem isCooling_run_iff (horderly : Orderly policy actions) (hpassed : Passed actions now) :
    ((new policy).run actions).isCooling agent now ↔
      ∃ since ∈ openings agent ((new policy).history actions),
        since ≤ now ∧ now.since since < policy.cooldown := by
  have hsublist := openings_sublist agent (new policy) actions
  rw [isCooling_iff, (agrees_run horderly).cooldown]
  constructor
  · rintro ⟨u, hu, hcooling⟩
    obtain ⟨last, hlast, hends⟩ := Option.bind_eq_some_iff.mp hu
    have hmem := List.mem_of_getLast? hlast
    exact ⟨last, hmem, hpassed last (hsublist.subset hmem),
      (Moment.lt_iff_since_lt hends).mp hcooling⟩
  · rintro ⟨since, hopening, -, hlasts⟩
    obtain ⟨last, hlast, hle⟩ := latest_opening horderly hopening
    have hmem := hsublist.subset (List.mem_of_getLast? hlast)
    obtain ⟨u, hends⟩ := Option.ne_none_iff_exists'.mp (horderly.ending last hmem)
    refine ⟨u, by rw [hlast, Option.bind_some, hends], (Moment.lt_iff_since_lt hends).mpr ?_⟩
    change since.nanos ≤ last.nanos at hle
    change now.nanos - since.nanos < policy.cooldown.nanos at hlasts
    change now.nanos - last.nanos < policy.cooldown.nanos
    omega

theorem failed_run (horderly : Orderly policy actions) (hends : now.add? policy.cooldown ≠ none) :
    (((new policy).run actions).failed agent now).2 =
      if listed agent ((new policy).history actions) ∧
        row agent ((new policy).history actions) + 1 = policy.failureThreshold then .opened
      else .counted := by
  have hagrees := agrees_run horderly
  obtain ⟨u, hu⟩ := Option.ne_none_iff_exists'.mp hends
  simp only [← hagrees.opened_iff hu agent]
  cases heffect : (((new policy).run actions).failed agent now).2 with
  | counted | opened => rfl
  | overflow =>
      have hnever := add?_of_overflow heffect
      rw [hagrees.kept] at hnever
      contradiction

/-- Nobody is given a slot of an agent that is left alone, and whoever asks is told until when. -/
theorem refused_of_cooling (horderly : Orderly policy actions)
    (hcooling : ((new policy).run actions).isCooling agent now) :
    ((new policy).run actions).canAccept agent now = false ∧
      ∃ since u, (openings agent ((new policy).history actions)).getLast? = some since ∧
        since.add? policy.cooldown = some u ∧
        ((new policy).run actions).reserve agent now = .error (.coolingDown agent u) := by
  obtain ⟨u, hcooldown, hlt⟩ := isCooling_iff.mp hcooling
  have hlast := hcooldown
  rw [(agrees_run horderly).cooldown, Option.bind_eq_some_iff] at hlast
  obtain ⟨since, hsince, hends⟩ := hlast
  refine ⟨?_, since, u, hsince, hends, reserve_of_cooling hcooldown hlt⟩
  exact Bool.eq_false_iff.mpr fun haccept => rested_of_canAccept haccept hcooldown hlt

/-- Failures in a row are counted, and an agent with too many of them is left alone, exactly as the
past says. -/
structure CoolsExactly (policy : LoadPolicy) (actions : List Action) : Prop where
  /-- The failure that makes a row as long as the threshold opens a cooldown, and no other does. -/
  counts : ∀ agent now, now.add? policy.cooldown ≠ none →
    (((new policy).run actions).failed agent now).2 =
      if listed agent ((new policy).history actions) ∧
        row agent ((new policy).history actions) + 1 = policy.failureThreshold then .opened
      else .counted
  cools : ∀ agent now, Passed actions now → (((new policy).run actions).isCooling agent now ↔
    ∃ since ∈ openings agent ((new policy).history actions),
      since ≤ now ∧ now.since since < policy.cooldown)
  /-- Until then there are no slots, however many are free. -/
  refuses : ∀ agent now, ((new policy).run actions).isCooling agent now →
    ((new policy).run actions).canAccept agent now = false ∧
      ∃ since u, (openings agent ((new policy).history actions)).getLast? = some since ∧
        since.add? policy.cooldown = some u ∧
        ((new policy).run actions).reserve agent now = .error (.coolingDown agent u)
  /-- Nothing that happens in the meantime cuts a cooldown short. -/
  lasts : ∀ more, Orderly policy (actions ++ more) → ∀ agent now, Passed (actions ++ more) now →
    ((new policy).run actions).isCooling agent now →
      ((new policy).run (actions ++ more)).isCooling agent now

theorem run_coolsExactly (horderly : Orderly policy actions) : CoolsExactly policy actions where
  counts := fun _ _ hends => failed_run horderly hends
  cools := fun _ _ hpassed => isCooling_run_iff horderly hpassed
  refuses := fun _ _ hcooling => refused_of_cooling horderly hcooling
  lasts := by
    intro more hmore agent now hpassed hcooling
    have hbefore : Passed actions now := fun failed hfailed => hpassed failed <| by
      rw [failureTimes, List.filterMap_append]
      exact List.mem_append_left _ hfailed
    rw [isCooling_run_iff horderly hbefore] at hcooling
    rw [isCooling_run_iff hmore hpassed, history_append, openings, List.filterMap_append]
    obtain ⟨since, hopening, hlasts⟩ := hcooling
    exact ⟨since, List.mem_append_left _ hopening, hlasts⟩

/-- Two failures in a row are too many. -/
def impatient : LoadPolicy := ⟨2, ⟨60⟩, 1⟩

/-- An agent fails, succeeds, fails twice more, and is used and praised all the same. -/
def stumbling : List Action := [
  .register "A" (some 2),
  .fail "A" (.ofNanos 0),
  .succeed "A",
  .fail "A" (.ofNanos 4),
  .reserve "A" (.ofNanos 5),
  .fail "A" (.ofNanos 7),
  .succeed "A",
  .release "A",
  .register "A" none,
  .fail "A" (.ofNanos 9)]

theorem stumbling_coolsExactly :
    Orderly impatient stumbling ∧
    openings "A" ((new impatient).history stumbling) = [.ofNanos 7] ∧
    row "A" ((new impatient).history stumbling) = 1 ∧
    ((new impatient).run stumbling).isCooling "A" (.ofNanos 66) ∧
    ((new impatient).run stumbling).isCooling "A" (.ofNanos 67) = false ∧
    CoolsExactly impatient stumbling := by
  have horderly : Orderly impatient stumbling := ⟨by decide, by decide, by decide⟩
  exact ⟨horderly, by decide +kernel, by decide +kernel, by decide +kernel, by decide +kernel,
    run_coolsExactly horderly⟩

end Run

end Gatehouse.LoadBook
