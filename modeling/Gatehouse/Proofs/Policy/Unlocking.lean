import Gatehouse.Application
import Gatehouse.Proofs.Policy.Governed

/-! # What an approval unlocks

In the application the gateway alone has approvals opened, each for a write
that the guardrails parked. An approval is looked up by its name and by nothing
else: once the operator has granted it, it unlocks every write that comes with
its name and whose command needs an approval, be it the command it was opened
for or another. What can be said is that it was opened for some write of a
command that needs an approval, and granted before the write it unlocks was
ruled on.
-/

namespace Gatehouse

deriving instance DecidableEq for Reply, GatewayEvent, Happening

/-- The write that an approval was opened for. -/
def Happening.openedFor? : Happening → Option Envelope
  | .seen (.replied _ (.creator envelope _) (.opened (.ok _))) => some envelope
  | _ => none

namespace Governed

/-- The gateway had the approval at this place opened for a write that the guardrails had parked. -/
def OpenedFor (log : List Happening) (place : Nat) (opening : Stamp) (envelope : Envelope) : Prop :=
  log[place]? = some (.opened opening) ∧
  ∃ call reason payload,
    log[place + 1]? = some (.seen (.replied call (.creator envelope payload)
      (.opened (.ok (ApprovalBook.nameFor opening))))) ∧
    .seen (.replied call (.evaluator envelope.question)
      (.decided (.ok (.requiresApproval reason none payload)))) ∈ log.take place

theorem OpenedFor.append {log : List Happening} {place : Nat} {opening : Stamp}
    {envelope : Envelope} (hopened : OpenedFor log place opening envelope)
    (added : List Happening) : OpenedFor (log ++ added) place opening envelope := by
  obtain ⟨hplace, call, reason, payload, hreply, hruling⟩ := hopened
  refine ⟨place_append hplace added, call, reason, payload, place_append hreply added, ?_⟩
  rwa [take_append hplace]

theorem OpenedFor.mem_openedFor {log : List Happening} {place : Nat} {opening : Stamp}
    {envelope : Envelope} (hopened : OpenedFor log place opening envelope) :
    envelope ∈ log.filterMap Happening.openedFor? := by
  obtain ⟨_, call, reason, payload, hreply, _⟩ := hopened
  exact List.mem_filterMap.mpr ⟨_, List.mem_of_getElem? hreply, rfl⟩

/-- Every approval was opened for a write that the guardrails had parked. -/
def Sourced (s : Governed) : Prop :=
  ∀ place opening, s.log[place]? = some (.opened opening) →
    ∃ envelope, OpenedFor s.log place opening envelope

section Sourced

variable {regime : Regime} {ttl : Span} {s : Governed}

theorem Sourced.append (hsourced : s.Sourced) {next : Governed} {added : List Happening}
    (hlog : next.log = s.log ++ added) (hadded : ∀ opening, .opened opening ∉ added) :
    next.Sourced := by
  intro place opening hplace
  rw [hlog] at hplace ⊢
  rcases place_cases hplace with ⟨_, hbefore⟩ | ⟨_, hlater⟩
  · obtain ⟨envelope, hopened⟩ := hsourced place _ hbefore
    exact ⟨envelope, hopened.append added⟩
  · exact absurd hlater (hadded opening)

theorem Sourced.move (hsourced : s.Sourced) (action : Traffic.Action) : (s.move action).Sourced :=
  hsourced.append rfl (by simp)

/-- A call that waits for an approval to be opened got there by a ruling of the guardrails. -/
theorem Recorded.parked (hrecorded : s.Recorded regime ttl) {call : CallId}
    {request : WriteRequest} {reason : String} {payload : Json}
    (hstage : s.traffic.calls.get? call = some (.opening request reason payload)) :
    .seen (.replied call (.evaluator request.envelope.question)
      (.decided (.ok (.requiresApproval reason none payload)))) ∈ s.log := by
  have hkeyed := hrecorded.of_runs (Traffic.keyed_run _ ttl) call _ hstage
  have hborne := (hrecorded.of_runs (Traffic.accounted_run _ ttl)).calls call _ hstage
  rw [← mem_seen_iff, hrecorded.history, ← WriteRequest.Keyed.question_eq hkeyed]
  exact hborne.2

theorem Sourced.openedFor (hsourced : s.Sourced) (hrecorded : s.Recorded regime ttl)
    {call : CallId} (opening stamp : Stamp) {request : WriteRequest} {reason : String}
    {payload : Json}
    (hstage : s.traffic.calls.get? call = some (.opening request reason payload)) :
    ((s.openApproval opening).move
      (.reply call stamp (.opened (.ok (ApprovalBook.nameFor opening))))).Sourced := by
  have hexpects : (Call.opening request reason payload).awaits.expects
      (.opened (.ok (ApprovalBook.nameFor opening))) := rfl
  obtain ⟨rest, hevents⟩ := Traffic.newEvents_reply stamp hstage hexpects
  intro place other hplace
  simp only [Governed.move, openApproval, hevents, List.append_assoc] at hplace ⊢
  rcases place_cases hplace with ⟨_, hbefore⟩ | ⟨hlater, _⟩
  · obtain ⟨envelope, hopened⟩ := hsourced place _ hbefore
    exact ⟨envelope, hopened.append _⟩
  · -- The only approval that is new is the one just opened, and the reply follows it.
    have hnew : place = s.log.length ∧ other = opening := by
      rw [List.getElem?_append_right hlater] at hplace
      cases hoffset : place - s.log.length with
      | zero =>
          rw [hoffset] at hplace
          exact ⟨by omega, (Happening.opened.inj (Option.some.inj hplace)).symm⟩
      | succ offset =>
          rw [hoffset, List.singleton_append, List.getElem?_cons_succ] at hplace
          have hmem := List.mem_of_getElem? hplace
          simp at hmem
    obtain ⟨rfl, rfl⟩ := hnew
    refine ⟨request.envelope, by simp, call, reason, payload, by simp [Call.awaits], ?_⟩
    rw [List.take_left]
    exact hrecorded.parked hstage

theorem sourced_step {next : Governed} (houtsiders : regime.outsiders = false)
    (hstep : Step regime s next) (hrecorded : s.Recorded regime ttl) (hsourced : s.Sourced) :
    next.Sourced := by
  cases hstep with
  | still => exact hsourced
  | moved action hleaves => exact hsourced.move action
  | ruled call stamp request hstage => exact hsourced.move _
  | openedFor call opening stamp request reason payload hstage =>
      exact hsourced.openedFor hrecorded opening stamp hstage
  | openedAside opening hallowed =>
      rw [houtsiders] at hallowed
      contradiction
  | decided id decision => exact hsourced.append rfl (by simp)

/-- Approvals are opened only for commands that need one. -/
theorem Recorded.of_openedFor (hrecorded : s.Recorded regime ttl) {place : Nat} {opening : Stamp}
    {write : Envelope} (hopened : OpenedFor s.log place opening write) :
    write.command ∉ regime.guardrails.denied ∧
      write.command ∈ regime.guardrails.approvalRequired := by
  obtain ⟨_, call, reason, payload, _, hparked⟩ := hopened
  obtain ⟨ruled, hruled⟩ := List.mem_iff_getElem?.mp hparked
  have hruling := hrecorded.ruled (of_place_take hruled).2
  exact Guardrails.decideBy_requiresApproval hruling.symm

/-- An accepted write was allowed by a ruling of the guardrails by the book as it stood then. -/
theorem Recorded.ruledAccepted (hrecorded : s.Recorded regime ttl) {call : CallId} {token : String}
    {moment : Moment} {write : Envelope} (hrequested : .seen (.requested call write) ∈ s.log)
    (hminted : .seen (.minted call token moment) ∈ s.log) :
    ∃ ruled reason,
      s.log[ruled]? = some (.seen (.replied call (.evaluator write.question)
        (.decided (.ok (.allow reason))))) ∧
      regime.guardrails.decideBy (.ofLog (s.log.take ruled)) write.question =
        .ok (.allow reason) := by
  have hjustified := hrecorded.of_runs (Traffic.justified_run _ ttl)
  have horder := hrecorded.of_runs (Traffic.inOrder_run _ ttl)
  rw [← mem_seen_iff, hrecorded.history] at hrequested hminted
  obtain ⟨request, reason, hkeyed, ⟨original, horiginal, henvelope⟩, hallowed⟩ :=
    hjustified.minted hminted
  -- A call requests one write, so it is the one that was ruled on.
  have hsame := horder.event_unique hrequested horiginal rfl rfl rfl rfl
  obtain ⟨_, rfl⟩ := GatewayEvent.requested.inj hsame
  rw [hkeyed.question_eq, henvelope, ← hrecorded.history, mem_seen_iff] at hallowed
  obtain ⟨ruled, hruled⟩ := List.mem_iff_getElem?.mp hallowed
  exact ⟨ruled, reason, hruled, (hrecorded.ruled hruled).symm⟩

end Sourced

theorem sourced_run (regime : Regime) (ttl : Span) (houtsiders : regime.outsiders = false)
    (actions : List Action) : ((start regime ttl).run regime actions).Sourced :=
  (run_keeps (fun hstep hrecorded hsourced => sourced_step houtsiders hstep hrecorded hsourced)
    (by simp [Sourced, start]) actions).2

end Governed

namespace Application

/-- The guardrails and the book of the system, whose gateway alone has approvals opened. -/
def regime (app : Application) : Regime :=
  ⟨app.guardrails, .book, false⟩

/-- The gateway and the book of the system before anything happened to them. -/
def governed (app : Application) : Governed where
  traffic := ⟨app.workshop.gateway, .empty, []⟩
  book := app.approvals
  log := []

theorem governed_wire (c : Config) (now : Moment) :
    (wire c now).governed = .start (wire c now).regime
      ((Span.ofSeconds? c.commitTokenTtlSecs).getD Gateway.fallbackTtl) := by
  rfl

theorem eq_wire_of_ofConfig {c : Config} {now : Moment} {app : Application}
    (happ : ofConfig c now = .ok app) : app = wire c now :=
  (ofConfig_eq_ok_iff.mp happ).2

end Application

namespace Governed

/-- The write of a call was accepted on an approval that the gateway had had opened for a write of
some command that needs one, and that the operator had granted between that and the ruling. -/
def Unlocked (c : Config) (log : List Happening) (call : CallId) (write : Envelope) : Prop :=
  ∃ ruled opened opening parked, opened < ruled ∧
    log[ruled]? = some (.seen (.replied call (.evaluator write.question)
      (.decided (.ok (.allow (some "approval_granted")))))) ∧
    write.approval = some (ApprovalBook.nameFor opening) ∧
    OpenedFor log opened opening parked ∧
    parked.command ∈ c.approvalRequiredCommands ∧ parked.command ∉ c.deniedCommands ∧
    GrantedSince (log.take ruled) opened (ApprovalBook.nameFor opening)

/-- In every run of the application a write of a command that needs an approval is accepted only on
one that was opened for a write of some such command and granted since. -/
theorem run_unlocked {c : Config} {now : Moment} {app : Application}
    (happ : Application.ofConfig c now = .ok app) (actions : List Action) {call : CallId}
    {token : String} {moment : Moment} {write : Envelope}
    (hrequested : .seen (.requested call write) ∈ (app.governed.run app.regime actions).log)
    (hminted : .seen (.minted call token moment) ∈ (app.governed.run app.regime actions).log)
    (hrequired : write.command ∈ c.approvalRequiredCommands) :
    Unlocked c (app.governed.run app.regime actions).log call write := by
  obtain rfl := Application.eq_wire_of_ofConfig happ
  -- The application starts as every gateway under guardrails does.
  rw [Application.governed_wire] at hrequested hminted ⊢
  generalize (Span.ofSeconds? c.commitTokenTtlSecs).getD Gateway.fallbackTtl = ttl at *
  have hrecorded := recorded_run (Application.wire c now).regime ttl actions
  have hsourced := sourced_run (Application.wire c now).regime ttl rfl actions
  obtain ⟨ruled, reason, hruled, hruling⟩ := hrecorded.ruledAccepted hrequested hminted
  rcases (Guardrails.decideBy_allow_iff.mp hruling).2 with
    ⟨hfree, _⟩ | ⟨_, rfl, approval, happroval, hstate⟩
  · exact absurd hrequired hfree
  · obtain ⟨opened, ⟨opening, hopening, rfl⟩, hgranted⟩ := ApprovalBook.granted_of_approved hstate
    obtain ⟨hlt, hopening⟩ := of_place_take hopening
    obtain ⟨parked, hopened⟩ := hsourced opened opening hopening
    obtain ⟨hfree, hneeds⟩ := hrecorded.of_openedFor hopened
    exact ⟨ruled, opened, opening, parked, hlt, hruled, happroval, hopened, hneeds, hfree, hgranted⟩

/-- Settings by which two commands need an approval. -/
def twoGuarded : Config :=
  { Config.standard with approvalRequiredCommands := ["publish_page", "delete_site"] }

/-- The application under these settings. -/
def twoGuardedApp : Application :=
  .wire twoGuarded (.ofNanos 0)

/-- A stamp of one name for everything. -/
def stampNamed (name : String) : Stamp :=
  ⟨.ofNanos 0, name, name, name⟩

/-- A harmless write. -/
def publication : Envelope :=
  { Envelope.new (stampNamed "publication") "publish_page" "editor" "site:page" .null with
    execution := some "first", key := some ⟨"first"⟩ }

/-- A dangerous write that comes with the approval of the harmless one. -/
def deletion : Envelope :=
  { Envelope.new (stampNamed "deletion") "delete_site" "editor" "site:all" .null with
    execution := some "second", key := some ⟨"second"⟩, approval := some "apr_publication" }

/-- The harmless write is parked and its approval granted, and the dangerous one is accepted. -/
def spentElsewhere : List Action := [
  .gateway (.request ⟨0⟩ (stampNamed "a") publication false),
  .gateway (.reply ⟨0⟩ (stampNamed "b") (.recorded true)),
  .rule ⟨0⟩ (stampNamed "c"),
  .gateway (.reply ⟨0⟩ (stampNamed "d") (.recorded true)),
  .openFor ⟨0⟩ (stampNamed "publication") (stampNamed "e"),
  .approve "apr_publication",
  .gateway (.request ⟨1⟩ (stampNamed "f") deletion false),
  .gateway (.reply ⟨1⟩ (stampNamed "g") (.recorded true)),
  .rule ⟨1⟩ (stampNamed "h"),
  .gateway (.reply ⟨1⟩ (stampNamed "i") (.recorded true))]

/-- What the run leaves in the log. -/
def spentElsewhereLog : List Happening :=
  (twoGuardedApp.governed.run twoGuardedApp.regime spentElsewhere).log

theorem deletion_unlocked :
    Application.ofConfig twoGuarded (.ofNanos 0) = .ok twoGuardedApp ∧
    .seen (.requested ⟨1⟩ deletion) ∈ spentElsewhereLog ∧
    .seen (.minted ⟨1⟩ "i" (.ofNanos 0)) ∈ spentElsewhereLog ∧
    deletion.command ∈ twoGuarded.approvalRequiredCommands ∧
    Unlocked twoGuarded spentElsewhereLog ⟨1⟩ deletion := by
  have happ : Application.ofConfig twoGuarded (.ofNanos 0) = .ok twoGuardedApp := by
    decide +kernel
  have hrequested : .seen (.requested ⟨1⟩ deletion) ∈ spentElsewhereLog := by decide +kernel
  have hminted : .seen (.minted ⟨1⟩ "i" (.ofNanos 0)) ∈ spentElsewhereLog := by decide +kernel
  have hrequired : deletion.command ∈ twoGuarded.approvalRequiredCommands := by decide
  exact ⟨happ, hrequested, hminted, hrequired,
    run_unlocked happ spentElsewhere hrequested hminted hrequired⟩

/-- The approval on which the dangerous write is accepted was opened for the harmless one alone. -/
theorem deletion_unlocked_by_publication :
    Application.ofConfig twoGuarded (.ofNanos 0) = .ok twoGuardedApp ∧
    .seen (.requested ⟨1⟩ deletion) ∈ spentElsewhereLog ∧
    .seen (.minted ⟨1⟩ "i" (.ofNanos 0)) ∈ spentElsewhereLog ∧
    deletion.command ∈ twoGuarded.approvalRequiredCommands ∧
    .seen (.replied ⟨1⟩ (.evaluator deletion.question)
      (.decided (.ok (.allow (some "approval_granted"))))) ∈ spentElsewhereLog ∧
    deletion.approval = some "apr_publication" ∧
    (ApprovalBook.ofLog spentElsewhereLog).state? "apr_publication" = some .approved ∧
    ∀ place opening parked, OpenedFor spentElsewhereLog place opening parked →
      parked.command = "publish_page" ∧ parked.command ≠ deletion.command := by
  have hparked : spentElsewhereLog.filterMap Happening.openedFor? = [publication] := by
    decide +kernel
  refine ⟨by decide +kernel, by decide +kernel, by decide +kernel, by decide, by decide +kernel,
    rfl, by decide +kernel, ?_⟩
  intro place opening parked hopened
  have hmem := hopened.mem_openedFor
  rw [hparked, List.mem_singleton] at hmem
  rw [hmem]
  decide

end Governed

end Gatehouse
