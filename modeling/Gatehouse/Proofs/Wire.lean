import Gatehouse.Agent.Registration
import Gatehouse.Agent.Task
import Gatehouse.Audit.Event
import Gatehouse.Orchestrator.Submission
import Gatehouse.Policy.Decision
import Gatehouse.Proofs.Json.Restores
import Gatehouse.Write.KeyRecord
import Mathlib.Data.List.DropRight

/-! # Wire types

Every type that is handed in or out as JSON is restored: a value that was
decoded, from whatever form, is decoded again from its encoding. Encoding what
was decoded is therefore a normal form, and normalising twice is normalising
once.
-/

namespace Gatehouse

open Decoder (Restores)

/-! ## Names -/

theorem WriteId.restores : Restores (fun id => .str id.text)
    (fun j => (Decoder.text j).map WriteId.mk) (fun j => (Decoder.text j).map WriteId.mk) :=
  .named fun _ => rfl

theorem WriteKey.restores? : Restores (fun key => .ofText? (key.map WriteKey.text))
    (.nullable fun j => (Decoder.text j).map WriteKey.mk)
    (.nullable fun j => (Decoder.text j).map WriteKey.mk) :=
  .named? fun _ => rfl

theorem WriteKey.restores : Restores (fun key => .str key.text)
    (fun j => (Decoder.text j).map WriteKey.mk) (fun j => (Decoder.text j).map WriteKey.mk) :=
  .named fun _ => rfl

theorem JobId.restores : Restores (fun id => .str id.text)
    (fun j => (Decoder.text j).map JobId.mk) (fun j => (Decoder.text j).map JobId.mk) :=
  .named fun _ => rfl

theorem WriteStatus.restores : Restores (fun s => .str s.text) decode decode :=
  .variant (fun s => by cases s <;> rfl) _

theorem KeyState.restores : Restores (fun s => .str s.text) decode decode :=
  .variant (fun s => by cases s <;> rfl) _

theorem JobStatus.restores : Restores (fun s => .str s.text) decode decode :=
  .variant (fun s => by cases s <;> rfl) _

theorem AuditCategory.restores : Restores (fun c => .str c.text) decode decode :=
  .variant (fun c => by cases c <;> rfl) _

theorem AuditOutcome.restores : Restores (fun o => .str o.text) decode decode :=
  .variant (fun o => by cases o <;> rfl) _

theorem HealthStatus.restores (reading : Reading) :
    Restores (fun s => .str s.text) (decode reading) (decode reading) :=
  .variant (fun s => by cases s <;> rfl) reading

theorem Text.trimStart_trimChars (cs : List Char) :
    Text.trimStart (Text.trimChars cs) = Text.trimChars cs := by
  have hends : Text.trimChars cs <+: Text.trimStart cs := List.rdropWhile_prefix Text.isBlank _
  refine List.dropWhile_eq_self_iff.mpr fun hlength => ?_
  rw [hends.getElem hlength]
  exact List.dropWhile_get_zero_not Text.isBlank cs (hlength.trans_le hends.length_le)

theorem Text.trim_trim (s : String) : Text.trim (Text.trim s) = Text.trim s := by
  have htwice : Text.trimChars (Text.trimChars s.toList) = Text.trimChars s.toList := by
    rw [Text.trimChars, Text.trimStart_trimChars]
    exact List.rdropWhile_idempotent Text.isBlank (Text.trimStart s.toList)
  rw [Text.trim, Text.trim, String.toList_ofList, htwice]

theorem JobKind.text_parse (s : String) : (parse s).text = Text.trim s := by
  unfold parse
  dsimp only
  split_ifs with hagent hwrite
  · exact hagent.symm
  · exact hwrite.symm
  · rfl

theorem JobKind.parse_text_parse (s : String) : parse (parse s).text = parse s := by
  rw [text_parse, parse, parse, Text.trim_trim]

theorem JobKind.restores : Restores (fun k => .str k.text) decode decode :=
  .named JobKind.parse_text_parse

/-! ## Records -/

theorem Envelope.restores {stamp : Stamp} (hnow : stamp.now.Shown) (later : Stamp) :
    Restores toJson (decode stamp) (decode later) := by
  refine .record (.seq (.seq (.seq (.seq (.seq (.seq (.seq (.seq (.seq (.seq (.pure ?_)
    (.field .text)) (.field .text)) (.field .text)) (.defaulted .value rfl))
    (.defaulted .text? rfl)) (.defaulted .text? rfl)) (.defaulted WriteKey.restores? rfl))
    (.defaulted .text? rfl)) (.defaulted WriteId.restores rfl))
    (.defaulted .moment (Decoder.moment_text hnow))) _ _
  intros
  exact ⟨rfl, by simp⟩

theorem WriteOutcome.restores : Restores toJson decode decode := by
  refine .record (.seq (.seq (.seq (.seq (.seq (.seq (.seq (.seq (.seq (.pure ?_)
    (.field .boolean)) (.field WriteStatus.restores)) (.field WriteId.restores))
    (.optional .text?)) (.optional .value?)) (.optional .text?))
    (.optional WriteKey.restores?)) (.optional .text?)) (.optional .text?)) _ _
  intros
  exact ⟨rfl, by simp⟩

theorem WriteOutcome.restores? :
    Restores (.ofOption toJson) (.nullable decode) (.nullable decode) :=
  restores.nullable fun _ => nofun

theorem KeyRecord.restores : Restores toJson decode decode := by
  refine .record (.seq (.seq (.seq (.seq (.seq (.seq (.pure ?_)
    (.field WriteKey.restores)) (.field KeyState.restores))
    (.optional WriteOutcome.restores?)) (.field .word32)) (.field .moment))
    (.field .moment)) _ _
  intros
  exact ⟨rfl, by simp⟩

theorem PolicyRequest.restores : Restores toJson decode decode := by
  refine .record (.seq (.seq (.seq (.seq (.seq (.seq (.pure ?_)
    (.field .text)) (.field .text)) (.field .text)) (.field .value)) (.optional .text?))
    (.optional .text?)) _ _
  intros
  exact ⟨rfl, by simp⟩

theorem Verdict.restores : Restores toJson decode decode := by
  refine .record (.seq (.seq (.seq (.pure ?_)
    (.field .boolean)) (.defaulted .text? rfl)) (.defaulted .text? rfl)) _ _
  intros
  exact ⟨rfl, by simp⟩

theorem Job.restores : Restores toJson decode decode := by
  refine .record (.seq (.seq (.seq (.seq (.seq (.seq (.seq (.seq (.seq (.seq (.seq (.pure ?_)
    (.field JobId.restores)) (.field JobKind.restores)) (.field .value)) (.optional .text?))
    (.field JobStatus.restores)) (.field .word32)) (.field .word32)) (.optional .text?))
    (.optional .value?)) (.field .moment)) (.field .moment)) _ _
  intros
  exact ⟨rfl, by simp⟩

theorem JobTally.restores : Restores toJson decode decode := by
  refine .record (.seq (.seq (.seq (.seq (.seq (.pure ?_)
    (.field .count)) (.field .count)) (.field .count)) (.field .count)) (.field .count)) _ _
  intros
  exact ⟨rfl, by simp⟩

theorem AuditEvent.restores : Restores toJson decode decode := by
  refine .record (.seq (.seq (.seq (.seq (.seq (.seq (.seq (.seq (.seq (.seq (.pure ?_)
    (.field .text)) (.field .text)) (.field AuditCategory.restores)) (.field .text))
    (.field AuditOutcome.restores)) (.optional .text?)) (.optional .text?)) (.optional .text?))
    (.field .fields)) (.field .moment)) _ _
  intros
  exact ⟨rfl, by simp⟩

theorem AgentTask.restores : Restores toJson decode decode := by
  refine .record (.seq (.seq (.seq (.seq (.pure ?_)
    (.field .text)) (.field .text)) (.field .text)) (.field .value)) _ _
  intros
  exact ⟨rfl, by simp⟩

theorem ExecutionReport.restores : Restores toJson decode decode := by
  refine .record (.seq (.seq (.seq (.seq (.seq (.seq (.pure ?_)
    (.field .boolean)) (.omitted (.nullable .text nofun))) (.omitted (.nullable .text nofun)))
    (.omitted (.congr .value? fun x => by cases x <;> rfl))) (.omitted (.nullable .text nofun)))
    (.omitted (.nullable .text nofun))) _ _
  intros
  exact ⟨by simp [toJson, Json.filled, Json.optionalField_map], by simp⟩

theorem AgentHealth.restores (reading : Reading) :
    Restores toJson (decode reading) (decode reading) := by
  refine .record (.seq (.seq (.seq (.seq (.seq (.seq (.pure ?_)
    (.field .text)) (.field .boolean)) (.field (HealthStatus.restores reading)))
    (.optional .moment?)) (.optional .text?)) (.field .moment)) _ reading
  intros
  exact ⟨rfl, by simp⟩

theorem AgentLoad.restores (reading : Reading) :
    Restores toJson (decode reading) (decode reading) := by
  refine .record (.seq (.seq (.seq (.seq (.seq (.pure ?_)
    (.field .text)) (.field .word32)) (.field .word32)) (.field .word32))
    (.optional .moment?)) _ reading
  intros
  exact ⟨rfl, by simp⟩

theorem Isolation.restores (reading : Reading) :
    Restores toJson (decode reading) (decode reading) := by
  refine .record (.seq (.seq (.seq (.pure ?_)
    (.field .text)) (.optional .text?)) (.field .moment)) _ reading
  intros
  exact ⟨rfl, by simp⟩

theorem SubmitResponse.restores : Restores toJson decode decode := by
  refine .record (.seq (.seq (.seq (.seq (.seq (.seq (.seq (.pure ?_)
    (.field JobId.restores)) (.optional .text?)) (.field JobStatus.restores)) (.field .boolean))
    (.omitted (.congr .value? fun x => by cases x <;> rfl))) (.omitted (.nullable .text nofun)))
    (.omitted (.nullable .text nofun))) _ _
  intros
  exact ⟨by simp [toJson, Json.filled, Json.optionalField_map], by simp⟩


theorem AgentSnapshot.record_restores (reading : Reading) :
    Record.Restores (fun s slots => s.toFields = Json.filled slots ∧
      slots.map Prod.fst = ["agent", "health", "load", "isolation"])
        (record reading) (record reading) := by
  refine .seq (.seq (.seq (.seq (.pure ?_)
    (.field .text)) (.optional ((AgentHealth.restores reading).nullable fun _ => nofun)))
    (.optional ((AgentLoad.restores reading).nullable fun _ => nofun)))
    (.optional ((Isolation.restores reading).nullable fun _ => nofun))
  intros
  exact ⟨rfl, rfl⟩

theorem AgentSnapshot.restores : Restores toJson decode decode := by
  refine .record (fun s hs => ?_) _ _
  obtain ⟨slots, ⟨hfields, hnames⟩, hreads⟩ := record_restores .direct s hs
  exact ⟨slots, ⟨congrArg Json.ofFields hfields, by rw [hnames]; decide⟩, hreads⟩

/-- What the registration of an agent fills. -/
def RoutedAgent.registrationSlots (capabilities : List String) (executor : String) :
    List Json.Slot :=
  [("capabilities", some (.arr (capabilities.map .str))), ("executor", some (.str executor))]

theorem RoutedAgent.record_restores :
    Record.Restores (fun a slots => slots = registrationSlots a.1 a.2) record record := by
  refine .seq (.seq (.pure ?_) (.field .texts)) (.field .text)
  intros
  rfl

/-- Both parts are read from the same object, and neither minds the fields of the other. -/
theorem RoutedAgent.restores : Restores toJson decode decode := by
  intro j a hread
  unfold decode at hread
  split at hread
  next fields =>
    obtain ⟨⟨capabilities, executor⟩, hregistered, hread⟩ := bind_eq_ok_iff.mp hread
    obtain ⟨state, hstate, hread⟩ := bind_eq_ok_iff.mp hread
    obtain rfl := Except.ok.inj hread
    obtain ⟨own, hown, hreadsOwn⟩ := record_restores _ (.of_decode hregistered)
    obtain ⟨slots, ⟨hfields, hnames⟩, hreadsState⟩ :=
      AgentSnapshot.record_restores .setAside _ (.of_decode hstate)
    have hencode : toJson ⟨capabilities, executor, state⟩ =
        .ofFields (Json.filled (own ++ slots)) := by
      simp [toJson, hown, hfields, registrationSlots, Json.filled]
    have hnodup : ((own ++ slots).map Prod.fst).Nodup := by
      simp [hown, hnames, registrationSlots]
    have hsorted := (Json.sorted_sortFields (Json.filled (own ++ slots))).nodup
    rw [hencode]
    refine bind_eq_ok_iff.mpr ⟨(capabilities, executor), ?_, bind_eq_ok_iff.mpr ⟨state, ?_, rfl⟩⟩
    · exact hreadsOwn.decode _ _ hsorted fun slot hmem =>
        Json.lookup_sortFields_filled hnodup (List.mem_append_left _ hmem)
    · exact hreadsState.decode _ _ hsorted fun slot hmem =>
        Json.lookup_sortFields_filled hnodup (List.mem_append_right _ hmem)
  next => contradiction

/-! ## Decisions -/

namespace Decision

theorem choose_eq_ok_iff {tag : Json} {decoder : Decoder Decision} :
    decode.choose tag = .ok decoder ↔
      ∃ name, tag = .str name ∧ kinds.lookup name = some decoder := by
  unfold decode.choose
  split
  next name =>
    cases hkind : kinds.lookup name with
    | none => simp [hkind]
    | some found => simp [hkind]
  next hname =>
    refine ⟨fun h => by contradiction, ?_⟩
    rintro ⟨name, rfl, -⟩
    exact absurd rfl (hname name)

/-- A decision is decoded by the rules for its kind. -/
theorem kind_of_decode {j : Json} {x : Decision} (h : decode j = .ok x) :
    ∃ name decoder rest, kinds.lookup name = some decoder ∧ decoder rest = .ok x := by
  unfold decode at h
  split at h
  · split at h
    · obtain ⟨decoder, hchoose, hread⟩ := bind_eq_ok_iff.mp h
      obtain ⟨name, -, hkind⟩ := choose_eq_ok_iff.mp hchoose
      exact ⟨name, decoder, _, hkind, hread⟩
    · contradiction
  · obtain ⟨decoder, hchoose, hread⟩ := bind_eq_ok_iff.mp h
    obtain ⟨name, -, hkind⟩ := choose_eq_ok_iff.mp hchoose
    exact ⟨name, decoder, _, hkind, hread⟩
  · contradiction
  · contradiction

theorem decode_obj {fields : List (String × Json)} {name : String} {decoder : Decoder Decision}
    {x : Decision} (htag : fields.lookup "decision" = some (.str name))
    (hkind : kinds.lookup name = some decoder)
    (hrest : decoder (.obj (fields.filter fun field => decide (field.1 ≠ "decision"))) = .ok x) :
    decode (.obj fields) = .ok x := by
  simp only [decode, htag]
  exact bind_eq_ok_iff.mpr ⟨decoder, choose_eq_ok_iff.mpr ⟨name, rfl, hkind⟩, hrest⟩

/-- What fills the encoding of a decision besides its kind is read as if it stood alone. -/
theorem restores_kind {r : Record Decision} {name whole : String}
    (hkind : kinds.lookup name = some (r.decode whole .setAside))
    (h : Record.Restores (fun x slots =>
      x.toJson = .ofFields (Json.filled (("decision", some (.str name)) :: slots)) ∧
        ("decision" :: slots.map Prod.fst).Nodup) r r) :
    Restores toJson (r.decode whole .setAside) decode := by
  intro j x hread
  obtain ⟨slots, ⟨hencode, hnodup⟩, hreads⟩ := h x (.of_decode hread)
  rw [hencode]
  obtain ⟨whole, hwhole⟩ : ∃ whole : List Json.Slot,
      whole = ("decision", some (.str name)) :: slots := ⟨_, rfl⟩
  rw [← hwhole]
  have hsorted := (Json.sorted_sortFields (Json.filled whole)).nodup
  have hlookup : ∀ slot ∈ whole, (Json.sortFields (Json.filled whole)).lookup slot.1 = slot.2 :=
    fun slot hmem => Json.lookup_sortFields_filled (hwhole ▸ hnodup) hmem
  refine decode_obj (hlookup _ (hwhole ▸ List.mem_cons_self)) hkind (hreads.decode _ _
    (hsorted.sublist (List.filter_sublist.map _)) fun slot hmem => ?_)
  have hne : slot.1 ≠ "decision" := fun heq =>
    (List.nodup_cons.mp hnodup).1 (heq ▸ List.mem_map_of_mem (f := Prod.fst) hmem)
  rw [Json.lookup_filter_ne hne]
  exact hlookup slot (hwhole ▸ List.mem_cons_of_mem _ hmem)

theorem name_of_kinds {name : String} {decoder : Decoder Decision}
    (h : kinds.lookup name = some decoder) :
    name = "allow" ∨ name = "deny" ∨ name = "requires_approval" := by
  by_contra hother
  simp only [not_or] at hother
  obtain ⟨hallow, hdeny, happroval⟩ := hother
  simp [kinds, List.lookup_cons, beq_false_of_ne hallow, beq_false_of_ne hdeny,
    beq_false_of_ne happroval] at h

theorem restores : Restores toJson decode decode := by
  intro j x hread
  obtain ⟨name, decoder, rest, hkind, hread⟩ := kind_of_decode hread
  rcases name_of_kinds hkind with rfl | rfl | rfl
  · obtain rfl := Option.some.inj hkind
    refine restores_kind hkind (.seq (.pure ?_) (.optional .text?)) rest x hread
    intros
    exact ⟨rfl, by simp⟩
  · obtain rfl := Option.some.inj hkind
    refine restores_kind hkind (.seq (.pure ?_) (.field .text)) rest x hread
    intros
    exact ⟨rfl, by simp⟩
  · obtain rfl := Option.some.inj hkind
    refine restores_kind hkind (.seq (.seq (.seq (.pure ?_) (.field .text)) (.optional .text?))
      (.defaulted .value rfl)) rest x hread
    intros
    exact ⟨rfl, by simp⟩

end Decision

/-! ## All of them -/

/-- The types whose values are handed in or out as JSON. -/
inductive WireType where
  | envelope
  | writeOutcome
  | keyRecord
  | policyRequest
  | decision
  | verdict
  | job
  | jobKind
  | jobTally
  | auditEvent
  | agentTask
  | executionReport
  | agentHealth
  | agentLoad
  | isolation
  | agentSnapshot
  | routedAgent
  | submitResponse

namespace WireType

/-- The values of a type. -/
def Value : WireType → Type
  | .envelope => Envelope
  | .writeOutcome => WriteOutcome
  | .keyRecord => KeyRecord
  | .policyRequest => PolicyRequest
  | .decision => Decision
  | .verdict => Verdict
  | .job => Job
  | .jobKind => JobKind
  | .jobTally => JobTally
  | .auditEvent => AuditEvent
  | .agentTask => AgentTask
  | .executionReport => ExecutionReport
  | .agentHealth => AgentHealth
  | .agentLoad => AgentLoad
  | .isolation => Isolation
  | .agentSnapshot => AgentSnapshot
  | .routedAgent => RoutedAgent
  | .submitResponse => SubmitResponse

/-- Decodes a value, what an envelope leaves open being taken from the stamp. -/
def decode (stamp : Stamp) : (w : WireType) → Decoder w.Value
  | .envelope => Envelope.decode stamp
  | .writeOutcome => WriteOutcome.decode
  | .keyRecord => KeyRecord.decode
  | .policyRequest => PolicyRequest.decode
  | .decision => Decision.decode
  | .verdict => Verdict.decode
  | .job => Job.decode
  | .jobKind => JobKind.decode
  | .jobTally => JobTally.decode
  | .auditEvent => AuditEvent.decode
  | .agentTask => AgentTask.decode
  | .executionReport => ExecutionReport.decode
  | .agentHealth => AgentHealth.decode .direct
  | .agentLoad => AgentLoad.decode .direct
  | .isolation => Isolation.decode .direct
  | .agentSnapshot => AgentSnapshot.decode
  | .routedAgent => RoutedAgent.decode
  | .submitResponse => SubmitResponse.decode

/-- Encodes a value. -/
def encode : (w : WireType) → w.Value → Json
  | .envelope => Envelope.toJson
  | .writeOutcome => WriteOutcome.toJson
  | .keyRecord => KeyRecord.toJson
  | .policyRequest => PolicyRequest.toJson
  | .decision => Decision.toJson
  | .verdict => Verdict.toJson
  | .job => Job.toJson
  | .jobKind => fun kind => .str kind.text
  | .jobTally => JobTally.toJson
  | .auditEvent => AuditEvent.toJson
  | .agentTask => AgentTask.toJson
  | .executionReport => ExecutionReport.toJson
  | .agentHealth => AgentHealth.toJson
  | .agentLoad => AgentLoad.toJson
  | .isolation => Isolation.toJson
  | .agentSnapshot => AgentSnapshot.toJson
  | .routedAgent => RoutedAgent.toJson
  | .submitResponse => SubmitResponse.toJson

/-- The normal form of a value: the encoding of what it is decoded to. -/
def normalize (stamp : Stamp) (w : WireType) (j : Json) : Except DecodeError Json :=
  (w.decode stamp j).map w.encode

theorem restores {stamp : Stamp} (hnow : stamp.now.Shown) (later : Stamp) (w : WireType) :
    Restores w.encode (w.decode stamp) (w.decode later) := by
  cases w with
  | envelope => exact Envelope.restores hnow later
  | writeOutcome => exact WriteOutcome.restores
  | keyRecord => exact KeyRecord.restores
  | policyRequest => exact PolicyRequest.restores
  | decision => exact Decision.restores
  | verdict => exact Verdict.restores
  | job => exact Job.restores
  | jobKind => exact JobKind.restores
  | jobTally => exact JobTally.restores
  | auditEvent => exact AuditEvent.restores
  | agentTask => exact AgentTask.restores
  | executionReport => exact ExecutionReport.restores
  | agentHealth => exact AgentHealth.restores .direct
  | agentLoad => exact AgentLoad.restores .direct
  | isolation => exact Isolation.restores .direct
  | agentSnapshot => exact AgentSnapshot.restores
  | routedAgent => exact RoutedAgent.restores
  | submitResponse => exact SubmitResponse.restores

/-- What was decoded, from whatever form, is decoded again from its encoding, so that its encoding
is its normal form. -/
theorem decode_encode (w : WireType) {stamp : Stamp} (hnow : stamp.now.Shown) {j : Json}
    {x : w.Value} (h : w.decode stamp j = .ok x) (later : Stamp) :
    w.decode later (w.encode x) = .ok x ∧ w.normalize later (w.encode x) = .ok (w.encode x) := by
  have hagain := w.restores hnow later j x h
  refine ⟨hagain, ?_⟩
  rw [normalize, hagain]
  rfl

/-- A stamp of the year 2023. -/
def undatedStamp : Stamp where
  now := .ofNanos 1700000000000000000
  id := "w1"
  eventId := "evt1"
  token := "t1"

/-- A write with a field that is unknown, and without most of those that are known. -/
def undatedWrite : Json :=
  .ofFields [
    ("actor_id", .str "u1"),
    ("colour", .str "red"),
    ("command", .str "publish_page"),
    ("resource", .str "notion:page/1")]

/-- What it is decoded to first. -/
def datedWrite : Envelope :=
  .new undatedStamp "publish_page" "u1" "notion:page/1" .null

theorem undatedWrite_decode_encode :
    undatedStamp.now.Shown ∧ envelope.decode undatedStamp undatedWrite = .ok datedWrite ∧
      ∀ later, envelope.decode later (envelope.encode datedWrite) = .ok datedWrite ∧
        envelope.normalize later (envelope.encode datedWrite) = .ok (envelope.encode datedWrite) :=
  have hread : envelope.decode undatedStamp undatedWrite = .ok datedWrite := rfl
  ⟨by decide, hread, decode_encode .envelope (by decide) hread⟩

end WireType

end Gatehouse
