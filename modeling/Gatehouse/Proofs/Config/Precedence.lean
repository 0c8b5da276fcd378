import Gatehouse.Config.Load
import Gatehouse.Proofs.Steps
import Mathlib

/-! # Which source decides a setting

A setting is decided by the first source that speaks of it: the caller, the
environment, the document, and at last the default. What each source says about
one setting is read off here setting by setting: from which variables, and from
which place of a document. Loading succeeds exactly when a document is found or
none is needed, everything in the environment that is consulted can be read, and
the settings decided in this way keep the rules.
-/

namespace Gatehouse

/-- The settings there are, by the type of their values. -/
inductive Setting : Type → Type where
  | commitTokenTtlSecs : Setting Nat
  | defaultMaxAttempts : Setting Nat
  | claimPollMillis : Setting Nat
  | waitPollMillis : Setting Nat
  | waitTimeoutSecs : Setting Nat
  | summaryKeys : Setting Nat
  | heartbeatTtlSecs : Setting Nat
  | failureThreshold : Setting Nat
  | cooldownSecs : Setting Nat
  | defaultMaxConcurrency : Setting Nat
  | heartbeatIntervalSecs : Setting Nat
  | deniedCommands : Setting (List String)
  | approvalRequiredCommands : Setting (List String)
  | agents : Setting (List AgentConfig)
  | logLevel : Setting String
  | logFormat : Setting LogFormat

namespace Setting

/-- The value of a setting. -/
def get {α : Type} : Setting α → Config → α
  | commitTokenTtlSecs => Config.commitTokenTtlSecs
  | defaultMaxAttempts => Config.defaultMaxAttempts
  | claimPollMillis => Config.claimPollMillis
  | waitPollMillis => Config.waitPollMillis
  | waitTimeoutSecs => Config.waitTimeoutSecs
  | summaryKeys => Config.summaryKeys
  | heartbeatTtlSecs => Config.heartbeatTtlSecs
  | failureThreshold => Config.failureThreshold
  | cooldownSecs => Config.cooldownSecs
  | defaultMaxConcurrency => Config.defaultMaxConcurrency
  | heartbeatIntervalSecs => Config.heartbeatIntervalSecs
  | deniedCommands => Config.deniedCommands
  | approvalRequiredCommands => Config.approvalRequiredCommands
  | agents => Config.agents
  | logLevel => Config.logLevel
  | logFormat => Config.logFormat

/-- What a patch says about a setting. -/
def said {α : Type} : Setting α → ConfigPatch → Option α
  | commitTokenTtlSecs => ConfigPatch.commitTokenTtlSecs
  | defaultMaxAttempts => ConfigPatch.defaultMaxAttempts
  | claimPollMillis => ConfigPatch.claimPollMillis
  | waitPollMillis => ConfigPatch.waitPollMillis
  | waitTimeoutSecs => ConfigPatch.waitTimeoutSecs
  | summaryKeys => ConfigPatch.summaryKeys
  | heartbeatTtlSecs => ConfigPatch.heartbeatTtlSecs
  | failureThreshold => ConfigPatch.failureThreshold
  | cooldownSecs => ConfigPatch.cooldownSecs
  | defaultMaxConcurrency => ConfigPatch.defaultMaxConcurrency
  | heartbeatIntervalSecs => ConfigPatch.heartbeatIntervalSecs
  | deniedCommands => ConfigPatch.deniedCommands
  | approvalRequiredCommands => ConfigPatch.approvalRequiredCommands
  | agents => ConfigPatch.agents
  | logLevel => ConfigPatch.logLevel
  | logFormat => ConfigPatch.logFormat

/-- The variables that a setting is read from. The first one that is not blank counts. -/
def variableNames {α : Type} : Setting α → List String
  | commitTokenTtlSecs => ["EXECGATE_GATEWAY_COMMIT_TOKEN_TTL_SECS"]
  | defaultMaxAttempts => ["EXECGATE_QUEUE_DEFAULT_MAX_ATTEMPTS"]
  | claimPollMillis => ["EXECGATE_QUEUE_CLAIM_POLL_MS"]
  | waitPollMillis => ["EXECGATE_ORCHESTRATOR_WAIT_POLL_MS"]
  | waitTimeoutSecs => ["EXECGATE_ORCHESTRATOR_WAIT_TIMEOUT_SECS"]
  | summaryKeys => ["EXECGATE_ORCHESTRATOR_OUTCOME_SUMMARY_KEYS"]
  | heartbeatTtlSecs => ["EXECGATE_RUNTIME_HEARTBEAT_TTL_SECS"]
  | failureThreshold => ["EXECGATE_RUNTIME_FAILURE_THRESHOLD"]
  | cooldownSecs => ["EXECGATE_RUNTIME_COOLDOWN_SECS"]
  | defaultMaxConcurrency => ["EXECGATE_RUNTIME_DEFAULT_MAX_CONCURRENCY"]
  | heartbeatIntervalSecs => ["EXECGATE_RUNTIME_HEARTBEAT_INTERVAL_SECS"]
  | deniedCommands => ["EXECGATE_GUARDRAILS_DENIED_COMMANDS"]
  | approvalRequiredCommands => ["EXECGATE_GUARDRAILS_APPROVAL_REQUIRED_COMMANDS"]
  | agents => []
  | logLevel => ["EXECGATE_LOGGING_LEVEL", "EXECGATE_LOG_LEVEL"]
  | logFormat => ["EXECGATE_LOGGING_FORMAT", "EXECGATE_LOG_FORMAT"]

/-- The pieces of a text between its commas, trimmed, without the blank ones. -/
def pieces (s : String) : List String :=
  ((s.toList.splitOn ',').map fun piece => String.ofList (Text.trimChars piece)).filter (· ≠ "")

/-- What the value of a variable says about a setting. -/
def parse {α : Type} : Setting α → String → Option α
  | defaultMaxAttempts | failureThreshold | defaultMaxConcurrency => ConfigOverrides.parseNatural 32
  | commitTokenTtlSecs | claimPollMillis | waitPollMillis | waitTimeoutSecs | summaryKeys
  | heartbeatTtlSecs | cooldownSecs | heartbeatIntervalSecs => ConfigOverrides.parseNatural 64
  | deniedCommands | approvalRequiredCommands => fun value => some (pieces value)
  | agents => fun _ => none
  | logLevel => some
  | logFormat => fun value => LogFormat.names.lookup (Text.normalName value)

/-- The value in the environment that is consulted for a setting. -/
def consulted? {α : Type} (x : Setting α) (env : Environment) : Option String :=
  x.variableNames.findSome? (ConfigOverrides.read env)

/-- What the environment says about a setting. -/
def inEnvironment {α : Type} (x : Setting α) (env : Environment) : Option α :=
  (x.consulted? env).bind x.parse

/-- The value in the environment that is consulted for a setting can be read. -/
def Legible {α : Type} (x : Setting α) (env : Environment) : Prop :=
  ∀ value, x.consulted? env = some value → (x.parse value).isSome

/-- The section of a document in which a setting stands: its name, its position, and how many
settings it has. Agents stand at the top. -/
def section? {α : Type} : Setting α → Option (String × Nat × Nat)
  | commitTokenTtlSecs => some ("gateway", 0, 1)
  | defaultMaxAttempts | claimPollMillis => some ("queue", 1, 2)
  | waitPollMillis | waitTimeoutSecs | summaryKeys => some ("orchestrator", 2, 3)
  | heartbeatTtlSecs | failureThreshold | cooldownSecs | defaultMaxConcurrency
  | heartbeatIntervalSecs => some ("runtime", 3, 5)
  | deniedCommands | approvalRequiredCommands => some ("guardrails", 4, 2)
  | agents => none
  | logLevel | logFormat => some ("logging", 6, 2)

/-- The name of a setting in its section, and its position there. -/
def field {α : Type} : Setting α → String × Nat
  | commitTokenTtlSecs => ("commit_token_ttl_secs", 0)
  | defaultMaxAttempts => ("default_max_attempts", 0)
  | claimPollMillis => ("claim_poll_ms", 1)
  | waitPollMillis => ("wait_poll_ms", 0)
  | waitTimeoutSecs => ("wait_timeout_secs", 1)
  | summaryKeys => ("outcome_summary_keys", 2)
  | heartbeatTtlSecs => ("heartbeat_ttl_secs", 0)
  | failureThreshold => ("failure_threshold", 1)
  | cooldownSecs => ("cooldown_secs", 2)
  | defaultMaxConcurrency => ("default_max_concurrency", 3)
  | heartbeatIntervalSecs => ("heartbeat_interval_secs", 4)
  | deniedCommands => ("denied_commands", 0)
  | approvalRequiredCommands => ("approval_required_commands", 1)
  | agents => ("agents", 5)
  | logLevel => ("level", 0)
  | logFormat => ("format", 1)

/-- What a value in a document says about a setting. -/
def read {α : Type} : Setting α → Toml → Option α
  | defaultMaxAttempts | failureThreshold | defaultMaxConcurrency => ConfigDocument.natural 32
  | commitTokenTtlSecs | claimPollMillis | waitPollMillis | waitTimeoutSecs | summaryKeys
  | heartbeatTtlSecs | cooldownSecs | heartbeatIntervalSecs => ConfigDocument.natural 64
  | deniedCommands | approvalRequiredCommands => ConfigDocument.texts
  | agents => ConfigDocument.agents
  | logLevel => ConfigDocument.text
  | logFormat => ConfigDocument.logFormat

/-- The fields of a document among which a setting stands. -/
def fieldsIn {α : Type} (x : Setting α) (document : Toml) : Option ConfigDocument.Fields :=
  (ConfigDocument.Fields.ofToml 7 document).bind fun top =>
    match x.section? with
    | none => some top
    | some (name, position, count) => ConfigDocument.sectionFields top name position count

/-- What a document says about a setting. -/
def inDocument {α : Type} (x : Setting α) (document : Toml) : Option α :=
  ((x.fieldsIn document).bind fun fields => fields.get? x.field.1 x.field.2).bind x.read

/-- No two settings are read from one variable, or from one place of a document. -/
def Separate : Prop :=
  ∀ {α β : Type} (x : Setting α) (y : Setting β),
    (∃ name, name ∈ x.variableNames ∧ name ∈ y.variableNames) ∨
      x.section? = y.section? ∧ x.field = y.field →
    (⟨α, x⟩ : Σ α, Setting α) = ⟨β, y⟩

end Setting

/-- What callers can ask for. -/
structure AskedSettings where
  logLevel : Option String := none
  logFormat : Option LogFormat := none
  commitTokenTtlSecs : Option Nat := none
  claimPollMillis : Option Nat := none
  heartbeatTtlSecs : Option Nat := none

/-- What a caller asked for, as a patch. -/
def AskedSettings.patch (asked : AskedSettings) : ConfigPatch where
  logLevel := asked.logLevel
  logFormat := asked.logFormat
  commitTokenTtlSecs := asked.commitTokenTtlSecs
  claimPollMillis := asked.claimPollMillis
  heartbeatTtlSecs := asked.heartbeatTtlSecs

/-- The document that settings are loaded from: that of the first path where a file is, with the
references to the environment filled in; or none, when there is no file and none is required. -/
inductive FoundDocument (files : String → FileContent) (env : Environment) (o : LoadOptions) :
    Option Toml → Prop where
  | absent (hmissing : ∀ path ∈ o.candidates, files path = .missing)
      (hoptional : o.requireFile = false) : FoundDocument files env o none
  | found (before rest : List String) (path text filled : String) (document : Toml)
      (hcandidates : o.candidates = before ++ path :: rest)
      (hmissing : ∀ earlier ∈ before, files earlier = .missing)
      (hreadable : files path = .readable text)
      (hfilled : Interpolation.interpolate env text = .ok filled)
      (hparsed : Toml.Reader.read filled = some document)
      (hunderstood : (ConfigDocument.patch document).isSome) :
      FoundDocument files env o (some document)

namespace Setting

theorem separate : Separate := by
  intro α β x y hshared
  cases x <;> cases y <;> first | rfl | (simp [variableNames, section?, field] at hshared)

theorem get_patched {α : Type} (x : Setting α) (c : Config) (p : ConfigPatch) :
    x.get (c.patched p) = (x.said p).getD (x.get c) := by
  cases x <;> rfl

theorem config_ext {c d : Config} (hget : ∀ {α : Type} (x : Setting α), x.get c = x.get d) :
    c = d := by
  obtain ⟨⟩ := c
  obtain ⟨⟩ := d
  rw [Config.mk.injEq]
  exact ⟨hget commitTokenTtlSecs, hget defaultMaxAttempts, hget claimPollMillis,
    hget waitPollMillis, hget waitTimeoutSecs, hget summaryKeys, hget heartbeatTtlSecs,
    hget failureThreshold, hget cooldownSecs, hget defaultMaxConcurrency,
    hget heartbeatIntervalSecs, hget deniedCommands, hget approvalRequiredCommands, hget agents,
    hget logLevel, hget logFormat⟩

theorem patch_ext {p q : ConfigPatch} (hsaid : ∀ {α : Type} (x : Setting α), x.said p = x.said q) :
    p = q := by
  obtain ⟨⟩ := p
  obtain ⟨⟩ := q
  rw [ConfigPatch.mk.injEq]
  exact ⟨hsaid commitTokenTtlSecs, hsaid defaultMaxAttempts, hsaid claimPollMillis,
    hsaid waitPollMillis, hsaid waitTimeoutSecs, hsaid summaryKeys, hsaid heartbeatTtlSecs,
    hsaid failureThreshold, hsaid cooldownSecs, hsaid defaultMaxConcurrency,
    hsaid heartbeatIntervalSecs, hsaid deniedCommands, hsaid approvalRequiredCommands, hsaid agents,
    hsaid logLevel, hsaid logFormat⟩

/-- The patch that says this about every setting. -/
def patchSaying (say : ∀ {α : Type}, Setting α → Option α) : ConfigPatch where
  commitTokenTtlSecs := say commitTokenTtlSecs
  defaultMaxAttempts := say defaultMaxAttempts
  claimPollMillis := say claimPollMillis
  waitPollMillis := say waitPollMillis
  waitTimeoutSecs := say waitTimeoutSecs
  summaryKeys := say summaryKeys
  heartbeatTtlSecs := say heartbeatTtlSecs
  failureThreshold := say failureThreshold
  cooldownSecs := say cooldownSecs
  defaultMaxConcurrency := say defaultMaxConcurrency
  heartbeatIntervalSecs := say heartbeatIntervalSecs
  deniedCommands := say deniedCommands
  approvalRequiredCommands := say approvalRequiredCommands
  agents := say agents
  logLevel := say logLevel
  logFormat := say logFormat

@[simp] theorem said_patchSaying (say : ∀ {α : Type}, Setting α → Option α) {α : Type}
    (x : Setting α) : x.said (patchSaying say) = say x := by
  cases x <;> rfl

/-- Of three patches in a row the last one that speaks of a setting decides it. -/
theorem get_patched_thrice {α : Type} (x : Setting α) (c : Config) (p q r : ConfigPatch) :
    x.get (((c.patched p).patched q).patched r) =
      (x.said r <|> x.said q <|> x.said p).getD (x.get c) := by
  simp only [get_patched]
  cases x.said r <;> cases x.said q <;> rfl

end Setting

namespace ConfigDocument

theorem of_optional {α : Type} {read : Toml → Option α} {fields : Fields} {name : String}
    {position : Nat} {found : Option α} (hfound : optional read fields name position = some found) :
    found = (fields.get? name position).bind read := by
  unfold optional at hfound
  split at hfound
  next hget =>
    obtain rfl := Option.some.inj hfound
    rw [hget, Option.bind_none]
  next v hget =>
    obtain ⟨a, hread, rfl⟩ := Option.map_eq_some_iff.mp hfound
    rw [hget, Option.bind_some, hread]

end ConfigDocument

namespace Setting

theorem said_of_document {document : Toml} {p : ConfigPatch}
    (hpatch : ConfigDocument.patch document = some p) {α : Type} (x : Setting α) :
    x.said p = x.inDocument document := by
  -- The document is read in steps: the top, the sections and the agents, then field by field.
  unfold ConfigDocument.patch at hpatch
  iterate 23 obtain ⟨_, _, hpatch⟩ := Option.bind_eq_some_iff.mp hpatch
  obtain rfl := Option.some.inj hpatch
  cases x <;>
    simp only [inDocument, fieldsIn, section?, Option.bind_some, *] <;>
    exact ConfigDocument.of_optional (by assumption)

theorem splitAtCommas_eq (cs : List Char) :
    ConfigOverrides.splitAtCommas cs = cs.splitOn ',' := by
  induction cs with
  | nil => rfl
  | cons c rest ih =>
      unfold ConfigOverrides.splitAtCommas
      rw [ih, List.splitOn_cons_eq_if_modifyHead]
      by_cases hcomma : c = ','
      · simp [hcomma]
      · cases hpieces : rest.splitOn ',' with
        | nil => exact absurd hpieces (List.splitOn_ne_nil _ _)
        | cons piece pieces => simp [hcomma]

theorem parseList_eq (value : String) : ConfigOverrides.parseList value = pieces value := by
  rw [ConfigOverrides.parseList, pieces, splitAtCommas_eq, List.filterMap_map, List.filter_map,
    ← List.filterMap_eq_filter, List.map_filterMap]
  refine List.filterMap_congr fun piece _ => ?_
  cases htrimmed : Text.trimChars piece with
  | nil => simp [htrimmed]
  | cons c rest => simp [htrimmed]

theorem legible_of_none {α : Type} {x : Setting α} {env : Environment}
    (hconsulted : x.consulted? env = none) : x.Legible env := by
  simp [Legible, hconsulted]

theorem legible_iff {α : Type} {x : Setting α} {env : Environment} {value : String}
    (hconsulted : x.consulted? env = some value) : x.Legible env ↔ (x.parse value).isSome := by
  simp [Legible, hconsulted]

theorem consulted?_single {α : Type} (x : Setting α) {name : String}
    (hnames : x.variableNames = [name]) (env : Environment) :
    x.consulted? env = ConfigOverrides.read env name := by
  rw [consulted?, hnames, List.findSome?_singleton]

theorem consulted?_pair {α : Type} (x : Setting α) {first second : String}
    (hnames : x.variableNames = [first, second]) (env : Environment) :
    x.consulted? env = (ConfigOverrides.read env first <|> ConfigOverrides.read env second) := by
  rw [consulted?, hnames, List.findSome?_cons, List.findSome?_singleton]
  cases ConfigOverrides.read env first <;> rfl

theorem number_eq_ok_iff {env : Environment} (x : Setting Nat) {bits : Nat} {name : String}
    (hnames : x.variableNames = [name]) (hparse : x.parse = ConfigOverrides.parseNatural bits)
    {found : Option Nat} :
    ConfigOverrides.number env bits name = .ok found ↔
      x.Legible env ∧ x.inEnvironment env = found := by
  unfold ConfigOverrides.number
  rw [← consulted?_single x hnames]
  cases hconsulted : x.consulted? env with
  | none => simp [legible_of_none hconsulted, inEnvironment, hconsulted]
  | some value =>
      rw [legible_iff hconsulted, inEnvironment, hconsulted, Option.bind_some, hparse]
      cases hparsed : ConfigOverrides.parseNatural bits value <;> simp [hparsed]

theorem format_eq_ok_iff {env : Environment} {found : Option LogFormat} :
    ConfigOverrides.format env = .ok found ↔
      logFormat.Legible env ∧ logFormat.inEnvironment env = found := by
  unfold ConfigOverrides.format
  rw [← consulted?_pair logFormat rfl]
  cases hconsulted : logFormat.consulted? env with
  | none => simp [legible_of_none hconsulted, inEnvironment, hconsulted]
  | some value =>
      rw [legible_iff hconsulted, inEnvironment, hconsulted, Option.bind_some, parse]
      cases hparsed : LogFormat.names.lookup (Text.normalName value) with
      | none => simp only [LogFormat.parse, hparsed]; simp
      | some format => simp only [LogFormat.parse, hparsed]; simp

theorem list_eq {env : Environment} (x : Setting (List String)) {name : String}
    (hnames : x.variableNames = [name]) (hparse : x.parse = fun value => some (pieces value)) :
    x.Legible env ∧ ConfigOverrides.list env name = x.inEnvironment env := by
  refine ⟨fun value _ => by simp [hparse], ?_⟩
  rw [ConfigOverrides.list, inEnvironment, consulted?_single x hnames, hparse,
    funext parseList_eq, Option.map_eq_bind]
  rfl

theorem level_eq (env : Environment) :
    logLevel.Legible env ∧
      (ConfigOverrides.read env "EXECGATE_LOGGING_LEVEL" <|>
        ConfigOverrides.read env "EXECGATE_LOG_LEVEL") = logLevel.inEnvironment env := by
  refine ⟨fun value _ => rfl, ?_⟩
  rw [inEnvironment, ← consulted?_pair logLevel rfl, parse, Option.bind_fun_some]

/-- The environment is read when everything in it that is consulted can be read, and then it says
about every setting what its variables say. -/
theorem environment_eq_ok_iff {env : Environment} {p : ConfigPatch} :
    ConfigOverrides.patch env = .ok p ↔
      (∀ {α : Type} (x : Setting α), x.Legible env) ∧
        ∀ {α : Type} (x : Setting α), x.said p = x.inEnvironment env := by
  constructor
  · intro hpatch
    -- The numbers are read one after the other, and the format last.
    unfold ConfigOverrides.patch at hpatch
    iterate 12 obtain ⟨_, _, hpatch⟩ := bind_eq_ok_iff.mp hpatch
    obtain rfl := Except.ok.inj hpatch
    suffices hread : ∀ {α : Type} (x : Setting α),
        x.Legible env ∧ x.inEnvironment env = x.said _ from
      ⟨fun x => (hread x).1, fun x => (hread x).2.symm⟩
    intro α x
    cases x with
    | deniedCommands => exact (list_eq deniedCommands rfl rfl).imp_right Eq.symm
    | approvalRequiredCommands =>
        exact (list_eq approvalRequiredCommands rfl rfl).imp_right Eq.symm
    | agents => exact ⟨legible_of_none rfl, rfl⟩
    | logLevel => exact (level_eq env).imp_right Eq.symm
    | logFormat => exact format_eq_ok_iff.mp (by assumption)
    | _ => exact (number_eq_ok_iff _ rfl rfl).mp (by assumption)
  · rintro ⟨hlegible, hsaid⟩
    have hnumber : ∀ (x : Setting Nat) {bits : Nat} {name : String}, x.variableNames = [name] →
        x.parse = ConfigOverrides.parseNatural bits →
        ConfigOverrides.number env bits name = .ok (x.said p) := by
      intro x bits name hnames hparse
      exact (number_eq_ok_iff x hnames hparse).mpr ⟨hlegible x, (hsaid x).symm⟩
    unfold ConfigOverrides.patch
    rw [hnumber commitTokenTtlSecs rfl rfl, hnumber defaultMaxAttempts rfl rfl,
      hnumber claimPollMillis rfl rfl, hnumber waitPollMillis rfl rfl,
      hnumber waitTimeoutSecs rfl rfl, hnumber summaryKeys rfl rfl,
      hnumber heartbeatTtlSecs rfl rfl, hnumber failureThreshold rfl rfl,
      hnumber cooldownSecs rfl rfl, hnumber defaultMaxConcurrency rfl rfl,
      hnumber heartbeatIntervalSecs rfl rfl,
      format_eq_ok_iff.mpr ⟨hlegible logFormat, (hsaid logFormat).symm⟩,
      (list_eq deniedCommands rfl rfl).2, (list_eq approvalRequiredCommands rfl rfl).2,
      (level_eq env).2,
      ← hsaid deniedCommands, ← hsaid approvalRequiredCommands, ← hsaid logLevel]
    refine congrArg Except.ok (patch_ext fun x => ?_)
    cases x with
    | agents => exact (hsaid agents).symm
    | _ => rfl

end Setting

namespace Config

theorem patchOf_eq_ok_iff {env : Environment} {path : String} {content : FileContent}
    {p : ConfigPatch} :
    patchOf env path content = .ok p ↔
      ∃ text filled document, content = .readable text ∧
        Interpolation.interpolate env text = .ok filled ∧
        Toml.Reader.read filled = some document ∧ ConfigDocument.patch document = some p := by
  cases content with
  | missing | unreadable => simp [patchOf]
  | readable text =>
      unfold patchOf
      constructor
      · intro hread
        obtain ⟨filled, hfilled, hread⟩ := bind_eq_ok_iff.mp hread
        split at hread
        next patch hpatch =>
          obtain rfl := Except.ok.inj hread
          obtain ⟨document, hparsed, hpatch⟩ := Option.bind_eq_some_iff.mp hpatch
          exact ⟨text, filled, document, rfl, mapError_eq_ok_iff.mp hfilled, hparsed, hpatch⟩
        next => contradiction
      · rintro ⟨_, filled, document, hsame, hfilled, hparsed, hpatch⟩
        cases hsame
        refine bind_eq_ok_iff.mpr ⟨filled, mapError_eq_ok_iff.mpr hfilled, ?_⟩
        simp only [hparsed, Option.bind_some, hpatch]

/-- The file is read when the document is found, and then it says about every setting what stands
at the place of the setting in the document. -/
theorem filePatch_eq_ok_iff {files : String → FileContent} {env : Environment} {o : LoadOptions}
    {p : ConfigPatch} :
    filePatch files env o = .ok p ↔ ∃ document?, FoundDocument files env o document? ∧
      ∀ {α : Type} (x : Setting α), x.said p = document?.bind x.inDocument := by
  unfold filePatch
  constructor
  · intro hfile
    split at hfile
    next path hfind =>
      obtain ⟨_, before, rest, hcandidates, hmissing⟩ := List.find?_eq_some_iff_append.mp hfind
      obtain ⟨text, filled, document, hreadable, hfilled, hparsed, hpatch⟩ :=
        patchOf_eq_ok_iff.mp hfile
      refine ⟨some document, .found before rest path text filled document hcandidates ?_ hreadable
        hfilled hparsed (by simp [hpatch]), Setting.said_of_document hpatch⟩
      simpa using hmissing
    next hfind =>
      split at hfile
      next => contradiction
      next hrequired =>
        obtain rfl := Except.ok.inj hfile
        refine ⟨none, .absent ?_ (by simpa using hrequired), fun x => by cases x <;> rfl⟩
        simpa [findFile] using hfind
  · rintro ⟨document?, hfound, hsaid⟩
    cases hfound with
    | absent hmissing hoptional =>
        have hnone : findFile files o.candidates = none := by simpa [findFile] using hmissing
        rw [hnone, hoptional]
        exact congrArg Except.ok (Setting.patch_ext fun x => (hsaid x).symm ▸ by cases x <;> rfl)
    | found before rest path text filled document hcandidates hmissing hreadable hfilled hparsed
        hunderstood =>
        have hsome : findFile files o.candidates = some path := by
          refine List.find?_eq_some_iff_append.mpr
            ⟨by simp [hreadable], before, rest, hcandidates, ?_⟩
          simpa using hmissing
        obtain ⟨q, hpatch⟩ := Option.isSome_iff_exists.mp hunderstood
        have hsame : q = p := Setting.patch_ext fun x =>
          (Setting.said_of_document hpatch x).trans (hsaid x).symm
        rw [hsome]
        exact patchOf_eq_ok_iff.mpr
          ⟨text, filled, document, hreadable, hfilled, hparsed, hsame ▸ hpatch⟩

/-- Loading succeeds exactly with the settings that the sources decide one by one, if they keep the
rules. -/
theorem load_eq_ok_iff {files : String → FileContent} {env : Environment} {o : LoadOptions}
    {c : Config} :
    load files env o = .ok c ↔ ∃ document?, FoundDocument files env o document? ∧
      (∀ {α : Type} (x : Setting α), x.Legible env) ∧
      (∀ {α : Type} (x : Setting α), x.get c =
        (x.said o.overrides <|> x.inEnvironment env <|> document?.bind x.inDocument).getD
          (x.get standard)) ∧
      c.validate = .ok () := by
  unfold load
  constructor
  · intro hload
    obtain ⟨fromFile, hfile, hload⟩ := bind_eq_ok_iff.mp hload
    obtain ⟨fromEnvironment, henvironment, hload⟩ := bind_eq_ok_iff.mp hload
    obtain ⟨_, hvalid, hload⟩ := bind_eq_ok_iff.mp hload
    obtain rfl := Except.ok.inj hload
    obtain ⟨document?, hfound, hdocument⟩ := filePatch_eq_ok_iff.mp hfile
    obtain ⟨hlegible, hsaid⟩ := Setting.environment_eq_ok_iff.mp henvironment
    refine ⟨document?, hfound, hlegible, fun x => ?_, ?_⟩
    · rw [x.get_patched_thrice, hsaid, hdocument]
    · exact mapError_eq_ok_iff.mp hvalid
  · rintro ⟨document?, hfound, hlegible, hget, hvalid⟩
    let fromFile := Setting.patchSaying fun x => document?.bind x.inDocument
    let fromEnvironment := Setting.patchSaying fun x => x.inEnvironment env
    have hfile : filePatch files env o = .ok fromFile :=
      filePatch_eq_ok_iff.mpr ⟨document?, hfound, Setting.said_patchSaying _⟩
    have henvironment : ConfigOverrides.patch env = .ok fromEnvironment :=
      Setting.environment_eq_ok_iff.mpr ⟨hlegible, Setting.said_patchSaying _⟩
    have hmerged :
        c = ((standard.patched fromFile).patched fromEnvironment).patched o.overrides := by
      refine Setting.config_ext fun x => ?_
      rw [hget, x.get_patched_thrice, Setting.said_patchSaying, Setting.said_patchSaying]
    rw [hfile, henvironment]
    refine bind_eq_ok_iff.mpr ⟨_, rfl, bind_eq_ok_iff.mpr ⟨_, rfl, ?_⟩⟩
    rw [← hmerged]
    exact bind_eq_ok_iff.mpr ⟨(), mapError_eq_ok_iff.mpr hvalid, rfl⟩

/-- Every setting is decided by its own sources alone: by the caller before the environment, by that
before the document, and by the default at last. Settings are loaded exactly when the document is
found or none is needed, what is consulted in the environment can be read, and the settings keep the
rules once all sources have spoken. -/
theorem load_precedence :
    Setting.Separate ∧
      ∀ (files : String → FileContent) (env : Environment) (path : Option String)
        (requireFile : Bool) (asked : AskedSettings) (c : Config),
        load files env ⟨path, requireFile, asked.patch⟩ = .ok c ↔
          ∃ document?, FoundDocument files env ⟨path, requireFile, asked.patch⟩ document? ∧
            (∀ {α : Type} (x : Setting α), x.Legible env) ∧
            (∀ {α : Type} (x : Setting α), x.get c =
              (x.said asked.patch <|> x.inEnvironment env <|> document?.bind x.inDocument).getD
                (x.get standard)) ∧
            c.validate = .ok () :=
  ⟨Setting.separate, fun _ _ _ _ _ _ => load_eq_ok_iff⟩

/-- Without a file the level comes from the second variable, as the first one is blank, and the
format from the caller. -/
example : load (fun _ => .missing)
    (.ofList [("EXECGATE_LOGGING_LEVEL", " "), ("EXECGATE_LOG_LEVEL", "debug"),
      ("EXECGATE_LOG_FORMAT", "pretty")])
    ⟨none, false, AskedSettings.patch { logFormat := some .json }⟩ =
      .ok { standard with logLevel := "debug", logFormat := .json } := by
  decide +kernel

end Config

end Gatehouse
