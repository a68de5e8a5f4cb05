import Mathlib.Data.List.Basic
import Mathlib.Tactic.Common
import Openlit.AgentRegistry
import Openlit.AgentSync

/-!
The remote configuration of an agent, between the server that sets it and the
agent that applies it. A new configuration is computed under the lock of the
agent and sent after it, so configurations may reach the agent in any order;
none is lost. The status exchange makes up for the order: once all is quiet the
agent has the hash of the configuration that the server has for it
(`config_converges`).
-/
namespace Openlit.RemoteConfigSync
open Openlit.AgentStatus

variable {Description Packages : Type}

/-! ### The configuration and its hash -/

/-- The hash of the configuration that the server has for the agent. -/
def currentHash (agent : Agent Description Packages) : Option Bytes := agent.remoteConfig.map (·.configHash)
/-- The last report of a remote configuration that is stored. -/
def storedStatus (agent : Agent Description Packages) : Option RemoteConfigStatus :=
  agent.status.bind (·.remoteConfigStatus)

section
variable [Hashing]

/-- What `calcRemoteConfig` computes. -/
def remoteConfigOf (customInstanceConfig : Bytes) : AgentRemoteConfig :=
  { config := [("", { body := customInstanceConfig })]
    configHash := Hashing.sha256 ("".toUTF8.toList ++ customInstanceConfig ++ "".toUTF8.toList) }
/-- The remote configuration, once there is one, is computed from the text for the agent. -/
def Computed (agent : Agent Description Packages) : Prop :=
  agent.remoteConfig = none ∨ agent.remoteConfig = some (remoteConfigOf agent.customInstanceConfig)

theorem calcRemoteConfig_agent (agent : Agent Description Packages) :
    (calcRemoteConfig agent).1 = { agent with remoteConfig := some (remoteConfigOf agent.customInstanceConfig) } := rfl
theorem calcRemoteConfig_changed (agent : Agent Description Packages) :
    (calcRemoteConfig agent).2 =
      decide (agent.remoteConfig.map (·.config) ≠ some (remoteConfigOf agent.customInstanceConfig).config) := rfl

theorem setCustomConfig_computed (agent : Agent Description Packages) (body : Bytes) :
    Computed (setCustomConfig agent body) := .inr rfl
theorem customConfigMessage_remoteConfig (agent : Agent Description Packages) (body : Bytes) :
    ∀ message ∈ customConfigMessage agent body, message.remoteConfig = some (remoteConfigOf body) := by
  intro message sent
  simp only [customConfigMessage, calcRemoteConfig_agent, Option.mem_def, Option.ite_none_right_eq_some,
    Option.some.injEq] at sent
  rw [← sent.2]
/-- A configuration that is not sent is the one that is there. -/
theorem setCustomConfig_unsent {agent : Agent Description Packages} (computed : Computed agent) {body : Bytes}
    (unsent : customConfigMessage agent body = none) :
    (setCustomConfig agent body).remoteConfig = agent.remoteConfig := by
  have same : agent.remoteConfig.map (·.config) = some (remoteConfigOf body).config := by
    simpa [customConfigMessage, calcRemoteConfig_changed] using unsent
  show some (remoteConfigOf body) = agent.remoteConfig
  rcases computed with absent | present
  · simp [absent] at same
  · rw [present] at same ⊢
    have bodies : agent.customInstanceConfig = body := by simpa [remoteConfigOf] using same
    rw [bodies]

variable [DecidableEq Description]

omit [Hashing] in
theorem updateStatusField_config (agent : Agent Description Packages) (message : AgentToServer Description Packages) :
    (updateStatusField agent message).1.remoteConfig = agent.remoteConfig ∧
      (updateStatusField agent message).1.customInstanceConfig = agent.customInstanceConfig := by
  have described (a : Agent Description Packages) : (updateAgentDescription a message).1.remoteConfig = a.remoteConfig ∧
      (updateAgentDescription a message).1.customInstanceConfig = a.customInstanceConfig := by
    cases known : a.status with
    | none => simp [updateAgentDescription, known]
    | some status => simp [updateAgentDescription, known]
  have merged (a : Agent Description Packages) :
      (updateHealth (updateRemoteConfigStatus a message) message).remoteConfig = a.remoteConfig ∧
        (updateHealth (updateRemoteConfigStatus a message) message).customInstanceConfig = a.customInstanceConfig := by
    cases health : message.health <;> cases remote : message.remoteConfigStatus <;>
      simp [updateHealth, updateRemoteConfigStatus, health, remote]
  cases known : agent.status with
  | none => simp [updateStatusField, known, merged, described]
  | some status => simp [updateStatusField, known, merged, described]

omit [DecidableEq Description] [Hashing] in
theorem updateEffectiveConfig_keeps (agent : Agent Description Packages) (message : AgentToServer Description Packages) :
    (updateEffectiveConfig agent message).remoteConfig = agent.remoteConfig ∧
      (updateEffectiveConfig agent message).customInstanceConfig = agent.customInstanceConfig ∧
      storedStatus (updateEffectiveConfig agent message) = storedStatus agent := by
  rw [updateEffectiveConfig]
  split
  · cases known : agent.status <;> simp [storedStatus, known]
  · simp

/-- A report leaves the configuration as it is, or has it computed anew where the description is another one. -/
theorem updateStatus_config (agent : Agent Description Packages) (message : AgentToServer Description Packages) :
    (updateStatus agent message).1.customInstanceConfig = agent.customInstanceConfig ∧
      (updateStatus agent message).1.remoteConfig =
        if (updateStatusField agent message).2 then some (remoteConfigOf agent.customInstanceConfig)
        else agent.remoteConfig := by
  obtain ⟨kept, text⟩ := updateStatusField_config agent message
  cases changed : (updateStatusField agent message).2 with
  | true => simp [updateStatus, processStatusUpdate, changed, updateEffectiveConfig_keeps, calcRemoteConfig_agent, text]
  | false => simp [updateStatus, processStatusUpdate, changed, updateEffectiveConfig_keeps, kept, text]

theorem updateStatus_computed {agent : Agent Description Packages} (computed : Computed agent)
    (message : AgentToServer Description Packages) : Computed (updateStatus agent message).1 := by
  obtain ⟨text, config⟩ := updateStatus_config agent message
  rw [Computed, text, config]
  cases (updateStatusField agent message).2 with
  | true => exact .inr rfl
  | false => exact computed
/-- A configuration that is there is not changed by a report. -/
theorem updateStatus_keeps {agent : Agent Description Packages} (computed : Computed agent)
    (message : AgentToServer Description Packages) {config : AgentRemoteConfig} (present : agent.remoteConfig = some config) :
    (updateStatus agent message).1.remoteConfig = some config := by
  rw [(updateStatus_config agent message).2]
  rcases computed with absent | same
  · rw [present] at absent
    cases absent
  · rw [← same, present, ite_self]
/-- After a report there is a configuration, if there was one after every report before. -/
theorem updateStatus_configured {agent : Agent Description Packages}
    (configured : agent.status ≠ none → agent.remoteConfig ≠ none) (message : AgentToServer Description Packages) :
    (updateStatus agent message).1.remoteConfig ≠ none := by
  rw [(updateStatus_config agent message).2]
  cases known : agent.status with
  | none =>
    have first : (updateStatusField agent message).2 = true := by simp [updateStatusField, known]
    simp [first]
  | some status =>
    split
    · simp
    · exact configured (by simp [known])

theorem updateStatus_storedStatus (agent : Agent Description Packages) (message : AgentToServer Description Packages) :
    storedStatus (updateStatus agent message).1 = Delta.merge message.remoteConfigStatus (storedStatus agent) := by
  rw [storedStatus, AgentSync.updateStatus_status]
  cases known : agent.status with
  | none => cases sent : message.remoteConfigStatus <;> simp [AgentSync.stored, AgentSync.mergedFields, storedStatus, known, sent]
  | some status => simp [AgentSync.stored, AgentSync.mergedFields, storedStatus, known]

/-- The configuration in a reply: the current one, if it was changed by the
    report or the hash that is stored is another one. -/
theorem updateStatus_reply (agent : Agent Description Packages) (message : AgentToServer Description Packages) :
    ∃ changed : Bool, (updateStatus agent message).2.remoteConfig =
      if changed = true ∨ ∃ status ∈ storedStatus (updateStatus agent message).1,
          currentHash (updateStatus agent message).1 ≠ some status.lastRemoteConfigHash then
        (updateStatus agent message).1.remoteConfig
      else none := by
  let configured := if (updateStatusField agent message).2 then calcRemoteConfig (updateStatusField agent message).1
    else ((updateStatusField agent message).1, false)
  obtain ⟨config, _, kept⟩ := updateEffectiveConfig_keeps configured.1 message
  have after : (updateStatus agent message).1 = updateEffectiveConfig configured.1 message := rfl
  refine ⟨configured.2, ?_⟩
  rw [after, currentHash, config, kept]
  have silent (response : ServerToAgent) (unset : response.remoteConfig = none) (due : Bool) :
      (if due then { response with remoteConfig := configured.1.remoteConfig } else response).remoteConfig =
        if due then configured.1.remoteConfig else none := by
    cases due with
    | true => rfl
    | false => exact unset
  have reply : (updateStatus agent message).2.remoteConfig =
      if (configured.2 || ((storedStatus configured.1).map (·.lastRemoteConfigHash)).any fun last =>
        configured.1.remoteConfig.map (·.configHash) ≠ some last) then configured.1.remoteConfig else none := by
    refine silent _ ?_ _
    split <;> split <;> rfl
  rw [reply]
  cases storedStatus configured.1 <;> simp

/-- A reply without a configuration says that the hash that is stored is the current one. -/
theorem updateStatus_silent {agent : Agent Description Packages}
    (configured : agent.status ≠ none → agent.remoteConfig ≠ none) (message : AgentToServer Description Packages)
    (silent : (updateStatus agent message).2.remoteConfig = none) :
    ∀ status ∈ storedStatus (updateStatus agent message).1,
      currentHash (updateStatus agent message).1 = some status.lastRemoteConfigHash := by
  intro status stored
  obtain ⟨changed, reply⟩ := updateStatus_reply agent message
  by_cases same : currentHash (updateStatus agent message).1 = some status.lastRemoteConfigHash
  · exact same
  · rw [reply, if_pos (.inr ⟨status, stored, same⟩)] at silent
    exact absurd silent (updateStatus_configured configured message)

end

/-! ### The two sides and the messages between them -/

/-- The server's record of the agent, the agent, and what is under way. A
    message to the agent that replies to a report carries the number of the
    report. `processed` are the reports that the server has processed;
    `received` are the agent's configurations, the last one first, of which it
    has `hash`; `reported` is its last report of that hash since it last
    received or applied a configuration. -/
structure System (Description Packages : Type) where
  server : Agent Description Packages
  processed : List (AgentToServer Description Packages) := []
  pending : List ServerToAgent := []
  toAgent : List (Option Nat × ServerToAgent) := []
  toServer : List (Nat × AgentToServer Description Packages) := []
  hash : Bytes
  received : List AgentRemoteConfig := []
  applied : Bool := true
  reports : Nat := 0
  reported : Option Nat := none
  answered : Bool := false

/-- What may happen next. Messages, and the configurations that the agent has, are taken by their places. -/
inductive Action (Description Packages : Type)
  | setCustomConfig (body : Bytes)
  | send (place : Nat)
  | report (message : AgentToServer Description Packages)
  | process (place : Nat)
  | deliver (place : Nat)
  | apply (place : Nat)

/-- A report of the agent's hash, if it reports a remote configuration at all. -/
def withHash (message : AgentToServer Description Packages) (hash : Bytes) : AgentToServer Description Packages :=
  { message with
    remoteConfigStatus := message.remoteConfigStatus.map fun status => { status with lastRemoteConfigHash := hash } }
/-- What the agent does with a message: a configuration is to be applied and reported anew. -/
def receive (sys : System Description Packages) (number : Option Nat) (message : ServerToAgent) :
    System Description Packages :=
  match message.remoteConfig with
  | some config =>
    { sys with received := config :: sys.received, applied := false, reported := none, answered := false }
  | none => { sys with answered := sys.answered || (number.isSome && number == sys.reported) }

section
variable [Hashing] [DecidableEq Description]

/-- One step; where there is nothing at a place, nothing happens. -/
def step (sys : System Description Packages) : Action Description Packages → System Description Packages
  | .setCustomConfig body =>
    { sys with
      server := AgentStatus.setCustomConfig sys.server body
      pending := sys.pending ++ (customConfigMessage sys.server body).toList }
  | .send place =>
    match sys.pending[place]? with
    | none => sys
    | some message =>
      { sys with pending := sys.pending.eraseIdx place, toAgent := sys.toAgent ++ [(none, message)] }
  | .report message =>
    { sys with
      toServer := sys.toServer ++ [(sys.reports, withHash message sys.hash)]
      reports := sys.reports + 1
      reported := if message.remoteConfigStatus.isSome then some sys.reports else sys.reported
      answered := if message.remoteConfigStatus.isSome then false else sys.answered }
  | .process place =>
    match sys.toServer[place]? with
    | none => sys
    | some (number, message) =>
      { sys with
        server := (updateStatus sys.server message).1
        processed := sys.processed ++ [message]
        toServer := sys.toServer.eraseIdx place
        toAgent := sys.toAgent ++ [(some number, (updateStatus sys.server message).2)] }
  | .deliver place =>
    match sys.toAgent[place]? with
    | none => sys
    | some (number, message) => receive { sys with toAgent := sys.toAgent.eraseIdx place } number message
  | .apply place =>
    match sys.received[place]? with
    | none => sys
    | some config => { sys with hash := config.configHash, applied := decide (place = 0), reported := none, answered := false }
/-- A run from a new agent, which may have a persisted configuration, and any hash that it has by then. -/
def run (persisted : Option Bytes) (hash : Bytes) (actions : List (Action Description Packages)) :
    System Description Packages :=
  actions.foldl step { server := AgentRegistry.loadPersistedConfig {} persisted, hash := hash }

end

/-- Nothing is under way, and the agent has applied the last configuration that
    it received, then reported its hash and received the reply. -/
structure Quiet (sys : System Description Packages) : Prop where
  pending : sys.pending = []
  toAgent : sys.toAgent = []
  toServer : sys.toServer = []
  applied : sys.applied = true
  reported : sys.reported.isSome
  answered : sys.answered = true

/-! ### The invariant -/

/-- A configuration is to be sent or on its way to the agent. -/
def Coming (sys : System Description Packages) : Prop :=
  (∃ message ∈ sys.pending, message.remoteConfig ≠ none) ∨ ∃ sent ∈ sys.toAgent, sent.2.remoteConfig ≠ none

/-- What holds at any time. The report of the agent's hash carries it until it
    is processed, and from then on the hash is the current one or another
    configuration is coming. -/
structure Converging [Hashing] (sys : System Description Packages) : Prop where
  computed : Computed sys.server
  configured : sys.server.status ≠ none → sys.server.remoteConfig ≠ none
  unreported : storedStatus sys.server = none → ∀ message ∈ sys.processed, message.remoteConfigStatus = none
  numbered : ∀ report ∈ sys.toServer, report.1 < sys.reports
  fresh : ∀ number ∈ sys.reported, number < sys.reports
  carried : ∀ number ∈ sys.reported, ∀ message, (number, message) ∈ sys.toServer →
    message.remoteConfigStatus.map (·.lastRemoteConfigHash) = some sys.hash
  agreed : ∀ number ∈ sys.reported, (∀ message, (number, message) ∉ sys.toServer) →
    currentHash sys.server = some sys.hash ∨ Coming sys

theorem mem_eraseIdx_of_ne {α : Type} {l : List α} {i : Nat} {a b : α} (member : a ∈ l) (at_ : l[i]? = some b)
    (different : a ≠ b) : a ∈ l.eraseIdx i := by
  rw [List.mem_eraseIdx_iff_getElem?]
  obtain ⟨j, found⟩ := List.mem_iff_getElem?.mp member
  refine ⟨j, ?_, found⟩
  rintro rfl
  rw [at_] at found
  exact different (Option.some.inj found).symm

/-- A sent message is no less on its way. -/
theorem coming_send {sys : System Description Packages} (coming : Coming sys) {place : Nat} {message : ServerToAgent}
    (found : sys.pending[place]? = some message) :
    Coming { sys with pending := sys.pending.eraseIdx place, toAgent := sys.toAgent ++ [(none, message)] } := by
  rcases coming with ⟨other, member, config⟩ | ⟨other, member, config⟩
  · by_cases same : other = message
    · exact .inr ⟨(none, message), by simp, by rwa [← same]⟩
    · exact .inl ⟨other, mem_eraseIdx_of_ne member found same, config⟩
  · exact .inr ⟨other, List.mem_append_left _ member, config⟩

section
variable [Hashing] [DecidableEq Description]

theorem converging_setCustomConfig {sys : System Description Packages} (inv : Converging sys) (body : Bytes) :
    Converging (step sys (.setCustomConfig body)) := by
  refine ⟨setCustomConfig_computed sys.server body, fun _ => by simp [step, setCustomConfig, calcRemoteConfig_agent],
    inv.unreported, inv.numbered, inv.fresh, inv.carried, ?_⟩
  intro number reported processed
  cases sent : customConfigMessage sys.server body with
  | some message =>
    have config := customConfigMessage_remoteConfig sys.server body message sent
    exact .inr (.inl ⟨message, by simp [step, sent], by simp [config]⟩)
  | none =>
    have same : currentHash (setCustomConfig sys.server body) = currentHash sys.server := by
      rw [currentHash, setCustomConfig_unsent inv.computed sent, currentHash]
    rcases inv.agreed number reported processed with current | ⟨message, member, config⟩ | coming
    · exact .inl (same.trans current)
    · exact .inr (.inl ⟨message, List.mem_append_left _ member, config⟩)
    · exact .inr (.inr coming)

theorem converging_send {sys : System Description Packages} (inv : Converging sys) (place : Nat) :
    Converging (step sys (.send place)) := by
  cases found : sys.pending[place]? with
  | none => simpa [step, found] using inv
  | some message =>
    simp only [step, found]
    refine ⟨inv.computed, inv.configured, inv.unreported, inv.numbered, inv.fresh, inv.carried, ?_⟩
    intro number reported processed
    rcases inv.agreed number reported processed with current | coming
    · exact .inl current
    · exact .inr (coming_send coming found)

/-- A report that carries the hash is under way, and any other leaves the last one as it is. -/
theorem converging_report {sys : System Description Packages} (inv : Converging sys)
    (message : AgentToServer Description Packages) : Converging (step sys (.report message)) := by
  have below {number : Nat} {sent : AgentToServer Description Packages}
      (member : (number, sent) ∈ sys.toServer ++ [(sys.reports, withHash message sys.hash)]) :
      (number, sent) ∈ sys.toServer ∨ number = sys.reports ∧ sent = withHash message sys.hash := by
    simpa using member
  refine ⟨inv.computed, inv.configured, inv.unreported, ?_, ?_, ?_, ?_⟩
  · rintro ⟨number, sent⟩ member
    rcases below member with old | ⟨rfl, rfl⟩
    · exact Nat.lt_succ_of_lt (inv.numbered _ old)
    · exact Nat.lt_succ_self _
  · intro number reported
    cases remote : message.remoteConfigStatus with
    | none => exact Nat.lt_succ_of_lt (inv.fresh number (by simpa [step, remote] using reported))
    | some status =>
      have same : sys.reports = number := by simpa [step, remote] using reported
      simp [step, ← same]
  · intro number reported sent member
    cases remote : message.remoteConfigStatus with
    | none =>
      have before : number ∈ sys.reported := by simpa [step, remote] using reported
      have old := inv.fresh number before
      rcases below member with earlier | ⟨rfl, _⟩
      · exact inv.carried number before sent earlier
      · exact absurd old (Nat.lt_irrefl _)
    | some status =>
      have same : sys.reports = number := by simpa [step, remote] using reported
      rcases below member with earlier | ⟨_, rfl⟩
      · have old := inv.numbered _ earlier
        rw [same] at old
        exact absurd old (Nat.lt_irrefl _)
      · simp [step, withHash, remote]
  · intro number reported processed
    cases remote : message.remoteConfigStatus with
    | none =>
      have before : number ∈ sys.reported := by simpa [step, remote] using reported
      exact inv.agreed number before fun sent member => processed sent (List.mem_append_left _ member)
    | some status =>
      have same : sys.reports = number := by simpa [step, remote] using reported
      exact absurd (by simp [step, same]) (processed (withHash message sys.hash))

/-- Once the report of the agent's hash is processed, the hash is the current one or the reply brings another. -/
theorem converging_process {sys : System Description Packages} (inv : Converging sys) (place : Nat) :
    Converging (step sys (.process place)) := by
  cases found : sys.toServer[place]? with
  | none => simpa [step, found] using inv
  | some entry =>
    obtain ⟨k, message⟩ := entry
    have listed : (k, message) ∈ sys.toServer := List.mem_of_getElem? found
    simp only [step, found]
    refine ⟨updateStatus_computed inv.computed message, fun _ => updateStatus_configured inv.configured message, ?_,
      fun report member => inv.numbered report (List.mem_of_mem_eraseIdx member), inv.fresh,
      fun number reported sent member => inv.carried number reported sent (List.mem_of_mem_eraseIdx member), ?_⟩
    · intro unreported other member
      rw [updateStatus_storedStatus] at unreported
      cases remote : message.remoteConfigStatus with
      | some status => simp [remote] at unreported
      | none =>
        rcases List.mem_append.mp member with earlier | last
        · exact inv.unreported (by simpa [remote] using unreported) other earlier
        · rw [List.mem_singleton.mp last]
          exact remote
    · intro number reported processed
      cases replied : (updateStatus sys.server message).2.remoteConfig with
      | some config => exact .inr (.inr ⟨(some k, (updateStatus sys.server message).2), by simp, by simp [replied]⟩)
      | none =>
        by_cases own : number = k
        · subst own
          have hash := inv.carried number reported message listed
          cases remote : message.remoteConfigStatus with
          | none => simp [remote] at hash
          | some status =>
            have stored : status ∈ storedStatus (updateStatus sys.server message).1 := by
              rw [updateStatus_storedStatus, remote]
              rfl
            refine .inl ((updateStatus_silent inv.configured message replied status stored).trans ?_)
            simpa [remote] using hash
        · have before : ∀ sent, (number, sent) ∉ sys.toServer := by
            intro sent member
            exact processed sent (mem_eraseIdx_of_ne member found fun same => own (congrArg Prod.fst same))
          rcases inv.agreed number reported before with current | ⟨other, member, config⟩ | ⟨other, member, config⟩
          · refine .inl ?_
            cases present : sys.server.remoteConfig with
            | none => simp [currentHash, present] at current
            | some config =>
              have kept := updateStatus_keeps inv.computed message present
              rw [← current, currentHash, currentHash, kept, present]
          · exact .inr (.inl ⟨other, member, config⟩)
          · exact .inr (.inr ⟨other, List.mem_append_left _ member, config⟩)

/-- A configuration that arrives calls for a new report, and any other message brings none. -/
theorem converging_deliver {sys : System Description Packages} (inv : Converging sys) (place : Nat) :
    Converging (step sys (.deliver place)) := by
  cases found : sys.toAgent[place]? with
  | none => simpa [step, found] using inv
  | some entry =>
    obtain ⟨k, message⟩ := entry
    simp only [step, found]
    cases brought : message.remoteConfig with
    | some config =>
      simp only [receive, brought]
      exact ⟨inv.computed, inv.configured, inv.unreported, inv.numbered, nofun, nofun, nofun⟩
    | none =>
      simp only [receive, brought]
      refine ⟨inv.computed, inv.configured, inv.unreported, inv.numbered, inv.fresh, inv.carried, ?_⟩
      intro number reported processed
      rcases inv.agreed number reported processed with current | sent | ⟨other, member, config⟩
      · exact .inl current
      · exact .inr (.inl sent)
      · refine .inr (.inr ⟨other, mem_eraseIdx_of_ne member found ?_, config⟩)
        rintro rfl
        exact config brought

theorem converging_apply {sys : System Description Packages} (inv : Converging sys) (place : Nat) :
    Converging (step sys (.apply place)) := by
  cases found : sys.received[place]? with
  | none => simpa [step, found] using inv
  | some config =>
    simp only [step, found]
    exact ⟨inv.computed, inv.configured, inv.unreported, inv.numbered, nofun, nofun, nofun⟩

theorem converging_step {sys : System Description Packages} (inv : Converging sys) :
    ∀ action : Action Description Packages, Converging (step sys action)
  | .setCustomConfig body => converging_setCustomConfig inv body
  | .send place => converging_send inv place
  | .report message => converging_report inv message
  | .process place => converging_process inv place
  | .deliver place => converging_deliver inv place
  | .apply place => converging_apply inv place

theorem converging_run (persisted : Option Bytes) (hash : Bytes) (actions : List (Action Description Packages)) :
    Converging (run persisted hash actions) := by
  induction actions using List.reverseRecOn with
  | nil =>
    have computed : Computed (AgentRegistry.loadPersistedConfig ({} : Agent Description Packages) persisted) := by
      cases persisted with
      | none => exact .inl rfl
      | some body => exact .inr rfl
    have silent : (AgentRegistry.loadPersistedConfig ({} : Agent Description Packages) persisted).status = none := by
      cases persisted <;> rfl
    exact ⟨computed, fun known => absurd silent known, nofun, nofun, nofun, nofun, nofun⟩
  | append_singleton actions action ih =>
    rw [run, List.foldl_append]
    exact converging_step ih action

/-- After any run: where all is quiet the agent has the hash of the server's
    configuration, and a reply without a configuration is given only if the
    hash that is stored is the current one or no report had one. -/
theorem config_converges (persisted : Option Bytes) (hash : Bytes) (actions : List (Action Description Packages)) :
    (Quiet (run persisted hash actions) →
        currentHash (run persisted hash actions).server = some (run persisted hash actions).hash) ∧
      ∀ place number message, (run persisted hash actions).toServer[place]? = some (number, message) →
        (updateStatus (run persisted hash actions).server message).2.remoteConfig = none →
          (storedStatus (step (run persisted hash actions) (.process place)).server).map (·.lastRemoteConfigHash) =
              currentHash (step (run persisted hash actions) (.process place)).server ∨
            ∀ report ∈ (step (run persisted hash actions) (.process place)).processed, report.remoteConfigStatus = none := by
  have inv := converging_run persisted hash actions
  constructor
  · intro quiet
    obtain ⟨number, reported⟩ := Option.isSome_iff_exists.mp quiet.reported
    rcases inv.agreed number reported (by simp [quiet.toServer]) with current | ⟨_, member, _⟩ | ⟨_, member, _⟩
    · exact current
    · simp [quiet.pending] at member
    · simp [quiet.toAgent] at member
  · intro place number message found silent
    have after := converging_process inv place
    cases stored : storedStatus (step (run persisted hash actions) (.process place)).server with
    | none => exact .inr (after.unreported stored)
    | some status =>
      simp only [step, found] at stored ⊢
      exact .inl (updateStatus_silent inv.configured message silent status stored).symm

end

/-! ### A configuration that is overtaken -/

section
/-- A digest that tells texts apart. -/
local instance plainHash : Hashing := ⟨fun bytes => bytes⟩

def hashReport : AgentToServer Unit Unit :=
  { sequenceNum := 0, capabilities := 0, remoteConfigStatus := some { lastRemoteConfigHash := [] } }
/-- The second of two configurations arrives first; the next status exchange brings it again. -/
def overtaken : List (Action Unit Unit) :=
  [.report hashReport, .process 0, .deliver 0, .setCustomConfig [1], .setCustomConfig [2], .send 1, .send 0, .deliver 0,
    .deliver 0, .apply 0, .report hashReport, .process 0, .deliver 0, .apply 0, .report hashReport, .process 0, .deliver 0]

example : (run none [] (overtaken.take 10)).hash = [1] ∧ Quiet (run none [] overtaken) ∧ (run none [] overtaken).hash = [2] := by
  refine ⟨by decide +kernel, ⟨?_, ?_, ?_, ?_, ?_, ?_⟩, by decide +kernel⟩ <;> decide +kernel

end

end Openlit.RemoteConfigSync
