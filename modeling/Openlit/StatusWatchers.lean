import Openlit.RemoteConfigSync

/-!
The channels that are notified when an agent has a configuration
(`SetCustomConfig` and `UpdateStatus` of `data/agent.go`). A channel waits for
the next report that is processed, whatever it says; so it is notified by a
report on the configuration as long as the agent has applied the configuration
by the time it sends that report, and reports it (`Orderly`).
-/
namespace Openlit.StatusWatchers
open Openlit.AgentStatus Openlit.RemoteConfigSync

variable {Description Packages : Type}

/-! ### Channels -/

/-- A channel in `statusUpdateWatchers`, with the configuration that it was given for. -/
structure Watcher where
  channel : Nat
  config : AgentRemoteConfig
/-- What the agent has when it sends a report: the configuration that it applied last, and all that it has received. -/
structure Sending where
  applied : Option AgentRemoteConfig
  received : List AgentRemoteConfig
/-- A value for a channel, with its cause: a configuration that is not new, once
    some reports have been processed, or the report that was processed. -/
inductive Signal (Description Packages : Type)
  | unchanged (channel : Nat) (config : AgentRemoteConfig) (processed : List (AgentToServer Description Packages))
  | reported (channel : Nat) (config : AgentRemoteConfig) (number : Nat) (message : AgentToServer Description Packages)

/-- The two sides, with the channels. `sent` has what the agent had at each of
    its reports; `due` are values that are sent once the agent is unlocked. -/
structure Watched (Description Packages : Type) where
  sys : System Description Packages
  statusUpdateWatchers : List Watcher := []
  applied : Option AgentRemoteConfig := none
  sent : List Sending := []
  due : List (Signal Description Packages) := []
  signalled : List (Signal Description Packages) := []

/-- What may happen next. A configuration may come with a channel. -/
inductive Action (Description Packages : Type)
  | setCustomConfig (body : Bytes) (notifyWhenConfigIsApplied : Option Nat)
  | send (place : Nat)
  | report (message : AgentToServer Description Packages)
  | process (place : Nat)
  | deliver (place : Nat)
  | apply (place : Nat)
  | notify (place : Nat)

section
variable [Hashing] [DecidableEq Description]

def step (w : Watched Description Packages) : Action Description Packages → Watched Description Packages
  | .setCustomConfig body channel =>
    let configChanged := (customConfigMessage w.sys.server body).isSome
    let sys := RemoteConfigSync.step w.sys (.setCustomConfig body)
    if configChanged then
      { w with
        sys := sys
        statusUpdateWatchers := w.statusUpdateWatchers ++ channel.toList.map fun c => ⟨c, remoteConfigOf body⟩ }
    else
      { w with
        sys := sys
        due := w.due ++ channel.toList.map fun c => .unchanged c (remoteConfigOf body) w.sys.processed }
  | .send place => { w with sys := RemoteConfigSync.step w.sys (.send place) }
  | .report message =>
    { w with
      sys := RemoteConfigSync.step w.sys (.report message)
      sent := w.sent ++ [{ applied := w.applied, received := w.sys.received }] }
  | .process place =>
    match w.sys.toServer[place]? with
    | none => w
    | some (number, message) =>
      { w with
        sys := RemoteConfigSync.step w.sys (.process place)
        statusUpdateWatchers := []
        due := w.due ++ w.statusUpdateWatchers.map fun watcher => .reported watcher.channel watcher.config number message }
  | .deliver place => { w with sys := RemoteConfigSync.step w.sys (.deliver place) }
  | .apply place =>
    { w with sys := RemoteConfigSync.step w.sys (.apply place), applied := (w.sys.received[place]?).or w.applied }
  | .notify place =>
    match w.due[place]? with
    | none => w
    | some signal => { w with due := w.due.eraseIdx place, signalled := w.signalled ++ [signal] }
/-- A new agent, which may have a persisted configuration, and any hash that it has by then. -/
def start (persisted : Option Bytes) (hash : Bytes) : Watched Description Packages where
  sys := { server := AgentRegistry.loadPersistedConfig {} persisted, hash := hash }
def run (w : Watched Description Packages) (actions : List (Action Description Packages)) : Watched Description Packages :=
  actions.foldl step w

/-! ### What a channel is told -/

/-- The agent reports on a configuration. -/
def ReportsOn (message : AgentToServer Description Packages) (config : AgentRemoteConfig) : Prop :=
  ∃ status, message.remoteConfigStatus = some status ∧ status.lastRemoteConfigHash = config.configHash
/-- A channel is told of a configuration after a report on it, which the agent sent when it had received it. -/
def Told (sent : List Sending) : Signal Description Packages → Prop
  | .unchanged _ config processed => ∃ message ∈ processed, ReportsOn message config
  | .reported _ config number message => ReportsOn message config ∧
      ∃ sending, sent[number]? = some sending ∧ ∃ own ∈ sending.received, own.configHash = config.configHash

/-- A step that goes well for every channel. While channels wait, a report that is processed includes the status of
    the configuration that they wait for, and the agent sent it when it had applied that one. A channel for a
    configuration that is not new comes after a report on it. -/
def Orderly (w : Watched Description Packages) : Action Description Packages → Prop
  | .setCustomConfig body channel => channel.isSome → customConfigMessage w.sys.server body = none →
      ∃ message ∈ w.sys.processed, ReportsOn message (remoteConfigOf body)
  | .process place => ∀ number message, w.sys.toServer[place]? = some (number, message) →
      ∀ watcher ∈ w.statusUpdateWatchers, message.remoteConfigStatus.isSome ∧
        ∃ sending own, w.sent[number]? = some sending ∧ sending.applied = some own ∧ own.configHash = watcher.config.configHash
  | _ => True
/-- Every step of a run goes well. -/
def OrderlyRun (w : Watched Description Packages) : List (Action Description Packages) → Prop
  | [] => True
  | action :: rest => Orderly w action ∧ OrderlyRun (step w action) rest

/-! ### The invariant -/

/-- A report is numbered in the order of sending, and carries the hash of the configuration that the agent had applied. -/
structure Carried (w : Watched Description Packages) : Prop where
  counted : w.sent.length = w.sys.reports
  numbered : ∀ report ∈ w.sys.toServer, report.1 < w.sys.reports
  current : ∀ own ∈ w.applied, w.sys.hash = own.configHash ∧ own ∈ w.sys.received
  received : ∀ sending ∈ w.sent, ∀ own ∈ sending.applied, own ∈ sending.received
  carried : ∀ report ∈ w.sys.toServer, ∀ sending, w.sent[report.1]? = some sending → ∀ own ∈ sending.applied,
    ∀ status, report.2.remoteConfigStatus = some status → status.lastRemoteConfigHash = own.configHash
/-- Every channel is told well. -/
def AllTold (w : Watched Description Packages) : Prop := ∀ signal ∈ w.due ++ w.signalled, Told w.sent signal

omit [Hashing] [DecidableEq Description] in
theorem told_append {sent : List Sending} {signal : Signal Description Packages} (told : Told sent signal)
    (later : List Sending) : Told (sent ++ later) signal := by
  cases signal with
  | unchanged channel config processed => exact told
  | reported channel config number message =>
    obtain ⟨reports, sending, found, own⟩ := told
    obtain ⟨bound, -⟩ := List.getElem?_eq_some_iff.mp found
    exact ⟨reports, sending, by rw [List.getElem?_append_left bound, found], own⟩

omit [Hashing] [DecidableEq Description] in
/-- Of the two sides, only the agent and the messages to the server matter. -/
theorem carried_same {w after : Watched Description Packages} (inv : Carried w) (sent : after.sent = w.sent)
    (applied : after.applied = w.applied) (reports : after.sys.reports = w.sys.reports)
    (toServer : after.sys.toServer = w.sys.toServer) (hash : after.sys.hash = w.sys.hash)
    (received : w.sys.received ⊆ after.sys.received) : Carried after := by
  refine ⟨?_, ?_, ?_, ?_, ?_⟩
  · rw [sent, reports, inv.counted]
  · rw [toServer, reports]
    exact inv.numbered
  · intro own member
    rw [applied] at member
    exact ⟨hash.trans (inv.current own member).1, received (inv.current own member).2⟩
  · rw [sent]
    exact inv.received
  · rw [toServer, sent]
    exact inv.carried

theorem carried_report {w : Watched Description Packages} (inv : Carried w) (message : AgentToServer Description Packages) :
    Carried (step w (.report message)) := by
  have below {report : Nat × AgentToServer Description Packages} (member : report ∈ w.sys.toServer) :
      report.1 < w.sent.length := inv.counted ▸ inv.numbered report member
  refine ⟨by simp [step, RemoteConfigSync.step, inv.counted], ?_, inv.current, ?_, ?_⟩
  · intro report member
    rcases List.mem_append.mp member with old | last
    · exact Nat.lt_succ_of_lt (inv.numbered report old)
    · rw [List.mem_singleton.mp last]
      exact Nat.lt_succ_self _
  · intro sending member own applied
    rcases List.mem_append.mp member with old | last
    · exact inv.received sending old own applied
    · obtain rfl := List.mem_singleton.mp last
      exact (inv.current own applied).2
  · intro report member sending found own applied status reported
    rcases List.mem_append.mp member with old | last
    · refine inv.carried report old sending ?_ own applied status reported
      rwa [step, List.getElem?_append_left (below old)] at found
    · obtain rfl := List.mem_singleton.mp last
      have now : sending = { applied := w.applied, received := w.sys.received } := by
        simpa [step, ← inv.counted] using found.symm
      rw [now] at applied
      obtain ⟨before, -, rfl⟩ := Option.map_eq_some_iff.mp reported
      exact (inv.current own applied).1

theorem carried_process {w : Watched Description Packages} (inv : Carried w) (place : Nat) :
    Carried (step w (.process place)) := by
  cases found : w.sys.toServer[place]? with
  | none => simpa only [step, found] using inv
  | some entry =>
    have kept : (RemoteConfigSync.step w.sys (.process place)).toServer = w.sys.toServer.eraseIdx place := by
      simp only [RemoteConfigSync.step, found]
    have same : (RemoteConfigSync.step w.sys (.process place)).reports = w.sys.reports ∧
        (RemoteConfigSync.step w.sys (.process place)).hash = w.sys.hash ∧
        (RemoteConfigSync.step w.sys (.process place)).received = w.sys.received := by
      simp only [RemoteConfigSync.step, found, and_self]
    simp only [step, found]
    refine ⟨inv.counted.trans same.1.symm, ?_, ?_, inv.received, ?_⟩
    · intro report member
      rw [kept] at member
      exact same.1 ▸ inv.numbered report (List.mem_of_mem_eraseIdx member)
    · intro own applied
      exact ⟨same.2.1.trans (inv.current own applied).1, same.2.2 ▸ (inv.current own applied).2⟩
    · intro report member
      rw [kept] at member
      exact inv.carried report (List.mem_of_mem_eraseIdx member)

theorem carried_apply {w : Watched Description Packages} (inv : Carried w) (place : Nat) :
    Carried (step w (.apply place)) := by
  cases found : w.sys.received[place]? with
  | none => simpa [step, RemoteConfigSync.step, found] using inv
  | some config =>
    refine ⟨?_, ?_, ?_, inv.received, ?_⟩
    · simpa [step, RemoteConfigSync.step, found] using inv.counted
    · simpa [step, RemoteConfigSync.step, found] using inv.numbered
    · intro own applied
      obtain rfl : config = own := by simpa [step, found] using applied
      simpa [step, RemoteConfigSync.step, found] using List.mem_of_getElem? found
    · intro report member
      refine inv.carried report ?_
      simpa [step, RemoteConfigSync.step, found] using member

theorem carried_step {w : Watched Description Packages} (inv : Carried w) (action : Action Description Packages) :
    Carried (step w action) := by
  cases action with
  | setCustomConfig body channel =>
    rw [step]
    split
    · exact carried_same inv rfl rfl rfl rfl rfl (List.Subset.refl w.sys.received)
    · exact carried_same inv rfl rfl rfl rfl rfl (List.Subset.refl w.sys.received)
  | send place =>
    refine carried_same inv rfl rfl ?_ ?_ ?_ ?_ <;> cases found : w.sys.pending[place]? <;>
      simp [step, RemoteConfigSync.step, found]
  | report message => exact carried_report inv message
  | process place => exact carried_process inv place
  | deliver place =>
    cases found : w.sys.toAgent[place]? with
    | none => refine carried_same inv rfl rfl ?_ ?_ ?_ ?_ <;> simp [step, RemoteConfigSync.step, found]
    | some sent =>
      refine carried_same inv rfl rfl ?_ ?_ ?_ ?_ <;> cases config : sent.2.remoteConfig <;>
        simp [step, RemoteConfigSync.step, found, receive, config]
  | apply place => exact carried_apply inv place
  | notify place =>
    rw [step]
    split
    · exact inv
    · exact ⟨inv.counted, inv.numbered, inv.current, inv.received, inv.carried⟩

/-! ### Runs -/

/-- Where a step goes well, every channel is told well. -/
theorem allTold_step {w : Watched Description Packages} (inv : Carried w) (told : AllTold w)
    {action : Action Description Packages} (orderly : Orderly w action) : AllTold (step w action) := by
  cases action with
  | setCustomConfig body channel =>
    cases message : customConfigMessage w.sys.server body with
    | some message' => simpa only [AllTold, step, message, Option.isSome_some, if_true] using told
    | none =>
      intro signal member
      simp only [step, message, Option.isSome_none, Bool.false_eq_true, if_false, List.append_assoc, List.mem_append,
        List.mem_map, Option.mem_toList] at member ⊢
      rcases member with old | ⟨c, given, rfl⟩ | old
      · exact told signal (List.mem_append_left _ old)
      · exact orderly (by simp [given]) message
      · exact told signal (List.mem_append_right _ old)
  | send place => exact told
  | report message => exact fun signal member => told_append (told signal member) _
  | process place =>
    cases found : w.sys.toServer[place]? with
    | none => simpa only [step, found] using told
    | some entry =>
      intro signal member
      simp only [step, found, List.append_assoc, List.mem_append, List.mem_map] at member ⊢
      rcases member with old | ⟨watcher, waits, rfl⟩ | old
      · exact told signal (List.mem_append_left _ old)
      · obtain ⟨included, sending, own, sent, applied, same⟩ := orderly entry.1 entry.2 found watcher waits
        obtain ⟨status, reported⟩ := Option.isSome_iff_exists.mp included
        have hash := inv.carried entry (List.mem_of_getElem? found) sending sent own applied status reported
        exact ⟨⟨status, reported, hash.trans same⟩, sending, sent, own,
          inv.received sending (List.mem_of_getElem? sent) own applied, same⟩
      · exact told signal (List.mem_append_right _ old)
  | deliver place => exact told
  | apply place => exact told
  | notify place =>
    cases found : w.due[place]? with
    | none => simpa only [step, found] using told
    | some next =>
      intro signal member
      simp only [step, found, List.mem_append, List.mem_singleton] at member ⊢
      rcases member with waiting | old | rfl
      · exact told signal (List.mem_append_left _ (List.mem_of_mem_eraseIdx waiting))
      · exact told signal (List.mem_append_right _ old)
      · exact told signal (List.mem_append_left _ (List.mem_of_getElem? found))

theorem allTold_run {w : Watched Description Packages} (inv : Carried w) (told : AllTold w)
    {actions : List (Action Description Packages)} (orderly : OrderlyRun w actions) : AllTold (run w actions) := by
  induction actions generalizing w with
  | nil => exact told
  | cons action rest ih => exact ih (carried_step inv action) (allTold_step inv told orderly.1) orderly.2

omit [DecidableEq Description] in
theorem carried_start (persisted : Option Bytes) (hash : Bytes) :
    Carried (start persisted hash : Watched Description Packages) := by
  refine ⟨rfl, ?_, ?_, ?_, ?_⟩ <;> simp [start]

theorem orderlyRun_append {w : Watched Description Packages} {before after : List (Action Description Packages)}
    (orderly : OrderlyRun w (before ++ after)) : OrderlyRun w before := by
  induction before generalizing w with
  | nil => trivial
  | cons action rest ih => exact ⟨orderly.1, ih orderly.2⟩

/-- In a run whose steps all go well, a channel is told of a configuration only after a report on it, and never by
    one that was sent before the agent received it. -/
theorem channels_told (persisted : Option Bytes) (hash : Bytes) (actions : List (Action Description Packages))
    (orderly : OrderlyRun (start persisted hash) actions) (reached : List (Action Description Packages))
    (part : reached <+: actions) :
    ∀ signal ∈ (run (start persisted hash) reached).signalled, Told (run (start persisted hash) reached).sent signal := by
  intro signal member
  obtain ⟨rest, rfl⟩ := part
  have told : AllTold (start persisted hash : Watched Description Packages) := by simp [AllTold, start]
  exact allTold_run (carried_start persisted hash) told (orderlyRun_append orderly) signal (List.mem_append_right _ member)

end

/-! ### A report that comes too early -/

section
local instance constantHash : Hashing := ⟨fun _ => [1]⟩

/-- A report of whatever configuration the agent has. -/
def heartbeat : AgentToServer Unit Unit :=
  { sequenceNum := 0, capabilities := 0, remoteConfigStatus := some { lastRemoteConfigHash := [] } }

/-- A channel is told once the agent has received, applied and reported its configuration. -/
def patient : List (Action Unit Unit) :=
  [.setCustomConfig [7] (some 0), .send 0, .deliver 0, .apply 0, .report heartbeat, .process 0, .notify 0]

theorem patient_orderly : OrderlyRun (start none []) patient := by
  refine ⟨?_, trivial, trivial, trivial, trivial, ?_, trivial, trivial⟩
  · rintro - ⟨⟩
  · rintro number message ⟨⟩ watcher member
    obtain rfl : watcher = ⟨0, remoteConfigOf [7]⟩ := List.mem_singleton.mp member
    exact ⟨rfl, _, remoteConfigOf [7], rfl, rfl, rfl⟩
theorem patient_told :
    (run (start none []) patient).signalled ≠ [] ∧
      ∀ signal ∈ (run (start none []) patient).signalled, Told (run (start none []) patient).sent signal := by
  refine ⟨?_, channels_told none [] patient patient_orderly patient List.prefix_rfl⟩
  rintro ⟨⟩

end

/-- A report that is on its way when the configuration is set notifies the channel. -/
theorem early_report_notifies : ¬ ∀ [Hashing] (persisted : Option Bytes) (hash : Bytes) (actions : List (Action Unit Unit)),
    ∀ signal ∈ (run (start persisted hash) actions).signalled, Told (run (start persisted hash) actions).sent signal := by
  intro all
  let _ := constantHash
  have told := all none [] [.report heartbeat, .setCustomConfig [7] (some 0), .process 0, .notify 0] _ (List.mem_singleton_self _)
  obtain ⟨⟨status, reported, hash⟩, -⟩ := told
  obtain rfl := Option.some.inj reported
  have same : ([] : Bytes) = [1] := hash
  simp at same

end Openlit.StatusWatchers
