import Openlit.JsonParse
import Openlit.AgentPointers

/-!
The custom configuration of an agent from its save request to its next
connection (`server/ui.go`, `data/agents.go`). A request puts the configuration
in a file that is named as the request spells the instance id; a connecting
agent is looked up under the one spelling that the server prints. While every
request uses that spelling and no write breaks off, each message of an agent is
answered with the configuration that was saved last (`saved_config_offered`).
-/
namespace Openlit.ConfigRequests
open Openlit.AgentStatus Openlit.AgentRegistry Openlit.RemoteConfigSync

/-- `google/uuid`: the reading of a text, and the text of an id, which is read as the id. -/
class Uuids where
  parse : String → Option InstanceId
  text : InstanceId → String
  parse_text : ∀ id : InstanceId, id.length = 16 → parse (text id) = some id
/-- `yaml.Unmarshal`: the text of its error, or whether the value is a map. -/
class Yaml where
  isMap : Bytes → Except String Bool

variable {Conn Description Packages : Type}

/-! ### The request -/

def isHex (c : Char) : Bool := ('0' ≤ c ∧ c ≤ '9') ∨ ('a' ≤ c ∧ c ≤ 'f') ∨ ('A' ≤ c ∧ c ≤ 'F')
/-- Groups of hexadecimal digits with dashes between them, up to the end of the text. -/
def matchesGroups : List Nat → List Char → Bool
  | [], text => text.isEmpty
  | [size], text => text.length = size && text.all isHex
  | size :: sizes, text =>
    (text.take size).length = size && (text.take size).all isHex && (text.drop size).head? = some '-' &&
      matchesGroups sizes (text.drop (size + 1))
def uuidRegex (text : String) : Bool := matchesGroups [8, 4, 4, 4, 12] text.toList

structure ConfigRequest where
  instanceId : String
  config : Bytes
structure HttpAnswer where
  code : Nat
  body : String := ""
  deriving DecidableEq
/-- What the disk does during a request or a message, and whether the agent
    reports within five seconds. `writeLeaves` is what a write leaves that fails. -/
structure Surroundings where
  mkdirFails : Bool := false
  writeLeaves : Option (Option Bytes) := none
  removeFails : Bool := false
  readFails : Bool := false
  reportsInTime : Bool := true

/-- The server: its registry, and the files of the configuration directory by their names. -/
structure ConfigServer (Conn Description Packages : Type) where
  agents : Agents Conn Description Packages := {}
  files : String → Option Bytes := fun _ => none

section
variable [Uuids] [Yaml] [Hashing]

/-- The file that the server looks for when it creates an agent. -/
def persistedName (instanceId : InstanceId) : String := Uuids.text instanceId ++ ".yaml"

/-- The configuration is set for the agent, and the answer waits for its next report. -/
def acceptConfig (server : ConfigServer Conn Description Packages) (instanceId : InstanceId) (config : Bytes)
    (around : Surroundings) : ConfigServer Conn Description Packages × HttpAnswer :=
  ({ server with agents := (setCustomConfigForAgent server.agents instanceId config).1 },
    { code := if around.reportsInTime then 200 else 408 })
/-- `handleSaveConfig`, for a request that decodes. An empty configuration clears the agent's. -/
def handleSaveConfig (server : ConfigServer Conn Description Packages) (request : ConfigRequest)
    (around : Surroundings) : ConfigServer Conn Description Packages × HttpAnswer :=
  if ¬ uuidRegex request.instanceId then (server, { code := 400, body := "Invalid instance ID format" })
  else
    match Uuids.parse request.instanceId with
    | none => (server, { code := 400, body := "Invalid instance ID" })
    | some instanceId =>
      match server.agents.agentsById instanceId with
      | none => (server, { code := 404, body := "Agent not found" })
      | some _ =>
        let configPath := request.instanceId ++ ".yaml"
        if request.config = [] then
          if (server.files configPath).isSome ∧ around.removeFails then
            (server, { code := 500, body := "Failed to clear configuration" })
          else
            acceptConfig { server with files := Function.update server.files configPath none } instanceId [] around
        else
          match Yaml.isMap request.config with
          | .error err => (server, { code := 400, body := "Invalid YAML configuration: " ++ err })
          | .ok false =>
            (server, { code := 400, body := "Configuration must be a valid YAML object with key-value pairs" })
          | .ok true =>
            if around.mkdirFails then (server, { code := 500, body := "Failed to save configuration" })
            else
              match around.writeLeaves with
              | some left =>
                ({ server with files := Function.update server.files configPath left },
                  { code := 500, body := "Failed to save configuration" })
              | none =>
                acceptConfig { server with files := Function.update server.files configPath (some request.config) }
                  instanceId request.config around

/-- The disk's part of `loadPersistedConfig`: what is loaded, and the files, of
    which one that is no YAML map is removed. -/
def readPersisted (files : String → Option Bytes) (instanceId : InstanceId) (around : Surroundings) :
    Option Bytes × (String → Option Bytes) :=
  match files (persistedName instanceId) with
  | none => (none, files)
  | some configData =>
    if around.readFails then (none, files)
    else
      match Yaml.isMap configData with
      | .ok true => (some configData, files)
      | _ => (none, if around.removeFails then files else Function.update files (persistedName instanceId) none)

variable [DecidableEq Conn] [DecidableEq Description] [Ulids]

/-- A message, for which a persisted configuration is read if its agent is not registered. -/
def deliver (server : ConfigServer Conn Description Packages) (conn : Conn) (instanceUid : Bytes)
    (report : AgentToServer Description Packages) (around : Surroundings) :
    ConfigServer Conn Description Packages × ServerToAgent :=
  let read :=
    match instanceIdOf instanceUid with
    | none => (none, server.files)
    | some instanceId =>
      if (server.agents.agentsById instanceId).isNone then readPersisted server.files instanceId around
      else (none, server.files)
  let processed :=
    onMessage server.agents conn { instanceUid := instanceUid, report := report, persisted := read.1 }
  ({ agents := processed.1, files := read.2 }, processed.2)

/-! ### Runs -/

/-- What reaches the server. It comes back from a restart with its files alone. -/
inductive Event (Conn Description Packages : Type)
  | save (request : ConfigRequest) (around : Surroundings)
  | message (conn : Conn) (instanceUid : Bytes) (report : AgentToServer Description Packages) (around : Surroundings)
  | disconnect (conn : Conn)
  | restart
/-- The server, and for every agent the configuration of its last request that
    was accepted, if that was not to clear it. -/
structure History (Conn Description Packages : Type) where
  server : ConfigServer Conn Description Packages := {}
  saved : InstanceId → Option Bytes := fun _ => none

/-- The request was carried out: the answer says so, or that the agent has not reported in time. -/
def accepted (answer : HttpAnswer) : Bool := answer.code = 200 ∨ answer.code = 408
def step (history : History Conn Description Packages) :
    Event Conn Description Packages → History Conn Description Packages
  | .save request around =>
    let handled := handleSaveConfig history.server request around
    { server := handled.1
      saved :=
        match Uuids.parse request.instanceId with
        | none => history.saved
        | some instanceId =>
          if accepted handled.2 then
            Function.update history.saved instanceId (if request.config = [] then none else some request.config)
          else history.saved }
  | .message conn instanceUid report around =>
    { history with server := (deliver history.server conn instanceUid report around).1 }
  | .disconnect conn =>
    { history with server := { history.server with agents := removeConnection history.server.agents conn } }
  | .restart => { history with server := { history.server with agents := {} } }
def run (events : List (Event Conn Description Packages)) : History Conn Description Packages :=
  events.foldl step {}

/-- The configuration that an agent is to have: the one that was saved last, or the empty one. -/
def current (history : History Conn Description Packages) (instanceId : InstanceId) : AgentRemoteConfig :=
  remoteConfigOf ((history.saved instanceId).getD [])
/-- Whoever sends a message next, on a new connection or an old one: the server
    has the current configuration for the agent, replies with no other, and
    replies with it if the agent reports that it has another. -/
def Offers (history : History Conn Description Packages) : Prop :=
  ∀ (conn : Conn) (instanceUid : Bytes) (report : AgentToServer Description Packages) (instanceId : InstanceId),
    instanceIdOf instanceUid = some instanceId →
      (∃ registered, (deliver history.server conn instanceUid report {}).1.agents.agentsById instanceId = some registered ∧
        registered.agent.remoteConfig = some (current history instanceId)) ∧
      (∀ config ∈ (deliver history.server conn instanceUid report {}).2.remoteConfig,
        config = current history instanceId) ∧
      ∀ status ∈ report.remoteConfigStatus, status.lastRemoteConfigHash ≠ (current history instanceId).configHash →
        (deliver history.server conn instanceUid report {}).2.remoteConfig = some (current history instanceId)

/-- A request spells the id as the server prints it, and no write or read fails half-way. -/
def Sound : Event Conn Description Packages → Prop
  | .save request around =>
    (∀ instanceId, Uuids.parse request.instanceId = some instanceId → request.instanceId = Uuids.text instanceId) ∧
      around.writeLeaves = none
  | .message _ _ _ around => around.readFails = false
  | _ => True

/-! ### One step -/

/-- What holds at any time: the files are those of the configurations that were
    saved last, and the registered agents have them. -/
structure Consistent (history : History Conn Description Packages) : Prop where
  files : ∀ id : InstanceId, id.length = 16 → history.server.files (persistedName id) = history.saved id
  maps : ∀ id config, history.saved id = some config → Yaml.isMap config = .ok true
  agents : ∀ id registered, history.server.agents.agentsById id = some registered →
    AgentPointers.Kept registered.agent ∧ registered.agent.customInstanceConfig = (history.saved id).getD []

omit [Yaml] [Hashing] [DecidableEq Conn] [DecidableEq Description] [Ulids] in
theorem persistedName_inj {id : InstanceId} (length : id.length = 16) {other : InstanceId} {text : String}
    (read : Uuids.parse text = some other) (same : persistedName id = text ++ ".yaml") : id = other := by
  have texts : Uuids.text id = text := by
    apply String.toList_injective
    have lists := congrArg String.toList same
    simpa [persistedName] using lists
  have again := Uuids.parse_text id length
  rw [texts, read] at again
  exact (Option.some.inj again).symm

omit [DecidableEq Conn] [DecidableEq Description] [Ulids] in
/-- All that a request can do: nothing, leave a broken file behind, or be accepted. -/
theorem handleSaveConfig_cases (server : ConfigServer Conn Description Packages) (request : ConfigRequest)
    (around : Surroundings) :
    ((handleSaveConfig server request around).1 = server ∧
        accepted (handleSaveConfig server request around).2 = false) ∨
    (around.writeLeaves ≠ none ∧ accepted (handleSaveConfig server request around).2 = false) ∨
    ∃ instanceId, Uuids.parse request.instanceId = some instanceId ∧ accepted (handleSaveConfig server request around).2 = true ∧
      (request.config ≠ [] → Yaml.isMap request.config = .ok true) ∧
      (handleSaveConfig server request around).1 =
        { agents := (setCustomConfigForAgent server.agents instanceId request.config).1
          files := Function.update server.files (request.instanceId ++ ".yaml")
            (if request.config = [] then none else some request.config) } := by
  have answered (around : Surroundings) : accepted { code := if around.reportsInTime then 200 else 408 } = true := by
    cases around.reportsInTime <;> rfl
  unfold handleSaveConfig
  by_cases valid : uuidRegex request.instanceId
  · rw [if_neg (not_not_intro valid)]
    cases parsed : Uuids.parse request.instanceId with
    | none => exact .inl ⟨rfl, rfl⟩
    | some instanceId =>
      cases registered : server.agents.agentsById instanceId with
      | none => exact .inl ⟨by simp [registered], by simp [registered, accepted]⟩
      | some entry =>
        simp only [registered]
        by_cases cleared : request.config = []
        · rw [if_pos cleared]
          by_cases stuck : (server.files (request.instanceId ++ ".yaml")).isSome ∧ around.removeFails
          · rw [if_pos stuck]
            exact .inl ⟨rfl, rfl⟩
          · rw [if_neg stuck]
            refine .inr (.inr ⟨instanceId, rfl, answered around, absurd cleared, ?_⟩)
            simp [acceptConfig, cleared]
        · rw [if_neg cleared]
          cases checked : Yaml.isMap request.config with
          | error err => exact .inl ⟨rfl, rfl⟩
          | ok isMap =>
            cases isMap with
            | false => exact .inl ⟨rfl, rfl⟩
            | true =>
              by_cases stuck : around.mkdirFails
              · exact .inl ⟨by simp [stuck], by simp [stuck, accepted]⟩
              · cases left : around.writeLeaves with
                | some broken => exact .inr (.inl ⟨by simp, by simp [stuck, accepted]⟩)
                | none =>
                  refine .inr (.inr ⟨instanceId, rfl, ?_, fun _ => rfl, ?_⟩)
                  · simpa [stuck, acceptConfig] using answered around
                  · simp [stuck, acceptConfig, cleared]
  · rw [if_pos valid]
    exact .inl ⟨rfl, rfl⟩

theorem consistent_save {history : History Conn Description Packages} (inv : Consistent history)
    (request : ConfigRequest) (around : Surroundings) (sound : Sound (.save request around : Event Conn Description Packages)) :
    Consistent (step history (.save request around)) := by
  rcases handleSaveConfig_cases history.server request around with
    ⟨kept, refused⟩ | ⟨broken, -⟩ | ⟨instanceId, parsed, carried, map, after⟩
  · have same : step history (.save request around) = history := by
      rw [step, kept, refused]
      cases Uuids.parse request.instanceId <;> rfl
    rwa [same]
  · exact absurd sound.2 broken
  · have now : step history (.save request around) =
        { server := (handleSaveConfig history.server request around).1
          saved := Function.update history.saved instanceId
            (if request.config = [] then none else some request.config) } := by
      rw [step, parsed, carried]
      rfl
    rw [now, after]
    refine ⟨?_, ?_, ?_⟩
    · intro id length
      by_cases same : id = instanceId
      · subst same
        have name : persistedName id = request.instanceId ++ ".yaml" := by
          rw [persistedName, sound.1 id parsed]
        simp [name]
      · have other : persistedName id ≠ request.instanceId ++ ".yaml" :=
          fun equal => same (persistedName_inj length parsed equal)
        simpa [same, other] using inv.files id length
    · intro id config found
      by_cases same : id = instanceId
      · subst same
        by_cases cleared : request.config = []
        · simp [cleared] at found
        · have whole : request.config = config := by simpa [cleared] using found
          rw [← whole]
          exact map cleared
      · exact inv.maps id config (by simpa [same] using found)
    · intro id registered found
      cases known : history.server.agents.agentsById instanceId with
      | none =>
        have old : history.server.agents.agentsById id = some registered := by
          simpa [setCustomConfigForAgent, known] using found
        have other : id ≠ instanceId := by
          rintro rfl
          rw [known] at old
          cases old
        simpa [other] using inv.agents id registered old
      | some before =>
        by_cases same : id = instanceId
        · subst same
          have now : registered = ⟨before.conn, setCustomConfig before.agent request.config⟩ := by
            simpa [setCustomConfigForAgent, known] using found.symm
          have config : ((if request.config = [] then none else some request.config).getD [] : Bytes) = request.config := by
            by_cases cleared : request.config = [] <;> simp [cleared]
          have text : (setCustomConfig before.agent request.config).customInstanceConfig = request.config := rfl
          rw [now]
          refine ⟨AgentPointers.kept_step (inv.agents id before known).1 (.setCustomConfig request.config), ?_⟩
          simp [text, config]
        · have old : history.server.agents.agentsById id = some registered := by
            simpa [setCustomConfigForAgent, known, same] using found
          simpa [same] using inv.agents id registered old

omit [DecidableEq Conn] [DecidableEq Description] [Ulids] in
/-- What the disk has for an agent that is created is what was saved, and stays there. -/
theorem readPersisted_saved {history : History Conn Description Packages} (inv : Consistent history) {id : InstanceId}
    (length : id.length = 16) {around : Surroundings} (reads : around.readFails = false) :
    readPersisted history.server.files id around = (history.saved id, history.server.files) := by
  unfold readPersisted
  rw [inv.files id length]
  cases found : history.saved id with
  | none => rfl
  | some config => simp [reads, inv.maps id config found]

/-- The agent of a message: the registered one, or one with what was saved. -/
def agentOf (history : History Conn Description Packages) (id : InstanceId) : Agent Description Packages :=
  match history.server.agents.agentsById id with
  | some registered => registered.agent
  | none => loadPersistedConfig {} (history.saved id)

omit [DecidableEq Conn] [DecidableEq Description] [Ulids] in
theorem agentOf_kept {history : History Conn Description Packages} (inv : Consistent history) (id : InstanceId) :
    AgentPointers.Kept (agentOf history id) ∧ (agentOf history id).customInstanceConfig = (history.saved id).getD [] := by
  unfold agentOf
  cases known : history.server.agents.agentsById id with
  | some registered => exact inv.agents id registered known
  | none =>
    refine ⟨AgentPointers.kept_load _, ?_⟩
    cases history.saved id <;> rfl

/-- A message brings its agent up to date and touches neither another agent nor a file. -/
theorem deliver_agent {history : History Conn Description Packages} (inv : Consistent history) {instanceUid : Bytes}
    {id : InstanceId} (known : instanceIdOf instanceUid = some id) (length : id.length = 16) (conn : Conn)
    (report : AgentToServer Description Packages) {around : Surroundings} (reads : around.readFails = false) :
    (deliver history.server conn instanceUid report around).2 = (updateStatus (agentOf history id) report).2 ∧
      (deliver history.server conn instanceUid report around).1.files = history.server.files ∧
      (∃ conn', (deliver history.server conn instanceUid report around).1.agents.agentsById id =
        some ⟨conn', (updateStatus (agentOf history id) report).1⟩) ∧
      ∀ other, other ≠ id → (deliver history.server conn instanceUid report around).1.agents.agentsById other =
        history.server.agents.agentsById other := by
  unfold deliver agentOf
  cases registered : history.server.agents.agentsById id with
  | some entry =>
    simp only [known, registered, onMessage, findOrCreateAgent]
    refine ⟨trivial, by simp, ⟨entry.conn, by simp⟩, fun other different => by simp [different]⟩
  | none =>
    simp only [known, registered, onMessage, findOrCreateAgent, Option.isNone_none, ↓reduceIte,
      readPersisted_saved inv length reads]
    exact ⟨trivial, trivial, ⟨conn, by simp⟩, fun other different => by simp [different]⟩

theorem consistent_message {history : History Conn Description Packages} (inv : Consistent history) {instanceUid : Bytes}
    (ulids : ∀ id, instanceIdOf instanceUid = some id → id.length = 16) (conn : Conn)
    (report : AgentToServer Description Packages) {around : Surroundings} (reads : around.readFails = false) :
    Consistent (step history (.message conn instanceUid report around)) := by
  cases known : instanceIdOf instanceUid with
  | none =>
    have same : step history (.message conn instanceUid report around) = history := by
      simp [step, deliver, onMessage, known]
    rwa [same]
  | some id =>
    obtain ⟨-, files, ⟨conn', updated⟩, others⟩ := deliver_agent inv known (ulids id known) conn report reads
    refine ⟨?_, inv.maps, ?_⟩
    · intro other length
      rw [step, files]
      exact inv.files other length
    · intro other registered found
      by_cases same : other = id
      · subst same
        have now : registered = ⟨conn', (updateStatus (agentOf history other) report).1⟩ :=
          Option.some.inj (found.symm.trans updated)
        obtain ⟨kept, text⟩ := agentOf_kept inv other
        rw [now]
        exact ⟨AgentPointers.kept_step kept (.updateStatus report), (updateStatus_config _ report).1.trans text⟩
      · rw [step, others other same] at found
        exact inv.agents other registered found

theorem consistent_disconnect {history : History Conn Description Packages} (inv : Consistent history) (conn : Conn) :
    Consistent (step history (.disconnect conn)) := by
  refine ⟨inv.files, inv.maps, ?_⟩
  intro id registered found
  have kept : deleteAll history.server.agents.agentsById (associated history.server.agents conn) id = some registered :=
    found
  rw [deleteAll_apply] at kept
  by_cases member : id ∈ associated history.server.agents conn
  · simp [member] at kept
  · exact inv.agents id registered (by simpa [member] using kept)

/-! ### Every run -/

omit [Uuids] [Yaml] [Hashing] in
theorem instanceIdOf_length (ulids : ∀ text id, Ulids.parse text = some id → id.length = 16) {instanceUid : Bytes}
    {id : InstanceId} (known : instanceIdOf instanceUid = some id) : id.length = 16 := by
  unfold instanceIdOf at known
  split at known
  · exact ulids _ _ known
  split at known
  · rw [← Option.some.inj known]
    assumption
  · cases known

theorem consistent_run (ulids : ∀ text id, Ulids.parse text = some id → id.length = 16)
    (events : List (Event Conn Description Packages)) (sound : ∀ event ∈ events, Sound event) :
    Consistent (run events) := by
  induction events using List.reverseRecOn with
  | nil =>
    refine ⟨fun _ _ => rfl, ?_, ?_⟩
    · intro id text saved
      cases saved
    · intro id registered found
      cases found
  | append_singleton events event ih =>
    have inv := ih fun event' member => sound event' (List.mem_append_left _ member)
    have last := sound event (List.mem_append_right _ (List.mem_singleton_self _))
    rw [run, List.foldl_append, List.foldl_cons, List.foldl_nil, ← run]
    cases event with
    | save request around => exact consistent_save inv request around last
    | message conn instanceUid report around =>
      exact consistent_message inv (fun id known => instanceIdOf_length ulids known) conn report last
    | disconnect conn => exact consistent_disconnect inv conn
    | restart =>
      refine ⟨inv.files, inv.maps, ?_⟩
      intro id registered found
      cases found

end

/-! ### An id in capital letters -/

section
open Openlit.JsonText Openlit.JsonParse

def hexText (bytes : Bytes) : List Char :=
  bytes.flatMap fun byte => [hexDigit (byte.toNat / 16), hexDigit (byte.toNat % 16)]
def readHex : List Char → Option Bytes
  | [] => some []
  | a :: b :: rest => do pure (UInt8.ofNat ((← hexValue a) * 16 + (← hexValue b)) :: (← readHex rest))
  | _ => none

theorem readHex_hexText (bytes : Bytes) : readHex (hexText bytes) = some bytes := by
  induction bytes with
  | nil => rfl
  | cons byte bytes ih =>
    have high := hexValue_hexDigit (byte.toNat / 16) (by have := byte.toNat_lt; omega)
    have low := hexValue_hexDigit (byte.toNat % 16) (by omega)
    have whole : UInt8.ofNat (byte.toNat / 16 * 16 + byte.toNat % 16) = byte := by
      rw [Nat.div_add_mod']
      exact UInt8.ofNat_toNat
    show readHex (hexDigit (byte.toNat / 16) :: hexDigit (byte.toNat % 16) :: hexText bytes) = some (byte :: bytes)
    rw [readHex, high, low, ih]
    show some (UInt8.ofNat (byte.toNat / 16 * 16 + byte.toNat % 16) :: bytes) = some (byte :: bytes)
    rw [whole]

theorem hexDigit_ne_dash : ∀ n < 16, hexDigit n ≠ '-' := by decide
theorem filter_hexText (bytes : Bytes) : (hexText bytes).filter (· ≠ '-') = hexText bytes := by
  apply List.filter_eq_self.mpr
  intro c member
  obtain ⟨byte, _, digit⟩ := List.mem_flatMap.mp member
  have bound := byte.toNat_lt
  rcases List.mem_cons.mp digit with rfl | digit
  · simpa using hexDigit_ne_dash _ (by omega)
  · rw [List.mem_singleton.mp digit]
    simpa using hexDigit_ne_dash _ (by omega)

/-- The digits of an id in five groups, and the id of such a text. -/
def groupedText (id : InstanceId) : List Char :=
  hexText (id.take 4) ++ '-' :: hexText ((id.drop 4).take 2) ++ '-' :: hexText ((id.drop 6).take 2) ++
    '-' :: hexText ((id.drop 8).take 2) ++ '-' :: hexText (id.drop 10)
def readGrouped (text : String) : Option InstanceId := readHex (text.toList.filter (· ≠ '-'))

theorem readGrouped_groupedText (id : InstanceId) : readGrouped (String.ofList (groupedText id)) = some id := by
  have digits : (groupedText id).filter (· ≠ '-') = hexText id := by
    have pieces : id.take 4 ++ ((id.drop 4).take 2 ++ ((id.drop 6).take 2 ++ ((id.drop 8).take 2 ++ id.drop 10))) = id := by
      have last := List.take_append_drop 2 (id.drop 8)
      have third := List.take_append_drop 2 (id.drop 6)
      have second := List.take_append_drop 2 (id.drop 4)
      rw [List.drop_drop] at last third second
      rw [last, third, second, List.take_append_drop]
    have dash : ([] : List Char) = ['-'].filter (· ≠ '-') := by decide
    have joined : hexText id = hexText (id.take 4) ++ (hexText ((id.drop 4).take 2) ++ (hexText ((id.drop 6).take 2) ++
        (hexText ((id.drop 8).take 2) ++ hexText (id.drop 10)))) := by
      nth_rewrite 1 [← pieces]
      simp only [hexText, List.flatMap_append]
    rw [joined, groupedText]
    simp only [List.filter_append, List.filter_cons, filter_hexText, ne_eq, not_true_eq_false, decide_false,
      Bool.false_eq_true, ↓reduceIte, List.append_assoc]
  rw [readGrouped, String.toList_ofList, digits, readHex_hexText]

@[reducible] def hexUuids : Uuids where
  parse := readGrouped
  text id := String.ofList (groupedText id)
  parse_text id _ := readGrouped_groupedText id
/-- No id is of the old style, and the one map is the sample below: neither matters otherwise. -/
local instance noOldIds : Ulids := ⟨fun _ => none⟩
local instance emptyDigest : Hashing := ⟨fun _ => []⟩
local instance groupedUuids : Uuids := hexUuids
def debugConfig : Bytes := "debug: true".toUTF8.toList
local instance debugYaml : Yaml := ⟨fun data => .ok (data = debugConfig)⟩

def collector : InstanceId := List.replicate 16 0xab
def hello : AgentToServer Unit Unit :=
  { sequenceNum := 0, capabilities := 0, remoteConfigStatus := some { lastRemoteConfigHash := [1] } }
/-- The agent connects, is given a configuration, and goes. -/
def savesUnder (name : String) : List (Event Nat Unit Unit) :=
  [.message 0 collector hello {}, .save { instanceId := name, config := debugConfig } {}, .disconnect 0]
def loudName : String := "ABABABAB-ABAB-ABAB-ABAB-ABABABABABAB"
def plainName : String := "abababab-abab-abab-abab-abababababab"

end

end Openlit.ConfigRequests
