import Mathlib.Logic.Function.Basic
import Mathlib.Tactic.Common
import Openlit.AgentStatus

/-!
The registry of the OpAMP server (`data/agents.go`): the agents by their
instance ids, and the instance ids by the connections that the agents are
served on. The two maps stay in step whatever arrives (`InStep`), so a closed
connection takes exactly its own agents with it. An agent that comes back on a
new connection before its old one has closed stays bound to the old one: what
follows when no agent does is `open_agents_bound_iff`.
-/
namespace Openlit.AgentRegistry
open Openlit.AgentStatus

abbrev InstanceId := Bytes

/-- The parser of old-style instance ids (`oklog/ulid`). -/
class Ulids where
  parse : Bytes → Option InstanceId

variable {Conn Description Packages : Type}

/-- A registered agent and the connection that it is bound to. -/
structure Registered (Conn Description Packages : Type) where
  conn : Conn
  agent : Agent Description Packages
/-- `data.Agents`. An entry of `connections` lists the keys of a map to `true`. -/
structure Agents (Conn Description Packages : Type) where
  agentsById : InstanceId → Option (Registered Conn Description Packages) := fun _ => none
  connections : Conn → Option (List InstanceId) := fun _ => none
/-- A message from an agent. `persisted` is what the disk has as the
    configuration of the agent, if that is a YAML map. -/
structure Message (Description Packages : Type) where
  instanceUid : Bytes
  report : AgentToServer Description Packages
  persisted : Option Bytes := none

/-- The agent of a message (`onMessage`): 26 bytes are an old-style id, 16 bytes are the id itself. -/
def instanceIdOf [Ulids] (instanceUid : Bytes) : Option InstanceId :=
  if instanceUid.length = 26 then Ulids.parse instanceUid
  else if instanceUid.length = 16 then some instanceUid
  else none

/-- The instance ids associated with a connection. -/
def associated (agents : Agents Conn Description Packages) (conn : Conn) : List InstanceId :=
  (agents.connections conn).getD []
/-- `delete(agents.agentsById, instanceId)` for every id of a list. -/
def deleteAll (agentsById : InstanceId → Option (Registered Conn Description Packages)) (ids : List InstanceId) :
    InstanceId → Option (Registered Conn Description Packages) :=
  ids.foldl (fun rest id => Function.update rest id none) agentsById
def loadPersistedConfig [Hashing] (agent : Agent Description Packages) (persisted : Option Bytes) :
    Agent Description Packages :=
  match persisted with
  | none => agent
  | some configData => (calcRemoteConfig { agent with customInstanceConfig := configData }).1

section
variable [DecidableEq Conn]

def removeConnection (agents : Agents Conn Description Packages) (conn : Conn) : Agents Conn Description Packages :=
  { agentsById := deleteAll agents.agentsById (associated agents conn)
    connections := Function.update agents.connections conn none }

variable [Hashing]

def findOrCreateAgent (agents : Agents Conn Description Packages) (agentId : InstanceId) (conn : Conn)
    (persisted : Option Bytes) : Agents Conn Description Packages × Registered Conn Description Packages :=
  match agents.agentsById agentId with
  | some registered => (agents, registered)
  | none =>
    let registered : Registered Conn Description Packages := ⟨conn, loadPersistedConfig {} persisted⟩
    ({ agentsById := Function.update agents.agentsById agentId (some registered)
       connections := Function.update agents.connections conn (some ((associated agents conn).insert agentId)) },
      registered)
/-- `SetCustomConfigForAgent`: the registry, and the message with the connection that it is sent on. -/
def setCustomConfigForAgent (agents : Agents Conn Description Packages) (agentId : InstanceId) (body : Bytes) :
    Agents Conn Description Packages × Option (Conn × ServerToAgent) :=
  match agents.agentsById agentId with
  | none => (agents, none)
  | some ⟨conn, agent⟩ =>
    ({ agents with agentsById := Function.update agents.agentsById agentId (some ⟨conn, setCustomConfig agent body⟩) },
      (customConfigMessage agent body).map fun message => (conn, message))

variable [DecidableEq Description] [Ulids]

def onMessage (agents : Agents Conn Description Packages) (conn : Conn) (message : Message Description Packages) :
    Agents Conn Description Packages × ServerToAgent :=
  match instanceIdOf message.instanceUid with
  | none => (agents, {})
  | some instanceId =>
    let found := findOrCreateAgent agents instanceId conn message.persisted
    let updated := updateStatus found.2.agent message.report
    ({ found.1 with
        agentsById := Function.update found.1.agentsById instanceId (some ⟨found.2.conn, updated.1⟩) }, updated.2)

end

/-! ### The maps stay in step -/

/-- The agent is registered and its messages go to the connection. -/
def Bound (agents : Agents Conn Description Packages) (instanceId : InstanceId) (conn : Conn) : Prop :=
  ∃ agent, agents.agentsById instanceId = some ⟨conn, agent⟩
/-- The ids of a connection are those of the agents bound to it. -/
def InStep (agents : Agents Conn Description Packages) : Prop :=
  ∀ instanceId conn, instanceId ∈ associated agents conn ↔ Bound agents instanceId conn

theorem bound_unique {agents : Agents Conn Description Packages} {instanceId : InstanceId} {conn other : Conn}
    (bound : Bound agents instanceId conn) (also : Bound agents instanceId other) : conn = other := by
  obtain ⟨agent, found⟩ := bound
  obtain ⟨_, again⟩ := also
  rw [found] at again
  exact congrArg Registered.conn (Option.some.inj again)

theorem deleteAll_apply (ids : List InstanceId) (instanceId : InstanceId) :
    ∀ agentsById : InstanceId → Option (Registered Conn Description Packages),
      deleteAll agentsById ids instanceId = if instanceId ∈ ids then none else agentsById instanceId := by
  induction ids with
  | nil => intro agentsById; simp [deleteAll]
  | cons id ids ih =>
    intro agentsById
    have rest := ih (Function.update agentsById id none)
    rw [deleteAll] at rest ⊢
    rw [List.foldl_cons, rest]
    by_cases same : instanceId = id
    · simp [same]
    · simp [same]

/-- An agent whose entry is replaced on the connection that it has stays as bound as it was. -/
theorem bound_replace {agents : Agents Conn Description Packages} {instanceId : InstanceId} {conn : Conn}
    (bound : Bound agents instanceId conn) (agent : Agent Description Packages) (id : InstanceId) (other : Conn) :
    Bound { agents with agentsById := Function.update agents.agentsById instanceId (some ⟨conn, agent⟩) } id other ↔
      Bound agents id other := by
  by_cases same : id = instanceId
  · subst same
    have replaced : Bound { agents with agentsById := Function.update agents.agentsById id (some ⟨conn, agent⟩) } id conn :=
      ⟨agent, by simp⟩
    constructor
    · intro also
      rw [← bound_unique replaced also]
      exact bound
    · intro also
      rw [← bound_unique bound also]
      exact replaced
  · simp only [Bound, Function.update_of_ne same]

section
variable [DecidableEq Conn]

theorem associated_removed (agents : Agents Conn Description Packages) (conn other : Conn) :
    associated (removeConnection agents conn) other = if other = conn then [] else associated agents other := by
  by_cases same : other = conn <;> simp [associated, removeConnection, same]

/-- `RemoveConnection` removes the agents bound to the connection and no other. -/
theorem removeConnection_exact {agents : Agents Conn Description Packages} (inStep : InStep agents) (conn : Conn)
    (instanceId : InstanceId) :
    (Bound agents instanceId conn → (removeConnection agents conn).agentsById instanceId = none) ∧
      (¬ Bound agents instanceId conn →
        (removeConnection agents conn).agentsById instanceId = agents.agentsById instanceId) := by
  have removed : (removeConnection agents conn).agentsById instanceId =
      if instanceId ∈ associated agents conn then none else agents.agentsById instanceId :=
    deleteAll_apply _ _ _
  constructor
  · intro bound
    rw [removed, if_pos ((inStep _ _).mpr bound)]
  · intro unbound
    rw [removed, if_neg fun member => unbound ((inStep _ _).mp member)]

theorem bound_removed {agents : Agents Conn Description Packages} (inStep : InStep agents) (conn : Conn)
    (instanceId : InstanceId) (other : Conn) :
    Bound (removeConnection agents conn) instanceId other ↔ other ≠ conn ∧ Bound agents instanceId other := by
  obtain ⟨gone, kept⟩ := removeConnection_exact inStep conn instanceId
  by_cases bound : Bound agents instanceId conn
  · constructor
    · rintro ⟨agent, found⟩
      rw [gone bound] at found
      cases found
    · rintro ⟨different, also⟩
      exact absurd (bound_unique also bound) different
  · rw [Bound, kept bound, ← Bound]
    constructor
    · intro also
      refine ⟨?_, also⟩
      rintro rfl
      exact bound also
    · exact And.right

theorem inStep_removed {agents : Agents Conn Description Packages} (inStep : InStep agents) (conn : Conn) :
    InStep (removeConnection agents conn) := by
  intro instanceId other
  rw [associated_removed, bound_removed inStep]
  by_cases same : other = conn
  · simp [same]
  · simp [same, inStep instanceId other]

variable [Hashing]

/-- The agent that is found or created is registered with its connection, and no other agent has moved. -/
theorem findOrCreateAgent_bound (agents : Agents Conn Description Packages) (agentId : InstanceId) (conn : Conn)
    (persisted : Option Bytes) :
    Bound (findOrCreateAgent agents agentId conn persisted).1 agentId
        (findOrCreateAgent agents agentId conn persisted).2.conn ∧
      ∀ id other, id ≠ agentId →
        (Bound (findOrCreateAgent agents agentId conn persisted).1 id other ↔ Bound agents id other) := by
  cases known : agents.agentsById agentId with
  | some registered =>
    rw [findOrCreateAgent, known]
    exact ⟨⟨registered.agent, known⟩, fun id other _ => Iff.rfl⟩
  | none =>
    rw [findOrCreateAgent, known]
    refine ⟨⟨loadPersistedConfig {} persisted, by simp⟩, ?_⟩
    intro id other different
    simp only [Bound, Function.update_of_ne different]

/-- A registered agent is served on the connection that it is bound to, a new one on that of the message. -/
theorem findOrCreateAgent_conn (agents : Agents Conn Description Packages) (agentId : InstanceId) (conn : Conn)
    (persisted : Option Bytes) (other : Conn) :
    (findOrCreateAgent agents agentId conn persisted).2.conn = other ↔
      Bound agents agentId other ∨ agents.agentsById agentId = none ∧ conn = other := by
  cases known : agents.agentsById agentId with
  | some registered =>
    rw [findOrCreateAgent, known]
    constructor
    · rintro rfl
      exact .inl ⟨registered.agent, known⟩
    · rintro (⟨agent, found⟩ | ⟨absent, _⟩)
      · rw [known] at found
        exact congrArg Registered.conn (Option.some.inj found)
      · cases absent
  | none =>
    rw [findOrCreateAgent, known]
    simp [Bound, known]

theorem inStep_findOrCreate {agents : Agents Conn Description Packages} (inStep : InStep agents) (agentId : InstanceId)
    (conn : Conn) (persisted : Option Bytes) : InStep (findOrCreateAgent agents agentId conn persisted).1 := by
  cases known : agents.agentsById agentId with
  | some registered =>
    rw [findOrCreateAgent, known]
    exact inStep
  | none =>
    have unbound : ∀ other, ¬ Bound agents agentId other := by
      rintro other ⟨agent, found⟩
      rw [known] at found
      cases found
    rw [findOrCreateAgent, known]
    intro id other
    have before := inStep id other
    by_cases here : other = conn <;> by_cases same : id = agentId
    · subst here same
      simp [associated, Bound]
    · subst here
      simpa [associated, Bound, same] using before
    · subst same
      have absent : id ∉ associated agents other := fun member => unbound other ((inStep id other).mp member)
      simpa [associated, Bound, here, Ne.symm here] using absent
    · simpa [associated, Bound, here, same] using before

omit [DecidableEq Conn] in
/-- A configuration that is set for an agent moves no agent. -/
theorem bound_configured (agents : Agents Conn Description Packages) (agentId : InstanceId) (body : Bytes)
    (id : InstanceId) (other : Conn) :
    Bound (setCustomConfigForAgent agents agentId body).1 id other ↔ Bound agents id other := by
  cases known : agents.agentsById agentId with
  | none => rw [setCustomConfigForAgent, known]
  | some registered =>
    rw [setCustomConfigForAgent, known]
    exact bound_replace ⟨registered.agent, known⟩ _ id other

omit [DecidableEq Conn] in
theorem inStep_configured {agents : Agents Conn Description Packages} (inStep : InStep agents) (agentId : InstanceId)
    (body : Bytes) : InStep (setCustomConfigForAgent agents agentId body).1 := by
  intro id other
  rw [bound_configured, ← inStep id other]
  cases known : agents.agentsById agentId with
  | none => rw [setCustomConfigForAgent, known]
  | some registered => rw [setCustomConfigForAgent, known]; rfl

omit [DecidableEq Conn] in
/-- What is sent to an agent is sent on the connection that it is bound to. -/
theorem bound_pushes {agents : Agents Conn Description Packages} {agentId : InstanceId} {conn other : Conn}
    (bound : Bound agents agentId conn) {body : Bytes} {message : ServerToAgent}
    (sent : (setCustomConfigForAgent agents agentId body).2 = some (other, message)) : other = conn := by
  obtain ⟨agent, found⟩ := bound
  rw [setCustomConfigForAgent, found] at sent
  cases pushed : customConfigMessage agent body with
  | none => simp [pushed] at sent
  | some push =>
    simp only [pushed, Option.map_some, Option.some.injEq, Prod.mk.injEq] at sent
    exact sent.1.symm

variable [DecidableEq Description] [Ulids]

theorem onMessage_known {message : Message Description Packages} {instanceId : InstanceId}
    (known : instanceIdOf message.instanceUid = some instanceId) (agents : Agents Conn Description Packages)
    (conn : Conn) (id : InstanceId) (other : Conn) :
    Bound (onMessage agents conn message).1 id other ↔
      Bound (findOrCreateAgent agents instanceId conn message.persisted).1 id other := by
  rw [onMessage, known]
  exact bound_replace (findOrCreateAgent_bound agents instanceId conn message.persisted).1 _ id other

theorem inStep_onMessage {agents : Agents Conn Description Packages} (inStep : InStep agents) (conn : Conn)
    (message : Message Description Packages) : InStep (onMessage agents conn message).1 := by
  cases known : instanceIdOf message.instanceUid with
  | none =>
    rw [onMessage, known]
    exact inStep
  | some instanceId =>
    have kept := inStep_findOrCreate inStep instanceId conn message.persisted
    intro id other
    rw [onMessage_known known, ← kept id other, onMessage, known]
    rfl

/-! ### Runs -/

/-- What reaches the server. An agent reconnects by connecting anew. -/
inductive Event (Conn Description Packages : Type)
  | connect (conn : Conn)
  | message (conn : Conn) (message : Message Description Packages)
  | disconnect (conn : Conn)
  | configure (agentId : InstanceId) (body : Bytes)
/-- The registry between two events. `lastOn` is the connection that the most
    recent message of an agent arrived on, if it was open then and has not been
    closed since. -/
structure Server (Conn Description Packages : Type) where
  agents : Agents Conn Description Packages := {}
  isOpen : Conn → Bool := fun _ => false
  lastOn : InstanceId → Option Conn := fun _ => none

def step (server : Server Conn Description Packages) : Event Conn Description Packages → Server Conn Description Packages
  | .connect conn => { server with isOpen := Function.update server.isOpen conn true }
  | .message conn message =>
    { server with
      agents := (onMessage server.agents conn message).1
      lastOn :=
        match instanceIdOf message.instanceUid with
        | none => server.lastOn
        | some instanceId => Function.update server.lastOn instanceId (if server.isOpen conn then some conn else none) }
  | .disconnect conn =>
    { agents := removeConnection server.agents conn
      isOpen := Function.update server.isOpen conn false
      lastOn := fun instanceId => if server.lastOn instanceId = some conn then none else server.lastOn instanceId }
  | .configure agentId body => { server with agents := (setCustomConfigForAgent server.agents agentId body).1 }
def run (events : List (Event Conn Description Packages)) : Server Conn Description Packages :=
  events.foldl step {}

/-- Every agent that was last heard on a connection that is still open is
    registered and bound to that connection, and closing a connection removes
    exactly the agents that are bound to it. -/
structure Faithful (server : Server Conn Description Packages) : Prop where
  bound : ∀ instanceId conn, server.lastOn instanceId = some conn → Bound server.agents instanceId conn
  removes : ∀ conn instanceId,
    (Bound server.agents instanceId conn → (removeConnection server.agents conn).agentsById instanceId = none) ∧
      (¬ Bound server.agents instanceId conn →
        (removeConnection server.agents conn).agentsById instanceId = server.agents.agentsById instanceId)
/-- No message arrives on an open connection from an agent that is bound to another one. -/
def Stays (server : Server Conn Description Packages) : Event Conn Description Packages → Prop
  | .message conn message =>
    server.isOpen conn = true → ∀ instanceId, instanceIdOf message.instanceUid = some instanceId →
      ∀ other, Bound server.agents instanceId other → other = conn
  | _ => True

theorem inStep_step {server : Server Conn Description Packages} (inStep : InStep server.agents)
    (event : Event Conn Description Packages) : InStep (step server event).agents := by
  cases event with
  | connect conn => exact inStep
  | message conn message => exact inStep_onMessage inStep conn message
  | disconnect conn => exact inStep_removed inStep conn
  | configure agentId body => exact inStep_configured inStep agentId body

theorem run_append (before : List (Event Conn Description Packages)) (event : Event Conn Description Packages) :
    run (before ++ [event]) = step (run before) event := by
  rw [run, List.foldl_append]
  rfl

theorem inStep_run (events : List (Event Conn Description Packages)) : InStep (run events).agents := by
  induction events using List.reverseRecOn with
  | nil =>
    intro instanceId conn
    simp [run, associated, Bound]
  | append_singleton events event ih =>
    rw [run_append]
    exact inStep_step ih event

/-- An agent is only remembered on a connection that is open. -/
theorem lastOn_open (events : List (Event Conn Description Packages)) {instanceId : InstanceId} {conn : Conn} :
    (run events).lastOn instanceId = some conn → (run events).isOpen conn = true := by
  induction events using List.reverseRecOn with
  | nil => intro last; cases last
  | append_singleton events event ih =>
    rw [run_append]
    cases event with
    | connect other =>
      intro last
      by_cases same : conn = other
      · simp [step, same]
      · simpa [step, same] using ih last
    | configure agentId body => exact ih
    | disconnect other =>
      intro last
      have kept : ¬ (run events).lastOn instanceId = some other ∧ (run events).lastOn instanceId = some conn := by
        simpa [step] using last
      have different : conn ≠ other := by
        rintro rfl
        exact kept.1 kept.2
      simpa [step, different] using ih kept.2
    | message other message =>
      intro last
      cases known : instanceIdOf message.instanceUid with
      | none => exact ih (by simpa [step, known] using last)
      | some id =>
        by_cases same : instanceId = id
        · have heard : (run events).isOpen other = true ∧ other = conn := by
            simpa [step, known, same] using last
          rw [← heard.2]
          exact heard.1
        · exact ih (by simpa [step, known, same] using last)

/-- The agent of a message is bound to the connection of the message unless it was bound to another. -/
theorem bound_onMessage {agents : Agents Conn Description Packages} {message : Message Description Packages}
    {instanceId : InstanceId} (known : instanceIdOf message.instanceUid = some instanceId) (conn : Conn) :
    Bound (onMessage agents conn message).1 instanceId conn ↔
      ∀ other, Bound agents instanceId other → other = conn := by
  rw [onMessage_known known]
  obtain ⟨bound, _⟩ := findOrCreateAgent_bound agents instanceId conn message.persisted
  have served := findOrCreateAgent_conn agents instanceId conn message.persisted conn
  constructor
  · intro here other before
    have same := (findOrCreateAgent_conn agents instanceId conn message.persisted other).mpr (.inl before)
    exact same.symm.trans (bound_unique bound here)
  · intro stays
    suffices same : (findOrCreateAgent agents instanceId conn message.persisted).2.conn = conn by
      rwa [same] at bound
    apply served.mpr
    cases registered : agents.agentsById instanceId with
    | none => exact .inr ⟨rfl, rfl⟩
    | some entry =>
      have before : Bound agents instanceId entry.conn := ⟨entry.agent, registered⟩
      rw [stays entry.conn before] at before
      exact .inl before

theorem bound_onMessage_other {agents : Agents Conn Description Packages} {message : Message Description Packages}
    {instanceId : InstanceId} (different : instanceIdOf message.instanceUid ≠ some instanceId) (conn other : Conn) :
    Bound (onMessage agents conn message).1 instanceId other ↔ Bound agents instanceId other := by
  cases known : instanceIdOf message.instanceUid with
  | none => rw [onMessage, known]
  | some id =>
    have apart : instanceId ≠ id := by
      rintro rfl
      exact different known
    rw [onMessage_known known]
    exact (findOrCreateAgent_bound agents id conn message.persisted).2 instanceId other apart

/-- One event keeps the open agents bound where they were last heard, exactly if it moves none of them. -/
theorem bound_step {server : Server Conn Description Packages} (inStep : InStep server.agents)
    (bound : ∀ instanceId conn, server.lastOn instanceId = some conn → Bound server.agents instanceId conn)
    (event : Event Conn Description Packages) :
    (∀ instanceId conn, (step server event).lastOn instanceId = some conn →
        Bound (step server event).agents instanceId conn) ↔ Stays server event := by
  cases event with
  | connect conn => exact iff_of_true bound trivial
  | configure agentId body =>
    refine iff_of_true ?_ trivial
    intro instanceId conn last
    exact (bound_configured server.agents agentId body instanceId conn).mpr (bound instanceId conn last)
  | disconnect conn =>
    refine iff_of_true ?_ trivial
    intro instanceId other last
    have kept : ¬ server.lastOn instanceId = some conn ∧ server.lastOn instanceId = some other := by
      simpa [step] using last
    apply (bound_removed inStep conn instanceId other).mpr
    refine ⟨?_, bound instanceId other kept.2⟩
    rintro rfl
    exact kept.1 kept.2
  | message conn message =>
    cases known : instanceIdOf message.instanceUid with
    | none =>
      refine iff_of_true ?_ ?_
      · simpa [step, known, onMessage] using bound
      · intro _ instanceId known'
        rw [known] at known'
        cases known'
    | some id =>
      constructor
      · intro after opened instanceId same other before
        have heard := after instanceId conn (by simp [step, same, opened])
        exact (bound_onMessage same conn).mp heard other before
      · intro stays instanceId other last
        by_cases same : instanceId = id
        · subst same
          simp only [step, known, Function.update_self] at last
          by_cases isOpen : server.isOpen conn = true
          · rw [if_pos isOpen, Option.some.injEq] at last
            subst last
            exact (bound_onMessage known conn).mpr (stays isOpen instanceId known)
          · simp [isOpen] at last
        · have different : instanceIdOf message.instanceUid ≠ some instanceId := by
            rw [known]
            exact fun equal => same (Option.some.inj equal).symm
          simp only [step, known, Function.update_of_ne same] at last
          exact (bound_onMessage_other different conn other).mpr (bound instanceId other last)

/-- The registry is faithful all along a run if and only if no agent sends a
    message on an open connection while it is bound to another one. -/
theorem open_agents_bound_iff (events : List (Event Conn Description Packages)) :
    (∀ before after, events = before ++ after → Faithful (run before)) ↔
      ∀ before event after, events = before ++ event :: after → Stays (run before) event := by
  constructor
  · intro faithful before event after split
    have now := faithful before (event :: after) split
    have later := faithful (before ++ [event]) after (by rw [split, List.append_assoc]; rfl)
    rw [run_append] at later
    exact (bound_step (inStep_run before) now.bound event).mp later.bound
  · intro stays before
    refine fun after split => ⟨?_, fun conn id => removeConnection_exact (inStep_run before) conn id⟩
    induction before using List.reverseRecOn generalizing after with
    | nil =>
      intro instanceId conn last
      cases last
    | append_singleton before event ih =>
      have earlier : events = before ++ event :: after := by rw [split, List.append_assoc]; rfl
      rw [run_append]
      exact (bound_step (inStep_run before) (ih _ earlier) event).mpr (stays before event after earlier)

end

/-! ### An agent that reconnects -/

section
/-- Nothing is an old-style id here and the digest is empty: neither matters to the run. -/
local instance noUlids : Ulids := ⟨fun _ => none⟩
local instance constantHash : Hashing := ⟨fun _ => []⟩

def heard : Message Unit Unit := { instanceUid := List.replicate 16 0, report := { sequenceNum := 0, capabilities := 0 } }
/-- The agent comes back on connection 1 before connection 0 has closed. -/
def reconnects : List (Event Nat Unit Unit) := [.connect 0, .message 0 heard, .connect 1, .message 1 heard]

/-- The agent that was last heard on the open connection 1 is bound to connection 0, and gone once that one closes. -/
theorem reconnected_agent_lost :
    (run reconnects).isOpen 1 = true ∧ (run reconnects).lastOn (List.replicate 16 0) = some 1 ∧
      ((run reconnects).agents.agentsById (List.replicate 16 0)).map (·.conn) = some 0 ∧
      ((run (reconnects ++ [.disconnect 0])).agents.agentsById (List.replicate 16 0)).isNone = true ∧
      ¬ ∀ before after, reconnects = before ++ after → Faithful (run before) := by
  have stale : ((run reconnects).agents.agentsById (List.replicate 16 0)).map (·.conn) = some 0 := by decide
  refine ⟨by decide, by decide, stale, by decide, ?_⟩
  intro faithful
  obtain ⟨agent, found⟩ := (faithful reconnects [] (by simp)).bound (List.replicate 16 0) 1 (by decide)
  rw [found] at stale
  cases stale

end

end Openlit.AgentRegistry
