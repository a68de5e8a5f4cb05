import Openlit.OrganisationLinks

/-!
Creations of database configs at once (`upsertDBConfig`), statement by
statement. The name is looked up before the config is stored, and what is
stored goes to a config of the name that another request has stored meanwhile.
Requests that cannot create the same name in the same organisation stay apart.
-/
namespace Openlit.ConfigCreations
open Openlit.Programs Openlit.Programs.Program Openlit.Text Openlit.Accounts Openlit.Organisations Openlit.DbConfigs
  Openlit.OrganisationLinks

/-! ### Requests -/

structure Creation where
  session : Option String
  dbConfig : ConfigInput
  id : Option String := none
  deriving DecidableEq, Repr

/-- No config has the id of the request, if it has one. -/
def IsCreation (t : Tables) (r : Creation) : Prop := ∀ c ∈ t.databaseConfigs, r.id ≠ some c.id
/-- The request gets past all checks where it runs alone: to a config of the name in the current organisation of its user. -/
structure Creates (t : Tables) (r : Creation) (name : String) (organisationId : Option String) : Prop where
  verified : r.dbConfig.verify = .ok ()
  withoutId : present r.id = none
  named : r.dbConfig.name = some name
  scope : ∃ user, r.session.bind t.user = some user ∧ organisationId = (currentOrganisation t user.id).map (·.id)
  free : ∀ c ∈ t.databaseConfigs, ¬(c.name = name ∧ c.organisationId = organisationId)
/-- Both requests would create a config of one name in one organisation, or both without an organisation. -/
def Clash (t : Tables) (r r' : Creation) : Prop :=
  ∃ name organisationId, Creates t r name organisationId ∧ Creates t r' name organisationId

/-- What creations may do to a database: its configs stay as they are, each new
    one is as the request of its creator has it, and who gets a link has created the config. -/
structure Apart (requests : List Creation) (t t' : Tables) : Prop where
  kept : ∀ c ∈ t.databaseConfigs, c ∈ t'.databaseConfigs
  asRequested : ∀ c ∈ t'.databaseConfigs, c ∈ t.databaseConfigs ∨ ∃ r ∈ requests, r.session = some c.createdByUserId ∧
    c = r.dbConfig.applyTo { id := c.id, name := "", createdByUserId := c.createdByUserId, organisationId := c.organisationId }
  own : ∀ l ∈ t'.databaseConfigUsers, l ∈ t.databaseConfigUsers ∨
    ∃ c ∈ t'.databaseConfigs, c.id = l.databaseConfigId ∧ c.createdByUserId = l.userId

theorem user_isSession {t : Tables} {session : Option String} {user : User} (known : session.bind t.user = some user) :
    session = some user.id := by
  obtain ⟨id, isSession, found⟩ := Option.bind_eq_some_iff.mp known
  have isUser : user.id = id := by simpa using List.find?_some found
  rw [isSession, isUser]

section
variable [Ids]

def Creation.upsert (r : Creation) : Op String := upsertDBConfig r.session r.dbConfig r.id

/-! ### What a request adds -/

/-- The config may be a new one of the request, on what the tables held before any request. -/
def Made (origin : Tables) (r : Creation) (c : DatabaseConfig) : Prop :=
  Creates origin r c.name c.organisationId ∧ r.session = some c.createdByUserId ∧
    c = r.dbConfig.applyTo { id := c.id, name := "", createdByUserId := c.createdByUserId, organisationId := c.organisationId }

omit [Ids] in
theorem Made.new {origin : Tables} {r : Creation} {c : DatabaseConfig} (made : Made origin r c) : c ∉ origin.databaseConfigs :=
  fun stored => made.1.free c stored ⟨rfl, rfl⟩

/-- Nothing changes but for new configs of a kind and links to them of their creators. -/
structure Adds (made : DatabaseConfig → Prop) (db db' : Database) : Prop where
  users : db'.users = db.users
  organisations : db'.organisations = db.organisations
  members : db'.organisationUsers = db.organisationUsers
  kept : ∀ c ∈ db.databaseConfigs, c ∈ db'.databaseConfigs
  configs : ∀ c ∈ db'.databaseConfigs, c ∈ db.databaseConfigs ∨ made c
  links : ∀ l ∈ db'.databaseConfigUsers, l ∈ db.databaseConfigUsers ∨
    ∃ c ∈ db'.databaseConfigs, made c ∧ c.id = l.databaseConfigId ∧ c.createdByUserId = l.userId

instance (made : DatabaseConfig → Prop) : IsPreorder Database (Adds made) where
  refl _ := ⟨rfl, rfl, rfl, fun _ stored => stored, fun _ stored => .inl stored, fun _ stored => .inl stored⟩
  trans := by
    intro a b c first second
    refine ⟨second.users.trans first.users, second.organisations.trans first.organisations, second.members.trans first.members,
      fun x stored => second.kept x (first.kept x stored), fun x stored => ?_, fun l stored => ?_⟩
    · rcases second.configs x stored with old | new
      · exact first.configs x old
      · exact .inr new
    · rcases second.links l stored with old | new
      · rcases first.links l old with older | ⟨x, inside, rest⟩
        · exact .inl older
        · exact .inr ⟨x, second.kept x inside, rest⟩
      · exact .inr new

section
variable {made : DatabaseConfig → Prop} {db db' : Database}

omit [Ids] in
theorem Adds.mono {more : DatabaseConfig → Prop} (adds : Adds made db db') (implies : ∀ c, made c → more c) :
    Adds more db db' :=
  { adds with
    configs := fun c stored => (adds.configs c stored).imp_right (implies c)
    links := fun l stored => (adds.links l stored).imp_right fun ⟨c, inside, new, rest⟩ => ⟨c, inside, implies c new, rest⟩ }
omit [Ids] in
theorem Adds.user (adds : Adds made db db') : db'.user = db.user := by
  funext id
  rw [Tables.user, Tables.user, adds.users]
omit [Ids] in
theorem Adds.currentOrganisation (adds : Adds made db db') (userId : String) :
    (currentOrganisation db'.toTables userId).map (·.id) = (currentOrganisation db.toTables userId).map (·.id) := by
  rw [Organisations.currentOrganisation, Organisations.currentOrganisation, adds.members, adds.organisations]
omit [Ids] in
theorem adds_config {c : DatabaseConfig} (new : made c)
    (tables : db'.toTables = { db.toTables with databaseConfigs := db.databaseConfigs ++ [c] }) : Adds made db db' := by
  refine ⟨by rw [tables], by rw [tables], by rw [tables], ?_, ?_, ?_⟩
  · intro x stored
    rw [tables]
    exact List.mem_append_left _ stored
  · intro x stored
    rw [tables] at stored
    rcases List.mem_append.mp stored with old | added
    · exact .inl old
    · rw [List.mem_singleton.mp added]
      exact .inr new
  · intro l stored
    rw [tables] at stored
    exact .inl stored
omit [Ids] in
theorem adds_link {c : DatabaseConfig} {link : DatabaseConfigUser} (stored : c ∈ db.databaseConfigs) (new : made c)
    (toConfig : c.id = link.databaseConfigId) (ofCreator : c.createdByUserId = link.userId)
    (tables : db'.toTables = { db.toTables with databaseConfigUsers := db.databaseConfigUsers ++ [link] }) : Adds made db db' := by
  refine ⟨by rw [tables], by rw [tables], by rw [tables], ?_, ?_, ?_⟩
  · intro x inside
    rwa [tables]
  · intro x inside
    rw [tables] at inside
    exact .inl inside
  · intro l inside
    rw [tables] at inside ⊢
    rcases List.mem_append.mp inside with old | added
    · exact .inl old
    · rw [List.mem_singleton.mp added]
      exact .inr ⟨c, stored, new, toConfig, ofCreator⟩

end

/-! ### One request among others -/

section
variable {origin s : Database} {r : Creation} {user : User} {name : String} {organisationId : Option String}
  {others : DatabaseConfig → Prop}

theorem newConfig_named (can : Creates origin.toTables r name organisationId) (t : Tables) (userId : String) :
    (newConfig t r.dbConfig userId organisationId).name = name := by
  simp [newConfig, ConfigInput.applyTo, can.named]
theorem newConfig_made (can : Creates origin.toTables r name organisationId) (isUser : r.session = some user.id) (t : Tables) :
    Made origin.toTables r (newConfig t r.dbConfig user.id organisationId) := by
  refine ⟨?_, isUser, rfl⟩
  rw [newConfig_named can]
  exact can
omit [Ids] in
/-- Where the others make no config of the name, none is found. -/
theorem noneNamed (moved : Adds others origin s) (can : Creates origin.toTables r name organisationId)
    (elsewhere : ∀ c, others c → ¬Creates origin.toTables r c.name c.organisationId) :
    s.databaseConfigs.find? (sameName r.dbConfig organisationId) = none := by
  refine List.find?_eq_none.mpr fun c stored same => ?_
  obtain ⟨named, sameScope⟩ := sameName_iff.mp same
  have isName : c.name = name := Option.some.inj (named.trans can.named)
  rcases moved.configs c stored with old | new
  · exact can.free c old ⟨isName, sameScope⟩
  · refine elsewhere c new ?_
    rwa [isName, sameScope]
theorem createByName_ensures (moved : Adds others origin s) (can : Creates origin.toTables r name organisationId)
    (isUser : r.session = some user.id) (elsewhere : ∀ c, others c → ¬Creates origin.toTables r c.name c.organisationId) :
    (createByName r.dbConfig user.id organisationId).Ensures (Adds others) (Adds (Made origin.toTables r))
      (fun result s' => ∀ id, result = .ok id → ∃ c ∈ s'.databaseConfigs, Made origin.toTables r c ∧ c.id = id ∧
        c.createdByUserId = user.id) s := by
  have stores {before after : Database} (tables : after.toTables = { before.toTables with
      databaseConfigs := before.databaseConfigs ++ [newConfig before.toTables r.dbConfig user.id organisationId] }) :
      Adds (Made origin.toTables r) before after ∧ ∀ later, Adds others after later → ∀ id : String,
        (.ok (newConfig before.toTables r.dbConfig user.id organisationId).id : Except String String) = .ok id →
          ∃ c ∈ later.databaseConfigs, Made origin.toTables r c ∧ c.id = id ∧ c.createdByUserId = user.id := by
    have made := newConfig_made can isUser before.toTables
    refine ⟨adds_config made tables, ?_⟩
    rintro later further _ ⟨rfl⟩
    refine ⟨_, further.kept _ ?_, made, rfl, rfl⟩
    rw [tables]
    exact List.mem_append_right _ (List.mem_singleton_self _)
  have failed {e : String} {after : Database} : ∀ id, (.error e : Except String String) = .ok id →
      ∃ c ∈ after.databaseConfigs, Made origin.toTables r c ∧ c.id = id ∧ c.createdByUserId = user.id := by
    intro id same
    cases same
  cases organisationId with
  | some organisation =>
    refine ensures_insert (fun before id after further changed => ?_) fun _ _ _ => failed
    rw [noneNamed (IsTrans.trans _ _ _ moved further) can elsewhere] at changed
    obtain ⟨rfl, tables⟩ := Prod.mk.inj (Except.ok.inj changed)
    exact stores tables.symm
  | none =>
    refine ensures_read fun s' further => ?_
    rw [noneNamed (IsTrans.trans _ _ _ moved further) can elsewhere]
    refine ensures_insert (fun before id after _ changed => ?_) fun _ _ _ => failed
    obtain ⟨rfl, tables⟩ := Prod.mk.inj (Except.ok.inj changed)
    exact stores tables.symm
omit [Ids] in
theorem addDatabaseConfigUserEntry_ensures {c : DatabaseConfig} (stored : c ∈ s.databaseConfigs) (made : Made origin.toTables r c)
    (ofUser : c.createdByUserId = user.id) (permissions : Permissions) :
    (addDatabaseConfigUserEntry user.id c.id permissions).Ensures (Adds others) (Adds (Made origin.toTables r))
      (fun _ _ => True) s := by
  refine ensures_read fun s₁ first => ensures_read fun s₂ second => ?_
  refine ensures_write (fun s₃ s₄ third tables => ?_) fun _ _ _ => trivial
  have still := third.kept c (second.kept c (first.kept c stored))
  exact ⟨adds_link still made rfl ofUser tables, fun _ _ => trivial⟩
omit [Ids] in
theorem named_of_verify {input : ConfigInput} (verified : input.verify = .ok ()) : ∃ name, input.name = some name := by
  cases named : input.name with
  | some name => exact ⟨name, rfl⟩
  | none => simp [ConfigInput.verify, present, named] at verified
omit [Ids] in
/-- Where no config of the name is found, none was there before. -/
theorem creates_of_unnamed (moved : Adds others origin s) (creation : IsCreation origin.toTables r)
    (verified : r.dbConfig.verify = .ok ()) (withoutId : present r.id = none) (known : r.session.bind origin.user = some user)
    (isScope : organisationId = (currentOrganisation origin.toTables user.id).map (·.id))
    (unnamed : (s.databaseConfigs.find? fun c => sameName r.dbConfig organisationId c ∧ some c.id ≠ r.id).isSome = false) :
    ∃ name, Creates origin.toTables r name organisationId := by
  obtain ⟨name, named⟩ := named_of_verify verified
  refine ⟨name, verified, withoutId, named, ⟨user, known, isScope⟩, ?_⟩
  rintro c stored ⟨isName, inScope⟩
  have none := Option.isNone_iff_eq_none.mp (Option.isSome_eq_false_iff.mp unnamed)
  exact List.find?_eq_none.mp none c (moved.kept c stored)
    (by simp [sameName, isName, named, inScope, Ne.symm (creation c stored)])
omit [Ids] in
/-- A link to a config of the id of a creation would be to another's new config, and so of another user. -/
theorem noLink (moved : Adds others origin s) (creation : IsCreation origin.toTables r) (isUser : r.session = some user.id)
    (strangers : ∀ c, others c → r.session ≠ some c.createdByUserId) {id : String} (hasId : present r.id = some id) :
    s.link id user.id = none := by
  refine List.find?_eq_none.mpr fun l stored same => ?_
  obtain ⟨isId, ofUser⟩ : l.databaseConfigId = id ∧ l.userId = user.id := by simpa using same
  rcases moved.links l stored with old | ⟨c, -, new, -, ofCreator⟩
  · obtain ⟨c, inside, toConfig⟩ := (origin.references.link l old).1
    refine creation c inside ?_
    rw [toConfig, isId]
    exact (Option.filter_eq_some_iff.mp hasId).1
  · refine strangers c new ?_
    rw [ofCreator, ofUser]
    exact isUser
omit [Ids] in
theorem ensures_getCurrentOrganisation {β : Type} {next : Option CurrentOrganisation → Op β}
    {guarantee : Database → Database → Prop} [Std.Refl guarantee] (moved : Adds others origin s) (known : r.session.bind origin.user = some user)
    (after : ∀ s' currentOrg, Adds others origin s' →
      currentOrg.map (·.id) = (currentOrganisation origin.toTables user.id).map (·.id) →
        (next currentOrg).Ensures (Adds others) guarantee (fun _ _ => True) s') :
    (getCurrentOrganisation r.session >>= next).Ensures (Adds others) guarantee (fun _ _ => True) s := by
  refine ensures_bind (ensures_currentUser (fun found s₁ first known' => ?_) fun _ _ _ _ => trivial)
  rw [(IsTrans.trans _ _ _ moved first : Adds others origin s₁).user, known] at known'
  obtain rfl := Option.some.inj known'
  refine fun s₂ second => ⟨Std.Refl.refl s₂, fun s₃ third => after s₃ _ ?_ ?_⟩
  · exact IsTrans.trans _ _ _ moved (IsTrans.trans _ _ _ first (IsTrans.trans _ _ _ second third))
  · exact (IsTrans.trans _ _ _ moved (IsTrans.trans _ _ _ first second) : Adds others origin s₂).currentOrganisation user.id
/-- Among others that create nothing of the name, a request adds its config and the link to it at most. -/
theorem upsert_ensures (creation : IsCreation origin.toTables r)
    (elsewhere : ∀ c, others c → ¬Creates origin.toTables r c.name c.organisationId)
    (strangers : ∀ c, others c → r.session ≠ some c.createdByUserId) :
    r.upsert.Ensures (Adds others) (Adds (Made origin.toTables r)) (fun _ _ => True) origin := by
  unfold Creation.upsert upsertDBConfig
  cases verified : r.dbConfig.verify with
  | error message => exact fun _ _ => trivial
  | ok _ =>
    refine ensures_currentUser (fun user s₁ first known => ?_) fun _ _ => trivial
    have isUser := user_isSession known
    rw [first.user] at known
    refine ensures_getCurrentOrganisation first known fun s₂ currentOrg second isScope => ensures_read fun s₃ third => ?_
    refine ensures_throwIfError (fun _ _ => trivial) fun unnamed => ?_
    have moved : Adds others origin s₃ := IsTrans.trans _ _ _ second third
    cases hasId : present r.id with
    | some id =>
      refine ensures_bind (ensures_read fun s₄ fourth => ?_)
      rw [noLink (IsTrans.trans _ _ _ moved fourth) creation isUser strangers hasId]
      exact fun _ _ _ _ => trivial
    | none =>
      obtain ⟨name, can⟩ := creates_of_unnamed moved creation verified hasId known isScope unnamed
      refine ensures_bind ((createByName_ensures moved can isUser elsewhere).consequence (fun _ _ same => same) ?_)
      rintro (e | id) s₄ created
      · exact fun _ _ => trivial
      obtain ⟨c, stored, made, rfl, ofUser⟩ := created id rfl
      refine ensures_bind ((addDatabaseConfigUserEntry_ensures stored made ofUser _).consequence (fun _ _ same => same) ?_)
      rintro (e | _) s₅ -
      · exact fun _ _ => trivial
      · exact fun _ _ => trivial

end

/-! ### Requests that stay apart -/

section
variable {origin : Database}

/-- The configs that a request of the list may make. -/
def MadeBy (origin : Tables) (requests : List Creation) (i : Nat) (c : DatabaseConfig) : Prop :=
  ∃ r, requests[i]? = some r ∧ Made origin r c
omit [Ids] in
theorem madeBy_eq {origin : Tables} {requests : List Creation} {i : Nat} {r : Creation} (found : requests[i]? = some r) :
    MadeBy origin requests i = Made origin r := by
  funext c
  simp [MadeBy, found]
/-- However many creations run at once, they only add what each is asked for, if they are of different users and no two clash. -/
theorem creations_add {requests : List Creation} (creations : ∀ r ∈ requests, IsCreation origin.toTables r)
    (apart : ∀ (i j : Nat) (r r' : Creation), i ≠ j → requests[i]? = some r → requests[j]? = some r' →
      r.session ≠ r'.session ∧ ¬Clash origin.toTables r r') (schedule : List Nat) :
    Adds (fun c => ∃ r ∈ requests, Made origin.toTables r c) origin
      ((interleave schedule (requests.map Creation.upsert)).run origin).2 := by
  have ensured : ∀ (i : Nat) (p : Op String), (requests.map Creation.upsert)[i]? = some p →
      p.Ensures (Adds fun c => ∃ j, i ≠ j ∧ MadeBy origin.toTables requests j c) (Adds (MadeBy origin.toTables requests i))
        (fun _ _ => True) origin := by
    intro i p found
    rw [List.getElem?_map, Option.map_eq_some_iff] at found
    obtain ⟨r, found, rfl⟩ := found
    rw [madeBy_eq found]
    refine upsert_ensures (creations r (List.mem_of_getElem? found)) ?_ ?_
    · rintro c ⟨j, different, r', found', made⟩ can
      exact (apart i j r r' different found found').2 ⟨_, _, can, made.1⟩
    · rintro c ⟨j, different, r', found', made⟩ same
      exact (apart i j r r' different found found').1 (same.trans made.2.1.symm)
  refine interleave_leads schedule ensured (fun i j different _ _ s s' adds => ?_) fun i _ s s' adds => ?_
  · exact adds.mono fun c made => ⟨i, Ne.symm different, made⟩
  · exact adds.mono fun c ⟨r, found, made⟩ => ⟨r, List.mem_of_getElem? found, made⟩
omit [Ids] in
theorem apart_of_adds {requests : List Creation} {s : Database}
    (adds : Adds (fun c => ∃ r ∈ requests, Made origin.toTables r c) origin s) : Apart requests origin.toTables s.toTables where
  kept := adds.kept
  asRequested c stored := (adds.configs c stored).imp_right fun ⟨r, inside, made⟩ => ⟨r, inside, made.2⟩
  own l stored := (adds.links l stored).imp_right fun ⟨c, inside, _, rest⟩ => ⟨c, inside, rest⟩

end

/-! ### Requests that clash -/

section
variable {db : Database} {r : Creation} {user : User} {name : String} {organisationId : Option String}

/-- What follows the checks of a creation. -/
def Creation.store (r : Creation) (userId : String) (organisationId : Option String) : Op String := do
  let created ← createByName r.dbConfig userId organisationId
  addDatabaseConfigUserEntry userId created { canEdit := true, canDelete := true, canShare := true }
  pure "Added db details successfully"

omit [Ids] in
theorem noneBefore (can : Creates db.toTables r name organisationId) :
    db.databaseConfigs.find? (fun c => sameName r.dbConfig organisationId c ∧ some c.id ≠ r.id) = none := by
  refine List.find?_eq_none.mpr fun c stored same => ?_
  obtain ⟨named, sameScope⟩ := sameName_iff.mp (of_decide_eq_true same).1
  exact can.free c stored ⟨Option.some.inj (named.trans can.named), sameScope⟩
/-- A schedule can let a creation do its checks, and no more. -/
theorem reaches_store (can : Creates db.toTables r name organisationId) (known : r.session.bind db.user = some user)
    (isScope : organisationId = (currentOrganisation db.toTables user.id).map (·.id)) {ps : List (Op String)} {i : Nat}
    (inside : i < ps.length) : Reaches (ps.set i r.upsert) db (ps.set i (r.store user.id organisationId)) db := by
  have signedIn : (currentUser r.session).run db = (.ok user, db) := by rw [currentUser_run, known]
  have current : (getCurrentOrganisation r.session).run db = (.ok (currentOrganisation db.toTables user.id), db) := by
    rw [getCurrentOrganisation, run_bind, signedIn]
    rfl
  have unnamed : (read fun t : Tables => t.databaseConfigs.find? fun c =>
      sameName r.dbConfig organisationId c ∧ some c.id ≠ r.id).run db = (.ok none, db) := by
    rw [← noneBefore can]
    rfl
  subst isScope
  rw [Creation.upsert, upsertDBConfig, can.verified]
  dsimp only
  refine (reaches_bind inside signedIn).trans ((reaches_bind inside current).trans ((reaches_bind inside unnamed).trans ?_))
  rw [can.withoutId]
  exact reaches_bind inside rfl

theorem upsert_ends {post : Except String String → Database → Prop} (can : Creates db.toTables r name organisationId)
    (known : r.session.bind db.user = some user)
    (isScope : organisationId = (currentOrganisation db.toTables user.id).map (·.id))
    (stored : (r.store user.id organisationId).Ends post db) : r.upsert.Ends post db := by
  subst isScope
  have signedIn : (currentUser r.session).run db = (.ok user, db) := by rw [currentUser_run, known]
  rw [Creation.upsert, upsertDBConfig, can.verified]
  refine ends_bind ?_
  rw [Ends, signedIn]
  refine CurrentConfigs.ends_getCurrentOrganisation known (ends_read ?_)
  rw [noneBefore can, can.withoutId]
  exact stored

/-! ### Statements that succeed -/

omit [Ids] in
theorem currentOrganisation_known {t : Tables} {userId : String} {org : CurrentOrganisation}
    (current : currentOrganisation t userId = some org) : ∃ o ∈ t.organisations, o.id = org.id := by
  obtain ⟨m, found, rest⟩ := Option.bind_eq_some_iff.mp current
  obtain ⟨organisation, looked, made⟩ := Option.bind_eq_some_iff.mp rest
  obtain rfl := Option.some.inj made
  exact ⟨organisation, List.mem_of_find?_eq_some looked, rfl⟩
/-- A config whose name is new in its organisation can be stored. -/
theorem newConfig_valid (can : Creates db.toTables r name organisationId) (known : r.session.bind db.user = some user)
    (isScope : organisationId = (currentOrganisation db.toTables user.id).map (·.id)) :
    ({ db.toTables with databaseConfigs := db.databaseConfigs ++ [newConfig db.toTables r.dbConfig user.id organisationId] } :
        Tables).Unique ∧
      ({ db.toTables with databaseConfigs := db.databaseConfigs ++ [newConfig db.toTables r.dbConfig user.id organisationId] } :
        Tables).References := by
  have isName := newConfig_named can db.toTables user.id
  have listed : user ∈ db.users := by
    obtain ⟨id, -, found⟩ := Option.bind_eq_some_iff.mp known
    exact List.mem_of_find?_eq_some found
  have still {id : String} (there : ∃ c ∈ db.databaseConfigs, c.id = id) :
      ∃ c ∈ db.databaseConfigs ++ [newConfig db.toTables r.dbConfig user.id organisationId], c.id = id := by
    obtain ⟨c, inside, isId⟩ := there
    exact ⟨c, List.mem_append_left _ inside, isId⟩
  refine ⟨{ db.unique with configId := ?_, configName := ?_ }, { db.references with config := ?_, link := ?_, invite := ?_ }⟩
  · rw [List.map_append, List.nodup_append]
    refine ⟨db.unique.configId, by simp, ?_⟩
    rintro _ old _ new rfl
    rw [List.map_singleton, List.mem_singleton] at new
    exact Ids.newId_new _ (new ▸ old)
  · rw [List.filterMap_append, List.nodup_append]
    refine ⟨db.unique.configName, ?_, ?_⟩
    · cases organisationId <;> simp [newConfig, ConfigInput.applyTo]
    · rintro key old _ new rfl
      obtain ⟨c, inside, isKey⟩ := List.mem_filterMap.mp old
      obtain ⟨c', inside', isKey'⟩ := List.mem_filterMap.mp new
      rw [List.mem_singleton.mp inside', isName] at isKey'
      obtain ⟨o, inOrg, rfl⟩ := Option.map_eq_some_iff.mp isKey
      obtain ⟨o', inOrg', same⟩ := Option.map_eq_some_iff.mp isKey'
      obtain ⟨named, rfl⟩ := Prod.mk.inj same
      exact can.free c inside ⟨named.symm, inOrg.trans inOrg'.symm⟩
  · intro c inside
    rcases List.mem_append.mp inside with old | new
    · exact db.references.config c old
    · rw [List.mem_singleton.mp new]
      refine ⟨fun o inOrg => ?_, user, listed, rfl⟩
      have inOrg : organisationId = some o := inOrg
      obtain ⟨org, current, rfl⟩ := Option.map_eq_some_iff.mp (isScope.symm.trans inOrg)
      exact currentOrganisation_known current
  · exact fun l inside => ⟨still (db.references.link l inside).1, (db.references.link l inside).2⟩
  · exact fun i inside => still (db.references.invite i inside)
theorem createByName_creates (can : Creates db.toTables r name organisationId) (known : r.session.bind db.user = some user)
    (isScope : organisationId = (currentOrganisation db.toTables user.id).map (·.id)) :
    (createByName r.dbConfig user.id organisationId).Ends
      (fun _ s => ∃ c ∈ s.databaseConfigs, sameName r.dbConfig organisationId c = true) db := by
  obtain ⟨unique, references⟩ := newConfig_valid can known isScope
  have unnamed := noneNamed (Std.Refl.refl db : Adds (fun _ => False) db db) can fun _ => False.elim
  have named : sameName r.dbConfig organisationId (newConfig db.toTables r.dbConfig user.id organisationId) = true := by
    refine sameName_iff.mpr ⟨?_, rfl⟩
    rw [newConfig_named can, can.named]
  have stored (s : Database) (tables : s.toTables = { db.toTables with
      databaseConfigs := db.databaseConfigs ++ [newConfig db.toTables r.dbConfig user.id organisationId] }) :
      ∃ c ∈ s.databaseConfigs, sameName r.dbConfig organisationId c = true :=
    ⟨_, by rw [tables]; exact List.mem_append_right _ (List.mem_singleton_self _), named⟩
  cases organisationId with
  | some organisation =>
    refine ends_inserted (a := Ids.newId (db.databaseConfigs.map (·.id))) ?_ unique references fun s tables => stored s tables
    rw [unnamed]
    rfl
  | none =>
    refine ends_read ?_
    rw [unnamed]
    exact ends_inserted rfl unique references fun s tables => stored s tables
omit [Ids] in
/-- A config can be stored again under its name. -/
theorem withConfig_valid {c : DatabaseConfig} {input : ConfigInput} (stored : c ∈ db.databaseConfigs)
    (named : some c.name = input.name) :
    ({ db.toTables with databaseConfigs := withConfig db.databaseConfigs c.id input } : Tables).Unique ∧
      ({ db.toTables with databaseConfigs := withConfig db.databaseConfigs c.id input } : Tables).References := by
  have keys : ∀ x ∈ db.databaseConfigs, (if x.id = c.id then input.applyTo x else x).id = x.id ∧
      (if x.id = c.id then input.applyTo x else x).name = x.name ∧
      (if x.id = c.id then input.applyTo x else x).organisationId = x.organisationId ∧
      (if x.id = c.id then input.applyTo x else x).createdByUserId = x.createdByUserId := by
    intro x inside
    by_cases same : x.id = c.id
    · obtain rfl := List.inj_on_of_nodup_map db.unique.configId inside stored same
      rw [if_pos rfl]
      exact ⟨rfl, by simp [ConfigInput.applyTo, ← named], rfl, rfl⟩
    · rw [if_neg same]
      exact ⟨rfl, rfl, rfl, rfl⟩
  have still {id : String} (there : ∃ x ∈ db.databaseConfigs, x.id = id) :
      ∃ x ∈ withConfig db.databaseConfigs c.id input, x.id = id := by
    obtain ⟨x, inside, rfl⟩ := there
    exact ⟨_, List.mem_map_of_mem inside, (keys x inside).1⟩
  refine ⟨{ db.unique with configId := ?_, configName := ?_ }, { db.references with config := ?_, link := ?_, invite := ?_ }⟩
  · have same : (withConfig db.databaseConfigs c.id input).map (·.id) = db.databaseConfigs.map (·.id) := by
      rw [withConfig, List.map_map]
      exact List.map_congr_left fun x inside => (keys x inside).1
    rw [same]
    exact db.unique.configId
  · have same : (withConfig db.databaseConfigs c.id input).filterMap (fun x => x.organisationId.map fun o => (x.name, o)) =
        db.databaseConfigs.filterMap fun x => x.organisationId.map fun o => (x.name, o) := by
      rw [withConfig, List.filterMap_map]
      refine List.filterMap_congr fun x inside => ?_
      rw [Function.comp_apply, (keys x inside).2.1, (keys x inside).2.2.1]
    rw [same]
    exact db.unique.configName
  · intro x' inside
    obtain ⟨x, old, rfl⟩ := List.mem_map.mp inside
    rw [(keys x old).2.2.1, (keys x old).2.2.2]
    exact db.references.config x old
  · exact fun l inside => ⟨still (db.references.link l inside).1, (db.references.link l inside).2⟩
  · exact fun i inside => still (db.references.invite i inside)
/-- A config of the name that is there by now is updated. -/
theorem createByName_updates {input : ConfigInput} {c : DatabaseConfig} (userId : String)
    (found : db.databaseConfigs.find? (sameName input organisationId) = some c) :
    (createByName input userId organisationId).Ends (fun result s => result = .ok c.id ∧
      s.toTables = { db.toTables with databaseConfigs := withConfig db.databaseConfigs c.id input }) db := by
  have stored := List.mem_of_find?_eq_some found
  obtain ⟨unique, references⟩ := withConfig_valid stored (sameName_iff.mp (List.find?_some found)).1
  cases organisationId with
  | some organisation =>
    refine ends_inserted ?_ unique references fun s tables => ⟨rfl, tables⟩
    rw [found]
  | none =>
    refine ends_read ?_
    rw [found]
    refine ends_inserted ?_ unique references fun s tables => ⟨rfl, tables⟩
    obtain ⟨x, looked⟩ : ∃ x, db.config c.id = some x :=
      Option.isSome_iff_exists.mp (List.find?_isSome.mpr ⟨c, stored, by simp⟩)
    rw [looked]
theorem store_creates (can : Creates db.toTables r name organisationId) (known : r.session.bind db.user = some user)
    (isScope : organisationId = (currentOrganisation db.toTables user.id).map (·.id)) :
    (r.store user.id organisationId).Ends
      (fun _ s => ∃ c ∈ s.databaseConfigs, sameName r.dbConfig organisationId c = true) db := by
  refine ends_bind ((createByName_creates can known isScope).mono ?_)
  rintro (_ | id) s created
  · exact created
  refine ends_bind (ends_read (ends_read (ends_write (fun s' tables => ?_) fun _ => created)))
  refine ends_pure ?_
  rwa [tables]
/-- A creation that finds a config of the name when it stores its own gets a link to that one. -/
theorem store_captures {c : DatabaseConfig} {userId : String}
    (found : db.databaseConfigs.find? (sameName r.dbConfig organisationId) = some c) (isUser : ∃ u ∈ db.users, u.id = userId) (absent : db.link c.id userId = none) :
    (r.store userId organisationId).Ends (fun _ s => s.databaseConfigs = withConfig db.databaseConfigs c.id r.dbConfig ∧
      ∃ l ∈ s.databaseConfigUsers, l.databaseConfigId = c.id ∧ l.userId = userId) db := by
  refine ends_bind ((createByName_updates userId found).mono ?_)
  rintro _ s ⟨rfl, tables⟩
  have stored : ∃ x ∈ s.databaseConfigs, x.id = c.id := by
    refine ⟨r.dbConfig.applyTo c, ?_, rfl⟩
    rw [tables]
    refine List.mem_map.mpr ⟨c, List.mem_of_find?_eq_some found, if_pos rfl⟩
  refine ends_bind (ends_read (ends_read ?_))
  refine (@Invitations.createLink_succeeds s
    { databaseConfigId := c.id, userId, isCurrent := _, permissions := _ } stored ?_ ?_).mono ?_
  · rwa [tables]
  · rwa [tables, Tables.link]
  · rintro _ s' ⟨rfl, tables'⟩
    refine ends_pure ⟨by rw [tables', tables], ?_⟩
    rw [tables']
    exact ⟨_, List.mem_append_right _ (List.mem_singleton_self _), rfl, rfl⟩
/-- A config of one of the requests is the only one of its id, and no link to it is of the user of the other. -/
structure Foreign (db s : Database) (c : DatabaseConfig) (userId : String) : Prop where
  only : ∀ x ∈ s.databaseConfigs, x.id = c.id → x = c
  unlinkedBefore : ∀ l ∈ db.databaseConfigUsers, l.databaseConfigId ≠ c.id
  notCreator : c.createdByUserId ≠ userId
  unlinked : s.link c.id userId = none

omit [Ids] in
theorem foreign_of_made {s : Database} {r' : Creation} {c : DatabaseConfig} (adds : Adds (Made db.toTables r) db s)
    (stored : c ∈ s.databaseConfigs) (made : Made db.toTables r c) (different : r.session ≠ r'.session)
    (isUser : r'.session = some user.id) : Foreign db s c user.id := by
  have only : ∀ x ∈ s.databaseConfigs, x.id = c.id → x = c := fun x inside same =>
    List.inj_on_of_nodup_map s.unique.configId inside stored same
  have unlinkedBefore : ∀ l ∈ db.databaseConfigUsers, l.databaseConfigId ≠ c.id := by
    intro l old toConfig
    obtain ⟨x, inside, isId⟩ := (db.references.link l old).1
    exact made.new (only x (adds.kept x inside) (isId.trans toConfig) ▸ inside)
  have notCreator : c.createdByUserId ≠ user.id := by
    intro same
    exact different (made.2.1.trans (same ▸ isUser.symm))
  refine ⟨only, unlinkedBefore, notCreator, List.find?_eq_none.mpr fun l inside same => ?_⟩
  obtain ⟨toConfig, ofUser⟩ : l.databaseConfigId = c.id ∧ l.userId = user.id := by simpa using same
  rcases adds.links l inside with old | ⟨x, member, -, isId, ofCreator⟩
  · exact unlinkedBefore l old toConfig
  · rw [only x member (isId.trans toConfig)] at ofCreator
    exact notCreator (ofCreator.trans ofUser)
omit [Ids] in
/-- A link of the other user to the config sets the requests no more apart, also once the config is changed. -/
theorem not_apart_of_linked {s s' : Database} {requests : List Creation} {c : DatabaseConfig} {userId : String} {input : ConfigInput}
    (foreign : Foreign db s c userId) (configs : s'.databaseConfigs = withConfig s.databaseConfigs c.id input)
    (linked : ∃ l ∈ s'.databaseConfigUsers, l.databaseConfigId = c.id ∧ l.userId = userId) :
    ¬Apart requests db.toTables s'.toTables := by
  intro apart
  obtain ⟨l, inside, toConfig, ofUser⟩ := linked
  rcases apart.own l inside with old | ⟨x', member, isId, ofCreator⟩
  · exact foreign.unlinkedBefore l old toConfig
  rw [configs] at member
  obtain ⟨x, before, rfl⟩ := List.mem_map.mp member
  have same : x = c := by
    refine foreign.only x before ?_
    by_cases chosen : x.id = c.id
    · exact chosen
    · rw [if_neg chosen] at isId
      exact isId.trans toConfig
  rw [same, if_pos rfl] at ofCreator
  exact foreign.notCreator (ofCreator.trans ofUser)
theorem clash_captures {r' : Creation} (creation : IsCreation db.toTables r) (different : r.session ≠ r'.session)
    (clash : Clash db.toTables r r') : ∃ schedule, ¬Apart [r, r'] db.toTables
      ((interleave schedule [r.upsert, r'.upsert]).run db).2.toTables := by
  obtain ⟨name, organisationId, can, can'⟩ := clash
  obtain ⟨user, known, isScope⟩ := can.scope
  obtain ⟨user', known', isScope'⟩ := can'.scope
  -- the second request does its checks, the first runs to its end, and then the second stores
  obtain ⟨first, checked⟩ := reaches_store can' known' isScope' (show 1 < [r.upsert, r'.upsert].length by simp)
  obtain ⟨rest, ran⟩ := run_interleave_first r.upsert (show [r.upsert, r'.store user'.id organisationId][0]? = _ from rfl) db
  have ended : ((interleave (first ++ rest) [r.upsert, r'.upsert]).run db).2 =
      ((r'.store user'.id organisationId).run (r.upsert.run db).2).2 := by
    have same : (interleave (first ++ rest) [r.upsert, r'.upsert]).run db = _ := (checked rest).trans ran
    rw [same, List.set_cons_zero, run_inOrder_cons, run_inOrder_cons]
    rfl
  obtain ⟨s, isState⟩ : ∃ s, s = (r.upsert.run db).2 := ⟨_, rfl⟩
  have adds : Adds (Made db.toTables r) db s := by
    rw [isState]
    have alone : r.upsert.Ensures (Adds fun _ => False) (Adds (Made db.toTables r)) (fun _ _ => True) db :=
      upsert_ensures creation (fun _ => False.elim) fun _ => False.elim
    exact alone.leads fun _ _ adds => adds
  have created : ∃ c ∈ s.databaseConfigs, sameName r'.dbConfig organisationId c = true := by
    have same : sameName r'.dbConfig organisationId = sameName r.dbConfig organisationId := by
      funext c
      rw [sameName, sameName, can.named, can'.named]
    rw [isState, same]
    exact upsert_ends can known isScope (store_creates can known isScope)
  obtain ⟨c, found⟩ := Option.isSome_iff_exists.mp (List.find?_isSome.mpr created)
  have stored := List.mem_of_find?_eq_some found
  obtain ⟨named, inScope⟩ := sameName_iff.mp (List.find?_some found)
  have made : Made db.toTables r c := (adds.configs c stored).resolve_left fun old =>
    can'.free c old ⟨Option.some.inj (named.trans can'.named), inScope⟩
  have foreign := foreign_of_made adds stored made different (user_isSession known')
  have isUser : ∃ u ∈ s.users, u.id = user'.id := by
    obtain ⟨id, -, looked⟩ := Option.bind_eq_some_iff.mp known'
    rw [adds.users]
    exact ⟨user', List.mem_of_find?_eq_some looked, rfl⟩
  obtain ⟨configs, linked⟩ := store_captures found isUser foreign.unlinked
  refine ⟨first ++ rest, ?_⟩
  rw [ended, ← isState]
  exact not_apart_of_linked foreign configs linked

end

omit [Ids] in
theorem Clash.symm {t : Tables} {r r' : Creation} (clash : Clash t r r') : Clash t r' r := by
  obtain ⟨name, organisationId, can, can'⟩ := clash
  exact ⟨name, organisationId, can', can⟩
omit [Ids] in
theorem pair_get {α : Type} {a b c : α} {i : Nat} (found : [a, b][i]? = some c) : (i = 0 ∧ c = a) ∨ (i = 1 ∧ c = b) := by
  rcases i with _ | _ | i
  · exact .inl ⟨rfl, (Option.some.inj found).symm⟩
  · exact .inr ⟨rfl, (Option.some.inj found).symm⟩
  · cases found
/-- Two creations of different users stay apart in every order of their
    statements, unless both would create the same name in the same organisation. -/
theorem creations_stay_apart_iff {db : Database} {r r' : Creation} (creation : IsCreation db.toTables r)
    (creation' : IsCreation db.toTables r') (different : r.session ≠ r'.session) :
    (∀ schedule, Apart [r, r'] db.toTables ((interleave schedule [r.upsert, r'.upsert]).run db).2.toTables) ↔
      ¬Clash db.toTables r r' := by
  constructor
  · intro apart clash
    obtain ⟨schedule, captured⟩ := clash_captures creation different clash
    exact captured (apart schedule)
  · intro noClash schedule
    have creations : ∀ a ∈ [r, r'], IsCreation db.toTables a := by simp [creation, creation']
    refine apart_of_adds (creations_add creations (fun i j a b apart found found' => ?_) schedule)
    rcases pair_get found with ⟨rfl, rfl⟩ | ⟨rfl, rfl⟩
    · rcases pair_get found' with ⟨rfl, rfl⟩ | ⟨rfl, rfl⟩
      · exact absurd rfl apart
      · exact ⟨different, noClash⟩
    · rcases pair_get found' with ⟨rfl, rfl⟩ | ⟨rfl, rfl⟩
      · exact ⟨different.symm, fun clash => noClash clash.symm⟩
      · exact absurd rfl apart

end

section
attribute [local instance] plainIds

/-- Ann and Bob, neither of whom is in an organisation. -/
def twoUsers : Database where
  toTables := { users := [{ id := "x", email := "ann@example.com" }, { id := "xx", email := "bob@example.com" }] }
  unique := by decide
  references := by decide
def createdBy (session name : String) : Creation := { session := some session, dbConfig := CurrentConfigs.sampleInput name }

theorem isCreation_twoUsers (r : Creation) : IsCreation twoUsers.toTables r := by
  intro c stored
  cases stored
theorem creations_stay_apart_names :
    (∀ schedule, Apart [createdBy "x" "main", createdBy "xx" "staging"] twoUsers.toTables
        ((interleave schedule [(createdBy "x" "main").upsert, (createdBy "xx" "staging").upsert]).run twoUsers).2.toTables) ↔
      ¬Clash twoUsers.toTables (createdBy "x" "main") (createdBy "xx" "staging") :=
  creations_stay_apart_iff (isCreation_twoUsers _) (isCreation_twoUsers _) (by decide)
/-- Bob looks the name up before Ann creates her config, and then changes hers and has all permissions on it. -/
theorem creation_captures :
    ¬ ∀ [Ids] (db : Database) (r r' : Creation), IsCreation db.toTables r → IsCreation db.toTables r' → r.session ≠ r'.session →
        ∀ schedule, Apart [r, r'] db.toTables ((interleave schedule [r.upsert, r'.upsert]).run db).2.toTables := by
  intro all
  have apart := all twoUsers (createdBy "x" "main") (createdBy "xx" "main") (isCreation_twoUsers _) (isCreation_twoUsers _)
    (by decide) [1, 1, 1, 1]
  have linked : ({ databaseConfigId := "x", userId := "xx", isCurrent := true, permissions := ⟨true, true, true⟩ } :
      DatabaseConfigUser) ∈ ((interleave [1, 1, 1, 1] [(createdBy "x" "main").upsert, (createdBy "xx" "main").upsert]).run
        twoUsers).2.databaseConfigUsers := by decide
  rcases apart.own _ linked with old | ⟨c, stored, isId, ofCreator⟩
  · cases old
  · revert c
    decide

end

end Openlit.ConfigCreations
