import Nodelet.Bouncer.Keystone

/-! The groups of a user. They are joined from the roles of a token and from two answers of
Keystone, whose status nobody looks at; a role that is not mapped and a group that is not listed
have an empty name. -/
namespace Bouncer
open Go.Resumption (Runs Traces runs_done runs_call_done)

def Http.Ok : Http β → Prop
  | .response statusCode .. => 200 ≤ statusCode ∧ statusCode ≤ 299
  | _ => False

def Http.decoded : Http β → Option β
  | .response _ _ _ (.ok value) => some value
  | _ => none

/-- The groups that an answer tells of. -/
def Http.groups (answer : Http (List KeystoneGroup)) : List KeystoneGroup := answer.decoded.getD []

/-- The name of a group in a list; the last one counts. -/
def listedName (listed : List KeystoneGroup) (id : String) : Option String :=
  (listed.reverse.find? (·.id = id)).map (·.name)

/-- The groups of the roles that are mapped. -/
def RoleMapper.mappedGroups (m : RoleMapper) (token : KeystoneToken) : List String :=
  token.roles.filterMap (m.mapping.lookup ·.name)

namespace Keystone
variable {federated belongsTo listed : List KeystoneGroup} {id name : String}

theorem lookup_insertIds (groups : List KeystoneGroup) (names : Go.Map String String) :
    (groups.foldl (fun names group => names.insert group.id "") names).lookup id =
      if id ∈ groups.map (·.id) then some "" else names.lookup id := by
  induction groups generalizing names with
  | nil => simp
  | cons group rest ih =>
    rw [List.foldl_cons, ih]
    by_cases same : id = group.id
    · subst same
      simp
    · simp [same, Finmap.lookup_insert_of_ne]

theorem listedName_cons (group : KeystoneGroup) (rest : List KeystoneGroup) :
    listedName (group :: rest) id = (listedName rest id).or (if group.id = id then some group.name
      else none) := by
  rw [listedName, List.reverse_cons, List.find?_append, listedName]
  by_cases same : group.id = id <;> cases rest.reverse.find? (·.id = id) <;> simp [same]

/-- Only the groups that are there already get a name. -/
theorem lookup_nameIds (listed : List KeystoneGroup) (names : Go.Map String String) :
    (listed.foldl (fun names group => if group.id ∈ names then names.insert group.id group.name
      else names) names).lookup id = (names.lookup id).map ((listedName listed id).getD ·) := by
  induction listed generalizing names with
  | nil => simp [listedName]
  | cons group rest ih =>
    rw [List.foldl_cons, ih, listedName_cons]
    by_cases same : group.id = id
    · subst same
      by_cases present : group.id ∈ names
      · obtain ⟨old, found⟩ := Finmap.mem_iff.mp present
        cases listedName rest group.id <;> simp [present, found]
      · simp [present, Finmap.lookup_eq_none.mpr present]
    · by_cases present : group.id ∈ names
      · simp [same, present, Finmap.lookup_insert_of_ne _ (Ne.symm same)]
      · simp [same, present]

theorem lookup_groupNameMap : (groupNameMap federated belongsTo listed).lookup id =
    if id ∈ (federated ++ belongsTo).map (·.id) then some ((listedName listed id).getD "")
      else none := by
  rw [groupNameMap, lookup_nameIds, lookup_insertIds, lookup_insertIds]
  by_cases own : id ∈ belongsTo.map (·.id)
  · simp [own]
  · by_cases given : id ∈ federated.map (·.id)
    · simp [own, given]
    · simp [own, given]

theorem mem_order {names : Go.Map String String} {order : List String}
    (same : (order : Multiset String) = names.entries.map Sigma.snd) : name ∈ order ↔
      ∃ id, names.lookup id = some name := by
  rw [← Multiset.mem_coe, same, Multiset.mem_map]
  constructor
  · rintro ⟨⟨id, _⟩, member, rfl⟩
    exact ⟨id, Finmap.mem_lookup_iff.mpr member⟩
  · rintro ⟨id, found⟩
    exact ⟨⟨id, name⟩, Finmap.mem_lookup_iff.mp found, rfl⟩

end Keystone

namespace Composed
variable {H : Type} {a : Authenticator} {wrapper : KeystoneTokenWrapper}
  {userAnswer listAnswer : Http (List KeystoneGroup)}

/-- The answers of the two endpoints. -/
def Answers (userAnswer listAnswer : Http (List KeystoneGroup)) : Event H → Prop
  | ⟨.keystone (.userGroups ..), answer⟩ => answer = userAnswer
  | ⟨.keystone (.listGroups _), answer⟩ => answer = listAnswer
  | _ => True

def groupIds (wrapper : KeystoneTokenWrapper) (userAnswer : Http (List KeystoneGroup)) :
    List String :=
  (wrapper.token.user.groups ++ userAnswer.groups).map (·.id)

/-- A group that a user has: through a role, or through Keystone. -/
def Has (mapper : RoleMapper) (wrapper : KeystoneTokenWrapper)
    (userAnswer listAnswer : Http (List KeystoneGroup)) (name : String) : Prop :=
  name ∈ mapper.mappedGroups wrapper.token ∨
  userAnswer.Ok ∧ listAnswer.Ok ∧
    ∃ group ∈ listAnswer.groups, group.id ∈ groupIds wrapper userAnswer ∧ group.name = name

/-- A user gets the groups it has, all of which have names, and an answer that is not successful is
an error. -/
structure Exact (H : Type) (a : Authenticator) (wrapper : KeystoneTokenWrapper)
    (userAnswer listAnswer : Http (List KeystoneGroup)) : Prop where
  groups : ∀ username uid trace user,
    Traces (Answers userAnswer listAnswer)
      (compose (a.fillMappedGroups { username, uid } wrapper) : Program H _) trace (.done user) →
    ∀ name, name ∈ user.groups ↔ Has a.mapper wrapper userAnswer listAnswer name
  errors : ¬ (userAnswer.Ok ∧ listAnswer.Ok) → ∀ trace result,
    Traces (Answers userAnswer listAnswer)
      (client (Keystone.groupsFromProjectToken wrapper).run : Program H _) trace (.done result) →
    ∃ err, result = .error err
  named : ∀ username uid trace user,
    Traces (Answers userAnswer listAnswer)
      (compose (a.fillMappedGroups { username, uid } wrapper) : Program H _) trace (.done user) →
    "" ∉ user.groups

/-- Every role is mapped. Where both answers can be read they are successful, and every group of the
user is listed. Where they are successful, each name that is listed for the user is used. -/
structure Complete (mapper : RoleMapper) (wrapper : KeystoneTokenWrapper)
    (userAnswer listAnswer : Http (List KeystoneGroup)) : Prop where
  roles : ∀ role ∈ wrapper.token.roles, ∃ group, mapper.mapping.lookup role.name = some group ∧
    group ≠ ""
  read : userAnswer.decoded.isSome → listAnswer.decoded.isSome → userAnswer.Ok ∧ listAnswer.Ok ∧
    ∀ id ∈ groupIds wrapper userAnswer, ∃ name, listedName listAnswer.groups id = some name ∧
      name ≠ ""
  listed : userAnswer.Ok → listAnswer.Ok →
    ∀ group ∈ listAnswer.groups, group.id ∈ groupIds wrapper userAnswer →
    group.name ∈ mapper.mappedGroups wrapper.token ∨
    userAnswer.decoded.isSome ∧
      ∃ id ∈ groupIds wrapper userAnswer, listedName listAnswer.groups id = some group.name

/-- What Keystone tells about the groups. -/
inductive Told (wrapper : KeystoneTokenWrapper)
    (userAnswer listAnswer : Http (List KeystoneGroup)) : Except Go.Error (List String) → Prop where
  | error (unread : ¬ (userAnswer.decoded.isSome ∧ listAnswer.decoded.isSome)) :
    Told wrapper userAnswer listAnswer (.error err)
  | names (belongs : userAnswer.decoded.isSome) (lists : listAnswer.decoded.isSome)
      (same : ((order : List String) : Multiset String) =
        (Keystone.groupNameMap wrapper.token.user.groups userAnswer.groups listAnswer.groups).entries.map Sigma.snd) :
      Told wrapper userAnswer listAnswer (.ok order)

theorem decoded_of_groupsAnswer (message : String) (answer : Http (List KeystoneGroup)) :
    match Keystone.groupsAnswer message answer with
    | .ok groups => answer.decoded = some groups
    | .error _ => answer.decoded = none := by
  match answer with
  | .notCreated _ | .notSent _ | .response _ _ _ (.error _) | .response _ _ _ (.ok _) => rfl

/-- What the client does: one request after the other, and an error ends it. -/
theorem client_groupsFromProjectToken (wrapper : KeystoneTokenWrapper) :
    (client (Keystone.groupsFromProjectToken wrapper).run : Program H _) =
      .call (.keystone (.userGroups wrapper.token.user.id wrapper.tokenID)) fun answer =>
        match Keystone.groupsAnswer "decode keystone response: " answer with
        | .error err => .done (.error ("error fetching groupsLocalUserBelongsTo " ++ err))
        | .ok belongsTo => .call (.keystone (.listGroups wrapper.tokenID)) fun answer =>
          match Keystone.groupsAnswer "decode list groups response: " answer with
          | .error err => .done (.error ("error fetching listGroups " ++ err))
          | .ok listed =>
          .call (.keystone
          (.range (Keystone.groupNameMap wrapper.token.user.groups belongsTo listed)))
            fun order => .done (.ok order.val) := by
  refine congrArg (Go.Resumption.call _) (funext fun answer => ?_)
  match answer with
  | .notCreated _ | .notSent _ | .response _ _ _ (.error _) => rfl
  | .response _ _ _ (.ok belongsTo) =>
    refine congrArg (Go.Resumption.call _) (funext fun answer => ?_)
    match answer with
    | .notCreated _ | .notSent _ | .response _ _ _ (.error _) | .response _ _ _ (.ok listed) => rfl

variable {trace : List (Event H)}

theorem told_of_traces {result : Except Go.Error (List String)}
    (traces : Traces (Answers userAnswer listAnswer)
      (client (Keystone.groupsFromProjectToken wrapper).run : Program H _) trace (.done result)) :
    Told wrapper userAnswer listAnswer result := by
  rw [client_groupsFromProjectToken] at traces
  obtain ⟨answer, _, trace, rfl, rfl, traces⟩ := runs_call_done.mp traces
  -- Each answer is read on its own, and is an error or a list of groups.
  have belongs := decoded_of_groupsAnswer "decode keystone response: " answer
  cases told : Keystone.groupsAnswer "decode keystone response: " answer with
  | error err =>
    simp only [told] at traces belongs
    obtain ⟨-, same, -⟩ := runs_done.mp traces
    cases same
    exact .error (by simp [belongs])
  | ok belongsTo =>
    simp only [told] at traces belongs
    obtain rfl : belongsTo = answer.groups := by simp [Http.groups, belongs]
    obtain ⟨listed, _, trace, rfl, rfl, traces⟩ := runs_call_done.mp traces
    have lists := decoded_of_groupsAnswer "decode list groups response: " listed
    cases heard : Keystone.groupsAnswer "decode list groups response: " listed with
    | error err =>
      simp only [heard] at traces lists
      obtain ⟨-, same, -⟩ := runs_done.mp traces
      cases same
      exact .error (by simp [lists])
    | ok groups =>
      simp only [heard] at traces lists
      obtain rfl : groups = listed.groups := by simp [Http.groups, lists]
      obtain ⟨order, _, trace, rfl, -, traces⟩ := runs_call_done.mp traces
      obtain ⟨-, same, -⟩ := runs_done.mp traces
      cases same
      exact .names (by simp [belongs]) (by simp [lists]) order.property

theorem answered (userAnswer listAnswer : Http (List KeystoneGroup)) (request : Request H) :
    ∃ answer, Answers userAnswer listAnswer ⟨request, answer⟩ := by
  match request with
  | .cache .now => exact ⟨0, trivial⟩
  | .cache (.get _) => exact ⟨none, trivial⟩
  | .cache (.add ..) | .cache (.remove _) | .cache (.afterFunc ..) => exact ⟨(), trivial⟩
  | .generate .. => exact ⟨.error "", trivial⟩
  | .keystone (.tokens _) => exact ⟨.notSent "", trivial⟩
  | .keystone (.userGroups ..) => exact ⟨userAnswer, rfl⟩
  | .keystone (.listGroups _) => exact ⟨listAnswer, rfl⟩
  | .keystone (.range names) =>
    exact ⟨⟨(names.entries.map Sigma.snd).toList, Multiset.coe_toList _⟩, trivial⟩

/-- What is attached to a user, whatever the order of the groups. -/
theorem traces_fillMappedGroups {user filled : TokenReviewStatusUser} :
    Traces (Answers userAnswer listAnswer)
      (compose (a.fillMappedGroups user wrapper) : Program H _) trace (.done filled) ↔
      ∃ result, filled = a.mapped user wrapper result ∧ Traces (Answers userAnswer listAnswer)
        (client (Keystone.groupsFromProjectToken wrapper).run) trace (.done result) := by
  change Runs _
    ((client (Keystone.groupsFromProjectToken wrapper).run : Program H _).bind fun result =>
    .done (a.mapped user wrapper result)) _ _ _ _ ↔ _
  rw [Go.Resumption.runs_bind_done]
  constructor
  · rintro ⟨first, result, _, second, rfl, runs, last⟩
    obtain ⟨rfl, same, -⟩ := runs_done.mp last
    cases same
    exact ⟨result, rfl, by simpa using runs⟩
  · rintro ⟨result, rfl, runs⟩
    exact ⟨trace, result, (), [], (List.append_nil _).symm, runs, .refl⟩

section Exact
variable {result : Except Go.Error (List String)} {name : String}

theorem mem_getGroupsFromTokenRole {mapper : RoleMapper} :
    name ∈ mapper.getGroupsFromTokenRole token ↔
      name ∈ mapper.mappedGroups token ∨ name = "" ∧
      ∃ role ∈ token.roles, mapper.mapping.lookup role.name = none := by
  simp only [RoleMapper.getGroupsFromTokenRole, RoleMapper.mappedGroups, List.mem_map,
    List.mem_filterMap]
  constructor
  · rintro ⟨role, member, rfl⟩
    cases found : mapper.mapping.lookup role.name with
    | none => exact .inr ⟨rfl, role, member, found⟩
    | some group => exact .inl ⟨role, member, found⟩
  · rintro (⟨role, member, found⟩ | ⟨rfl, role, member, found⟩)
    · exact ⟨role, member, by rw [found, Option.getD_some]⟩
    · exact ⟨role, member, by rw [found, Option.getD_none]⟩

/-- The names that come from Keystone. -/
def keystoneNames : Except Go.Error (List String) → List String
  | .ok names => names
  | .error _ => []

theorem groups_mapped {username uid : String} :
    (a.mapped { username, uid } wrapper result).groups =
      a.mapper.getGroupsFromTokenRole wrapper.token ++ keystoneNames result := by
  cases result with
  | ok names => rfl
  | error err => exact (List.append_nil _).symm

theorem Told.mem_iff (told : Told wrapper userAnswer listAnswer result) :
    name ∈ keystoneNames result ↔ (userAnswer.decoded.isSome ∧ listAnswer.decoded.isSome) ∧
      ∃ id ∈ groupIds wrapper userAnswer, (listedName listAnswer.groups id).getD "" = name := by
  cases told with
  | error unread => exact ⟨nofun, fun ⟨read, _⟩ => absurd read unread⟩
  | names belongs lists same =>
    simp only [keystoneNames, Keystone.mem_order same, Keystone.lookup_groupNameMap, belongs,
      lists, and_self, true_and]
    constructor
    · rintro ⟨id, found⟩
      split at found
      · rename_i member
        exact ⟨id, member, Option.some.inj found⟩
      · contradiction
    · rintro ⟨id, member, rfl⟩
      exact ⟨id, if_pos member⟩

theorem mem_of_listedName {listed : List KeystoneGroup} {id : String}
    (found : listedName listed id = some name) :
    ∃ group ∈ listed, group.id = id ∧ group.name = name := by
  obtain ⟨group, first, rfl⟩ := Option.map_eq_some_iff.mp found
  exact ⟨group, List.mem_reverse.mp (List.mem_of_find?_eq_some first), by simpa using List.find?_some first, rfl⟩

theorem Complete.mem_iff (complete : Complete a.mapper wrapper userAnswer listAnswer)
    (told : Told wrapper userAnswer listAnswer result) :
    name ∈ a.mapper.getGroupsFromTokenRole wrapper.token ++ keystoneNames result ↔
      Has a.mapper wrapper userAnswer listAnswer name := by
  rw [List.mem_append, mem_getGroupsFromTokenRole, told.mem_iff]
  constructor
  · rintro ((mapped | ⟨-, role, member, unmapped⟩) | ⟨⟨belongs, lists⟩, id, own, rfl⟩)
    · exact .inl mapped
    · obtain ⟨group, found, -⟩ := complete.roles role member
      rw [unmapped] at found
      contradiction
    · obtain ⟨userOk, listOk, listed⟩ := complete.read belongs lists
      obtain ⟨name, found, -⟩ := listed id own
      obtain ⟨group, member, rfl, rfl⟩ := mem_of_listedName found
      exact .inr ⟨userOk, listOk, group, member, own, by rw [found, Option.getD_some]⟩
  · rintro (mapped | ⟨userOk, listOk, group, member, own, rfl⟩)
    · exact .inl (.inl mapped)
    · obtain mapped | ⟨read, id, mine, found⟩ := complete.listed userOk listOk group member own
      · exact .inl (.inl mapped)
      · have lists : listAnswer.decoded.isSome := by
          cases decoded : listAnswer.decoded with
          | none => simp [Http.groups, decoded] at member
          | some groups => rfl
        exact .inr ⟨⟨read, lists⟩, id, mine, by rw [found, Option.getD_some]⟩

theorem Complete.named (complete : Complete a.mapper wrapper userAnswer listAnswer)
    (told : Told wrapper userAnswer listAnswer result) :
    "" ∉ a.mapper.getGroupsFromTokenRole wrapper.token ++ keystoneNames result := by
  rw [List.mem_append, mem_getGroupsFromTokenRole, told.mem_iff]
  rintro ((mapped | ⟨-, role, member, unmapped⟩) | ⟨⟨belongs, lists⟩, id, own, empty⟩)
  · obtain ⟨role, member, found⟩ := List.mem_filterMap.mp mapped
    obtain ⟨group, same, named⟩ := complete.roles role member
    rw [found] at same
    exact named (Option.some.inj same).symm
  · obtain ⟨group, found, -⟩ := complete.roles role member
    rw [unmapped] at found
    contradiction
  · obtain ⟨name, found, named⟩ := (complete.read belongs lists).2.2 id own
    rw [found] at empty
    exact named empty

theorem complete_of_told (told : Told wrapper userAnswer listAnswer result)
    (groups : ∀ name, name ∈ a.mapper.getGroupsFromTokenRole wrapper.token ++ keystoneNames result ↔
      Has a.mapper wrapper userAnswer listAnswer name)
    (named : "" ∉ a.mapper.getGroupsFromTokenRole wrapper.token ++ keystoneNames result)
    (errors : ¬ (userAnswer.Ok ∧ listAnswer.Ok) → ∃ err, result = .error err) :
    Complete a.mapper wrapper userAnswer listAnswer := by
  simp only [List.mem_append, mem_getGroupsFromTokenRole, told.mem_iff, true_and] at groups named
  have roles :
      ∀ role ∈ wrapper.token.roles, ∃ group, a.mapper.mapping.lookup role.name = some group ∧
        group ≠ "" := by
    intro role member
    cases found : a.mapper.mapping.lookup role.name with
    | none => exact absurd (.inl (.inr ⟨role, member, found⟩)) named
    | some group =>
      refine ⟨group, rfl, ?_⟩
      rintro rfl
      exact named (.inl (.inl (List.mem_filterMap.mpr ⟨role, member, found⟩)))
  refine ⟨roles, fun belongs lists => ?_, fun userOk listOk group member own => ?_⟩
  · have ok : userAnswer.Ok ∧ listAnswer.Ok := by
      by_contra unsuccessful
      obtain ⟨err, rfl⟩ := errors unsuccessful
      cases told with
      | error unread => exact unread ⟨belongs, lists⟩
    refine ⟨ok.1, ok.2, fun id own => ?_⟩
    cases found : listedName listAnswer.groups id with
    | none => exact absurd (.inr ⟨⟨belongs, lists⟩, id, own, by rw [found, Option.getD_none]⟩) named
    | some name =>
      refine ⟨name, rfl, ?_⟩
      rintro rfl
      exact named (.inr ⟨⟨belongs, lists⟩, id, own, by rw [found, Option.getD_some]⟩)
  · obtain (mapped | ⟨-, role, inside, unmapped⟩) | ⟨⟨belongs, lists⟩, id, mine, same⟩ :=
      (groups group.name).mpr (.inr ⟨userOk, listOk, group, member, own, rfl⟩)
    · exact .inl mapped
    · obtain ⟨other, found, -⟩ := roles role inside
      rw [unmapped] at found
      contradiction
    · refine .inr ⟨belongs, id, mine, ?_⟩
      cases found : listedName listAnswer.groups id with
      | none => exact absurd (.inr ⟨⟨belongs, lists⟩, id, mine, by rw [found, Option.getD_none]⟩) named
      | some name => rw [← same, found, Option.getD_some]

end Exact

/-- A user gets exactly its groups if and only if nothing is missing in the mapping and in the
answers. -/
theorem exact_iff (H : Type) (a : Authenticator) (wrapper : KeystoneTokenWrapper)
    (userAnswer listAnswer : Http (List KeystoneGroup)) :
    Exact H a wrapper userAnswer listAnswer ↔ Complete a.mapper wrapper userAnswer listAnswer := by
  constructor
  · intro exact
    obtain ⟨trace, result, traces⟩ :=
      Go.Resumption.exists_traces_done (answered userAnswer listAnswer)
      (client (Keystone.groupsFromProjectToken wrapper).run : Program H _)
    have told := told_of_traces traces
    have fills := traces_fillMappedGroups.mpr ⟨result, (rfl : _ = a.mapped { username := "", uid := "" } _ _), traces⟩
    have groups := exact.groups "" "" trace _ fills
    have named := exact.named "" "" trace _ fills
    rw [groups_mapped] at groups named
    exact complete_of_told told groups named fun unsuccessful =>
      exact.errors unsuccessful trace result traces
  · intro complete
    refine ⟨fun username uid trace user traces => ?_, fun unsuccessful trace result traces => ?_,
      fun username uid trace user traces => ?_⟩
    · obtain ⟨result, rfl, asks⟩ := traces_fillMappedGroups.mp traces
      intro name
      rw [groups_mapped]
      exact complete.mem_iff (told_of_traces asks)
    · cases told_of_traces traces with
      | error unread => exact ⟨_, rfl⟩
      | names belongs lists same =>
        obtain ⟨userOk, listOk, -⟩ := complete.read belongs lists
        exact absurd ⟨userOk, listOk⟩ unsuccessful
    · obtain ⟨result, rfl, asks⟩ := traces_fillMappedGroups.mp traces
      rw [groups_mapped]
      exact complete.named (told_of_traces asks)

/-- A user with two roles, one of which is not mapped. -/
def twoRoles : KeystoneTokenWrapper where
  token := { user := { id := "1", name := "ada" }, roles := [⟨"r1", "admin"⟩, ⟨"r2", "_member_"⟩] }
  tokenID := "t"

def adminsOnly : Authenticator :=
    ⟨"p", 300, 60, 4, ⟨(∅ : Go.Map String String).insert "admin" "system:masters"⟩⟩

/-- The role that is not mapped gives an empty group. The answer of a group list that is not
successful is used. -/
theorem empty_group_attached : ∃ trace user,
    Traces (Answers (.response 200 "200 OK" "" (.ok [⟨"g", "devs"⟩]))
      (.response 403 "403 Forbidden" "" (.ok [])))
      (compose (adminsOnly.fillMappedGroups { username := "ada", uid := "1" } twoRoles) : Program
      Unit _) trace (.done user) ∧ user.groups = ["system:masters", "", ""] := by
  have order : (([""] : List String) : Multiset String) =
      (Keystone.groupNameMap [] [⟨"g", "devs"⟩] []).entries.map Sigma.snd := by decide
  refine ⟨[⟨.keystone (.userGroups "1" "t"), _⟩, ⟨.keystone (.listGroups "t"), _⟩,
    ⟨.keystone (.range _), ⟨[""], order⟩⟩], _,
    .call (t := ()) rfl (.call (t := ()) rfl (.call (t := ()) trivial .refl)), ?_⟩
  have attached :
    adminsOnly.mapper.getGroupsFromTokenRole twoRoles.token = ["system:masters", ""] := by decide
  rw [groups_mapped, attached]
  rfl

end Composed
end Bouncer
