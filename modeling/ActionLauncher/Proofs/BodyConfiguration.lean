import ActionLauncher.Proofs.LoginRequests
import ActionLauncher.Proofs.RunOutcome
import ActionLauncher.Proofs.SiteRoundTrip

namespace ActionLauncher

open Launch

namespace Text

theorem trimmed?_nonBlank? (s : Option String) : trimmed? (nonBlank? s) = trimmed? s := by
  simp [trimmed?, nonBlank?, Option.filter_filter]

theorem trimmed?_or (s t : Option String) :
    trimmed? ((nonBlank? s).or (nonBlank? t)) = (trimmed? s).or (trimmed? t) := by
  cases hs : nonBlank? s with
  | none =>
      have hnone : trimmed? s = none := by rw [trimmed?, hs, Option.map_none]
      rw [hnone, Option.none_or, Option.none_or, trimmed?_nonBlank?]
  | some text =>
      have hsome : trimmed? s = some (trim text) := by rw [trimmed?, hs, Option.map_some]
      rw [hsome, Option.some_or, Option.some_or, ← hs, trimmed?_nonBlank?, hsome]

theorem ne_empty_of_trimmed? {s : Option String} {text : String} (h : trimmed? s = some text) :
    text ≠ "" := by
  rw [trimmed?, Option.map_eq_some_iff] at h
  obtain ⟨raw, hraw, rfl⟩ := h
  have hblank : Chars.isBlank raw.toList = false := (nonBlank?_eq_some_iff.1 hraw).2
  intro hempty
  have hnil : Chars.trim raw.toList = [] := by
    have hlist := congrArg String.toList hempty
    rwa [trim, String.toList_ofList] at hlist
  rw [Chars.trim_eq_nil_iff, hblank] at hnil
  exact Bool.noConfusion hnil

end Text

namespace Table

variable {touched more : List String} {before after last : Table} {key : String}

/-- The keys given are set: one that was there keeps its place, the others come at the end in the
order given.  All other keys stay as they are. -/
structure Sets (touched : List String) (before after : Table) : Prop where
  others : ∀ key, key ∉ touched → after.get? key = before.get? key
  order : after.keys = before.keys ++ touched.filter (· ∉ before.keys)

theorem Sets.none (table : Table) : Sets [] table table where
  others _ _ := rfl
  order := (List.append_nil _).symm

theorem Sets.insert (table : Table) (key value : String) :
    Sets [key] table (table.insert key value) where
  others other hother := by
    rw [get?_insert, if_neg (by simpa using hother)]
  order := by
    rw [keys_insert]
    split <;> simp [*]

theorem Sets.kept {value : String} (h : before.get? key = some value) :
    Sets [key] before before where
  others _ _ := rfl
  order := by simp [mem_keys_of_get? h]

theorem Sets.trans (h : Sets touched before after) (hnext : Sets more after last)
    (hmore : ∀ key ∈ more, key ∉ touched) : Sets (touched ++ more) before last where
  others key hkey := by
    rw [List.mem_append, not_or] at hkey
    rw [hnext.others key hkey.2, h.others key hkey.1]
  order := by
    -- A key that is set later is new exactly when it was new to begin with.
    have hnew : more.filter (· ∉ after.keys) = more.filter (· ∉ before.keys) := by
      apply List.filter_congr
      intro key hkey
      have hiff : key ∈ after.keys ↔ key ∈ before.keys := by
        simp [h.order, hmore key hkey]
      simp [hiff]
    rw [hnext.order, hnew, h.order, List.filter_append, List.append_assoc]

/-- The value that says Kerberos: the one given, if it says so already. -/
def kerberosValue (config : Configuration) : String :=
  ((config.get? Names.securityAuthentication).filter
    (Text.sameIgnoringCase · Names.kerberos)).getD Names.kerberos

theorem get?_forceKerberos (config : Configuration) :
    config.forceKerberos.get? Names.securityAuthentication = some config.kerberosValue := by
  have hset : (config.insert Names.securityAuthentication Names.kerberos).get?
      Names.securityAuthentication = some Names.kerberos := by
    rw [get?_insert, if_pos rfl]
  unfold forceKerberos kerberosValue
  cases hvalue : config.get? Names.securityAuthentication with
  | none => exact hset
  | some value =>
      dsimp only
      cases hsame : Text.sameIgnoringCase value Names.kerberos with
      | true => simp [hvalue, hsame, Option.filter]
      | false => simp [hset, hsame, Option.filter]

theorem forceKerberos_sets (config : Configuration) :
    config.Sets [Names.securityAuthentication] config.forceKerberos := by
  have hset := Sets.insert config Names.securityAuthentication Names.kerberos
  unfold forceKerberos
  split
  · rename_i hvalue
    split
    · exact .kept hvalue
    · exact hset
  · exact hset

end Table

namespace Propagator

/-- The configuration with the location of the tokens, if there is one. -/
def mark (propagator : Propagator) (config : Configuration) : Configuration :=
  match propagator.location? with
  | none => config
  | some location =>
      Names.credentialKeys.foldl (fun config key => config.insert key location) config

theorem propagate_marks (propagator : Propagator) (props : Properties) (config : Configuration) :
    Yields (fun found => found.2.2 = propagator.mark config)
      (propagator.propagate props config) := by
  unfold propagate mark
  cases propagator.location? with
  | none => exact .pure rfl
  | some location => exact .bind_right fun _ => .pure rfl

/-- The keys that tell where the tokens are. -/
def marked (location : Option String) : List String :=
  if location.isSome then Names.credentialKeys else []

theorem not_mem_marked {key : String} (h : key ∉ Names.credentialKeys)
    (location : Option String) : key ∉ marked location := by
  unfold marked
  split
  · exact h
  · exact List.not_mem_nil

theorem mark_sets (propagator : Propagator) (config : Configuration) :
    config.Sets (marked propagator.location?) (propagator.mark config) := by
  unfold mark marked
  cases propagator.location? with
  | none => exact .none config
  | some location =>
      exact (Table.Sets.insert config Names.jobCredentials location).trans
        (.insert _ Names.tezCredentials location) (by decide)

theorem get?_mark {propagator : Propagator} {location key : String}
    (h : propagator.location? = some location) (hkey : key ∈ Names.credentialKeys)
    (config : Configuration) : (propagator.mark config).get? key = some location := by
  rw [Names.credentialKeys, List.mem_cons, List.mem_singleton] at hkey
  unfold mark
  rw [h]
  show ((config.insert Names.jobCredentials location).insert Names.tezCredentials location).get?
    key = some location
  rw [Table.get?_insert, Table.get?_insert]
  rcases hkey with rfl | rfl <;> simp

end Propagator

namespace LoginRequest

def settles : LoginRequest → List String
  | ambient => []
  | keytab .. => [Names.securityAuthentication]
  | ticketCache .. => [Names.securityAuthentication, Names.ticketCachePath]

theorem adapt_sets (request : LoginRequest) (config : Configuration) :
    config.Sets request.settles (request.adapt config) := by
  cases request with
  | ambient => exact .none config
  | keytab principal path settings => exact Table.forceKerberos_sets config
  | ticketCache principal cache settings =>
      exact (Table.forceKerberos_sets config).trans (.insert _ Names.ticketCachePath cache.text)
        (by decide)

theorem get?_adapt {request : LoginRequest} (h : request ≠ ambient) (config : Configuration) :
    (request.adapt config).get? Names.securityAuthentication = some config.kerberosValue := by
  cases request with
  | ambient => exact absurd rfl h
  | keytab principal path settings => exact Table.get?_forceKerberos config
  | ticketCache principal cache settings =>
      show (config.forceKerberos.insert Names.ticketCachePath cache.text).get? _ = _
      rw [Table.get?_insert, if_neg (by decide), Table.get?_forceKerberos]

end LoginRequest

namespace Properties

/-- The value of a key that counts, from the properties or else from the configuration: it is not
blank, and trimmed. -/
def chosen? (props : Properties) (config : Configuration) (key : String) : Option String :=
  (Text.trimmed? (props.raw? key)).or (Text.trimmed? (config.get? key))

/-- The login that properties and configuration ask for.  The ticket cache is a matter of the
properties alone. -/
def login (props : Properties) (config : Configuration) (settings : LoginSettings) :
    LoginRequest :=
  match Text.trimmed? (props.raw? Names.ticketCache), props.chosen? config Names.principal,
      props.chosen? config Names.keytab with
  | some cache, principal, _ => .ticketCache (principal.getD "") ⟨cache⟩ settings
  | none, some principal, some keytab => .keytab principal ⟨keytab⟩ settings
  | none, _, _ => .ambient

theorem trimmed?_propertyOrConfig? (props : Properties) (config : Configuration) (key : String) :
    Text.trimmed? (propertyOrConfig? props config key) = props.chosen? config key :=
  Text.trimmed?_or _ _

theorem chosen?_ne_empty {props : Properties} {config : Configuration} {key text : String}
    (h : props.chosen? config key = some text) : text ≠ "" := by
  rw [← trimmed?_propertyOrConfig?] at h
  exact Text.ne_empty_of_trimmed? h

theorem request_spec (props : Properties) (config : Configuration) (settings : LoginSettings) :
    (Runner.spec props config).request settings = props.login config settings := by
  have hcache : Text.trimmed? (props.get? Names.ticketCache) =
      Text.trimmed? (props.raw? Names.ticketCache) := Text.trimmed?_nonBlank? _
  unfold PrincipalSpec.request login Runner.spec PrincipalSpec.ofRaw
  rw [trimmed?_propertyOrConfig?, trimmed?_propertyOrConfig?, hcache]
  cases Text.trimmed? (props.raw? Names.ticketCache) with
  | some cache => rfl
  | none =>
      cases hprincipal : props.chosen? config Names.principal with
      | none => cases props.chosen? config Names.keytab <;> rfl
      | some principal =>
          cases props.chosen? config Names.keytab with
          | none => rfl
          | some keytab => simp [chosen?_ne_empty hprincipal]

end Properties

namespace Runner

/-- The configuration that a run starts from. -/
def resolved (runner : Runner) (base : Configuration) (world : World) : Configuration :=
  (runner.resolver.resolve world.files base runner.properties.confDir?).config

def request (runner : Runner) (action : Action) (base : Configuration) (world : World) :
    LoginRequest :=
  runner.properties.login (runner.resolved base world)
    (.ofProperties (runner.ownProperties action))

variable (runner : Runner) (action : Action) (base : Configuration)
variable {plan : Plan} {world prepared : World}

theorem raw?_ownProperties {key : String} (htokens : key ∉ Names.credentialKeys)
    (hdebug : key ≠ Names.realmDebug) :
    (runner.ownProperties action).raw? key = runner.properties.raw? key := by
  have hinsert (props : Properties) {other : String} (value : String) (h : key ≠ other) :
      (props.insert other value).raw? key = props.raw? key := by
    show (props.table.insert other value).get? key = props.table.get? key
    rw [Table.get?_insert, if_neg h]
  have hhand : (runner.propagator.hand runner.properties).raw? key =
      runner.properties.raw? key := by
    rw [Names.credentialKeys, List.mem_cons, List.mem_singleton, not_or] at htokens
    unfold Propagator.hand
    cases runner.propagator.location? with
    | none => rfl
    | some location => exact (hinsert _ _ htokens.2).trans (hinsert _ _ htokens.1)
  unfold ownProperties withDebug
  split
  · exact hhand
  · exact (hinsert _ _ hdebug).trans hhand

theorem chosen?_plan {key : String} (htokens : key ∉ Names.credentialKeys)
    (hdebug : key ≠ Names.realmDebug) (config : Configuration) :
    (runner.ownProperties action).chosen? (runner.propagator.mark config) key =
      runner.properties.chosen? config key := by
  have hkept := (runner.propagator.mark_sets config).others key
    (Propagator.not_mem_marked htokens _)
  rw [Properties.chosen?, Properties.chosen?, runner.raw?_ownProperties action htokens hdebug,
    hkept]

theorem login_plan (config : Configuration) (settings : LoginSettings) :
    (runner.ownProperties action).login (runner.propagator.mark config) settings =
      runner.properties.login config settings := by
  unfold Properties.login
  rw [runner.raw?_ownProperties action (by decide) (by decide),
    runner.chosen?_plan action (by decide) (by decide),
    runner.chosen?_plan action (by decide) (by decide)]

theorem config_of_prepare
    (hprepare : (runner.prepare action base).run world = .ok (.ok plan) prepared) :
    plan.config = runner.propagator.mark (runner.resolved base world) := by
  have hplan (props : Properties) (config : Configuration)
      (hconfig : config = runner.propagator.mark (runner.resolved base world)) :
      Gives (fun plan => plan.config = runner.propagator.mark (runner.resolved base world)) (do
        reach runner.announce .credentialsPropagated
        let method ← (method props : Launch _)
        return ⟨props, config, method⟩ : ExceptT ActionError Launch Plan) :=
    .bind_right fun _ => .bind_right fun _ => .pure hconfig
  unfold prepare at hprepare
  rw [run_get_bind] at hprepare
  -- What was resolved is that of this world: the rest gives the same configuration in any.
  refine (?_ : Gives (fun plan : Plan =>
    plan.config = runner.propagator.mark (runner.resolved base world)) _) _ _
      (ending_eq_of_ok hprepare) plan rfl
  refine .bind_right fun _ => .bind_right fun _ => ?_
  refine (Gives.lift (Propagator.propagate_marks _ _ _)).bind fun found hfound => ?_
  obtain ⟨location, props, config⟩ := found
  cases location with
  | none => exact hplan _ _ hfound
  | some location => exact .bind_right fun _ => hplan _ _ hfound

theorem approach_gives (props : Properties) (identity : Identity) (config : Configuration) :
    Gives (· = contextOf props identity config) (runner.approach props identity config) := by
  unfold approach
  refine .bind_right fun _ => .bind_right fun _ => ?_
  exact .bind_right fun _ => .bind_right fun _ => .pure rfl

theorem registry_of_prepare
    (hprepare : (runner.prepare action base).run (after start world) = .ok (.ok plan) prepared) :
    Same World.registry world prepared := by
  have hstart : (after start world).At world.nextId .init world.events := ⟨rfl, rfl, rfl⟩
  rcases runner.prepare_cases action base hstart with
    ⟨_, _, hprepare', hsame, -⟩ | ⟨_, _, hprepare', -⟩
  · cases hprepare.symm.trans hprepare'
    exact hsame
  · cases hprepare.symm.trans hprepare'

/-- The configuration says what the resolved one says, but for the tokens and the login. -/
structure Adapts (resolved : Configuration) (location : Option String) (login : LoginRequest)
    (config : Configuration) : Prop where
  tokens : ∀ text, location = some text → ∀ key ∈ Names.credentialKeys,
    config.get? key = some text
  authentication : login ≠ .ambient →
    config.get? Names.securityAuthentication = some resolved.kerberosValue
  ticketCache : ∀ principal cache settings, login = .ticketCache principal cache settings →
    config.get? Names.ticketCachePath = some cache.text
  settles : resolved.Sets (Propagator.marked location ++ login.settles) config

theorem adapts_adapt (propagator : Propagator) (resolved : Configuration) (login : LoginRequest) :
    Adapts resolved propagator.location? login (login.adapt (propagator.mark resolved)) := by
  have hmark := propagator.mark_sets resolved
  have hadapt := login.adapt_sets (propagator.mark resolved)
  have hapart : ∀ key ∈ login.settles, key ∉ Names.credentialKeys := by
    cases login <;> simp only [LoginRequest.settles] <;> decide
  constructor
  case tokens =>
    intro text htext key hkey
    rw [hadapt.others key fun hsettled => hapart key hsettled hkey]
    exact Propagator.get?_mark htext hkey resolved
  case authentication =>
    intro hlogin
    rw [LoginRequest.get?_adapt hlogin, Table.kerberosValue, Table.kerberosValue,
      hmark.others _ (Propagator.not_mem_marked (by decide) _)]
  case ticketCache =>
    rintro principal cache settings rfl
    exact (Table.get?_insert _ _ _ _).trans (if_pos rfl)
  case settles =>
    apply hmark.trans hadapt
    intro key hkey
    exact Propagator.not_mem_marked (hapart key hkey) _

theorem Adapts.unique {resolved config other : Configuration} {location : Option String}
    {login : LoginRequest} (h : Adapts resolved location login config)
    (hother : Adapts resolved location login other) : config = other := by
  apply Table.ext_of_keys
  · rw [h.settles.order, hother.settles.order]
  · intro key
    by_cases hkey : key ∈ Propagator.marked location ++ login.settles
    · rcases List.mem_append.1 hkey with hkey | hkey
      · cases location with
        | none => cases hkey
        | some text => rw [h.tokens text rfl key hkey, hother.tokens text rfl key hkey]
      · have hauthentication (hlogin : login ≠ .ambient) :
            config.get? Names.securityAuthentication = other.get? Names.securityAuthentication := by
          rw [h.authentication hlogin, hother.authentication hlogin]
        cases login with
        | ambient => cases hkey
        | keytab principal path settings =>
            rw [LoginRequest.settles, List.mem_singleton] at hkey
            exact hkey ▸ hauthentication (by simp)
        | ticketCache principal cache settings =>
            rw [LoginRequest.settles, List.mem_cons, List.mem_singleton] at hkey
            rcases hkey with rfl | rfl
            · exact hauthentication (by simp)
            · rw [h.ticketCache _ _ _ rfl, hother.ticketCache _ _ _ rfl]
    · rw [h.settles.others key hkey, hother.settles.others key hkey]

/-- The body of a run sees the resolved configuration, adapted to the tokens and to the login with
which its identity came. -/
structure Configured (runner : Runner) (action : Action) (base : Configuration) (world : World)
    (context : Context) : Prop where
  config : ∀ config, Adapts (runner.resolved base world) runner.propagator.location?
    (runner.request action base world) config ↔ config = context.config
  /-- Without a login the identity is the one that was current when the run began. -/
  inherits : runner.request action base world = .ambient → context.identity = world.current
  logsIn : runner.request action base world ≠ .ambient →
    ∃ plan asked answered,
      (runner.prepare action base).run (after start world) = .ok (.ok plan) asked ∧
      runner.provider.answer (runner.request action base world) asked =
        .ok (.ok context.identity) answered

theorem started_configured {context : Context} {entered : World}
    (h : runner.Comes action base world (.started context entered)) :
    runner.Configured action base world context := by
  cases h with
  | started hprepare hacquire happroach =>
      rename_i plan prepared acquired identity config
      have hproperties := runner.prepare_properties action base _ _ (ending_eq_of_ok hprepare)
        plan rfl
      have hplanned := runner.config_of_prepare action base hprepare
      obtain rfl := runner.approach_gives _ _ _ _ _ (ending_eq_of_ok happroach) context rfl
      have hgrants := Acquirer.grants_of_acquired hacquire
      have hrequest : plan.spec.request (plan.scope runner).acquirer.settings =
          runner.request action base world := by
        unfold Plan.spec Plan.scope request
        rw [Properties.request_spec, hproperties, hplanned]
        exact runner.login_plan action _ _
      rw [hrequest] at hgrants
      have hadapts : Adapts (runner.resolved base world) runner.propagator.location?
          (runner.request action base world)
          (contextOf plan.properties identity (config.getD plan.config)).config := by
        rw [hgrants.config, hplanned]
        exact adapts_adapt _ _ _
      constructor
      case config =>
        intro other
        constructor
        · exact fun hother => hother.unique hadapts
        · rintro rfl
          exact hadapts
      case inherits =>
        intro hambient
        rw [← World.current_of_registry (runner.registry_of_prepare action base hprepare)]
        exact hgrants.inherits hambient
      case logsIn =>
        intro hlogin
        exact ⟨plan, prepared, acquired, hprepare, hgrants.logsIn hlogin⟩

/-- A login with a keytab from the properties, of a principal that only the configuration has. -/
theorem started_configured_keytab :
    let runner : Runner := ⟨.simple, default, .ofPath (some ⟨"tokens"⟩),
      .ofList [(Names.principal, " "), (Names.keytab, " etl.keytab")], true⟩
    let action : Action := ⟨"etl", false, fun _ _ => return .error "reached"⟩
    let root : Identity := ⟨"root", .ambient, none, none, default⟩
    let world := World.start ⟨[], [(["etl.keytab"], .file [] none)]⟩ .empty "root" root default
      default
    let base := Table.ofList [(Names.principal, "etl "), (Names.securityAuthentication, "simple"),
      (Names.tezCredentials, "old")]
    runner.request action base world =
        .keytab "etl" ⟨"etl.keytab"⟩ (.ofProperties (runner.ownProperties action)) ∧
      ∃ context entered, runner.Comes action base world (.started context entered) ∧
        runner.Configured action base world context ∧
        context.config.entries = [(Names.principal, "etl "),
          (Names.securityAuthentication, Names.kerberos), (Names.tezCredentials, "tokens"),
          (Names.jobCredentials, "tokens")] := by
  intro runner action root world base
  have hprovider : runner.provider.Obeys (Returns (Same World.standing)) := Provider.simple_obeys
  have hbody (context : Context) (args : List String) :
      Respects Aside (action.body context args) :=
    .pure _
  have hended : ending (runner.run action base []) world = .ok (.error (.execution "reached")) := by
    decide +kernel
  obtain ⟨fate, hcomes⟩ := runner.comes action base hprovider world
  have hfate := (runner.run_of_comes action base [] hprovider hbody hcomes).1
  obtain ⟨context, entered, rfl, -⟩ :=
    Fate.ending_eq_execution_iff.1 (hfate.symm.trans hended)
  have hconfigured := started_configured runner action base hcomes
  have hrequest : runner.request action base world =
      .keytab "etl" ⟨"etl.keytab"⟩ (.ofProperties (runner.ownProperties action)) := by
    decide +kernel
  have hconfig : (runner.request action base world).adapt
      (runner.propagator.mark (runner.resolved base world)) = context.config :=
    (hconfigured.config _).1 (adapts_adapt _ _ _)
  refine ⟨hrequest, context, entered, hcomes, hconfigured, ?_⟩
  rw [← hconfig]
  decide +kernel

end Runner

end ActionLauncher
