import ActionLauncher.Proofs.ProviderConduct
import ActionLauncher.Proofs.TableLaws

namespace ActionLauncher

open Launch

namespace Table

/-- Other keys keep value and place; a key that comes new comes at the end. -/
structure ChangesAtMost (touched : List String) (before after : Table) : Prop where
  values : ∀ key, key ∉ touched → after.get? key = before.get? key
  order : ∃ new, (∀ key ∈ new, key ∈ touched) ∧ after.keys = before.keys ++ new

variable {touched : List String} {before after : Table}

theorem ChangesAtMost.refl (touched : List String) (table : Table) :
    ChangesAtMost touched table table where
  values _ _ := rfl
  order := ⟨[], by simp, by simp⟩

theorem ChangesAtMost.insert (h : ChangesAtMost touched before after) {key : String}
    (hkey : key ∈ touched) (value : String) :
    ChangesAtMost touched before (after.insert key value) where
  values other hother := by
    have hne : other ≠ key := fun heq => hother (heq ▸ hkey)
    rw [get?_insert, if_neg hne]
    exact h.values other hother
  order := by
    obtain ⟨new, hnew, hkeys⟩ := h.order
    rw [keys_insert]
    split
    · exact ⟨new, hnew, hkeys⟩
    · refine ⟨new ++ [key], ?_, ?_⟩
      · intro other hother
        rcases List.mem_append.1 hother with hother | hother
        · exact hnew other hother
        · rwa [List.mem_singleton.1 hother]
      · rw [hkeys, List.append_assoc]

theorem forceKerberos_changesAtMost (hkey : Names.securityAuthentication ∈ touched)
    (config : Configuration) : ChangesAtMost touched config config.forceKerberos := by
  have hset := (ChangesAtMost.refl touched config).insert hkey Names.kerberos
  unfold forceKerberos
  split
  · split
    · exact .refl touched config
    · exact hset
  · exact hset

end Table

namespace Provider

/-- What a provider does for a request. -/
def answer (provider : Provider) : LoginRequest → Launch (Except SecurityError Identity)
  | .keytab principal path settings => provider.fromKeytab principal path settings
  | .ticketCache principal path settings => provider.fromTicketCache principal path settings
  | .ambient => provider.ambient

def ask (provider : Provider) (request : LoginRequest) :
    Launch (Except SecurityError Identity) := do
  note (.asked request)
  provider.answer request

/-- The provider that writes down every call and then does the same. -/
def noting (provider : Provider) : Provider where
  name := provider.name
  ambient := provider.ask .ambient
  fromKeytab principal path settings := provider.ask (.keytab principal path settings)
  fromTicketCache principal path settings := provider.ask (.ticketCache principal path settings)
  release identity := do
    note (.released identity)
    provider.release identity

theorem Obeys.answer {P : {α : Type} → Launch α → Prop} {provider : Provider}
    (h : provider.Obeys P) (request : LoginRequest) : P (provider.answer request) := by
  cases request with
  | keytab principal path settings => exact h.fromKeytab principal path settings
  | ticketCache principal path settings => exact h.fromTicketCache principal path settings
  | ambient => exact h.ambient

theorem journal_ask (provider : Provider) (request : LoginRequest)
    (h : Respects (Same World.journal) (provider.answer request)) (world : World) :
    (after (provider.ask request) world).journal = world.journal ++ [.asked request] :=
  h { world with journal := world.journal ++ [.asked request] }

end Provider

theorem PrincipalSpec.usesAmbient_iff (spec : PrincipalSpec) :
    spec.usesAmbient = true ↔
      spec.ticketCache = none ∧ (spec.keytab = none ∨ spec.principal = "") := by
  simp [usesAmbient]

namespace Acquirer

/-- The first requirement of a ticket cache that is not met. -/
inductive FirstAbsent (settings : LoginSettings) (config : Configuration) : String → Prop
  | realmConf (hconf : ∀ path, settings.realmConf = some path → path.isEmpty = true) :
      FirstAbsent settings config Names.realmConf
  | namenodePrincipal {path : Path} (hconf : settings.realmConf = some path)
      (hpath : path.isEmpty = false)
      (hprincipal : config.nonBlank? Names.namenodePrincipal = none) :
      FirstAbsent settings config Names.namenodePrincipal
  | defaultFileSystem {path : Path} {principal : String} (hconf : settings.realmConf = some path)
      (hpath : path.isEmpty = false)
      (hprincipal : config.nonBlank? Names.namenodePrincipal = some principal)
      (hsystem : config.nonBlank? Names.defaultFileSystem = none) :
      FirstAbsent settings config Names.defaultFileSystem

theorem missing?_of_realmConf {settings : LoginSettings} {path : Path}
    (hconf : settings.realmConf = some path) (hpath : path.isEmpty = false)
    (config : Configuration) :
    missing? settings config = [Names.namenodePrincipal, Names.defaultFileSystem].find? fun key =>
      (config.nonBlank? key).isNone := by
  have hsome : (settings.realmConf.filter fun p => !p.isEmpty) = some path := by
    rw [hconf, Option.filter_some, if_pos (by simp [hpath])]
  rw [missing?, hsome, if_neg (by simp)]

theorem missing?_of_no_realmConf {settings : LoginSettings}
    (hconf : ∀ path, settings.realmConf = some path → path.isEmpty = true)
    (config : Configuration) : missing? settings config = some Names.realmConf := by
  have hnone : (settings.realmConf.filter fun p => !p.isEmpty) = none := by
    rw [Option.filter_eq_none_iff]
    intro path hpath
    simp [hconf path hpath]
  rw [missing?, hnone]
  rfl

theorem missing?_eq_some_iff (settings : LoginSettings) (config : Configuration) (key : String) :
    missing? settings config = some key ↔ FirstAbsent settings config key := by
  constructor
  · intro h
    by_cases hconf : ∀ path, settings.realmConf = some path → path.isEmpty = true
    · rw [missing?_of_no_realmConf hconf, Option.some.injEq] at h
      exact h ▸ .realmConf hconf
    · simp only [Classical.not_forall, Bool.not_eq_true] at hconf
      obtain ⟨path, hconf, hpath⟩ := hconf
      rw [missing?_of_realmConf hconf hpath] at h
      cases hprincipal : config.nonBlank? Names.namenodePrincipal with
      | none =>
          simp only [List.find?_cons, hprincipal, Option.isNone_none, Option.some.injEq] at h
          exact h ▸ .namenodePrincipal hconf hpath hprincipal
      | some principal =>
          cases hsystem : config.nonBlank? Names.defaultFileSystem with
          | none =>
              simp only [List.find?_cons, hprincipal, hsystem, Option.isNone_none,
                Option.isNone_some, Option.some.injEq] at h
              exact h ▸ .defaultFileSystem hconf hpath hprincipal hsystem
          | some system => simp [hprincipal, hsystem] at h
  · intro h
    cases h with
    | realmConf hconf => exact missing?_of_no_realmConf hconf config
    | namenodePrincipal hconf hpath hprincipal =>
        rw [missing?_of_realmConf hconf hpath]
        simp [hprincipal]
    | defaultFileSystem hconf hpath hprincipal hsystem =>
        rw [missing?_of_realmConf hconf hpath]
        simp [hprincipal, hsystem]

theorem missing?_eq_none_iff (settings : LoginSettings) (config : Configuration) :
    missing? settings config = none ↔ ∀ key, ¬ FirstAbsent settings config key := by
  simp only [← missing?_eq_some_iff, Option.eq_none_iff_forall_ne_some, ne_eq]

/-- The acquirer whose provider writes down every call. -/
def noting (acquirer : Acquirer) : Acquirer :=
  { acquirer with provider := acquirer.provider.noting }

/-- The acquisition is one call of the provider and nothing besides.  The call is written down
once, if the provider itself writes nothing down. -/
structure AsksOnce (acquirer : Acquirer) (spec : PrincipalSpec) (config : Option Configuration)
    (request : LoginRequest) (next : Option Configuration) (world : World) : Prop where
  runs : acquirer.acquire spec config world =
    ((fun answer => ⟨blame spec.principal answer, next⟩) <$> acquirer.provider.answer request :
      Launch Acquisition) world
  noted : Respects (Same World.journal) (acquirer.provider.answer request) →
    (after (acquirer.noting.acquire spec config) world).journal =
      world.journal ++ [.asked request]

/-- The acquisition calls nobody, and leaves nothing but log records. -/
structure AsksNobody (acquirer : Acquirer) (spec : PrincipalSpec) (config : Option Configuration)
    (acquisition : Acquisition) (world : World) : Prop where
  runs : ∃ records, acquirer.acquire spec config world =
    .ok acquisition { world with records := records }
  noted : (after (acquirer.noting.acquire spec config) world).journal = world.journal

variable (acquirer : Acquirer) {spec : PrincipalSpec} {cache path : Path}
  {given : Configuration} {config : Option Configuration} {key : String}

theorem acquire_of_noCache (h : spec.ticketCache = none ∨ config = none) :
    acquirer.acquire spec config = match spec.keytab with
      | some keytab =>
          if spec.principal.isEmpty then fallBack spec config
          else acquirer.fromKeytab spec.principal keytab config
      | none => fallBack spec config := by
  unfold acquire
  cases hcache : spec.ticketCache with
  | none => rfl
  | some cache =>
      rw [hcache] at h
      rcases h with h | rfl
      · cases h
      · rfl

theorem asksNobody_of_firstAbsent (hcache : spec.ticketCache = some cache)
    (h : FirstAbsent acquirer.settings given key) (world : World) :
    acquirer.AsksNobody spec (some given) ⟨.error (.missing key), some given⟩ world := by
  have hrun (acquirer : Acquirer) (h : FirstAbsent acquirer.settings given key) :
      acquirer.acquire spec (some given) world =
        .ok ⟨.error (.missing key), some given⟩ world := by
    rw [acquire_of_ticketCache acquirer hcache, fromTicketCache,
      (missing?_eq_some_iff _ _ _).2 h]
    rfl
  constructor
  · exact ⟨world.records, hrun acquirer h⟩
  · rw [after_eq_of_ok (hrun acquirer.noting h)]

theorem asksOnce_of_ticketCache (hcache : spec.ticketCache = some cache)
    (h : ∀ key, ¬ FirstAbsent acquirer.settings given key) (world : World) :
    acquirer.AsksOnce spec (some given) (.ticketCache spec.principal cache acquirer.settings)
      (some (given.forceKerberos.insert Names.ticketCachePath cache.text)) world := by
  have hrun (acquirer : Acquirer) (h : ∀ key, ¬ FirstAbsent acquirer.settings given key) :
      acquirer.acquire spec (some given) =
        (fun answer => (⟨blame spec.principal answer,
            some (given.forceKerberos.insert Names.ticketCachePath cache.text)⟩ : Acquisition)) <$>
          acquirer.provider.fromTicketCache spec.principal cache acquirer.settings := by
    rw [acquire_of_ticketCache acquirer hcache, fromTicketCache, (missing?_eq_none_iff _ _).2 h]
    rfl
  constructor
  · rw [hrun acquirer h]
    rfl
  · intro hkeeps
    rw [hrun acquirer.noting h, after_map]
    exact acquirer.provider.journal_ask _ hkeeps world

theorem asksOnce_of_keytab (hcache : spec.ticketCache = none ∨ config = none)
    (hkeytab : spec.keytab = some path) (hprincipal : spec.principal ≠ "") (world : World) :
    acquirer.AsksOnce spec config (.keytab spec.principal path acquirer.settings)
      (config.map Table.forceKerberos) world := by
  have hrun (acquirer : Acquirer) : acquirer.acquire spec config =
      (fun answer => (⟨blame spec.principal answer, config.map Table.forceKerberos⟩ :
          Acquisition)) <$>
        acquirer.provider.fromKeytab spec.principal path acquirer.settings := by
    rw [acquire_of_noCache acquirer hcache, hkeytab]
    dsimp only
    rw [if_neg (by simpa using hprincipal)]
    rfl
  constructor
  · rw [hrun acquirer]
    rfl
  · intro hkeeps
    rw [hrun acquirer.noting, after_map]
    exact acquirer.provider.journal_ask _ hkeeps world

theorem asksNobody_of_noLogin (hcache : spec.ticketCache = none ∨ config = none)
    (hkeytab : spec.keytab = none ∨ spec.principal = "") (world : World) :
    acquirer.AsksNobody spec config ⟨.ok world.current, config⟩ world := by
  have hrun (acquirer : Acquirer) : acquirer.acquire spec config = fallBack spec config := by
    rw [acquire_of_noCache acquirer hcache]
    cases hpath : spec.keytab with
    | none => rfl
    | some path =>
        have hprincipal : spec.principal = "" := hkeytab.resolve_left (by simp [hpath])
        simp [hprincipal]
  obtain ⟨records, hfall⟩ := fallBack_eq spec config world
  constructor
  · exact ⟨records, by rw [hrun acquirer, hfall]⟩
  · rw [hrun acquirer.noting, after_eq_of_ok hfall]

theorem blame_error {principal : String} {answer : Except SecurityError Identity}
    {cause : SecurityError} (h : blame principal answer = .error cause) :
    (∃ key, cause = .missing key) ∨ ∃ owner reason, cause = .authentication owner reason := by
  cases answer with
  | ok identity => cases h
  | error failure =>
      obtain rfl : failure.asLoginOf principal = cause := Except.error.inj h
      cases failure with
      | missing key => exact .inl ⟨key, rfl⟩
      | authentication owner reason => exact .inr ⟨owner, reason, rfl⟩
      | commandNotFound name => exact .inr ⟨principal, _, rfl⟩
      | io failure => exact .inr ⟨principal, _, rfl⟩

/-- The keys that an acquisition may write. -/
def writes (spec : PrincipalSpec) : List String :=
  Names.securityAuthentication ::
    if spec.ticketCache.isSome then [Names.ticketCachePath] else []

/-- What an acquisition decides.  A ticket cache with a configuration comes first, and needs three
settings; then a keytab with a principal; then nothing is left but the current identity. -/
structure DecidesInOrder (spec : PrincipalSpec) (config : Option Configuration)
    (world : World) : Prop where
  refuses : ∀ {cache given key}, spec.ticketCache = some cache → config = some given →
    FirstAbsent acquirer.settings given key →
      acquirer.AsksNobody spec config ⟨.error (.missing key), some given⟩ world
  ticketCache : ∀ {cache given}, spec.ticketCache = some cache → config = some given →
    (∀ key, ¬ FirstAbsent acquirer.settings given key) →
      acquirer.AsksOnce spec config (.ticketCache spec.principal cache acquirer.settings)
        (some (given.forceKerberos.insert Names.ticketCachePath cache.text)) world
  keytab : ∀ {path}, spec.ticketCache = none ∨ config = none →
    spec.keytab = some path → spec.principal ≠ "" →
      acquirer.AsksOnce spec config (.keytab spec.principal path acquirer.settings)
        (config.map Table.forceKerberos) world
  fallsBack : spec.ticketCache = none ∨ config = none →
    spec.keytab = none ∨ spec.principal = "" →
      acquirer.AsksNobody spec config ⟨.ok world.current, config⟩ world
  ambient : acquirer.provider.Obeys (Respects (Same World.journal)) → config.isSome = true →
    (acquirer.AsksNobody spec config ⟨.ok world.current, config⟩ world ↔
      spec.usesAmbient = true)
  blames : ∀ {cause next left},
    acquirer.acquire spec config world = .ok ⟨.error cause, next⟩ left →
      (∃ key, cause = .missing key) ∨ ∃ owner reason, cause = .authentication owner reason
  frames : ∀ {acquisition left}, acquirer.acquire spec config world = .ok acquisition left →
    (config = none → acquisition.config = none) ∧
      ∀ {given}, config = some given → ∃ next, acquisition.config = some next ∧
        given.ChangesAtMost (writes spec) next

variable {acquirer}

theorem AsksOnce.result {request : LoginRequest} {next : Option Configuration}
    {world left : World} {acquisition : Acquisition}
    (h : acquirer.AsksOnce spec config request next world)
    (hresult : acquirer.acquire spec config world = .ok acquisition left) :
    ∃ answer, acquisition = ⟨blame spec.principal answer, next⟩ := by
  have hending := (ending_congr h.runs).symm.trans (ending_eq_of_ok hresult)
  rw [ending_map] at hending
  cases hanswer : ending (acquirer.provider.answer request) world with
  | error panic => simp [hanswer, Except.map] at hending
  | ok answer =>
      rw [hanswer] at hending
      exact ⟨answer, (Except.ok.inj hending).symm⟩

theorem AsksNobody.result {acquisition other : Acquisition} {world left : World}
    (h : acquirer.AsksNobody spec config acquisition world)
    (hresult : acquirer.acquire spec config world = .ok other left) : other = acquisition := by
  obtain ⟨records, hruns⟩ := h.runs
  cases hruns.symm.trans hresult
  rfl

variable (acquirer)

theorem acquire_cases (spec : PrincipalSpec) (config : Option Configuration) (world : World) :
    (∃ key, acquirer.AsksNobody spec config ⟨.error (.missing key), config⟩ world) ∨
      (∃ request next, acquirer.AsksOnce spec config request next world ∧
        (config = none → next = none) ∧
        ∀ given, config = some given → ∃ changed, next = some changed ∧
          given.ChangesAtMost (writes spec) changed) ∨
      ((spec.ticketCache = none ∨ config = none) ∧ (spec.keytab = none ∨ spec.principal = "") ∧
        acquirer.AsksNobody spec config ⟨.ok world.current, config⟩ world) := by
  have hauthentication : Names.securityAuthentication ∈ writes spec := List.mem_cons_self
  by_cases hcache : spec.ticketCache = none ∨ config = none
  · right
    by_cases hkeytab : spec.keytab = none ∨ spec.principal = ""
    · exact .inr ⟨hcache, hkeytab, acquirer.asksNobody_of_noLogin hcache hkeytab world⟩
    · left
      simp only [not_or] at hkeytab
      obtain ⟨hsome, hprincipal⟩ := hkeytab
      obtain ⟨path, hpath⟩ := Option.ne_none_iff_exists'.1 hsome
      refine ⟨_, _, acquirer.asksOnce_of_keytab hcache hpath hprincipal world, ?_, ?_⟩
      · rintro rfl
        rfl
      · rintro given rfl
        exact ⟨_, rfl, Table.forceKerberos_changesAtMost hauthentication given⟩
  · simp only [not_or] at hcache
    obtain ⟨hsome, hconfig⟩ := hcache
    obtain ⟨cache, hcache⟩ := Option.ne_none_iff_exists'.1 hsome
    obtain ⟨given, rfl⟩ := Option.ne_none_iff_exists'.1 hconfig
    by_cases habsent : ∃ key, FirstAbsent acquirer.settings given key
    · obtain ⟨key, habsent⟩ := habsent
      left
      exact ⟨key, acquirer.asksNobody_of_firstAbsent hcache habsent world⟩
    · right
      left
      rw [not_exists] at habsent
      refine ⟨_, _, acquirer.asksOnce_of_ticketCache hcache habsent world, by simp, ?_⟩
      rintro _ ⟨⟩
      have hpath : Names.ticketCachePath ∈ writes spec := by simp [writes, hcache]
      exact ⟨_, rfl, (Table.forceKerberos_changesAtMost hauthentication given).insert hpath _⟩

theorem acquire_decidesInOrder (spec : PrincipalSpec) (config : Option Configuration)
    (world : World) : acquirer.DecidesInOrder spec config world := by
  constructor
  case refuses =>
    rintro cache given key hcache rfl habsent
    exact acquirer.asksNobody_of_firstAbsent hcache habsent world
  case ticketCache =>
    rintro cache given hcache rfl hpresent
    exact acquirer.asksOnce_of_ticketCache hcache hpresent world
  case keytab =>
    intro path hcache hkeytab hprincipal
    exact acquirer.asksOnce_of_keytab hcache hkeytab hprincipal world
  case fallsBack =>
    intro hcache hkeytab
    exact acquirer.asksNobody_of_noLogin hcache hkeytab world
  case ambient =>
    intro hquiet hconfig
    rw [PrincipalSpec.usesAmbient_iff]
    constructor
    · intro hnobody
      rcases acquirer.acquire_cases spec config world with
        ⟨key, hrefused⟩ | ⟨request, changed, honce, -⟩ | ⟨hcache, hkeytab, -⟩
      · obtain ⟨records, hruns⟩ := hnobody.runs
        cases hrefused.result hruns
      · -- A call of the provider would have been written down.
        have hnoted := honce.noted (hquiet.answer request)
        rw [hnobody.noted] at hnoted
        simp at hnoted
      · refine ⟨hcache.resolve_right ?_, hkeytab⟩
        rintro rfl
        cases hconfig
    · rintro ⟨hcache, hkeytab⟩
      exact acquirer.asksNobody_of_noLogin (.inl hcache) hkeytab world
  case blames =>
    intro cause next left hresult
    rcases acquirer.acquire_cases spec config world with
      ⟨key, hnobody⟩ | ⟨request, changed, honce, -⟩ | ⟨-, -, hnobody⟩
    · cases hnobody.result hresult
      exact .inl ⟨key, rfl⟩
    · obtain ⟨answer, hanswer⟩ := honce.result hresult
      exact blame_error (congrArg Acquisition.result hanswer).symm
    · cases hnobody.result hresult
  case frames =>
    intro acquisition left hresult
    rcases acquirer.acquire_cases spec config world with
      ⟨key, hnobody⟩ | ⟨request, changed, honce, hnone, hsome⟩ | ⟨-, -, hnobody⟩
    · cases hnobody.result hresult
      exact ⟨id, fun hgiven => ⟨_, hgiven, .refl _ _⟩⟩
    · obtain ⟨answer, rfl⟩ := honce.result hresult
      exact ⟨hnone, fun hgiven => hsome _ hgiven⟩
    · cases hnobody.result hresult
      exact ⟨id, fun hgiven => ⟨_, hgiven, .refl _ _⟩⟩

end Acquirer

end ActionLauncher
