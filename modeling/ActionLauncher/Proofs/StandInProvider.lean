import ActionLauncher.Proofs.ToolEvidence

namespace ActionLauncher

open Launch

namespace Provider

/-- What a principal is admitted as, apart from when. -/
structure Admission where
  principal : String
  source : Source
  /-- The ticket cache that the login named; one that it made for itself does not count. -/
  cache : Option Path
  deriving DecidableEq

def admission (identity : Identity) : Admission where
  principal := identity.principal
  source := identity.source
  cache := if identity.source = .ticketCache then identity.cache else none

/-- A login with the credential at a path that trusts it stands in for one that asks about it. -/
structure LoginStandsIn (what principal : String) (path : Path)
    (trusting asking : Launch (Except SecurityError Identity)) (world : World) : Prop where
  /-- Without the credential both logins are refused for the same reason, and do nothing. -/
  refused : world.files.isFile path = false → ∀ login ∈ [trusting, asking],
    login world = .ok (.error (.authentication principal
      (what ++ " " ++ path.text ++ " does not exist"))) world
  /-- Whoever is admitted under a given name is admitted as the same by trust. -/
  granted : principal ≠ "" → ∀ identity, ending asking world = .ok (.ok identity) →
    ∃ trusted, ending trusting world = .ok (.ok trusted) ∧ admission trusted = admission identity
  /-- Trust calls no tool. -/
  calls : (after trusting world).toolCalls = world.toolCalls

/-- A provider that trusts credentials stands in for one that asks about them, whatever the
principal, the credential, the settings and the world. -/
structure StandsIn (trusting asking : Provider) : Prop where
  keytab : ∀ principal path settings world, LoginStandsIn "keytab" principal path
    (trusting.fromKeytab principal path settings) (asking.fromKeytab principal path settings) world
  ticketCache : ∀ principal path settings world, LoginStandsIn "ticket cache" principal path
    (trusting.fromTicketCache principal path settings)
    (asking.fromTicketCache principal path settings) world

namespace Simple

variable (principal : String) {path : Path} (settings : LoginSettings) {world : World}

theorem fromKeytab_of_isFile (h : world.files.isFile path = true) :
    fromKeytab principal path settings world =
      .ok (.ok ⟨principal, .keytab, none, none, world.clock⟩) (after now world) := by
  unfold fromKeytab
  rw [get_bind, h]
  rfl

theorem fromKeytab_of_absent (h : world.files.isFile path = false) :
    fromKeytab principal path settings world =
      .ok (.error (absent principal "keytab" path)) world := by
  unfold fromKeytab
  rw [get_bind, h]
  rfl

theorem fromTicketCache_of_isFile (h : world.files.isFile path = true) :
    fromTicketCache principal path settings world =
      .ok (.ok ⟨if principal.isEmpty then ambientUser world else principal, .ticketCache,
        some path, none, world.clock⟩) (after now world) := by
  unfold fromTicketCache
  rw [get_bind, h]
  rfl

theorem fromTicketCache_of_absent (h : world.files.isFile path = false) :
    fromTicketCache principal path settings world =
      .ok (.error (absent principal "ticket cache" path)) world := by
  unfold fromTicketCache
  rw [get_bind, h]
  rfl

end Simple

section Evidence

variable {what principal : String} {path : Path} {settings : LoginSettings} {world start : World}
  {trusting asking : Launch (Except SecurityError Identity)}
  {requests? : Option (List ToolRequest)} {grants : List Output → Identity → Prop}
  {trusted : Identity}

/-- Trust stands in for evidence that is asked for only where the credential is there, and that
grants what trust grants. -/
theorem standsIn_of_onEvidence
    (hasking : OnEvidence asking settings principal requests? world start grants)
    (hrequests : ∀ requests, requests? = some requests → world.files.isFile path = true)
    (habsent : world.files.isFile path = false → ∀ login ∈ [trusting, asking],
      login world = .ok (.error (absent principal what path)) world)
    (hpresent : world.files.isFile path = true →
      trusting world = .ok (.ok trusted) (after now world))
    (hgrants : principal ≠ "" → ∀ outputs identity, grants outputs identity →
      admission trusted = admission identity) :
    LoginStandsIn what principal path trusting asking world where
  refused := habsent
  granted hnamed identity hidentity := by
    obtain ⟨requests, outputs, hsome, -, hgrant⟩ := hasking.granted identity hidentity
    have htrusting := hpresent (hrequests requests hsome)
    exact ⟨trusted, ending_eq_of_ok htrusting, hgrants hnamed outputs identity hgrant⟩
  calls := by
    cases hfile : world.files.isFile path with
    | true => rw [after_eq_of_ok (hpresent hfile)]; rfl
    | false => rw [after_eq_of_ok (habsent hfile trusting (by simp))]

end Evidence

end Provider

namespace KerberosTools

open Provider

variable (tools : KerberosTools) (principal : String) (path : Path) (settings : LoginSettings)
  (world : World)

theorem isFile_of_keytabRequests? {requests : List ToolRequest}
    (h : tools.keytabRequests? principal path world = some requests) :
    world.files.isFile path = true := by
  unfold keytabRequests? at h
  split at h
  · assumption
  · cases h

theorem isFile_of_cacheRequests? {requests : List ToolRequest}
    (h : tools.cacheRequests? path world = some requests) :
    world.files.isFile path = true := by
  unfold cacheRequests? at h
  split at h
  · assumption
  · cases h

theorem admission_of_holdsKey {id : Uuid} {outputs : List Output} {identity : Identity}
    (h : tools.HoldsKey principal id outputs identity) :
    admission identity = ⟨principal, .keytab, none⟩ := by
  obtain ⟨-, -, hprincipal, hsource, -, -⟩ := h
  rw [admission, hprincipal, hsource]
  rfl

theorem admission_of_ownsTicket (hnamed : principal ≠ "") {outputs : List Output}
    {identity : Identity} (h : OwnsTicket principal path outputs identity) :
    admission identity = ⟨principal, .ticketCache, some path⟩ := by
  obtain ⟨-, -, named, -, -, hprincipal, hsource, hcache, -⟩ := h
  have howner : (if principal.isEmpty then named else principal) = principal := by
    simp [String.isEmpty_iff, hnamed]
  rw [admission, hprincipal, howner, hsource, hcache]
  rfl

theorem fromKeytab_standsIn : LoginStandsIn "keytab" principal path
    (simple.fromKeytab principal path settings) (tools.fromKeytab principal path settings)
    world := by
  refine standsIn_of_onEvidence (fromKeytab_onEvidence tools principal path settings world)
    (fun _ => isFile_of_keytabRequests? tools principal path world) ?_
    (Simple.fromKeytab_of_isFile principal settings) ?_
  · intro habsent login hlogin
    rcases List.mem_pair.1 hlogin with rfl | rfl
    · exact Simple.fromKeytab_of_absent principal settings habsent
    · exact requireFile_of_absent habsent
  · intro _ outputs identity hgrant
    rw [admission_of_holdsKey tools principal hgrant]
    rfl

theorem fromTicketCache_standsIn : LoginStandsIn "ticket cache" principal path
    (simple.fromTicketCache principal path settings)
    (tools.fromTicketCache principal path settings) world := by
  refine standsIn_of_onEvidence
    (fromTicketCache_onEvidence tools principal path settings world)
    (fun _ => isFile_of_cacheRequests? tools path world) ?_
    (Simple.fromTicketCache_of_isFile principal settings) ?_
  · intro habsent login hlogin
    rcases List.mem_pair.1 hlogin with rfl | rfl
    · exact Simple.fromTicketCache_of_absent principal settings habsent
    · exact requireFile_of_absent habsent
  · intro hnamed outputs identity hgrant
    rw [admission_of_ownsTicket principal path hnamed hgrant]
    simp [admission, String.isEmpty_iff, hnamed]

end KerberosTools

/-- The simple provider stands in for the Kerberos provider, whatever its tools are. -/
theorem Provider.simple_standsIn (tools : KerberosTools) :
    StandsIn simple tools.provider where
  keytab := KerberosTools.fromKeytab_standsIn tools
  ticketCache := KerberosTools.fromTicketCache_standsIn tools

end ActionLauncher
