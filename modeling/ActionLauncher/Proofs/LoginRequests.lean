import ActionLauncher.Proofs.AcquisitionOrder

namespace ActionLauncher

open Launch

theorem Launch.exists_of_map_eq_ok {α β : Type} {x : Launch α} {f : α → β} {world next : World}
    {b : β} (h : (f <$> x) world = .ok b next) : ∃ a, x world = .ok a next ∧ f a = b := by
  have hend := (ending_map f x world).symm.trans (ending_eq_of_ok h)
  have hafter := (after_map f x world).symm.trans (after_eq_of_ok h)
  cases hx : ending x world with
  | error panic => simp [hx, Except.map] at hend
  | ok a =>
      rw [hx] at hend
      exact ⟨a, hafter ▸ eq_ok_of_ending hx, Except.ok.inj hend⟩

/-- The configuration that goes with what was asked for. -/
def LoginRequest.adapt (config : Configuration) : LoginRequest → Configuration
  | ambient => config
  | keytab .. => config.forceKerberos
  | ticketCache _ cache _ => config.forceKerberos.insert Names.ticketCachePath cache.text

/-- What an acquisition with a configuration asks for. -/
def PrincipalSpec.request (spec : PrincipalSpec) (settings : LoginSettings) : LoginRequest :=
  match spec.ticketCache, spec.keytab with
  | some cache, _ => .ticketCache spec.principal cache settings
  | none, some keytab =>
      if spec.principal = "" then .ambient else .keytab spec.principal keytab settings
  | none, none => .ambient

namespace Acquirer

variable {acquirer : Acquirer} {spec : PrincipalSpec} {given : Configuration}
  {config : Option Configuration} {identity : Identity} {world left : World}

theorem AsksOnce.answered {request : LoginRequest} {next : Option Configuration}
    (h : acquirer.AsksOnce spec config request next world) {found : Option Configuration}
    (hacquire : acquirer.acquire spec config world = .ok ⟨.ok identity, found⟩ left) :
    found = next ∧ acquirer.provider.answer request world = .ok (.ok identity) left := by
  obtain ⟨answer, hanswer, hresult⟩ := exists_of_map_eq_ok (h.runs.symm.trans hacquire)
  obtain ⟨hblame, rfl⟩ := Acquisition.mk.inj hresult
  refine ⟨rfl, ?_⟩
  cases answer with
  | error cause => cases hblame
  | ok other =>
      obtain rfl : other = identity := Except.ok.inj hblame
      exact hanswer

/-- An identity and its configuration come from a request: without a login the identity is the one
that was current, and with a login it is what the provider answered. -/
structure Grants (acquirer : Acquirer) (request : LoginRequest) (given : Configuration)
    (world : World) (identity : Identity) (config : Option Configuration) (left : World) :
    Prop where
  config : config = some (request.adapt given)
  inherits : request = .ambient → identity = world.current
  logsIn : request ≠ .ambient →
    acquirer.provider.answer request world = .ok (.ok identity) left

theorem AsksOnce.grants {request : LoginRequest}
    (h : acquirer.AsksOnce spec (some given) request (some (request.adapt given)) world)
    (hlogin : request ≠ .ambient)
    (hacquire : acquirer.acquire spec (some given) world = .ok ⟨.ok identity, config⟩ left) :
    acquirer.Grants request given world identity config left := by
  obtain ⟨hconfig, hanswer⟩ := h.answered hacquire
  exact ⟨hconfig, fun hambient => absurd hambient hlogin, fun _ => hanswer⟩

theorem grants_of_acquired
    (hacquire : acquirer.acquire spec (some given) world = .ok ⟨.ok identity, config⟩ left) :
    acquirer.Grants (spec.request acquirer.settings) given world identity config left := by
  cases hcache : spec.ticketCache with
  | some cache =>
      have hrequest : spec.request acquirer.settings =
          .ticketCache spec.principal cache acquirer.settings := by
        rw [PrincipalSpec.request, hcache]
      rw [hrequest]
      by_cases habsent : ∃ key, FirstAbsent acquirer.settings given key
      · obtain ⟨key, habsent⟩ := habsent
        cases (acquirer.asksNobody_of_firstAbsent hcache habsent world).result hacquire
      · rw [not_exists] at habsent
        exact (acquirer.asksOnce_of_ticketCache hcache habsent world).grants (by simp) hacquire
  | none =>
      by_cases hkeytab : spec.keytab = none ∨ spec.principal = ""
      · have hrequest : spec.request acquirer.settings = .ambient := by
          unfold PrincipalSpec.request
          rw [hcache]
          rcases hkeytab with hkeytab | hprincipal
          · rw [hkeytab]
          · cases spec.keytab <;> simp [hprincipal]
        rw [hrequest]
        cases (acquirer.asksNobody_of_noLogin (.inl hcache) hkeytab world).result hacquire
        exact ⟨rfl, fun _ => rfl, fun hlogin => absurd rfl hlogin⟩
      · rw [not_or] at hkeytab
        obtain ⟨path, hpath⟩ := Option.ne_none_iff_exists'.1 hkeytab.1
        have hrequest : spec.request acquirer.settings =
            .keytab spec.principal path acquirer.settings := by
          rw [PrincipalSpec.request, hcache, hpath]
          exact if_neg hkeytab.2
        rw [hrequest]
        exact (acquirer.asksOnce_of_keytab (.inl hcache) hpath hkeytab.2 world).grants (by simp)
          hacquire

end Acquirer

end ActionLauncher
