import ActionLauncher.Proofs.AcquisitionOrder
import Mathlib.Algebra.GroupWithZero.Nat

namespace ActionLauncher

open Launch

namespace Provider

theorem journal_discipline : Discipline (Returns (Same World.journal)) :=
  .returns fun _ _ _ => .modify fun _ => rfl

theorem journal_now : Returns (Same World.journal) now :=
  .modifyGet fun _ => rfl

theorem journal_spawn (program : Path) (args : List String) (additions : List (String × String)) :
    Returns (Same World.journal) (spawn program args additions) := by
  apply spawn_obeys journal_discipline
  intro tool environment
  apply callTool_obeys journal_discipline
  intro change h
  apply Returns.modify
  intro world
  obtain ⟨calls, files, hchange⟩ := h world
  rw [Same, hchange]

theorem builtIn_keepsJournal {provider : Provider}
    (h : provider = .simple ∨ ∃ tools : KerberosTools, provider = tools.provider) :
    provider.Obeys (Returns (Same World.journal)) := by
  rcases h with rfl | ⟨tools, rfl⟩
  · exact simple_obeys_of_now journal_discipline journal_now
  · exact KerberosTools.obeys_of_spawn journal_discipline journal_now (.modifyGet fun _ => rfl)
      journal_spawn (fun _ => .modify fun _ => rfl) tools

end Provider

namespace Acquirer

/-- The overlap that goes with what an acquisition asks of whatever provider it has. -/
inductive Calls (settings : LoginSettings) (spec : PrincipalSpec)
    (config : Option Configuration) : Overlap → Prop
  | noLogin (h : ∀ (provider : Provider) (world : World), ∃ acquisition,
      (Acquirer.mk provider settings).AsksNobody spec config acquisition world) :
      Calls settings spec config .noLogin
  | oneAtATime {path : Path} {next : Option Configuration}
      (h : ∀ (provider : Provider) (world : World), (Acquirer.mk provider settings).AsksOnce
        spec config (.keytab spec.principal path settings) next world) :
      Calls settings spec config .oneAtATime
  | together {cache : Path} {next : Option Configuration}
      (h : ∀ (provider : Provider) (world : World), (Acquirer.mk provider settings).AsksOnce
        spec config (.ticketCache spec.principal cache settings) next world) :
      Calls settings spec config .together

section

variable {settings : LoginSettings} {spec : PrincipalSpec} {cache : Path} {given : Configuration}
  {config : Option Configuration}

theorem overlap_of_ticketCache (hcache : spec.ticketCache = some cache) :
    overlap settings spec (some given) =
      if (missing? settings given).isSome then .noLogin else .together := by
  unfold overlap
  rw [hcache]

theorem overlap_of_noCache (h : spec.ticketCache = none ∨ config = none) :
    overlap settings spec config =
      if spec.keytab.isNone || spec.principal.isEmpty then .noLogin else .oneAtATime := by
  unfold overlap
  rcases h with h | rfl
  · rw [h]
  · cases spec.ticketCache <;> rfl

end

theorem calls_overlap (settings : LoginSettings) (spec : PrincipalSpec)
    (config : Option Configuration) :
    Calls settings spec config (overlap settings spec config) := by
  by_cases hcache : spec.ticketCache = none ∨ config = none
  · rw [overlap_of_noCache hcache]
    by_cases hkeytab : spec.keytab = none ∨ spec.principal = ""
    · rw [if_pos (by simpa using hkeytab)]
      exact .noLogin fun _ world => ⟨_, asksNobody_of_noLogin _ hcache hkeytab world⟩
    · rw [if_neg (by simpa using hkeytab)]
      simp only [not_or] at hkeytab
      obtain ⟨path, hpath⟩ := Option.ne_none_iff_exists'.1 hkeytab.1
      exact .oneAtATime fun _ world => asksOnce_of_keytab _ hcache hpath hkeytab.2 world
  · simp only [not_or] at hcache
    obtain ⟨cache, hsome⟩ := Option.ne_none_iff_exists'.1 hcache.1
    obtain ⟨given, rfl⟩ := Option.ne_none_iff_exists'.1 hcache.2
    rw [overlap_of_ticketCache hsome]
    cases habsent : missing? settings given with
    | some key =>
        rw [missing?_eq_some_iff] at habsent
        exact .noLogin fun provider world =>
          ⟨_, asksNobody_of_firstAbsent ⟨provider, settings⟩ hsome habsent world⟩
    | none =>
        rw [missing?_eq_none_iff] at habsent
        exact .together fun provider world =>
          asksOnce_of_ticketCache ⟨provider, settings⟩ hsome habsent world

namespace Overlap

theorem sum_rounds (overlap : Overlap) (count : Nat) :
    (overlap.rounds count).sum = count * (overlap.rounds 1).sum := by
  cases overlap with
  | noLogin => simp [rounds]
  | oneAtATime => simp [rounds]
  | together =>
      by_cases hcount : count = 0
      · simp [rounds, hcount]
      · simp [rounds, hcount]

theorem eq_together_of_mem_rounds {overlap : Overlap} {count running : Nat}
    (h : running ∈ overlap.rounds count) (hrunning : 1 < running) : overlap = .together := by
  cases overlap with
  | noLogin => cases h
  | oneAtATime =>
      have hone : running = 1 := List.eq_of_mem_replicate h
      omega
  | together => rfl

end Overlap

/-- Calls with one request, written down one after another. -/
def WritesDown (number : Nat) (request : LoginRequest) (world next : World) : Prop :=
  next.journal = world.journal ++ List.replicate number (.asked request)

theorem WritesDown.trans {first second : Nat} {request : LoginRequest}
    {world middle next : World} (hfirst : WritesDown first request world middle)
    (hsecond : WritesDown second request middle next) :
    WritesDown (first + second) request world next := by
  unfold WritesDown at *
  rw [hsecond, hfirst, List.append_assoc, List.replicate_append_replicate]

variable {provider : Provider} {settings : LoginSettings} {spec : PrincipalSpec}
  {config : Option Configuration}

theorem returns_noting_acquire_of_asksOnce {request : LoginRequest}
    {next : Option Configuration}
    (h : ∀ (provider : Provider) (world : World),
      (Acquirer.mk provider settings).AsksOnce spec config request next world)
    (hquiet : Returns (Same World.journal) (provider.answer request)) :
    Returns (WritesDown 1 request)
      ((Acquirer.mk provider settings).noting.acquire spec config) := by
  intro world
  obtain ⟨⟨answer, hanswer⟩, -⟩ :=
    hquiet { world with journal := world.journal ++ [.asked request] }
  have hask : ending (provider.noting.answer request) world = .ok answer := by
    cases request <;> exact hanswer
  constructor
  · rw [noting, ending_congr (h provider.noting world).runs, ending_map]
    exact ⟨_, congrArg _ hask⟩
  · exact (h provider world).noted hquiet.respects

theorem exists_returns_noting_acquire
    (hquiet : provider.Obeys (Returns (Same World.journal))) (settings : LoginSettings)
    (spec : PrincipalSpec) (config : Option Configuration) :
    ∃ request, Returns (WritesDown ((overlap settings spec config).rounds 1).sum request)
      ((Acquirer.mk provider settings).noting.acquire spec config) := by
  have hcalls := calls_overlap settings spec config
  generalize overlap settings spec config = way at hcalls ⊢
  cases hcalls with
  | noLogin h =>
      refine ⟨.ambient, fun world => ?_⟩
      obtain ⟨acquisition, hnobody⟩ := h provider.noting world
      obtain ⟨records, hruns⟩ := hnobody.runs
      refine ⟨⟨acquisition, ending_eq_of_ok hruns⟩, ?_⟩
      show (after (acquire ⟨provider.noting, settings⟩ spec config) world).journal = _
      rw [after_eq_of_ok hruns]
      exact (List.append_nil _).symm
  | oneAtATime h => exact ⟨_, returns_noting_acquire_of_asksOnce h (hquiet.answer _)⟩
  | together h => exact ⟨_, returns_noting_acquire_of_asksOnce h (hquiet.answer _)⟩

theorem returns_mapM_of_writesDown {number : Nat} {request : LoginRequest}
    {x : Launch Acquisition} (h : Returns (WritesDown number request) x) {β : Type}
    (list : List β) :
    Returns (WritesDown (list.length * number) request) (list.mapM fun _ => x) := by
  induction list with
  | nil =>
      intro world
      refine ⟨⟨[], rfl⟩, ?_⟩
      rw [List.mapM_nil, List.length_nil, Nat.zero_mul]
      exact (List.append_nil _).symm
  | cons head tail ih =>
      intro world
      obtain ⟨⟨acquisition, hfirst⟩, hwritten⟩ := h world
      obtain ⟨⟨others, hrest⟩, hlast⟩ := ih (after x world)
      rw [List.mapM_cons, ending_bind_of_ok hfirst, after_bind_of_ok hfirst,
        ending_bind_of_ok hrest, after_bind_of_ok hrest]
      refine ⟨⟨acquisition :: others, rfl⟩, ?_⟩
      rw [List.length_cons, Nat.add_mul, Nat.one_mul, Nat.add_comm]
      exact hwritten.trans hlast

/-- A number of acquisitions call the provider as often as the rounds of their overlap have
logins under way, each time with the same request. -/
theorem acquisitions_writeDown_rounds
    (hprovider : provider = .simple ∨ ∃ tools : KerberosTools, provider = tools.provider)
    (settings : LoginSettings) (spec : PrincipalSpec) (config : Option Configuration) :
    ∃ request, ∀ count, Returns
      (WritesDown ((overlap settings spec config).rounds count).sum request)
      ((List.range count).mapM fun _ =>
        (Acquirer.mk provider settings).noting.acquire spec config) := by
  obtain ⟨request, hone⟩ :=
    exists_returns_noting_acquire (Provider.builtIn_keepsJournal hprovider) settings spec config
  refine ⟨request, fun count => ?_⟩
  have hall := returns_mapM_of_writesDown hone (List.range count)
  rwa [List.length_range, ← Overlap.sum_rounds] at hall

theorem ticketCache_of_mem_rounds {count running : Nat}
    (h : running ∈ (overlap settings spec config).rounds count) (hrunning : 1 < running) :
    ∃ cache next, ∀ (provider : Provider) (world : World),
      (Acquirer.mk provider settings).AsksOnce spec config
        (.ticketCache spec.principal cache settings) next world := by
  have hcalls := calls_overlap settings spec config
  rw [Overlap.eq_together_of_mem_rounds h hrunning] at hcalls
  cases hcalls with
  | together h => exact ⟨_, _, h⟩

end Acquirer

end ActionLauncher
