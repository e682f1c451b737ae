import ActionLauncher.Proofs.RunStages

namespace ActionLauncher

open Launch

/-- Whatever the computation returns without an error has the property `P`. -/
def Gives {α ε : Type} (P : α → Prop) (x : ExceptT ε Launch α) : Prop :=
  Yields (fun result => ∀ a, result = .ok a → P a) x.run

namespace Gives

variable {α β ε : Type} {P : α → Prop} {Q : β → Prop}

protected theorem pure {a : α} (h : P a) : Gives P (pure a : ExceptT ε Launch α) :=
  Yields.pure fun _ hb => Except.ok.inj hb ▸ h

theorem lift {x : Launch α} (h : Yields P x) : Gives P (liftM x : ExceptT ε Launch α) :=
  h.bind fun _ ha => Yields.pure fun _ hb => Except.ok.inj hb ▸ ha

protected theorem bind {x : ExceptT ε Launch α} {f : α → ExceptT ε Launch β} (hx : Gives P x)
    (hf : ∀ a, P a → Gives Q (f a)) : Gives Q (x >>= f) := by
  unfold Gives
  rw [ExceptT.run_bind]
  refine Yields.bind hx fun result hresult => ?_
  cases result with
  | ok a => exact hf a (hresult a rfl)
  | error e => exact Yields.pure fun _ hb => nomatch hb

theorem bind_right {x : ExceptT ε Launch α} {f : α → ExceptT ε Launch β}
    (hf : ∀ a, Gives Q (f a)) : Gives Q (x >>= f) :=
  Gives.bind (P := fun _ => True) (fun _ _ _ _ _ => trivial) fun a _ => hf a

end Gives

namespace Propagator

/-- The properties with the location of the tokens, if there is one. -/
def hand (propagator : Propagator) (props : Properties) : Properties :=
  match propagator.location? with
  | none => props
  | some location =>
      Names.credentialKeys.foldl (fun props key => props.insert key location) props

theorem exportProperty_yields (props : Properties) (key value : String) :
    Yields (· = props.insert key value) (exportProperty props key value) := by
  unfold exportProperty
  dsimp only
  split
  · exact fun _ _ h => nomatch h
  · exact .bind_right fun _ => .pure rfl

theorem propagate_yields (propagator : Propagator) (props : Properties)
    (config : Configuration) :
    Yields (fun found => found.2.1 = propagator.hand props)
      (propagator.propagate props config) := by
  have hfold (location : String) (keys : List String) (props : Properties) :
      Yields (· = keys.foldl (fun props key => props.insert key location) props)
        (keys.foldlM (fun props key => exportProperty props key location) props) := by
    induction keys generalizing props with
    | nil => exact .pure rfl
    | cons key rest ih =>
        rw [List.foldlM_cons]
        exact (exportProperty_yields props key location).bind fun _ h => h ▸ ih _
  unfold propagate hand
  cases propagator.location? with
  | none => exact .pure rfl
  | some location => exact (hfold location _ _).bind fun _ h => .pure h

theorem propagate_panics {propagator : Propagator}
    (h : ∃ path ∈ propagator.tokenFile, '\x00' ∈ path.display.toList) (props : Properties)
    (config : Configuration) (world : World) :
    ∃ panic, propagator.propagate props config world = .error panic world := by
  obtain ⟨path, hpath, hnul⟩ := h
  have hlocation : propagator.location? = some path.display := by
    rw [location?, Option.mem_def.1 hpath, Option.map_some]
  have hfault (name : String) : variableFault? name path.display = some .nulInPath := by
    have hcontains : path.display.toList.contains '\x00' = true := by simpa using hnul
    unfold variableFault?
    rw [hcontains, Bool.or_true, if_pos rfl]
  have hexport (props : Properties) (key : String) :
      ∃ panic, exportProperty props key path.display world = .error panic world := by
    unfold exportProperty
    rw [hfault]
    exact ⟨_, rfl⟩
  unfold propagate
  rw [hlocation, Names.credentialKeys]
  obtain ⟨panic, hpanic⟩ := hexport props Names.jobCredentials
  refine ⟨panic, bind_of_panic ?_ _⟩
  rw [List.foldlM_cons]
  exact bind_of_panic hpanic _

end Propagator

namespace Runner

/-- The properties that the runs of an action work with: the runner's own, with the location of the
tokens and the action's choice of tracing. -/
def ownProperties (runner : Runner) (action : Action) : Properties :=
  withDebug (runner.propagator.hand runner.properties) action

variable (runner : Runner) (action : Action) (base : Configuration)

theorem prepare_properties :
    Gives (fun plan => plan.properties = runner.ownProperties action)
      (runner.prepare action base) := by
  have hplan (props : Properties) (config : Configuration)
      (hprops : props = runner.ownProperties action) :
      Gives (fun plan => plan.properties = runner.ownProperties action) (do
        reach runner.announce .credentialsPropagated
        let method ← (method props : Launch _)
        return ⟨props, config, method⟩ : ExceptT ActionError Launch Plan) :=
    .bind_right fun _ => .bind_right fun _ => .pure hprops
  unfold prepare
  refine .bind_right fun world => .bind_right fun _ => .bind_right fun _ => ?_
  refine (Gives.lift (Propagator.propagate_yields _ _ _)).bind fun found hfound => ?_
  obtain ⟨location, props, config⟩ := found
  have hprops : withDebug props action = runner.ownProperties action :=
    congrArg (withDebug · action) hfound
  cases location with
  | none => exact hplan _ _ hprops
  | some location => exact .bind_right fun _ => hplan _ _ hprops

theorem prepare_panics (h : ∃ path ∈ runner.propagator.tokenFile, '\x00' ∈ path.display.toList)
    {world : World} {run : Uuid} {events : List Event} (hat : world.At run .init events) :
    ∃ panic left, (runner.prepare action base).run world = .error panic left ∧
      left.At run .configResolved
        (events ++ World.told runner.announce (.moved run .init .configResolved)) := by
  obtain ⟨warned, hwarned, hsame⟩ := warnings_return
    (runner.resolver.resolve world.files base runner.properties.confDir?).warnings world
  have hinit := hat.of_standing hsame
  obtain ⟨panic, hpanic⟩ := Propagator.propagate_panics h runner.properties
    (runner.resolver.resolve world.files base runner.properties.confDir?).config
    (warned.moved runner.announce .configResolved)
  refine ⟨panic, _, ?_, hinit.moved runner.announce .configResolved⟩
  unfold prepare
  rw [run_get_bind]
  dsimp only
  rw [run_bind_of_ok hwarned, run_bind_of_ok (reach_eq (by rw [hinit.stage]; rfl))]
  exact run_lift_bind_of_panic hpanic _

/-- What a run tells of on the way to acquiring its identity. -/
def preparing (runner : Runner) (run : Uuid) : List Event :=
  World.told runner.announce (.moved run .init .configResolved) ++
    ((runner.propagator.location?.toList.flatMap fun location =>
      World.told runner.announce (.credentialsPropagated location)) ++
    World.told runner.announce (.moved run .configResolved .credentialsPropagated))

theorem prepare_cases {world : World} {run : Uuid} {events : List Event}
    (hat : world.At run .init events) :
    (∃ plan prepared, (runner.prepare action base).run world = .ok (.ok plan) prepared ∧
      Same World.registry world prepared ∧
      prepared.At run .credentialsPropagated (events ++ runner.preparing run)) ∨
    ∃ panic left, (runner.prepare action base).run world = .error panic left ∧
      left.At run .configResolved
        (events ++ World.told runner.announce (.moved run .init .configResolved)) := by
  by_cases h : ∃ path ∈ runner.propagator.tokenFile, '\x00' ∈ path.display.toList
  · exact .inr (runner.prepare_panics action base h hat)
  · have hfree : ∀ path ∈ runner.propagator.tokenFile, '\x00' ∉ path.display.toList :=
      fun path hpath hnul => h ⟨path, hpath, hnul⟩
    obtain ⟨plan, prepared, hprepare, hsame, hprepared⟩ :=
      runner.prepare_returns action base hfree hat
    rw [List.append_assoc, List.append_assoc] at hprepared
    exact .inl ⟨plan, prepared, hprepare, hsame, hprepared⟩

end Runner

end ActionLauncher
