import ActionLauncher.Proofs.ScopeRun
import ActionLauncher.Proofs.RunStages

/-!
Two computations alongside each other.  From worlds that are related they come to ends that are
alike, in worlds that are related again; so what the relation leaves open does not matter to them.
-/

namespace ActionLauncher

namespace Launch

variable {α β γ δ ε : Type}

/-- Two ends that are alike: two values that `S` relates, or twice the same failure. -/
inductive Alike (S : α → β → Prop) : Except ε α → Except ε β → Prop
  | ok {a : α} {b : β} (h : S a b) : Alike S (.ok a) (.ok b)
  | error (e : ε) : Alike S (.error e) (.error e)

theorem alike_eq_iff {first second : Except ε α} : Alike Eq first second ↔ first = second := by
  constructor
  · rintro (h | _)
    · rw [h]
    · rfl
  · rintro rfl
    cases first with
    | ok a => exact .ok rfl
    | error e => exact .error e

theorem Alike.map {S : α → β → Prop} {T : γ → δ → Prop} {f : α → γ} {g : β → δ}
    {first : Except ε α} {second : Except ε β} (h : Alike S first second)
    (hf : ∀ a b, S a b → T (f a) (g b)) : Alike T (first.map f) (second.map g) := by
  cases h with
  | ok h => exact .ok (hf _ _ h)
  | error e => exact .error e

theorem Alike.imp {S S' : α → β → Prop} {first : Except ε α} {second : Except ε β}
    (h : Alike S first second) (hS : ∀ a b, S a b → S' a b) : Alike S' first second := by
  cases h with
  | ok h => exact .ok (hS _ _ h)
  | error e => exact .error e

/-- Started in worlds that `R` relates, the computations end alike, in worlds that `R` relates. -/
def Alongside (S : α → β → Prop) (R : World → World → Prop) (x : Launch α) (y : Launch β) :
    Prop :=
  ∀ world other, R world other →
    Alike S (ending x world) (ending y other) ∧ R (after x world) (after y other)

theorem alongside_of_ok {S : α → β → Prop} {R : World → World → Prop} {x : Launch α}
    {y : Launch β} {world other next left : World} {a : α} {b : β} (hx : x world = .ok a next)
    (hy : y other = .ok b left) (hab : S a b) (hleft : R next left) :
    Alike S (ending x world) (ending y other) ∧ R (after x world) (after y other) := by
  rw [ending_eq_of_ok hx, ending_eq_of_ok hy, after_eq_of_ok hx, after_eq_of_ok hy]
  exact ⟨.ok hab, hleft⟩

namespace Alongside

variable {S : α → β → Prop} {T : γ → δ → Prop} {R : World → World → Prop}

protected theorem pure {a : α} {b : β} (h : S a b) :
    Alongside S R (pure a) (pure b) :=
  fun _ _ hworld => ⟨.ok h, hworld⟩

protected theorem throw (panic : Panic) : Alongside S R (throw panic) (throw panic) :=
  fun _ _ hworld => ⟨.error panic, hworld⟩

protected theorem get : Alongside R R get get :=
  fun _ _ hworld => ⟨.ok hworld, hworld⟩

theorem modify {g h : World → World} (hg : ∀ world other, R world other → R (g world) (h other)) :
    Alongside Eq R (modify g : Launch Unit) (modify h) :=
  fun world other hworld => ⟨.ok rfl, hg world other hworld⟩

theorem modifyGet {g : World → α × World} {h : World → β × World}
    (hg : ∀ world other, R world other →
      S (g world).1 (h other).1 ∧ R (g world).2 (h other).2) :
    Alongside S R (modifyGet g : Launch α) (modifyGet h : Launch β) :=
  fun world other hworld => ⟨.ok (hg world other hworld).1, (hg world other hworld).2⟩

protected theorem bind {x : Launch α} {y : Launch β} {f : α → Launch γ} {g : β → Launch δ}
    (hx : Alongside S R x y) (hf : ∀ a b, S a b → Alongside T R (f a) (g b)) :
    Alongside T R (x >>= f) (y >>= g) := by
  intro world other hworld
  obtain ⟨hend, hafter⟩ := hx world other hworld
  rw [ending_bind, ending_bind, after_bind, after_bind]
  generalize ending x world = first at hend ⊢
  generalize ending y other = second at hend ⊢
  cases hend with
  | ok h => exact hf _ _ h _ _ hafter
  | error panic => exact ⟨.error panic, hafter⟩

theorem bind_eq {x y : Launch α} {f : α → Launch γ} {g : α → Launch δ}
    (hx : Alongside Eq R x y) (hf : ∀ a, Alongside T R (f a) (g a)) :
    Alongside T R (x >>= f) (y >>= g) :=
  hx.bind fun a _ h => h ▸ hf a

theorem map {x : Launch α} {y : Launch β} {f : α → γ} {g : β → δ} (hx : Alongside S R x y)
    (hf : ∀ a b, S a b → T (f a) (g b)) : Alongside T R (f <$> x) (g <$> y) := by
  intro world other hworld
  obtain ⟨hend, hafter⟩ := hx world other hworld
  rw [ending_map, ending_map, after_map, after_map]
  exact ⟨hend.map hf, hafter⟩

theorem settle {x : Launch α} {y : Launch β} (hx : Alongside S R x y) :
    Alongside (Alike S) R (settle x) (settle y) := by
  intro world other hworld
  obtain ⟨hend, hafter⟩ := hx world other hworld
  exact alongside_of_ok (settle_eq x world) (settle_eq y other) hend hafter

theorem resume {first : Except Panic α} {second : Except Panic β} (h : Alike S first second) :
    Alongside S R (resume first) (resume second) := by
  cases h with
  | ok h => exact .pure h
  | error panic => exact .throw panic

theorem foldlM {f : α → γ → Launch α} {g : β → γ → Launch β} {list : List γ}
    (hf : ∀ a b, S a b → ∀ c ∈ list, Alongside S R (f a c) (g b c)) {a : α} {b : β}
    (h : S a b) : Alongside S R (list.foldlM f a) (list.foldlM g b) := by
  induction list generalizing a b with
  | nil => exact .pure h
  | cons c rest ih =>
      rw [List.foldlM_cons, List.foldlM_cons]
      refine .bind (hf a b h c List.mem_cons_self) fun a' b' h' => ?_
      exact ih (fun a b h c hc => hf a b h c (List.mem_cons_of_mem _ hc)) h'

section Steps

variable {x : ExceptT ε Launch α} {y : ExceptT ε Launch β}

theorem run_bind {f : α → ExceptT ε Launch γ} {g : β → ExceptT ε Launch δ}
    (hx : Alongside (Alike S) R x.run y.run)
    (hf : ∀ a b, S a b → Alongside (Alike T) R (f a).run (g b).run) :
    Alongside (Alike T) R (x >>= f).run (y >>= g).run := by
  rw [ExceptT.run_bind, ExceptT.run_bind]
  refine hx.bind fun first second h => ?_
  cases h with
  | ok h => exact hf _ _ h
  | error e => exact .pure (.error e)

theorem run_pure {a : α} {b : β} (h : S a b) :
    Alongside (Alike S) R (pure a : ExceptT ε Launch α).run (pure b : ExceptT ε Launch β).run :=
  .pure (.ok h)

theorem run_throw (e : ε) :
    Alongside (Alike S) R (throw e : ExceptT ε Launch α).run (throw e : ExceptT ε Launch β).run :=
  .pure (.error e)

theorem run_lift {x : Launch α} {y : Launch β} (hx : Alongside S R x y) :
    Alongside (Alike S) R (liftM x : ExceptT ε Launch α).run
      (liftM y : ExceptT ε Launch β).run :=
  hx.map fun _ _ => .ok

end Steps

end Alongside

end Launch

open Launch

/-- The relation is kept by what the launcher itself logs, publishes and moves, and it leaves the
stages alone. -/
structure Companion (R : World → World → Prop) : Prop where
  stages : ∀ {world other : World}, R world other → other.stages = world.stages
  logs : ∀ {world other : World} (level : Level) (message : String)
    (fields : List (String × String)), R world other →
      R (after (log level message fields) world) (after (log level message fields) other)
  tells : ∀ {world other : World} (announce : Bool) (event : Event), R world other →
    R (world.published announce event) (other.published announce event)
  moves : ∀ {world other : World} (announce : Bool) (target : Stage), R world other →
    R (world.moved announce target) (other.moved announce target)

namespace Companion

variable {R : World → World → Prop} (hR : Companion R)

include hR

theorem log (level : Level) (message : String) (fields : List (String × String)) :
    Alongside Eq R (Launch.log level message fields) (Launch.log level message fields) :=
  fun _ _ h => ⟨.ok rfl, hR.logs level message fields h⟩

theorem publish (announce : Bool) (event : Event) :
    Alongside Eq R (publish announce event) (publish announce event) := by
  intro world other h
  exact alongside_of_ok (publish_eq announce event world) (publish_eq announce event other) rfl
    (hR.tells announce event h)

end Companion

namespace World

/-- The same world but for the files, which `F` relates. -/
def Beside (F : FileTree → FileTree → Prop) (world other : World) : Prop :=
  ∃ files, F world.files files ∧ other = { world with files := files }

theorem beside_companion (F : FileTree → FileTree → Prop) : Companion (Beside F) where
  stages := by
    rintro world _ ⟨files, hfiles, rfl⟩
    rfl
  logs := by
    rintro world _ level message fields ⟨files, hfiles, rfl⟩
    exact ⟨files, hfiles, rfl⟩
  tells := by
    rintro world _ announce event ⟨files, hfiles, rfl⟩
    exact ⟨files, hfiles, rfl⟩
  moves := by
    rintro world _ announce target ⟨files, hfiles, rfl⟩
    exact ⟨files, hfiles, rfl⟩

end World

variable {α β : Type} {S : α → β → Prop} {F : FileTree → FileTree → Prop}

theorem Launch.asGuest_alongside {x : Launch α} {y : Launch β}
    (hx : Alongside S (World.Beside F) x y) (identity : Identity) :
    Alongside S (World.Beside F) (asGuest identity x) (asGuest identity y) := by
  rintro world _ ⟨files, hfiles, rfl⟩
  obtain ⟨hend, left, hleft, hafter⟩ :=
    hx { world with guest := some identity } _ ⟨files, hfiles, rfl⟩
  rw [ending_asGuest, ending_asGuest, after_asGuest, after_asGuest]
  refine ⟨hend, left, hleft, ?_⟩
  rw [hafter]

namespace Session

theorem start_alongside (announce : Bool) :
    Alongside Eq (World.Beside F) (start announce) (start announce) := by
  rintro world _ ⟨files, hfiles, rfl⟩
  exact ⟨.ok rfl, files, hfiles, rfl⟩

theorem login_alongside (session : Session) (identity : Identity) :
    Alongside Eq (World.Beside F) (session.login identity) (session.login identity) := by
  unfold login
  split
  · exact .bind_eq ((World.beside_companion F).log _ _ _) fun _ => .pure rfl
  · have hswap : Alongside Eq (World.Beside F) (swapLogin identity) (swapLogin identity) :=
      .modifyGet fun world other ⟨files, hfiles, h⟩ => by
        subst h
        exact ⟨rfl, files, hfiles, rfl⟩
    exact .bind_eq hswap fun previous =>
      .bind_eq ((World.beside_companion F).publish _ _) fun _ => .pure rfl

theorem logout_alongside (session : Session) :
    Alongside Eq (World.Beside F) session.logout session.logout := by
  unfold logout
  split
  · have hswap : Alongside Eq (World.Beside F) (discard (swapLogin session.initial))
        (discard (swapLogin session.initial)) := by
      rintro world _ ⟨files, hfiles, rfl⟩
      exact ⟨.ok rfl, files, hfiles, rfl⟩
    exact .bind_eq hswap fun _ =>
      .bind_eq ((World.beside_companion F).publish _ _) fun _ => .pure rfl
  · exact .pure rfl

theorem finish_alongside (session : Session) :
    Alongside Eq (World.Beside F) session.finish session.finish := by
  unfold finish
  split
  · exact .bind_eq ((World.beside_companion F).log _ _ _) fun _ =>
      session.logout_alongside.map fun _ _ _ => rfl
  · exact .pure rfl

theorem guard_alongside (session : Session) {x : Launch α} {y : Launch β}
    (hx : Alongside S (World.Beside F) x y) :
    Alongside S (World.Beside F) (session.guard x) (session.guard y) := by
  refine .bind hx.settle fun first second hended => ?_
  cases hended with
  | ok h => exact .pure h
  | error panic => exact .bind_eq session.finish_alongside fun _ => .throw panic

end Session

/-- Nothing that a provider does depends on what `F` leaves open of the files. -/
abbrev Provider.Overlooks (F : FileTree → FileTree → Prop) (provider : Provider) : Prop :=
  provider.Obeys fun x => Alongside Eq (World.Beside F) x x

namespace Acquirer

variable (acquirer : Acquirer) (hprovider : acquirer.provider.Overlooks F)

theorem fallBack_alongside (spec : PrincipalSpec) (config : Option Configuration) :
    Alongside Eq (World.Beside F) (fallBack spec config) (fallBack spec config) := by
  have hcurrent : Alongside Eq (World.Beside F)
      (do return ⟨.ok (← get).current, config⟩ : Launch Acquisition)
      (do return ⟨.ok (← get).current, config⟩ : Launch Acquisition) := by
    refine .bind .get ?_
    rintro world _ ⟨files, hfiles, rfl⟩
    exact .pure rfl
  have hwarned := Alongside.bind_eq ((World.beside_companion F).log .warn
    "Ticket cache or keytab must be provided. Falling back to the current identity" [])
    fun _ => hcurrent
  unfold fallBack
  dsimp only
  split
  · exact .bind_eq ((World.beside_companion F).log _ _ _) fun _ => hwarned
  · exact hwarned

include hprovider

theorem acquire_alongside (spec : PrincipalSpec) (config : Option Configuration) :
    Alongside Eq (World.Beside F) (acquirer.acquire spec config)
      (acquirer.acquire spec config) := by
  unfold acquire
  split
  · unfold fromTicketCache
    split
    · exact .pure rfl
    · exact .bind_eq (hprovider.fromTicketCache _ _ _) fun _ => .pure rfl
  · split
    · split
      · exact fallBack_alongside _ _
      · exact .bind_eq (hprovider.fromKeytab _ _ _) fun _ => .pure rfl
    · exact fallBack_alongside _ _

theorem release_alongside (identity : Identity) :
    Alongside Eq (World.Beside F) (acquirer.release identity) (acquirer.release identity) := by
  refine .bind_eq (hprovider.release identity) fun released => ?_
  cases released with
  | ok _ => exact .pure rfl
  | error _ => exact (World.beside_companion F).log _ _ _

end Acquirer

namespace Scope

variable (scope : Scope) (hprovider : scope.acquirer.provider.Overlooks F)

theorem resume_alongside {first : Except Panic α} {second : Except Panic β}
    (h : Alike S first second) :
    Alongside S (World.Beside F) (Scope.resume first) (Scope.resume second) := by
  unfold Scope.resume
  cases h with
  | ok h => exact .pure h
  | error panic =>
      exact .bind_eq ((World.beside_companion F).log _ _ _) fun _ => .throw panic

include hprovider

theorem release_alongside (identity inherited : Identity) :
    Alongside Eq (World.Beside F) (scope.release identity inherited)
      (scope.release identity inherited) := by
  unfold release
  split
  · exact .pure rfl
  · exact scope.acquirer.release_alongside hprovider identity

theorem runAsGuest_alongside {call : Launch (Launch α)} {twin : Launch (Launch β)}
    (hcall : Alongside (Alongside S (World.Beside F)) (World.Beside F) call twin)
    (identity inherited : Identity) :
    Alongside S (World.Beside F) (scope.runAsGuest identity inherited call)
      (scope.runAsGuest identity inherited twin) :=
  .bind hcall fun _ _ hx => .bind (asGuest_alongside hx identity).settle fun _ _ hended =>
    .bind_eq (scope.release_alongside hprovider _ _) fun _ => resume_alongside hended

theorem runLoggedIn_alongside {call : Launch (Launch α)} {twin : Launch (Launch β)}
    (hcall : Alongside (Alongside S (World.Beside F)) (World.Beside F) call twin)
    (session : Session) (identity inherited : Identity) :
    Alongside S (World.Beside F) (scope.runLoggedIn session identity inherited call)
      (scope.runLoggedIn session identity inherited twin) := by
  refine .bind_eq (session.login_alongside identity) fun answer => ?_
  refine .bind (answer.2.guard_alongside hcall) fun _ _ hx => ?_
  refine .bind hx.settle fun _ _ hended => ?_
  refine .bind_eq (answer.2.logout_alongside.map fun _ _ _ => rfl) fun _ => ?_
  exact .bind_eq (scope.release_alongside hprovider _ _) fun _ => resume_alongside hended

theorem enter_alongside (spec : PrincipalSpec) (config : Configuration)
    {body : Identity → Configuration → Launch (Launch α)}
    {twin : Identity → Configuration → Launch (Launch β)}
    (hbody : ∀ identity config, Alongside (Alongside S (World.Beside F)) (World.Beside F)
      (body identity config) (twin identity config)) :
    Alongside (Alike S) (World.Beside F) (scope.enter spec config body)
      (scope.enter spec config twin) := by
  refine .bind .get ?_
  rintro world _ ⟨files, hfiles, rfl⟩
  refine .bind_eq (Session.start_alongside _) fun session => ?_
  refine .bind_eq (scope.acquirer.acquire_alongside hprovider spec (some config)) ?_
  rintro ⟨cause | identity, next⟩
  · exact .pure (.error cause)
  · have hbody := hbody identity (next.getD config)
    dsimp only
    cases scope.method with
    | impersonation =>
        exact .bind (scope.runAsGuest_alongside hprovider hbody _ _) fun _ _ h => .pure (.ok h)
    | login =>
        exact .bind (scope.runLoggedIn_alongside hprovider hbody _ _ _) fun _ _ h =>
          .pure (.ok h)

theorem run_alongside (spec : PrincipalSpec) (config : Configuration)
    {body : Identity → Configuration → Launch α} {twin : Identity → Configuration → Launch β}
    (hbody : ∀ identity config,
      Alongside S (World.Beside F) (body identity config) (twin identity config)) :
    Alongside (Alike S) (World.Beside F) (scope.run spec config body)
      (scope.run spec config twin) :=
  scope.enter_alongside hprovider spec config fun identity config => .pure (hbody identity config)

end Scope

end ActionLauncher
