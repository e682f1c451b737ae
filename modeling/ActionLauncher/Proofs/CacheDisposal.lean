import ActionLauncher.Body
import ActionLauncher.Proofs.LoginRequests
import ActionLauncher.Proofs.SparedFiles

/-!
Which scope disposes of which cache.  However scopes of one Kerberos provider nest, the one whose
keytab login made a private cache removes it once its body is over, unless the call of the body
panicked, and no other removes any file that was there when it began.
-/

namespace ActionLauncher

open Launch

/-- The scope that is entered so, under a Kerberos provider. -/
def Entry.scope (entry : Entry) (tools : KerberosTools) (settings : LoginSettings) : Scope :=
  ⟨⟨tools.provider, settings⟩, entry.method, !entry.silent⟩

/-- What a body does in order: anything at all, panics included, and scopes with bodies of their
own, each in two parts, its call and what the call returns.  It sees how each scope ended and goes
on. -/
inductive Nesting : Type → Type 1
  | value {α : Type} (a : α) : Nesting α
  | act {α β : Type} (x : Launch β) (next : β → Nesting α) : Nesting α
  | enter {α β γ : Type} (settings : LoginSettings) (entry : Entry)
      (call : Identity → Configuration → Nesting γ)
      (inner : Identity → Configuration → γ → Nesting β)
      (next : Except Panic (Except SecurityError β) → Nesting α) : Nesting α

def Nesting.run {α : Type} (tools : KerberosTools) : Nesting α → Launch α
  | value a => pure a
  | act x next => do (next (← x)).run tools
  | enter settings entry call inner next => do
      let ending ← settle ((entry.scope tools settings).enter entry.spec entry.config
        fun identity config =>
          (fun c => (inner identity config c).run tools) <$> (call identity config).run tools)
      (next ending).run tools

/-- A scope with its body, and the world in which it is entered. -/
structure Occasion where
  {β γ : Type}
  settings : LoginSettings
  entry : Entry
  call : Identity → Configuration → Nesting γ
  inner : Identity → Configuration → γ → Nesting β
  start : World

namespace Occasion

variable (tools : KerberosTools) (occasion : Occasion)

def scope : Scope :=
  occasion.entry.scope tools occasion.settings

def request : LoginRequest :=
  occasion.entry.spec.request occasion.settings

def acquire : Launch Acquisition :=
  (occasion.scope tools).acquirer.acquire occasion.entry.spec (some occasion.entry.config)

def Acquires (identity : Identity) (config : Option Configuration) (acquired : World) : Prop :=
  occasion.acquire tools occasion.start = .ok ⟨.ok identity, config⟩ acquired

/-- The call of the body with what was acquired. -/
def calling (identity : Identity) (config : Option Configuration) : Nesting occasion.γ :=
  occasion.call identity (config.getD occasion.entry.config)

def body (identity : Identity) (config : Option Configuration) (c : occasion.γ) :
    Nesting occasion.β :=
  occasion.inner identity (config.getD occasion.entry.config) c

def entered (identity : Identity) (acquired : World) : World :=
  (occasion.scope tools).entered identity acquired

def bound (identity : Identity) (called : World) : World :=
  (occasion.scope tools).bound identity called

def CallReturns (identity : Identity) (config : Option Configuration) (acquired : World)
    (c : occasion.γ) (called : World) : Prop :=
  (occasion.calling identity config).run tools (occasion.entered tools identity acquired) =
    .ok c called

def CallPanics (identity : Identity) (config : Option Configuration) (acquired : World) : Prop :=
  ∃ panic called, (occasion.calling identity config).run tools
    (occasion.entered tools identity acquired) = .error panic called

/-- The world that the body leaves, with all the scopes that it entered: at the panic of its call,
or else at the end of what the call returned. -/
def left (identity : Identity) (config : Option Configuration) (acquired : World) : World :=
  match (occasion.calling identity config).run tools (occasion.entered tools identity acquired) with
  | .ok c called =>
      after ((occasion.body identity config c).run tools) (occasion.bound tools identity called)
  | .error _ called => called

def stop : World :=
  after ((occasion.scope tools).enter occasion.entry.spec occasion.entry.config
    fun identity config =>
      (fun c => (occasion.inner identity config c).run tools) <$>
        (occasion.call identity config).run tools) occasion.start

/-- How the scope ends, for what follows it. -/
def verdict : Except Panic (Except SecurityError occasion.β) :=
  ending ((occasion.scope tools).enter occasion.entry.spec occasion.entry.config
    fun identity config =>
      (fun c => (occasion.inner identity config c).run tools) <$>
        (occasion.call identity config).run tools) occasion.start

/-- A keytab login would make a new cache: no file has its name, and the identity that is current
has another cache. -/
def Fresh : Prop :=
  ∀ principal keytab settings, occasion.request = .keytab principal keytab settings →
    occasion.start.files.Unused (KerberosTools.privateName principal occasion.start.nextId) ∧
      Path.sameOption (some (tools.privateCache principal occasion.start.nextId))
        occasion.start.current.cache = false

end Occasion

namespace Nesting

/-- Running the tree in a world comes to enter the scope. -/
inductive Enters (tools : KerberosTools) : {α : Type} → Nesting α → World → Occasion → Prop
  | act {α β : Type} {x : Launch β} {next : β → Nesting α} {b : β} {world : World}
      {occasion : Occasion} (hx : ending x world = .ok b)
      (h : (next b).Enters tools (after x world) occasion) :
      (act x next).Enters tools world occasion
  | here {α β γ : Type} {settings : LoginSettings} {entry : Entry}
      {call : Identity → Configuration → Nesting γ}
      {inner : Identity → Configuration → γ → Nesting β}
      {next : Except Panic (Except SecurityError β) → Nesting α} {world : World} :
      (enter settings entry call inner next).Enters tools world
        ⟨settings, entry, call, inner, world⟩
  | call {α β γ : Type} {settings : LoginSettings} {entry : Entry}
      {call : Identity → Configuration → Nesting γ}
      {inner : Identity → Configuration → γ → Nesting β}
      {next : Except Panic (Except SecurityError β) → Nesting α} {world acquired : World}
      {identity : Identity} {config : Option Configuration} {occasion : Occasion}
      (hacquires : Occasion.Acquires tools ⟨settings, entry, call, inner, world⟩ identity config
        acquired)
      (h : (call identity (config.getD entry.config)).Enters tools
        ((entry.scope tools settings).entered identity acquired) occasion) :
      (enter settings entry call inner next).Enters tools world occasion
  | inner {α β γ : Type} {settings : LoginSettings} {entry : Entry}
      {call : Identity → Configuration → Nesting γ}
      {inner : Identity → Configuration → γ → Nesting β}
      {next : Except Panic (Except SecurityError β) → Nesting α} {world acquired called : World}
      {identity : Identity} {config : Option Configuration} {c : γ} {occasion : Occasion}
      (hacquires : Occasion.Acquires tools ⟨settings, entry, call, inner, world⟩ identity config
        acquired)
      (hreturns : Occasion.CallReturns tools ⟨settings, entry, call, inner, world⟩ identity config
        acquired c called)
      (h : (inner identity (config.getD entry.config) c).Enters tools
        ((entry.scope tools settings).bound identity called) occasion) :
      (enter settings entry call inner next).Enters tools world occasion
  | next {α β γ : Type} {settings : LoginSettings} {entry : Entry}
      {call : Identity → Configuration → Nesting γ}
      {inner : Identity → Configuration → γ → Nesting β}
      {next : Except Panic (Except SecurityError β) → Nesting α} {world : World}
      {occasion : Occasion}
      (h : (next (Occasion.verdict tools ⟨settings, entry, call, inner, world⟩)).Enters tools
        (Occasion.stop tools ⟨settings, entry, call, inner, world⟩) occasion) :
      (enter settings entry call inner next).Enters tools world occasion

/-- Running the tree in a world comes through the other world, where it starts or where something
that it does has just ended, in whatever way. -/
inductive Passes (tools : KerberosTools) : {α : Type} → Nesting α → World → World → Prop
  | here {α : Type} {tree : Nesting α} {world : World} : tree.Passes tools world world
  | acted {α β : Type} {x : Launch β} {next : β → Nesting α} {world : World} :
      (act x next).Passes tools world (after x world)
  | act {α β : Type} {x : Launch β} {next : β → Nesting α} {b : β} {world moment : World}
      (hx : ending x world = .ok b) (h : (next b).Passes tools (after x world) moment) :
      (act x next).Passes tools world moment
  | call {α β γ : Type} {settings : LoginSettings} {entry : Entry}
      {call : Identity → Configuration → Nesting γ}
      {inner : Identity → Configuration → γ → Nesting β}
      {next : Except Panic (Except SecurityError β) → Nesting α} {world acquired moment : World}
      {identity : Identity} {config : Option Configuration}
      (hacquires : Occasion.Acquires tools ⟨settings, entry, call, inner, world⟩ identity config
        acquired)
      (h : (call identity (config.getD entry.config)).Passes tools
        ((entry.scope tools settings).entered identity acquired) moment) :
      (enter settings entry call inner next).Passes tools world moment
  | inner {α β γ : Type} {settings : LoginSettings} {entry : Entry}
      {call : Identity → Configuration → Nesting γ}
      {inner : Identity → Configuration → γ → Nesting β}
      {next : Except Panic (Except SecurityError β) → Nesting α}
      {world acquired called moment : World} {identity : Identity} {config : Option Configuration}
      {c : γ}
      (hacquires : Occasion.Acquires tools ⟨settings, entry, call, inner, world⟩ identity config
        acquired)
      (hreturns : Occasion.CallReturns tools ⟨settings, entry, call, inner, world⟩ identity config
        acquired c called)
      (h : (inner identity (config.getD entry.config) c).Passes tools
        ((entry.scope tools settings).bound identity called) moment) :
      (enter settings entry call inner next).Passes tools world moment
  | next {α β γ : Type} {settings : LoginSettings} {entry : Entry}
      {call : Identity → Configuration → Nesting γ}
      {inner : Identity → Configuration → γ → Nesting β}
      {next : Except Panic (Except SecurityError β) → Nesting α} {world moment : World}
      (h : (next (Occasion.verdict tools ⟨settings, entry, call, inner, world⟩)).Passes tools
        (Occasion.stop tools ⟨settings, entry, call, inner, world⟩) moment) :
      (enter settings entry call inner next).Passes tools world moment

/-- Running the tree in a world leaves alone the file at the end of a path, apart from what its
scopes do about their caches. -/
def Sparing {α : Type} (tools : KerberosTools) (path : Path) : Nesting α → World → Prop
  | value _, _ => True
  | act x next, world =>
      Spares path world (after x world) ∧
        ∀ b, ending x world = .ok b → (next b).Sparing tools path (after x world)
  | enter settings entry call inner next, world =>
      (∀ identity config acquired,
        Occasion.Acquires tools ⟨settings, entry, call, inner, world⟩ identity config acquired →
          (call identity (config.getD entry.config)).Sparing tools path
            ((entry.scope tools settings).entered identity acquired) ∧
          ∀ c called, Occasion.CallReturns tools ⟨settings, entry, call, inner, world⟩ identity
              config acquired c called →
            (inner identity (config.getD entry.config) c).Sparing tools path
              ((entry.scope tools settings).bound identity called)) ∧
        (next (Occasion.verdict tools ⟨settings, entry, call, inner, world⟩)).Sparing tools path
          (Occasion.stop tools ⟨settings, entry, call, inner, world⟩)

variable {tools : KerberosTools} {α : Type} {tree : Nesting α} {world : World}

theorem passes_after (tree : Nesting α) (world : World) :
    tree.Passes tools world (after (tree.run tools) world) := by
  induction tree generalizing world with
  | value a => exact .here
  | act x next ih =>
      rw [run, after_bind]
      cases hx : ending x world with
      | error panic => exact .acted
      | ok b => exact .act hx (ih b _)
  | enter settings entry call inner next ihCall ihInner ihNext =>
      rw [run, after_bind_of_ok (ending_eq_of_ok (settle_eq _ world)), after_settle]
      exact .next (ihNext _ _)

end Nesting

namespace Occasion

open KerberosTools

variable {tools : KerberosTools} {occasion : Occasion} {identity : Identity}
  {config : Option Configuration} {acquired : World} {path : Path}

section Body

variable (tools occasion identity config acquired)

/-- The body of the scope comes through the other world, in its call or later. -/
def BodyPasses (moment : World) : Prop :=
  (occasion.calling identity config).Passes tools (occasion.entered tools identity acquired)
      moment ∨
    ∃ c called, occasion.CallReturns tools identity config acquired c called ∧
      (occasion.body identity config c).Passes tools (occasion.bound tools identity called) moment

/-- The body of the scope comes to enter another one, in its call or later. -/
def BodyEnters (other : Occasion) : Prop :=
  (occasion.calling identity config).Enters tools (occasion.entered tools identity acquired)
      other ∨
    ∃ c called, occasion.CallReturns tools identity config acquired c called ∧
      (occasion.body identity config c).Enters tools (occasion.bound tools identity called) other

/-- The body of the scope leaves a file alone, apart from what its scopes do. -/
def BodySpares (path : Path) : Prop :=
  (occasion.calling identity config).Sparing tools path
      (occasion.entered tools identity acquired) ∧
    ∀ c called, occasion.CallReturns tools identity config acquired c called →
      (occasion.body identity config c).Sparing tools path (occasion.bound tools identity called)

theorem bodyPasses_left :
    occasion.BodyPasses tools identity config acquired
      (occasion.left tools identity config acquired) := by
  unfold left
  cases hcall : (occasion.calling identity config).run tools
      (occasion.entered tools identity acquired) with
  | error panic called =>
      left
      have hafter : (occasion.calling identity config).Passes tools
        (occasion.entered tools identity acquired) _ := Nesting.passes_after _ _
      rwa [after_eq_of_panic hcall] at hafter
  | ok c called => exact .inr ⟨c, called, hcall, Nesting.passes_after _ _⟩

end Body

theorem files_entered (identity : Identity) (world : World) :
    (occasion.entered tools identity world).files = world.files :=
  Scope.same_entered (fun _ _ _ _ => rfl) _ identity world

theorem files_bound (identity : Identity) (world : World) :
    (occasion.bound tools identity world).files = world.files :=
  Scope.same_bound (fun _ _ _ _ => rfl) _ identity world

theorem files_outside (scope : Scope) (login : Identity) (guest : Option Identity)
    (world : World) : (scope.outside login guest world).files = world.files :=
  scope.same_outside (fun _ _ _ _ => rfl) login guest world

theorem files_abandoned (scope : Scope) (login : Identity) (world : World) :
    (scope.abandoned login world).files = world.files :=
  Scope.same_abandoned (fun _ _ _ _ => rfl) (fun _ _ => rfl) scope login world

theorem acquires_cases (h : occasion.Acquires tools identity config acquired) :
    (∃ principal keytab settings time,
      occasion.request = .keytab principal keytab settings ∧
        identity = tools.keytabIdentity principal occasion.start.nextId time) ∨
    ((∀ principal keytab settings, occasion.request ≠ .keytab principal keytab settings) ∧
      (identity = occasion.start.current ∨ identity.source ≠ .keytab)) := by
  have hgrants := Acquirer.grants_of_acquired h
  change (occasion.scope tools).acquirer.Grants occasion.request _ _ _ _ _ at hgrants
  cases hrequest : occasion.request with
  | ambient => exact .inr ⟨by simp, .inl (hgrants.inherits hrequest)⟩
  | ticketCache principal cache settings =>
      rw [hrequest] at hgrants
      have hanswer := ending_eq_of_ok (hgrants.logsIn (by simp))
      have hsource : identity.source = .ticketCache :=
        fromTicketCache_source tools principal cache settings _ _ hanswer identity rfl
      exact .inr ⟨by simp, .inr (by simp [hsource])⟩
  | keytab principal keytab settings =>
      rw [hrequest] at hgrants
      have hanswer : tools.fromKeytab principal keytab settings occasion.start =
          .ok (.ok identity) acquired := hgrants.logsIn (by simp)
      left
      rcases fromKeytab_outcome tools principal keytab settings occasion.start with
        ⟨cause, hlogin, -⟩ | ⟨kinit, -, -, houtcome⟩
      · cases hlogin.symm.trans hanswer
      · rcases houtcome with ⟨output, -, -, next, hlogin, -⟩ | ⟨spawned, cause, -, -, hlogin⟩
        · cases hlogin.symm.trans hanswer
          exact ⟨principal, keytab, settings, _, rfl, rfl⟩
        · cases hlogin.symm.trans hanswer

theorem files_stop_of_callPanics (h : occasion.Acquires tools identity config acquired)
    (hpanics : occasion.CallPanics tools identity config acquired) :
    (occasion.stop tools).files = (occasion.left tools identity config acquired).files := by
  obtain ⟨panic, called, hcall⟩ := hpanics
  have hrun := Scope.enter_of_thrown (occasion.scope tools) h
    (fun identity config =>
      (fun c => (occasion.inner identity config c).run tools) <$>
        (occasion.call identity config).run tools)
    (map_of_panic hcall _)
  rw [stop, after_eq_of_panic hrun, files_abandoned, left, hcall]

theorem files_stop {c : occasion.γ} {called : World}
    (h : occasion.Acquires tools identity config acquired)
    (hreturns : occasion.CallReturns tools identity config acquired c called) :
    (occasion.stop tools).files =
      if identity.same occasion.start.current then
        (occasion.left tools identity config acquired).files
      else (after (tools.release identity) ((occasion.scope tools).outside occasion.start.login
        called.guest (occasion.left tools identity config acquired))).files := by
  have hcall : (occasion.calling identity config).run tools
    (occasion.entered tools identity acquired) = .ok c called := hreturns
  have hrun := Scope.enter_of_returned (occasion.scope tools) h
    (fun identity config =>
      (fun c => (occasion.inner identity config c).run tools) <$>
        (occasion.call identity config).run tools)
    (map_of_ok hcall _)
  have hfinish := files_finish tools (occasion.scope tools) rfl identity occasion.start.current
    (ending ((occasion.body identity config c).run tools) (occasion.bound tools identity called))
    ((occasion.scope tools).outside occasion.start.login called.guest
      (occasion.left tools identity config acquired))
  rw [files_outside] at hfinish
  rw [stop, after_congr hrun, after_map]
  rw [left, hcall] at hfinish ⊢
  exact hfinish

theorem files_stop_of_keytab {principal : String} {keytab : Path} {settings : LoginSettings}
    {c : occasion.γ} {called : World} (hfresh : occasion.Fresh tools)
    (h : occasion.Acquires tools identity config acquired)
    (hreturns : occasion.CallReturns tools identity config acquired c called)
    (hrequest : occasion.request = .keytab principal keytab settings) :
    (occasion.stop tools).files = (occasion.left tools identity config acquired).files.without
      (tools.privateCache principal occasion.start.nextId) := by
  rcases acquires_cases h with ⟨_, _, _, time, hrequest', rfl⟩ | ⟨hother, -⟩
  · cases hrequest.symm.trans hrequest'
    have hnew : (tools.keytabIdentity principal occasion.start.nextId time).same
        occasion.start.current = false :=
      Identity.same_of_otherCache (hfresh _ _ _ hrequest).2
    rw [files_stop h hreturns, hnew, if_neg (by decide), files_release, files_outside]
  · exact absurd hrequest (hother _ _ _)

theorem files_stop_of_other {c : occasion.γ} {called : World}
    (h : occasion.Acquires tools identity config acquired)
    (hreturns : occasion.CallReturns tools identity config acquired c called)
    (hother : ∀ principal keytab settings,
      occasion.request ≠ .keytab principal keytab settings) :
    (occasion.stop tools).files = (occasion.left tools identity config acquired).files := by
  rcases acquires_cases h with ⟨_, _, _, _, hrequest, -⟩ | ⟨-, rfl | hsource⟩
  · exact absurd hrequest (hother _ _ _)
  · rw [files_stop h hreturns, if_pos (Identity.same_self _)]
  · rw [files_stop h hreturns, after_eq_of_ok (release_of_otherSource tools hsource _),
      files_outside, ite_self]

theorem stop_of_not_acquires
    (h : ¬ ∃ identity config acquired, occasion.Acquires tools identity config acquired) :
    occasion.stop tools = after (occasion.acquire tools) occasion.start := by
  unfold stop
  cases hresult : occasion.acquire tools occasion.start with
  | error panic next =>
      rw [after_eq_of_panic hresult]
      exact after_eq_of_panic (Scope.enter_of_panic (occasion.scope tools) hresult _)
  | ok acquisition next =>
      rcases acquisition with ⟨cause | identity, config⟩
      · rw [after_eq_of_ok hresult]
        exact after_eq_of_ok (Scope.enter_of_refused (occasion.scope tools) hresult _)
      · exact absurd ⟨identity, config, next, hresult⟩ h

theorem callReturns_or_callPanics (tools : KerberosTools) (occasion : Occasion)
    (identity : Identity) (config : Option Configuration) (acquired : World) :
    (∃ c called, occasion.CallReturns tools identity config acquired c called) ∨
      occasion.CallPanics tools identity config acquired := by
  unfold CallReturns CallPanics
  cases (occasion.calling identity config).run tools (occasion.entered tools identity acquired) with
  | ok c called => exact .inl ⟨c, called, rfl⟩
  | error panic called => exact .inr ⟨panic, called, rfl⟩

theorem acquire_spares (tools : KerberosTools) (occasion : Occasion) (path : Path) :
    Spares path occasion.start (after (occasion.acquire tools) occasion.start) :=
  tools.acquire_spares path (occasion.scope tools).acquirer rfl _ _ occasion.start

theorem entered_spares (h : occasion.Acquires tools identity config acquired) (path : Path) :
    Spares path occasion.start (occasion.entered tools identity acquired) := by
  have hacquire := occasion.acquire_spares tools path
  rw [after_eq_of_ok h] at hacquire
  exact IsTrans.trans _ _ _ hacquire (spares_of_files (files_entered _ _))

theorem cache_of_keytab {principal : String} {keytab : Path} {settings : LoginSettings}
    (h : occasion.Acquires tools identity config acquired)
    (hrequest : occasion.request = .keytab principal keytab settings) :
    identity.cache = some (tools.privateCache principal occasion.start.nextId) := by
  rcases acquires_cases h with ⟨_, _, _, time, hrequest', rfl⟩ | ⟨hother, -⟩
  · cases hrequest.symm.trans hrequest'
    rfl
  · exact absurd hrequest (hother _ _ _)

theorem bodyPasses_spares {moment : World}
    (hcall : ∀ moment, (occasion.calling identity config).Passes tools
      (occasion.entered tools identity acquired) moment →
        Spares path (occasion.entered tools identity acquired) moment)
    (hbody : ∀ c called, occasion.CallReturns tools identity config acquired c called →
      (occasion.body identity config c).Passes tools (occasion.bound tools identity called) moment →
        Spares path (occasion.bound tools identity called) moment)
    (h : occasion.BodyPasses tools identity config acquired moment) :
    Spares path (occasion.entered tools identity acquired) moment := by
  rcases h with h | ⟨c, called, hreturns, h⟩
  · exact hcall moment h
  · have hcalled := hcall _ (Nesting.passes_after _ _)
    rw [after_eq_of_ok hreturns] at hcalled
    exact IsTrans.trans _ _ _ hcalled
      (IsTrans.trans _ _ _ (spares_of_files (files_bound _ _)) (hbody c called hreturns h))

theorem stop_spares (hfresh : occasion.Fresh tools)
    (hbody : ∀ identity config acquired, occasion.Acquires tools identity config acquired →
      Spares path (occasion.entered tools identity acquired)
        (occasion.left tools identity config acquired)) :
    Spares path occasion.start (occasion.stop tools) := by
  by_cases h : ∃ identity config acquired, occasion.Acquires tools identity config acquired
  · obtain ⟨identity, config, acquired, h⟩ := h
    have hleft : Spares path occasion.start (occasion.left tools identity config acquired) :=
      IsTrans.trans _ _ _ (entered_spares h path) (hbody identity config acquired h)
    rcases callReturns_or_callPanics tools occasion identity config acquired with
      ⟨c, called, hreturns⟩ | hpanics
    · rcases acquires_cases h with ⟨principal, keytab, settings, time, hrequest, -⟩ | ⟨hother, -⟩
      · have hfiles := files_stop_of_keytab hfresh h hreturns hrequest
        constructor
        · rw [hfiles, FileTree.workingDir_without, hleft.1]
        · intro hfile
          rw [hfiles]
          exact FileTree.isFile_without (privateName_isName _ _) (hfresh _ _ _ hrequest).1 hleft.1
            hfile (hleft.2 hfile)
      · exact IsTrans.trans _ _ _ hleft
          (spares_of_files (files_stop_of_other h hreturns hother))
    · exact IsTrans.trans _ _ _ hleft (spares_of_files (files_stop_of_callPanics h hpanics))
  · rw [stop_of_not_acquires h]
    exact occasion.acquire_spares tools path

end Occasion

namespace Nesting

variable {tools : KerberosTools} {α : Type} {world moment : World} {path : Path}

theorem Enters.within {tree : Nesting α} {occasion other : Occasion} {identity : Identity}
    {config : Option Configuration} {acquired : World} (h : tree.Enters tools world occasion)
    (hacquires : occasion.Acquires tools identity config acquired)
    (hother : occasion.BodyEnters tools identity config acquired other) :
    tree.Enters tools world other := by
  induction h with
  | act hx _ ih => exact .act hx (ih hacquires hother)
  | here =>
      rcases hother with hother | ⟨c, called, hreturns, hother⟩
      · exact .call hacquires hother
      · exact .inner hacquires hreturns hother
  | call houter _ ih => exact .call houter (ih hacquires hother)
  | inner houter hreturns _ ih => exact .inner houter hreturns (ih hacquires hother)
  | next _ ih => exact .next (ih hacquires hother)

/-- A file that the bodies spare is there at every moment, whatever scopes end in between. -/
theorem Passes.spares {tree : Nesting α} (h : tree.Passes tools world moment)
    (hspares : tree.Sparing tools path world)
    (hfresh : ∀ occasion, tree.Enters tools world occasion → occasion.Fresh tools) :
    Spares path world moment := by
  induction tree generalizing world moment with
  | value a =>
      cases h with
      | here => exact Std.Refl.refl world
  | act x next ih =>
      have hx : Spares path world (after x world) := hspares.1
      cases h with
      | here => exact Std.Refl.refl world
      | acted => exact hx
      | act hend h =>
          have hrest := ih _ h (hspares.2 _ hend) fun occasion hentered =>
            hfresh occasion (.act hend hentered)
          exact IsTrans.trans _ _ _ hx hrest
  | enter settings entry call inner next ihCall ihInner ihNext =>
      let occasion : Occasion := ⟨settings, entry, call, inner, world⟩
      have hbody {identity : Identity} {config : Option Configuration} {acquired moment : World}
          (hacquires : occasion.Acquires tools identity config acquired)
          (h : occasion.BodyPasses tools identity config acquired moment) :
          Spares path (occasion.entered tools identity acquired) moment := by
        have hsparing := hspares.1 _ _ _ hacquires
        refine Occasion.bodyPasses_spares (fun moment h => ?_) (fun c called hreturns h => ?_) h
        · exact ihCall _ _ h hsparing.1 fun other hentered =>
            hfresh other (.call hacquires hentered)
        · exact ihInner _ _ c h (hsparing.2 c called hreturns) fun other hentered =>
            hfresh other (.inner hacquires hreturns hentered)
      cases h with
      | here => exact Std.Refl.refl world
      | call hacquires h =>
          exact IsTrans.trans _ _ _ (Occasion.entered_spares hacquires path)
            (hbody hacquires (.inl h))
      | inner hacquires hreturns h =>
          exact IsTrans.trans _ _ _ (Occasion.entered_spares hacquires path)
            (hbody hacquires (.inr ⟨_, _, hreturns, h⟩))
      | next h =>
          have hstop : Spares path world (occasion.stop tools) :=
            Occasion.stop_spares (hfresh occasion .here) fun _ _ _ hacquires =>
              hbody hacquires (Occasion.bodyPasses_left _ _ _ _ _)
          have hrest := ihNext _ h hspares.2 fun other hentered => hfresh other (.next hentered)
          exact IsTrans.trans _ _ _ hstop hrest

end Nesting

namespace Occasion

/-- What a scope does to the files, and when. -/
structure Disposes (tools : KerberosTools) (occasion : Occasion) : Prop where
  /-- The acquisition removes no file, and neither does a scope that ends with it. -/
  acquires : ∀ path, occasion.start.files.isFile path = true →
    (after (occasion.acquire tools) occasion.start).files.isFile path = true
  refused : (¬ ∃ identity config acquired, occasion.Acquires tools identity config acquired) →
    (occasion.stop tools).files = (after (occasion.acquire tools) occasion.start).files
  /-- After a keytab login the one file that goes at the end is the private cache. -/
  keytab : ∀ {identity config acquired c called principal keytab settings},
    occasion.Acquires tools identity config acquired →
    occasion.CallReturns tools identity config acquired c called →
    occasion.request = .keytab principal keytab settings →
      let own := tools.privateCache principal occasion.start.nextId
      identity.cache = some own ∧
        (occasion.stop tools).files =
          (occasion.left tools identity config acquired).files.without own ∧
        (occasion.stop tools).files.isFile own = false
  /-- With any other identity no file goes. -/
  other : ∀ {identity config acquired c called},
    occasion.Acquires tools identity config acquired →
    occasion.CallReturns tools identity config acquired c called →
    (∀ principal keytab settings, occasion.request ≠ .keytab principal keytab settings) →
      (occasion.stop tools).files = (occasion.left tools identity config acquired).files
  /-- A panic of the call leaves every file, the private cache too. -/
  thrown : ∀ {identity config acquired}, occasion.Acquires tools identity config acquired →
    occasion.CallPanics tools identity config acquired →
      (occasion.stop tools).files = (occasion.left tools identity config acquired).files
  /-- While the body runs its scopes remove no file that was there when it started: neither the
  cache of this scope nor one of a scope around it. -/
  during : ∀ {identity config acquired}, occasion.Acquires tools identity config acquired →
    ∀ path, occasion.BodySpares tools identity config acquired path →
      (occasion.entered tools identity acquired).files.isFile path = true →
        ∀ moment, occasion.BodyPasses tools identity config acquired moment →
          moment.files.isFile path = true
  /-- Nor does the scope as a whole. -/
  beyond : ∀ path, (∀ identity config acquired, occasion.Acquires tools identity config acquired →
      occasion.BodySpares tools identity config acquired path) →
    occasion.start.files.isFile path = true → (occasion.stop tools).files.isFile path = true

end Occasion

namespace Nesting

open KerberosTools

/-- However deep a scope is nested, it disposes of its own private cache and of no other file,
except that the panic of a call disposes of none. -/
theorem scopes_dispose (tools : KerberosTools) {α : Type} (tree : Nesting α) (world : World)
    (hfresh : ∀ occasion, tree.Enters tools world occasion → occasion.Fresh tools)
    (occasion : Occasion) (hentered : tree.Enters tools world occasion) :
    occasion.Disposes tools := by
  have hnew := hfresh occasion hentered
  have hwithin {identity : Identity} {config : Option Configuration} {acquired moment : World}
      {path : Path} (hacquires : occasion.Acquires tools identity config acquired)
      (hspares : occasion.BodySpares tools identity config acquired path)
      (hpasses : occasion.BodyPasses tools identity config acquired moment) :
      Spares path (occasion.entered tools identity acquired) moment := by
    refine Occasion.bodyPasses_spares (fun moment h => ?_) (fun c called hreturns h => ?_) hpasses
    · exact h.spares hspares.1 fun other hother =>
        hfresh other (hentered.within hacquires (.inl hother))
    · exact h.spares (hspares.2 c called hreturns) fun other hother =>
        hfresh other (hentered.within hacquires (.inr ⟨c, called, hreturns, hother⟩))
  constructor
  case acquires =>
    intro path
    exact (occasion.acquire_spares tools path).2
  case refused =>
    intro hnone
    rw [Occasion.stop_of_not_acquires hnone]
  case keytab =>
    intro identity config acquired c called principal keytab settings hacquires hreturns hrequest
      own
    have hfiles := Occasion.files_stop_of_keytab hnew hacquires hreturns hrequest
    refine ⟨Occasion.cache_of_keytab hacquires hrequest, hfiles, ?_⟩
    rw [hfiles]
    exact FileTree.isFile_without_self _ _ (KerberosTools.privateName_isName _ _)
  case other => exact Occasion.files_stop_of_other
  case thrown => exact Occasion.files_stop_of_callPanics
  case during =>
    intro identity config acquired hacquires path hspares hfile moment hpasses
    exact (hwithin hacquires hspares hpasses).2 hfile
  case beyond =>
    intro path hspares
    apply And.right
    apply Occasion.stop_spares hnew
    intro identity config acquired hacquires
    exact hwithin hacquires (hspares _ _ _ hacquires) (Occasion.bodyPasses_left _ _ _ _ _)

/-- A world with a keytab and a `kinit`, whose login identity has a private cache of its own. -/
def loggedInWorld : World :=
  .start ⟨[], [(["etl.keytab"], .file [] none), (["krb5cc_svc_old"], .file [] none),
    (["kinit"], .file [] (some (.tool (writingKinit 0))))]⟩
    .empty "root" ⟨"svc", .keytab, some ⟨"/krb5cc_svc_old"⟩, none, default⟩ default default

def keytabEntry : Entry :=
  ⟨.impersonation, keytabSpec, .empty, true⟩

def ambientEntry : Entry :=
  ⟨.login, ⟨"", none, none⟩, .empty, true⟩

def panicking : Nesting Unit :=
  .act (throw (.text "boom") : Launch Unit) fun _ => .value ()

/-- A keytab login with the body given by its two parts. -/
def keytabLogin (call inner : Nesting Unit) : Nesting Unit :=
  .enter .none keytabEntry (fun _ _ => call) (fun _ _ _ => inner) fun _ => .value ()

/-- A login session of the current identity with a keytab login inside, whose body panics. -/
def nestedLogins : Nesting Unit :=
  .enter .none ambientEntry (fun _ _ => (.value () : Nesting Unit))
    (fun _ _ _ => keytabLogin (.value ()) panicking) fun _ => .value ()

def outerLogin : Occasion :=
  ⟨.none, ambientEntry, fun _ _ => (.value () : Nesting Unit),
    fun _ _ _ => keytabLogin (.value ()) panicking, loggedInWorld⟩

/-- The world in which the session around the keytab login runs it. -/
def sessionWorld : World :=
  outerLogin.entered onlyKinit loggedInWorld.login
    (after (outerLogin.acquire onlyKinit) loggedInWorld)

def loginOccasion (call inner : Nesting Unit) (start : World) : Occasion :=
  ⟨.none, keytabEntry, fun _ _ => call, fun _ _ _ => inner, start⟩

theorem outerLogin_acquires : outerLogin.Acquires onlyKinit loggedInWorld.login (some .empty)
    (after (outerLogin.acquire onlyKinit) loggedInWorld) :=
  rfl

theorem outerLogin_returns : outerLogin.CallReturns onlyKinit loggedInWorld.login (some .empty)
    (after (outerLogin.acquire onlyKinit) loggedInWorld) () sessionWorld :=
  rfl

theorem loginOccasion_fresh (call inner : Nesting Unit) {start : World}
    (hfiles : start.files = loggedInWorld.files) (hid : start.nextId = default)
    (hcurrent : start.current = loggedInWorld.login) :
    (loginOccasion call inner start).Fresh onlyKinit := by
  have hunused : loggedInWorld.files.Unused (privateName "etl" default) :=
    FileTree.unused_of_nodes (by decide +kernel)
  have hother : Path.sameOption (some (onlyKinit.privateCache "etl" default))
      loggedInWorld.login.cache = false := by
    decide +kernel
  intro principal keytab settings hrequest
  change LoginRequest.keytab "etl" ⟨"etl.keytab"⟩ .none = _ at hrequest
  cases hrequest
  change start.files.Unused (privateName "etl" start.nextId) ∧
    Path.sameOption (some (onlyKinit.privateCache "etl" start.nextId)) start.current.cache = false
  rw [hfiles, hid, hcurrent]
  exact ⟨hunused, hother⟩

theorem keytabLogin_enters {call inner : Nesting Unit} {world : World} {occasion : Occasion}
    (hcall : ∀ world other, ¬ call.Enters onlyKinit world other)
    (hinner : ∀ world other, ¬ inner.Enters onlyKinit world other)
    (h : (keytabLogin call inner).Enters onlyKinit world occasion) :
    occasion = loginOccasion call inner world := by
  unfold keytabLogin at h
  cases h with
  | here => rfl
  | call hacquires h => exact absurd h (hcall _ _)
  | inner hacquires hreturns h => exact absurd h (hinner _ _)
  | next h => cases h

theorem not_enters_value (world : World) (occasion : Occasion) :
    ¬ (Nesting.value ()).Enters onlyKinit world occasion := by
  intro h
  cases h

theorem not_enters_panicking (world : World) (occasion : Occasion) :
    ¬ panicking.Enters onlyKinit world occasion := by
  intro h
  unfold panicking at h
  cases h with
  | act hx h => cases hx

theorem nestedLogins_fresh (occasion : Occasion)
    (h : nestedLogins.Enters onlyKinit loggedInWorld occasion) : occasion.Fresh onlyKinit := by
  unfold nestedLogins at h
  cases h with
  | here =>
      intro principal keytab settings hrequest
      change LoginRequest.ambient = _ at hrequest
      cases hrequest
  | next h => cases h
  | call hacquires h => cases h
  | inner hacquires hreturns h =>
      cases outerLogin_acquires.symm.trans hacquires
      cases outerLogin_returns.symm.trans hreturns
      rw [keytabLogin_enters not_enters_value not_enters_panicking h]
      exact loginOccasion_fresh _ _ rfl rfl rfl

theorem abandonedLogin_fresh (occasion : Occasion)
    (h : (keytabLogin panicking (.value ())).Enters onlyKinit loggedInWorld occasion) :
    occasion.Fresh onlyKinit := by
  rw [keytabLogin_enters not_enters_panicking not_enters_value h]
  exact loginOccasion_fresh _ _ rfl rfl rfl

/-- In a session that keeps the cache of the login identity, which it has from before, a keytab
login removes its own after a panic of its body.  After a panic of the call it stays. -/
theorem scopes_dispose_panicking :
    let own := onlyKinit.privateCache "etl" default
    let inner := loginOccasion (.value ()) panicking sessionWorld
    let abandoned := loginOccasion panicking (.value ()) loggedInWorld
    let nested := after (nestedLogins.run onlyKinit) loggedInWorld
    let left := after ((keytabLogin panicking (.value ())).run onlyKinit) loggedInWorld
    (nestedLogins.Enters onlyKinit loggedInWorld outerLogin ∧
      nestedLogins.Enters onlyKinit loggedInWorld inner ∧
      (∀ occasion, nestedLogins.Enters onlyKinit loggedInWorld occasion →
        occasion.Fresh onlyKinit) ∧
      outerLogin.request = .ambient ∧
      inner.request = .keytab "etl" ⟨"etl.keytab"⟩ .none ∧
      outerLogin.Disposes onlyKinit ∧ inner.Disposes onlyKinit ∧
      (after (inner.acquire onlyKinit) inner.start).files.isFile own = true ∧
      nested.files.isFile own = false ∧ nested.files.isFile ⟨"/krb5cc_svc_old"⟩ = true) ∧
    (keytabLogin panicking (.value ())).Enters onlyKinit loggedInWorld abandoned ∧
      (∀ occasion, (keytabLogin panicking (.value ())).Enters onlyKinit loggedInWorld occasion →
        occasion.Fresh onlyKinit) ∧
      abandoned.Disposes onlyKinit ∧ left.files.isFile own = true := by
  intro own inner abandoned nested left
  have houter : nestedLogins.Enters onlyKinit loggedInWorld outerLogin := .here
  have hinner : nestedLogins.Enters onlyKinit loggedInWorld inner :=
    .inner outerLogin_acquires outerLogin_returns .here
  have habandoned : (keytabLogin panicking (.value ())).Enters onlyKinit loggedInWorld abandoned :=
    .here
  refine ⟨⟨houter, hinner, nestedLogins_fresh, rfl, rfl, ?_, ?_, by decide +kernel,
    by decide +kernel, by decide +kernel⟩, habandoned, abandonedLogin_fresh, ?_, by decide +kernel⟩
  · exact scopes_dispose onlyKinit nestedLogins loggedInWorld nestedLogins_fresh outerLogin houter
  · exact scopes_dispose onlyKinit nestedLogins loggedInWorld nestedLogins_fresh inner hinner
  · exact scopes_dispose onlyKinit (keytabLogin panicking (.value ())) loggedInWorld
      abandonedLogin_fresh abandoned habandoned

end Nesting

end ActionLauncher
