import ActionLauncher.Proofs.PrivateCache
import ActionLauncher.Proofs.Trimming

namespace ActionLauncher

open Launch

namespace KerberosTools

/-- The line gives a principal after the words that announce it. -/
def GivesPrincipal (line : List Char) (principal : String) : Prop :=
  ∃ rest, Text.Chars.trim line = "Default principal:".toList ++ rest ∧
    Text.Chars.isBlank rest = false ∧ principal = String.ofList (Text.Chars.trim rest)

/-- The first line of a listing that gives a principal gives this one. -/
def NamesPrincipal (listing principal : String) : Prop :=
  ∃ before line behind, Text.Chars.lines listing.toList = before ++ line :: behind ∧
    GivesPrincipal line principal ∧ ∀ earlier ∈ before, ∀ other, ¬ GivesPrincipal earlier other

theorem givesPrincipal_iff {line : List Char} {principal : String} :
    ((Text.Chars.after? "Default principal:".toList (Text.Chars.trim line)).bind fun rest =>
      let name := Text.Chars.trim rest
      if name.isEmpty then none else some (String.ofList name)) = some principal ↔
      GivesPrincipal line principal := by
  constructor
  · intro h
    obtain ⟨rest, hrest, hname⟩ := Option.bind_eq_some_iff.1 h
    dsimp only at hname
    split at hname
    · cases hname
    · rename_i hsome
      cases hname
      refine ⟨rest, Text.Chars.eq_append_of_after? hrest, ?_, rfl⟩
      rwa [List.isEmpty_iff, Text.Chars.trim_eq_nil_iff, Bool.not_eq_true] at hsome
  · rintro ⟨rest, hrest, hblank, rfl⟩
    have hsome : (Text.Chars.trim rest).isEmpty = false := by
      rw [← Bool.not_eq_true, List.isEmpty_iff, Text.Chars.trim_eq_nil_iff, hblank]
      decide
    rw [hrest, Text.Chars.after?_append, Option.bind_some]
    dsimp only
    rw [hsome]
    rfl

theorem defaultPrincipal?_eq_some_iff {listing principal : String} :
    defaultPrincipal? listing = some principal ↔ NamesPrincipal listing principal := by
  rw [defaultPrincipal?, List.findSome?_eq_some_iff]
  simp only [givesPrincipal_iff, NamesPrincipal, Option.eq_none_iff_forall_ne_some, ne_eq]

example : defaultPrincipal? "Ticket cache: x\n Default principal: \n Default principal: a b \r\n" =
    some "a b" := by
  decide +kernel

end KerberosTools

/-- A program to be called with some arguments. -/
structure ToolRequest where
  program : Path
  args : List String

namespace ToolRequest

variable (settings : LoginSettings) (request : ToolRequest)

def run : Launch (Except IoError Output) :=
  spawn request.program request.args (KerberosTools.toolVariables settings)

theorem run_cases (world : World) :
    (∃ output next, request.run settings world = .ok (.ok output) next ∧
      output.status.isSuccess = true) ∨
    ∃ answer next, request.run settings world = .ok answer next ∧
      ∀ output, answer = .ok output → output.status.isSuccess = false :=
  KerberosTools.spawn_cases request.program request.args settings world

/-- The call that is recorded when the program is a tool. -/
def recorded (world : World) : List ToolCall :=
  let environment := world.environment.insertAll (KerberosTools.toolVariables settings)
  match world.files.findProgram ((world.environment.get? "PATH").getD "/bin:/usr/bin")
      request.program with
  | .ok (.tool tool) => [⟨tool.name, request.args, environment.get? Names.realmConfVariable,
      environment.get? Names.traceVariable⟩]
  | _ => []

end ToolRequest

/-- Makes requests one after another until one fails: the outputs of those that succeeded, and
the answer of the one that failed. -/
def interview (settings : LoginSettings) :
    List ToolRequest → Launch (List Output × Option (Except IoError Output))
  | [] => return ([], none)
  | request :: rest => do
      match ← request.run settings with
      | .error cause => return ([], some (.error cause))
      | .ok output =>
          if output.status.isSuccess then
            (fun (outputs, failure) => (output :: outputs, failure)) <$> interview settings rest
          else return ([], some (.ok output))

/-- The calls of requests that are made one after another, up to the first that fails; a program
that cannot be started is not called. -/
def callsMade (settings : LoginSettings) : List ToolRequest → World → List ToolCall
  | [], _ => []
  | request :: rest, world =>
      match ending (request.run settings) world with
      | .ok (.ok output) => request.recorded settings world ++
          if output.status.isSuccess then
            callsMade settings rest (after (request.run settings) world)
          else []
      | _ => []

theorem toolCalls_callTool (tool : Tool) (args : List String) (environment : Table)
    (world : World) : (after (callTool tool args environment) world).toolCalls =
      world.toolCalls ++ [⟨tool.name, args, environment.get? Names.realmConfVariable,
        environment.get? Names.traceVariable⟩] := by
  unfold callTool
  rw [after_bind_of_ok (ending_modify _ _), after_modify]
  split
  · split
    · rfl
    · rw [after_bind_of_ok (ending_modify _ _), after_modify]
      split <;> rfl
  · rfl

theorem toolCalls_run (settings : LoginSettings) (request : ToolRequest) (world : World) :
    (after (request.run settings) world).toolCalls =
      world.toolCalls ++ match ending (request.run settings) world with
        | .ok (.ok _) => request.recorded settings world
        | _ => [] := by
  unfold ToolRequest.run ToolRequest.recorded spawn
  split
  · exact (List.append_nil _).symm
  · rw [after_congr (get_bind _ world), ending_congr (get_bind _ world)]
    dsimp only
    split
    · exact (List.append_nil _).symm
    · rename_i program hfound
      split
      · exact (List.append_nil _).symm
      · obtain ⟨⟨output, hend⟩, -⟩ := Provider.standing_runProgram program request.args
          (world.environment.insertAll (KerberosTools.toolVariables settings)) world
        rw [bind_pure_comp, after_map, ending_map, hend, hfound]
        dsimp only [Except.map]
        cases program with
        | tool tool => exact toolCalls_callTool tool _ _ world
        | utility utility =>
            rw [List.append_nil]
            cases utility <;> rfl

theorem toolCalls_interview (settings : LoginSettings) (requests : List ToolRequest)
    (world : World) : (after (interview settings requests) world).toolCalls =
      world.toolCalls ++ callsMade settings requests world := by
  induction requests generalizing world with
  | nil => exact (List.append_nil _).symm
  | cons request rest ih =>
      have hcalls := toolCalls_run settings request world
      rw [interview, callsMade, after_bind]
      cases hend : ending (request.run settings) world with
      | error panic =>
          rw [hend] at hcalls
          exact hcalls
      | ok answer =>
          rw [hend] at hcalls
          cases answer with
          | error cause => exact hcalls
          | ok output =>
              dsimp only at hcalls ⊢
              split
              · rw [after_map, ih, hcalls, List.append_assoc]
              · rw [List.append_nil]
                exact hcalls

section Interview

variable {settings : LoginSettings} {request : ToolRequest} {world next : World}

theorem interview_of_failure {answer : Except IoError Output}
    (h : request.run settings world = .ok answer next)
    (hfailed : ∀ output, answer = .ok output → output.status.isSuccess = false)
    (rest : List ToolRequest) :
    interview settings (request :: rest) world = .ok ([], some answer) next := by
  rw [interview, bind_of_ok h]
  cases answer with
  | error cause => rfl
  | ok output =>
      dsimp only
      rw [hfailed output rfl]
      rfl

theorem interview_of_success {output : Output} {rest : List ToolRequest} {outputs : List Output}
    {failure : Option (Except IoError Output)} {last : World}
    (h : request.run settings world = .ok (.ok output) next)
    (hsuccess : output.status.isSuccess = true)
    (hrest : interview settings rest next = .ok (outputs, failure) last) :
    interview settings (request :: rest) world = .ok (output :: outputs, failure) last := by
  rw [interview, bind_of_ok h]
  dsimp only
  rw [hsuccess, if_pos rfl]
  show EStateM.map _ _ _ = _
  rw [EStateM.map, hrest]

end Interview

/-- What a login concludes from its requests: a failure where one of them failed, which is the
principal's if a program ran, and otherwise the identity that the outputs grant, if any. -/
inductive Concludes (principal : String) (grants : List Output → Identity → Prop) :
    List Output × Option (Except IoError Output) → Except SecurityError Identity → Prop
  | failed {outputs : List Output} {answer : Except IoError Output} {cause : SecurityError}
      (refused : ∀ output, answer = .ok output →
        ∃ reason, cause = .authentication principal reason) :
      Concludes principal grants (outputs, some answer) (.error cause)
  | unproven {outputs : List Output} {cause : SecurityError}
      (nobody : ∀ identity, ¬ grants outputs identity) :
      Concludes principal grants (outputs, none) (.error cause)
  | granted {outputs : List Output} {identity : Identity} (grant : grants outputs identity) :
      Concludes principal grants (outputs, none) (.ok identity)

/-- A login that rests on the evidence of its requests, and makes none where it lacks a file or a
tool. -/
structure OnEvidence (login : Launch (Except SecurityError Identity)) (settings : LoginSettings)
    (principal : String) (requests? : Option (List ToolRequest)) (world start : World)
    (grants : List Output → Identity → Prop) : Prop where
  granted_iff : (∃ identity, ending login world = .ok (.ok identity)) ↔
    ∃ requests outputs identity, requests? = some requests ∧
      ending (interview settings requests) start = .ok (outputs, none) ∧ grants outputs identity
  granted : ∀ identity, ending login world = .ok (.ok identity) →
    ∃ requests outputs, requests? = some requests ∧
      ending (interview settings requests) start = .ok (outputs, none) ∧ grants outputs identity
  calls : (after login world).toolCalls =
    world.toolCalls ++ requests?.elim [] fun requests => callsMade settings requests start
  refused : ∀ requests outputs output, requests? = some requests →
    ending (interview settings requests) start = .ok (outputs, some (.ok output)) →
      ∃ reason, ending login world = .ok (.error (.authentication principal reason))

namespace OnEvidence

variable {login : Launch (Except SecurityError Identity)} {settings : LoginSettings}
  {principal : String} {world start : World} {grants : List Output → Identity → Prop}

theorem of_none (h : ∃ cause, login world = .ok (.error cause) world) :
    OnEvidence login settings principal none world start grants := by
  obtain ⟨cause, hlogin⟩ := h
  constructor
  · simp [ending_eq_of_ok hlogin]
  · simp [ending_eq_of_ok hlogin]
  · rw [after_eq_of_ok hlogin]
    exact (List.append_nil _).symm
  · simp

theorem of_concludes {requests : List ToolRequest}
    {reached : List Output × Option (Except IoError Output)} {asked next : World}
    {result : Except SecurityError Identity} (hstart : start.toolCalls = world.toolCalls)
    (hasked : interview settings requests start = .ok reached asked)
    (h : login world = .ok result next) (hnext : next.toolCalls = asked.toolCalls)
    (hconcludes : Concludes principal grants reached result) :
    OnEvidence login settings principal (some requests) world start grants := by
  have hcalls : (after login world).toolCalls =
      world.toolCalls ++ callsMade settings requests start := by
    have hinterview := toolCalls_interview settings requests start
    rw [after_eq_of_ok hasked, hstart] at hinterview
    rw [after_eq_of_ok h, hnext, hinterview]
  have hend := ending_eq_of_ok h
  have hreached := ending_eq_of_ok hasked
  have hgranted : ∀ identity, ending login world = .ok (.ok identity) →
      ∃ asked outputs, some requests = some asked ∧
        ending (interview settings asked) start = .ok (outputs, none) ∧
        grants outputs identity := by
    intro identity hidentity
    rw [hend, Except.ok.injEq] at hidentity
    subst hidentity
    cases hconcludes with
    | granted grant => exact ⟨requests, _, rfl, hreached, grant⟩
  constructor
  · constructor
    · rintro ⟨identity, hidentity⟩
      obtain ⟨asked, outputs, hsome, houtputs, hgrant⟩ := hgranted identity hidentity
      exact ⟨asked, outputs, identity, hsome, houtputs, hgrant⟩
    · rintro ⟨asked, outputs, identity, ⟨⟩, houtputs, hgrant⟩
      rw [hreached, Except.ok.injEq] at houtputs
      subst houtputs
      cases hconcludes with
      | unproven nobody => exact absurd hgrant (nobody identity)
      | granted grant => exact ⟨_, hend⟩
  · exact hgranted
  · exact hcalls
  · rintro asked outputs output ⟨⟩ houtputs
    rw [hreached, Except.ok.injEq] at houtputs
    subst houtputs
    cases hconcludes with
    | failed refused =>
        obtain ⟨reason, rfl⟩ := refused output rfl
        exact ⟨reason, hend⟩

end OnEvidence

namespace KerberosTools

/-- What a login from a ticket cache asks: whether the ticket is valid, and whose it is. -/
def cacheRequests? (tools : KerberosTools) (cache : Path) (world : World) :
    Option (List ToolRequest) :=
  if world.files.isFile cache then
    tools.klist.map fun klist =>
      [⟨klist, ["-s", "-c", cacheName cache]⟩, ⟨klist, ["-c", cacheName cache]⟩]
  else none

/-- What a keytab login asks for: a ticket in a new private cache. -/
def keytabRequests? (tools : KerberosTools) (principal : String) (keytab : Path)
    (world : World) : Option (List ToolRequest) :=
  if world.files.isFile keytab then
    tools.kinit.map fun kinit => [⟨kinit, tools.kinitArgs principal keytab world.nextId⟩]
  else none

/-- The owner of a ticket cache: the principal that was asked for, or else the one that the
listing names. -/
def OwnsTicket (principal : String) (cache : Path) (outputs : List Output)
    (identity : Identity) : Prop :=
  ∃ checked listed named, outputs = [checked, listed] ∧
    NamesPrincipal (Text.Utf8.lenient listed.stdout) named ∧
    identity.principal = (if principal.isEmpty then named else principal) ∧
    identity.source = .ticketCache ∧ identity.cache = some cache ∧ identity.tokens = none

/-- The principal that got a ticket in the private cache with this identifier. -/
def HoldsKey (tools : KerberosTools) (principal : String) (id : Uuid) (outputs : List Output)
    (identity : Identity) : Prop :=
  ∃ output, outputs = [output] ∧ identity.principal = principal ∧ identity.source = .keytab ∧
    identity.cache = some (tools.privateCache principal id) ∧ identity.tokens = none

section Login

variable {α : Type} {world : World} {path : Path} {refusal : α} {x : Launch α}

theorem requireFile_of_isFile (h : world.files.isFile path = true) :
    ((get : Launch World) >>= fun before =>
      if !before.files.isFile path then pure refusal else x) world = x world := by
  rw [get_bind, h]
  rfl

theorem requireFile_of_absent (h : world.files.isFile path = false) :
    ((get : Launch World) >>= fun before =>
      if !before.files.isFile path then pure refusal else x) world = .ok refusal world := by
  rw [get_bind, h]
  rfl

variable (tools : KerberosTools) (principal : String)

theorem fromKeytab_onEvidence (keytab : Path) (settings : LoginSettings) (world : World) :
    OnEvidence (tools.fromKeytab principal keytab settings) settings principal
      (tools.keytabRequests? principal keytab world) world (after freshId world)
      (tools.HoldsKey principal world.nextId) := by
  have hfresh : freshId world = .ok world.nextId (after freshId world) := rfl
  unfold fromKeytab keytabRequests?
  cases hkeytab : world.files.isFile keytab with
  | false => exact .of_none ⟨_, requireFile_of_absent hkeytab⟩
  | true =>
      cases tools.kinit with
      | none => exact .of_none ⟨_, (requireFile_of_isFile hkeytab).trans rfl⟩
      | some kinit =>
          rcases ToolRequest.run_cases settings
            ⟨kinit, tools.kinitArgs principal keytab world.nextId⟩ (after freshId world) with
            ⟨output, next, hrun, hsuccess⟩ | ⟨answer, next, hrun, hfailed⟩
          · have htool := runTool_of_success hrun hsuccess principal
            exact .of_concludes rfl (interview_of_success hrun hsuccess rfl)
              ((requireFile_of_isFile hkeytab).trans
                ((bind_of_ok hfresh _).trans (bind_of_ok htool _))) rfl
              (.granted ⟨output, rfl, rfl, rfl, rfl, rfl⟩)
          · obtain ⟨cause, htool, hcause⟩ := runTool_of_failure hrun hfailed principal
            exact .of_concludes rfl (interview_of_failure hrun hfailed [])
              ((requireFile_of_isFile hkeytab).trans
                ((bind_of_ok hfresh _).trans (bind_of_ok htool _))) rfl
              (.failed hcause)

theorem askPrincipal_of_success {klist cache : Path} {settings : LoginSettings} {world next : World}
    {output : Output} (hklist : tools.klist = some klist)
    (hrun : ToolRequest.run settings ⟨klist, ["-c", cacheName cache]⟩ world =
      .ok (.ok output) next)
    (hsuccess : output.status.isSuccess = true) :
    (∃ named, NamesPrincipal (Text.Utf8.lenient output.stdout) named ∧
      tools.askPrincipal principal cache settings world = .ok (.ok named) next) ∨
    (∀ named, ¬ NamesPrincipal (Text.Utf8.lenient output.stdout) named) ∧
      ∃ cause, tools.askPrincipal principal cache settings world = .ok (.error cause) next := by
  have htool := runTool_of_success hrun hsuccess principal
  unfold askPrincipal
  rw [hklist]
  dsimp only
  rw [bind_of_ok htool]
  simp only [← defaultPrincipal?_eq_some_iff]
  cases hnamed : defaultPrincipal? (Text.Utf8.lenient output.stdout) with
  | some named => exact .inl ⟨named, rfl, rfl⟩
  | none => exact .inr ⟨by simp, _, rfl⟩

section TicketCache

variable {klist cache : Path} {settings : LoginSettings} {world next last : World}
  (hcache : world.files.isFile cache = true) (hklist : tools.klist = some klist)

include hcache hklist

theorem fromTicketCache_of_invalid {cause : SecurityError}
    (hinvalid : runTool principal klist ["-s", "-c", cacheName cache] settings world =
      .ok (.error cause) next) :
    tools.fromTicketCache principal cache settings world =
      .ok (.error (.authentication principal ("no valid ticket in " ++ cache.text))) next := by
  unfold fromTicketCache
  rw [requireFile_of_isFile hcache, hklist]
  exact bind_of_ok hinvalid _

variable {checked : String}
  (hvalid : runTool principal klist ["-s", "-c", cacheName cache] settings world =
    .ok (.ok checked) next)

include hvalid

theorem fromTicketCache_of_unnamed {cause : SecurityError}
    (hask : tools.askPrincipal principal cache settings next = .ok (.error cause) last) :
    tools.fromTicketCache principal cache settings world = .ok (.error cause) last := by
  unfold fromTicketCache
  rw [requireFile_of_isFile hcache, hklist]
  exact (bind_of_ok hvalid _).trans (bind_of_ok hask _)

theorem fromTicketCache_of_named {named : String}
    (hask : tools.askPrincipal principal cache settings next = .ok (.ok named) last) :
    ∃ final, tools.fromTicketCache principal cache settings world =
        .ok (.ok ⟨if principal.isEmpty then named else principal, .ticketCache, some cache, none,
          last.clock⟩) final ∧ final.toolCalls = last.toolCalls := by
  unfold fromTicketCache
  rw [requireFile_of_isFile hcache, hklist]
  dsimp only
  rw [bind_of_ok hvalid]
  dsimp only
  rw [bind_of_ok hask]
  dsimp only
  -- A principal other than the one that was asked for is logged, and makes no difference.
  split
  · exact ⟨_, rfl, rfl⟩
  · exact ⟨_, rfl, rfl⟩

end TicketCache

theorem askPrincipal_of_failure {klist cache : Path} {settings : LoginSettings}
    {world next : World} {answer : Except IoError Output} (hklist : tools.klist = some klist)
    (hrun : ToolRequest.run settings ⟨klist, ["-c", cacheName cache]⟩ world = .ok answer next)
    (hfailed : ∀ output, answer = .ok output → output.status.isSuccess = false) :
    ∃ cause, tools.askPrincipal principal cache settings world = .ok (.error cause) next ∧
      ∀ output, answer = .ok output → ∃ reason, cause = .authentication principal reason := by
  obtain ⟨cause, htool, hcause⟩ := runTool_of_failure hrun hfailed principal
  refine ⟨cause, ?_, hcause⟩
  unfold askPrincipal
  rw [hklist]
  exact bind_of_ok htool _

theorem fromTicketCache_onEvidence (cache : Path) (settings : LoginSettings) (world : World) :
    OnEvidence (tools.fromTicketCache principal cache settings) settings principal
      (tools.cacheRequests? cache world) world world (OwnsTicket principal cache) := by
  unfold cacheRequests?
  cases hcache : world.files.isFile cache with
  | false => exact .of_none ⟨_, requireFile_of_absent hcache⟩
  | true =>
      cases hklist : tools.klist with
      | none =>
          refine .of_none ⟨.commandNotFound "klist", ?_⟩
          unfold fromTicketCache
          rw [requireFile_of_isFile hcache, hklist]
          rfl
      | some klist =>
          rcases ToolRequest.run_cases settings ⟨klist, ["-s", "-c", cacheName cache]⟩ world with
            ⟨checked, next, hrun, hsuccess⟩ | ⟨answer, next, hrun, hfailed⟩
          · have hvalid := runTool_of_success hrun hsuccess principal
            rcases ToolRequest.run_cases settings ⟨klist, ["-c", cacheName cache]⟩ next with
              ⟨listed, last, hlist, hlisted⟩ | ⟨answer, last, hlist, hunlisted⟩
            · have hasked : interview settings [⟨klist, ["-s", "-c", cacheName cache]⟩,
                  ⟨klist, ["-c", cacheName cache]⟩] world = .ok ([checked, listed], none) last :=
                interview_of_success hrun hsuccess (interview_of_success hlist hlisted rfl)
              rcases askPrincipal_of_success tools principal hklist hlist hlisted with
                ⟨named, hnames, hask⟩ | ⟨hnobody, cause, hask⟩
              · obtain ⟨final, hlogin, hcalls⟩ :=
                  fromTicketCache_of_named tools principal hcache hklist hvalid hask
                exact .of_concludes rfl hasked hlogin hcalls
                  (.granted ⟨checked, listed, named, rfl, hnames, rfl, rfl, rfl, rfl⟩)
              · have hlogin :=
                  fromTicketCache_of_unnamed tools principal hcache hklist hvalid hask
                refine .of_concludes rfl hasked hlogin rfl (.unproven ?_)
                rintro identity ⟨_, _, named, ⟨⟩, hnames, -⟩
                exact hnobody named hnames
            · obtain ⟨cause, hask, hcause⟩ :=
                askPrincipal_of_failure tools principal hklist hlist hunlisted
              have hlogin := fromTicketCache_of_unnamed tools principal hcache hklist hvalid hask
              exact .of_concludes rfl
                (interview_of_success hrun hsuccess (interview_of_failure hlist hunlisted []))
                hlogin rfl (.failed hcause)
          · obtain ⟨cause, hinvalid, -⟩ := runTool_of_failure hrun hfailed principal
            have hlogin := fromTicketCache_of_invalid tools principal hcache hklist hinvalid
            exact .of_concludes rfl (interview_of_failure hrun hfailed _) hlogin rfl
              (.failed fun _ _ => ⟨_, rfl⟩)

/-- Both logins rest on full evidence.  One from a ticket cache needs the cache, a `klist` that
starts, finds the ticket valid and names a principal in its listing; one from a keytab needs the
keytab and a `kinit` that starts and succeeds.  The tools are called up to the first that fails,
and a tool that fails is a failed authentication of the principal that was asked for. -/
theorem logins_onEvidence (path : Path) (settings : LoginSettings) (world : World) :
    OnEvidence (tools.fromTicketCache principal path settings) settings principal
        (tools.cacheRequests? path world) world world (OwnsTicket principal path) ∧
      OnEvidence (tools.fromKeytab principal path settings) settings principal
        (tools.keytabRequests? principal path world) world (after freshId world)
        (tools.HoldsKey principal world.nextId) :=
  ⟨fromTicketCache_onEvidence tools principal path settings world,
    fromKeytab_onEvidence tools principal path settings world⟩

end Login

end KerberosTools

end ActionLauncher
