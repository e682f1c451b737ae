import ActionLauncher.Proofs.CacheWriting
import ActionLauncher.Proofs.Numerals
import ActionLauncher.Proofs.PathSpelling
import ActionLauncher.Proofs.ScopeTree

namespace ActionLauncher

open Launch

theorem Uuid.compact_digits (id : Uuid) :
    id.compact.length = 32 ∧ ∀ c ∈ id.compact.toList, c ∈ "0123456789abcdef".toList := by
  have hdigit : ∀ d < 16, Text.lowerDigit d ∈ "0123456789abcdef".toList := by decide
  unfold compact digits
  constructor
  · rw [String.length_ofList, Text.fixedDigits_length]
  · intro c hc
    rw [String.toList_ofList] at hc
    obtain ⟨d, hd, rfl⟩ := Text.exists_of_mem_fixedDigits (by decide) hc
    exact hdigit d hd

namespace Identity

theorem same_self (identity : Identity) : identity.same identity = true := by
  simp [same, Path.sameOption_self]

theorem same_of_otherCache {a b : Identity} (h : Path.sameOption a.cache b.cache = false) :
    a.same b = false := by
  simp [same, h]

end Identity

namespace KerberosTools

/-- Letters, digits and underscores of ASCII, and nothing else. -/
def IsPlain (s : String) : Prop :=
  ∀ c ∈ s.toList, c.isAlphanum = true ∨ c = '_'

theorem isPlain_of_all {s : String}
    (h : s.toList.all (fun c => c.isAlphanum || c == '_') = true) : IsPlain s := by
  intro c hc
  simpa using List.all_eq_true.1 h c hc

theorem IsPlain.append {s t : String} (hs : IsPlain s) (ht : IsPlain t) : IsPlain (s ++ t) := by
  intro c hc
  rw [String.toList_append, List.mem_append] at hc
  exact hc.elim (hs c) (ht c)

theorem IsPlain.not_mem {s : String} {c : Char} (h : IsPlain s) (hletter : c.isAlphanum = false)
    (hmark : c ≠ '_') : c ∉ s.toList := by
  intro hc
  rcases h c hc with halnum | hunderscore
  · rw [hletter] at halnum
    cases halnum
  · exact hmark hunderscore

theorem isPlain_plainName (s : String) : IsPlain (plainName s) := by
  intro c hc
  rw [plainName, String.toList_ofList, List.mem_map] at hc
  obtain ⟨origin, -, rfl⟩ := hc
  split
  · rename_i halnum
    exact .inl halnum
  · exact .inr rfl

theorem isPlain_compact (id : Uuid) : IsPlain id.compact := by
  have hdigit : "0123456789abcdef".toList.all Char.isAlphanum = true := by decide
  intro c hc
  exact .inl (List.all_eq_true.1 hdigit c (id.compact_digits.2 c hc))

/-- What a private name has after its start. -/
def privateRest (principal : String) (id : Uuid) : String :=
  plainName (Identity.mk principal .keytab none none default).shortName ++ "_" ++ id.compact

theorem privateName_eq (principal : String) (id : Uuid) :
    privateName principal id = privateStart ++ privateRest principal id := by
  rw [privateName, privateRest, String.append_assoc, String.append_assoc, String.append_assoc]

theorem isPlain_privateName (principal : String) (id : Uuid) :
    IsPlain (privateName principal id) := by
  have hstart : IsPlain privateStart := isPlain_of_all (by decide)
  have hmark : IsPlain "_" := isPlain_of_all (by decide)
  exact ((hstart.append (isPlain_plainName _)).append hmark).append (isPlain_compact id)

theorem privateName_isName (principal : String) (id : Uuid) :
    Path.IsName (privateName principal id) := by
  have hplain := isPlain_privateName principal id
  have hchars : (privateName principal id).toList =
      'k' :: ("rb5cc_".toList ++ (privateRest principal id).toList) := by
    rw [privateName_eq, String.toList_append]
    rfl
  constructor
  · rintro h
    simp [h] at hchars
  · rintro h
    simp [h] at hchars
  · rintro h
    simp [h] at hchars
  · exact hplain.not_mem (by decide) (by decide)

theorem ownsCache_privateCache (tools : KerberosTools) (principal : String) (id : Uuid) :
    tools.ownsCache (tools.privateCache principal id) = true := by
  have hname := privateName_isName principal id
  rw [ownsCache, privateCache, Path.parent?_join hname, Path.fileName?_join hname]
  simp [privateName_eq, Text.after?, String.toList_append, Text.Chars.after?_append]

open Provider

/-- The files in the directory of private caches. -/
def cacheFiles (tools : KerberosTools) (world : World) : Set String :=
  world.files.filesIn tools.cacheDir

theorem cacheFiles_of_fileTest {world next : World} (h : Same World.fileTest world next)
    (tools : KerberosTools) : Same tools.cacheFiles world next :=
  FileTree.filesIn_congr h tools.cacheDir

def kinitArgs (tools : KerberosTools) (principal : String) (keytab : Path) (id : Uuid) :
    List String :=
  ["-k", "-t", keytab.text, "-c", cacheName (tools.privateCache principal id), principal]

/-- A keytab can be called like the option before the cache, which then names the keytab. -/
theorem namedCache?_kinit (tools : KerberosTools) (principal : String) (keytab : Path)
    (id : Uuid) :
    namedCache? (tools.kinitArgs principal keytab id) = some (tools.privateCache principal id) ∨
      namedCache? (tools.kinitArgs principal keytab id) = some keytab := by
  by_cases hoption : keytab.text = "-c"
  · right
    have hkeytab : keytab = ⟨"-c"⟩ := by
      cases keytab
      exact congrArg Path.mk hoption
    subst hkeytab
    rfl
  · left
    simp [kinitArgs, namedCache?, hoption, unnamed_cacheName]

theorem cacheFiles_kinit (tools : KerberosTools) (principal : String) (keytab kinit : Path)
    (id : Uuid) (additions : List (String × String)) {world : World}
    (hkeytab : world.files.isFile keytab = true) :
    let next := after (spawn kinit (tools.kinitArgs principal keytab id) additions) world
    tools.cacheFiles next = tools.cacheFiles world ∨
      tools.cacheFiles next = insert (privateName principal id) (tools.cacheFiles world) := by
  intro next
  rcases spawn_writesAtMost kinit (tools.kinitArgs principal keytab id) additions world with
    hsame | ⟨named, hnamed, hwrite⟩
  · left
    rw [cacheFiles, hsame, cacheFiles]
  · rcases namedCache?_kinit tools principal keytab id with hcache | hcache
    · right
      rw [hcache, Option.some.injEq] at hnamed
      subst hnamed
      exact FileTree.filesIn_writeText tools.cacheDir (privateName_isName principal id) hwrite
    · left
      rw [hcache, Option.some.injEq] at hnamed
      subst hnamed
      exact cacheFiles_of_fileTest (FileTree.isFile_writeText_of_isFile hkeytab hwrite) tools

def keytabIdentity (tools : KerberosTools) (principal : String) (id : Uuid)
    (time : Time.Timestamp) : Identity :=
  ⟨principal, .keytab, some (tools.privateCache principal id), none, time⟩

section Tool

variable {program : Path} {args : List String} {settings : LoginSettings} {world next : World}

theorem spawn_cases (program : Path) (args : List String) (settings : LoginSettings)
    (world : World) :
    (∃ output next, spawn program args (toolVariables settings) world = .ok (.ok output) next ∧
      output.status.isSuccess = true) ∨
    ∃ answer next, spawn program args (toolVariables settings) world = .ok answer next ∧
      ∀ output, answer = .ok output → output.status.isSuccess = false := by
  obtain ⟨⟨answer, hend⟩, -⟩ := standing_spawn program args (toolVariables settings) world
  have hrun := eq_ok_of_ending hend
  cases answer with
  | error cause => exact .inr ⟨_, _, hrun, by simp⟩
  | ok output =>
      cases hsuccess : output.status.isSuccess with
      | true => exact .inl ⟨output, _, hrun, hsuccess⟩
      | false => exact .inr ⟨_, _, hrun, by simp [hsuccess]⟩

theorem runTool_of_success {output : Output}
    (h : spawn program args (toolVariables settings) world = .ok (.ok output) next)
    (hsuccess : output.status.isSuccess = true) (principal : String) :
    runTool principal program args settings world =
      .ok (.ok (Text.Utf8.lenient output.stdout)) next := by
  unfold runTool
  refine (bind_of_ok h _).trans ?_
  dsimp only
  rw [hsuccess]
  rfl

theorem runTool_of_failure {answer : Except IoError Output}
    (h : spawn program args (toolVariables settings) world = .ok answer next)
    (hfailed : ∀ output, answer = .ok output → output.status.isSuccess = false)
    (principal : String) :
    ∃ cause, runTool principal program args settings world = .ok (.error cause) next ∧
      ∀ output, answer = .ok output → ∃ reason, cause = .authentication principal reason := by
  unfold runTool
  cases answer with
  | error cause => exact ⟨.io cause, bind_of_ok h _, by simp⟩
  | ok output =>
      refine ⟨.authentication principal (program.text ++ " exited with " ++
        output.status.describe ++ ": " ++ Text.trim (Text.Utf8.lenient output.stderr)),
        (bind_of_ok h _).trans ?_, fun _ _ => ⟨_, rfl⟩⟩
      dsimp only
      rw [hfailed output rfl]
      rfl

end Tool

/-- What a keytab login comes to: refused before `kinit` is started, or as `kinit` ends. -/
theorem fromKeytab_outcome (tools : KerberosTools) (principal : String) (keytab : Path)
    (settings : LoginSettings) (world : World) :
    let login := tools.fromKeytab principal keytab settings
    (∃ cause, login world = .ok (.error cause) world ∧
      (world.files.isFile keytab = false ∨ tools.kinit = none)) ∨
    ∃ kinit, world.files.isFile keytab = true ∧ tools.kinit = some kinit ∧
      let args := tools.kinitArgs principal keytab world.nextId
      let run := spawn kinit args (toolVariables settings)
      let start := after freshId world
      (∃ output, ending run start = .ok (.ok output) ∧ output.status.isSuccess = true ∧
        ∃ next, login world =
            .ok (.ok (tools.keytabIdentity principal world.nextId (after run start).clock)) next ∧
          next.files = (after run start).files) ∨
      (∃ spawned cause, ending run start = .ok spawned ∧
        (∀ output, spawned = .ok output → output.status.isSuccess = false) ∧
        login world = .ok (.error cause) (after run start)) := by
  have hfresh : freshId world = .ok world.nextId (after freshId world) := rfl
  dsimp only
  unfold fromKeytab
  rw [get_bind]
  cases hkeytab : world.files.isFile keytab with
  | false =>
      left
      exact ⟨absent principal "keytab" keytab, rfl, .inl rfl⟩
  | true =>
      cases hkinit : tools.kinit with
      | none =>
          left
          exact ⟨.commandNotFound "kinit", rfl, .inr rfl⟩
      | some kinit =>
          right
          refine ⟨kinit, rfl, rfl, ?_⟩
          rw [if_neg (by simp)]
          dsimp only
          rw [bind_of_ok hfresh]
          rcases spawn_cases kinit (tools.kinitArgs principal keytab world.nextId) settings
            (after freshId world) with
            ⟨output, last, hrun, hsuccess⟩ | ⟨answer, last, hrun, hfailed⟩
          · have htool := runTool_of_success hrun hsuccess principal
            rw [after_eq_of_ok hrun]
            exact .inl ⟨output, ending_eq_of_ok hrun, hsuccess, _, bind_of_ok htool _, rfl⟩
          · obtain ⟨cause, htool, -⟩ := runTool_of_failure hrun hfailed principal
            rw [after_eq_of_ok hrun]
            exact .inr ⟨answer, cause, ending_eq_of_ok hrun, hfailed, bind_of_ok htool _⟩

/-- `kinit` is run on the keytab, writes the private cache that it is to write, and fails. -/
def LoginLeaves (tools : KerberosTools) (settings : LoginSettings) (principal : String)
    (keytab : Path) (world : World) : Prop :=
  ∃ kinit output, world.files.isFile keytab = true ∧ tools.kinit = some kinit ∧
    let run := spawn kinit (tools.kinitArgs principal keytab world.nextId) (toolVariables settings)
    ending run (after freshId world) = .ok (.ok output) ∧ output.status.isSuccess = false ∧
      privateName principal world.nextId ∈ tools.cacheFiles (after run (after freshId world))

theorem loginLeaves_iff (tools : KerberosTools) {settings : LoginSettings} {principal : String}
    {keytab kinit : Path} {world : World} {spawned : Except IoError Output}
    (hkeytab : world.files.isFile keytab = true) (hkinit : tools.kinit = some kinit) :
    let run := spawn kinit (tools.kinitArgs principal keytab world.nextId) (toolVariables settings)
    ending run (after freshId world) = .ok spawned →
      (tools.LoginLeaves settings principal keytab world ↔
        (∃ output, spawned = .ok output ∧ output.status.isSuccess = false) ∧
          privateName principal world.nextId ∈
            tools.cacheFiles (after run (after freshId world))) := by
  intro run hend
  constructor
  · rintro ⟨other, output, -, hother, hrun, hfailed, hleft⟩
    rw [hkinit, Option.some.injEq] at hother
    subst hother
    rw [hend, Except.ok.injEq] at hrun
    exact ⟨⟨output, hrun, hfailed⟩, hleft⟩
  · rintro ⟨⟨output, rfl, hfailed⟩, hleft⟩
    exact ⟨kinit, output, hkeytab, hkinit, hend, hfailed, hleft⟩

/-- The next private cache has a name that no file has, and the current identity has another
cache. -/
structure FreshCache (tools : KerberosTools) (principal : String) (world : World) : Prop where
  unused : privateName principal world.nextId ∉ tools.cacheFiles world
  notCurrent :
    Path.sameOption (some (tools.privateCache principal world.nextId)) world.current.cache = false

theorem fromKeytab_cacheFiles (tools : KerberosTools) (principal : String) (keytab : Path)
    (settings : LoginSettings) (world : World)
    (hfresh : privateName principal world.nextId ∉ tools.cacheFiles world) :
    let login := tools.fromKeytab principal keytab settings
    (∃ cause next, login world = .ok (.error cause) next ∧
      tools.cacheFiles next = tools.cacheFiles world ∪
        { name | name = privateName principal world.nextId ∧
          tools.LoginLeaves settings principal keytab world }) ∨
    (∃ time next, login world =
        .ok (.ok (tools.keytabIdentity principal world.nextId time)) next ∧
      tools.cacheFiles next \ {privateName principal world.nextId} = tools.cacheFiles world ∧
      ¬ tools.LoginLeaves settings principal keytab world) := by
  intro login
  rcases fromKeytab_outcome tools principal keytab settings world with
    ⟨cause, hlogin, hmissing⟩ | ⟨kinit, hkeytab, hkinit, houtcome⟩
  · left
    refine ⟨cause, world, hlogin, ?_⟩
    have hnone : ¬ tools.LoginLeaves settings principal keytab world := by
      rintro ⟨kinit, output, hkeytab, hkinit, -⟩
      rcases hmissing with hmissing | hmissing
      · simp [hmissing] at hkeytab
      · simp [hmissing] at hkinit
    simp [hnone]
  have hthere : (after freshId world).files.isFile keytab = true := hkeytab
  have hadded := cacheFiles_kinit tools principal keytab kinit world.nextId
    (toolVariables settings) hthere
  have hbefore : tools.cacheFiles (after freshId world) = tools.cacheFiles world := rfl
  rw [hbefore] at hadded
  rcases houtcome with ⟨output, hend, hsuccess, next, hlogin, hfiles⟩ |
    ⟨spawned, cause, hend, hfailed, hlogin⟩
  · right
    refine ⟨_, next, hlogin, ?_, ?_⟩
    · rw [cacheFiles, hfiles]
      show tools.cacheFiles _ \ _ = _
      -- A `kinit` that succeeds need not have written anything.
      rcases hadded with hsame | hinsert
      · rw [hsame]
        exact Set.sdiff_singleton_eq_self hfresh
      · rw [hinsert]
        exact Set.insert_sdiff_self_of_notMem hfresh
    · rw [loginLeaves_iff tools hkeytab hkinit hend]
      rintro ⟨⟨_, ⟨rfl⟩, hfailed⟩, -⟩
      rw [hsuccess] at hfailed
      exact absurd hfailed (by decide)
  · left
    refine ⟨cause, _, hlogin, ?_⟩
    simp only [loginLeaves_iff tools hkeytab hkinit hend]
    cases spawned with
    | error fault =>
        rw [spawn_of_error _ _ _ _ _ hend, hbefore]
        simp
    | ok output =>
        have hfailure : ∃ found, (.ok output : Except IoError Output) = .ok found ∧
            found.status.isSuccess = false := ⟨output, rfl, hfailed output rfl⟩
        simp only [hfailure, true_and]
        rcases hadded with hsame | hinsert
        · rw [hsame]
          simp [hfresh]
        · rw [hinsert]
          simp

theorem fromTicketCache_source (tools : KerberosTools) (principal : String) (cache : Path)
    (settings : LoginSettings) :
    Yields (fun result => ∀ identity, result = .ok identity → identity.source = .ticketCache)
      (tools.fromTicketCache principal cache settings) := by
  have hidentity (owner : String) :
      Yields (fun identity => identity.source = .ticketCache) (newIdentity owner .ticketCache) :=
    Yields.bind_right fun _ => .pure rfl
  have hlogin (owner : String) : Yields
      (fun result : Except SecurityError Identity =>
        ∀ identity, result = .ok identity → identity.source = .ticketCache)
      (do return .ok { ← newIdentity owner .ticketCache with cache := some cache }) :=
    .bind (hidentity owner) fun made hmade => .pure (by rintro _ ⟨rfl⟩; exact hmade)
  refine Yields.bind_right fun _ => ?_
  split
  · exact .pure (by simp)
  · split
    · exact .pure (by simp)
    · refine Yields.bind_right fun valid => ?_
      split
      · exact .pure (by simp)
      · refine Yields.bind_right fun asked => ?_
        split
        · exact .pure (by simp)
        · dsimp only
          split
          · exact Yields.bind_right fun _ => hlogin _
          · exact hlogin _

/-- An acquisition in which a keytab login leaves its private cache behind. -/
def LeavesCache (tools : KerberosTools) (settings : LoginSettings) (spec : PrincipalSpec)
    (world : World) : Prop :=
  spec.ticketCache = none ∧ spec.principal.isEmpty = false ∧
    ∃ keytab, spec.keytab = some keytab ∧
      tools.LoginLeaves settings spec.principal keytab world

theorem not_leavesCache_of_ticketCache (tools : KerberosTools) (settings : LoginSettings)
    {spec : PrincipalSpec} {cache : Path} (h : spec.ticketCache = some cache) (world : World) :
    ¬ tools.LeavesCache settings spec world := by
  rintro ⟨hnone, -⟩
  simp [h] at hnone

theorem not_leavesCache_of_usesAmbient (tools : KerberosTools) (settings : LoginSettings)
    {spec : PrincipalSpec} (h : spec.usesAmbient = true) (world : World) :
    ¬ tools.LeavesCache settings spec world := by
  rintro ⟨-, hprincipal, keytab, hkeytab, -⟩
  simp [PrincipalSpec.usesAmbient, hprincipal, hkeytab] at h

theorem leavesCache_iff (tools : KerberosTools) (settings : LoginSettings) {spec : PrincipalSpec}
    {keytab : Path} (hcache : spec.ticketCache = none) (hprincipal : spec.principal.isEmpty = false)
    (hkeytab : spec.keytab = some keytab) (world : World) :
    tools.LeavesCache settings spec world ↔
      tools.LoginLeaves settings spec.principal keytab world := by
  simp [LeavesCache, hcache, hkeytab, hprincipal]

theorem ticketCache_cacheFiles (tools : KerberosTools) (acquirer : Acquirer)
    (hprovider : acquirer.provider = tools.provider) (principal : String) (cache : Path)
    (config : Configuration) (world : World) :
    ∃ result given next,
      acquirer.fromTicketCache principal cache config world = .ok ⟨result, given⟩ next ∧
        tools.cacheFiles next = tools.cacheFiles world ∧
          ∀ identity, result = .ok identity → identity.source = .ticketCache := by
  unfold Acquirer.fromTicketCache
  cases Acquirer.missing? acquirer.settings config with
  | some key => exact ⟨_, _, world, rfl, rfl, by simp⟩
  | none =>
      have hkeeps := fromTicketCache_keeps tools principal cache acquirer.settings world
      obtain ⟨⟨result, hend⟩, -⟩ :=
        tools.provider_obeys.fromTicketCache principal cache acquirer.settings world
      have hsource :=
        fromTicketCache_source tools principal cache acquirer.settings world result hend
      rw [hprovider]
      refine ⟨_, _, _, bind_of_ok (eq_ok_of_ending hend) _, cacheFiles_of_fileTest hkeeps tools, ?_⟩
      intro identity hidentity
      cases result with
      | error cause => exact absurd hidentity (by simp [Acquirer.blame, Except.mapError])
      | ok found => exact hsource identity hidentity

/-- What an acquisition does to the private caches: a failed one may leave one behind, a successful
one can have made one for its identity. -/
theorem acquire_cacheFiles (tools : KerberosTools) (acquirer : Acquirer)
    (hprovider : acquirer.provider = tools.provider) (spec : PrincipalSpec)
    (config : Configuration) (world : World)
    (hfresh : privateName spec.principal world.nextId ∉ tools.cacheFiles world) :
    let acquire := acquirer.acquire spec (some config)
    (∃ cause given next, acquire world = .ok ⟨.error cause, given⟩ next ∧
      tools.cacheFiles next = tools.cacheFiles world ∪
        { name | name = privateName spec.principal world.nextId ∧
          tools.LeavesCache acquirer.settings spec world }) ∨
    (∃ identity given next, acquire world = .ok ⟨.ok identity, given⟩ next ∧
      ¬ tools.LeavesCache acquirer.settings spec world ∧
        (((identity = world.current ∨ identity.source ≠ .keytab) ∧
            tools.cacheFiles next = tools.cacheFiles world) ∨
          ∃ time, identity = tools.keytabIdentity spec.principal world.nextId time ∧
            tools.cacheFiles next \ {privateName spec.principal world.nextId} =
              tools.cacheFiles world)) := by
  intro acquire
  rcases spec.source_cases with ⟨cache, hcache⟩ | hambient | ⟨hcache, hprincipal, keytab, hkeytab⟩
  · have hnone := not_leavesCache_of_ticketCache tools acquirer.settings hcache world
    obtain ⟨result, given, next, hlogin, hfiles, hsource⟩ :=
      ticketCache_cacheFiles tools acquirer hprovider spec.principal cache config world
    rw [← Acquirer.acquire_of_ticketCache acquirer hcache] at hlogin
    cases result with
    | error cause =>
        left
        refine ⟨cause, given, next, hlogin, ?_⟩
        simp only [hnone, and_false, Set.ofPred_false, Set.union_empty]
        exact hfiles
    | ok identity =>
        right
        refine ⟨identity, given, next, hlogin, hnone, .inl ⟨.inr ?_, hfiles⟩⟩
        rw [hsource identity rfl]
        decide
  · right
    have hnone := not_leavesCache_of_usesAmbient tools acquirer.settings hambient world
    obtain ⟨records, hfall⟩ := Acquirer.fallBack_eq spec (some config) world
    rw [← Acquirer.acquire_of_usesAmbient acquirer hambient] at hfall
    exact ⟨world.current, _, _, hfall, hnone, .inl ⟨.inl rfl, rfl⟩⟩
  · have hacquire : acquire = acquirer.fromKeytab spec.principal keytab (some config) :=
      Acquirer.acquire_of_keytab acquirer hcache hkeytab hprincipal _
    rw [hacquire, Acquirer.fromKeytab, hprovider,
      leavesCache_iff tools acquirer.settings hcache hprincipal hkeytab]
    rcases fromKeytab_cacheFiles tools spec.principal keytab acquirer.settings world hfresh with
      ⟨cause, next, hlogin, hfiles⟩ | ⟨time, next, hlogin, hfiles, hnone⟩
    · exact .inl ⟨_, _, next, bind_of_ok hlogin _, hfiles⟩
    · exact .inr ⟨_, _, next, bind_of_ok hlogin _, hnone, .inr ⟨time, rfl, hfiles⟩⟩

theorem release_of_otherSource (tools : KerberosTools) {identity : Identity}
    (h : identity.source ≠ .keytab) (world : World) :
    tools.release identity world = .ok (.ok ()) world := by
  unfold release
  cases identity.cache with
  | none => rfl
  | some cache =>
      dsimp only
      rw [if_pos (by simp [h])]
      rfl

theorem release_keytabIdentity (tools : KerberosTools) (principal : String) (id : Uuid)
    (time : Time.Timestamp) (world : World) :
    tools.release (tools.keytabIdentity principal id time) world =
      match world.files.removeFile (tools.privateCache principal id) with
      | .ok files => .ok (.ok ()) { world with files := files }
      | .error cause => .ok (if cause = .notFound then .ok () else .error (.io cause)) world := by
  have howned := ownsCache_privateCache tools principal id
  unfold release keytabIdentity
  dsimp only
  rw [howned, if_neg (by decide), get_bind]
  cases world.files.removeFile (tools.privateCache principal id) with
  | ok files => rfl
  | error cause => cases cause <;> rfl

theorem cacheFiles_release (tools : KerberosTools) (principal : String) (id : Uuid)
    (time : Time.Timestamp) (world : World) :
    tools.cacheFiles (after (tools.release (tools.keytabIdentity principal id time)) world) =
      tools.cacheFiles world \ {privateName principal id} := by
  have hname := privateName_isName principal id
  rw [after, release_keytabIdentity]
  cases hremove : world.files.removeFile (tools.privateCache principal id) with
  | ok files => exact FileTree.filesIn_removeFile tools.cacheDir hname hremove
  | error cause =>
      have habsent : privateName principal id ∉ tools.cacheFiles world := by
        rintro ⟨-, hfile⟩
        obtain ⟨next, hnext⟩ := FileTree.removeFile_of_isFile hname hfile
        cases hnext.symm.trans hremove
      exact (Set.sdiff_singleton_eq_self habsent).symm

theorem cacheFiles_acquired (tools : KerberosTools) {name : String} {world acquired : World}
    (hunused : name ∉ tools.cacheFiles world)
    (h : tools.cacheFiles acquired = tools.cacheFiles world ∨
      tools.cacheFiles acquired \ {name} = tools.cacheFiles world) :
    tools.cacheFiles acquired =
      tools.cacheFiles world ∪ { other | other = name ∧ name ∈ tools.cacheFiles acquired } := by
  rcases h with h | h
  · rw [h]
    simp [hunused]
  · ext other
    rw [← h]
    by_cases hother : other = name
    · simp [hother]
    · simp [hother]

section Run

variable {α : Type} (tools : KerberosTools) (scope : Scope)
  (hprovider : scope.acquirer.provider = tools.provider)

include hprovider

theorem files_finish (identity inherited : Identity) (result : Except Panic α)
    (world : World) :
    (after (scope.finish identity inherited result) world).files =
      if identity.same inherited then world.files
      else (after (tools.release identity) world).files := by
  have hresume (next : World) :
      (after (Scope.resume result) next).files = next.files := by
    cases result <;> rfl
  have hwarned (next : World) : (after (scope.acquirer.release identity) next).files =
      (after (tools.release identity) next).files := by
    unfold Acquirer.release
    rw [hprovider]
    show (after (tools.release identity >>= _) next).files = _
    rw [after_bind]
    rcases ending (tools.release identity) next with panic | (cause | released) <;> rfl
  have hrelease (next : World) :
      (after (scope.release identity inherited) next).files =
        if identity.same inherited then next.files
        else (after (tools.release identity) next).files := by
    unfold Scope.release
    split
    · rfl
    · exact hwarned next
  unfold Scope.finish
  rw [← hrelease, after_bind]
  cases ending (scope.release identity inherited) world with
  | ok _ => exact hresume _
  | error panic => rfl

theorem cacheFiles_finish (identity inherited : Identity) (result : Except Panic α)
    (world : World) :
    tools.cacheFiles (after (scope.finish identity inherited result) world) =
      if identity.same inherited then tools.cacheFiles world
      else tools.cacheFiles (after (tools.release identity) world) := by
  rw [cacheFiles, files_finish tools scope hprovider]
  split <;> rfl

theorem cacheFiles_finish_of_acquired {principal : String} {identity : Identity}
    {world acquired left : World} (hfresh : tools.FreshCache principal world)
    (hmade : ((identity = world.current ∨ identity.source ≠ .keytab) ∧
        tools.cacheFiles acquired = tools.cacheFiles world) ∨
      ∃ time, identity = tools.keytabIdentity principal world.nextId time ∧
        tools.cacheFiles acquired \ {privateName principal world.nextId} =
          tools.cacheFiles world)
    (result : Except Panic α) (hleft : Same tools.cacheFiles acquired left) :
    tools.cacheFiles (after (scope.finish identity world.current result) left) =
      tools.cacheFiles world := by
  rw [cacheFiles_finish tools scope hprovider]
  -- The release is skipped for an inherited identity and does nothing for one from a cache.
  rcases hmade with ⟨rfl | hsource, hfiles⟩ | ⟨time, rfl, hfiles⟩
  · rw [if_pos (Identity.same_self _), hleft, hfiles]
  · rw [after_eq_of_ok (release_of_otherSource tools hsource _), ite_self, hleft, hfiles]
  · have hother : (tools.keytabIdentity principal world.nextId time).same
        world.current = false := Identity.same_of_otherCache hfresh.notCurrent
    rw [hother, if_neg (by decide), cacheFiles_release, hleft, hfiles]

/-- The cache of a successful keytab login that `kinit` wrote, and that the panic of the call leaves
behind: the release comes after the call. -/
def AbandonsCache (spec : PrincipalSpec) (config : Configuration)
    (body : Identity → Configuration → Launch (Launch α)) (world : World) : Prop :=
  ∃ identity given acquired panic left,
    scope.acquirer.acquire spec (some config) world = .ok ⟨.ok identity, given⟩ acquired ∧
      privateName spec.principal world.nextId ∈ tools.cacheFiles acquired ∧
      body identity (given.getD config) (scope.entered identity acquired) = .error panic left

omit hprovider in
theorem abandonsCache_iff {spec : PrincipalSpec} {config : Configuration} {identity : Identity}
    {given : Option Configuration} {world acquired : World}
    (hacquired : scope.acquirer.acquire spec (some config) world =
      .ok ⟨.ok identity, given⟩ acquired)
    (body : Identity → Configuration → Launch (Launch α)) :
    tools.AbandonsCache scope spec config body world ↔
      privateName spec.principal world.nextId ∈ tools.cacheFiles acquired ∧
        ∃ panic left,
          body identity (given.getD config) (scope.entered identity acquired) =
            .error panic left := by
  constructor
  · rintro ⟨_, _, _, panic, left, hother, hwritten, hcall⟩
    cases hacquired.symm.trans hother
    exact ⟨hwritten, panic, left, hcall⟩
  · rintro ⟨hwritten, panic, left, hcall⟩
    exact ⟨identity, given, acquired, panic, left, hacquired, hwritten, hcall⟩

/-- Once a scope has ended, in whatever way, the private caches are those from before, but for
one that a failed `kinit` wrote and for one that the panic of a call left unreleased. -/
theorem cacheFiles_enter (spec : PrincipalSpec) (config : Configuration)
    (body : Identity → Configuration → Launch (Launch α))
    (hcall : ∀ identity config, Respects (Same tools.cacheFiles) (body identity config))
    (hbody : ∀ identity config, Yields (Respects (Same tools.cacheFiles)) (body identity config))
    (world : World) (hfresh : tools.FreshCache spec.principal world) :
    tools.cacheFiles (after (scope.enter spec config body) world) =
      tools.cacheFiles world ∪
        { name | name = privateName spec.principal world.nextId ∧
          (tools.LeavesCache scope.acquirer.settings spec world ∨
            tools.AbandonsCache scope spec config body world) } := by
  rcases acquire_cacheFiles tools scope.acquirer hprovider spec config world hfresh.unused with
    ⟨cause, given, next, hacquire, hfiles⟩ | ⟨identity, given, acquired, hacquire, hnone, hmade⟩
  · have hcalled : ¬ tools.AbandonsCache scope spec config body world := by
      rintro ⟨_, _, _, _, _, hother, -⟩
      cases hacquire.symm.trans hother
    rw [after_eq_of_ok (Scope.enter_of_refused scope hacquire body), hfiles]
    simp only [hcalled, or_false]
  · have habandons := abandonsCache_iff tools scope hacquire body
    have hview (world : World) (login : Identity) (guest : Option Identity) (events : List Event) :
        tools.cacheFiles { world with login := login, guest := guest, events := events } =
          tools.cacheFiles world := rfl
    have hkept : Same tools.cacheFiles acquired _ := IsTrans.trans _ _ _
      (Scope.same_entered hview scope identity acquired)
      (hcall identity (given.getD config) (scope.entered identity acquired))
    simp only [hnone, false_or]
    cases hend : body identity (given.getD config) (scope.entered identity acquired) with
    | error panic called =>
        rw [after_eq_of_panic hend] at hkept
        have habandoned : Same tools.cacheFiles acquired _ := IsTrans.trans _ _ _ hkept
          (Scope.same_abandoned hview (fun _ _ => rfl) scope world.login called)
        rw [after_eq_of_panic (Scope.enter_of_thrown scope hacquire _ hend), habandoned]
        have hiff : tools.AbandonsCache scope spec config body world ↔
            privateName spec.principal world.nextId ∈ tools.cacheFiles acquired :=
          habandons.trans (and_iff_left ⟨panic, called, hend⟩)
        simp only [hiff]
        exact cacheFiles_acquired tools hfresh.unused
          (hmade.imp (fun h => h.2) fun ⟨_, _, hfiles⟩ => hfiles)
    | ok x called =>
        have hcalled : ¬ tools.AbandonsCache scope spec config body world := by
          rw [habandons]
          rintro ⟨-, panic, left, hcall⟩
          cases hend.symm.trans hcall
        rw [after_eq_of_ok hend] at hkept
        have hbound : Same tools.cacheFiles acquired (scope.bound identity called) :=
          IsTrans.trans _ _ _ hkept (Scope.same_bound hview scope identity called)
        have hran := hbody identity (given.getD config) _ x (ending_eq_of_ok hend)
          (scope.bound identity called)
        have hleft : Same tools.cacheFiles acquired _ := IsTrans.trans _ _ _
          (IsTrans.trans _ _ _ hbound hran)
          (Scope.same_outside hview scope world.login called.guest _)
        simp only [hcalled, and_false, Set.ofPred_false, Set.union_empty]
        rw [after_congr (Scope.enter_of_returned scope hacquire _ hend), after_map]
        exact cacheFiles_finish_of_acquired tools scope hprovider hfresh hmade _ hleft

end Run

/-- A `kinit` that writes the cache and then exits with the code. -/
def writingKinit (code : Nat) : Tool :=
  .scripted "kinit" ⟨.exited code, [], []⟩ default true

/-- A world with a keytab and a `kinit` in the root directory. -/
def kinitWorld (kinit : Tool) : World :=
  .start ⟨[], [(["etl.keytab"], .file [] none), (["kinit"], .file [] (some (.tool kinit)))]⟩
    .empty "root" ⟨"root", .ambient, none, none, default⟩ default default

/-- A `kinit` and no other tool; its caches go to the root directory. -/
def onlyKinit : KerberosTools :=
  ⟨some ⟨"/kinit"⟩, none, ⟨"/"⟩⟩

def keytabSpec : PrincipalSpec :=
  ⟨"etl", none, some ⟨"etl.keytab"⟩⟩

theorem leavesCache_failing :
    onlyKinit.LeavesCache .none keytabSpec (kinitWorld (writingKinit 1)) := by
  let kinit := spawn ⟨"/kinit"⟩ (onlyKinit.kinitArgs "etl" ⟨"etl.keytab"⟩ default) []
  let start := after freshId (kinitWorld (writingKinit 1))
  have hfailed : ((ending kinit start).toOption.bind fun spawned =>
      spawned.toOption.filter fun output => !output.status.isSuccess).isSome = true := by
    decide +kernel
  have hwritten :
      (after kinit start).files.isFile (onlyKinit.privateCache "etl" default) = true := by
    decide +kernel
  have hkeytab : (kinitWorld (writingKinit 1)).files.isFile ⟨"etl.keytab"⟩ = true := by
    decide +kernel
  obtain ⟨spawned, output, hend, hfound⟩ := exists_ending_of_isSome hfailed
  rw [Option.filter_eq_some_iff, Bool.not_eq_true'] at hfound
  cases spawned with
  | error cause => cases hfound.1
  | ok _ =>
      cases hfound.1
      exact ⟨rfl, by decide, ⟨"etl.keytab"⟩, rfl, ⟨"/kinit"⟩, output, hkeytab, rfl, hend, hfound.2,
        privateName_isName _ _, hwritten⟩

theorem abandonsCache_panicking (method : AuthenticationMethod) :
    onlyKinit.AbandonsCache ⟨⟨onlyKinit.provider, .none⟩, method, true⟩ keytabSpec .empty
      (fun _ _ => (throw (.text "boom") : Launch (Launch Unit))) (kinitWorld (writingKinit 0)) := by
  let acquirer : Acquirer := ⟨onlyKinit.provider, .none⟩
  let acquire := acquirer.acquire keytabSpec (some .empty)
  let world := kinitWorld (writingKinit 0)
  have hsome : ((ending acquire world).toOption.bind fun acquisition =>
      acquisition.result.toOption).isSome = true := by
    decide +kernel
  have hwritten : (after acquire world).files.isFile (onlyKinit.privateCache "etl" default) =
      true := by
    decide +kernel
  obtain ⟨⟨result, given⟩, identity, hend, hresult⟩ := exists_ending_of_isSome hsome
  cases result with
  | error cause => cases hresult
  | ok _ =>
      cases hresult
      exact ⟨identity, given, _, _, _, eq_ok_of_ending hend, ⟨privateName_isName _ _, hwritten⟩,
        rfl⟩

/-- After a `kinit` that fails, and after a call that panics in either method, the scope has ended
and the cache is still there. -/
theorem cacheFiles_enter_left :
    let name := privateName "etl" default
    let failing := kinitWorld (writingKinit 1)
    let writing := kinitWorld (writingKinit 0)
    let scope (method : AuthenticationMethod) : Scope :=
      ⟨⟨onlyKinit.provider, .none⟩, method, true⟩
    name ∉ onlyKinit.cacheFiles failing ∧ name ∉ onlyKinit.cacheFiles writing ∧
      onlyKinit.cacheFiles (after ((scope .impersonation).enter keytabSpec .empty fun _ _ =>
          (pure (pure ()) : Launch (Launch Unit))) failing) =
        onlyKinit.cacheFiles failing ∪ {name} ∧
      ∀ method, onlyKinit.cacheFiles (after ((scope method).enter keytabSpec .empty fun _ _ =>
          (throw (.text "boom") : Launch (Launch Unit))) writing) =
        onlyKinit.cacheFiles writing ∪ {name} := by
  intro name failing writing scope
  have hfailing : name ∉ onlyKinit.cacheFiles failing := by
    rintro ⟨-, hfile⟩
    exact absurd hfile (by decide +kernel)
  have hwriting : name ∉ onlyKinit.cacheFiles writing := by
    rintro ⟨-, hfile⟩
    exact absurd hfile (by decide +kernel)
  refine ⟨hfailing, hwriting, ?_, fun method => ?_⟩
  · have hrun := cacheFiles_enter onlyKinit (scope .impersonation) rfl keytabSpec .empty
      (fun _ _ => (pure (pure ()) : Launch (Launch Unit))) (fun _ _ => .pure _)
      (fun _ _ => .pure (.pure ())) failing ⟨hfailing, rfl⟩
    have hleaves : onlyKinit.LeavesCache (scope .impersonation).acquirer.settings keytabSpec
        failing := leavesCache_failing
    simp only [hleaves, true_or, and_true] at hrun
    exact hrun
  · have hrun := cacheFiles_enter onlyKinit (scope method) rfl keytabSpec .empty
      (fun _ _ => (throw (.text "boom") : Launch (Launch Unit))) (fun _ _ => .throw _)
      (fun _ _ => fun _ _ h => by cases h) writing ⟨hwriting, rfl⟩
    have habandons : onlyKinit.AbandonsCache (scope method) keytabSpec .empty
        (fun _ _ => (throw (.text "boom") : Launch (Launch Unit))) writing :=
      abandonsCache_panicking method
    simp only [habandons, or_true, and_true] at hrun
    exact hrun

end KerberosTools

end ActionLauncher
