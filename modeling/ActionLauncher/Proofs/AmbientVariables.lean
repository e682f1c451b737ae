import ActionLauncher.Proofs.PathSpelling
import ActionLauncher.Proofs.ProviderConduct
import ActionLauncher.Propagator

namespace ActionLauncher

open Launch

namespace OsText

theorem bind_text?_eq_some_iff {value : Option OsText} {s : String} :
    value.bind text? = some s ↔ value = some (.text s) := by
  rcases value with _ | (found | raw)
  · simp
  · simp [text?]
  · simp [text?]

end OsText

theorem Environment.get?_of_text {environment : Environment} {name value : String}
    (h : environment.texts.get? name = some value) :
    environment.get? name = some (.text value) := by
  rw [get?, h]
  rfl

namespace Provider

section WithoutStart

variable {first : Char} {others : List Char}

theorem withoutStart_of_none {s : List Char} (h : Text.Chars.after? (first :: others) s = none) :
    withoutStart first others s = s := by
  rw [withoutStart]
  split
  · rfl
  · rename_i hrest
    cases h.symm.trans hrest

theorem withoutStart_append (s : List Char) :
    withoutStart first others (first :: others ++ s) = withoutStart first others s := by
  conv_lhs => rw [withoutStart]
  split
  · rename_i hnone
    cases (Text.Chars.after?_append _ _).symm.trans hnone
  · rename_i rest hrest
    cases (Text.Chars.after?_append _ _).symm.trans hrest
    rfl

theorem after?_withoutStart (s : List Char) :
    Text.Chars.after? (first :: others) (withoutStart first others s) = none := by
  fun_induction withoutStart first others s with
  | case1 s h => exact h
  | case2 s rest h hlength ih => exact ih

theorem exists_replicate_withoutStart (s : List Char) : ∃ count,
    s = (List.replicate count (first :: others)).flatten ++ withoutStart first others s := by
  fun_induction withoutStart first others s with
  | case1 s h => exact ⟨0, rfl⟩
  | case2 s rest h hlength ih =>
      obtain ⟨count, hrest⟩ := ih
      refine ⟨count + 1, ?_⟩
      rw [List.replicate_succ, List.flatten_cons, List.append_assoc, ← hrest]
      exact Text.Chars.eq_append_of_after? h

theorem withoutStart_replicate (count : Nat) (s : List Char) :
    withoutStart first others ((List.replicate count (first :: others)).flatten ++ s) =
      withoutStart first others s := by
  induction count with
  | zero => rfl
  | succ count ih =>
      rw [List.replicate_succ, List.flatten_cons, List.append_assoc, withoutStart_append, ih]

end WithoutStart

/-- The value has the mark of a file-based cache in front. -/
def Marked (value : String) : Prop :=
  "FILE:".toList <+: value.toList

instance (value : String) : Decidable (Marked value) :=
  inferInstanceAs (Decidable (_ <+: _))

/-- This is left of a value when every such mark is taken from its front. -/
structure Unmarks (value rest : String) : Prop where
  marks : ∃ count,
    value.toList = (List.replicate count "FILE:".toList).flatten ++ rest.toList
  plain : ¬ Marked rest

def unmarked (value : String) : String :=
  String.ofList (withoutStart 'F' "ILE:".toList value.toList)

theorem toList_marked (rest : String) :
    ("FILE:" ++ rest).toList = 'F' :: "ILE:".toList ++ rest.toList := by
  rw [String.toList_append (s := "FILE:")]
  rfl

theorem toList_unmarked (value : String) :
    (unmarked value).toList = withoutStart 'F' "ILE:".toList value.toList :=
  String.toList_ofList

theorem marked_iff {value : String} : Marked value ↔ ∃ rest, value = "FILE:" ++ rest := by
  constructor
  · rintro ⟨rest, hrest⟩
    refine ⟨String.ofList rest, String.toList_inj.1 ?_⟩
    rw [toList_marked, String.toList_ofList (l := rest), ← hrest]
    rfl
  · rintro ⟨rest, rfl⟩
    exact ⟨rest.toList, (toList_marked rest).symm⟩

theorem unmarked_of_not_marked {value : String} (h : ¬ Marked value) : unmarked value = value := by
  have hnone : Text.Chars.after? ('F' :: "ILE:".toList) value.toList = none :=
    Text.Chars.after?_eq_none_iff.2 h
  rw [unmarked, withoutStart_of_none hnone, String.ofList_toList]

theorem unmarked_append (rest : String) : unmarked ("FILE:" ++ rest) = unmarked rest := by
  rw [unmarked, toList_marked, withoutStart_append, unmarked]

theorem not_marked_unmarked (value : String) : ¬ Marked (unmarked value) := by
  rw [Marked, toList_unmarked]
  exact Text.Chars.after?_eq_none_iff.1 (after?_withoutStart value.toList)

theorem unmarked_eq_iff {value rest : String} : unmarked value = rest ↔ Unmarks value rest := by
  constructor
  · rintro rfl
    obtain ⟨count, hmarks⟩ :=
      @exists_replicate_withoutStart 'F' "ILE:".toList value.toList
    exact ⟨⟨count, hmarks.trans (by rw [toList_unmarked]; rfl)⟩, not_marked_unmarked value⟩
  · rintro ⟨⟨count, hmarks⟩, hplain⟩
    refine Eq.trans ?_ (unmarked_of_not_marked hplain)
    rw [unmarked, unmarked, hmarks]
    exact congrArg String.ofList (withoutStart_replicate count rest.toList)

theorem variablePath?_eq_some_iff {value : Option OsText} {path : Path} :
    variablePath? value = some path ↔
      ∃ text, value = some (.text text) ∧ unmarked text = path.text ∧
        Text.isBlank path.text = false := by
  obtain ⟨spelling⟩ := path
  rw [variablePath?, Option.map_eq_some_iff]
  simp only [Text.nonBlank?_eq_some_iff, Option.map_eq_some_iff, OsText.bind_text?_eq_some_iff]
  constructor
  · rintro ⟨_, ⟨⟨text, rfl, hspelling⟩, hblank⟩, ⟨⟩⟩
    exact ⟨text, rfl, hspelling, hblank⟩
  · rintro ⟨text, rfl, hspelling, hblank⟩
    exact ⟨spelling, ⟨⟨text, rfl, hspelling⟩, hblank⟩, rfl⟩

theorem variablePath?_of_blank {text : String} (h : Text.isBlank (unmarked text) = true) :
    variablePath? (some (.text text)) = none := by
  refine Option.eq_none_iff_forall_ne_some.2 fun path hpath => ?_
  obtain ⟨_, ⟨⟩, hunmarked, hblank⟩ := variablePath?_eq_some_iff.1 hpath
  rw [hunmarked, hblank] at h
  cases h

theorem variablePath?_of_not_blank {text : String} (h : Text.isBlank (unmarked text) = false) :
    variablePath? (some (.text text)) = some ⟨unmarked text⟩ :=
  variablePath?_eq_some_iff.2 ⟨text, rfl, rfl, h⟩

/-- What the environment says of an ambient identity, besides its principal. -/
structure DescribedBy (world : World) (identity : Identity) : Prop where
  source : identity.source = .ambient
  cache : identity.cache = variablePath? (world.osEnvironment.get? Names.cacheVariable)
  tokens : identity.tokens = variablePath? (world.osEnvironment.get? Names.tokenFileVariable)

theorem ambientIdentity_eq (world : World) :
    ambientIdentity world = .ok ⟨ambientUser world, .ambient,
      variablePath? (world.osEnvironment.get? Names.cacheVariable),
      variablePath? (world.osEnvironment.get? Names.tokenFileVariable), world.clock⟩
      (after now world) :=
  rfl

theorem builtIn_ambient {provider : Provider}
    (h : provider = .simple ∨ ∃ tools : KerberosTools, provider = tools.provider)
    (world : World) : ∃ identity next, provider.ambient world = .ok (.ok identity) next ∧
      DescribedBy world identity := by
  have hambient := ambientIdentity_eq world
  rcases h with rfl | ⟨tools, rfl⟩
  · exact ⟨_, _, bind_of_ok hambient _, rfl, rfl, rfl⟩
  · show ∃ identity next, tools.ambient world = _ ∧ _
    unfold KerberosTools.ambient
    rw [bind_of_ok hambient]
    dsimp only
    cases hcache : variablePath? (world.osEnvironment.get? Names.cacheVariable) with
    | none => exact ⟨_, _, rfl, rfl, hcache.symm, rfl⟩
    | some cache =>
        dsimp only
        rw [get_bind]
        split
        · exact ⟨_, _, rfl, rfl, hcache.symm, rfl⟩
        · obtain ⟨⟨asked, hasked⟩, -⟩ := tools.askPrincipal_obeys standing_discipline
            (fun klist => KerberosTools.runTool_obeys standing_discipline
              (standing_spawn klist _ _) (ambientUser world)) (after now world)
          rw [bind_of_ok (eq_ok_of_ending hasked)]
          cases asked with
          | ok principal => exact ⟨_, _, rfl, rfl, hcache.symm, rfl⟩
          | error cause => exact ⟨_, _, rfl, rfl, hcache.symm, rfl⟩

/-- What stands in a variable is read alike by all that read it: it is a text, with no mark and not
blank unless it is empty. -/
def ReadAlike : Option OsText → Prop
  | none => True
  | some (.text text) => text ≠ "" → ¬ Marked text ∧ Text.isBlank text = false
  | some (.bytes _) => False

/-- The location and the path are the same, or there is neither. -/
inductive SameLocation : Option OsText → Option Path → Prop
  | absent : SameLocation none none
  | path {a b : Path} (h : a.same b = true) : SameLocation (some (.text a.text)) (some b)

/-- How the two readers of the token variable understand a value. -/
structure TokenReaders (value location : Option OsText) (tokens : Option Path) : Prop where
  /-- The propagator takes the value as it stands, be it a text or not. -/
  handedOn : ∀ path, location = some path ↔ value = some path ∧ path.isEmpty = false
  /-- The identity carries a text without marks, unless nothing is left. -/
  carried : ∀ path, tokens = some path ↔ ∃ text, value = some (.text text) ∧
    Unmarks text path.text ∧ Text.isBlank path.text = false
  agree_iff : SameLocation location tokens ↔ ReadAlike value
  identical : ReadAlike value → location = tokens.map fun path => .text path.text

theorem tokenFile_eq_some_iff {world : World} {path : OsText} :
    (Propagator.ofEnvironment world.osEnvironment).tokenFile = some path ↔
      world.osEnvironment.get? Names.tokenFileVariable = some path ∧ path.isEmpty = false := by
  rw [Propagator.ofEnvironment, Propagator.ofFile, Option.filter_eq_some_iff, Bool.not_eq_true']

theorem isEmpty_text_eq_false_iff {text : String} :
    (OsText.text text).isEmpty = false ↔ text ≠ "" :=
  String.isEmpty_eq_false_iff

section Location

variable {value location : Option OsText}
  (hlocation : ∀ path, location = some path ↔ value = some path ∧ path.isEmpty = false)

include hlocation

theorem location_of_none (h : value = none) : location = none := by
  refine Option.eq_none_iff_forall_ne_some.2 fun path hpath => ?_
  cases h.symm.trans ((hlocation path).1 hpath).1

theorem ReadAlike.identical (h : ReadAlike value) :
    location = (variablePath? value).map fun path => .text path.text := by
  rcases value with _ | (text | raw)
  · rw [location_of_none hlocation rfl]
    rfl
  · by_cases hempty : text = ""
    · subst hempty
      rw [variablePath?_of_blank (by rw [unmarked_of_not_marked (by decide)]; rfl)]
      refine Option.eq_none_iff_forall_ne_some.2 fun path hpath => ?_
      obtain ⟨⟨⟩, hne⟩ := (hlocation path).1 hpath
      cases hne
    · obtain ⟨hplain, hblank⟩ := h hempty
      have hunmarked := unmarked_of_not_marked hplain
      rw [variablePath?_of_not_blank (by rw [hunmarked, hblank]), hunmarked]
      exact (hlocation _).2 ⟨rfl, isEmpty_text_eq_false_iff.2 hempty⟩
  · exact h.elim

theorem readAlike_of_same (h : SameLocation location (variablePath? value)) :
    ReadAlike value := by
  rcases value with _ | (text | raw)
  · trivial
  · intro hne
    rw [(hlocation (.text text)).2 ⟨rfl, isEmpty_text_eq_false_iff.2 hne⟩] at h
    generalize htokens : variablePath? (some (.text text)) = tokens at h
    cases h with
    | @path spelled path hsame =>
        obtain ⟨_, ⟨⟩, hunmarked, hblank⟩ := variablePath?_eq_some_iff.1 htokens
        have hplain : ¬ Marked spelled.text := by
          intro hmarked
          have hmarked' :=
            Path.prefix_of_same hsame (by decide) ⟨'F', by decide, by decide⟩ hmarked
          rw [← hunmarked] at hmarked'
          exact not_marked_unmarked spelled.text hmarked'
        rw [← hunmarked, unmarked_of_not_marked hplain] at hblank
        exact ⟨hplain, hblank⟩
  · rw [(hlocation (.bytes raw)).2 ⟨rfl, rfl⟩] at h
    cases h

end Location

theorem sameLocation_map (tokens : Option Path) :
    SameLocation (tokens.map fun path => .text path.text) tokens := by
  cases tokens with
  | none => exact .absent
  | some path => exact .path (Path.same_iff.2 rfl)

/-- The propagator and the ambient identity of either provider agree on the tokens exactly if the
value of the variable is read alike: a mark in front of it is part of the location for the one and
not for the other, and a location that is blank or no text is one for the propagator only. -/
theorem tokens_agree_iff {provider : Provider}
    (h : provider = .simple ∨ ∃ tools : KerberosTools, provider = tools.provider)
    (world : World) : ∃ identity next, provider.ambient world = .ok (.ok identity) next ∧
      TokenReaders (world.osEnvironment.get? Names.tokenFileVariable)
        (Propagator.ofEnvironment world.osEnvironment).tokenFile
        identity.tokens := by
  obtain ⟨identity, next, hambient, hdescribed⟩ := builtIn_ambient h world
  refine ⟨identity, next, hambient, ?_⟩
  rw [hdescribed.tokens]
  constructor
  case handedOn => exact fun path => tokenFile_eq_some_iff
  case carried =>
    intro path
    simp only [variablePath?_eq_some_iff, unmarked_eq_iff]
  case agree_iff =>
    constructor
    · exact readAlike_of_same fun path => tokenFile_eq_some_iff
    · intro halike
      rw [halike.identical fun path => tokenFile_eq_some_iff]
      exact sameLocation_map _
  case identical => exact ReadAlike.identical fun path => tokenFile_eq_some_iff

/-- A location that is not UTF-8. -/
def faultyLocation : NotText :=
  ⟨"/tmp/tok".toUTF8.toList ++ [0xFF], by decide +kernel⟩

/-- A token file with a mark in front goes by two names, and one whose name is not UTF-8 goes by
none for the identity. -/
theorem tokens_agree_iff_marked :
    let world := World.start (.ofWorkingDir ["work"])
      (.ofList [(Names.tokenFileVariable, "FILE:tokens")]) "root" default default default
    let faulty : World := { World.start (.ofWorkingDir ["work"]) .empty "root" default default
      default with rawVariables := [(Names.tokenFileVariable, faultyLocation)] }
    (∃ identity next, simple.ambient world = .ok (.ok identity) next ∧
      (Propagator.ofEnvironment world.osEnvironment).location? =
        some "FILE:tokens" ∧
      identity.tokens = some ⟨"tokens"⟩ ∧
      ¬ ReadAlike (world.osEnvironment.get? Names.tokenFileVariable)) ∧
    ∃ identity next, simple.ambient faulty = .ok (.ok identity) next ∧
      (Propagator.ofEnvironment faulty.osEnvironment).tokenFile =
        some (.bytes faultyLocation) ∧
      identity.tokens = none ∧ ¬ ReadAlike (faulty.osEnvironment.get? Names.tokenFileVariable) := by
  intro world faulty
  constructor
  · obtain ⟨identity, next, hambient, hreaders⟩ := tokens_agree_iff (.inl rfl) world
    have hvalue : world.osEnvironment.get? Names.tokenFileVariable =
      some (.text "FILE:tokens") := rfl
    refine ⟨identity, next, hambient, by decide, ?_, ?_⟩
    · have hunmarked : unmarked "FILE:tokens" = "tokens" :=
        (unmarked_append "tokens").trans (unmarked_of_not_marked (by decide))
      exact (hreaders.carried ⟨"tokens"⟩).2
        ⟨"FILE:tokens", hvalue, unmarked_eq_iff.1 hunmarked, by decide⟩
    · rw [hvalue]
      intro halike
      exact (halike (by decide)).1 (by decide)
  · obtain ⟨identity, next, hambient, hreaders⟩ := tokens_agree_iff (.inl rfl) faulty
    have hvalue : faulty.osEnvironment.get? Names.tokenFileVariable =
      some (.bytes faultyLocation) := rfl
    refine ⟨identity, next, hambient, (hreaders.handedOn _).2 ⟨hvalue, rfl⟩, ?_, ?_⟩
    · refine Option.eq_none_iff_forall_ne_some.2 fun path hpath => ?_
      obtain ⟨text, htext, -⟩ := (hreaders.carried path).1 hpath
      cases hvalue.symm.trans htext
    · rw [hvalue]
      exact id

end Provider

end ActionLauncher
