import ActionLauncher.Configuration.Wire
import ActionLauncher.Proofs.JsonGrammar
import ActionLauncher.Proofs.JsonRecords
import ActionLauncher.Proofs.TableLaws

namespace ActionLauncher.Table

open Json (Braced Spaced textMembers)

variable {config : Configuration}

theorem toJson_eq (config : Configuration) :
    config.toJson = .object (textMembers config.entries) := by
  rw [toJson, Json.ofMembers, List.map_map]
  rfl

theorem entryOfMember?_eq_some_iff {member : Option String × Json} {entry : String × String} :
    entryOfMember? member = some entry ↔ member = (some entry.1, .text entry.2) := by
  constructor
  · intro h
    unfold entryOfMember? at h
    split at h
    · cases h
      rfl
    · cases h
  · rintro rfl
    rfl

theorem mapM_entryOfMember?_eq_some_iff {members : List (Option String × Json)}
    {entries : List (String × String)} :
    members.mapM entryOfMember? = some entries ↔ members = textMembers entries := by
  induction members generalizing entries with
  | nil => cases entries <;> simp [textMembers]
  | cons member members ih =>
      rw [List.mapM_cons]
      constructor
      · intro h
        obtain ⟨entry, hentry, h⟩ := Option.bind_eq_some_iff.1 h
        obtain ⟨others, hothers, h⟩ := Option.bind_eq_some_iff.1 h
        cases h
        rw [entryOfMember?_eq_some_iff.1 hentry, ih.1 hothers]
        rfl
      · intro h
        cases entries with
        | nil => cases h
        | cons entry entries =>
            obtain ⟨hmember, hmembers⟩ := List.cons.inj h
            rw [entryOfMember?_eq_some_iff.2 hmember, ih.2 hmembers]
            rfl

theorem ofJson?_eq_some_iff {v : Json} :
    ofJson? v = some config ↔
      ∃ members, v = .object (textMembers members) ∧ config = ofList members := by
  cases v with
  | object found =>
      simp only [ofJson?, Option.map_eq_some_iff, mapM_entryOfMember?_eq_some_iff,
        Json.object.injEq, eq_comm]
  | _ => simp [ofJson?]

theorem ofText?_eq_some_iff {text : String} :
    ofText? text = some config ↔
      ∃ members, Spaced (Braced members) text.toList ∧ config = ofList members := by
  simp only [ofText?, Option.bind_eq_some_iff, ofJson?_eq_some_iff]
  constructor
  · rintro ⟨_, hread, members, rfl, rfl⟩
    exact ⟨members, Json.ofText?_object_iff.1 hread, rfl⟩
  · rintro ⟨members, hspaced, rfl⟩
    exact ⟨_, Json.ofText?_object_iff.2 hspaced, members, rfl, rfl⟩

theorem jsonText_spaced (config : Configuration) :
    Spaced (Braced config.entries) config.jsonText.toList := by
  have hholds : (Json.object (textMembers config.entries)).holds 1 = true := by
    simp [Json.holds, Json.holdsMembers_eq_all, textMembers, Json.text]
  rw [← Json.ofText?_object_iff, jsonText, toJson_eq]
  exact Json.ofText?_render hholds

theorem ofText?_jsonText (config : Configuration) : ofText? config.jsonText = some config :=
  ofText?_eq_some_iff.2 ⟨config.entries, jsonText_spaced config, (ofList_entries config).symm⟩

/-- The text of a configuration is an object with its entries as members, and is read as the same
configuration.  Any text is read exactly when it is an object of texts, in whatever spelling: its
members are set in textual order, so that a key has the place of its first member and the value of
its last one.  To write what was read and to read it again changes nothing. -/
theorem ofText?_exact (config : Configuration) (text : String) :
    Spaced (Braced config.entries) config.jsonText.toList ∧
      ofText? config.jsonText = some config ∧
      (∀ found, ofText? text = some found ↔
        ∃ members, Spaced (Braced members) text.toList ∧ found = ofList members ∧
          found.keys = (members.map Prod.fst).eraseDups ∧
          ∀ key, found.get? key = members.reverse.lookup key) ∧
      ((ofText? text).bind fun found => ofText? found.jsonText) = ofText? text := by
  refine ⟨jsonText_spaced config, ofText?_jsonText config, fun found => ?_, ?_⟩
  · rw [ofText?_eq_some_iff]
    refine exists_congr fun members => and_congr_right fun _ => ?_
    refine ⟨?_, fun h => h.1⟩
    rintro rfl
    exact ⟨rfl, keys_ofList members, get?_ofList members⟩
  · cases ofText? text with
    | none => rfl
    | some found => exact ofText?_jsonText found

example :
    (ofText? "\x7b \"\\u0061\" : \"1\", \"b\":\"\\ud83d\\uDE00\",\n\"a\":\"\\/\"\x7d").map entries =
      some [("a", "/"), ("b", "😀")] := by
  cbv

end ActionLauncher.Table
