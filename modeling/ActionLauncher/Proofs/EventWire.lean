import Mathlib
import ActionLauncher.Event.Wire
import ActionLauncher.Proofs.JsonRecords
import ActionLauncher.Proofs.JsonRoundTrip
import ActionLauncher.Proofs.Timestamps

namespace ActionLauncher

namespace Uuid

/-! ### Identifiers -/

theorem ungroup?_group {digits : List Char} (h : digits.length = 32) :
    ungroup? (group digits) = some digits := by
  have hjoin : digits.take 8 ++ (digits.drop 8).take 4 ++ (digits.drop 12).take 4 ++
      (digits.drop 16).take 4 ++ digits.drop 20 = digits := by
    have hfour (n : Nat) : (digits.drop n).take 4 ++ digits.drop (n + 4) = digits.drop n := by
      rw [← List.drop_drop, List.take_append_drop]
    simp only [List.append_assoc, hfour 16, hfour 12, hfour 8, List.take_append_drop]
  have hparts : (group digits).take 8 ++ ((group digits).drop 9).take 4 ++
      ((group digits).drop 14).take 4 ++ ((group digits).drop 19).take 4 ++
      (group digits).drop 24 = digits := by
    simpa [group, List.take_append, List.drop_append, List.drop_take, h] using hjoin
  rw [ungroup?]
  simp only [hparts, if_true]

theorem read?_render (id : Uuid) : read? id.render = some id := by
  have hlength : id.digits.length = 32 := Text.fixedDigits_length 16 32 _
  have hgroup : (group id.digits).length = 36 := by
    simp [group, hlength]
  have hvalue : Text.digitsValue? 16 0 id.digits = some id.bits.toNat :=
    Text.digitsValue?_fixedDigits_of_lt (by decide) (by decide) id.bits.isLt
  unfold read? render readChars?
  rw [String.toList_ofList, if_neg (by omega), if_pos hgroup, ofGrouped?, ungroup?_group hlength,
    Option.bind_some, ofDigits?, if_pos hlength, hvalue, Option.map_some, ofNat,
    BitVec.ofNat_toNat, BitVec.setWidth_eq]

end Uuid

namespace Json

/-! ### Numbers that can be held -/

theorem roundedTo53_le (n : Nat) : roundedTo53 n ≤ 2 * n := by
  rcases Nat.eq_zero_or_pos n with rfl | hpos
  · decide
  · have hunit : Nat.pow 2 (Nat.log2 n + 1 - 53) ≤ n :=
      Nat.le_trans (Nat.pow_le_pow_right (by decide) (by omega)) (Nat.log2_self_le (by omega))
    have hbelow : n / Nat.pow 2 (Nat.log2 n + 1 - 53) * Nat.pow 2 (Nat.log2 n + 1 - 53) ≤ n :=
      Nat.div_mul_le_self _ _
    unfold roundedTo53 nearestMultiple
    dsimp only
    split_ifs
    · omega
    · rw [Nat.succ_mul]
      omega

theorem tooLarge_of_lt {n : Nat} (h : n < 18446744073709551616) : tooLarge n 0 = false := by
  have hleading : leadingDigits n = (n, 0) := by
    rw [leadingDigits, if_pos h]
  have hone : roundedTo53 (Nat.pow 10 ((0 : Int) + (0 : Nat)).toNat) = 1 :=
    roundedTo53_of_log2_lt (by decide)
  have hrounded := roundedTo53_le n
  have hbound : 36893488147419103232 < doubleBound := by decide +kernel
  have hless : ¬ doubleBound ≤ roundedTo53 n := by omega
  have hexponent : ¬ (maxDecimalExponent : Int) < (0 : Int) + (0 : Nat) := by decide
  unfold tooLarge
  rw [hleading]
  dsimp only
  rw [if_neg hexponent, hone, Nat.mul_one, decide_eq_false hless, ite_self]

end Json

namespace Event

variable {outer : Nat}

/-! ### Reading what was written -/

theorem tag_eq_kind (event : Event) : event.tag = event.kind := by
  cases event <;> rfl

theorem word64?_toNat (n : UInt64) : word64? n.toNat = some n := by
  have hn := n.toNat_lt
  rw [word64?, if_pos (by omega), Int.toNat_natCast, UInt64.ofNat_toNat]

theorem signed32?_toInt (n : Int32) : signed32? n.toInt = some n := by
  have hlow := n.le_toInt
  have hhigh := n.toInt_lt
  rw [signed32?, if_pos (by omega), Int32.ofInt_toInt]

theorem fieldNames?_tag (event : Event) :
    fieldNames? event.tag = some (event.members.map Prod.fst) := by
  cases event <;> rfl

theorem nodup_members (event : Event) : ("type" :: event.members.map Prod.fst).Nodup := by
  cases event <;> simp [members]

theorem optionalText?_textOrNull {fields : Json.Fields} {name : String} {value : Option String}
    (h : fields.get? name = some (.textOrNull value)) :
    fields.optionalText? name = some value := by
  cases value <;> simp [Json.Fields.optionalText?, h, Json.textOrNull, Json.text]

theorem ofFields?_members (event : Event) : ofFields? event.tag ⟨event.members⟩ = some event := by
  -- An optional text is read alike from either of its forms, so these two go field by field.
  cases event with
  | outputsFlushed run count path written =>
      generalize hfields : (⟨members (.outputsFlushed run count path written)⟩ : Json.Fields) =
        fields
      have hrun : idField? fields "run_id" = some run := by
        simp [← hfields, members, idField?, Json.Fields.text?, Json.Fields.get?, Json.text,
          Uuid.read?_render]
      have hcount : (fields.integer? "count").bind word64? = some count := by
        have hvalue : fields.integer? "count" = some (count.toNat : Int) := by
          simp [← hfields, members, Json.Fields.integer?, Json.Fields.get?, List.lookup]
        rw [hvalue, Option.bind_some, word64?_toNat]
      have hpath : fields.optionalText? "path" = some path :=
        optionalText?_textOrNull (by simp [← hfields, members, Json.Fields.get?, List.lookup])
      have hwritten : fields.bool? "written" = some written := by
        simp [← hfields, members, Json.Fields.bool?, Json.Fields.get?, List.lookup]
      simp [ofFields?, tag, hrun, hcount, hpath, hwritten]
  | error message context =>
      have hcontext : Json.Fields.optionalText? ⟨members (.error message context)⟩
          "context" = some context :=
        optionalText?_textOrNull (by simp [members, Json.Fields.get?, List.lookup])
      have hmessage : Json.Fields.text? ⟨members (.error message context)⟩ "message" =
          some message := by
        simp [members, Json.Fields.text?, Json.Fields.get?, Json.text]
      simp [ofFields?, tag, hcontext, hmessage]
  | _ =>
      simp [ofFields?, tag, members, idField?, Json.Fields.text?, Json.Fields.integer?,
        Json.Fields.bool?, Json.Fields.get?, List.lookup, Json.text, Uuid.read?_render,
        signed32?_toInt]

theorem ofMembers?_members (event : Event) :
    ofMembers? event.tag (.ofMembers event.members) = some event := by
  have hnodup := (List.nodup_cons.1 event.nodup_members).2
  rw [ofMembers?, fieldNames?_tag, Option.bind_eq_bind, Option.bind_some,
    Json.fields?_ofMembers hnodup, Option.bind_eq_bind, Option.bind_some, ofFields?_members]

theorem holds_toJson (event : Event) {depth : Nat} (hdepth : 0 < depth) :
    event.toJson.holds depth = true := by
  have hcount (n : UInt64) : Json.tooLarge n.toNat 0 = false := Json.tooLarge_of_lt n.toNat_lt
  have hcode (n : Int32) : Json.tooLarge n.toInt.natAbs 0 = false := by
    have hlow := n.le_toInt
    have hhigh := n.toInt_lt
    exact Json.tooLarge_of_lt (by omega)
  have hoptional (value : Option String) :
      (Json.textOrNull value).holds (depth - 1) = true := by
    cases value <;> rfl
  cases event <;>
    simp [toJson, members, Json.ofMembers, Json.text, Json.holds, Json.holdsMembers, hdepth,
      hcount, hcode, hoptional]

/-- The members of an event in JSON, its tag in front. -/
def wireMembers (event : Event) : List (Option String × Json) :=
  Json.membersOf (("type", .text event.tag) :: event.members)

theorem member?_type (event : Event) :
    Json.member? "type" event.wireMembers = some (some (.text event.tag)) :=
  Json.member?_ofMembers event.nodup_members List.mem_cons_self

theorem filter_wireMembers (event : Event) :
    event.wireMembers.filter (fun m => m.1 != some "type") = Json.membersOf event.members := by
  have hnew : "type" ∉ event.members.map Prod.fst := (List.nodup_cons.1 event.nodup_members).1
  have hother : ∀ m ∈ Json.membersOf event.members, (m.1 != some "type") = true := by
    intro m hm
    obtain ⟨field, hfield, rfl⟩ := List.mem_map.1 hm
    have hne : field.1 ≠ "type" := fun heq => hnew (heq ▸ List.mem_map_of_mem hfield)
    simpa using hne
  rw [wireMembers, Json.membersOf, List.map_cons, List.filter_cons_of_neg (by simp)]
  exact List.filter_eq_self.2 hother

theorem ofNestedJson?_toJson (h : outer < Json.maxDepth) (event : Event) :
    ofNestedJson? outer event.toJson = some event := by
  have hholds : (Json.object event.wireMembers).holds (Json.maxDepth - outer) = true :=
    event.holds_toJson (by omega)
  change ofNestedJson? outer (.object event.wireMembers) = some event
  rw [ofNestedJson?, hholds]
  simp only [member?_type, Json.text, filter_wireMembers]
  exact event.ofMembers?_members

/-! ### Order and unknown members -/

/-- The name of a member that an event with the given members has. -/
inductive Known (members : List (Option String × Json)) : String → Prop
  | tag : Known members "type"
  | field {tag name : String} {names : List String}
      (htag : Json.member? "type" members = some (some (.text tag)))
      (hnames : fieldNames? tag = some names) (hname : name ∈ names) : Known members name

theorem known_wireMembers_iff {event : Event} {name : String} :
    Known event.wireMembers name ↔ name ∈ "type" :: event.members.map Prod.fst := by
  constructor
  · intro h
    cases h with
    | tag => exact List.mem_cons_self
    | field htag hnames hname =>
        rw [member?_type] at htag
        cases htag
        rw [fieldNames?_tag] at hnames
        cases hnames
        exact List.mem_cons_of_mem _ hname
  · intro h
    rcases List.mem_cons.1 h with rfl | h
    · exact .tag
    · exact .field event.member?_type event.fieldNames?_tag h

/-- What may be changed in the members of an event that is held as data of the given depth. -/
inductive Variation (depth : Nat) :
    List (Option String × Json) → List (Option String × Json) → Prop
  | order {members members' : List (Option String × Json)} (h : members.Perm members') :
      Variation depth members members'
  | unknown {members : List (Option String × Json)} {name : String} {value : Json}
      (hname : ¬ Known members name) (hvalue : value.holds (depth - 1) = true) :
      Variation depth members ((some name, value) :: members)

variable {members members' : List (Option String × Json)}

theorem ofNestedJson?_congr
    (hholds : (Json.object members).holds (Json.maxDepth - outer) =
      (Json.object members').holds (Json.maxDepth - outer))
    (htag : Json.member? "type" members = Json.member? "type" members')
    (hfields : ∀ tag names, Json.member? "type" members = some (some (.text tag)) →
      fieldNames? tag = some names →
      Json.fields? names (.object (members.filter fun m => m.1 != some "type")) =
        Json.fields? names (.object (members'.filter fun m => m.1 != some "type"))) :
    ofNestedJson? outer (.object members) = ofNestedJson? outer (.object members') := by
  simp only [ofNestedJson?, hholds, ← htag]
  congr 1
  split
  · next tag hfound =>
      unfold ofMembers?
      cases hnames : fieldNames? tag with
      | none => rfl
      | some names => simp [hfields tag names hfound hnames]
  · rfl

theorem ofNestedJson?_of_variation (h : Variation (Json.maxDepth - outer) members members') :
    ofNestedJson? outer (.object members) = ofNestedJson? outer (.object members') := by
  cases h with
  | order h =>
      exact ofNestedJson?_congr (Json.holds_object_perm h) (Json.member?_perm h "type")
        fun _ _ _ _ => Json.fields?_perm (h.filter _)
  | @unknown name value hname hvalue =>
      -- An unknown member is neither the tag nor a field that the tag asks for.
      have htype : name ≠ "type" := fun heq => hname (heq ▸ .tag)
      refine ofNestedJson?_congr (Json.holds_object_cons hvalue).symm
        (Json.member?_cons_of_ne htype).symm fun tag names htag hnames => ?_
      rw [List.filter_cons_of_pos (by simpa using htype)]
      exact (Json.fields?_cons_of_not_mem fun hmem => hname (.field htag hnames hmem)).symm

end Event

namespace Envelope

variable {members members' : List (Option String × Json)}

/-! ### Envelopes -/

def wireFields (envelope : Envelope) : List (String × Json) :=
  [("id", .text envelope.id.render), ("timestamp", .text envelope.timestamp.render),
    ("event", envelope.event.toJson)]

theorem ofJson?_toJson {envelope : Envelope} (h : envelope.timestamp.Proper) :
    ofJson? envelope.toJson = some envelope := by
  have hnodup : (envelope.wireFields.map Prod.fst).Nodup := by
    simp [wireFields]
  have hfields : envelope.toJson.fields? fieldNames = some ⟨envelope.wireFields⟩ :=
    Json.fields?_ofMembers hnodup
  have hid : Event.idField? ⟨envelope.wireFields⟩ "id" = some envelope.id := by
    simp [wireFields, Event.idField?, Json.Fields.text?, Json.Fields.get?, Json.text,
      Uuid.read?_render]
  have htimestamp : Json.Fields.text? ⟨envelope.wireFields⟩ "timestamp" =
      some envelope.timestamp.render := by
    simp [wireFields, Json.Fields.text?, Json.Fields.get?, List.lookup, Json.text]
  have hevent : Json.Fields.get? ⟨envelope.wireFields⟩ "event" = some envelope.event.toJson := by
    simp [wireFields, Json.Fields.get?, List.lookup]
  simp [ofJson?, hfields, hid, htimestamp, hevent, Time.Timestamp.read?_render h,
    Event.ofNestedJson?_toJson (show 1 < Json.maxDepth by decide)]

/-- What may be changed in the members of an envelope: their order, unknown ones, and the members
of the event, which stands inside the object of the envelope. -/
inductive Variation :
    List (Option String × Json) → List (Option String × Json) → Prop
  | order {members members' : List (Option String × Json)} (h : members.Perm members') :
      Variation members members'
  | unknown {members : List (Option String × Json)} {name : String} {value : Json}
      (hname : name ∉ fieldNames) : Variation members ((some name, value) :: members)
  | event {members inner inner' : List (Option String × Json)}
      (h : Event.Variation (Json.maxDepth - 1) inner inner') :
      Variation ((some "event", .object inner) :: members)
        ((some "event", .object inner') :: members)

theorem ofJson?_event_congr {value value' : Json}
    (h : Event.ofNestedJson? 1 value = Event.ofNestedJson? 1 value') :
    ofJson? (.object ((some "event", value) :: members)) =
      ofJson? (.object ((some "event", value') :: members)) := by
  have hother (v : Json) (name : String) (hname : name ≠ "event") :
      Json.member? name ((some "event", v) :: members) = Json.member? name members :=
    Json.member?_cons_of_ne hname.symm
  have hself := Json.member?_cons_self "event"
  -- Only the number of members called `event` decides whether they are refused.
  have hrefused (v v' : Json)
      (hv : Json.fields? fieldNames (.object ((some "event", v) :: members)) = none) :
      Json.fields? fieldNames (.object ((some "event", v') :: members)) = none := by
    rw [Json.fields?_eq_none_iff] at hv ⊢
    simpa [fieldNames, hother, hself] using hv
  cases hfields : Json.fields? fieldNames (.object ((some "event", value) :: members)) with
  | none => simp [ofJson?, hfields, hrefused value value' hfields]
  | some fields =>
      cases hfields' : Json.fields? fieldNames (.object ((some "event", value') :: members)) with
      | none =>
          rw [hrefused value' value hfields'] at hfields
          cases hfields
      | some fields' =>
          have hsame (name : String) (hname : name ≠ "event") :
              fields.get? name = fields'.get? name := by
            rw [Json.get?_of_fields? hfields, Json.get?_of_fields? hfields',
              hother value name hname, hother value' name hname]
          have hevent : (fields.get? "event").bind (Event.ofNestedJson? 1) =
              (fields'.get? "event").bind (Event.ofNestedJson? 1) := by
            rw [Json.get?_of_fields? hfields, Json.get?_of_fields? hfields', hself, hself]
            split_ifs <;> simp [h]
          simp only [ofJson?, hfields, hfields', Event.idField?, Json.Fields.text?,
            hsame "id" (by decide), hsame "timestamp" (by decide), Option.bind_eq_bind,
            Option.bind_some]
          simp only [← Option.bind_assoc, hevent]

theorem ofJson?_of_variation (h : Variation members members') :
    ofJson? (.object members) = ofJson? (.object members') := by
  cases h with
  | order h => simp only [ofJson?, Json.fields?_perm h]
  | unknown hname => simp only [ofJson?, Json.fields?_cons_of_not_mem hname]
  | event h => exact ofJson?_event_congr (Event.ofNestedJson?_of_variation h)

end Envelope

/-! ### The whole format -/

/-- What a single change leaves alone is the same after any number of them, in either direction. -/
theorem eq_of_eqvGen {α β : Type} {r : α → α → Prop} {f : α → β}
    (hf : ∀ a b, r a b → f a = f b) {a b : α} (h : Relation.EqvGen r a b) : f a = f b := by
  induction h with
  | rel a b h => exact hf a b h
  | refl a => rfl
  | symm a b _ ih => exact ih.symm
  | trans a b c _ _ ih ih' => exact ih.trans ih'

theorem Event.ofText?_render (event : Event) : Event.ofText? event.toJson.render = some event := by
  have hread : Json.ofText? event.toJson.render = some event.toJson :=
    Json.ofText?_render (event.holds_toJson Nat.one_pos)
  rw [Event.ofText?, hread, Option.bind_some, Event.ofJson?,
    Event.ofNestedJson?_toJson (by decide)]

theorem Envelope.holds_toJson (envelope : Envelope) : envelope.toJson.holds 2 = true := by
  have hevent := envelope.event.holds_toJson Nat.one_pos
  simp [Envelope.toJson, Json.ofMembers, Json.text, Json.holds, Json.holdsMembers, hevent]

theorem Envelope.ofText?_render {envelope : Envelope} (h : envelope.timestamp.Proper) :
    Envelope.ofText? envelope.toJson.render = some envelope := by
  rw [Envelope.ofText?, Json.ofText?_render envelope.holds_toJson, Option.bind_some,
    Envelope.ofJson?_toJson h]

/-- An event is read back from its text, where its kind is the value of `type`, and so is an
envelope.  Texts whose members differ by their order and by unknown members, also in the event
of an envelope, are read alike.  The unknown members of an event have to be values that can be held
as data, those of an envelope may be any. -/
theorem wire_faithful :
    (∀ event : Event, Event.ofText? event.toJson.render = some event ∧
      ∃ members, Json.ofText? event.toJson.render = some (.object members) ∧
        Json.member? "type" members = some (some (.text event.kind))) ∧
    (∀ envelope : Envelope, envelope.timestamp.Proper →
      Envelope.ofText? envelope.toJson.render = some envelope) ∧
    (∀ (s s' : String) (members members' : List (Option String × Json)),
      Json.ofText? s = some (.object members) → Json.ofText? s' = some (.object members') →
        (Relation.EqvGen (Event.Variation Json.maxDepth) members members' →
          Event.ofText? s = Event.ofText? s') ∧
        (Relation.EqvGen Envelope.Variation members members' →
          Envelope.ofText? s = Envelope.ofText? s')) := by
  refine ⟨fun event => ⟨event.ofText?_render, event.wireMembers, ?_, ?_⟩,
    fun envelope h => Envelope.ofText?_render h, fun s s' members members' hs hs' => ⟨?_, ?_⟩⟩
  · exact Json.ofText?_render (event.holds_toJson Nat.one_pos)
  · rw [Event.member?_type, Event.tag_eq_kind]
  · intro h
    rw [Event.ofText?, Event.ofText?, hs, hs', Option.bind_some, Option.bind_some]
    exact eq_of_eqvGen (f := fun members => Event.ofJson? (.object members))
      (fun _ _ h => Event.ofNestedJson?_of_variation h) h
  · intro h
    rw [Envelope.ofText?, Envelope.ofText?, hs, hs', Option.bind_some, Option.bind_some]
    exact eq_of_eqvGen (f := fun members => Envelope.ofJson? (.object members))
      (fun _ _ h => Envelope.ofJson?_of_variation h) h

theorem wire_faithful_rearranged :
    let event : Event := .identityRestored "alice"
    let envelope : Envelope := ⟨.ofNat 7, ⟨1483228799, 1500000000⟩, event⟩
    Envelope.ofText? envelope.toJson.render = some envelope ∧
      Event.ofText? event.toJson.render = Event.ofText?
        "\x7b\"principal\": \"alice\", \"hint\": null, \"type\": \"identity.restored\"\x7d" ∧
      Envelope.ofText? envelope.toJson.render = Envelope.ofText?
        "\x7b\"event\": \x7b\"principal\": \"alice\", \"type\":
          \"identity.restored\"\x7d, \"x\": 1e400, \"id\":
          \"00000000-0000-0000-0000-000000000007\", \"timestamp\":
          \"2016-12-31T23:59:60.500Z\"\x7d" := by
  intro event envelope
  have hunknown : ¬ Event.Known event.wireMembers "hint" := by
    simp [Event.known_wireMembers_iff, event, Event.members]
  have hevent : Relation.EqvGen (Event.Variation Json.maxDepth) event.wireMembers
      [(some "principal", .text "alice"), (some "hint", .null),
        (some "type", .text "identity.restored")] :=
    .trans _ _ _ (.rel _ _ (.unknown hunknown rfl)) (.rel _ _ (.order
      (List.perm_append_singleton _ [_, _])))
  have hswapped : Event.Variation (Json.maxDepth - 1) event.wireMembers
      [(some "principal", .text "alice"), (some "type", .text "identity.restored")] :=
    .order (List.Perm.swap _ _ _)
  have henvelope : Relation.EqvGen Envelope.Variation
      [(some "id", .text envelope.id.render), (some "timestamp", .text envelope.timestamp.render),
        (some "event", .object event.wireMembers)]
      [(some "event", .object [(some "principal", .text "alice"),
          (some "type", .text "identity.restored")]),
        (some "x", .real ⟨false, 1, 400⟩), (some "id", .text envelope.id.render),
        (some "timestamp", .text envelope.timestamp.render)] :=
    .trans _ _ _ (.rel _ _ (.order (List.perm_append_singleton _ [_, _])))
      (.trans _ _ _ (.rel _ _ (.event hswapped))
        (.trans _ _ _ (.rel _ _ (.unknown (show "x" ∉ Envelope.fieldNames by decide)))
          (.rel _ _ (.order (List.Perm.swap _ _ _)))))
  have hread : Json.ofText? event.toJson.render = some event.toJson :=
    Json.ofText?_render (event.holds_toJson Nat.one_pos)
  refine ⟨wire_faithful.2.1 envelope ⟨by decide, by decide⟩,
    (wire_faithful.2.2 _ _ _ _ hread ?_).1 hevent,
    (wire_faithful.2.2 _ _ _ _ (Json.ofText?_render envelope.holds_toJson) ?_).2 henvelope⟩
  · cbv
  · cbv

/-- An unknown member of an event that cannot be held as data makes a difference. -/
theorem unknown_number_refused :
    Event.ofText? "\x7b\"type\":\"identity.restored\",\"principal\":\"alice\"\x7d" =
        some (.identityRestored "alice") ∧
      Event.ofText?
          "\x7b\"type\":\"identity.restored\",\"principal\":\"alice\",\"x\":1e400\x7d" =
        none := by
  constructor <;> cbv

end ActionLauncher
