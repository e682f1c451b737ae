import ActionLauncher.Json.Reader
import ActionLauncher.Proofs.JsonTokens

namespace ActionLauncher.Json

open Token (EndsNumber scan? scan?_of_next?)

variable {depth : Nat} {rest : List Char}

mutual

/-- The tokens of a value; those of items and members have commas between them. -/
def tokens : Json → List Token
  | .string s => [.quoted s]
  | .array items => .openArray :: (itemTokens items ++ [.closeArray])
  | .object members => .openObject :: (memberTokens members ++ [.closeObject])
  | v => [.value v]

def itemTokens : List Json → List Token
  | [] => []
  | [item] => tokens item
  | item :: next :: others => tokens item ++ .comma :: itemTokens (next :: others)

def memberTokens : List (Option String × Json) → List Token
  | [] => []
  | [(key, v)] => .quoted key :: .colon :: tokens v
  | (key, v) :: next :: others =>
      .quoted key :: .colon :: (tokens v ++ .comma :: memberTokens (next :: others))

end

/-! ### From the text to the tokens -/

theorem endsNumber_nil : EndsNumber [] := by
  refine ⟨?_, by simp, ?_⟩ <;> rintro c ⟨⟩

theorem endsNumber_mark {c : Char} (hc : c ∈ [',', ']', '\x7d']) : EndsNumber (c :: rest) := by
  have hall : ∀ d ∈ [',', ']', '\x7d'],
      Text.isDecimal d = false ∧ d ≠ '.' ∧ ¬ (d = 'e' ∨ d = 'E') := by
    simp [Text.isDecimal]
  obtain ⟨hdigit, hpoint, hexponent⟩ := hall c hc
  exact ⟨by rintro d ⟨⟩; exact hdigit, by simpa using hpoint, by rintro d ⟨⟩; exact hexponent⟩

mutual

theorem scan?_write : ∀ (v : Json) (depth : Nat) (rest : List Char), v.holds depth = true →
    EndsNumber rest → scan? (v.write ++ rest) = (scan? rest).map (v.tokens ++ ·)
  | .null, _, rest, _, _ => Token.scan?_null rest
  | .bool true, _, rest, _, _ => Token.scan?_true rest
  | .bool false, _, rest, _, _ => Token.scan?_false rest
  | .integer n, _, _, _, hrest => Token.scan?_writeInteger n hrest
  | .real r, _, _, _, hrest => Token.scan?_writeReal r hrest.digits
  | .string (some s), _, rest, _, _ => Token.scan?_writeText s rest
  | .array items, depth, rest, h, _ => by
      rw [holds, Bool.and_eq_true] at h
      have hitems := scan?_writeItems items (depth - 1) (']' :: rest) h.2
        (endsNumber_mark (by simp))
      simp only [write, List.cons_append, List.append_assoc, List.nil_append]
      rw [Token.scan?_openArray, hitems, Token.scan?_closeArray]
      simp [tokens, Function.comp_def]
  | .object members, depth, rest, h, _ => by
      rw [holds, Bool.and_eq_true] at h
      have hmembers := scan?_writeMembers members (depth - 1) ('\x7d' :: rest) h.2
        (endsNumber_mark (by simp))
      simp only [write, List.cons_append, List.append_assoc, List.nil_append]
      rw [Token.scan?_openObject, hmembers, Token.scan?_closeObject]
      simp [tokens, Function.comp_def]

theorem scan?_writeItems : ∀ (items : List Json) (depth : Nat) (rest : List Char),
    holdsItems depth items = true → EndsNumber rest →
    scan? (writeItems items ++ rest) = (scan? rest).map (itemTokens items ++ ·)
  | [], _, _, _, _ => by simp [writeItems, itemTokens]
  | [item], depth, rest, h, hrest => by
      rw [holdsItems, Bool.and_eq_true] at h
      exact scan?_write item depth rest h.1 hrest
  | item :: next :: others, depth, rest, h, hrest => by
      rw [holdsItems, Bool.and_eq_true] at h
      have hitem := scan?_write item depth (',' :: (writeItems (next :: others) ++ rest)) h.1
        (endsNumber_mark (by simp))
      have hothers := scan?_writeItems (next :: others) depth rest h.2 hrest
      rw [writeItems.eq_3 _ _ (by simp), List.append_assoc, List.cons_append, hitem,
        Token.scan?_comma, hothers]
      simp [itemTokens, Function.comp_def]

theorem scan?_writeMembers : ∀ (members : List (Option String × Json)) (depth : Nat)
    (rest : List Char), holdsMembers depth members = true → EndsNumber rest →
    scan? (writeMembers members ++ rest) = (scan? rest).map (memberTokens members ++ ·)
  | [], _, _, _, _ => by simp [writeMembers, memberTokens]
  | [(some key, v)], depth, rest, h, hrest => by
      rw [holdsMembers, Bool.and_eq_true, Bool.and_eq_true] at h
      have hv := scan?_write v depth rest h.1.2 hrest
      rw [writeMembers, Option.getD_some, List.append_assoc, List.cons_append,
        Token.scan?_writeText, Token.scan?_colon, hv]
      simp [memberTokens, Function.comp_def]
  | (some key, v) :: next :: others, depth, rest, h, hrest => by
      rw [holdsMembers, Bool.and_eq_true, Bool.and_eq_true] at h
      have hv := scan?_write v depth (',' :: (writeMembers (next :: others) ++ rest)) h.1.2
        (endsNumber_mark (by simp))
      have hothers := scan?_writeMembers (next :: others) depth rest h.2 hrest
      rw [writeMembers.eq_3 _ _ _ (by simp), Option.getD_some]
      simp only [List.append_assoc, List.cons_append]
      rw [Token.scan?_writeText, Token.scan?_colon, hv, Token.scan?_comma, hothers]
      simp [memberTokens, Function.comp_def]

end

/-! ### From the tokens to the value -/

namespace Reading

variable {stack : List Frame}

theorem run?_cons {reading next : Reading} {token : Token} {rest : List Token}
    (h : step? reading token = some next) : run? reading (token :: rest) = run? next rest := by
  rw [run?, h]

theorem run?_forFirstItem (item : Json) (items : List Json) (rest : List Token) :
    run? ⟨.forFirstItem, stack⟩ (itemTokens (item :: items) ++ rest) =
      run? ⟨.forValue, .array [] :: stack⟩ (itemTokens (item :: items) ++ rest) := by
  have hfirst (rest : List Token) : run? ⟨.forFirstItem, stack⟩ (item.tokens ++ rest) =
      run? ⟨.forValue, .array [] :: stack⟩ (item.tokens ++ rest) := by
    cases item <;> rfl
  cases items with
  | nil => exact hfirst rest
  | cons next items =>
      rw [itemTokens, List.append_assoc]
      exact hfirst _

theorem run?_forFirstKey (member : Option String × Json) (members : List (Option String × Json))
    (rest : List Token) :
    run? ⟨.forFirstKey, stack⟩ (memberTokens (member :: members) ++ rest) =
      run? ⟨.forKey [], stack⟩ (memberTokens (member :: members) ++ rest) := by
  cases members <;> rfl

mutual

/-- From the tokens of a value the reader gets the value, whatever is open around it. -/
theorem run?_tokens : ∀ (v : Json) (stack : List Frame) (rest : List Token),
    run? ⟨.forValue, stack⟩ (v.tokens ++ rest) = run? (complete v stack) rest
  | .null, _, _ | .bool _, _, _ | .integer _, _, _ | .real _, _, _ | .string _, _, _ =>
      run?_cons rfl
  | .array [], _, _ => rfl
  | .object [], _, _ => rfl
  | .array (item :: items), stack, rest => by
      have hitems := run?_itemTokens (item :: items) [] stack rest (List.cons_ne_nil _ _)
      rw [tokens, List.cons_append, List.append_assoc, List.singleton_append, run?_cons (by rfl),
        run?_forFirstItem, hitems, List.reverse_nil, List.nil_append]
  | .object (member :: members), stack, rest => by
      have hmembers := run?_memberTokens (member :: members) [] stack rest
        (List.cons_ne_nil _ _)
      rw [tokens, List.cons_append, List.append_assoc, List.singleton_append, run?_cons (by rfl),
        run?_forFirstKey, hmembers, List.reverse_nil, List.nil_append]

theorem run?_itemTokens : ∀ (items before : List Json) (stack : List Frame) (rest : List Token),
    items ≠ [] → run? ⟨.forValue, .array before :: stack⟩ (itemTokens items ++
        .closeArray :: rest) =
      run? (complete (.array (before.reverse ++ items)) stack) rest
  | [], _, _, _, h => absurd rfl h
  | [item], before, stack, rest, _ => by
      rw [itemTokens, run?_tokens item, complete, run?_cons (by rfl), List.reverse_cons]
  | item :: next :: items, before, stack, rest, _ => by
      rw [itemTokens, List.append_assoc, List.cons_append, run?_tokens item, complete,
        run?_cons (by rfl), run?_itemTokens (next :: items) _ _ _ (List.cons_ne_nil _ _),
        List.reverse_cons, List.append_assoc, List.singleton_append]

theorem run?_memberTokens : ∀ (members before : List (Option String × Json))
    (stack : List Frame) (rest : List Token), members ≠ [] →
    run? ⟨.forKey before, stack⟩ (memberTokens members ++ .closeObject :: rest) =
      run? (complete (.object (before.reverse ++ members)) stack) rest
  | [], _, _, _, h => absurd rfl h
  | [(key, v)], before, stack, rest, _ => by
      rw [memberTokens, List.cons_append, run?_cons (by rfl), List.cons_append,
        run?_cons (by rfl), run?_tokens v, complete, run?_cons (by rfl), List.reverse_cons]
  | (key, v) :: next :: members, before, stack, rest, _ => by
      rw [memberTokens, List.cons_append, run?_cons (by rfl), List.cons_append,
        run?_cons (by rfl), List.append_assoc, List.cons_append, run?_tokens v, complete,
        run?_cons (by rfl), run?_memberTokens (next :: members) _ _ _ (List.cons_ne_nil _ _),
        List.reverse_cons, List.append_assoc, List.singleton_append]

end

end Reading

theorem read?_of_scan? {v : Json} {s : List Char} (h : scan? s = some v.tokens) :
    read? s = some v := by
  have hrun : Reading.run? ⟨.forValue, []⟩ v.tokens = some ⟨.forEnd v, []⟩ := by
    simpa [Reading.run?, Reading.complete] using Reading.run?_tokens v [] []
  rw [read?, h]
  simp only [Reading.initial, hrun]

theorem ofText?_render {v : Json} (h : v.holds depth = true) : ofText? v.render = some v := by
  rw [ofText?, render, String.toList_ofList]
  refine read?_of_scan? ?_
  simpa [scan?] using scan?_write v depth [] h endsNumber_nil

end ActionLauncher.Json
