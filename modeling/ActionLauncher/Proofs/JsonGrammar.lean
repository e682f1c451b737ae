import ActionLauncher.Proofs.JsonRoundTrip

namespace ActionLauncher.Json

open Token (bare exists_of_bare next? scan?)

variable {s w rest : List Char} {c : Char} {token : Token} {ts : List Token}
  {members : List (String × String)}

/-- White space, perhaps none. -/
def IsGap (s : List Char) : Prop :=
  ∀ c ∈ s, c ∈ [' ', '\n', '\t', '\r']

/-- A part with white space around it. -/
inductive Spaced (part : List Char → Prop) : List Char → Prop
  | mk {before s behind : List Char} (hbefore : IsGap before) (h : part s)
      (hbehind : IsGap behind) : Spaced part (before ++ s ++ behind)

/-- Members with commas between them. -/
inductive Members : List (String × String) → List Char → Prop
  | one {key value : String} {k v : List Char} (hkey : Spaced (Quotes key) k)
      (hvalue : Spaced (Quotes value) v) : Members [(key, value)] (k ++ ':' :: v)
  | more {key value : String} {k v s : List Char} {members : List (String × String)}
      (hkey : Spaced (Quotes key) k) (hvalue : Spaced (Quotes value) v)
      (rest : Members members s) : Members ((key, value) :: members) (k ++ ':' :: (v ++ ',' :: s))

/-- Members between braces. -/
inductive Braced : List (String × String) → List Char → Prop
  | empty {gap : List Char} (h : IsGap gap) : Braced [] ('\x7b' :: (gap ++ ['\x7d']))
  | full {members : List (String × String)} {s : List Char} (h : Members members s) :
      Braced members ('\x7b' :: (s ++ ['\x7d']))

def textMembers (members : List (String × String)) : List (Option String × Json) :=
  members.map fun (key, value) => (some key, .text value)

theorem textMembers_cons (key value : String) (members : List (String × String)) :
    textMembers ((key, value) :: members) = (some key, .text value) :: textMembers members :=
  rfl

theorem textMembers_ne_nil (h : members ≠ []) : textMembers members ≠ [] := by
  simpa [textMembers] using h

/-! ### Tokens and white space -/

def marks : List (Char × Token) :=
  [('\x7b', .openObject), ('\x7d', .closeObject), ('[', .openArray), (']', .closeArray),
    (',', .comma), (':', .colon)]

/-- What a token is written as: a mark, or a text between quotes. -/
inductive Lexeme : Token → List Char → Prop
  | mark {c : Char} {token : Token} (h : (c, token) ∈ marks) : Lexeme token [c]
  | quoted {text : String} {s : List Char} (h : Quotes text s) : Lexeme (.quoted (some text)) s

theorem mem_marks_iff : (c, token) ∈ marks ↔
    c = '\x7b' ∧ token = .openObject ∨ c = '\x7d' ∧ token = .closeObject ∨
      c = '[' ∧ token = .openArray ∨ c = ']' ∧ token = .closeArray ∨
        c = ',' ∧ token = .comma ∨ c = ':' ∧ token = .colon := by
  simp [marks]

theorem next?_mark (h : (c, token) ∈ marks) (s : List Char) :
    bare (next? c s) = some (token, s) := by
  rcases mem_marks_iff.1 h with
    ⟨rfl, rfl⟩ | ⟨rfl, rfl⟩ | ⟨rfl, rfl⟩ | ⟨rfl, rfl⟩ | ⟨rfl, rfl⟩ | ⟨rfl, rfl⟩ <;> rfl

theorem mark_unique {d : Char} (h : (c, token) ∈ marks) (hd : (d, token) ∈ marks) : d = c := by
  rcases mem_marks_iff.1 h with
    ⟨rfl, rfl⟩ | ⟨rfl, rfl⟩ | ⟨rfl, rfl⟩ | ⟨rfl, rfl⟩ | ⟨rfl, rfl⟩ | ⟨rfl, rfl⟩ <;>
    simpa [marks] using hd

def IsLeaf (v : Json) : Prop :=
  v.tokens = [.value v]

theorem isLeaf_assemble (negative : Bool) (whole fraction : List Char) (exponent : Option Int) :
    IsLeaf (Token.assemble negative whole fraction exponent) := by
  unfold Token.assemble
  split <;> rfl

theorem isLeaf_of_unsigned? {negative : Bool} {v : Json}
    {r : { r : List Char // r.length ≤ s.length }}
    (h : Token.unsigned? negative s = some (v, r)) : IsLeaf v := by
  unfold Token.unsigned? at h
  split at h
  · cases h
  · split at h
    · cases h
    · split at h
      · cases h
      · cases h
        exact isLeaf_assemble _ _ _ _

theorem exists_of_literal? {word : List Char} {v : Json} (hv : IsLeaf v)
    (h : bare (next?.literal? word v s) = some (token, rest)) :
    ∃ v, token = .value v ∧ IsLeaf v := by
  unfold next?.literal? at h
  split at h
  · cases h
    exact ⟨v, rfl, hv⟩
  · cases h

theorem next?_quote (h : bare (next? '"' s) = some (token, rest)) :
    (∃ w, Lexeme token w ∧ '"' :: s = w ++ rest) ∨ token = .quoted none := by
  obtain ⟨hle, h⟩ := exists_of_bare h
  simp only [next?, Char.reduceEq, if_true, if_false] at h
  split at h
  · rename_i pieces r hread
    cases h
    cases hjoin : Token.joinPieces? pieces with
    | none => exact .inr rfl
    | some t =>
        obtain ⟨w, hw, rfl⟩ := exists_spellings hread hjoin
        have hquotes : Quotes (String.ofList t) ('"' :: (w ++ ['"'])) :=
          .mk (by rwa [String.toList_ofList])
        exact .inl ⟨_, .quoted hquotes, by simp⟩
  · cases h

theorem next?_value (hmark : ∀ other, (c, other) ∉ marks) (hquote : c ≠ '"')
    (h : bare (next? c s) = some (token, rest)) : ∃ v, token = .value v ∧ IsLeaf v := by
  simp only [marks, List.mem_cons, List.not_mem_nil, Prod.mk.injEq, or_false, not_or,
    forall_and, not_and, forall_eq_apply_imp_iff] at hmark
  obtain ⟨hopen, hclose, hopen', hclose', hcomma, hcolon⟩ := hmark
  rw [next?, if_neg hopen, if_neg hclose, if_neg hopen', if_neg hclose', if_neg hcomma,
    if_neg hcolon, if_neg hquote] at h
  by_cases hn : c = 'n'
  · rw [if_pos hn] at h
    exact exists_of_literal? (v := .null) rfl h
  rw [if_neg hn] at h
  by_cases ht : c = 't'
  · rw [if_pos ht] at h
    exact exists_of_literal? (v := .bool true) rfl h
  rw [if_neg ht] at h
  by_cases hf : c = 'f'
  · rw [if_pos hf] at h
    exact exists_of_literal? (v := .bool false) rfl h
  rw [if_neg hf] at h
  by_cases hminus : c = '-'
  · rw [if_pos hminus] at h
    obtain ⟨_, h⟩ := exists_of_bare h
    obtain ⟨⟨v, r⟩, hread, heq⟩ := Option.map_eq_some_iff.1 h
    cases heq
    exact ⟨v, rfl, isLeaf_of_unsigned? hread⟩
  rw [if_neg hminus] at h
  by_cases hdigit : Text.isDecimal c
  · rw [if_pos hdigit] at h
    obtain ⟨_, h⟩ := exists_of_bare h
    split at h
    · rename_i v r _ hread
      split at h
      · cases h
        exact ⟨v, rfl, isLeaf_of_unsigned? hread⟩
      · cases h
    · cases h
  · rw [if_neg hdigit] at h
    cases h

theorem next?_cases (h : bare (next? c s) = some (token, rest)) :
    (∃ w, Lexeme token w ∧ c :: s = w ++ rest) ∨ token = .quoted none ∨
      ∃ v, token = .value v ∧ IsLeaf v := by
  by_cases hmark : ∃ other, (c, other) ∈ marks
  · obtain ⟨other, hmark⟩ := hmark
    rw [next?_mark hmark] at h
    cases h
    exact .inl ⟨[c], .mark hmark, rfl⟩
  by_cases hquote : c = '"'
  · subst hquote
    exact (next?_quote h).imp_right .inl
  · exact .inr (.inr (next?_value (not_exists.1 hmark) hquote h))

theorem Lexeme.eq_mark (h : Lexeme token w) (c : Char) (hmark : (c, token) ∈ marks) :
    w = [c] := by
  cases h with
  | mark h => rw [mark_unique hmark h]
  | quoted => simp [marks] at hmark

theorem Lexeme.quotes {text : String} (h : Lexeme (.quoted (some text)) w) : Quotes text w := by
  cases h with
  | mark h => simp [marks] at h
  | quoted h => exact h

theorem isSpace_iff : Token.isSpace c = true ↔ c ∈ [' ', '\n', '\t', '\r'] := by
  simp [Token.isSpace, or_assoc]

theorem scan?_gap {gap : List Char} (h : IsGap gap) (s : List Char) :
    scan? (gap ++ s) = scan? s := by
  induction gap with
  | nil => rfl
  | cons c gap ih =>
      obtain ⟨hc, hgap⟩ := List.forall_mem_cons.1 h
      rw [List.cons_append, scan?, if_pos (isSpace_iff.2 hc), ih hgap]

theorem isGap_of_scan? (h : scan? s = some []) : IsGap s := by
  induction s with
  | nil => exact List.forall_mem_nil _
  | cons c s ih =>
      rw [scan?] at h
      split at h
      · rename_i hspace
        exact List.forall_mem_cons.2 ⟨isSpace_iff.1 hspace, ih h⟩
      · split at h
        · cases h
        · simp at h

theorem exists_next? (h : scan? s = some (token :: ts)) :
    ∃ gap c tail r, IsGap gap ∧ s = gap ++ c :: tail ∧ bare (next? c tail) = some (token, r) ∧
      scan? r = some ts := by
  induction s with
  | nil => simp [scan?] at h
  | cons c s ih =>
      rw [scan?] at h
      by_cases hspace : Token.isSpace c = true
      · rw [if_pos hspace] at h
        obtain ⟨gap, d, tail, r, hgap, rfl, hnext, hrest⟩ := ih h
        have hgap' : IsGap (c :: gap) := List.forall_mem_cons.2 ⟨isSpace_iff.1 hspace, hgap⟩
        exact ⟨c :: gap, d, tail, r, hgap', rfl, hnext, hrest⟩
      · rw [if_neg hspace] at h
        cases hnext : next? c s with
        | none =>
            rw [hnext] at h
            cases h
        | some found =>
            obtain ⟨first, r, hle⟩ := found
            rw [hnext] at h
            obtain ⟨others, hrest, heq⟩ := Option.map_eq_some_iff.1 h
            obtain ⟨rfl, rfl⟩ := List.cons.inj heq
            exact ⟨[], c, s, r, List.forall_mem_nil _, rfl, by rw [hnext]; rfl, hrest⟩

/-- A mark or a text that was found stands there, behind white space. -/
theorem exists_lexeme (h : scan? s = some (token :: ts)) (htext : token ≠ .quoted none)
    (hvalue : ∀ v, token ≠ .value v) :
    ∃ gap w r, IsGap gap ∧ Lexeme token w ∧ s = gap ++ (w ++ r) ∧ scan? r = some ts := by
  obtain ⟨gap, c, tail, r, hgap, rfl, hnext, hrest⟩ := exists_next? h
  rcases next?_cases hnext with ⟨w, hw, heq⟩ | heq | ⟨v, heq, -⟩
  · exact ⟨gap, w, r, hgap, hw, by rw [heq], hrest⟩
  · exact absurd heq htext
  · exact absurd heq (hvalue v)

theorem isLeaf_of_scan? {v : Json} (h : scan? s = some ts) (hmem : .value v ∈ ts) : IsLeaf v := by
  induction ts generalizing s with
  | nil => cases hmem
  | cons token ts ih =>
      obtain ⟨_, c, tail, r, -, -, hnext, hrest⟩ := exists_next? h
      rcases List.mem_cons.1 hmem with rfl | hmem
      · rcases next?_cases hnext with ⟨w, hw, -⟩ | heq | ⟨v, heq, hleaf⟩
        · cases hw with
          | mark h => simp [marks] at h
        · cases heq
        · cases heq
          exact hleaf
      · exact ih hrest hmem

/-! ### From the tokens to one value -/

theorem itemTokens_cons {items : List Json} (h : items ≠ []) (item : Json) :
    itemTokens (item :: items) = item.tokens ++ .comma :: itemTokens items := by
  cases items with
  | nil => exact absurd rfl h
  | cons => rfl

theorem memberTokens_cons {members : List (Option String × Json)} (h : members ≠ [])
    (key : Option String) (v : Json) :
    memberTokens ((key, v) :: members) =
      .quoted key :: .colon :: (v.tokens ++ .comma :: memberTokens members) := by
  cases members with
  | nil => exact absurd rfl h
  | cons => rfl

namespace Reading

/-- The tokens of the items so far, which are held in reverse, each with a comma after it. -/
def itemsTaken (items : List Json) : List Token :=
  items.reverse.flatMap fun item => item.tokens ++ [.comma]

def membersTaken (members : List (Option String × Json)) : List Token :=
  members.reverse.flatMap fun m => .quoted m.1 :: .colon :: (m.2.tokens ++ [.comma])

theorem itemTokens_reverse (item : Json) (items : List Json) :
    itemTokens (item :: items).reverse = itemsTaken items ++ item.tokens := by
  have hfront (front : List Json) : itemTokens (front ++ [item]) =
      front.flatMap (fun item => item.tokens ++ [.comma]) ++ item.tokens := by
    induction front with
    | nil => rfl
    | cons first front ih => rw [List.cons_append, itemTokens_cons (by simp), ih]; simp
  rw [List.reverse_cons, hfront, itemsTaken]

theorem memberTokens_reverse (key : Option String) (v : Json)
    (members : List (Option String × Json)) :
    memberTokens ((key, v) :: members).reverse =
      membersTaken members ++ .quoted key :: .colon :: v.tokens := by
  have hfront (front : List (Option String × Json)) : memberTokens (front ++ [(key, v)]) =
      front.flatMap (fun m => .quoted m.1 :: .colon :: (m.2.tokens ++ [.comma])) ++
        .quoted key :: .colon :: v.tokens := by
    induction front with
    | nil => rfl
    | cons first front ih => rw [List.cons_append, memberTokens_cons (by simp), ih]; simp
  rw [List.reverse_cons, hfront, membersTaken]

/-- The tokens that opened the arrays and objects in which a value is still missing. -/
def opened : List Frame → List Token
  | [] => []
  | .array items :: stack => opened stack ++ .openArray :: itemsTaken items
  | .object members key :: stack =>
      opened stack ++ .openObject :: (membersTaken members ++ [.quoted key, .colon])

/-- The tokens that led to a state. -/
inductive Took : List Token → Reading → Prop
  | forValue (stack : List Frame) : Took (opened stack) ⟨.forValue, stack⟩
  | forFirstItem (stack : List Frame) :
      Took (opened stack ++ [.openArray]) ⟨.forFirstItem, stack⟩
  | forFirstKey (stack : List Frame) :
      Took (opened stack ++ [.openObject]) ⟨.forFirstKey, stack⟩
  | forKey (members : List (Option String × Json)) (stack : List Frame) :
      Took (opened stack ++ .openObject :: membersTaken members) ⟨.forKey members, stack⟩
  | forColon (members : List (Option String × Json)) (key : Option String) (stack : List Frame) :
      Took (opened stack ++ .openObject :: (membersTaken members ++ [.quoted key]))
        ⟨.forColon members key, stack⟩
  | afterItem (item : Json) (items : List Json) (stack : List Frame) :
      Took (opened (.array items :: stack) ++ item.tokens)
        ⟨.forNext, .array (item :: items) :: stack⟩
  | afterMember (key : Option String) (v : Json) (members : List (Option String × Json))
      (stack : List Frame) : Took (opened (.object members key :: stack) ++ v.tokens)
        ⟨.forNext, .object ((key, v) :: members) none :: stack⟩
  | forEnd (v : Json) : Took v.tokens ⟨.forEnd v, []⟩

variable {reading next : Reading}

theorem Took.complete (v : Json) (stack : List Frame) :
    Took (opened stack ++ v.tokens) (complete v stack) := by
  match stack with
  | [] => exact .forEnd v
  | .array items :: stack => exact .afterItem v items stack
  | .object members key :: stack => exact .afterMember key v members stack

theorem Took.start {stack : List Frame} (h : start? token stack = some next)
    (hleaf : ∀ v, token = .value v → IsLeaf v) : Took (opened stack ++ [token]) next := by
  cases token with
  | value v =>
      cases h
      have htokens : v.tokens = [.value v] := hleaf v rfl
      exact htokens ▸ Took.complete v stack
  | quoted text =>
      cases h
      exact Took.complete (.string text) stack
  | openArray =>
      cases h
      exact .forFirstItem stack
  | openObject =>
      cases h
      exact .forFirstKey stack
  | closeArray | closeObject | comma | colon => cases h

theorem Took.step (h : Took ts reading) (hstep : step? reading token = some next)
    (hleaf : ∀ v, token = .value v → IsLeaf v) : Took (ts ++ [token]) next := by
  cases h with
  | forValue stack => exact Took.start hstep hleaf
  | forFirstItem stack =>
      by_cases hclose : token = .closeArray
      · subst hclose
        cases hstep
        simpa [tokens, itemTokens] using Took.complete (.array []) stack
      · have hstart : start? token (.array [] :: stack) = some next := by
          cases token with
          | closeArray => exact absurd rfl hclose
          | _ => exact hstep
        exact Took.start hstart hleaf
  | forFirstKey stack =>
      cases token with
      | closeObject =>
          cases hstep
          simpa [tokens, memberTokens] using Took.complete (.object []) stack
      | quoted key =>
          cases hstep
          simpa [membersTaken] using Took.forColon [] key stack
      | _ => cases hstep
  | forKey members stack =>
      cases token with
      | quoted key =>
          cases hstep
          simpa using Took.forColon members key stack
      | _ => cases hstep
  | forColon members key stack =>
      cases token with
      | colon =>
          cases hstep
          simpa [opened] using Took.forValue (.object members key :: stack)
      | _ => cases hstep
  | afterItem item items stack =>
      cases token with
      | comma =>
          cases hstep
          simpa [opened, itemsTaken] using Took.forValue (.array (item :: items) :: stack)
      | closeArray =>
          cases hstep
          have hdone := Took.complete (.array (item :: items).reverse) stack
          rw [tokens, itemTokens_reverse] at hdone
          simpa [opened] using hdone
      | _ => cases hstep
  | afterMember key v members stack =>
      cases token with
      | comma =>
          cases hstep
          simpa [opened, membersTaken] using Took.forKey ((key, v) :: members) stack
      | closeObject =>
          cases hstep
          have hdone := Took.complete (.object ((key, v) :: members).reverse) stack
          rw [tokens, memberTokens_reverse] at hdone
          simpa [opened] using hdone
      | _ => cases hstep
  | forEnd v => cases hstep

theorem Took.run {before : List Token} (h : Took before reading)
    (hrun : run? reading ts = some next) (hleaf : ∀ v, .value v ∈ ts → IsLeaf v) :
    Took (before ++ ts) next := by
  induction ts generalizing before reading with
  | nil =>
      cases hrun
      rwa [List.append_nil]
  | cons token ts ih =>
      rw [run?] at hrun
      split at hrun
      · rename_i after hstep
        have htoken := h.step hstep fun v hv => hleaf v (hv ▸ List.mem_cons_self)
        rw [List.append_cons]
        exact ih htoken hrun fun v hv => hleaf v (List.mem_cons_of_mem _ hv)
      · cases hrun

end Reading

/-- A text is read as a value exactly when its tokens are those of the value. -/
theorem read?_eq_some_iff {v : Json} : read? s = some v ↔ scan? s = some v.tokens := by
  constructor
  · intro h
    rw [read?] at h
    split at h
    · cases h
    · rename_i ts hscan
      split at h
      · rename_i stack hrun
        cases h
        have htook : Reading.Took ([] ++ ts) ⟨.forEnd v, stack⟩ :=
          Reading.Took.run (.forValue []) hrun fun _ => isLeaf_of_scan? hscan
        rw [List.nil_append] at htook
        cases htook
        exact hscan
      · cases h
  · intro h
    exact read?_of_scan? h

/-! ### Objects of texts -/

theorem scan?_spaced {part : List Char → Prop} {front : List Token}
    (hpart : ∀ w rest, part w → scan? (w ++ rest) = (scan? rest).map (front ++ ·))
    (h : Spaced part s) (rest : List Char) :
    scan? (s ++ rest) = (scan? rest).map (front ++ ·) := by
  obtain ⟨hbefore, h, hbehind⟩ := h
  rw [List.append_assoc, List.append_assoc, scan?_gap hbefore, hpart _ _ h, scan?_gap hbehind]

theorem scan?_spacedQuotes {text : String} (h : Spaced (Quotes text) s) (rest : List Char) :
    scan? (s ++ rest) = (scan? rest).map ([.quoted (some text)] ++ ·) :=
  scan?_spaced (fun _ rest h => Token.scan?_quotes h rest) h rest

theorem Members.ne_nil (h : Members members s) : members ≠ [] := by
  cases h <;> exact List.cons_ne_nil _ _

theorem scan?_members (h : Members members s) (rest : List Char) :
    scan? (s ++ rest) = (scan? rest).map (memberTokens (textMembers members) ++ ·) := by
  induction h with
  | one hkey hvalue =>
      rw [List.append_assoc, scan?_spacedQuotes hkey, List.cons_append, Token.scan?_colon,
        scan?_spacedQuotes hvalue]
      simp [textMembers, memberTokens, tokens, text, Function.comp_def]
  | more hkey hvalue hmore ih =>
      rw [List.append_assoc, scan?_spacedQuotes hkey, List.cons_append, Token.scan?_colon,
        List.append_assoc, scan?_spacedQuotes hvalue, List.cons_append, Token.scan?_comma, ih]
      rw [textMembers_cons, memberTokens_cons (textMembers_ne_nil hmore.ne_nil)]
      simp [tokens, text, Function.comp_def]

theorem scan?_braced (h : Braced members s) (rest : List Char) :
    scan? (s ++ rest) = (scan? rest).map ((object (textMembers members)).tokens ++ ·) := by
  cases h with
  | empty hgap =>
      rw [List.cons_append, Token.scan?_openObject, List.append_assoc, scan?_gap hgap,
        List.singleton_append, Token.scan?_closeObject]
      simp [textMembers, tokens, memberTokens, Function.comp_def]
  | full h =>
      rw [List.cons_append, Token.scan?_openObject, List.append_assoc, scan?_members h,
        List.singleton_append, Token.scan?_closeObject]
      simp [tokens, Function.comp_def]

theorem exists_spacedQuotes {text : String}
    (h : scan? s = some (.quoted (some text) :: token :: ts)) (c : Char)
    (hmark : (c, token) ∈ marks) :
    ∃ w r, Spaced (Quotes text) w ∧ s = w ++ c :: r ∧ scan? r = some ts := by
  have htoken : token ≠ .quoted none ∧ ∀ v, token ≠ .value v := by
    constructor
    · rintro rfl
      simp [marks] at hmark
    · rintro v rfl
      simp [marks] at hmark
  obtain ⟨before, w, r, hbefore, hw, rfl, hrest⟩ := exists_lexeme h nofun nofun
  obtain ⟨behind, m, r, hbehind, hm, rfl, hmore⟩ := exists_lexeme hrest htoken.1 htoken.2
  obtain rfl := hm.eq_mark c hmark
  exact ⟨before ++ w ++ behind, r, .mk hbefore hw.quotes hbehind, by simp, hmore⟩

theorem exists_members (hne : members ≠ [])
    (h : scan? s = some (memberTokens (textMembers members) ++ .closeObject :: ts)) :
    ∃ w r, Members members w ∧ s = w ++ '\x7d' :: r ∧ scan? r = some ts := by
  induction members generalizing s with
  | nil => exact absurd rfl hne
  | cons member members ih =>
      obtain ⟨key, value⟩ := member
      cases members with
      | nil =>
          obtain ⟨k, r, hkey, rfl, hrest⟩ := exists_spacedQuotes h ':' (by simp [marks])
          obtain ⟨v, r, hvalue, rfl, hend⟩ := exists_spacedQuotes hrest '\x7d' (by simp [marks])
          exact ⟨_, r, .one hkey hvalue, by simp, hend⟩
      | cons next members =>
          rw [textMembers_cons, memberTokens_cons (textMembers_ne_nil (List.cons_ne_nil _ _))] at h
          obtain ⟨k, r, hkey, rfl, hrest⟩ := exists_spacedQuotes h ':' (by simp [marks])
          obtain ⟨v, r, hvalue, rfl, hothers⟩ := exists_spacedQuotes hrest ',' (by simp [marks])
          obtain ⟨w, r, hmore, rfl, hend⟩ := ih (List.cons_ne_nil _ _) hothers
          exact ⟨_, r, .more hkey hvalue hmore, by simp, hend⟩

theorem scan?_object_iff :
    scan? s = some (object (textMembers members)).tokens ↔ Spaced (Braced members) s := by
  constructor
  · intro h
    rw [tokens] at h
    obtain ⟨before, w, r, hbefore, hw, rfl, hrest⟩ := exists_lexeme h nofun nofun
    obtain rfl := hw.eq_mark '\x7b' (by simp [marks])
    by_cases hmembers : members = []
    · subst hmembers
      obtain ⟨gap, w, r, hgap, hw, rfl, hend⟩ := exists_lexeme hrest nofun nofun
      obtain rfl := hw.eq_mark '\x7d' (by simp [marks])
      have hspaced := Spaced.mk hbefore (Braced.empty hgap) (isGap_of_scan? hend)
      simpa using hspaced
    · obtain ⟨w, r, hw, rfl, hend⟩ := exists_members hmembers hrest
      have hspaced := Spaced.mk hbefore (Braced.full hw) (isGap_of_scan? hend)
      simpa using hspaced
  · intro h
    simpa [scan?] using scan?_spaced (fun _ rest h => scan?_braced h rest) h []

theorem ofText?_object_iff {text : String} :
    ofText? text = some (.object (textMembers members)) ↔ Spaced (Braced members) text.toList :=
  read?_eq_some_iff.trans scan?_object_iff

end ActionLauncher.Json
