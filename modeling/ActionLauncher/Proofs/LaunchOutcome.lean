import Mathlib.Order.Defs.Unbundled
import ActionLauncher.World

/-!
The two sides of a computation: how it ends, and the world that it leaves.  Computations are run
step by step through the equations below, and what they leave alone is a relation between worlds
that every step respects.
-/

namespace ActionLauncher.Launch

variable {α β : Type}

/-- How a computation ends, with a value or with a panic. -/
def ending (x : Launch α) (world : World) : Except Panic α :=
  match x world with
  | .ok a _ => .ok a
  | .error panic _ => .error panic

/-- The world that a computation leaves, however it ends. -/
def after (x : Launch α) (world : World) : World :=
  match x world with
  | .ok _ next | .error _ next => next

@[simp] theorem ending_pure (a : α) (world : World) :
    ending (pure a) world = .ok a := rfl

theorem ending_bind (x : Launch α) (f : α → Launch β) (world : World) :
    ending (x >>= f) world = match ending x world with
      | .ok a => ending (f a) (after x world)
      | .error panic => .error panic := by
  show ending (EStateM.bind x f) world = _
  unfold ending after EStateM.bind
  cases x world <;> rfl

theorem after_bind (x : Launch α) (f : α → Launch β) (world : World) :
    after (x >>= f) world = match ending x world with
      | .ok a => after (f a) (after x world)
      | .error _ => after x world := by
  show after (EStateM.bind x f) world = _
  unfold ending after EStateM.bind
  cases x world <;> rfl

theorem ending_bind_of_ok {x : Launch α} {world : World} {a : α}
    (h : ending x world = .ok a) (f : α → Launch β) :
    ending (x >>= f) world = ending (f a) (after x world) := by
  rw [ending_bind, h]

theorem after_bind_of_ok {x : Launch α} {world : World} {a : α}
    (h : ending x world = .ok a) (f : α → Launch β) :
    after (x >>= f) world = after (f a) (after x world) := by
  rw [after_bind, h]

theorem ending_eq_of_ok {x : Launch α} {world next : World} {a : α}
    (h : x world = .ok a next) : ending x world = .ok a := by
  rw [ending, h]

theorem after_eq_of_ok {x : Launch α} {world next : World} {a : α}
    (h : x world = .ok a next) : after x world = next := by
  rw [after, h]

theorem ending_eq_of_panic {x : Launch α} {world next : World} {panic : Panic}
    (h : x world = .error panic next) : ending x world = .error panic := by
  rw [ending, h]

theorem after_eq_of_panic {x : Launch α} {world next : World} {panic : Panic}
    (h : x world = .error panic next) : after x world = next := by
  rw [after, h]

theorem ending_congr {x y : Launch α} {world other : World} (h : x world = y other) :
    ending x world = ending y other := by
  rw [ending, ending, h]

theorem after_congr {x y : Launch α} {world other : World} (h : x world = y other) :
    after x world = after y other := by
  rw [after, after, h]

theorem bind_of_ok {x : Launch α} {world next : World} {a : α} (h : x world = .ok a next)
    (f : α → Launch β) : (x >>= f) world = f a next := by
  show EStateM.bind x f world = _
  rw [EStateM.bind, h]

theorem bind_of_panic {x : Launch α} {world next : World} {panic : Panic}
    (h : x world = .error panic next) (f : α → Launch β) :
    (x >>= f) world = .error panic next := by
  show EStateM.bind x f world = _
  rw [EStateM.bind, h]

theorem map_of_ok {x : Launch α} {world next : World} {a : α} (h : x world = .ok a next)
    (f : α → β) : (f <$> x) world = .ok (f a) next := by
  show EStateM.map f x world = _
  rw [EStateM.map, h]

theorem map_of_panic {x : Launch α} {world next : World} {panic : Panic}
    (h : x world = .error panic next) (f : α → β) : (f <$> x) world = .error panic next := by
  show EStateM.map f x world = _
  rw [EStateM.map, h]

theorem get_bind (f : World → Launch α) (world : World) :
    ((get : Launch World) >>= f) world = f world world := rfl

theorem bind_congr_left {x y : Launch α} {world other : World} (h : x world = y other)
    (f : α → Launch β) : (x >>= f) world = (y >>= f) other := by
  show EStateM.bind x f world = EStateM.bind y f other
  rw [EStateM.bind, EStateM.bind, h]

theorem eq_ok_of_ending {x : Launch α} {world : World} {a : α}
    (h : ending x world = .ok a) : x world = .ok a (after x world) := by
  unfold ending at h
  unfold after
  cases hx : x world <;> simp_all

theorem eq_panic_of_ending {x : Launch α} {world : World} {panic : Panic}
    (h : ending x world = .error panic) : x world = .error panic (after x world) := by
  unfold ending at h
  unfold after
  cases hx : x world <;> simp_all

theorem exists_ending_of_isSome {x : Launch α} {world : World} {f : α → Option β}
    (h : ((ending x world).toOption.bind f).isSome = true) :
    ∃ a b, ending x world = .ok a ∧ f a = some b := by
  cases hend : ending x world with
  | error panic => simp [hend, Except.toOption] at h
  | ok a =>
      rw [hend] at h
      obtain ⟨b, hb⟩ := Option.isSome_iff_exists.1 h
      exact ⟨a, b, rfl, hb⟩

@[simp] theorem ending_modify (f : World → World) (world : World) :
    ending (modify f : Launch Unit) world = .ok () := rfl

@[simp] theorem after_modify (f : World → World) (world : World) :
    after (modify f : Launch Unit) world = f world := rfl

theorem settle_eq (x : Launch α) (world : World) :
    settle x world = .ok (ending x world) (after x world) := by
  unfold settle ending after
  cases x world <;> rfl

@[simp] theorem after_settle (x : Launch α) (world : World) :
    after (settle x) world = after x world :=
  after_eq_of_ok (settle_eq x world)

@[simp] theorem after_resume (result : Except Panic α) (world : World) :
    after (resume result) world = world := by
  cases result <;> rfl

@[simp] theorem ending_resume (result : Except Panic α) (world : World) :
    ending (resume result) world = result := by
  cases result <;> rfl

@[simp] theorem ending_asGuest (identity : Identity) (x : Launch α) (world : World) :
    ending (asGuest identity x) world = ending x { world with guest := some identity } := by
  unfold ending asGuest
  cases x { world with guest := some identity } <;> rfl

@[simp] theorem after_asGuest (identity : Identity) (x : Launch α) (world : World) :
    after (asGuest identity x) world =
      { after x { world with guest := some identity } with guest := world.guest } := by
  unfold after asGuest
  cases x { world with guest := some identity } <;> rfl

@[simp] theorem ending_map (f : α → β) (x : Launch α) (world : World) :
    ending (f <$> x) world = (ending x world).map f := by
  show ending (EStateM.map f x) world = _
  unfold ending EStateM.map
  cases x world <;> rfl

@[simp] theorem after_map (f : α → β) (x : Launch α) (world : World) :
    after (f <$> x) world = after x world := by
  show after (EStateM.map f x) world = _
  unfold after EStateM.map
  cases x world <;> rfl

/-- Two worlds between which a view of them does not change. -/
def Same {γ : Type} (view : World → γ) (world next : World) : Prop :=
  view next = view world

instance {γ : Type} (view : World → γ) : IsPreorder World (Same view) where
  refl _ := rfl
  trans _ _ _ first second := second.trans first

/-- Whatever the computation does, it leads to a world that `R` relates to the one before. -/
def Respects (R : World → World → Prop) (x : Launch α) : Prop :=
  ∀ world, R world (after x world)

namespace Respects

variable {R S : World → World → Prop} {x : Launch α} {f : α → Launch β}

theorem mono (hRS : ∀ world next, R world next → S world next) (hx : Respects R x) :
    Respects S x :=
  fun world => hRS _ _ (hx world)

theorem modify {g : World → World} (h : ∀ world, R world (g world)) :
    Respects R (modify g : Launch Unit) :=
  h

theorem settle (hx : Respects R x) : Respects R (settle x) := by
  intro world
  rw [after_settle]
  exact hx world

theorem map (g : α → β) (hx : Respects R x) : Respects R (g <$> x) := by
  intro world
  rw [after_map]
  exact hx world

variable [IsPreorder World R]

protected theorem pure (a : α) : Respects R (pure a : Launch α) :=
  fun world => Std.Refl.refl world

protected theorem throw (panic : Panic) : Respects R (throw panic : Launch α) :=
  fun world => Std.Refl.refl world

protected theorem get : Respects R (get : Launch World) :=
  fun world => Std.Refl.refl world

protected theorem bind (hx : Respects R x) (hf : ∀ a, Respects R (f a)) :
    Respects R (x >>= f) := by
  intro world
  rw [after_bind]
  cases ending x world with
  | ok a => exact IsTrans.trans _ _ _ (hx world) (hf a _)
  | error panic => exact hx world

end Respects

/-- The computation returns, in a world that `R` relates to the one before. -/
def Returns (R : World → World → Prop) (x : Launch α) : Prop :=
  ∀ world, (∃ a, ending x world = .ok a) ∧ R world (after x world)

namespace Returns

variable {R : World → World → Prop} {x : Launch α} {f : α → Launch β}

theorem respects (hx : Returns R x) : Respects R x :=
  fun world => (hx world).2

theorem modify {g : World → World} (h : ∀ world, R world (g world)) :
    Returns R (modify g : Launch Unit) :=
  fun world => ⟨⟨(), rfl⟩, h world⟩

theorem modifyGet {g : World → α × World} (h : ∀ world, R world (g world).2) :
    Returns R (modifyGet g : Launch α) :=
  fun world => ⟨⟨(g world).1, rfl⟩, h world⟩

variable [IsPreorder World R]

protected theorem pure (a : α) : Returns R (pure a : Launch α) :=
  fun world => ⟨⟨a, rfl⟩, Std.Refl.refl world⟩

protected theorem get : Returns R (get : Launch World) :=
  fun world => ⟨⟨world, rfl⟩, Std.Refl.refl world⟩

protected theorem bind (hx : Returns R x) (hf : ∀ a, Returns R (f a)) :
    Returns R (x >>= f) := by
  intro world
  obtain ⟨⟨a, ha⟩, hnext⟩ := hx world
  obtain ⟨⟨b, hb⟩, hlast⟩ := hf a (after x world)
  rw [ending_bind_of_ok ha, after_bind_of_ok ha]
  exact ⟨⟨b, hb⟩, IsTrans.trans _ _ _ hnext hlast⟩

end Returns

/-- Whatever the computation returns has the property `P`. -/
def Yields (P : α → Prop) (x : Launch α) : Prop :=
  ∀ world a, ending x world = .ok a → P a

namespace Yields

variable {P : α → Prop} {Q : β → Prop} {x : Launch α} {f : α → Launch β}

protected theorem pure {a : α} (h : P a) : Yields P (pure a : Launch α) := by
  intro world b hb
  rw [ending_pure, Except.ok.injEq] at hb
  rwa [← hb]

protected theorem bind (hx : Yields P x) (hf : ∀ a, P a → Yields Q (f a)) :
    Yields Q (x >>= f) := by
  intro world b hb
  rw [ending_bind] at hb
  cases hend : ending x world with
  | error panic => simp [hend] at hb
  | ok a =>
      rw [hend] at hb
      exact hf a (hx world a hend) _ b hb

theorem map {g : α → β} (h : ∀ a, Q (g a)) : Yields Q (g <$> x) := by
  intro world b hb
  rw [ending_map] at hb
  cases hend : ending x world with
  | error panic => simp [hend, Except.map] at hb
  | ok a =>
      rw [hend] at hb
      cases hb
      exact h a

/-- A property that the last part of a computation ensures, whatever went before. -/
theorem bind_right (hf : ∀ a, Yields Q (f a)) : Yields Q (x >>= f) := by
  have hx : Yields (fun _ => True) x := fun _ _ _ => trivial
  exact hx.bind fun a _ => hf a

end Yields

/-- A property of computations that reading the world, logging and sequencing keep. -/
structure Discipline (P : {α : Type} → Launch α → Prop) : Prop where
  pure : ∀ {α : Type} (a : α), P (pure a : Launch α)
  get : P (get : Launch World)
  log : ∀ level message fields, P (log level message fields)
  bind : ∀ {α β : Type} {x : Launch α} {f : α → Launch β}, P x → (∀ a, P (f a)) → P (x >>= f)

namespace Discipline

variable {R : World → World → Prop} [IsPreorder World R]

theorem respects (hlog : ∀ level message fields, Respects R (Launch.log level message fields)) :
    Discipline (Respects R) :=
  ⟨.pure, .get, hlog, .bind⟩

theorem returns (hlog : ∀ level message fields, Returns R (Launch.log level message fields)) :
    Discipline (Returns R) :=
  ⟨.pure, .get, hlog, .bind⟩

end Discipline

end ActionLauncher.Launch
