import Librcom.Effects.Rules
import Mathlib.Logic.Relation

/-! Where a program leads, what it may throw, and what it does with an object of its own. -/

namespace Effects
namespace Program

open Relation (ReflTransGen)

variable {σ ε α β : Type}

/-- A sequence that returns has run its first part and then its continuation. -/
theorem Yields.parts {p : Program σ ε α} {f : α → Program σ ε β} {s s'' : σ} {b : β}
    (returned : (p >>= f).Yields s b s'') : ∃ a s', p.Yields s a s' ∧ (f a).Yields s' b s'' := by
  -- What the first part ensures may name its own result, and the continuation goes on from there.
  have first : p.Ensures s (fun a s' => p.Yields s a s') (fun _ _ => True) :=
    ⟨fun ended => ended, fun _ => trivial⟩
  have both : (p >>= f).Ensures s
      (fun b s'' => ∃ a s', p.Yields s a s' ∧ (f a).Yields s' b s'') (fun _ _ => True) :=
    first.bind fun a s' ended => ⟨fun next => ⟨a, s', ended, next⟩, fun _ => trivial⟩
  exact both.yields returned

section Walks

variable {p : Program σ ε α} {step : σ → σ → Prop} {may : ε → Prop}

/--
Whatever state the program is started in, it leaves one that steps lead to,
and what it throws is one of the given exceptions.
-/
def Walks (p : Program σ ε α) (step : σ → σ → Prop) (may : ε → Prop) : Prop :=
  ∀ s, p.Ensures s (fun _ s' => ReflTransGen step s s') (fun e s' => may e ∧ ReflTransGen step s s')

/-- What a program may throw may be more. -/
theorem Walks.mono {may' : ε → Prop} (walks : p.Walks step may) (weaken : ∀ e, may e → may' e) :
    p.Walks step may' :=
  fun s => (walks s).mono (fun _ _ path => path) fun e _ held => ⟨weaken e held.1, held.2⟩

/-- To return takes no step. -/
theorem walks_pure (a : α) : (pure a : Program σ ε α).Walks step may :=
  fun _ => ensures_pure .refl

/-- To look at the state takes no step. -/
theorem walks_get : (get : Program σ ε σ).Walks step may := fun _ => ensures_get .refl

/-- A change of the state is one step. -/
theorem walks_update {f : σ → σ} (steps : ∀ s, step s (f s)) :
    (update f : Program σ ε Unit).Walks step may :=
  fun s => ensures_update (.single (steps s))

/-- So is a change that comes with an answer. -/
theorem walks_act {f : σ → α × σ} (steps : ∀ s, step s (f s).2) :
    (act f : Program σ ε α).Walks step may :=
  fun s => ensures_act (.single (steps s))

/-- To throw takes no step. -/
theorem walks_raise {e : ε} (allowed : may e) : (raise e : Program σ ε α).Walks step may :=
  fun _ => ensures_raise ⟨allowed, .refl⟩

/-- A result that is an error may be thrown. -/
theorem walks_ofExcept {result : Except ε α} (allowed : ∀ e, result = .error e → may e) :
    (ofExcept result : Program σ ε α).Walks step may := by
  cases result with
  -- A result that is no exception is a value, and nothing is thrown for it.
  | ok a => exact walks_pure a
  | error e => exact walks_raise (allowed e rfl)

/-- What each of two programs keeps to, both of them in a row keep to. -/
theorem Walks.bind {f : α → Program σ ε β} (first : p.Walks step may)
    (second : ∀ a, (f a).Walks step may) : (p >>= f).Walks step may := by
  intro s
  -- The path of the continuation goes on where that of the first part has ended.
  refine (first s).bind fun a mid path => ?_
  exact (second a mid).mono (fun _ _ further => path.trans further)
    fun _ _ held => ⟨held.1, path.trans held.2⟩

/-- A handler answers for the exceptions of the program it guards. -/
theorem Walks.attempt {handler : ε → Program σ ε α} {may' : ε → Prop} (first : p.Walks step may)
    (second : ∀ e, may e → (handler e).Walks step may') :
    (p.attempt handler).Walks step may' := by
  intro s
  -- The handler goes on from the state that the exception has left.
  have guarded : p.Ensures s (fun _ s' => ReflTransGen step s s')
      (fun e s' => may e ∧ ReflTransGen step s s') := first s
  refine Ensures.attempt guarded fun e mid held => ?_
  exact (second e held.1 mid).mono (fun _ _ further => held.2.trans further)
    fun _ _ failed => ⟨failed.1, held.2.trans failed.2⟩

/-- A loop walks where its rounds do. -/
theorem Walks.iterate {body : β → Program σ ε (β ⊕ α)} (round : ∀ b, (body b).Walks step may)
    (b : β) : (iterate body b).Walks step may := by
  intro s
  -- Before each round the path from the beginning is the invariant.
  refine Ensures.iterate (fun _ now => ReflTransGen step s now) .refl fun b now path => ?_
  refine (round b now).mono ?_ fun _ _ held => ⟨held.1, path.trans held.2⟩
  rintro (next | done) after further
  · exact path.trans further
  · exact path.trans further

/-- Keeping to the steps is a matter of the parts. -/
theorem walks_compositional : Compositional fun {_} (p : Program σ ε _) => p.Walks step may where
  pure := walks_pure
  get := walks_get
  bind := Walks.bind
  iterate := Walks.iterate

/-- Steps on a part of the state are steps of the whole. -/
theorem Walks.within {τ : Type} {read : τ → σ} {write : σ → τ → τ} {whole : τ → τ → Prop}
    (walks : p.Walks step may)
    (lifts : ∀ t s', ReflTransGen step (read t) s' → ReflTransGen whole t (write s' t)) :
    (p.within read write).Walks whole may := by
  intro t
  -- Whichever way the part ends, its path is one of the whole.
  refine ((walks (read t)).within write).mono ?_ ?_
  · rintro _ _ ⟨s', path, rfl⟩
    exact lifts t s' path
  · rintro _ _ ⟨s', ⟨allowed, path⟩, rfl⟩
    exact ⟨allowed, lifts t s' path⟩

end Walks

section ThrowsOnly

variable {p : Program σ ε α} {may : ε → Prop}

/-- Whatever state the program is started in, what it throws is one of the given exceptions. -/
def ThrowsOnly (p : Program σ ε α) (may : ε → Prop) : Prop :=
  ∀ s, p.Ensures s (fun _ _ => True) (fun e _ => may e)

/-- The program throws nothing at all. -/
def Quiet (p : Program σ ε α) : Prop := p.ThrowsOnly fun _ => False

/-- A program that keeps to steps throws only what it may. -/
theorem Walks.throwsOnly {step : σ → σ → Prop} (walks : p.Walks step may) : p.ThrowsOnly may :=
  fun s => (walks s).mono (fun _ _ _ => trivial) fun _ _ held => held.1

/-- To return throws nothing. -/
theorem throwsOnly_pure (a : α) : (pure a : Program σ ε α).ThrowsOnly may :=
  fun _ => ensures_pure trivial

/-- A change of the state throws nothing. -/
theorem throwsOnly_update (f : σ → σ) : (update f : Program σ ε Unit).ThrowsOnly may :=
  fun _ => ensures_update trivial

/-- Nor does a change that comes with an answer. -/
theorem throwsOnly_act (f : σ → α × σ) : (act f : Program σ ε α).ThrowsOnly may :=
  fun _ => ensures_act trivial

/-- What may be thrown is thrown. -/
theorem throwsOnly_raise {e : ε} (allowed : may e) : (raise e : Program σ ε α).ThrowsOnly may :=
  fun _ => ensures_raise allowed

/-- Two programs in a row throw what each of them may. -/
theorem ThrowsOnly.bind {f : α → Program σ ε β} (first : p.ThrowsOnly may)
    (second : ∀ a, (f a).ThrowsOnly may) : (p >>= f).ThrowsOnly may :=
  fun s => (first s).bind fun a s' _ => second a s'

/-- A loop throws what its rounds throw. -/
theorem ThrowsOnly.iterate {body : β → Program σ ε (β ⊕ α)}
    (round : ∀ b, (body b).ThrowsOnly may) (b : β) : (iterate body b).ThrowsOnly may := by
  intro s
  -- There is nothing to remember between the rounds.
  refine Ensures.iterate (fun _ _ => True) trivial fun b s _ => ?_
  refine (round b s).mono ?_ (fun _ _ allowed => allowed)
  rintro (_ | _) _ -
  · trivial
  · trivial

/-- What is thrown is a matter of the parts. -/
theorem throwsOnly_compositional :
    Compositional fun {_} (p : Program σ ε _) => p.ThrowsOnly may where
  pure := throwsOnly_pure
  get := fun _ => ensures_get trivial
  bind := ThrowsOnly.bind
  iterate := ThrowsOnly.iterate

/-- A program throws the same where its state is part of another. -/
theorem ThrowsOnly.within {τ : Type} (read : τ → σ) (write : σ → τ → τ)
    (throws : p.ThrowsOnly may) : (p.within read write).ThrowsOnly may := by
  intro t
  refine ((throws (read t)).within write).mono (fun _ _ _ => trivial) ?_
  rintro e t' ⟨_, held, _⟩
  exact held

end ThrowsOnly

section Owning

variable {τ : Type} {object : σ} {p : Program (σ × τ) ε α}

/-- What a program ensures of its own object and of the rest, it ensures of what it returns. -/
theorem Ensures.owning {t : τ} {post : α → σ × τ → Prop} {fail : ε → σ × τ → Prop}
    (ensured : p.Ensures (object, t) post fail) :
    (p.owning object).Ensures t (fun result t' => post result.1 (result.2, t'))
      (fun e t' => ∃ object', fail e (object', t')) where
  -- What is left of the pair is returned with the value, and the object stays behind on an
  -- exception.
  yields := by
    rintro result t' ⟨fuel, run⟩
    unfold Program.owning at run
    cases part : p.run fuel (object, t) with
    | diverged => simp [part] at run
    | thrown e s => simp [part] at run
    | done a s =>
      simp only [part, Outcome.done.injEq] at run
      obtain ⟨rfl, rfl⟩ := run
      exact ensured.yields ⟨fuel, part⟩
  throws := by
    rintro e t' ⟨fuel, run⟩
    unfold Program.owning at run
    cases part : p.run fuel (object, t) with
    | diverged => simp [part] at run
    | done a s => simp [part] at run
    | thrown e' s =>
      simp only [part, Outcome.thrown.injEq] at run
      obtain ⟨rfl, rfl⟩ := run
      exact ⟨s.1, ensured.throws ⟨fuel, part⟩⟩

/-- A program that runs on an object of its own gives the object back. -/
theorem Yields.owning {t t' : τ} {a : α} {object' : σ}
    (returned : p.Yields (object, t) a (object', t')) :
    (p.owning object).Yields t (a, object') t' := by
  -- The bound that suffices for the pair suffices for the program with an object.
  obtain ⟨fuel, run⟩ := returned
  exact ⟨fuel, by simp [Program.owning, run]⟩

/-- A program that ends also ends on an object of its own. -/
theorem Halts.owning {t : τ} (ends : p.Halts (object, t)) : (p.owning object).Halts t := by
  obtain ⟨fuel, ended⟩ := ends
  refine ⟨fuel, fun run => ?_⟩
  unfold Program.owning at run
  cases part : p.run fuel (object, t) with
  | diverged => exact ended part
  | done a s => simp [part] at run
  | thrown e s => simp [part] at run

/-- A program throws the same on an object of its own. -/
theorem ThrowsOnly.owning {may : ε → Prop} (throws : p.ThrowsOnly may) (object : σ) :
    (p.owning object).ThrowsOnly may :=
  fun t => (throws (object, t)).owning.mono (fun _ _ _ => trivial) fun _ _ ⟨_, held⟩ => held

end Owning

section Meets

variable {total : Prop} {p : Program σ ε α} {s : σ} {post mid : α → σ → Prop}
  {fail : ε → σ → Prop}

/-- The program ensures the postconditions, and ends if something is known. -/
structure Meets (total : Prop) (p : Program σ ε α) (s : σ) (post : α → σ → Prop)
    (fail : ε → σ → Prop) : Prop extends p.Ensures s post fail where
  halts : total → p.Halts s

/-- Where enough is known for the end, what is met is achieved. -/
theorem Meets.achieves (meets : p.Meets total s post fail) (known : total) :
    p.Achieves s post fail :=
  ⟨meets.toEnsures, meets.halts known⟩

/-- What is achieved is met whatever is known. -/
theorem Achieves.meets (achieved : p.Achieves s post fail) : p.Meets total s post fail :=
  ⟨achieved.toEnsures, fun _ => achieved.halts⟩

/-- What is met may be said with less. -/
theorem Meets.mono {post' : α → σ → Prop} {fail' : ε → σ → Prop}
    (strong : p.Meets total s post fail) (weaken : ∀ a s', post a s' → post' a s')
    (weakenFail : ∀ e s', fail e s' → fail' e s') : p.Meets total s post' fail' :=
  ⟨strong.toEnsures.mono weaken weakenFail, strong.halts⟩

/-- What is met is true of what the program returns. -/
theorem Meets.returned (meets : p.Meets total s post fail) :
    p.Meets total s (fun a s' => p.Yields s a s' ∧ post a s') fail :=
  ⟨⟨fun returned => ⟨returned, meets.toEnsures.yields returned⟩, meets.toEnsures.throws⟩, meets.halts⟩

/-- To return meets what is true of the value already. -/
theorem meets_pure {a : α} (holds : post a s) : (pure a : Program σ ε α).Meets total s post fail :=
  ((yields_pure a s).achieves holds).meets

/-- A change of the state meets what is true of the new state. -/
theorem meets_update {f : σ → σ} {post : Unit → σ → Prop} (holds : post () (f s)) :
    (update f : Program σ ε Unit).Meets total s post fail :=
  ((yields_update f s).achieves holds).meets

/-- Two programs in a row meet what the second meets in all states that the first leaves. -/
theorem Meets.bind {f : α → Program σ ε β} {post : β → σ → Prop}
    (first : p.Meets total s mid fail)
    (second : ∀ a s', mid a s' → (f a).Meets total s' post fail) :
    (p >>= f).Meets total s post fail where
  -- Under what is known, both parts end, and so does the sequence.
  toEnsures := first.toEnsures.bind fun a s' holds => (second a s' holds).toEnsures
  halts known := ((first.achieves known).bind fun a s' holds => (second a s' holds).achieves known).halts

/-- After a known result, a sequence meets what its continuation does. -/
theorem Yields.bind_meets {f : α → Program σ ε β} {post : β → σ → Prop} {a : α} {s' : σ}
    (returned : p.Yields s a s') (rest : (f a).Meets total s' post fail) :
    (p >>= f).Meets total s post fail :=
  ⟨returned.bind_ensures rest.toEnsures, fun known => returned.bind_halts (rest.halts known)⟩

/-- A loop whose rounds lower a bound ends if its rounds do. -/
theorem Meets.iterate {body : β → Program σ ε (β ⊕ α)} (invariant : Nat → β → σ → Prop)
    (round : ∀ n b s, invariant n b s →
      (body b).Meets total s (Turn (fun b' s' => ∃ m < n, invariant m b' s') post) fail)
    {n : Nat} {b : β} (start : invariant n b s) : (iterate body b).Meets total s post fail where
  toEnsures :=
    Ensures.iterate_lowering invariant (fun n b s holds => (round n b s holds).toEnsures) start
  halts known :=
    (Achieves.iterate invariant (fun n b s holds => (round n b s holds).achieves known) start).halts

/-- A program meets the same where its state is part of another. -/
theorem Meets.within {τ : Type} (read : τ → σ) (write : σ → τ → τ) {t : τ}
    (meets : p.Meets total (read t) post fail) :
    (p.within read write).Meets total t (fun a t' => ∃ s', post a s' ∧ t' = write s' t)
      (fun e t' => ∃ s', fail e s' ∧ t' = write s' t) :=
  ⟨meets.toEnsures.within write, fun known => (meets.halts known).within write⟩

/-- A program meets the same on an object of its own. -/
theorem Meets.owning {τ : Type} {object : σ} {p : Program (σ × τ) ε α} {t : τ}
    {post : α → σ × τ → Prop} {fail : ε → σ × τ → Prop}
    (meets : p.Meets total (object, t) post fail) :
    (p.owning object).Meets total t (fun result t' => post result.1 (result.2, t'))
      (fun e t' => ∃ object', fail e (object', t')) :=
  ⟨meets.toEnsures.owning, fun known => (meets.halts known).owning⟩

end Meets

section Likeness

variable {p q : Program σ ε α} {s s' : σ}

/-- Started in the given state, the two programs end in the same way, if at all. -/
structure Alike (p q : Program σ ε α) (s : σ) : Prop where
  yields : ∀ a s', p.Yields s a s' ↔ q.Yields s a s'
  throws : ∀ e s', p.Throws s e s' ↔ q.Throws s e s'

/-- Two programs that return the same are alike. -/
theorem Yields.alike {a : α} (first : p.Yields s a s') (second : q.Yields s a s') :
    p.Alike q s where
  -- A program that returned has no other end, so that both ends are the same one.
  yields b t := by
    constructor
    · intro other
      obtain ⟨rfl, rfl⟩ := first.unique other
      exact second
    · intro other
      obtain ⟨rfl, rfl⟩ := second.unique other
      exact first
  throws e t := ⟨fun threw => absurd threw first.not_throws, fun threw => absurd threw second.not_throws⟩

/-- Two programs that throw the same are alike. -/
theorem Throws.alike {e : ε} (first : p.Throws s e s') (second : q.Throws s e s') :
    p.Alike q s where
  yields b t := ⟨fun other => absurd first other.not_throws, fun other => absurd second other.not_throws⟩
  -- The argument is the one for values.
  throws e' t := by
    constructor
    · intro other
      obtain ⟨rfl, rfl⟩ := first.unique other
      exact second
    · intro other
      obtain ⟨rfl, rfl⟩ := second.unique other
      exact first

/-- Two sequences with the same beginning agree if they agree after what it ensures. -/
theorem Ensures.bind_agrees {f g : α → Program σ ε β} {mid : α → σ → Prop} {fail : ε → σ → Prop}
    (first : p.Ensures s mid fail) (second : ∀ a s', mid a s' → (f a).Agrees (g a) s') :
    (p >>= f).Agrees (p >>= g) s := by
  intro fuel
  rw [run_bind, run_bind]
  -- Unless the first part returns, both sequences end with it.
  cases run : p.run fuel s with
  | done a s' => exact second a s' (first.yields ⟨fuel, run⟩) fuel
  | thrown e s' => rfl
  | diverged => rfl

/-- Behind a part that returns, it is for the rest to agree. -/
theorem Yields.bind_agrees {f g : α → Program σ ε β} {a : α} (returned : p.Yields s a s')
    (rest : (f a).Agrees (g a) s') : (p >>= f).Agrees (p >>= g) s := by
  have known : p.Ensures s (fun b t => b = a ∧ t = s') (fun _ _ => True) :=
    returned.ensures ⟨rfl, rfl⟩
  -- The result that is known is the only one that the continuations have to agree after.
  refine known.bind_agrees ?_
  rintro _ _ ⟨rfl, rfl⟩
  exact rest

/-- A loop agrees with one whose variable stands for its own. -/
theorem iterate_agrees {γ : Type} {body : β → Program σ ε (β ⊕ α)}
    {body' : γ → Program σ ε (γ ⊕ α)} (view : γ → β) (invariant : γ → σ → Prop)
    (round : ∀ c s, invariant c s →
      (body (view c)).Agrees (do return (← body' c).map view id) s)
    (keeps : ∀ c s, invariant c s →
      (body' c).Ensures s (Turn invariant fun _ _ => True) fun _ _ => True)
    {c : γ} (start : invariant c s) : (iterate body (view c)).Agrees (iterate body' c) s := by
  intro fuel
  -- One round more is left in each step of the induction.
  have rounds' : ∀ left c s, invariant c s →
      rounds body fuel left (view c) s = rounds body' fuel left c s := by
    intro left
    induction left with
    | zero => exact fun _ _ _ => rfl
    | succ left ih =>
      intro c s now
      rw [rounds, rounds, round c s now fuel]
      cases run : (body' c).run fuel s with
      | done turn s' =>
        -- The value that the rounds go on with keeps the invariant.
        have held := (keeps c s now).yields ⟨fuel, run⟩
        simp only [run_bind, run, Outcome.done_andThen, run_pure]
        cases turn with
        | inl c' => exact ih c' s' held
        | inr a => rfl
      | thrown e s' =>
        simp only [run_bind, run, Outcome.thrown_andThen]
      | diverged =>
        simp only [run_bind, run]
        rfl
  exact rounds' fuel c s start

end Likeness

end Program
end Effects
