import Librcom.Effects.Program

/-! Rules for what a program yields, what it ensures, and when it ends. -/

namespace Effects
namespace Program

variable {σ ε α β : Type}

/-- Started in `s`, the program returns `a` and leaves the state `s'`. -/
def Yields (p : Program σ ε α) (s : σ) (a : α) (s' : σ) : Prop :=
  ∃ fuel, p.run fuel s = .done a s'

/-- Started in `s`, the program throws `e` and leaves the state `s'`. -/
def Throws (p : Program σ ε α) (s : σ) (e : ε) (s' : σ) : Prop :=
  ∃ fuel, p.run fuel s = .thrown e s'

/-- Started in `s`, the program comes to an outcome, for some bound on its rounds. -/
def Comes (p : Program σ ε α) (s : σ) (o : Outcome σ ε α) : Prop :=
  ∃ fuel, p.run fuel s = o

/-- Started in `s`, the program leaves the state `s'`, by returning or by throwing. -/
def Leaves (p : Program σ ε α) (s s' : σ) : Prop :=
  (∃ a, p.Yields s a s') ∨ ∃ e, p.Throws s e s'

/-- Started in `s`, the program ends, by returning or by throwing. -/
def Halts (p : Program σ ε α) (s : σ) : Prop :=
  ∃ fuel, p.run fuel s ≠ .diverged

/-- However the program ends from `s`, the matching postcondition holds. -/
structure Ensures (p : Program σ ε α) (s : σ) (post : α → σ → Prop) (fail : ε → σ → Prop) :
    Prop where
  yields : ∀ {a s'}, p.Yields s a s' → post a s'
  throws : ∀ {e s'}, p.Throws s e s' → fail e s'

/-- The program ends from `s`, and the matching postcondition holds when it does. -/
structure Achieves (p : Program σ ε α) (s : σ) (post : α → σ → Prop) (fail : ε → σ → Prop) :
    Prop extends p.Ensures s post fail where
  halts : p.Halts s

section Endings

variable {p : Program σ ε α} {s s' s'' : σ}

/-- A program that ends either returns or throws. -/
theorem Halts.cases (ends : p.Halts s) :
    (∃ a s', p.Yields s a s') ∨ ∃ e s', p.Throws s e s' := by
  -- The outcome reached is one of the two that are not divergence.
  obtain ⟨fuel, ended⟩ := ends
  cases run : p.run fuel s with
  | diverged => exact absurd run ended
  | done a s' => exact .inl ⟨a, s', fuel, run⟩
  | thrown e s' => exact .inr ⟨e, s', fuel, run⟩

/-- A program that comes to an outcome other than divergence ends. -/
theorem Comes.halts {o : Outcome σ ε α} (came : p.Comes s o) (ended : o ≠ .diverged) :
    p.Halts s := by
  obtain ⟨fuel, rfl⟩ := came
  exact ⟨fuel, ended⟩

/-- A program that returns has ended. -/
theorem Yields.halts {a : α} (returned : p.Yields s a s') : p.Halts s :=
  Comes.halts returned (by simp)

/-- A program that throws has ended. -/
theorem Throws.halts {e : ε} (threw : p.Throws s e s') : p.Halts s :=
  Comes.halts threw (by simp)

/-- All bounds that suffice lead to one outcome. -/
theorem Comes.unique {o o' : Outcome σ ε α} (first : p.Comes s o) (second : p.Comes s o')
    (ended : o ≠ .diverged) (ended' : o' ≠ .diverged) : o = o' := by
  obtain ⟨m, rfl⟩ := first
  obtain ⟨n, rfl⟩ := second
  exact p.run_unique ended ended'

/-- A program returns in at most one way. -/
theorem Yields.unique {a b : α} (first : p.Yields s a s') (second : p.Yields s b s'') :
    a = b ∧ s' = s'' := by
  have same := Comes.unique first second (by simp) (by simp)
  exact ⟨by injection same, by injection same⟩

/-- A program that returns does not throw. -/
theorem Yields.not_throws {a : α} {e : ε} (first : p.Yields s a s') : ¬ p.Throws s e s'' := by
  -- One outcome would have to be of two kinds.
  intro second
  have same := Comes.unique first second (by simp) (by simp)
  injection same

/-- A program that throws throws in only one way. -/
theorem Throws.unique {e e' : ε} (first : p.Throws s e s') (second : p.Throws s e' s'') :
    e = e' ∧ s' = s'' := by
  have same := Comes.unique first second (by simp) (by simp)
  exact ⟨by injection same, by injection same⟩

/-- A program that ends leaves some state. -/
theorem Halts.leaves (ends : p.Halts s) : ∃ s', p.Leaves s s' := by
  rcases ends.cases with ⟨a, s', returned⟩ | ⟨e, s', threw⟩
  · exact ⟨s', .inl ⟨a, returned⟩⟩
  · exact ⟨s', .inr ⟨e, threw⟩⟩

/-- A program leaves at most one state. -/
theorem Leaves.unique (first : p.Leaves s s') (second : p.Leaves s s'') : s' = s'' := by
  rcases first with ⟨a, first⟩ | ⟨e, first⟩
  · rcases second with ⟨b, second⟩ | ⟨e, second⟩
    · exact (first.unique second).2
    · exact absurd second first.not_throws
  · rcases second with ⟨b, second⟩ | ⟨e', second⟩
    · exact absurd first second.not_throws
    · exact (first.unique second).2

/-- A known result carries every fact about it over to what the program ensures. -/
theorem Yields.ensures {a : α} {post : α → σ → Prop} {fail : ε → σ → Prop}
    (returned : p.Yields s a s') (holds : post a s') : p.Ensures s post fail where
  yields other := by
    obtain ⟨rfl, rfl⟩ := returned.unique other
    exact holds
  throws other := absurd other returned.not_throws

/-- A known exception carries every fact about it over to what the program ensures. -/
theorem Throws.ensures {e : ε} {post : α → σ → Prop} {fail : ε → σ → Prop}
    (threw : p.Throws s e s') (holds : fail e s') : p.Ensures s post fail where
  yields other := absurd threw other.not_throws
  throws other := by
    obtain ⟨rfl, rfl⟩ := threw.unique other
    exact holds

end Endings

section Agreement

variable {p q : Program σ ε α} {s s' : σ}

/-- Started in `s`, the two programs run alike. -/
def Agrees (p q : Program σ ε α) (s : σ) : Prop := ∀ fuel, p.run fuel s = q.run fuel s

/-- Programs that agree return the same. -/
theorem Agrees.yields {a : α} (alike : p.Agrees q s) (returned : q.Yields s a s') :
    p.Yields s a s' := by
  obtain ⟨fuel, run⟩ := returned
  exact ⟨fuel, (alike fuel).trans run⟩

/-- Programs that agree throw the same. -/
theorem Agrees.throws {e : ε} (alike : p.Agrees q s) (threw : q.Throws s e s') :
    p.Throws s e s' := by
  obtain ⟨fuel, run⟩ := threw
  exact ⟨fuel, (alike fuel).trans run⟩

/-- Programs that agree end together. -/
theorem Agrees.halts (alike : p.Agrees q s) (ends : q.Halts s) : p.Halts s := by
  obtain ⟨fuel, ended⟩ := ends
  exact ⟨fuel, by rwa [alike fuel]⟩

/-- Programs that agree ensure the same. -/
theorem Agrees.ensures {post : α → σ → Prop} {fail : ε → σ → Prop} (alike : p.Agrees q s)
    (ensured : q.Ensures s post fail) : p.Ensures s post fail where
  yields := fun ⟨fuel, run⟩ => ensured.yields ⟨fuel, (alike fuel).symm.trans run⟩
  throws := fun ⟨fuel, run⟩ => ensured.throws ⟨fuel, (alike fuel).symm.trans run⟩

end Agreement

section Yields

variable {p : Program σ ε α} {s s' s'' : σ}

/-- A value is returned as it is. -/
theorem yields_pure (a : α) (s : σ) : (pure a : Program σ ε α).Yields s a s := ⟨0, rfl⟩

/-- The state is returned as it is. -/
theorem yields_get (s : σ) : (get : Program σ ε σ).Yields s s s := ⟨0, rfl⟩

/-- A change of the state leaves the new state. -/
theorem yields_update (f : σ → σ) (s : σ) : (update f : Program σ ε Unit).Yields s () (f s) :=
  ⟨0, rfl⟩

/-- A change that comes with an answer returns it. -/
theorem yields_act (f : σ → α × σ) (s : σ) :
    (act f : Program σ ε α).Yields s (f s).1 (f s).2 := ⟨0, rfl⟩

/-- An exception is thrown as it is. -/
theorem throws_raise (e : ε) (s : σ) : (raise e : Program σ ε α).Throws s e s := ⟨0, rfl⟩

/-- A result that is a value is returned. -/
theorem yields_ofExcept {result : Except ε α} {a : α} (ok : result = .ok a) (s : σ) :
    (ofExcept result).Yields s a s := by
  rw [ok]
  exact yields_pure a s

/-- A result that is an error is thrown. -/
theorem throws_ofExcept {result : Except ε α} {e : ε} (error : result = .error e) (s : σ) :
    (ofExcept result).Throws s e s := by
  rw [error]
  exact throws_raise e s

/-- The state a run leaves, or the one it began in when it did not end. -/
def after (p : Program σ ε α) (fuel : Nat) (s : σ) : σ := ((p.run fuel s).state?).getD s

/-- A value that a run is seen to return is returned. -/
theorem yields_after {fuel : Nat} {a : α} (seen : (p.run fuel s).value? = some a) :
    p.Yields s a (p.after fuel s) := by
  refine ⟨fuel, ?_⟩
  unfold after
  -- Of the three outcomes only the first has a value.
  cases run : p.run fuel s with
  | done b s' =>
    rw [run] at seen
    cases seen
    rfl
  | thrown e s' => simp [run, Outcome.value?] at seen
  | diverged => simp [run, Outcome.value?] at seen

/-- A program that returns on a part of the state returns within the whole. -/
theorem Yields.within {τ : Type} {read : τ → σ} (write : σ → τ → τ) {t : τ} {a : α}
    (returned : p.Yields (read t) a s') : (p.within read write).Yields t a (write s' t) := by
  obtain ⟨fuel, run⟩ := returned
  exact ⟨fuel, by simp [Program.within, run]⟩

/-- After a first part that returns, a sequence comes to what its continuation comes to. -/
theorem Yields.bind_comes {a : α} {o : Outcome σ ε β} {f : α → Program σ ε β}
    (first : p.Yields s a s') (second : (f a).Comes s' o) (ended : o ≠ .diverged) :
    (p >>= f).Comes s o := by
  -- The sum of the two bounds suffices for both parts.
  obtain ⟨m, left⟩ := first
  obtain ⟨n, rfl⟩ := second
  refine ⟨m + n, ?_⟩
  have left' := p.stable_add (by simp [left] : p.run m s ≠ .diverged) n
  have right' := (f a).stable_add ended m
  rw [run_bind, left', left]
  simpa only [Outcome.andThen, Nat.add_comm n m] using right'

/-- Two programs in sequence return when each of them does. -/
theorem Yields.bind {a : α} {b : β} {f : α → Program σ ε β} (first : p.Yields s a s')
    (second : (f a).Yields s' b s'') : (p >>= f).Yields s b s'' :=
  first.bind_comes second (by simp)

/-- The same for a continuation that does not look at the value. -/
theorem Yields.next {a : α} {b : β} {q : Program σ ε β} (first : p.Yields s a s')
    (second : q.Yields s' b s'') : (p >>= fun _ => q).Yields s b s'' :=
  first.bind second

/-- An exception in the first program leaves the sequence. -/
theorem Throws.bind {e : ε} (f : α → Program σ ε β) (threw : p.Throws s e s') :
    (p >>= f).Throws s e s' := by
  -- The continuation is never started.
  obtain ⟨m, left⟩ := threw
  exact ⟨m, by simp [left, Outcome.andThen]⟩

/-- An exception in the second program leaves the sequence. -/
theorem Yields.bind_throws {a : α} {e : ε} {f : α → Program σ ε β} (first : p.Yields s a s')
    (second : (f a).Throws s' e s'') : (p >>= f).Throws s e s'' :=
  first.bind_comes second (by simp)

/-- The handler is not run when the program returns. -/
theorem Yields.attempt {a : α} (handler : ε → Program σ ε α) (first : p.Yields s a s') :
    (p.attempt handler).Yields s a s' := by
  -- The handler of a run that returned is never started.
  obtain ⟨m, left⟩ := first
  exact ⟨m, by simp [left, Outcome.orElse]⟩

/-- After an exception, a guarded program comes to what the handler comes to. -/
theorem Throws.attempt_comes {o : Outcome σ ε α} {e : ε} {handler : ε → Program σ ε α}
    (threw : p.Throws s e s') (handled : (handler e).Comes s' o) (ended : o ≠ .diverged) :
    (p.attempt handler).Comes s o := by
  -- The handler starts in the state the exception left, under the larger bound.
  obtain ⟨m, left⟩ := threw
  obtain ⟨n, rfl⟩ := handled
  refine ⟨m + n, ?_⟩
  have left' := p.stable_add (by simp [left] : p.run m s ≠ .diverged) n
  have right' := (handler e).stable_add ended m
  rw [run_attempt, left', left]
  simpa only [Outcome.orElse, Nat.add_comm n m] using right'

/-- The handler of an exception decides what is returned. -/
theorem Throws.attempt {a : α} {e : ε} {handler : ε → Program σ ε α} (threw : p.Throws s e s')
    (handled : (handler e).Yields s' a s'') : (p.attempt handler).Yields s a s'' :=
  threw.attempt_comes handled (by simp)

/-- An exception of the handler leaves the guarded program. -/
theorem Throws.attempt_throws {e e' : ε} {handler : ε → Program σ ε α} (threw : p.Throws s e s')
    (handled : (handler e).Throws s' e' s'') : (p.attempt handler).Throws s e' s'' :=
  threw.attempt_comes handled (by simp)

/-- A round that gives a result ends the loop. -/
theorem Yields.iterate_last {body : β → Program σ ε (β ⊕ α)} {b : β} {a : α}
    (round : (body b).Yields s (.inr a) s') : (iterate body b).Yields s a s' := by
  -- One round beyond the bound of the body is enough.
  obtain ⟨m, left⟩ := round
  have left' := (body b).stable_add (by simp [left] : (body b).run m s ≠ .diverged) 1
  exact ⟨m + 1, by simp [run_iterate_succ, left', left, Outcome.andThen]⟩

/-- A round that throws ends the loop. -/
theorem Throws.iterate {body : β → Program σ ε (β ⊕ α)} {b : β} {e : ε}
    (round : (body b).Throws s e s') : (Program.iterate body b).Throws s e s' := by
  -- One round beyond the bound of the body is enough.
  obtain ⟨m, left⟩ := round
  have left' := (body b).stable_add (by simp [left] : (body b).run m s ≠ .diverged) 1
  exact ⟨m + 1, by simp [run_iterate_succ, left', left, Outcome.andThen]⟩

/-- After a round that gives no result, a loop comes to what the rest of it comes to. -/
theorem Yields.iterate_comes {body : β → Program σ ε (β ⊕ α)} {b b' : β} {o : Outcome σ ε α}
    (round : (body b).Yields s (.inl b') s') (rest : (iterate body b').Comes s' o)
    (ended : o ≠ .diverged) : (iterate body b).Comes s o := by
  -- The first round uses one of the allowed rounds, and the rest of the loop the others.
  obtain ⟨m, left⟩ := round
  obtain ⟨n, rfl⟩ := rest
  refine ⟨m + n + 1, ?_⟩
  have left' := (body b).stable_add (by simp [left] : (body b).run m s ≠ .diverged) (n + 1)
  have right' := rounds_mono body (Nat.le_add_left n (m + 1)) (Nat.le_add_left n m) b' s' ended
  rw [run_iterate_succ, Nat.add_assoc, left', left]
  simp only [Outcome.andThen, ← Nat.add_assoc, Nat.add_right_comm m n 1, right']
  rfl

/-- A round that gives no result hands its value to the rest of the loop. -/
theorem Yields.iterate_next {body : β → Program σ ε (β ⊕ α)} {b b' : β} {a : α}
    (round : (body b).Yields s (.inl b') s') (rest : (iterate body b').Yields s' a s'') :
    (iterate body b).Yields s a s'' :=
  round.iterate_comes rest (by simp)

/-- A loop throws where the rest of it does, after a round that gives no result. -/
theorem Throws.iterate_next {body : β → Program σ ε (β ⊕ α)} {b b' : β} {e : ε}
    (round : (body b).Yields s (.inl b') s') (rest : (Program.iterate body b').Throws s' e s'') :
    (Program.iterate body b).Throws s e s'' :=
  round.iterate_comes rest (by simp)

end Yields

section Ensures

variable {p : Program σ ε α} {s : σ} {post mid : α → σ → Prop} {fail : ε → σ → Prop}

/-- What holds however the program ends holds of the state it leaves. -/
theorem Ensures.leaves {holds : σ → Prop}
    (ensured : p.Ensures s (fun _ s' => holds s') (fun _ s' => holds s')) {s' : σ}
    (left : p.Leaves s s') : holds s' := by
  rcases left with ⟨_, returned⟩ | ⟨_, threw⟩
  · exact ensured.yields returned
  · exact ensured.throws threw

/-- A postcondition may be weakened. -/
theorem Ensures.mono {post' : α → σ → Prop} {fail' : ε → σ → Prop} (strong : p.Ensures s post fail)
    (weaken : ∀ a s', post a s' → post' a s') (weakenFail : ∀ e s', fail e s' → fail' e s') :
    p.Ensures s post' fail' where
  yields returned := weaken _ _ (strong.yields returned)
  throws threw := weakenFail _ _ (strong.throws threw)

/-- Two facts about one program hold together. -/
theorem Ensures.and {post' : α → σ → Prop} {fail' : ε → σ → Prop} (first : p.Ensures s post fail)
    (second : p.Ensures s post' fail') :
    p.Ensures s (fun a s' => post a s' ∧ post' a s') (fun e s' => fail e s' ∧ fail' e s') where
  yields returned := ⟨first.yields returned, second.yields returned⟩
  throws threw := ⟨first.throws threw, second.throws threw⟩

/-- Every program ensures what is always true. -/
theorem ensures_true : p.Ensures s (fun _ _ => True) (fun _ _ => True) :=
  ⟨fun _ => trivial, fun _ => trivial⟩

/-- To return ensures what is true of the value already. -/
theorem ensures_pure {a : α} (holds : post a s) :
    (pure a : Program σ ε α).Ensures s post fail :=
  (yields_pure a s).ensures holds

/-- To look at the state ensures what is true of it. -/
theorem ensures_get {post : σ → σ → Prop} (holds : post s s) :
    (get : Program σ ε σ).Ensures s post fail :=
  (yields_get s).ensures holds

/-- A change of the state ensures what is true of the new state. -/
theorem ensures_update {f : σ → σ} {post : Unit → σ → Prop} (holds : post () (f s)) :
    (update f : Program σ ε Unit).Ensures s post fail :=
  (yields_update f s).ensures holds

/-- So does a change that comes with an answer. -/
theorem ensures_act {f : σ → α × σ} (holds : post (f s).1 (f s).2) :
    (act f : Program σ ε α).Ensures s post fail :=
  (yields_act f s).ensures holds

/-- To throw ensures what is true of the exception already. -/
theorem ensures_raise {e : ε} (holds : fail e s) :
    (raise e : Program σ ε α).Ensures s post fail where
  yields returned := absurd (throws_raise e s) returned.not_throws
  throws threw := by
    obtain ⟨rfl, rfl⟩ := (throws_raise e s).unique threw
    exact holds

/-- What a sequence ensures follows from what its two parts ensure. -/
theorem Ensures.bind {f : α → Program σ ε β} {post : β → σ → Prop}
    (first : p.Ensures s mid fail)
    (second : ∀ a s', mid a s' → (f a).Ensures s' post fail) : (p >>= f).Ensures s post fail where
  -- A sequence ends where its first part threw or where its continuation ended.
  yields := by
    rintro b s'' ⟨fuel, run⟩
    rw [run_bind] at run
    cases left : p.run fuel s with
    | diverged => simp [left, Outcome.andThen] at run
    | thrown e s' => simp [left, Outcome.andThen] at run
    | done a s' =>
      simp only [left, Outcome.andThen] at run
      exact (second a s' (first.yields ⟨fuel, left⟩)).yields ⟨fuel, run⟩
  -- An exception comes from the first part, or from what follows it.
  throws := by
    rintro e s'' ⟨fuel, run⟩
    rw [run_bind] at run
    cases left : p.run fuel s with
    | diverged => simp [left, Outcome.andThen] at run
    | thrown e' s' =>
      simp only [left, Outcome.andThen, Outcome.thrown.injEq] at run
      obtain ⟨rfl, rfl⟩ := run
      exact first.throws ⟨fuel, left⟩
    | done a s' =>
      simp only [left, Outcome.andThen] at run
      exact (second a s' (first.yields ⟨fuel, left⟩)).throws ⟨fuel, run⟩

/-- The first part may fail in its own way, as long as that is a way the sequence may fail. -/
theorem Ensures.seq {f : α → Program σ ε β} {post : β → σ → Prop} {fail' : ε → σ → Prop}
    (first : p.Ensures s mid fail') (failed : ∀ e s', fail' e s' → fail e s')
    (second : ∀ a s', mid a s' → (f a).Ensures s' post fail) : (p >>= f).Ensures s post fail :=
  (first.mono (fun _ _ holds => holds) failed).bind second

/-- After a known result, a sequence ensures what its continuation does. -/
theorem Yields.bind_ensures {f : α → Program σ ε β} {post : β → σ → Prop} {a : α} {s' : σ}
    (returned : p.Yields s a s') (rest : (f a).Ensures s' post fail) :
    (p >>= f).Ensures s post fail := by
  -- The known result is the only one the continuation has to answer for.
  refine Ensures.bind (returned.ensures ⟨rfl, rfl⟩ : p.Ensures s (fun b t => b = a ∧ t = s') fail) ?_
  rintro b t ⟨rfl, rfl⟩
  exact rest

/-- A handler has to ensure the postcondition from every state an exception leaves. -/
theorem Ensures.attempt {handler : ε → Program σ ε α} {fail' : ε → σ → Prop}
    (first : p.Ensures s post fail')
    (second : ∀ e s', fail' e s' → (handler e).Ensures s' post fail) :
    (p.attempt handler).Ensures s post fail where
  -- A guarded program ends where it returned or where its handler ended.
  yields := by
    rintro a s'' ⟨fuel, run⟩
    rw [run_attempt] at run
    cases left : p.run fuel s with
    | diverged => simp [left, Outcome.orElse] at run
    | done a' s' =>
      simp only [left, Outcome.orElse, Outcome.done.injEq] at run
      obtain ⟨rfl, rfl⟩ := run
      exact first.yields ⟨fuel, left⟩
    | thrown e s' =>
      simp only [left, Outcome.orElse] at run
      exact (second e s' (first.throws ⟨fuel, left⟩)).yields ⟨fuel, run⟩
  -- An exception that leaves the whole is one of the handler.
  throws := by
    rintro e' s'' ⟨fuel, run⟩
    rw [run_attempt] at run
    cases left : p.run fuel s with
    | diverged => simp [left, Outcome.orElse] at run
    | done a' s' => simp [left, Outcome.orElse] at run
    | thrown e s' =>
      simp only [left, Outcome.orElse] at run
      exact (second e s' (first.throws ⟨fuel, left⟩)).throws ⟨fuel, run⟩

/-- What one more round has to establish, whichever way the round turns out. -/
def Turn (next : β → σ → Prop) (post : α → σ → Prop) : β ⊕ α → σ → Prop
  | .inl b, s => next b s
  | .inr a, s => post a s

/-- An invariant kept by every round of a loop gives its postcondition when it ends. -/
theorem Ensures.iterate {body : β → Program σ ε (β ⊕ α)} (invariant : β → σ → Prop) {b : β}
    (start : invariant b s)
    (round : ∀ b s, invariant b s → (body b).Ensures s (Turn invariant post) fail) :
    (iterate body b).Ensures s post fail := by
  -- The rounds left to a run bound the induction, and the invariant holds before each of them.
  have all : ∀ fuel left b s, invariant b s →
      (∀ a s', rounds body fuel left b s = .done a s' → post a s') ∧
      (∀ e s', rounds body fuel left b s = .thrown e s' → fail e s') := by
    intro fuel left
    induction left with
    | zero => intro b s _; constructor <;> intro _ _ run <;> simp [rounds] at run
    | succ left ih =>
      intro b s holds
      have kept := round b s holds
      cases first : (body b).run fuel s with
      | diverged => constructor <;> intro _ _ run <;> simp [rounds, first, Outcome.andThen] at run
      | thrown e s' =>
        have failed := kept.throws ⟨fuel, first⟩
        constructor <;> intro _ _ run <;> simp [rounds, first, Outcome.andThen] at run
        obtain ⟨rfl, rfl⟩ := run
        exact failed
      | done turn s' =>
        have turned := kept.yields ⟨fuel, first⟩
        -- The round goes on with the invariant, or ends the loop.
        cases turn with
        | inl b' => simpa only [rounds, first, Outcome.andThen] using ih b' s' turned
        | inr a =>
          constructor <;> intro _ _ run <;> simp [rounds, first, Outcome.andThen] at run
          obtain ⟨rfl, rfl⟩ := run
          exact turned
  constructor
  · rintro a s' ⟨fuel, run⟩
    exact (all fuel fuel b s start).1 _ _ run
  · rintro e s' ⟨fuel, run⟩
    exact (all fuel fuel b s start).2 _ _ run

/-- The same for an invariant with a number that every round lowers. -/
theorem Ensures.iterate_lowering {body : β → Program σ ε (β ⊕ α)} (invariant : Nat → β → σ → Prop)
    (round : ∀ n b s, invariant n b s →
      (body b).Ensures s (Turn (fun b' s' => ∃ m < n, invariant m b' s') post) fail)
    {n : Nat} {b : β} (start : invariant n b s) : (Program.iterate body b).Ensures s post fail := by
  refine Ensures.iterate (fun b s => ∃ n, invariant n b s) ⟨n, start⟩ ?_
  rintro b s ⟨n, holds⟩
  refine (round n b s holds).mono ?_ fun _ _ failed => failed
  rintro (b' | a) s' turned
  · -- How far the number was lowered does not matter here.
    obtain ⟨m, _, holds⟩ := turned
    exact ⟨m, holds⟩
  · exact turned

/-- What a program ensures of a part of the state, it ensures within the whole. -/
theorem Ensures.within {τ : Type} {read : τ → σ} (write : σ → τ → τ) {t : τ}
    (ensured : p.Ensures (read t) post fail) :
    (p.within read write).Ensures t (fun a t' => ∃ s', post a s' ∧ t' = write s' t)
      (fun e t' => ∃ s', fail e s' ∧ t' = write s' t) where
  -- A run within the whole is a run on the part, written back.
  yields := by
    rintro a t' ⟨fuel, run⟩
    unfold Program.within at run
    cases part : p.run fuel (read t) with
    | diverged => simp [part] at run
    | thrown e s' => simp [part] at run
    | done b s' =>
      simp only [part, Outcome.done.injEq] at run
      obtain ⟨rfl, rfl⟩ := run
      exact ⟨s', ensured.yields ⟨fuel, part⟩, rfl⟩
  -- An exception leaves the part written back, too.
  throws := by
    rintro e t' ⟨fuel, run⟩
    unfold Program.within at run
    cases part : p.run fuel (read t) with
    | diverged => simp [part] at run
    | done b s' => simp [part] at run
    | thrown e' s' =>
      simp only [part, Outcome.thrown.injEq] at run
      obtain ⟨rfl, rfl⟩ := run
      exact ⟨s', ensured.throws ⟨fuel, part⟩, rfl⟩

end Ensures

section Halts

variable {p : Program σ ε α} {s : σ}

/-- A sequence ends when its first part ends and every continuation does. -/
theorem Halts.bind {f : α → Program σ ε β} (ends : p.Halts s)
    (rest : ∀ a s', p.Yields s a s' → (f a).Halts s') : (p >>= f).Halts s := by
  rcases ends.cases with ⟨a, s', returned⟩ | ⟨e, s', threw⟩
  · rcases (rest a s' returned).cases with ⟨b, s'', more⟩ | ⟨e, s'', more⟩
    · exact (returned.bind more).halts
    · exact (returned.bind_throws more).halts
  · exact (threw.bind f).halts

/-- After a known result, a sequence ends when its continuation does. -/
theorem Yields.bind_halts {f : α → Program σ ε β} {a : α} {s' : σ} (returned : p.Yields s a s')
    (rest : (f a).Halts s') : (p >>= f).Halts s := by
  refine returned.halts.bind fun b t other => ?_
  obtain ⟨rfl, rfl⟩ := returned.unique other
  exact rest

/-- A guarded program ends when the program ends and every handler it may need does. -/
theorem Halts.attempt {handler : ε → Program σ ε α} (ends : p.Halts s)
    (rest : ∀ e s', p.Throws s e s' → (handler e).Halts s') : (p.attempt handler).Halts s := by
  rcases ends.cases with ⟨a, s', returned⟩ | ⟨e, s', threw⟩
  · exact (returned.attempt handler).halts
  · obtain ⟨n, ended⟩ := rest e s' threw
    exact (threw.attempt_comes ⟨n, rfl⟩ ended).halts ended

/-- A program that ends on a part of the state ends within the whole. -/
theorem Halts.within {τ : Type} {read : τ → σ} (write : σ → τ → τ) {t : τ}
    (ends : p.Halts (read t)) : (p.within read write).Halts t := by
  obtain ⟨fuel, ended⟩ := ends
  refine ⟨fuel, fun run => ?_⟩
  unfold Program.within at run
  cases part : p.run fuel (read t) with
  | diverged => exact ended part
  | done a s => simp [part] at run
  | thrown e s => simp [part] at run

end Halts

section Straight

variable {p : Program σ ε α}

/-- The program has no loops, so that it ends when no rounds are allowed. -/
def Straight (p : Program σ ε α) : Prop := ∀ s, p.run 0 s ≠ .diverged

/-- To return needs no fuel. -/
theorem straight_pure (a : α) : (pure a : Program σ ε α).Straight := fun _ => by simp

/-- To look at the state needs no fuel. -/
theorem straight_get : (get : Program σ ε σ).Straight := fun _ => by simp

/-- A change of the state needs no fuel. -/
theorem straight_update (f : σ → σ) : (update f : Program σ ε Unit).Straight := fun _ => by simp

/-- To throw needs no fuel. -/
theorem straight_raise (e : ε) : (raise e : Program σ ε α).Straight := fun _ => by simp

/-- Nor does a result, which may be an error. -/
theorem straight_ofExcept (result : Except ε α) :
    (ofExcept result : Program σ ε α).Straight := by
  intro s
  cases result with
  | ok a => simp [ofExcept, Program.pure]
  | error e => simp [ofExcept]

/-- Two straight programs in a row are straight. -/
theorem Straight.bind {f : α → Program σ ε β} (first : p.Straight)
    (second : ∀ a, (f a).Straight) : (p >>= f).Straight := by
  intro s
  rw [run_bind]
  cases run : p.run 0 s with
  | diverged => exact absurd run (first s)
  | thrown e s' => simp [Outcome.andThen]
  | done a s' => exact second a s'

/-- A straight program with straight handlers is straight. -/
theorem Straight.attempt {handler : ε → Program σ ε α} (first : p.Straight)
    (second : ∀ e, (handler e).Straight) : (p.attempt handler).Straight := by
  intro s
  rw [run_attempt]
  cases run : p.run 0 s with
  | diverged => exact absurd run (first s)
  | thrown e s' => exact second e s'
  | done a s' => simp [Outcome.orElse]

/-- A program stays straight where its state is part of another. -/
theorem Straight.within {τ : Type} (read : τ → σ) (write : σ → τ → τ) (straight : p.Straight) :
    (p.within read write).Straight := by
  intro t
  unfold Program.within
  cases run : p.run 0 (read t) with
  | diverged => exact absurd run (straight (read t))
  | thrown e s' => simp [run]
  | done a s' => simp [run]

/-- What a program without loops ensures, it achieves. -/
theorem Straight.achieves {s : σ} {post : α → σ → Prop} {fail : ε → σ → Prop} (straight : p.Straight)
    (ensured : p.Ensures s post fail) : p.Achieves s post fail :=
  ⟨ensured, 0, straight s⟩

/-- A program without loops returns what it returns for every bound on the rounds. -/
theorem Straight.run_eq {s s' : σ} {a : α} (straight : p.Straight) (returned : p.Yields s a s')
    (fuel : Nat) : p.run fuel s = .done a s' := by
  obtain ⟨enough, run⟩ := returned
  have same := p.stable_add (straight s) fuel
  rw [Nat.zero_add] at same
  rw [same, p.run_unique (straight s) (by simp [run] : p.run enough s ≠ .diverged), run]

/-- A program without loops is seen to leave its state when no rounds are allowed. -/
theorem Straight.after {s s' : σ} (straight : p.Straight) (left : p.Leaves s s') :
    p.after 0 s = s' := by
  unfold Program.after
  rcases left with ⟨a, fuel, run⟩ | ⟨e, fuel, run⟩
  · rw [p.run_unique (straight s) (by simp [run] : p.run fuel s ≠ .diverged), run]
    rfl
  · rw [p.run_unique (straight s) (by simp [run] : p.run fuel s ≠ .diverged), run]
    rfl

end Straight

section Achieves

variable {p : Program σ ε α} {s : σ} {post mid : α → σ → Prop} {fail : ε → σ → Prop}

/-- What is achieved may be said with less. -/
theorem Achieves.mono {post' : α → σ → Prop} {fail' : ε → σ → Prop}
    (strong : p.Achieves s post fail) (weaken : ∀ a s', post a s' → post' a s')
    (weakenFail : ∀ e s', fail e s' → fail' e s') : p.Achieves s post' fail' :=
  ⟨strong.toEnsures.mono weaken weakenFail, strong.halts⟩

/-- A known result is everything the program achieves. -/
theorem Yields.achieves {a : α} {s' : σ} (returned : p.Yields s a s') (holds : post a s') :
    p.Achieves s post fail :=
  ⟨returned.ensures holds, returned.halts⟩

/-- To throw achieves what is true of the exception already. -/
theorem achieves_raise {e : ε} (holds : fail e s) :
    (raise e : Program σ ε α).Achieves s post fail :=
  ⟨ensures_raise holds, (throws_raise e s).halts⟩

/-- A sequence ends when its first part ends and every continuation does. -/
theorem Achieves.bind {f : α → Program σ ε β} {post : β → σ → Prop}
    (first : p.Achieves s mid fail)
    (second : ∀ a s', mid a s' → (f a).Achieves s' post fail) :
    (p >>= f).Achieves s post fail := by
  -- The first part ends, and from each state it returns in the continuation ends too.
  refine ⟨first.toEnsures.bind fun a s' holds => (second a s' holds).toEnsures, ?_⟩
  exact first.halts.bind fun a s' returned => (second a s' (first.yields returned)).halts

/-- A known exception is everything the program achieves. -/
theorem Throws.achieves {e : ε} {s' : σ} (threw : p.Throws s e s') (holds : fail e s') :
    p.Achieves s post fail :=
  ⟨threw.ensures holds, threw.halts⟩

/-- The first part may fail in its own way, as long as that is a way the sequence may fail. -/
theorem Achieves.seq {f : α → Program σ ε β} {post : β → σ → Prop} {fail' : ε → σ → Prop}
    (first : p.Achieves s mid fail') (failed : ∀ e s', fail' e s' → fail e s')
    (second : ∀ a s', mid a s' → (f a).Achieves s' post fail) : (p >>= f).Achieves s post fail :=
  (first.mono (fun _ _ holds => holds) failed).bind second

/-- After a known result, a sequence achieves what its continuation does. -/
theorem Yields.bind_achieves {f : α → Program σ ε β} {post : β → σ → Prop} {a : α} {s' : σ}
    (returned : p.Yields s a s') (rest : (f a).Achieves s' post fail) :
    (p >>= f).Achieves s post fail := by
  refine Achieves.bind (returned.achieves ⟨rfl, rfl⟩ : p.Achieves s (fun b t => b = a ∧ t = s') fail) ?_
  rintro b t ⟨rfl, rfl⟩
  exact rest

/-- A guarded program ends when the program ends and every handler it may need does. -/
theorem Achieves.attempt {handler : ε → Program σ ε α} {fail' : ε → σ → Prop}
    (first : p.Achieves s post fail')
    (second : ∀ e s', fail' e s' → (handler e).Achieves s' post fail) :
    (p.attempt handler).Achieves s post fail := by
  -- Only the states left by an exception need the handler to end.
  refine ⟨first.toEnsures.attempt fun e s' holds => (second e s' holds).toEnsures, ?_⟩
  exact first.halts.attempt fun e s' threw => (second e s' (first.throws threw)).halts

/-- A loop ends when every round ends and lowers a bound on the rounds still to come. -/
theorem Achieves.iterate {body : β → Program σ ε (β ⊕ α)} (invariant : Nat → β → σ → Prop)
    (round : ∀ n b s, invariant n b s →
      (body b).Achieves s (Turn (fun b' s' => ∃ m < n, invariant m b' s') post) fail) :
    ∀ {n b s}, invariant n b s → (iterate body b).Achieves s post fail := by
  intro n b s start
  constructor
  · exact Ensures.iterate_lowering invariant (fun n b s holds => (round n b s holds).toEnsures) start
  · -- Strong induction on the bound: the first round ends, and the rest has a smaller bound.
    induction n using Nat.strongRecOn generalizing b s with
    | _ n ih =>
      rcases (round n b s start).halts.cases with ⟨turn, s', returned⟩ | ⟨e, s', threw⟩
      · have turned := (round n b s start).yields returned
        cases turn with
        | inr a => exact (Yields.iterate_last returned).halts
        | inl b' =>
          obtain ⟨m, smaller, holds⟩ := turned
          obtain ⟨k, ended⟩ := ih m smaller holds
          exact (returned.iterate_comes ⟨k, rfl⟩ ended).halts ended
      · exact threw.iterate.halts

/-- What a program achieves on a part of the state, it achieves within the whole. -/
theorem Achieves.within {τ : Type} (read : τ → σ) (write : σ → τ → τ) {t : τ}
    (achieved : p.Achieves (read t) post fail) :
    (p.within read write).Achieves t (fun a t' => ∃ s', post a s' ∧ t' = write s' t)
      fun e t' => ∃ s', fail e s' ∧ t' = write s' t :=
  ⟨achieved.toEnsures.within write, achieved.halts.within write⟩

end Achieves

/-- A property that programs have when their parts have it, and that reading the state has. -/
structure Compositional (has : ∀ {α : Type}, Program σ ε α → Prop) : Prop where
  pure : ∀ {α : Type} (a : α), has (pure a)
  get : has get
  bind : ∀ {α β : Type} {p : Program σ ε α} {f : α → Program σ ε β},
    has p → (∀ a, has (f a)) → has (p >>= f)
  iterate : ∀ {α β : Type} {body : β → Program σ ε (β ⊕ α)},
    (∀ b, has (body b)) → ∀ b, has (iterate body b)

/-- Behind a look at the state, it is for the rest, whatever the state is. -/
theorem Compositional.get_bind {has : ∀ {α : Type}, Program σ ε α → Prop}
    (parts : Compositional has) {f : σ → Program σ ε α} (rest : ∀ s, has (f s)) :
    has (Program.get >>= f) :=
  parts.bind parts.get rest

end Program
end Effects
