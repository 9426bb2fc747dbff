/-! Programs that change a state, throw, and run loops that may never end. -/

namespace Effects

/-- How a run ends: with a value, with an exception, or not within the allowed rounds. -/
inductive Outcome (σ ε α : Type) where
  /-- The program returned a value. -/
  | done (value : α) (state : σ)
  /-- An exception left the program, and the state keeps what happened before it. -/
  | thrown (error : ε) (state : σ)
  /-- Some loop was still going when the allowed rounds were used up. -/
  | diverged

namespace Outcome

variable {σ ε α β : Type}

/-- Continue a run that returned, and pass on one that did not. -/
def andThen : Outcome σ ε α → (α → σ → Outcome σ ε β) → Outcome σ ε β
  | done a s, next => next a s
  | thrown e s, _ => thrown e s
  | diverged, _ => diverged

/-- Continue a run that threw, and pass on one that did not. -/
def orElse : Outcome σ ε α → (ε → σ → Outcome σ ε α) → Outcome σ ε α
  | done a s, _ => done a s
  | thrown e s, handler => handler e s
  | diverged, _ => diverged

/-- The states that come after a run that returned. -/
def seenAfter {γ : Type} : Outcome σ ε α → (α → σ → List γ) → List γ
  | done a s, next => next a s
  | _, _ => []

/-- The states that come after a run that threw. -/
def seenOnError {γ : Type} : Outcome σ ε α → (ε → σ → List γ) → List γ
  | thrown e s, handler => handler e s
  | _, _ => []

/-- The value of a run that returned. -/
def value? : Outcome σ ε α → Option α
  | done a _ => some a
  | _ => none

/-- The state a run ended in. -/
def state? : Outcome σ ε α → Option σ
  | done _ s => some s
  | thrown _ s => some s
  | diverged => none

/-- A value is passed on. -/
@[simp] theorem done_andThen (a : α) (s : σ) (next : α → σ → Outcome σ ε β) :
    (done a s : Outcome σ ε α).andThen next = next a s := rfl

/-- An exception skips what would come next. -/
@[simp] theorem thrown_andThen (e : ε) (s : σ) (next : α → σ → Outcome σ ε β) :
    (thrown e s : Outcome σ ε α).andThen next = thrown e s := rfl

/-- Three outcomes in a row may be taken together either way. -/
@[simp] theorem andThen_andThen {γ : Type} (outcome : Outcome σ ε α)
    (next : α → σ → Outcome σ ε β) (last : β → σ → Outcome σ ε γ) :
    (outcome.andThen next).andThen last =
      outcome.andThen fun a s => (next a s).andThen last := by
  cases outcome <;> rfl

/-- What is seen behind two outcomes is seen behind the second. -/
theorem seenAfter_andThen {τ : Type} (outcome : Outcome σ ε α)
    (next : α → σ → Outcome σ ε β) (last : β → σ → List τ) :
    (outcome.andThen next).seenAfter last = outcome.seenAfter fun a s => (next a s).seenAfter last := by
  cases outcome <;> rfl

end Outcome

/--
A program, given by its outcome for every bound on the rounds of its loops.

The bound decides only between an outcome and none: a larger one never changes what was reached.
Every change of the state is listed, also in a run that does not end.
-/
structure Program (σ ε α : Type) where
  run : Nat → σ → Outcome σ ε α
  /-- The states that a run passes through, in order. -/
  seen : Nat → σ → List σ
  stable : ∀ fuel s, run fuel s ≠ .diverged → run (fuel + 1) s = run fuel s

namespace Program

variable {σ ε α β : Type}

/-- Raising the bound by any amount keeps an outcome that was reached. -/
theorem stable_add (p : Program σ ε α) {fuel : Nat} {s : σ} (ended : p.run fuel s ≠ .diverged)
    (more : Nat) : p.run (fuel + more) s = p.run fuel s := by
  -- Each further round keeps the outcome, so the bound is raised one at a time.
  induction more with
  | zero => rfl
  | succ more ih =>
    have still : p.run (fuel + more) s ≠ .diverged := by rw [ih]; exact ended
    rw [← Nat.add_assoc, p.stable _ _ still, ih]

/-- Two bounds that both suffice agree on the outcome. -/
theorem run_unique (p : Program σ ε α) {s : σ} {first second : Nat}
    (left : p.run first s ≠ .diverged) (right : p.run second s ≠ .diverged) :
    p.run first s = p.run second s := by
  -- Both outcomes survive at the sum of the bounds.
  rw [← p.stable_add left second, ← p.stable_add right first, Nat.add_comm]

/-- Return a value and leave the state as it is. -/
protected def pure (a : α) : Program σ ε α where
  run _ s := .done a s
  seen _ _ := []
  stable _ _ _ := rfl

/-- Run one program and continue with its value. -/
protected def bind (p : Program σ ε α) (f : α → Program σ ε β) : Program σ ε β where
  run fuel s := (p.run fuel s).andThen fun a s' => (f a).run fuel s'
  seen fuel s := p.seen fuel s ++ (p.run fuel s).seenAfter fun a s' => (f a).seen fuel s'
  stable fuel s ended := by
    -- Whatever the first part reached it reaches again, and the rest starts from the same state.
    cases first : p.run fuel s with
    | diverged => simp [first, Outcome.andThen] at ended
    | thrown e s' =>
      have again := p.stable fuel s (by simp [first])
      simp [again, first, Outcome.andThen]
    | done a s' =>
      have again := p.stable fuel s (by simp [first])
      simp only [first, Outcome.andThen, ne_eq] at ended
      simpa [again, first, Outcome.andThen] using (f a).stable fuel s' ended

instance : Monad (Program σ ε) where
  pure := Program.pure
  bind := Program.bind

/-- Programs that run alike and pass through the same states are the same. -/
theorem ext {p q : Program σ ε α} (alike : ∀ fuel s, p.run fuel s = q.run fuel s)
    (passed : ∀ fuel s, p.seen fuel s = q.seen fuel s) : p = q := by
  obtain ⟨run, seen, _⟩ := p
  obtain ⟨run', seen', _⟩ := q
  obtain rfl : run = run' := funext fun fuel => funext fun s => alike fuel s
  obtain rfl : seen = seen' := funext fun fuel => funext fun s => passed fuel s
  rfl

instance : LawfulMonad (Program σ ε) := LawfulMonad.mk' (Program σ ε)
  (fun p => ext
    (fun fuel s => by
      show (p.run fuel s).andThen (fun a s' => .done a s') = p.run fuel s
      cases p.run fuel s <;> rfl)
    (fun fuel s => by
      show p.seen fuel s ++ (p.run fuel s).seenAfter (fun _ _ => []) = p.seen fuel s
      cases p.run fuel s <;> exact List.append_nil _))
  (fun _ _ => ext (fun _ _ => rfl) fun _ _ => rfl)
  (fun p f g => ext
    (fun fuel s => Outcome.andThen_andThen (p.run fuel s) _ _)
    (fun fuel s => by
      show (p.seen fuel s ++ (p.run fuel s).seenAfter fun a s' => (f a).seen fuel s') ++
          ((p.run fuel s).andThen fun a s' => (f a).run fuel s').seenAfter
            (fun b s' => (g b).seen fuel s') = _
      rw [Outcome.seenAfter_andThen, List.append_assoc]
      show _ = p.seen fuel s ++ (p.run fuel s).seenAfter fun a s' =>
        (f a).seen fuel s' ++ ((f a).run fuel s').seenAfter fun b s' => (g b).seen fuel s'
      cases p.run fuel s <;> rfl))

/-- Read the state. -/
def get : Program σ ε σ where
  run _ s := .done s s
  seen _ _ := []
  stable _ _ _ := rfl

/-- Replace the state by a function of it. -/
def update (f : σ → σ) : Program σ ε Unit where
  run _ s := .done () (f s)
  seen _ s := [f s]
  stable _ _ _ := rfl

/-- Replace the state and return a value computed from it. -/
def act (f : σ → α × σ) : Program σ ε α where
  run _ s := .done (f s).1 (f s).2
  seen _ s := [(f s).2]
  stable _ _ _ := rfl

/-- Throw an exception. -/
def raise (e : ε) : Program σ ε α where
  run _ s := .thrown e s
  seen _ _ := []
  stable _ _ _ := rfl

/-- Run a program and hand its exception to a handler. -/
def attempt (p : Program σ ε α) (handler : ε → Program σ ε α) : Program σ ε α where
  run fuel s := (p.run fuel s).orElse fun e s' => (handler e).run fuel s'
  seen fuel s := p.seen fuel s ++ (p.run fuel s).seenOnError fun e s' => (handler e).seen fuel s'
  stable fuel s ended := by
    -- The same argument as for sequencing, with the two ways of ending exchanged.
    cases first : p.run fuel s with
    | diverged => simp [first, Outcome.orElse] at ended
    | done a s' =>
      have again := p.stable fuel s (by simp [first])
      simp [again, first, Outcome.orElse]
    | thrown e s' =>
      have again := p.stable fuel s (by simp [first])
      simp only [first, Outcome.orElse, ne_eq] at ended
      simpa [again, first, Outcome.orElse] using (handler e).stable fuel s' ended

/-- Return the value of a computation without effects, or throw its error. -/
def ofExcept : Except ε α → Program σ ε α
  | .ok a => Program.pure a
  | .error e => raise e

/-- Run a program on a part of the state. -/
def within {τ : Type} (read : τ → σ) (write : σ → τ → τ) (p : Program σ ε α) : Program τ ε α where
  run fuel t :=
    match p.run fuel (read t) with
    | .done a s => .done a (write s t)
    | .thrown e s => .thrown e (write s t)
    | .diverged => .diverged
  seen fuel t := (p.seen fuel (read t)).map fun s => write s t
  stable fuel t ended := by
    -- Whatever the part reached it reaches again, and the rest of the state is the same.
    cases part : p.run fuel (read t) with
    | diverged => simp [part] at ended
    | done a s => simp [p.stable fuel (read t) (by simp [part]), part]
    | thrown e s => simp [p.stable fuel (read t) (by simp [part]), part]

/-- Run a program on an object of its own, which ends with the program unless it is returned. -/
def owning {τ : Type} (object : σ) (p : Program (σ × τ) ε α) : Program τ ε (α × σ) where
  run fuel t :=
    match p.run fuel (object, t) with
    | .done a s => .done (a, s.1) s.2
    | .thrown e s => .thrown e s.2
    | .diverged => .diverged
  seen fuel t := (p.seen fuel (object, t)).map Prod.snd
  stable fuel t ended := by
    -- The object begins the same, so what was reached is reached again.
    cases part : p.run fuel (object, t) with
    | diverged => simp [part] at ended
    | done a s => simp [p.stable fuel (object, t) (by simp [part]), part]
    | thrown e s => simp [p.stable fuel (object, t) (by simp [part]), part]

/-- The rounds of a loop: a left value starts the next round, a right value leaves the loop. -/
def rounds (body : β → Program σ ε (β ⊕ α)) (fuel : Nat) : Nat → β → σ → Outcome σ ε α
  | 0, _, _ => .diverged
  | left + 1, b, s =>
    ((body b).run fuel s).andThen fun turn s' =>
      match turn with
      | .inl b' => rounds body fuel left b' s'
      | .inr a => .done a s'

/-- The states that the rounds of a loop pass through. -/
def roundsSeen (body : β → Program σ ε (β ⊕ α)) (fuel : Nat) : Nat → β → σ → List σ
  | 0, _, _ => []
  | left + 1, b, s =>
    (body b).seen fuel s ++ ((body b).run fuel s).seenAfter fun turn s' =>
      match turn with
      | .inl b' => roundsSeen body fuel left b' s'
      | .inr _ => []

/-- A finished loop finishes the same way when it and its body are allowed more rounds. -/
theorem rounds_mono (body : β → Program σ ε (β ⊕ α)) {fuel fuel' : Nat} (more : fuel ≤ fuel') :
    ∀ {left left'}, left ≤ left' → ∀ b s, rounds body fuel left b s ≠ .diverged →
      rounds body fuel' left' b s = rounds body fuel left b s := by
  -- The body of each round is stable, and the rounds after it are the induction hypothesis.
  intro left
  induction left with
  | zero => intro left' _ b s ended; simp [rounds] at ended
  | succ left ih =>
    intro left' enough b s ended
    obtain ⟨left', rfl⟩ : ∃ n, left' = n + 1 := ⟨left' - 1, by omega⟩
    obtain ⟨extra, rfl⟩ := Nat.exists_eq_add_of_le more
    rw [rounds] at ended ⊢
    rw [rounds]
    cases round : (body b).run fuel s with
    | diverged => simp [round, Outcome.andThen] at ended
    | thrown e s' =>
      have again := (body b).stable_add (by simp [round] : (body b).run fuel s ≠ .diverged) extra
      simp [again, round, Outcome.andThen]
    | done turn s' =>
      have again := (body b).stable_add (by simp [round] : (body b).run fuel s ≠ .diverged) extra
      rw [again, round]
      -- The last round is the same, and a round that goes on leaves one round less.
      cases turn with
      | inr a => rfl
      | inl b' =>
        simp only [round, Outcome.andThen, ne_eq] at ended
        simpa only [Outcome.andThen] using ih (by omega) b' s' ended

/-- Repeat a body, carrying a value from round to round, until it gives a result. -/
def iterate (body : β → Program σ ε (β ⊕ α)) (start : β) : Program σ ε α where
  run fuel s := rounds body fuel fuel start s
  seen fuel s := roundsSeen body fuel fuel start s
  stable fuel s ended :=
    rounds_mono body (Nat.le_add_right fuel 1) (Nat.le_add_right fuel 1) start s ended

section Runs

variable (p : Program σ ε α) (f : α → Program σ ε β) (fuel : Nat) (s : σ)

/-- To return leaves the state as it is. -/
@[simp] theorem run_pure (a : α) : (pure a : Program σ ε α).run fuel s = .done a s := rfl

/-- The second program runs in the state that the first leaves, with the same fuel. -/
@[simp] theorem run_bind :
    (p >>= f).run fuel s = (p.run fuel s).andThen fun a s' => (f a).run fuel s' := rfl

/-- To look at the state gives the state. -/
@[simp] theorem run_get : (get : Program σ ε σ).run fuel s = .done s s := rfl

/-- A change of the state gives nothing else. -/
@[simp] theorem run_update (g : σ → σ) :
    (update g : Program σ ε Unit).run fuel s = .done () (g s) := rfl

/-- A change of the state may come with an answer. -/
@[simp] theorem run_act (g : σ → α × σ) :
    (act g : Program σ ε α).run fuel s = .done (g s).1 (g s).2 := rfl

/-- To throw leaves the state as it is. -/
@[simp] theorem run_raise (e : ε) : (raise e : Program σ ε α).run fuel s = .thrown e s := rfl

/-- A handler runs in the state that the exception leaves. -/
@[simp] theorem run_attempt (handler : ε → Program σ ε α) :
    (p.attempt handler).run fuel s =
      (p.run fuel s).orElse fun e s' => (handler e).run fuel s' := rfl

/-- A loop that may still run does one round and continues with the rounds left. -/
theorem run_iterate_succ (body : β → Program σ ε (β ⊕ α)) (b : β) :
    (iterate body b).run (fuel + 1) s =
      ((body b).run (fuel + 1) s).andThen fun turn s' =>
        match turn with
        | .inl b' => rounds body (fuel + 1) fuel b' s'
        | .inr a => .done a s' := rfl

end Runs

end Program
end Effects
