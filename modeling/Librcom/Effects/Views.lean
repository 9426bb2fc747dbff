import Librcom.Effects.Rules

/-! Programs that keep more in their state than others, and otherwise run as these do. -/

namespace Effects

namespace Outcome

variable {σ τ ε α β : Type}

/-- The outcome, with its state seen through a view. -/
def seenThrough (view : τ → σ) : Outcome τ ε α → Outcome σ ε α
  | done a t => done a (view t)
  | thrown e t => thrown e (view t)
  | diverged => diverged

end Outcome

namespace Program

variable {σ τ ε α β : Type} {view : τ → σ} {q : Program τ ε α} {p : Program σ ε α} {t : τ}

/-- Seen through a view of its states, the first program runs from `t` as the second one does. -/
def Mirrors (view : τ → σ) (q : Program τ ε α) (p : Program σ ε α) (t : τ) : Prop :=
  ∀ fuel, (q.run fuel t).seenThrough view = p.run fuel (view t)

section Endings

/-- What the second program returns is what the first one does, with more in its state. -/
theorem Mirrors.lifts (mirrors : q.Mirrors view p t) {a : α} {s' : σ}
    (returned : p.Yields (view t) a s') : ∃ t', q.Yields t a t' ∧ view t' = s' := by
  obtain ⟨fuel, run⟩ := returned
  -- The first program comes to an outcome with the same bound, and only one kind is seen so.
  have same := (mirrors fuel).trans run
  cases first : q.run fuel t with
  | done b t' =>
    simp only [first, Outcome.seenThrough, Outcome.done.injEq] at same
    obtain ⟨rfl, rfl⟩ := same
    exact ⟨t', ⟨fuel, first⟩, rfl⟩
  | thrown e t' => simp [first, Outcome.seenThrough] at same
  | diverged => simp [first, Outcome.seenThrough] at same

end Endings

section Parts

/-- To return is the same in every view. -/
theorem mirrors_pure (a : α) : (pure a : Program τ ε α).Mirrors view (pure a) t := fun _ => rfl

/-- What comes after a program starts where the program has ended. -/
theorem Mirrors.bind {k : α → Program τ ε β} {h : α → Program σ ε β} (first : q.Mirrors view p t)
    (second : ∀ a t', (k a).Mirrors view (h a) t') : (q >>= k).Mirrors view (p >>= h) t := by
  intro fuel
  rw [run_bind, run_bind, ← first fuel]
  cases q.run fuel t with
  | done a t' => exact second a t' fuel
  | thrown e t' => rfl
  | diverged => rfl

/-- What is read is the state of the one and its view for the other. -/
theorem mirrors_get_bind {k : τ → Program τ ε β} {h : σ → Program σ ε β}
    (rest : (k t).Mirrors view (h (view t)) t) : (get >>= k).Mirrors view (get >>= h) t :=
  fun fuel => rest fuel

/-- Loops mirror each other where their rounds do. -/
theorem Mirrors.iterate {body : β → Program τ ε (β ⊕ α)} {body' : β → Program σ ε (β ⊕ α)}
    (round : ∀ b t, (body b).Mirrors view (body' b) t) (b : β) :
    (iterate body b).Mirrors view (iterate body' b) t := by
  intro fuel
  -- One round more is left in each step of the induction.
  have all : ∀ left b t, (rounds body fuel left b t).seenThrough view =
      rounds body' fuel left b (view t) := by
    intro left
    induction left with
    | zero => exact fun _ _ => rfl
    | succ left ih =>
      intro b t
      rw [rounds, rounds, ← round b t fuel]
      -- The two loops turn the same way, since the body turns the same way.
      cases (body b).run fuel t with
      | done turn t' =>
        cases turn with
        | inl b' => exact ih b' t'
        | inr a => rfl
      | thrown e t' => rfl
      | diverged => rfl
  exact all fuel b t

/-- Work on a part of each state, where the parts are seen as the states are. -/
theorem Mirrors.within {σ' τ' : Type} {view' : τ' → σ'} {t : τ'} {read : τ' → τ} {write : τ → τ' → τ'}
    {read' : σ' → σ} {write' : σ → σ' → σ'} (part : q.Mirrors view p (read t))
    (reads : read' (view' t) = view (read t))
    (writes : ∀ s, view' (write s t) = write' (view s) (view' t)) :
    (q.within read write).Mirrors view' (p.within read' write') t := by
  intro fuel
  simp only [Program.within, reads, ← part fuel]
  -- Each outcome of the part is written back into the whole on both sides.
  cases q.run fuel (read t) with
  | done a s => exact congrArg (Outcome.done a) (writes s)
  | thrown e s => exact congrArg (Outcome.thrown e) (writes s)
  | diverged => rfl

end Parts

end Program
end Effects
