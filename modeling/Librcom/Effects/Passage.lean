import Librcom.Effects.Rules

/-! What holds of every state that a program passes through, also in a run that does not end. -/

namespace Effects
namespace Program

variable {σ ε α β : Type}

/-- A state is seen after a run only if the run returned. -/
theorem mem_seenAfter {τ : Type} {outcome : Outcome σ ε α} {next : α → σ → List τ} {t : τ}
    -- Only a run that returned has states behind it.
    (member : t ∈ outcome.seenAfter next) : ∃ a s, outcome = .done a s ∧ t ∈ next a s := by
  cases outcome with
  | done a s => exact ⟨a, s, rfl, member⟩
  | thrown e s => cases member
  | diverged => cases member

/-- A state is seen by a handler only if the run threw. -/
theorem mem_seenOnError {τ : Type} {outcome : Outcome σ ε α} {handler : ε → σ → List τ} {t : τ}
    -- Only a run that threw starts the handler.
    (member : t ∈ outcome.seenOnError handler) :
    ∃ e s, outcome = .thrown e s ∧ t ∈ handler e s := by
  cases outcome with
  | thrown e s => exact ⟨e, s, rfl, member⟩
  | done a s => cases member
  | diverged => cases member

variable {p : Program σ ε α} {s : σ} {holds : σ → Prop} {post : α → σ → Prop}
  {fail : ε → σ → Prop}

/-- A sequence passes through the states of its first part. -/
theorem seen_bind_first {f : α → Program σ ε β} {fuel : Nat} {t : σ} (member : t ∈ p.seen fuel s) :
    t ∈ (p >>= f).seen fuel s :=
  List.mem_append_left _ member

/-- A sequence passes through the states of its continuation, once the first part returned. -/
theorem seen_bind_second {f : α → Program σ ε β} {fuel : Nat} {a : α} {s' t : σ}
    (run : p.run fuel s = .done a s') (member : t ∈ (f a).seen fuel s') :
    t ∈ (p >>= f).seen fuel s := by
  refine List.mem_append_right _ ?_
  rw [run]
  exact member

/-- A loop that may still run passes through the states of its first round. -/
theorem seen_iterate_first {body : β → Program σ ε (β ⊕ α)} {b : β} {fuel : Nat} {t : σ}
    (member : t ∈ (body b).seen (fuel + 1) s) : t ∈ (iterate body b).seen (fuel + 1) s :=
  List.mem_append_left _ member

/-- The program ensures the postconditions, and the invariant holds of every state on the way. -/
structure Upholds (holds : σ → Prop) (p : Program σ ε α) (s : σ) (post : α → σ → Prop)
    (fail : ε → σ → Prop) : Prop extends p.Ensures s post fail where
  through : ∀ fuel, ∀ t ∈ p.seen fuel s, holds t

section Upholds

/-- What is upheld may be said with less. -/
theorem Upholds.mono {post' : α → σ → Prop} {fail' : ε → σ → Prop}
    (strong : p.Upholds holds s post fail) (weaken : ∀ a s', post a s' → post' a s')
    (weakenFail : ∀ e s', fail e s' → fail' e s') : p.Upholds holds s post' fail' :=
  ⟨strong.toEnsures.mono weaken weakenFail, strong.through⟩

/-- To return passes through no state. -/
theorem upholds_pure {a : α} (now : post a s) :
    (pure a : Program σ ε α).Upholds holds s post fail :=
  ⟨ensures_pure now, fun _ _ member => by cases member⟩

/-- A change of the state passes through the new state. -/
theorem upholds_update {f : σ → σ} {post : Unit → σ → Prop} (next : holds (f s))
    (now : post () (f s)) : (update f : Program σ ε Unit).Upholds holds s post fail := by
  -- An update passes through the state that it makes, and through no other.
  refine ⟨ensures_update now, fun _ t member => ?_⟩
  obtain rfl := List.mem_singleton.mp member
  exact next

/-- So does a change that comes with an answer. -/
theorem upholds_act {f : σ → α × σ} (next : holds (f s).2) (now : post (f s).1 (f s).2) :
    (act f : Program σ ε α).Upholds holds s post fail := by
  refine ⟨ensures_act now, fun _ t member => ?_⟩
  obtain rfl := List.mem_singleton.mp member
  exact next

/-- To throw passes through no state. -/
theorem upholds_raise {e : ε} (now : fail e s) :
    (raise e : Program σ ε α).Upholds holds s post fail :=
  ⟨ensures_raise now, fun _ _ member => by cases member⟩

/-- What comes after a program starts from what it ensures. -/
theorem Upholds.bind {f : α → Program σ ε β} {mid : α → σ → Prop} {post : β → σ → Prop}
    (first : p.Upholds holds s mid fail)
    (second : ∀ a s', mid a s' → (f a).Upholds holds s' post fail) :
    (p >>= f).Upholds holds s post fail where
  toEnsures := first.toEnsures.bind fun a s' now => (second a s' now).toEnsures
  through fuel t member := by
    -- A state on the way is one of the first part, or of the continuation after it returned.
    rcases List.mem_append.mp member with before | behind
    · exact first.through fuel t before
    · obtain ⟨a, s', run, seen⟩ := mem_seenAfter behind
      exact (second a s' (first.yields ⟨fuel, run⟩)).through fuel t seen

/-- What else is ensured holds as well. -/
theorem Upholds.and {post' : α → σ → Prop} {fail' : ε → σ → Prop}
    (upheld : p.Upholds holds s post fail) (ensured : p.Ensures s post' fail') :
    p.Upholds holds s (fun a s' => post a s' ∧ post' a s') (fun e s' => fail e s' ∧ fail' e s') :=
  ⟨upheld.toEnsures.and ensured, upheld.through⟩

/-- After a program whose result is known, only that result has to be followed. -/
theorem Upholds.next {f : α → Program σ ε β} {mid : α → σ → Prop} {post : β → σ → Prop} {a : α}
    {s' : σ} (first : p.Upholds holds s mid fail) (returned : p.Yields s a s')
    (rest : mid a s' → (f a).Upholds holds s' post fail) : (p >>= f).Upholds holds s post fail := by
  -- The known result is the only one that the first part can have.
  have known : p.Ensures s (fun b t => b = a ∧ t = s') (fun _ _ => True) :=
    returned.ensures ⟨rfl, rfl⟩
  refine ((first.and known).mono (fun _ _ held => held) (fun _ _ held => held.1)).bind ?_
  rintro _ _ ⟨now, rfl, rfl⟩
  exact rest now

/-- Reading the state does not change it. -/
theorem upholds_get_bind {f : σ → Program σ ε α} (rest : (f s).Upholds holds s post fail) :
    (get >>= f).Upholds holds s post fail where
  toEnsures := (yields_get s).bind_ensures rest.toEnsures
  through fuel t member := rest.through fuel t member

/-- A handler starts from what the program it guards ensures of its exceptions. -/
theorem Upholds.attempt {handler : ε → Program σ ε α} {fail' : ε → σ → Prop}
    (guarded : p.Upholds holds s post fail)
    (handles : ∀ e s', fail e s' → (handler e).Upholds holds s' post fail') :
    (p.attempt handler).Upholds holds s post fail' where
  toEnsures := guarded.toEnsures.attempt fun e s' failed => (handles e s' failed).toEnsures
  through fuel t member := by
    -- A state on the way is one before the exception, or one of the handler.
    rcases List.mem_append.mp member with before | behind
    · exact guarded.through fuel t before
    · obtain ⟨e, s', run, seen⟩ := mem_seenOnError behind
      exact (handles e s' (guarded.throws ⟨fuel, run⟩)).through fuel t seen

/-- A loop upholds what its rounds uphold, also if it goes on for ever. -/
theorem Upholds.iterate {body : β → Program σ ε (β ⊕ α)} (invariant : β → σ → Prop) {b : β}
    (start : invariant b s)
    (round : ∀ b s, invariant b s → (body b).Upholds holds s (Turn invariant post) fail) :
    (iterate body b).Upholds holds s post fail where
  toEnsures := Ensures.iterate invariant start fun b s now => (round b s now).toEnsures
  through fuel t member := by
    -- One more round is left in each step of the induction, from wherever the last one ended.
    have rounds : ∀ left b s, invariant b s → ∀ t ∈ roundsSeen body fuel left b s, holds t := by
      intro left
      induction left with
      | zero => exact fun b s _ t member => by cases member
      | succ left ih =>
        intro b s now t member
        -- The state is one of this round, or of the rounds behind it if there are any.
        rcases List.mem_append.mp member with before | behind
        · exact (round b s now).through fuel t before
        · obtain ⟨turn, s', run, seen⟩ := mem_seenAfter behind
          cases turn with
          | inl b' => exact ih b' s' ((round b s now).yields ⟨fuel, run⟩) t seen
          | inr a => cases seen
    exact rounds fuel b s start t member

end Upholds

/-- From any state in which the invariant holds, it holds all the way and in the end. -/
def Maintains (holds : σ → Prop) (p : Program σ ε α) : Prop :=
  ∀ s, holds s → p.Upholds holds s (fun _ => holds) (fun _ => holds)

section Maintains

/-- What is maintained is true of the state that is left. -/
theorem Maintains.leaves (maintains : p.Maintains holds) {s' : σ} (now : holds s)
    (left : p.Leaves s s') : holds s' :=
  (maintains s now).toEnsures.leaves left

/-- To return maintains everything. -/
theorem maintains_pure (a : α) : (pure a : Program σ ε α).Maintains holds :=
  fun _ now => upholds_pure now

/-- A change of the state maintains what it keeps. -/
theorem maintains_update {f : σ → σ} (steps : ∀ s, holds s → holds (f s)) :
    (update f : Program σ ε Unit).Maintains holds :=
  fun s now => upholds_update (steps s now) (steps s now)

/-- So does a change that comes with an answer. -/
theorem maintains_act {f : σ → α × σ} (steps : ∀ s, holds s → holds (f s).2) :
    (act f : Program σ ε α).Maintains holds :=
  fun s now => upholds_act (steps s now) (steps s now)

/-- To throw maintains everything. -/
theorem maintains_raise (e : ε) : (raise e : Program σ ε α).Maintains holds :=
  fun _ now => upholds_raise now

/-- So does a result, which may be an error. -/
theorem maintains_ofExcept (result : Except ε α) : (ofExcept result : Program σ ε α).Maintains holds := by
  cases result with
  -- A result that is no exception is a value, and nothing is passed through for either.
  | ok a => exact maintains_pure a
  | error e => exact maintains_raise e

/-- What each of two programs maintains, both of them in a row maintain. -/
theorem Maintains.bind {f : α → Program σ ε β} (first : p.Maintains holds)
    (second : ∀ a, (f a).Maintains holds) : (p >>= f).Maintains holds :=
  fun s now => (first s now).bind fun a s' now' => second a s' now'

/-- What a program and its handler maintain is maintained. -/
theorem Maintains.attempt {handler : ε → Program σ ε α} (guarded : p.Maintains holds)
    (handles : ∀ e, (handler e).Maintains holds) : (p.attempt handler).Maintains holds :=
  fun s now => (guarded s now).attempt fun e s' now' => handles e s' now'

/-- What every round maintains, the loop maintains. -/
theorem Maintains.iterate {body : β → Program σ ε (β ⊕ α)} (round : ∀ b, (body b).Maintains holds)
    (b : β) : (iterate body b).Maintains holds := by
  intro s now
  -- The invariant of the loop says nothing about the value between the rounds.
  refine Upholds.iterate (fun _ => holds) now fun b s now => ?_
  refine (round b s now).mono ?_ (fun _ _ held => held)
  rintro (_ | _) s' held
  · exact held
  · exact held

/-- What is maintained is a matter of the parts. -/
theorem maintains_compositional :
    Compositional fun {_} (p : Program σ ε _) => p.Maintains holds where
  pure := maintains_pure
  get := fun _ now => ⟨ensures_get now, fun _ _ member => by cases member⟩
  bind := Maintains.bind
  iterate := Maintains.iterate

/-- Work on a part of the state maintains what does not depend on the part. -/
theorem maintains_within {τ : Type} {read : τ → σ} {write : σ → τ → τ} {whole : τ → Prop}
    (apart : ∀ s t, whole t → whole (write s t)) (p : Program σ ε α) :
    (p.within read write).Maintains whole := by
  intro t now
  -- Every state of the whole that is passed through is one of the part, written back.
  refine ⟨(ensures_true.within write).mono ?_ ?_, fun fuel t' member => ?_⟩
  · rintro _ _ ⟨s', _, rfl⟩
    exact apart s' t now
  · rintro _ _ ⟨s', _, rfl⟩
    exact apart s' t now
  · obtain ⟨s', _, rfl⟩ := List.mem_map.mp member
    exact apart s' t now

/-- What a part maintains is maintained of the whole, where the part is read as it was written. -/
theorem Maintains.within {τ : Type} {read : τ → σ} {write : σ → τ → τ} (maintains : p.Maintains holds)
    (written : ∀ s t, read (write s t) = s) :
    (p.within read write).Maintains fun t => holds (read t) := by
  intro t now
  have upheld := maintains (read t) now
  -- Every state of the whole that is passed through has the part that was passed through.
  refine ⟨(upheld.toEnsures.within write).mono ?_ ?_, fun fuel t' member => ?_⟩
  · rintro _ _ ⟨s', held, rfl⟩
    rwa [written]
  · rintro _ _ ⟨s', held, rfl⟩
    rwa [written]
  · obtain ⟨s', passed, rfl⟩ := List.mem_map.mp member
    rw [written]
    exact upheld.through fuel s' passed

end Maintains

end Program
end Effects
