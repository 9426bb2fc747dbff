import Librcom.Server.Table
import Librcom.System.BaseSocket

/-! Who owns a descriptor, from the call that gives it to the one that closes it. -/

namespace Rcom

open Effects
open Relation (ReflTransGen)

/-- The descriptors that are open, unless a call was made on one that is not. -/
def Kernel.held (kernel : Kernel) : Option (Multiset Int) :=
  Ledger.holding (kernel.calls.map SystemCall.event)

/-- A call is accounted for on what was open before it. -/
theorem Kernel.held_called {kernel : Kernel} {held : Multiset Int} (before : kernel.held = some held)
    (call : SystemCall) (outcomes : Stream' CallOutcome) :
    Kernel.held { kernel with calls := kernel.calls ++ [call], outcomes := outcomes } =
      Ledger.account held call.event := by
  unfold Kernel.held at before ⊢
  rw [List.map_append, List.map_singleton, Ledger.holding_concat, before]
  rfl

/-- The descriptor that a socket owns. -/
def BaseSocket.owned (socket : BaseSocket) : Multiset Int := Ledger.gain (descriptor socket.sockfd)

/-- The open descriptors are that of the socket and the rest. -/
def Owns (rest : Multiset Int) (s : BaseSocket × Kernel) : Prop :=
  s.2.held = some (s.1.owned + rest)

/-- A step that keeps what the others own. -/
def OwnStep (s s' : BaseSocket × Kernel) : Prop := ∀ rest, Owns rest s → Owns rest s'

/-- Steps with the descriptors of a socket are one such step. -/
theorem ownStep_path {s s' : BaseSocket × Kernel} (path : ReflTransGen OwnStep s s') : OwnStep s s' := by
  induction path with
  | refl => exact fun _ owns => owns
  | tail _ last ih => exact fun rest owns => last rest (ih rest owns)

/-- A method that takes such steps alone, and throws nothing, keeps what its socket and the others own. -/
theorem walks_own {α : Type} {method : BaseSocketM α} {s : BaseSocket × Kernel} {rest : Multiset Int}
    (walks : method.Walks OwnStep fun _ => False) (owns : Owns rest s) :
    method.Ensures s (fun _ s' => Owns rest s') (fun _ _ => False) :=
  (walks s).mono (fun _ _ path => ownStep_path path rest owns) fun _ _ impossible => impossible.1

namespace BaseSocket

variable {may : Fault → Prop}

/-- A socket that holds no descriptor owns nothing. -/
theorem owned_invalid : owned ⟨kInvalidSocket⟩ = 0 := rfl

/-- A call on the socket's own descriptor, which gives none. -/
theorem linux_walks {call : Int → CallOutcome → SystemCall}
    (plain : ∀ sockfd outcome, (call sockfd outcome).event = ⟨descriptor sockfd, false, none⟩) :
    (linux call).Walks OwnStep may := by
  refine Program.walks_act fun s rest owns => ?_
  -- The call works on the socket's own descriptor, which stays open.
  refine (Kernel.held_called owns _ _).trans ?_
  rw [plain]
  have kept := Ledger.account_use (descriptor s.1.sockfd) none rest
  rwa [Ledger.gain_none, zero_add] at kept

/-- To write keeps the descriptor. -/
theorem write_walks (length : Nat) : (write length).Walks OwnStep may := by
  refine Program.Walks.iterate (fun sent => ?_) 0
  unfold writeRound
  split
  · refine (linux_walks fun _ _ => rfl).bind fun outcome => ?_
    dsimp only
    split
    · exact Program.walks_pure _
    · split
      · exact Program.walks_pure _
      · exact Program.walks_pure _
  · exact Program.walks_pure _

/-- To read keeps the descriptor. -/
theorem read_walks (length : Nat) : (read length).Walks OwnStep may := by
  refine Program.Walks.iterate (fun received => ?_) 0
  unfold readRound
  -- Every path of a round makes one system call on the own descriptor, or none.
  split
  · refine (linux_walks fun _ _ => rfl).bind fun outcome => ?_
    dsimp only
    split
    · split
      · exact Program.walks_pure _
      · exact Program.walks_pure _
    · split
      · exact Program.walks_pure _
      · exact Program.walks_pure _
  · exact Program.walks_pure _

/-- To wait keeps the descriptor. -/
theorem wait_walks (timeout : ℚ) : (wait timeout).Walks OwnStep may := by
  -- Waiting polls the descriptor once, whatever comes of it.
  have polls : doWait.Walks OwnStep may := by
    refine (linux_walks fun _ _ => rfl).bind fun outcome => ?_
    split
    · exact Program.walks_pure _
    · split
      · split
        · exact Program.walks_pure _
        · exact Program.walks_pure _
      · exact Program.walks_pure _
  unfold wait
  split
  · exact polls
  · exact Program.walks_pure _

/-- To set an option keeps the descriptor. -/
theorem setNodelay_walks (value : Bool) : (setNodelay value).Walks OwnStep may :=
  (linux_walks fun _ _ => rfl).bind fun _ => Program.walks_pure _

/-- Closing the descriptor and forgetting it are one step of its owner. -/
theorem release_walks : release.Walks OwnStep may := by
  intro s
  have closed : (linux fun sockfd _ => SystemCall.close sockfd).Yields s s.2.outcomes.head
      (s.1, { s.2 with
        calls := s.2.calls ++ [SystemCall.close s.1.sockfd]
        outcomes := s.2.outcomes.tail }) := Program.yields_act _ s
  refine (closed.bind (Program.yields_update _ _)).ensures (.single fun rest owns => ?_)
  -- What is left open when the descriptor is closed is what the others own.
  refine (Kernel.held_called owns _ _).trans ?_
  rw [owned_invalid, zero_add]
  exact Ledger.account_release _ rest

/-- To close gives the descriptor up once, if there is one. -/
theorem close_walks : close.Walks OwnStep may := by
  refine Program.walks_get.bind fun s => ?_
  split
  · refine (linux_walks fun _ _ => rfl).bind fun _ => ?_
    -- Only after the last byte was drained is the descriptor given back.
    refine Program.Walks.bind (Program.Walks.iterate (fun _ => ?_) ()) fun _ => release_walks
    refine (linux_walks fun _ _ => rfl).bind fun outcome => ?_
    dsimp only
    split
    · exact Program.walks_pure _
    · exact Program.walks_pure _
  · exact Program.walks_pure _

/-- A socket that was closed holds no descriptor. -/
theorem close_invalid (s : BaseSocket × Kernel) :
    close.Ensures s (fun _ s' => s'.1.sockfd = kInvalidSocket) (fun _ _ => False) := by
  refine (Program.yields_get s).bind_ensures ?_
  split
  · -- What the calls before the last step do makes no difference to how it ends.
    have quiet : ∀ {α : Type} {m : BaseSocketM α} (t : BaseSocket × Kernel),
        m.Walks OwnStep (fun _ => False) → m.Ensures t (fun _ _ => True) (fun _ _ => False) :=
      fun t walks => (walks t).mono (fun _ _ _ => trivial) fun _ _ held => held.1
    refine (quiet s (linux_walks fun _ _ => rfl)).bind fun _ mid _ => ?_
    -- The rounds that drain the socket come before the descriptor is released.
    refine (quiet mid (Program.Walks.iterate (fun _ => ?_) ())).bind fun _ last _ => ?_
    · refine (linux_walks fun _ _ => rfl).bind fun outcome => ?_
      dsimp only
      split
      · exact Program.walks_pure _
      · exact Program.walks_pure _
    · refine (Program.yields_act _ last).bind_ensures ?_
      exact Program.ensures_update rfl
  · rename_i invalid
    exact Program.ensures_pure (not_not.mp invalid)

/-- A socket that is closed gives its descriptor back. -/
theorem close_releases {s : BaseSocket × Kernel} {rest : Multiset Int} (owns : Owns rest s) :
    close.Ensures s (fun _ s' => s'.1 = ⟨kInvalidSocket⟩ ∧ s'.2.held = some rest)
      (fun _ _ => False) := by
  -- Closing keeps the rest and leaves the socket without a descriptor, so that the rest is all.
  have closes := (walks_own close_walks owns).and (close_invalid s)
  refine closes.mono ?_ fun _ _ impossible => impossible.1
  rintro _ ⟨socket, kernel⟩ ⟨kept, invalid⟩
  obtain rfl : socket = ⟨kInvalidSocket⟩ := congrArg BaseSocket.mk invalid
  unfold Owns at kept
  rw [owned_invalid, zero_add] at kept
  exact ⟨rfl, kept⟩

end BaseSocket

section Constructors

variable {may : Fault → Prop}

/-- Whatever a link does with its socket, it keeps to its own descriptor. -/
theorem perform_walks (use : SocketUse) : use.perform.Walks OwnStep may := by
  cases use with
  | wait timeout => exact (BaseSocket.wait_walks timeout).bind fun _ => Program.walks_pure _
  | read length => exact (BaseSocket.read_walks length).bind fun _ => Program.walks_pure _
  | send call => exact (BaseSocket.write_walks _).bind fun _ => Program.walks_pure _
  | close => exact BaseSocket.close_walks
  | nodelay value => exact BaseSocket.setNodelay_walks value

/-- Whatever a method of a WebSocket does with its socket, the others keep their descriptors. -/
theorem nextConduct_walks : nextConduct.Walks OwnStep may := by
  have all : ∀ uses : List SocketUse, (performAll uses).Walks OwnStep may := by
    intro uses
    -- Each call takes its own steps, and a run of calls the steps of all.
    induction uses with
    | nil => exact Program.walks_pure _
    | cons use rest ih => exact (perform_walks use).bind fun _ => ih
  refine Program.Walks.bind (Program.walks_act fun s rest owns => owns) fun conduct => ?_
  exact (all conduct.uses).bind fun _ => Program.walks_pure _

/-- What a guarded constructor ensures when its members are closed before an exception goes on. -/
theorem closing_ensures {body : BaseSocketM Unit} {s : BaseSocket × Kernel} {rest : Multiset Int}
    (ensured : body.Ensures s (fun _ s' => Owns rest s')
      (fun e s' => e.IsRuntimeError ∧ Owns rest s')) :
    (body.attempt fun e => do
      BaseSocket.close
      Program.raise e).Ensures s (fun _ s' => Owns rest s')
        (fun e s' => e.IsRuntimeError ∧ s'.2.held = some rest) := by
  -- The members are closed in the state in which the constructor failed.
  refine ensured.attempt fun e mid failed => ?_
  refine Program.Ensures.seq (BaseSocket.close_releases failed.2) (fun _ _ impossible => impossible.elim) ?_
  intro _ after closed
  exact Program.ensures_raise ⟨failed.1, closed.2⟩

/-- A handshake that fails has closed its descriptor. -/
theorem openServerSide_ensures {s : BaseSocket × Kernel} {rest : Multiset Int} (owns : Owns rest s) :
    openServerSide.Ensures s (fun _ s' => Owns rest s')
      (fun e s' => e.IsRuntimeError ∧ s'.2.held = some rest) := by
  refine closing_ensures ?_
  refine Program.Ensures.seq (walks_own nextConduct_walks owns) (fun _ _ impossible => impossible.elim) ?_
  intro conduct mid still
  split
  · exact Program.ensures_raise ⟨⟨_, rfl⟩, still⟩
  · exact Program.ensures_pure still

/-- To open a link takes over the descriptor, or closes it and throws. -/
theorem openServerSide_walks : openServerSide.Walks OwnStep Fault.IsRuntimeError := by
  have body : (do
      let conduct ← nextConduct
      if conduct.fails then Program.raise (.runtimeError "handshake")
      else return () : BaseSocketM Unit).Walks OwnStep Fault.IsRuntimeError := by
    refine nextConduct_walks.bind fun conduct => ?_
    split
    · exact Program.walks_raise ⟨_, rfl⟩
    · exact Program.walks_pure _
  -- A failed handshake closes the descriptor before the exception goes on.
  refine body.attempt fun e failed => ?_
  · exact BaseSocket.close_walks.bind fun _ => Program.walks_raise failed

/-- A server socket that cannot be opened has closed its descriptor, if it was given one. -/
theorem openServerSocket_ensures {kernel : Kernel} {rest : Multiset Int}
    (held : kernel.held = some rest) :
    openServerSocket.Ensures (⟨kInvalidSocket⟩, kernel) (fun _ s' => Owns rest s')
      (fun e s' => e.IsRuntimeError ∧ s'.2.held = some rest) := by
  refine closing_ensures ?_
  -- The descriptor is the socket's own as soon as the system gives it.
  have listens : BaseSocket.listen.Ensures (⟨kInvalidSocket⟩, kernel) (fun _ s' => Owns rest s')
      (fun _ _ => False) := by
    refine (Program.yields_act _ _).bind_ensures ((Program.yields_update _ _).bind_ensures ?_)
    refine walks_own ?_ ?_
    · split
      · refine (BaseSocket.linux_walks fun _ _ => rfl).bind fun bound => ?_
        dsimp only
        split
        · refine (BaseSocket.linux_walks fun _ _ => rfl).bind fun listening => ?_
          split
          · exact Program.walks_pure _
          · exact Program.walks_pure _
        · exact Program.walks_pure _
      · exact Program.walks_pure _
    · refine (Kernel.held_called held _ _).trans ?_
      -- The kernel gives a descriptor where the socket had none.
      have given := Ledger.account_use none (descriptor kernel.outcomes.head.result) rest
      rwa [Ledger.gain_none, zero_add, zero_add] at given
  refine (listens.mono (fun _ _ owns => owns) fun _ _ impossible => impossible.elim).bind ?_
  intro opened after owns
  split
  · exact Program.ensures_pure owns
  · exact Program.ensures_raise ⟨⟨_, rfl⟩, owns⟩

/-- A descriptor that is accepted comes to those of the others. -/
theorem accept_ensures {s : BaseSocket × Kernel} {rest : Multiset Int} (owns : Owns rest s) :
    (BaseSocket.accept 0).Ensures s
      (fun sockfd s' => s'.1 = s.1 ∧ Owns (Ledger.gain (descriptor sockfd) + rest) s')
      (fun _ _ => False) := by
  -- Waiting leaves the socket, and a call to `accept` follows it if there is a connection.
  have polls : (BaseSocket.wait 0).Ensures s (fun _ s' => s'.1 = s.1 ∧ Owns rest s')
      (fun _ _ => False) := by
    have walks := walks_own (BaseSocket.wait_walks 0) owns
    have same : (BaseSocket.wait 0).Ensures s (fun _ s' => s'.1 = s.1) (fun _ _ => False) := by
      refine Program.Ensures.mono (?_ : BaseSocket.doWait.Ensures s _ _) (fun _ _ held => held)
        fun _ _ held => held
      refine (Program.yields_act _ s).bind_ensures ?_
      split
      · exact Program.ensures_pure rfl
      · split
        · split
          · exact Program.ensures_pure rfl
          · exact Program.ensures_pure rfl
        · exact Program.ensures_pure rfl
    exact (same.and walks).mono (fun _ _ held => held) fun _ _ impossible => impossible.1
  refine polls.bind fun status mid held => ?_
  split
  · refine (Program.yields_act _ mid).bind_ensures ?_
    refine Program.ensures_pure ⟨held.1, ?_⟩
    refine (Kernel.held_called held.2 _ _).trans ?_
    exact Ledger.account_use _ _ rest
  · refine Program.ensures_pure ⟨held.1, ?_⟩
    -- No connection was waiting, so that the answer is no descriptor.
    show Owns (0 + rest) mid
    rw [zero_add]
    exact held.2

end Constructors

end Rcom
