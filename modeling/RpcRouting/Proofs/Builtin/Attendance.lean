import RpcRouting.Proofs.Builtin.Moves
import RpcRouting.Proofs.Builtin.Simulation
import RpcRouting.Proofs.Routing.Isolation
/-!
Built-in operations outside a router. In every course of moves an operation acts on the session
that it was last bound to, if that is alive, and on no session otherwise: not on one that it was
bound to before, nor on a later one of the same number.
-/

set_option autoImplicit false
set_option relaxedAutoImplicit false

namespace RpcRouting

def Builtin.give (host : Host) (request : Document) (subsequent : Chain) (b : Builtin) :
    Run (Except OperationError Document) :=
  (Operation.builtin b).handle host subsequent.operations (subsequent.execute host) request

def Move.after (host : Host) (w : World) : Move → World
  | .begin id => { w with sessions := (w.sessions.begin id).1 }
  | .drop session => { w with sessions := w.sessions.drop session }
  | .bind b session => (((Operation.builtin b).bind host session).on w).2
  | .handle b request subsequent => ((b.give host request subsequent).on w).2

def Moves.after (host : Host) (moves : Moves) (w : World) : World :=
  moves.foldl (Move.after host) w

variable {host : Host} {moves : Moves} {session other : SessionKey} {w w' : World} {b : Builtin}

namespace Lifecycle

variable (owner : SessionId) (outcome : Except Failure Unit) (request : Document) (s : Lifecycle)

/-- What a built-in operation does for a request while it attends a session or none. -/
def attend : Builtin → Option SessionKey → Except RpcError Document × Lifecycle
  | b, some session => s.perform owner outcome request session b
  | .closeSession, none =>
    match s.release outcome with
    | (.ok (), s) => (.ok request.okReply, s)
    | (.error failure, s) =>
      (.error ((RpcError.operationFailed
        ("Unable to properly close session " ++ owner.text)).withInfo "error" failure.describe), s)
  | .startExi, none => (.error (.operationFailed "No session bound to start-exi"), s)
  | .stopExi, none => (.error (.operationFailed "No session bound to stop-exi"), s)

theorem attend_sessions (b : Builtin) (attended : Option SessionKey) :
    (s.attend owner outcome request b attended).2.sessions = s.sessions ∨
      (s.attend owner outcome request b attended).1 = .ok request.okReply ∧
        ∃ own ∈ attended, ∃ f : SessionState → SessionState,
          (s.attend owner outcome request b attended).2.sessions =
            s.sessions.update own (·.map f) := by
  have same := s.release_sessions outcome
  cases attended with
  | none =>
    refine .inl ?_
    cases b with
    | closeSession =>
      rw [attend]
      split <;> rw [‹s.release outcome = _›] at same <;> exact same
    | startExi => rfl
    | stopExi => rfl
  | some session =>
    cases b with
    | closeSession =>
      rw [attend, perform]
      split
      · next released =>
        rw [released] at same
        exact .inr ⟨rfl, session, rfl, _, congrArg (Sessions.update · session _) same⟩
      · next released =>
        rw [released] at same
        exact .inl same
    | startExi =>
      rw [attend, perform]
      split
      · exact .inr ⟨rfl, session, rfl, _, rfl⟩
      · exact .inl rfl
    | stopExi => exact .inr ⟨rfl, session, rfl, _, rfl⟩

end Lifecycle

theorem Builtin.handle_does_of_unseen (calm : host.Calm) (request : Document)
    (unseen : w.seenBy (.builtin b) = none) : ∃ outcome, (b.handle host request).Does w
      ((Lifecycle.ofWorld w).attend host.sessionId outcome request b none) := by
  cases b with
  | closeSession =>
    obtain ⟨outcome, w₁, run, state, same⟩ := calm.release_seenBy w
    have unseen₁ : w₁.seenBy (.builtin .closeSession) = none := (same _).trans unseen
    refine ⟨outcome, ?_⟩
    rw [Lifecycle.attend]
    generalize (Lifecycle.ofWorld w).release outcome = released at run state
    obtain ⟨ended, s⟩ := released
    subst state
    cases ended with
    | error failure => exact ⟨_, handleCloseSession_on_of_error run, rfl⟩
    | ok success =>
      have replied : (handleCloseSession host request).on w = (.ok (.ok request.okReply),
          ((w₁.record (.consulted (.builtin .closeSession) none (some .requestClose))).emit
            (.noSessionToClose host.sessionId)).emit (.released host.sessionId)) := by
        rw [handleCloseSession, Run.on_bind_of_ok run]
        exact Run.on_bind_of_ok (Run.on_consult_of_unseen unseen₁ (some .requestClose))
      refine ⟨_, replied, ?_⟩
      rw [Lifecycle.ofWorld_emit, Lifecycle.ofWorld_emit]
      exact Lifecycle.ofWorld_record rfl
  | startExi =>
    have refused : (handleStartExi request).on w =
        (.ok (.error startExi.noSession), w.record (.consulted (.builtin .startExi) none none)) :=
      Run.on_bind_of_ok (Run.on_consult_of_unseen unseen none)
    exact ⟨.ok (), _, refused, Lifecycle.ofWorld_record rfl⟩
  | stopExi =>
    have refused : (handleStopExi request).on w = (.ok (.error stopExi.noSession),
        w.record (.consulted (.builtin .stopExi) none (some .stopExi))) :=
      Run.on_bind_of_ok (Run.on_consult_of_unseen unseen (some .stopExi))
    exact ⟨.ok (), _, refused, Lifecycle.ofWorld_record rfl⟩

theorem Builtin.give_does (calm : host.Calm) (w : World) (b : Builtin) (request : Document)
    (subsequent : Chain) : ∃ outcome, (b.give host request subsequent).Does w
      ((Lifecycle.ofWorld w).attend host.sessionId outcome request b
        ((w.seenBy (.builtin b)).map (·.key))) := by
  cases sight : w.seenBy (.builtin b) with
  | some seen => exact Operation.handle_builtin_does calm _ _ request sight
  | none =>
    let noted := w.record (.handling (.builtin b) request (w.seenBy (.builtin b)))
    have same : Lifecycle.ofWorld noted = Lifecycle.ofWorld w := Lifecycle.ofWorld_record rfl
    have still : noted.seenBy (.builtin b) = none := sight
    obtain ⟨outcome, does⟩ := handle_does_of_unseen calm request still
    rw [same] at does
    exact ⟨outcome, Operation.handle_does_of_builtin _ _ does⟩

theorem Builtin.give_sessions (calm : host.Calm) (w : World) (b : Builtin) (request : Document)
    (subsequent : Chain) :
    ((b.give host request subsequent).on w).2.sessions = w.sessions ∨
      ∃ own ∈ (w.seenBy (.builtin b)).map (·.key), ∃ f : SessionState → SessionState,
        ((b.give host request subsequent).on w).2.sessions =
          w.sessions.update own (·.map f) := by
  obtain ⟨outcome, w', run, state⟩ := b.give_does calm w request subsequent
  have sessions : w'.sessions = _ := congrArg Lifecycle.sessions state
  rw [run, sessions]
  exact (Lifecycle.attend_sessions _ outcome request _ b _).imp_right And.right

/-- What a course of moves says is so in a world. -/
structure Moves.KnownTo (moves : Moves) (w : World) : Prop where
  count : w.sessions.slots.length = moves.begun
  alive : ∀ session, moves.Began session →
    ((w.sessions.state? session).isSome = true ↔ moves.Alive session)
  bound : ∀ b session, (w.bindings (.builtin b)).target = some session ↔ moves.LastBound b session

namespace Moves.KnownTo

theorem initial (threshold : Option Level) : KnownTo [] (.initial threshold) where
  count := rfl
  alive _ began := absurd began not_since_nil
  bound _ _ := iff_of_false (fun bound => nomatch bound) not_since_nil

variable (known : moves.KnownTo w)

include known

theorem begin (id : SessionId) :
    KnownTo (moves ++ [.begin id]) { w with sessions := (w.sessions.begin id).1 } where
  count := by
    rw [begun_concat, ← known.count]
    exact List.length_append
  alive session began := by
    rw [alive_concat_begin]
    rcases began_concat.1 began with new | earlier
    · obtain ⟨move, slot⟩ := new
      cases move
      have key : session = (w.sessions.begin session.id).2 :=
        congrArg (SessionKey.mk · session.id) (slot.trans known.count.symm)
      have fresh := w.sessions.state?_begin_self session.id
      rw [← key] at fresh
      rw [fresh]
      exact iff_of_true rfl (.inl ⟨rfl, slot⟩)
    · have before : session.slot < w.sessions.slots.length := known.count ▸ earlier.slot_lt
      rw [Sessions.state?_begin_of_lt _ id before, known.alive session earlier,
        or_iff_right fun begins => Nat.ne_of_lt earlier.slot_lt begins.2]
  bound b session := by
    rw [lastBound_concat_of_not_isBindOf rfl]
    exact known.bound b session

theorem drop {session : SessionKey} (alive : moves.Alive session) :
    KnownTo (moves ++ [.drop session]) { w with sessions := w.sessions.drop session } where
  count := by
    rw [begun_concat, ← known.count]
    exact List.length_modify ..
  alive other began := by
    have earlier := (began_concat_of_not_isBegin rfl).1 began
    rw [alive_concat_drop]
    by_cases same : session = other
    · rw [← same, Sessions.state?_drop_self]
      exact iff_of_false Bool.false_ne_true fun still => still.2 rfl
    · have apart : other.slot ≠ session.slot :=
        fun slots => same (alive.began.eq_of_slot_eq earlier slots.symm)
      rw [Sessions.drop, Sessions.state?_update_of_ne _ _ apart, known.alive other earlier,
        and_iff_left same]
  bound b other := by
    rw [lastBound_concat_of_not_isBindOf rfl]
    exact known.bound b other

theorem still {move : Move} (begins : move.isBegin = false) (drops : ∀ s, move ≠ .drop s)
    (count : w'.sessions.slots.length = w.sessions.slots.length)
    (alive : ∀ s, (w'.sessions.state? s).isSome = (w.sessions.state? s).isSome)
    (bound : ∀ b s, (w'.bindings (.builtin b)).target = some s ↔
      Moves.LastBound (moves ++ [move]) b s) : KnownTo (moves ++ [move]) w' where
  count := by
    rw [begun_concat, begins, count]
    exact known.count
  alive session began := by
    rw [alive, alive_concat_of_still begins (drops session)]
    exact known.alive session ((began_concat_of_not_isBegin begins).1 began)
  bound := bound

theorem bind (host : Host) (b : Builtin) (session : SessionKey) :
    KnownTo (moves ++ [.bind b session]) (Move.after host w (.bind b session)) := by
  have bound : Move.after host w (.bind b session) =
      (w.record (.bound (.builtin b) session none)).bind (.builtin b) session :=
    congrArg Prod.snd (Operation.bind_on_of_none rfl)
  rw [bound]
  refine known.still rfl (fun _ same => nomatch same) rfl (fun _ => rfl) fun b' other => ?_
  rw [lastBound_concat_bind]
  by_cases same : b = b'
  · subst same
    simp [World.bind, Binding.ofKey]
  · have others : Operation.builtin b' ≠ .builtin b := fun eq => same (by cases eq; rfl)
    rw [if_neg same, ← known.bound b' other]
    simp [World.bind, others]

theorem handle (calm : host.Calm) (b : Builtin) (request : Document) (subsequent : Chain) :
    KnownTo (moves ++ [.handle b request subsequent])
      (Move.after host w (.handle b request subsequent)) := by
  have carries := host.carries_keepsBindings
  have kept : (Move.after host w (.handle b request subsequent)).bindings = w.bindings :=
    carries.leads_handle subsequent.operations
      (fun request => carries.leads_execute subsequent (fun _ _ => trivial) request) request
      (.builtin b) trivial w
  have sessions := Builtin.give_sessions calm w b request subsequent
  refine known.still rfl (fun _ same => nomatch same) ?_ (fun other => ?_) fun b' other => ?_
  · rcases sessions with same | ⟨own, -, f, changed⟩
    · exact congrArg (·.slots.length) same
    · exact (congrArg (·.slots.length) changed).trans (List.length_modify ..)
  · rcases sessions with same | ⟨own, -, f, changed⟩
    · exact congrArg (fun s => (Sessions.state? s other).isSome) same
    · exact (congrArg (fun s => (Sessions.state? s other).isSome) changed).trans
        (Sessions.isSome_state?_update _ own other f)
  · rw [lastBound_concat_of_not_isBindOf rfl, kept]
    exact known.bound b' other

end Moves.KnownTo

theorem Moves.knownTo_after (calm : host.Calm) (threshold : Option Level)
    (possible : moves.Possible) : moves.KnownTo (moves.after host (.initial threshold)) := by
  -- from the end of the course: what the last move does depends on all moves before it
  induction moves using List.reverseRecOn with
  | nil => exact .initial threshold
  | append_singleton before move ih =>
    obtain ⟨past, allows⟩ := possible_concat.1 possible
    have known := ih past
    rw [after, List.foldl_concat]
    cases move with
    | begin id => exact known.begin id
    | drop session => exact known.drop allows
    | bind b session => exact known.bind host b session
    | handle b request subsequent => exact known.handle calm b request subsequent

/-- How a request goes that a built-in operation is given while it attends a session or none. -/
structure Attends (host : Host) (w : World) (b : Builtin) (attended : Option SessionKey)
    (request : Document) (subsequent : Chain) : Prop where
  does : ∃ outcome, (b.give host request subsequent).Does w
    ((Lifecycle.ofWorld w).attend host.sessionId outcome request b attended)
  spares : ∀ session : SessionKey, (∀ own ∈ attended, session.slot ≠ own.slot) →
    ((b.give host request subsequent).on w).2.sessions.state? session = w.sessions.state? session
  refuses : ∀ error, ((b.give host request subsequent).on w).1 = .ok (.error error) →
    ((b.give host request subsequent).on w).2.sessions = w.sessions

theorem Moves.KnownTo.attended (known : moves.KnownTo w) (possible : moves.Possible)
    (b : Builtin) : moves.Attended b ((w.seenBy (.builtin b)).map (·.key)) := by
  rw [World.seenBy, Binding.current]
  have bound := known.bound b
  cases target : (w.bindings (.builtin b)).target with
  | none =>
    intro session last
    rw [target] at bound
    cases (bound session).2 last
  | some own =>
    rw [target] at bound
    have last := (bound own).1 rfl
    have alive := known.alive own (last.began possible)
    rw [Option.bind_some, Sessions.get?]
    cases state : w.sessions.state? own with
    | none =>
      -- bound to a session that was dropped, and to no other one since
      intro session last'
      cases (bound session).2 last'
      rw [state] at alive
      exact fun still => Bool.false_ne_true (alive.2 still)
    | some present => exact ⟨last, alive.1 (state ▸ rfl)⟩

theorem Builtin.attends_seen (calm : host.Calm) (w : World) (b : Builtin) (request : Document)
    (subsequent : Chain) :
    Attends host w b ((w.seenBy (.builtin b)).map (·.key)) request subsequent := by
  obtain ⟨outcome, w', run, state⟩ := b.give_does calm w request subsequent
  refine ⟨⟨outcome, w', run, state⟩, fun session apart => ?_, fun error refused => ?_⟩
  · rcases b.give_sessions calm w request subsequent with same | ⟨own, attended, f, changed⟩
    · rw [same]
    · rw [changed, Sessions.state?_update_of_ne _ _ (apart own attended)]
  · have sessions : w'.sessions = _ := congrArg Lifecycle.sessions state
    rw [run] at refused ⊢
    rcases Lifecycle.attend_sessions _ outcome request _ b _ with same | ⟨replied, -⟩
    · exact sessions.trans same
    · rw [replied] at refused
      cases refused

/-- What a course says is so in a world: the next session gets the next slot, a session is alive as
long as it was not dropped, and every request is done for the session that is attended. -/
structure Moves.ServedIn (moves : Moves) (host : Host) (w : World) : Prop where
  numbers : ∀ id, (w.sessions.begin id).2 = ⟨moves.begun, id⟩
  alive : ∀ session, moves.Began session →
    ((w.sessions.state? session).isSome = true ↔ moves.Alive session)
  attends : ∀ b, ∃ attended, moves.Attended b attended ∧
    ∀ request subsequent, Attends host w b attended request subsequent

/-- Every course serves the sessions that are attended, however the releases of the backend end. -/
theorem Moves.servedIn_after (host : Host) (calm : host.Calm) (threshold : Option Level)
    (moves : Moves) (possible : moves.Possible) :
    moves.ServedIn host (moves.after host (.initial threshold)) := by
  have known := moves.knownTo_after calm threshold possible
  refine ⟨fun id => ?_, known.alive, fun b => ⟨_, known.attended possible b, ?_⟩⟩
  · exact congrArg (SessionKey.mk · id) known.count
  · exact fun request subsequent => b.attends_seen calm _ request subsequent

/-- The operation that starts compressed streams is bound to a second session after a first one,
that session is dropped and a third one gets its number; then the first session, whose backend is
busy at first, is to be closed twice. -/
def Moves.reusing : Moves :=
  let starting : Document := .request "1" (.within "start-exi" exiNamespace)
  let closing : Document := .request "2" (.within "close-session" baseNamespace)
  [.begin ⟨1⟩, .bind .closeSession ⟨0, ⟨1⟩⟩, .bind .startExi ⟨0, ⟨1⟩⟩, .begin ⟨2⟩,
    .bind .startExi ⟨1, ⟨2⟩⟩, .drop ⟨1, ⟨2⟩⟩, .begin ⟨2⟩, .handle .startExi starting .terminus,
    .handle .closeSession closing .terminus, .handle .closeSession closing .terminus]

theorem Moves.servedIn_after_of_reusing :
    Router.busyHost.Calm ∧ reusing.Possible ∧
      reusing.ServedIn Router.busyHost (reusing.after Router.busyHost (.initial none)) ∧
      reusing.LastBound .startExi ⟨1, ⟨2⟩⟩ ∧ ¬ reusing.Alive ⟨1, ⟨2⟩⟩ ∧ reusing.Alive ⟨2, ⟨2⟩⟩ ∧
      Lifecycle.ofWorld (reusing.after Router.busyHost (.initial none)) =
        { sessions := ⟨[some ⟨none, true⟩, none, some .fresh]⟩
          released := true
          releases := [.ok (.error (.cause "busy")), .ok (.ok ())] } := by
  have calm : Router.busyHost.Calm := fun leaf member attempt => ⟨_, rfl⟩
  have possible : reusing.Possible := by decide
  exact ⟨calm, possible, servedIn_after Router.busyHost calm none reusing possible, by decide,
    by decide, by decide, rfl⟩

end RpcRouting
