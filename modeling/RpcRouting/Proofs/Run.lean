import RpcRouting.World
/-!
How runs act on worlds. A run is followed through its steps by what it does on one world; what
every step keeps, the whole run keeps, whether it ends with a value or with a crash.
-/

set_option autoImplicit false
set_option relaxedAutoImplicit false

namespace RpcRouting

variable {α β : Type}

namespace Run

def on (x : Run α) (w : World) : Except Crash α × World := x.run.run w

variable {x : Run α} {f : α → Run β} {w w' : World}

@[simp] theorem on_pure (a : α) : (pure a : Run α).on w = (.ok a, w) := rfl

@[simp] theorem on_throw (c : Crash) : (throw c : Run α).on w = (.error c, w) := rfl

@[simp] theorem on_get : (get : Run World).on w = (.ok w, w) := rfl

@[simp] theorem on_modify (g : World → World) :
    (modify g : Run Unit).on w = (.ok (), g w) := rfl

@[simp] theorem on_note (event : Event) : (note event).on w = (.ok (), w.record event) := rfl

@[simp] theorem on_log (line : Record) : (log line).on w = (.ok (), w.emit line) := rfl

@[simp] theorem on_seenBy (operation : Operation) :
    (seenBy operation).on w = (.ok (w.seenBy operation), w) := rfl

@[simp] theorem on_act (session : SessionKey) (action : SessionAction) :
    (act session action).on w = (.ok (), w.act session action) := rfl

@[simp] theorem on_noteEnd (event : Except Crash α → Event) :
    (noteEnd event x).on w = ((x.on w).1, (x.on w).2.record (event (x.on w).1)) := rfl

theorem on_bind_of_ok {a : α} (h : x.on w = (.ok a, w')) : (x >>= f).on w = (f a).on w' := by
  have ended : StateT.run (ExceptT.run x) w = (.ok a, w') := h
  show StateT.run (ExceptT.run (x >>= f)) w = _
  rw [ExceptT.run_bind, StateT.run_bind, ended]
  rfl

theorem on_bind_of_error {c : Crash} (h : x.on w = (.error c, w')) :
    (x >>= f).on w = (.error c, w') := by
  have ended : StateT.run (ExceptT.run x) w = (.error c, w') := h
  show StateT.run (ExceptT.run (x >>= f)) w = _
  rw [ExceptT.run_bind, StateT.run_bind, ended]
  rfl

theorem on_bind_congr {y : Run α} {g : α → Run β} (first : x.on w = y.on w)
    (next : ∀ a w', x.on w = (.ok a, w') → (f a).on w' = (g a).on w') :
    (x >>= f).on w = (y >>= g).on w := by
  cases run : x.on w with
  | mk ended w' =>
    rw [run] at first
    cases ended with
    | error left => rw [on_bind_of_error run, on_bind_of_error first.symm]
    | ok a => rw [on_bind_of_ok run, on_bind_of_ok first.symm, next a w' run]

theorem on_consult (operation : Operation) (action : Option SessionAction) (w : World) :
    ∃ w', (consult operation action).on w = (.ok (w.seenBy operation), w') ∧
      w'.journal = w.journal ++ [.consulted operation (w.seenBy operation) action] ∧
      w'.released = w.released := by
  rw [consult, on_bind_of_ok (on_seenBy operation), on_bind_of_ok (on_note _)]
  cases w.seenBy operation with
  | none => exact ⟨_, rfl, rfl, rfl⟩
  | some session => cases action <;> exact ⟨_, rfl, rfl, rfl⟩

theorem on_consult_of_seen {operation : Operation} {session : Session}
    (seen : w.seenBy operation = some session) (action : Option SessionAction) :
    (consult operation action).on w = (.ok (some session),
      let noted := w.record (.consulted operation (some session) action)
      action.elim noted (noted.act session.key)) := by
  rw [consult, on_bind_of_ok (on_seenBy operation), on_bind_of_ok (on_note _), seen]
  cases action <;> rfl

theorem consult_bindings (operation : Operation) (action : Option SessionAction) (w : World) :
    ((Run.consult operation action).on w).2.bindings = w.bindings := by
  rw [consult, on_bind_of_ok (on_seenBy operation), on_bind_of_ok (on_note _)]
  cases w.seenBy operation with
  | none => rfl
  | some session => cases action <;> rfl

theorem on_consult_of_unseen {operation : Operation} (unseen : w.seenBy operation = none)
    (action : Option SessionAction) : (Run.consult operation action).on w =
      (.ok none, w.record (.consulted operation none action)) := by
  rw [consult, on_bind_of_ok (on_seenBy operation), on_bind_of_ok (on_note _), unseen]
  rfl

/-- The run leads from every world to a related one, however it ends. -/
def Leads (R : World → World → Prop) (x : Run α) : Prop := ∀ w, R w (x.on w).2

end Run

/-- A relation between worlds that holds across no step and across one step after another. -/
structure World.Composes (R : World → World → Prop) : Prop where
  refl : ∀ w, R w w
  trans : ∀ {u v w}, R u v → R v w → R u w

namespace World.Composes

variable {R : World → World → Prop} (composes : Composes R)

include composes

theorem pure (a : α) : Run.Leads R (Pure.pure a : Run α) := composes.refl

theorem get : Run.Leads R (MonadState.get : Run World) := composes.refl

theorem seenBy (operation : Operation) : Run.Leads R (Run.seenBy operation) := composes.refl

theorem throw (left : Crash) : Run.Leads R (MonadExceptOf.throw left : Run α) := composes.refl

theorem bind {x : Run α} {f : α → Run β} (first : x.Leads R) (next : ∀ a, (f a).Leads R) :
    (x >>= f).Leads R := by
  intro w
  have start := first w
  cases h : x.on w with
  | mk ended w' =>
    rw [h] at start
    cases ended with
    | error left =>
      rw [Run.on_bind_of_error h]
      exact start
    | ok a =>
      rw [Run.on_bind_of_ok h]
      exact composes.trans start (next a w')

theorem noteEnd {x : Run α} {event : Except Crash α → Event} (first : x.Leads R)
    (noted : ∀ w ended, R w (w.record (event ended))) : (Run.noteEnd event x).Leads R :=
  fun w => composes.trans (first w) (noted _ _)

end World.Composes

end RpcRouting
