import RpcRouting.Log.Basic
import RpcRouting.Operation.Catalogue
/-!
Everything that can change while requests are routed, and the runs that change it. A run ends with
a value or with a crash; what was changed before a crash stays changed.
-/

set_option autoImplicit false
set_option relaxedAutoImplicit false

namespace RpcRouting

/-- Everything that can change. -/
structure World where
  sessions : Sessions
  bindings : Operation → Binding
  released : Bool
  journal : Journal
  log : Log

abbrev Run := ExceptT Crash (StateM World)

namespace World

def initial (threshold : Option Level) : World :=
  ⟨.empty, fun _ => .unbound, false, [], .empty threshold⟩

def record (w : World) (event : Event) : World := { w with journal := w.journal ++ [event] }

/-- The world after a record was offered to the log. -/
def emit (w : World) (record : Record) : World := { w with log := w.log.emit record }

def bind (w : World) (operation : Operation) (session : SessionKey) : World :=
  { w with bindings := fun o => if o = operation then .ofKey session else w.bindings o }

def seenBy (w : World) (operation : Operation) : Option Session :=
  (w.bindings operation).current w.sessions

def act (w : World) (session : SessionKey) (action : SessionAction) : World :=
  { w with sessions := w.sessions.act session action }

def mark (w : World) (released : Bool) : World := { w with released }

section Fields

variable (w : World) (event : Event) (line : Record) (operation : Operation)
  (session : SessionKey) (action : SessionAction) (released : Bool)

@[simp] theorem record_journal : (w.record event).journal = w.journal ++ [event] := rfl
@[simp] theorem record_released : (w.record event).released = w.released := rfl
@[simp] theorem record_sessions : (w.record event).sessions = w.sessions := rfl
@[simp] theorem record_bindings : (w.record event).bindings = w.bindings := rfl

@[simp] theorem emit_journal : (w.emit line).journal = w.journal := rfl
@[simp] theorem emit_released : (w.emit line).released = w.released := rfl
@[simp] theorem emit_sessions : (w.emit line).sessions = w.sessions := rfl
@[simp] theorem emit_bindings : (w.emit line).bindings = w.bindings := rfl

@[simp] theorem bind_journal : (w.bind operation session).journal = w.journal := rfl
@[simp] theorem bind_released : (w.bind operation session).released = w.released := rfl
@[simp] theorem bind_sessions : (w.bind operation session).sessions = w.sessions := rfl

@[simp] theorem act_journal : (w.act session action).journal = w.journal := rfl
@[simp] theorem act_released : (w.act session action).released = w.released := rfl

@[simp] theorem mark_journal : (w.mark released).journal = w.journal := rfl
@[simp] theorem mark_released : (w.mark released).released = released := rfl
@[simp] theorem mark_sessions : (w.mark released).sessions = w.sessions := rfl
@[simp] theorem mark_bindings : (w.mark released).bindings = w.bindings := rfl

end Fields

end World

namespace Run

def note (event : Event) : Run Unit := modify (·.record event)

/-- Notes how a run ended, and ends in the same way. -/
def noteEnd {α : Type} (event : Except Crash α → Event) (x : Run α) : Run α :=
  ExceptT.mk do
    let ended ← x.run
    modify (·.record (event ended))
    return ended

def log (record : Record) : Run Unit := modify (·.emit record)

def seenBy (operation : Operation) : Run (Option Session) := return (← get).seenBy operation

def act (session : SessionKey) (action : SessionAction) : Run Unit :=
  modify (·.act session action)

def consult (operation : Operation) (action : Option SessionAction) : Run (Option Session) := do
  let seen ← seenBy operation
  note (.consulted operation seen action)
  if let (some session, some action) := (seen, action) then act session.key action
  return seen

end Run

end RpcRouting
