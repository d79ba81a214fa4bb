import RpcRouting.Session.Alignment
import RpcRouting.Session.Id
/-!
The sessions of a server and the bindings through which operations see them. A binding does not
keep a session alive: after the session was dropped it leads nowhere, also if a later session has
the same number.
-/

set_option autoImplicit false
set_option relaxedAutoImplicit false

namespace RpcRouting

/-- The identity of a session; sessions of one number differ in their slots. -/
structure SessionKey where
  slot : Nat
  id : SessionId
deriving DecidableEq

structure SessionState where
  exi : Option ExiParameters
  closeRequested : Bool
deriving DecidableEq, Inhabited

/-- A session that is alive, as an operation sees it. -/
structure Session where
  key : SessionKey
  state : SessionState
deriving DecidableEq

def SessionId.describe (id : SessionId) : String := "session " ++ id.text

inductive SessionAction
  | requestClose
  | startExi (parameters : ExiParameters)
  | stopExi
deriving DecidableEq

namespace SessionState

def fresh : SessionState := ⟨none, false⟩

def apply (s : SessionState) : SessionAction → SessionState
  | .requestClose => { s with closeRequested := true }
  | .startExi parameters => { s with exi := some parameters }
  | .stopExi => { s with exi := none }

end SessionState

/-- All sessions there ever were; a dropped one has left its slot. -/
structure Sessions where
  slots : List (Option SessionState)
deriving DecidableEq

namespace Sessions

def empty : Sessions := ⟨[]⟩

def begin (s : Sessions) (id : SessionId) : Sessions × SessionKey :=
  (⟨s.slots ++ [some .fresh]⟩, ⟨s.slots.length, id⟩)

def update (s : Sessions) (key : SessionKey) (f : Option SessionState → Option SessionState) :
    Sessions :=
  ⟨s.slots.modify key.slot f⟩

def drop (s : Sessions) (key : SessionKey) : Sessions := s.update key fun _ => none

/-- The sessions after an action on one of them; a dropped session takes no notice. -/
def act (s : Sessions) (key : SessionKey) (action : SessionAction) : Sessions :=
  s.update key fun state => state.map (·.apply action)

def state? (s : Sessions) (key : SessionKey) : Option SessionState := s.slots[key.slot]?.join

def get? (s : Sessions) (key : SessionKey) : Option Session :=
  (s.state? key).map fun state => ⟨key, state⟩

section Updates

variable (s : Sessions) {session other : SessionKey}

theorem state?_begin_self (id : SessionId) : (s.begin id).1.state? (s.begin id).2 = some .fresh := by
  simp [begin, state?]

theorem state?_begin_of_lt (id : SessionId) (earlier : session.slot < s.slots.length) :
    (s.begin id).1.state? session = s.state? session := by
  rw [begin, state?, List.getElem?_append_left earlier]
  rfl

theorem state?_drop_self (session : SessionKey) : (s.drop session).state? session = none := by
  rw [drop, update, state?, List.getElem?_modify_eq]
  cases s.slots[session.slot]? <;> rfl

theorem state?_update_of_ne (f : Option SessionState → Option SessionState)
    (apart : other.slot ≠ session.slot) : (s.update session f).state? other = s.state? other :=
  congrArg Option.join (List.getElem?_modify_ne _ _ apart.symm)

theorem isSome_state?_update (session other : SessionKey) (f : SessionState → SessionState) :
    ((s.update session (·.map f)).state? other).isSome = (s.state? other).isSome := by
  by_cases same : session.slot = other.slot
  · rw [update, state?, state?, same, List.getElem?_modify_eq]
    cases s.slots[other.slot]? with
    | none => rfl
    | some state => cases state <;> rfl
  · rw [s.state?_update_of_ne _ (Ne.symm same)]

theorem state?_act_of_ne (action : SessionAction) (apart : other.slot ≠ session.slot) :
    (s.act session action).state? other = s.state? other :=
  s.state?_update_of_ne _ apart

theorem isSome_state?_act (session : SessionKey) (action : SessionAction) :
    ((s.act session action).state? session).isSome = (s.state? session).isSome :=
  s.isSome_state?_update session session _

end Updates

end Sessions

/-- The place where an operation remembers the session it was last bound to. -/
structure Binding where
  target : Option SessionKey
deriving DecidableEq

namespace Binding

def unbound : Binding := ⟨none⟩

instance : Inhabited Binding := ⟨unbound⟩

def ofKey (key : SessionKey) : Binding := ⟨some key⟩

/-- The bound session, if there is one and it is alive. -/
def current (b : Binding) (sessions : Sessions) : Option Session := b.target.bind sessions.get?

end Binding

end RpcRouting
