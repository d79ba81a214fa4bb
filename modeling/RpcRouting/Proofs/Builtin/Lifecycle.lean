import RpcRouting.Proofs.Builtin.Choice
import RpcRouting.Proofs.Release.Course
/-!
The life of sessions without contributed operations, as a machine. It knows the sessions, whether
the backend counts as released, and how its releases ended; what it is told from outside is how the
backend's next release ends. Every step of a router is one step of this machine, and so is every
course of calls.
-/

set_option autoImplicit false
set_option relaxedAutoImplicit false

namespace RpcRouting

def Event.releaseEnd? : Event → Option (Except Crash (Except Failure Unit))
  | released ended => some ended
  | _ => none

theorem Event.releaseEnd?_of_isChoosing (e : Event) (choosing : e.isChoosing = true) :
    e.releaseEnd? = none := by
  cases e <;> first | rfl | cases choosing

theorem Event.releaseEnd?_of_isInner (e : Event) (inner : e.isInner = true) :
    e.releaseEnd? = none := by
  cases e <;> first | rfl | cases inner

/-- The alignment that a request to start a compressed stream names in the first child of that name;
a text that names none is returned. -/
def Document.namedAlignment (request : Document) : Except String Alignment :=
  match request.operation?.bind fun operation =>
      operation.children.find? fun child => child.name = "alignment" with
  | none => .ok .bitPacked
  | some child =>
    match child.text with
    | none => .ok .bitPacked
    | some text =>
      if Text.trim text = "bit-packed" then .ok .bitPacked
      else if Text.trim text = "byte-aligned" then .ok .byteAligned
      else if Text.trim text = "pre-compression" then .ok .preCompression
      else if Text.trim text = "compression" then .ok .compression
      else .error (Text.trim text)

/-- The sessions, whether the backend counts as released, and how its releases ended. -/
structure Lifecycle where
  sessions : Sessions
  released : Bool
  releases : List (Except Crash (Except Failure Unit))

namespace Lifecycle

def ofWorld (w : World) : Lifecycle :=
  ⟨w.sessions, w.released, w.journal.filterMap Event.releaseEnd?⟩

def change (s : Lifecycle) (session : SessionKey) (f : SessionState → SessionState) : Lifecycle :=
  { s with sessions := s.sessions.update session (·.map f) }

/-- Releases the backend if it is still unreleased; then its release ends with `outcome`. -/
def release (s : Lifecycle) (outcome : Except Failure Unit) : Except Failure Unit × Lifecycle :=
  if s.released then (.ok (), s)
  else (outcome, { s with released := outcome.isOk, releases := s.releases ++ [.ok outcome] })

/-- What a built-in operation does for a request of a session. -/
def perform (owner : SessionId) (outcome : Except Failure Unit) (request : Document)
    (session : SessionKey) (s : Lifecycle) : Builtin → Except RpcError Document × Lifecycle
  | .closeSession =>
    match s.release outcome with
    | (.ok (), s) => (.ok request.okReply, s.change session ({ · with closeRequested := true }))
    | (.error failure, s) =>
      (.error ((RpcError.operationFailed
        ("Unable to properly close session " ++ owner.text)).withInfo "error" failure.describe), s)
  | .startExi =>
    match request.namedAlignment with
    | .ok alignment =>
      (.ok request.okReply, s.change session ({ · with exi := some ⟨alignment⟩ }))
    | .error text =>
      (.error ((RpcError.application ("Unsupported EXI alignment '" ++ text ++ "'")
        .invalidValue).withInfo "bad-element" "alignment"), s)
  | .stopExi => (.ok request.okReply, s.change session ({ · with exi := none }))

def unsupported (shown : String) (id : SessionId) : RpcError :=
  (RpcError.application ("Unable to handle rpc " ++ shown ++ " on session " ++ id.text)
    .operationNotSupported).withInfo "operation-not-supported"
      ("No operation available to handle message " ++ shown)

def route (r : Router) (outcome : Except Failure Unit) (request : Document) (session : SessionKey)
    (s : Lifecycle) : Except RpcError Document × Lifecycle :=
  if request.asksFor "close-session" baseNamespace then
    s.perform r.host.sessionId outcome request session .closeSession
  else if request.asksFor "start-exi" exiNamespace then
    s.perform r.host.sessionId outcome request session .startExi
  else if request.asksFor "stop-exi" exiNamespace then
    s.perform r.host.sessionId outcome request session .stopExi
  else (.error (unsupported (r.shown request) session.id), s)

/-- One step of the machine, and what is told to whoever called. -/
def step (r : Router) (outcome : Except Failure Unit) (s : Lifecycle) :
    Call → Option Told × Lifecycle
  | .begin id => (none, { s with sessions := (s.sessions.begin id).1 })
  | .drop session => (none, { s with sessions := s.sessions.drop session })
  | .ask (.routed request session) | .logged request session =>
    (some (.replied (s.route r outcome request session).1), (s.route r outcome request session).2)
  | .ask _ => (some (.closed (.ok (s.release outcome).1)), (s.release outcome).2)

def trace (r : Router) : List (Call × Except Failure Unit) → Lifecycle →
    List (Option Told × Lifecycle)
  | [], _ => []
  | (call, outcome) :: rest, s => s.step r outcome call :: trace r rest (s.step r outcome call).2

end Lifecycle

namespace Call

def told (r : Router) (w : World) : Call → Option Told
  | begin _ => none
  | drop _ => none
  | ask entry => some ((entry.ask r).run w).1
  | logged request session => some (.replied ((r.routeLogged request session).run w).1)

def Live (w : World) : Call → Prop
  | ask (.routed _ session) => (w.sessions.state? session).isSome = true
  | logged _ session => (w.sessions.state? session).isSome = true
  | _ => True

end Call

namespace Router

def trace (r : Router) : List Call → World → List (Option Told × Lifecycle)
  | [], _ => []
  | call :: rest, w => (call.told r w, .ofWorld (call.after r w)) :: r.trace rest (call.after r w)

def AllLive (r : Router) : List Call → World → Prop
  | [], _ => True
  | call :: rest, w => call.Live w ∧ r.AllLive rest (call.after r w)

end Router

variable {request : Document} {session : SessionKey} {w w' : World} {b : Builtin}

namespace Lifecycle

theorem ofWorld_record {event : Event} (foreign : event.releaseEnd? = none) :
    ofWorld (w.record event) = ofWorld w := by
  simp [ofWorld, foreign]

theorem ofWorld_emit (line : Record) : ofWorld (w.emit line) = ofWorld w := rfl

theorem ofWorld_act (action : SessionAction) :
    ofWorld (w.act session action) = (ofWorld w).change session (·.apply action) := rfl

theorem release_sessions (s : Lifecycle) (outcome : Except Failure Unit) :
    (s.release outcome).2.sessions = s.sessions := by
  rw [release]
  split <;> rfl

theorem ofWorld_of_chose (chose : w.Chose w') : ofWorld w' = ofWorld w := by
  obtain ⟨events, journal, choosing⟩ := chose.journal
  have none : events.filterMap Event.releaseEnd? = [] :=
    List.filterMap_eq_nil_iff.2 fun e member => e.releaseEnd?_of_isChoosing (choosing e member)
  rw [ofWorld, ofWorld, chose.sessions, chose.released, journal, List.filterMap_append, none,
    List.append_nil]

section Route

variable (r : Router) (outcome : Except Failure Unit) (s : Lifecycle)

theorem route_of_isAsked (asked : b.IsAsked request) :
    s.route r outcome request session = s.perform r.host.sessionId outcome request session b := by
  have others : ∀ b', b'.IsAsked request → b' = b := fun _ asked' => asked'.eq asked
  rw [route]
  split_ifs with first second third
  · rw [← others .closeSession first]
  · rw [← others .startExi second]
  · rw [← others .stopExi third]
  · cases b <;> contradiction

theorem route_of_not_isAsked (other : ∀ b : Builtin, ¬ b.IsAsked request) :
    s.route r outcome request session =
      (.error (unsupported (r.shown request) session.id), s) := by
  have first : ¬ request.asksFor "close-session" baseNamespace = true := other .closeSession
  have second : ¬ request.asksFor "start-exi" exiNamespace = true := other .startExi
  have third : ¬ request.asksFor "stop-exi" exiNamespace = true := other .stopExi
  rw [route, if_neg first, if_neg second, if_neg third]

end Route

theorem toRpcError_noHandler (shown : String) (id : SessionId) :
    (RoutingError.noHandler shown).toRpcError shown id = unsupported shown id := by
  have joined : "Unable to handle rpc " ++ shown ++ " on " ++ id.describe =
      "Unable to handle rpc " ++ shown ++ " on session " ++ id.text := by
    have parts : " on session " = " on " ++ "session " := rfl
    rw [SessionId.describe, parts]
    simp only [String.append_assoc]
  rw [RoutingError.toRpcError, joined]
  · rfl
  · rintro stage detail ⟨⟩

end Lifecycle

theorem Alignment.ofText?_eq (name : String) :
    ofText? name =
      if name = "bit-packed" then some bitPacked
      else if name = "byte-aligned" then some byteAligned
      else if name = "pre-compression" then some preCompression
      else if name = "compression" then some compression
      else none := by
  simp only [ofText?, all, Alignment.text, List.find?, eq_comm (a := name)]
  split_ifs with h₁ h₂ h₃ h₄ <;> simp [*]

namespace Builtin

theorem exiParameters_eq (request : Document) :
    exiParameters request =
      match request.namedAlignment with
      | .ok alignment => .ok ⟨alignment⟩
      | .error text =>
        .error (.documented ((RpcError.application ("Unsupported EXI alignment '" ++ text ++ "'")
          .invalidValue).withInfo "bad-element" "alignment")) := by
  rw [exiParameters, Document.namedAlignment]
  cases request.operation? with
  | none => rfl
  | some operation =>
    rw [Option.bind_some, Option.bind_some, Element.childText?, Element.child?]
    cases found : operation.children.find? fun child => child.name = "alignment" with
    | none =>
      have absent : operation.children.find? (fun child => child.name = alignmentName) = none :=
        found
      rw [absent]
      rfl
    | some child =>
      have present : operation.children.find? (fun child => child.name = alignmentName) =
          some child := found
      rw [present]
      cases written : child.text with
      | none => simp only [Option.bind_eq_bind, Option.bind_some, written, Option.bind_none]; rfl
      | some text =>
        simp only [Option.bind_eq_bind, Option.bind_some, written, Option.pure_def,
          Alignment.ofText?_eq]
        split_ifs <;> rfl

end Builtin

end RpcRouting
