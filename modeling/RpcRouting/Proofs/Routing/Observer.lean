import RpcRouting.Proofs.Builtin.Lifecycle
import RpcRouting.Proofs.Logs
import RpcRouting.Proofs.Routing.Lockstep
/-!
Logging is an observer. A server is run twice, with logs of two thresholds, or with a log and
without one. Both runs take the same steps and offer the same lines, so that all they leave is the
same except for the lines that only one of the logs lets pass.
-/

set_option autoImplicit false
set_option relaxedAutoImplicit false

namespace RpcRouting

variable {w w' : World}

namespace Log

/-- A log that keeps of the lines of another one those that pass a threshold. -/
structure Thins (threshold : Option Level) (log log' : Log) : Prop where
  fine : log.threshold = some .trace
  coarse : log'.threshold = threshold
  records : log'.records = log.records.filter (·.level.passes threshold)

namespace Thins

variable {threshold : Option Level} {log log' : Log}

theorem empty (threshold : Option Level) :
    Thins threshold (.empty (some .trace)) (.empty threshold) :=
  ⟨rfl, rfl, rfl⟩

theorem emit (line : Record) (thins : Thins threshold log log') :
    Thins threshold (log.emit line) (log'.emit line) := by
  obtain ⟨fine, coarse, records⟩ := thins
  have all : line.level.passes log.threshold = true := by
    rw [fine]
    cases line.level <;> rfl
  refine ⟨(emit_threshold log line).trans fine, (emit_threshold log' line).trans coarse, ?_⟩
  rw [emit_records, emit_records, if_pos all, coarse, records, List.filter_append,
    List.filter_cons, List.filter_nil]

theorem foldl_emit (lines : List Record) (thins : Thins threshold log log') :
    Thins threshold (lines.foldl .emit log) (lines.foldl .emit log') := by
  induction lines generalizing log log' with
  | nil => exact thins
  | cons line rest ih => exact ih (thins.emit line)

end Thins

end Log

/-- The world with a log of a threshold that was offered some lines already, as it is when the
registry of a session has been built. -/
def World.logging (w : World) (threshold : Option Level) (lines : List Record) : World :=
  { w with log := lines.foldl .emit (.empty threshold) }

def World.unlogged (w : World) : World := { w with log := .empty none }

namespace World.DifferInLog

variable {P : Log → Log → Prop}

theorem logging {threshold threshold' : Option Level} {lines : List Record}
    (logs : P (lines.foldl .emit (.empty threshold)) (lines.foldl .emit (.empty threshold')))
    (w : World) : (w.logging threshold lines).DifferInLog P (w.logging threshold' lines) :=
  ⟨rfl, rfl, rfl, rfl, logs⟩

theorem unlogged (differ : w.DifferInLog P w') : w'.unlogged = w.unlogged := by
  obtain ⟨sessions, bindings, released, journal, -⟩ := differ
  simp only [World.unlogged, sessions, bindings, released, journal]

theorem changed (differ : w.DifferInLog P w') (change : Sessions → Sessions) :
    World.DifferInLog P { w with sessions := change w.sessions }
      { w' with sessions := change w'.sessions } :=
  { differ with sessions := congrArg change differ.sessions }

end World.DifferInLog

namespace Router

variable {r : Router}

/-- A course of calls: what is told in each of them, and all that it leaves except the log. -/
def course (r : Router) : List Call → World → List (Option Told × World)
  | [], _ => []
  | call :: rest, w => (call.told r w, (call.after r w).unlogged) :: r.course rest (call.after r w)

section Lockstep

variable {R : World → World → Prop} (lockstep : Lockstep r.host R)

include lockstep

theorem ask_alike (entry : Entry) : AnswersAlike R (entry.ask r) := by
  have release : AnswersAlike R r.host.release.run := lockstep.release
  cases entry with
  | resources => exact release.bind fun _ => .pure _
  | registry => exact release.bind fun _ => .pure _
  | router => exact release.bind fun _ => .pure _
  | routed request session => exact (route_alike lockstep request session).bind fun _ => .pure _

theorem routeLogged_alike (request : Document) (session : SessionKey) :
    AnswersAlike R (r.routeLogged request session) := by
  refine (lockstep.emitting _).bind fun _ => ?_
  refine (route_alike lockstep request session).bind fun answer => ?_
  exact (lockstep.emitting _).bind fun _ => (lockstep.emitting _).bind fun _ => .pure answer

theorem call_alike (sessions : ∀ {w w'} (change : Sessions → Sessions), R w w' →
      R { w with sessions := change w.sessions } { w' with sessions := change w'.sessions })
    (call : Call) (related : R w w') :
    call.told r w' = call.told r w ∧ R (call.after r w) (call.after r w') := by
  cases call with
  | begin id => exact ⟨rfl, sessions (fun s => (s.begin id).1) related⟩
  | drop session => exact ⟨rfl, sessions (·.drop session) related⟩
  | ask entry =>
    obtain ⟨told, after⟩ := ask_alike lockstep entry w w' related
    exact ⟨congrArg some told, after⟩
  | logged request session =>
    obtain ⟨answer, after⟩ := routeLogged_alike lockstep request session w w' related
    exact ⟨congrArg (some ∘ Told.replied) answer, after⟩

end Lockstep

theorem course_of_differInLog {P : Log → Log → Prop}
    (emit : ∀ {log log'} line, P log log' → P (log.emit line) (log'.emit line))
    (calls : List Call) (differ : w.DifferInLog P w') :
    r.course calls w' = r.course calls w ∧
      (r.after calls w).DifferInLog P (r.after calls w') := by
  have lockstep : Lockstep r.host (World.DifferInLog P) :=
    World.lockstep_differInLog r.host fun line related => emit line related
  induction calls generalizing w w' with
  | nil => exact ⟨rfl, differ⟩
  | cons call rest ih =>
    obtain ⟨told, next⟩ :=
      call_alike lockstep (fun change differ => differ.changed change) call differ
    obtain ⟨later, final⟩ := ih next
    exact ⟨by rw [course, course, told, next.unlogged, later], final⟩

/-- At whatever level a log keeps lines, the server does the same as without one, and the log is
that of the finest level without the lines that are less severe. -/
theorem course_logging (r : Router) (calls : List Call) (w : World) (lines : List Record)
    (level : Level) :
    r.course calls (w.logging (some level) lines) = r.course calls (w.logging none lines) ∧
      (r.after calls (w.logging (some level) lines)).log.records =
        (r.after calls (w.logging (some .trace) lines)).log.records.filter
          fun line => line.level.place ≤ level.place := by
  have thins : ∀ threshold, r.course calls (w.logging threshold lines) =
      r.course calls (w.logging (some .trace) lines) ∧
        (r.after calls (w.logging (some .trace) lines)).DifferInLog (Log.Thins threshold)
          (r.after calls (w.logging threshold lines)) := by
    intro threshold
    refine course_of_differInLog (fun line thins => thins.emit line) calls ?_
    exact .logging ((Log.Thins.empty threshold).foldl_emit lines) w
  exact ⟨(thins (some level)).1.trans (thins none).1.symm, (thins (some level)).2.log.records⟩

end Router

end RpcRouting
