import RpcRouting.Proofs.Lockstep
/-!
Worlds that differ in their logs. Nothing but the log itself depends on what was logged, and so all
that is done in such worlds goes on in lockstep.
-/

set_option autoImplicit false
set_option relaxedAutoImplicit false

namespace RpcRouting

namespace Log

variable (log : Log) (line : Record)

@[simp] theorem emit_threshold : (log.emit line).threshold = log.threshold := by
  rw [emit]
  split <;> rfl

theorem emit_records : (log.emit line).records =
    log.records ++ if line.level.passes log.threshold then [line] else [] := by
  rw [emit, enabled]
  split
  · rfl
  · exact (List.append_nil _).symm

/-- Two logs have grown by the same lines from two earlier ones of one threshold. -/
structure GrewAlike (early early' log log' : Log) : Prop where
  threshold : log.threshold = early.threshold
  threshold' : log'.threshold = early.threshold
  lines : ∃ lines, log.records = early.records ++ lines ∧ log'.records = early'.records ++ lines

namespace GrewAlike

variable {early early' log log' : Log}

theorem of_threshold (same : early'.threshold = early.threshold) :
    GrewAlike early early' early early' :=
  ⟨rfl, same, [], (List.append_nil _).symm, (List.append_nil _).symm⟩

theorem emit (line : Record) (grew : GrewAlike early early' log log') :
    GrewAlike early early' (log.emit line) (log'.emit line) := by
  obtain ⟨threshold, threshold', lines, first, second⟩ := grew
  refine ⟨by rw [emit_threshold, threshold], by rw [emit_threshold, threshold'],
    lines ++ if line.level.passes early.threshold then [line] else [], ?_, ?_⟩
  · rw [emit_records, first, threshold, List.append_assoc]
  · rw [emit_records, second, threshold', List.append_assoc]

end GrewAlike

end Log

/-- Two worlds differ in their logs at most, which stand in a given relation. -/
structure World.DifferInLog (P : Log → Log → Prop) (w w' : World) : Prop where
  sessions : w'.sessions = w.sessions
  bindings : w'.bindings = w.bindings
  released : w'.released = w.released
  journal : w'.journal = w.journal
  log : P w.log w'.log

variable {P : Log → Log → Prop} {w w' : World}

theorem World.DifferInLog.seenBy (differ : w.DifferInLog P w') (operation : Operation) :
    w'.seenBy operation = w.seenBy operation := by
  rw [World.seenBy, World.seenBy, differ.bindings, differ.sessions]

theorem World.lockstep_differInLog (host : Host)
    (emit : ∀ {log log'} line, P log log' → P (log.emit line) (log'.emit line)) :
    Lockstep host (World.DifferInLog P) where
  released differ := differ.released
  seen operation differ := differ.seenBy operation
  history key differ := .of_eq _ (congrArg _ differ.journal)
  closings leaf differ := congrArg (Journal.closings · leaf) differ.journal
  record event differ := by
    have journal := congrArg (· ++ [event]) differ.journal
    exact { differ with journal }
  emit line differ := { differ with log := emit line differ.log }
  bind operation session differ := by
    refine { differ with bindings := ?_ }
    simp only [World.bind, differ.bindings]
  act session action differ := by
    have sessions := congrArg (Sessions.act · session action) differ.sessions
    exact { differ with sessions }
  mark counted differ := { differ with released := rfl }

end RpcRouting
