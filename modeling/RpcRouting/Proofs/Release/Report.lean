import RpcRouting.Proofs.Logs
import RpcRouting.Proofs.Release.Nesting
/-!
What a release of a backend reports. Every single backend is released once, from left to right,
whatever became of the others. Each aggregate reports the first failure among its direct members,
as it is if it is the only one, and in one context with the number of failures if there are more;
so the cause that reaches the top is that of the first single backend that failed.
-/

set_option autoImplicit false
set_option relaxedAutoImplicit false

namespace RpcRouting

/-- A release of a single backend comes to its end if each request that it makes on the way is
answered with success, while the backend counts as released or not. -/
inductive Closing.EndsIn (counted : Bool) : Closing → Except Failure Unit → Prop
  | finish {outcome : Except Failure Unit} : EndsIn counted (.finish outcome) outcome
  | reenter {resume : Except Failure Unit → Bool → Closing} {outcome : Except Failure Unit}
      (next : EndsIn counted (resume (.ok ()) counted) outcome) :
    EndsIn counted (.reenter resume) outcome

def Run.IdleWhile (counted : Bool) (again : Run (Except Failure Unit)) : Prop :=
  ∀ w, w.released = counted → again.on w = (.ok (.ok ()), w)

def Event.isReentry : Event → Bool
  | reentered _ _ _ => true
  | _ => false

theorem Log.records_foldl_emit {level : Level} {lines : List Record}
    (same : ∀ line ∈ lines, line.level = level) (log : Log) :
    (lines.foldl emit log).records =
      log.records ++ if level.passes log.threshold then lines else [] := by
  induction lines generalizing log with
  | nil => simp
  | cons line rest ih =>
    obtain ⟨rfl, others⟩ := List.forall_mem_cons.1 same
    rw [List.foldl_cons, ih others, emit_records, emit_threshold]
    split <;> simp

namespace Backend

structure Attempt where
  key : LeafKey
  number : Nat
  outcome : Except Failure Unit

def Attempt.events (a : Attempt) : Journal :=
  [.closing a.key a.number, .closed a.key (.ok a.outcome)]

/-- A release of a backend, with what each of its parts reported. -/
inductive Report
  | leaf (attempt : Attempt)
  | aggregate (members : List Report) (outcome : Except Failure Unit)

def failure? : Except Failure Unit → Option Failure
  | .ok () => none
  | .error failure => some failure

/-- What an aggregate reports of the outcomes of its direct members. -/
inductive Sums : List (Except Failure Unit) → Except Failure Unit → Prop
  | all {outcomes : List (Except Failure Unit)} (all : ∀ o ∈ outcomes, o = .ok ()) :
    Sums outcomes (.ok ())
  | one {before after : List (Except Failure Unit)} {failure : Failure}
      (early : ∀ o ∈ before, o = .ok ()) (late : ∀ o ∈ after, o = .ok ()) :
    Sums (before ++ .error failure :: after) (.error failure)
  | several {before after : List (Except Failure Unit)} {failure : Failure} {count : Nat}
      (early : ∀ o ∈ before, o = .ok ()) (more : 2 ≤ count)
      (counted : (before ++ .error failure :: after).countP (failure? · |>.isSome) = count) :
    Sums (before ++ .error failure :: after)
      (.error (failure.wrapped (toString count ++ " operation services failed to close")))

namespace Report

def outcome : Report → Except Failure Unit
  | leaf attempt => attempt.outcome
  | aggregate _ outcome => outcome

def warning (member : Report) : List Record :=
  (failure? member.outcome).toList.map fun failure => .memberNotClosed failure.outermost

mutual

def backend : Report → Backend
  | leaf attempt => .leaf attempt.key
  | aggregate members _ => .aggregate (backendAll members)

def backendAll : List Report → List Backend
  | [] => []
  | member :: rest => backend member :: backendAll rest

end

mutual

def attempts : Report → List Attempt
  | leaf attempt => [attempt]
  | aggregate members _ => attemptsAll members

def attemptsAll : List Report → List Attempt
  | [] => []
  | member :: rest => attempts member ++ attemptsAll rest

end

mutual

def warnings : Report → List Record
  | leaf _ => []
  | aggregate members _ => warningsAll members

def warningsAll : List Report → List Record
  | [] => []
  | member :: rest => warnings member ++ warning member ++ warningsAll rest

end

mutual

/-- Single backends report how their release ended, and aggregates report of their direct
members. -/
def Faithful (catalogue : Catalogue) (counted : Bool) : Report → Prop
  | leaf attempt =>
    ((catalogue.leaf attempt.key).close attempt.number).EndsIn counted attempt.outcome
  | aggregate members outcome =>
    FaithfulAll catalogue counted members ∧ Sums (members.map Report.outcome) outcome

def FaithfulAll (catalogue : Catalogue) (counted : Bool) : List Report → Prop
  | [] => True
  | member :: rest => Faithful catalogue counted member ∧ FaithfulAll catalogue counted rest

end

end Report

/-! ### Outcomes -/

theorem failure?_eq_none {outcome : Except Failure Unit} :
    failure? outcome = none ↔ outcome = .ok () := by
  cases outcome <;> simp [failure?]

theorem failure?_eq_some {outcome : Except Failure Unit} {failure : Failure} :
    failure? outcome = some failure ↔ outcome = .error failure := by
  cases outcome <;> simp [failure?]

theorem findSome?_failure?_eq_none {outcomes : List (Except Failure Unit)} :
    outcomes.findSome? failure? = none ↔ ∀ outcome ∈ outcomes, outcome = .ok () :=
  List.findSome?_eq_none_iff.trans (forall₂_congr fun _ _ => failure?_eq_none)

theorem sums_combine (outcomes : List (Except Failure Unit)) :
    Sums outcomes (Failure.combine (outcomes.filterMap failure?)) := by
  cases failures : outcomes.filterMap failure? with
  | nil =>
    exact .all fun o member => failure?_eq_none.1 (List.filterMap_eq_nil_iff.1 failures o member)
  | cons failure rest =>
    obtain ⟨before, outcome, after, rfl, early, failed, others⟩ :=
      List.filterMap_eq_cons_iff.1 failures
    have first : ∀ o ∈ before, o = .ok () := fun o member => failure?_eq_none.1 (early o member)
    cases outcome with
    | ok done => cases failed
    | error told =>
      cases failed
      cases rest with
      | nil =>
        exact .one first fun o member => failure?_eq_none.1 (List.filterMap_eq_nil_iff.1 others o member)
      | cons second rest =>
        refine .several first (Nat.le_add_left 2 rest.length) ?_
        rw [← List.length_filterMap_eq_countP, failures]
        rfl

theorem Sums.rootCause {outcomes : List (Except Failure Unit)} {outcome : Except Failure Unit}
    (sums : Sums outcomes outcome) : (failure? outcome).map Failure.rootCause =
      (outcomes.findSome? failure?).map Failure.rootCause := by
  cases sums with
  | all all =>
    rw [findSome?_failure?_eq_none.2 all]
    rfl
  | one early late =>
    rw [List.findSome?_append, findSome?_failure?_eq_none.2 early]
    rfl
  | several early more counted =>
    rw [List.findSome?_append, findSome?_failure?_eq_none.2 early]
    rfl

namespace Report

variable {catalogue : Catalogue} {counted : Bool}

mutual

theorem Faithful.rootCause : (report : Report) → report.Faithful catalogue counted →
    (failure? report.outcome).map Failure.rootCause =
      ((report.attempts.map (·.outcome)).findSome? failure?).map Failure.rootCause
  | leaf attempt, _ => by
    rw [attempts, outcome, List.map_cons, List.findSome?_cons]
    cases failure? attempt.outcome <;> rfl
  | aggregate members outcome, ⟨faithful, sums⟩ => by
    rw [attempts]
    exact sums.rootCause.trans (FaithfulAll.rootCause members faithful)

theorem FaithfulAll.rootCause : (members : List Report) → FaithfulAll catalogue counted members →
    ((members.map Report.outcome).findSome? failure?).map Failure.rootCause =
      (((attemptsAll members).map (·.outcome)).findSome? failure?).map Failure.rootCause
  | [], _ => rfl
  | member :: rest, ⟨faithful, others⟩ => by
    have first := Faithful.rootCause member faithful
    have later := FaithfulAll.rootCause rest others
    rw [attemptsAll, List.map_append, List.findSome?_append, List.map_cons, List.findSome?_cons]
    -- A member fails exactly if one of its single backends does, so the first to fail is in it.
    cases own : (member.attempts.map (·.outcome)).findSome? failure? with
    | none =>
      rw [own] at first
      rw [Option.map_eq_none_iff.1 first]
      exact later
    | some cause =>
      rw [own] at first
      obtain ⟨told, failed, -⟩ := Option.map_eq_some_iff.1 first
      rw [failed] at first ⊢
      exact first

end

mutual

theorem keys_attempts : (report : Report) → report.attempts.map (·.key) = report.backend.leaves
  | leaf _ => rfl
  | aggregate members _ => keys_attemptsAll members

theorem keys_attemptsAll : (members : List Report) →
    (attemptsAll members).map (·.key) = leavesOfAll (backendAll members)
  | [] => rfl
  | member :: rest => by
    rw [attemptsAll, List.map_append, keys_attempts member, keys_attemptsAll rest]
    rfl

end

mutual

theorem level_warnings : (report : Report) → ∀ line ∈ report.warnings, line.level = .warn
  | leaf _, _, member => nomatch member
  | aggregate members _, line, member => level_warningsAll members line member

theorem level_warningsAll : (members : List Report) →
    ∀ line ∈ warningsAll members, line.level = .warn
  | [], _, member => nomatch member
  | member :: rest, line, among => by
    rw [warningsAll, List.mem_append, List.mem_append, warning, List.mem_map] at among
    rcases among with (inner | ⟨failure, -, rfl⟩) | later
    · exact level_warnings member line inner
    · rfl
    · exact level_warningsAll rest line later

end

end Report

/-! ### Runs -/

/-- Single backends were released, lines were logged, and nothing else changed. -/
structure Went (w : World) (attempts : List Attempt) (lines : List Record) (w' : World) : Prop where
  journal : ∃ events, w'.journal = w.journal ++ events ∧
    events.filter (!·.isReentry) = attempts.flatMap Attempt.events
  numbered : ∀ {before attempt after}, attempts = before ++ attempt :: after →
    attempt.number =
      w.journal.closings attempt.key + (before.map (·.key)).count attempt.key + 1
  log : w'.log = lines.foldl Log.emit w.log
  sessions : w'.sessions = w.sessions
  bindings : w'.bindings = w.bindings
  released : w'.released = w.released

theorem filterMap_closing?_filter (events : Journal) :
    (events.filter (!·.isReentry)).filterMap Event.closing? = events.filterMap Event.closing? := by
  rw [List.filterMap_filter]
  refine congrArg (List.filterMap · events) (funext fun e => ?_)
  cases e <;> rfl

theorem filterMap_closing?_attempts (attempts : List Attempt) :
    (attempts.flatMap Attempt.events).filterMap Event.closing? = attempts.map (·.key) := by
  induction attempts with
  | nil => rfl
  | cons attempt rest ih =>
    rw [List.flatMap_cons, List.filterMap_append, ih]
    rfl

namespace Went

variable {w w' w'' : World} {attempts more : List Attempt} {lines others : List Record}

theorem closings (went : Went w attempts lines w') (leaf : LeafKey) :
    w'.journal.closings leaf =
      w.journal.closings leaf + (attempts.map (·.key)).count leaf := by
  obtain ⟨events, grown, calls⟩ := went.journal
  rw [grown, Journal.closings_append, Journal.closings_eq_count events, ← filterMap_closing?_filter, calls,
    filterMap_closing?_attempts]

theorem refl (w : World) : Went w [] [] w :=
  ⟨⟨[], (List.append_nil _).symm, rfl⟩, fun split => by simp at split, rfl, rfl, rfl, rfl⟩

theorem trans (first : Went w attempts lines w') (second : Went w' more others w'') :
    Went w (attempts ++ more) (lines ++ others) w'' := by
  obtain ⟨early, grown, calls⟩ := first.journal
  obtain ⟨late, grown', calls'⟩ := second.journal
  refine ⟨⟨early ++ late, by rw [grown', grown, List.append_assoc], ?_⟩, ?_, ?_,
    second.sessions.trans first.sessions, second.bindings.trans first.bindings,
    second.released.trans first.released⟩
  · rw [List.filter_append, calls, calls', List.flatMap_append]
  · intro before attempt after split
    -- A release of the second run is counted behind all those of the first one.
    rcases List.append_eq_append_iff.1 split with ⟨within, rfl, beyond⟩ | ⟨within, own, beyond⟩
    · rw [second.numbered beyond, first.closings, List.map_append, List.count_append]
      omega
    · cases within with
      | nil =>
        rw [List.append_nil] at own
        subst own
        have next : more = [] ++ attempt :: after := beyond.symm
        rw [second.numbered next, first.closings]
        simp
      | cons head within =>
        obtain ⟨rfl, -⟩ := List.cons.inj beyond
        exact first.numbered own
  · rw [second.log, first.log, List.foldl_append]

theorem emit (w : World) (line : Record) : Went w [] [line] (w.emit line) :=
  ⟨⟨[], (List.append_nil _).symm, rfl⟩, fun split => by simp at split, rfl, rfl, rfl, rfl⟩

end Went

section Runs

variable {catalogue : Catalogue} {again : Run (Except Failure Unit)} {counted : Bool}

private theorem run_on_of_endsIn (leaf : LeafKey) (idle : again.IdleWhile counted)
    {closing : Closing} {outcome : Except Failure Unit} (ends : closing.EndsIn counted outcome)
    (w : World) (flag : w.released = counted) :
    ∃ inner : Journal, (closing.run leaf again).on w = (.ok outcome, w.recordAll inner) ∧
      ∀ e ∈ inner, e.isReentry = true := by
  induction ends generalizing w with
  | finish => exact ⟨[], by simp [Closing.run, World.recordAll], by simp⟩
  | @reenter resume outcome next ih =>
    obtain ⟨inner, run, reentries⟩ := ih (w.record (.reentered leaf (.ok ()) counted)) flag
    refine ⟨.reentered leaf (.ok ()) counted :: inner, ?_, List.forall_mem_cons.2 ⟨rfl, reentries⟩⟩
    rw [Closing.run, Run.on_bind_of_ok (idle w flag), Run.on_bind_of_ok Run.on_get,
      Run.on_bind_of_ok (Run.on_note _), flag, run]
    simp [World.recordAll, World.record]

private theorem closeLeaf_went (idle : again.IdleWhile counted) (leaf : LeafKey) (w : World)
    (flag : w.released = counted) {outcome : Except Failure Unit}
    (ends : ((catalogue.leaf leaf).close (w.journal.closings leaf + 1)).EndsIn counted outcome) :
    ∃ w', (closeLeaf catalogue again leaf).on w = (.ok outcome, w') ∧
      Went w [⟨leaf, w.journal.closings leaf + 1, outcome⟩] [] w' := by
  let attempt := w.journal.closings leaf + 1
  obtain ⟨inner, run, reentries⟩ :=
    run_on_of_endsIn leaf idle ends (w.record (.closing leaf attempt)) flag
  refine ⟨((w.record (.closing leaf attempt)).recordAll inner).record (.closed leaf (.ok outcome)),
    ?_, ⟨.closing leaf attempt :: inner ++ [.closed leaf (.ok outcome)], ?_, ?_⟩, ?_, rfl, rfl, rfl,
    rfl⟩
  · rw [closeLeaf, Run.on_bind_of_ok Run.on_get, Run.on_bind_of_ok (Run.on_note _), Run.on_noteEnd,
      run]
  · simp [World.recordAll]
  · have quiet : inner.filter (!·.isReentry) = [] :=
      List.filter_eq_nil_iff.2 fun e member => by simp [reentries e member]
    rw [List.cons_append, List.filter_cons_of_pos rfl, List.filter_append, quiet]
    rfl
  · intro before other after split
    cases before with
    | nil =>
      obtain ⟨rfl, -⟩ := List.cons.inj split
      rfl
    | cons head before => simp at split

private theorem failureOf_went (w : World) (member : Report) :
    ∃ w', (failureOf member.outcome).on w = (.ok (failure? member.outcome).toList, w') ∧
      Went w [] member.warning w' := by
  rw [Report.warning]
  cases member.outcome with
  | ok done => exact ⟨w, rfl, .refl w⟩
  | error failure => exact ⟨w.emit _, rfl, .emit w _⟩

mutual

theorem close_went (idle : again.IdleWhile counted) : (backend : Backend) → (w : World) →
    w.released = counted →
    (∀ leaf ∈ backend.leaves, ∀ attempt, ∃ outcome,
      ((catalogue.leaf leaf).close attempt).EndsIn counted outcome) →
    ∃ (report : Report) (w' : World), (close catalogue again backend).on w = (.ok report.outcome, w') ∧
      report.backend = backend ∧ report.Faithful catalogue counted ∧
      Went w report.attempts report.warnings w'
  | leaf key, w, flag, calm => by
    obtain ⟨outcome, ends⟩ := calm key (List.mem_singleton_self key) (w.journal.closings key + 1)
    obtain ⟨w', run, went⟩ := closeLeaf_went idle key w flag ends
    exact ⟨.leaf ⟨key, _, outcome⟩, w', run, rfl, ends, went⟩
  | aggregate members, w, flag, calm => by
    obtain ⟨reports, w', run, shape, faithful, went⟩ := closeAll_went idle members w flag calm
    refine ⟨.aggregate reports (Failure.combine ((reports.map Report.outcome).filterMap failure?)),
      w', ?_, congrArg _ shape, ⟨faithful, sums_combine _⟩, went⟩
    rw [close, Run.on_bind_of_ok run, Run.on_pure, Report.outcome]

theorem closeAll_went (idle : again.IdleWhile counted) : (members : List Backend) → (w : World) →
    w.released = counted →
    (∀ leaf ∈ leavesOfAll members, ∀ attempt, ∃ outcome,
      ((catalogue.leaf leaf).close attempt).EndsIn counted outcome) →
    ∃ (reports : List Report) (w' : World), (closeAll catalogue again members).on w =
        (.ok ((reports.map Report.outcome).filterMap failure?), w') ∧
      Report.backendAll reports = members ∧ Report.FaithfulAll catalogue counted reports ∧
      Went w (Report.attemptsAll reports) (Report.warningsAll reports) w'
  | [], w, _, _ => ⟨[], w, rfl, rfl, trivial, .refl w⟩
  | member :: rest, w, flag, calm => by
    rw [leavesOfAll] at calm
    obtain ⟨report, w₁, run, shape, faithful, went⟩ := close_went idle member w flag
      fun leaf own => calm leaf (List.mem_append_left _ own)
    obtain ⟨w₂, noted, logged⟩ := failureOf_went w₁ report
    have first := went.trans logged
    obtain ⟨reports, w₃, more, shapes, others, later⟩ := closeAll_went idle rest w₂
      (first.released.trans flag) fun leaf own => calm leaf (List.mem_append_right _ own)
    refine ⟨report :: reports, w₃, ?_, by rw [Report.backendAll, shape, shapes], ⟨faithful, others⟩, ?_⟩
    · rw [closeAll, Run.on_bind_of_ok run, Run.on_bind_of_ok noted, Run.on_bind_of_ok more, Run.on_pure]
      cases failed : failure? report.outcome <;> simp [failed]
    · rw [Report.attemptsAll, Report.warningsAll]
      simpa using first.trans later

end

/-- What one release of a backend did and reported. -/
structure Closes (catalogue : Catalogue) (again : Run (Except Failure Unit)) (backend : Backend)
    (w : World) (report : Report) (w' : World) : Prop where
  run : (close catalogue again backend).on w = (.ok report.outcome, w')
  parts : report.backend = backend
  faithful : report.Faithful catalogue w.released
  each : report.attempts.map (·.key) = backend.leaves
  went : Went w report.attempts report.warnings w'
  success : report.outcome = .ok () ↔ ∀ attempt ∈ report.attempts, attempt.outcome = .ok ()
  /-- The cause that is told is that of the first single backend that failed. -/
  cause : ∀ {before attempt after failure}, report.attempts = before ++ attempt :: after →
    (∀ earlier ∈ before, earlier.outcome = .ok ()) → attempt.outcome = .error failure →
    ∃ told, report.outcome = .error told ∧ told.rootCause = failure.rootCause
  logged : w'.log.records =
    w.log.records ++ if Level.warn.passes w.log.threshold then report.warnings else []

/-- A release of a backend, none of whose single backends crashes, releases all of them and reports
faithfully. -/
theorem close_reports (catalogue : Catalogue) (again : Run (Except Failure Unit))
    (backend : Backend) (w : World) (idle : again.IdleWhile w.released)
    (calm : ∀ leaf ∈ backend.leaves, ∀ attempt, ∃ outcome,
      ((catalogue.leaf leaf).close attempt).EndsIn w.released outcome) :
    ∃ report w', Closes catalogue again backend w report w' := by
  obtain ⟨report, w', run, parts, faithful, went⟩ := close_went idle backend w rfl calm
  have cause := faithful.rootCause
  refine ⟨report, w', run, parts, faithful, parts ▸ report.keys_attempts, went, ?_, ?_, ?_⟩
  · rw [← failure?_eq_none, ← Option.map_eq_none_iff, cause, Option.map_eq_none_iff,
      findSome?_failure?_eq_none, List.forall_mem_map]
  · intro before attempt after failure split early failed
    have first : (report.attempts.map (·.outcome)).findSome? failure? = some failure := by
      rw [split, List.map_append, List.findSome?_append,
        findSome?_failure?_eq_none.2 (List.forall_mem_map.2 early), List.map_cons, failed]
      rfl
    rw [first] at cause
    obtain ⟨told, outcome, same⟩ := Option.map_eq_some_iff.1 cause
    exact ⟨told, failure?_eq_some.1 outcome, same⟩
  · rw [went.log, Log.records_foldl_emit report.level_warnings]

end Runs

/-- Four single backends. The third one never fails; the last one asks for its release meanwhile. -/
def sinking : Catalogue where
  operation _ := .idle
  leaf key := ⟨[], fun _ =>
    match key.value with
    | 0 => .finish (.error (.of "busy" ["tunnel"]))
    | 1 => .finish (.error (.cause "gone"))
    | 2 => .finish (.ok ())
    | _ => .reenter fun _ _ => .finish (.error (.cause "late"))⟩

/-- Two of the single backends within a backend, and the others beside it. -/
def nested : Backend :=
  .aggregate [.aggregate [.leaf ⟨0⟩, .leaf ⟨1⟩], .leaf ⟨2⟩, .leaf ⟨3⟩]

theorem endsIn_sinking (leaf : LeafKey) (attempt : Nat) :
    ∃ outcome, ((sinking.leaf leaf).close attempt).EndsIn false outcome :=
  match leaf with
  | ⟨0⟩ => ⟨_, .finish⟩
  | ⟨1⟩ => ⟨_, .finish⟩
  | ⟨2⟩ => ⟨_, .finish⟩
  | ⟨_ + 3⟩ => ⟨_, .reenter .finish⟩

theorem close_reports_nested :
    ∃ report w', Closes sinking (pure (.ok ())) nested (.initial (some .warn)) report w' ∧
      report.outcome = .error (.of "busy" ["tunnel", "2 operation services failed to close",
        "2 operation services failed to close"]) ∧
      w'.log.records.length = 4 := by
  obtain ⟨report, w', closes⟩ := close_reports sinking (pure (.ok ())) nested
    (.initial (some .warn)) (fun _ _ => rfl) fun leaf _ attempt => endsIn_sinking leaf attempt
  obtain ⟨ended, world⟩ := Prod.mk.inj closes.run
  refine ⟨report, w', closes, ?_, ?_⟩
  · exact (Except.ok.inj ended).symm
  · rw [← world]
    rfl

end Backend

end RpcRouting
