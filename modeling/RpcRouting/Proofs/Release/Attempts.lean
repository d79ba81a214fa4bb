import RpcRouting.Proofs.Release.Exact
/-!
The attempts to release the single backends of a backend. One release of the whole is one more
attempt for each of them, whatever became of the earlier ones; it succeeds exactly if all of these
attempts do.
-/

set_option autoImplicit false
set_option relaxedAutoImplicit false

namespace RpcRouting

def Event.isCallOf (leaf : LeafKey) : Event → Bool
  | closing key _ => key = leaf
  | closed key _ => key = leaf
  | _ => false

/-- The releases of a single backend, each with its beginning and its end. -/
def Journal.callsOf (journal : Journal) (leaf : LeafKey) : Journal :=
  journal.filter (·.isCallOf leaf)

namespace Catalogue

def call (catalogue : Catalogue) (leaf : LeafKey) (attempt : Nat) : Journal :=
  [.closing leaf attempt, .closed leaf ((catalogue.leaf leaf).close attempt).ended]

def Succeeds (catalogue : Catalogue) (leaf : LeafKey) (attempt : Nat) : Prop :=
  ((catalogue.leaf leaf).close attempt).ended = .ok (.ok ())

end Catalogue

namespace Journal

variable {journal events : Journal} {leaf : LeafKey}

theorem callsOf_append (journal events : Journal) (leaf : LeafKey) :
    callsOf (journal ++ events) leaf = journal.callsOf leaf ++ events.callsOf leaf :=
  List.filter_append ..

theorem callsOf_eq_nil (foreign : ∀ e ∈ events, e.isCallOf leaf = false) :
    events.callsOf leaf = [] := by
  simpa [callsOf, List.filter_eq_nil_iff] using foreign

theorem closings_callsOf (journal : Journal) (leaf : LeafKey) :
    (journal.callsOf leaf).closings leaf = journal.closings leaf := by
  rw [closings, closings, callsOf, List.countP_filter]
  refine List.countP_congr fun e _ => ?_
  cases e <;> simp [Event.isClosingOf, Event.isCallOf]

theorem closings_congr {later : Journal} (same : later.callsOf leaf = journal.callsOf leaf) :
    later.closings leaf = journal.closings leaf := by
  rw [← closings_callsOf, same, closings_callsOf]

end Journal

/-- A run over single backends made one more attempt to release each of them. -/
structure Backend.Tries {α : Type} (catalogue : Catalogue) (leaves : List LeafKey)
    (success : α → Prop) (w : World) (a : α) (w' : World) : Prop where
  released : w'.released = true
  calls : ∀ leaf ∈ leaves, w'.journal.callsOf leaf =
    w.journal.callsOf leaf ++ catalogue.call leaf (w.journal.closings leaf + 1)
  others : ∀ leaf, leaf ∉ leaves → w'.journal.callsOf leaf = w.journal.callsOf leaf
  success : success a ↔ ∀ leaf ∈ leaves, catalogue.Succeeds leaf (w.journal.closings leaf + 1)

namespace Backend

variable {α β : Type} {catalogue : Catalogue} {again : Run (Except Failure Unit)}

private theorem tries_closeLeaf (idle : again.Idle) (leaf : LeafKey) (w : World)
    (counted : w.released = true) {outcome : Except Failure Unit}
    (calm : ((catalogue.leaf leaf).close (w.journal.closings leaf + 1)).ended = .ok outcome) :
    ∃ w', (closeLeaf catalogue again leaf).on w = (.ok outcome, w') ∧
      Tries catalogue [leaf] (· = .ok ()) w outcome w' := by
  let attempt := w.journal.closings leaf + 1
  let closing := (catalogue.leaf leaf).close attempt
  let inner : Journal := List.replicate closing.requests (.reentered leaf (.ok ()) true)
  have journal : ((closeLeaf catalogue again leaf).on w).2.journal =
      w.journal ++ ([.closing leaf attempt] ++ inner ++ [.closed leaf closing.ended]) := by
    rw [closeLeaf_on idle leaf w counted]
    simp [World.recordAll, attempt, closing, inner]
  have quiet : ∀ key, inner.callsOf key = [] := fun key =>
    Journal.callsOf_eq_nil fun e member => (List.mem_replicate.1 member).2 ▸ rfl
  refine ⟨((closeLeaf catalogue again leaf).on w).2, ?_, ?_, ?_, ?_, ?_⟩
  · rw [closeLeaf_on idle leaf w counted, calm]
  · rw [closeLeaf_on idle leaf w counted]
    exact counted
  · intro key member
    rw [List.mem_singleton] at member
    subst member
    rw [journal, Journal.callsOf_append, Journal.callsOf_append, Journal.callsOf_append, quiet]
    simp [Journal.callsOf, Event.isCallOf, Catalogue.call, attempt, closing]
  · intro key other
    have distinct : leaf ≠ key := fun same => other (same ▸ List.mem_singleton_self _)
    rw [journal, Journal.callsOf_append, Journal.callsOf_append, Journal.callsOf_append, quiet]
    simp [Journal.callsOf, Event.isCallOf, distinct]
  · simp [Catalogue.Succeeds, calm]

private theorem Tries.andThen {γ : Type} {first second : List LeafKey} {success₁ : α → Prop}
    {success₂ : β → Prop} {success : γ → Prop} {w w₁ w₂ : World} {a : α} {b : β} {c : γ}
    (apart : (first ++ second).Nodup) (before : Tries catalogue first success₁ w a w₁)
    (after : Tries catalogue second success₂ w₁ b w₂) (both : success c ↔ success₁ a ∧ success₂ b) :
    Tries catalogue (first ++ second) success w c w₂ := by
  have disjoint := (List.nodup_append.1 apart).2.2
  have late : ∀ leaf ∈ second, leaf ∉ first := fun leaf member other =>
    disjoint leaf other leaf member rfl
  have early : ∀ leaf ∈ first, leaf ∉ second := fun leaf member other =>
    disjoint leaf member leaf other rfl
  have kept : ∀ leaf ∈ second, w₁.journal.closings leaf = w.journal.closings leaf :=
    fun leaf member => Journal.closings_congr (before.others leaf (late leaf member))
  refine ⟨after.released, fun leaf member => ?_, fun leaf other => ?_, ?_⟩
  · rcases List.mem_append.1 member with member | member
    · rw [after.others leaf (early leaf member), before.calls leaf member]
    · rw [after.calls leaf member, before.others leaf (late leaf member), kept leaf member]
  · rw [List.mem_append, not_or] at other
    rw [after.others leaf other.2, before.others leaf other.1]
  · rw [both, before.success, after.success, List.forall_mem_append]
    refine and_congr_right fun _ => forall₂_congr fun leaf member => ?_
    rw [kept leaf member]

private theorem Tries.failureOf {leaves : List LeafKey} {w w' : World}
    {outcome : Except Failure Unit} (tries : Tries catalogue leaves (· = .ok ()) w outcome w') :
    ∃ failed w'', (Backend.failureOf outcome).on w' = (.ok failed, w'') ∧
      Tries catalogue leaves (· = []) w failed w'' := by
  obtain ⟨released, calls, others, success⟩ := tries
  cases outcome with
  | ok done => exact ⟨[], w', rfl, released, calls, others, by rw [← success]; simp⟩
  | error failure =>
    exact ⟨[failure], w'.emit _, rfl, released, calls, others, by rw [← success]; simp⟩

mutual

theorem tries_close (idle : again.Idle) : (backend : Backend) → (w : World) →
    backend.leaves.Nodup → w.released = true →
    (∀ leaf ∈ backend.leaves, ∀ attempt, ∃ outcome,
      ((catalogue.leaf leaf).close attempt).ended = .ok outcome) →
    ∃ outcome w', (close catalogue again backend).on w = (.ok outcome, w') ∧
      Tries catalogue backend.leaves (· = .ok ()) w outcome w'
  | leaf key, w, _, counted, calm => by
    obtain ⟨outcome, ended⟩ := calm key (List.mem_singleton_self key) _
    exact ⟨outcome, tries_closeLeaf idle key w counted ended⟩
  | aggregate members, w, nodup, counted, calm => by
    obtain ⟨failures, w', run, released, calls, others, success⟩ :=
      tries_closeAll idle members w nodup counted calm
    refine ⟨Failure.combine failures, w', ?_, released, calls, others, ?_⟩
    · rw [close, Run.on_bind_of_ok run, Run.on_pure]
    · rw [Failure.combine_eq_ok_iff]
      exact success

theorem tries_closeAll (idle : again.Idle) : (members : List Backend) → (w : World) →
    (leavesOfAll members).Nodup → w.released = true →
    (∀ leaf ∈ leavesOfAll members, ∀ attempt, ∃ outcome,
      ((catalogue.leaf leaf).close attempt).ended = .ok outcome) →
    ∃ failures w', (closeAll catalogue again members).on w = (.ok failures, w') ∧
      Tries catalogue (leavesOfAll members) (· = []) w failures w'
  | [], w, _, counted, _ =>
    ⟨[], w, rfl, counted, by simp [leavesOfAll], fun _ _ => rfl, by simp [leavesOfAll]⟩
  | member :: rest, w, nodup, counted, calm => by
    rw [leavesOfAll] at nodup calm ⊢
    obtain ⟨nodup₁, nodup₂, -⟩ := List.nodup_append.1 nodup
    obtain ⟨outcome, w₁, run, tried⟩ := tries_close idle member w nodup₁ counted
      fun leaf own => calm leaf (List.mem_append_left _ own)
    obtain ⟨failed, w₂, noted, tried⟩ := tried.failureOf
    obtain ⟨failures, w₃, more, others⟩ := tries_closeAll idle rest w₂ nodup₂ tried.released
      fun leaf own => calm leaf (List.mem_append_right _ own)
    refine ⟨failed ++ failures, w₃, ?_, tried.andThen nodup others List.append_eq_nil_iff⟩
    rw [closeAll, Run.on_bind_of_ok run, Run.on_bind_of_ok noted, Run.on_bind_of_ok more,
      Run.on_pure]

end

end Backend

theorem Host.Calm.tries_release {host : Host} {w : World} (calm : host.Calm)
    (nodup : host.backend.leaves.Nodup) (free : w.released = false) :
    ∃ outcome w', host.release.on w = (.ok outcome, w') ∧ w'.released = outcome.isOk ∧
      (∀ leaf ∈ host.backend.leaves, w'.journal.callsOf leaf =
        w.journal.callsOf leaf ++ host.catalogue.call leaf (w.journal.closings leaf + 1)) ∧
      (outcome = .ok () ↔
        ∀ leaf ∈ host.backend.leaves,
          host.catalogue.Succeeds leaf (w.journal.closings leaf + 1)) := by
  obtain ⟨outcome, w', closed, released, calls, -, success⟩ := Backend.tries_close
    (host.releaseWithin_idle 0) host.backend ((w.mark true).record .releasing) nodup rfl calm
  have kept : ∀ leaf, ((w.mark true).record .releasing).journal.callsOf leaf =
      w.journal.callsOf leaf := by
    intro leaf
    rw [World.record_journal, World.mark_journal, Journal.callsOf_append]
    exact List.append_nil _
  have counted : ∀ leaf, ((w.mark true).record .releasing).journal.closings leaf =
      w.journal.closings leaf := fun leaf => Journal.closings_congr (kept leaf)
  have ended := host.releaseWithin_of_outcome free closed released
  refine ⟨outcome, ((w'.record (.released (.ok outcome))).mark outcome.isOk).record
    (.answered outcome outcome.isOk), ?_, rfl, fun leaf member => ?_, ?_⟩
  · rw [release, Run.on_bind_of_ok ended, Run.on_bind_of_ok Run.on_get,
      Run.on_bind_of_ok (Run.on_note _), Run.on_pure, World.mark_released]
  · have own := calls leaf member
    rw [kept, counted] at own
    rw [World.record_journal, World.mark_journal, World.record_journal, Journal.callsOf_append,
      Journal.callsOf_append, own]
    simp [Journal.callsOf, Event.isCallOf]
  · rw [success]
    exact forall₂_congr fun leaf _ => by rw [counted]

end RpcRouting
