import RpcRouting.Proofs.Release.Attempts
import Mathlib.Data.List.Nodup
/-!
Retries of a backend whose release failed. A backend is retried as a whole: each release that
reaches it is one round of attempts, one for each single backend, and a round follows exactly if
the one before failed. So a single backend that failed is tried again until all have succeeded in
one round; and one that has succeeded is released again exactly if another one failed in that round
and somebody asked once more.
-/

set_option autoImplicit false
set_option relaxedAutoImplicit false

namespace RpcRouting

/-- A single backend is released again after a release of it succeeded. -/
def Journal.Reclosed (journal : Journal) (leaf : LeafKey) : Prop :=
  ∃ attempt, [.closed leaf (.ok (.ok ())), .closing leaf attempt].Sublist journal

def Catalogue.rounds (catalogue : Catalogue) (leaf : LeafKey) (count : Nat) : Journal :=
  (List.range count).flatMap fun before => catalogue.call leaf (before + 1)

/-- So many rounds of attempts were made, and the backend counts as released exactly if the last one
succeeded as a whole. -/
structure Host.InRounds (host : Host) (w : World) (rounds : Nat) : Prop where
  calls : ∀ leaf ∈ host.backend.leaves,
    w.journal.callsOf leaf = host.catalogue.rounds leaf rounds
  failed : ∀ round, 0 < round → round < rounds →
    ∃ leaf ∈ host.backend.leaves, ¬ host.catalogue.Succeeds leaf round
  released : w.released = true ↔
    0 < rounds ∧ ∀ leaf ∈ host.backend.leaves, host.catalogue.Succeeds leaf rounds

/-- The single backends are released round by round. One that has succeeded is released again in
each further round, and as long as one has failed in the last round, whoever asks for a release
makes the next one. -/
structure Router.ReleasesInRounds (r : Router) (w : World) (rounds : Nat) : Prop
    extends r.host.InRounds w rounds where
  reclosed : ∀ leaf ∈ r.host.backend.leaves, w.journal.Reclosed leaf ↔
    ∃ round, 0 < round ∧ round < rounds ∧ r.host.catalogue.Succeeds leaf round
  asked : ∀ entry : Entry, entry.Reaches r w → ∀ leaf ∈ r.host.backend.leaves,
    ((entry.ask r).run w).2.journal.callsOf leaf = w.journal.callsOf leaf ++
      if w.released then [] else r.host.catalogue.call leaf (rounds + 1)

namespace Catalogue

variable {catalogue : Catalogue} {leaf : LeafKey} {count : Nat}

theorem rounds_succ (catalogue : Catalogue) (leaf : LeafKey) (count : Nat) :
    catalogue.rounds leaf (count + 1) =
      catalogue.rounds leaf count ++ catalogue.call leaf (count + 1) := by
  simp [rounds, List.range_succ]

theorem closings_rounds (catalogue : Catalogue) (leaf : LeafKey) (count : Nat) :
    (catalogue.rounds leaf count).closings leaf = count := by
  induction count with
  | zero => rfl
  | succ count ih =>
    have once : Journal.closings (catalogue.call leaf (count + 1)) leaf = 1 := by
      simp [Journal.closings, call, Event.isClosingOf]
    rw [rounds_succ, Journal.closings_append, ih, once]

theorem closed_mem_rounds : .closed leaf (.ok (.ok ())) ∈ catalogue.rounds leaf count ↔
    ∃ round, 0 < round ∧ round ≤ count ∧ catalogue.Succeeds leaf round := by
  induction count with
  | zero =>
    simp only [rounds, List.range_zero, List.flatMap_nil, List.not_mem_nil, false_iff]
    rintro ⟨round, above, below, -⟩
    omega
  | succ count ih =>
    have own : .closed leaf (.ok (.ok ())) ∈ catalogue.call leaf (count + 1) ↔
        catalogue.Succeeds leaf (count + 1) := by
      simp [call, Succeeds, eq_comm]
    rw [rounds_succ, List.mem_append, ih, own]
    constructor
    · rintro (⟨round, above, below, success⟩ | success)
      · exact ⟨round, above, by omega, success⟩
      · exact ⟨count + 1, by omega, by omega, success⟩
    · rintro ⟨round, above, below, success⟩
      rcases Nat.lt_or_eq_of_le below with earlier | rfl
      · exact .inl ⟨round, above, by omega, success⟩
      · exact .inr success

theorem reclosed_rounds : (catalogue.rounds leaf count).Reclosed leaf ↔
    ∃ round, 0 < round ∧ round < count ∧ catalogue.Succeeds leaf round := by
  cases count with
  | zero =>
    constructor
    · rintro ⟨attempt, again⟩
      simp [rounds] at again
    · rintro ⟨round, above, below, -⟩
      omega
  | succ count =>
    have split : (catalogue.rounds leaf (count + 1)).Reclosed leaf ↔
        .closed leaf (.ok (.ok ())) ∈ catalogue.rounds leaf count := by
      rw [rounds_succ]
      constructor
      · rintro ⟨attempt, again⟩
        obtain ⟨early, late, parts, earlier, later⟩ := List.sublist_append_iff.1 again
        cases early with
        | nil =>
          -- One round is a beginning and an end, in this order.
          rw [List.nil_append] at parts
          rw [← parts] at later
          cases later.eq_of_length rfl
        | cons first more =>
          obtain ⟨rfl, -⟩ := List.cons.inj parts
          exact earlier.subset List.mem_cons_self
      · intro before
        have next : [Event.closing leaf (count + 1)].Sublist (catalogue.call leaf (count + 1)) := by
          simp [call]
        exact ⟨count + 1, (List.singleton_sublist.2 before).append next⟩
    rw [split, closed_mem_rounds]
    refine exists_congr fun round => and_congr_right fun _ => and_congr_left fun _ => ?_
    exact Nat.lt_succ_iff.symm

end Catalogue

theorem Journal.reclosed_callsOf (journal : Journal) (leaf : LeafKey) :
    (journal.callsOf leaf).Reclosed leaf ↔ journal.Reclosed leaf := by
  constructor
  · rintro ⟨attempt, again⟩
    exact ⟨attempt, again.trans List.filter_sublist⟩
  · rintro ⟨attempt, again⟩
    have kept := again.filter (·.isCallOf leaf)
    exact ⟨attempt, by simpa [callsOf, Event.isCallOf] using kept⟩

namespace Host.InRounds

variable {host : Host} {w w' : World} {rounds : Nat}

theorem initial (threshold : Option Level) : host.InRounds (.initial threshold) 0 := by
  refine ⟨fun _ _ => rfl, fun round above below => ?_, ?_⟩
  · omega
  · simp [World.initial]

theorem closings (inRounds : host.InRounds w rounds) {leaf : LeafKey}
    (member : leaf ∈ host.backend.leaves) : w.journal.closings leaf = rounds := by
  rw [← Journal.closings_callsOf, inRounds.calls leaf member, Catalogue.closings_rounds]

theorem append (inRounds : host.InRounds w rounds) {events : Journal}
    (journal : w'.journal = w.journal ++ events) (released : w'.released = w.released)
    (foreign : ∀ e ∈ events, ∀ leaf, e.isCallOf leaf = false) : host.InRounds w' rounds := by
  refine ⟨fun leaf member => ?_, inRounds.failed, by rw [released]; exact inRounds.released⟩
  have quiet : events.callsOf leaf = [] := Journal.callsOf_eq_nil fun e own => foreign e own leaf
  rw [journal, Journal.callsOf_append, quiet, List.append_nil, inRounds.calls leaf member]

theorem release (inRounds : host.InRounds w rounds) (calm : host.Calm)
    (nodup : host.backend.leaves.Nodup) :
    host.InRounds (host.release.on w).2 (if w.released then rounds else rounds + 1) := by
  cases counted : w.released with
  | true =>
    obtain ⟨events, round, journal⟩ := (host.releases_release w).round
    generalize left : (host.release.on w).2 = w' at round journal
    generalize told : (host.release.on w).1 = ended at round
    generalize counts : w'.released = after at round
    rw [counted] at round
    cases round with
    | idle => exact inRounds.append journal (counts.trans counted.symm) (by simp [Event.isCallOf])
  | false =>
    obtain ⟨outcome, w', run, counts, calls, success⟩ := calm.tries_release nodup counted
    have kept : ∀ leaf ∈ host.backend.leaves, w.journal.closings leaf = rounds :=
      fun leaf member => inRounds.closings member
    rw [run]
    refine ⟨fun leaf member => ?_, fun round above below => ?_, ?_⟩
    · rw [calls leaf member, inRounds.calls leaf member, kept leaf member]
      exact (Catalogue.rounds_succ ..).symm
    · rcases Nat.lt_or_eq_of_le (Nat.lt_succ_iff.1 below) with earlier | rfl
      · exact inRounds.failed round above earlier
      · have failed : ¬ ∀ leaf ∈ host.backend.leaves, host.catalogue.Succeeds leaf round := by
          intro all
          rw [inRounds.released.2 ⟨above, all⟩] at counted
          cases counted
        push Not at failed
        exact failed
    · have all : outcome = .ok () ↔
          ∀ leaf ∈ host.backend.leaves, host.catalogue.Succeeds leaf (rounds + 1) := by
        rw [success]
        exact forall₂_congr fun leaf member => by rw [kept leaf member]
      have ok : outcome.isOk = true ↔ outcome = .ok () := by
        cases outcome <;> simp [Except.isOk, Except.toBool]
      show w'.released = true ↔ _
      rw [counts, ok, all]
      exact (and_iff_right (Nat.succ_pos rounds)).symm

end Host.InRounds

namespace Host

variable {host : Host} {w w' : World}

def GoesRound (host : Host) (w w' : World) : Prop :=
  ∀ rounds, host.InRounds w rounds → ∃ later, rounds ≤ later ∧ host.InRounds w' later

theorem GoesRound.append {events : Journal} (journal : w'.journal = w.journal ++ events)
    (released : w'.released = w.released)
    (foreign : ∀ e ∈ events, ∀ leaf, e.isCallOf leaf = false) : host.GoesRound w w' :=
  fun rounds inRounds => ⟨rounds, Nat.le_refl _, inRounds.append journal released foreign⟩

theorem GoesRound.still (journal : w'.journal = w.journal) (released : w'.released = w.released) :
    host.GoesRound w w' :=
  .append (by rw [journal, List.append_nil]) released (by simp)

theorem GoesRound.record {event : Event} (foreign : ∀ leaf, event.isCallOf leaf = false) :
    host.GoesRound w (w.record event) :=
  .append rfl rfl fun _ member leaf => List.mem_singleton.1 member ▸ foreign leaf

theorem GoesRound.trans {u v w : World} (first : host.GoesRound u v) (second : host.GoesRound v w) :
    host.GoesRound u w := by
  intro rounds inRounds
  obtain ⟨more, le, inRounds⟩ := first rounds inRounds
  obtain ⟨most, le', inRounds⟩ := second more inRounds
  exact ⟨most, Nat.le_trans le le', inRounds⟩

variable (calm : host.Calm) (nodup : host.backend.leaves.Nodup)

include calm nodup

theorem goesRound_release : host.release.Leads host.GoesRound := by
  intro w rounds inRounds
  refine ⟨_, ?_, inRounds.release calm nodup⟩
  split <;> omega

theorem permits_goesRound : host.Permits host.GoesRound where
  refl _ := .still rfl rfl
  trans := .trans
  bound _ _ _ _ := .record fun _ => rfl
  probed _ _ _ _ _ := .record fun _ => rfl
  bind _ _ _ := .still rfl rfl
  handling _ _ _ _ := .record fun _ => rfl
  record w event operation own other := .record fun leaf => by
    cases event <;> first | rfl | cases own
  emit _ _ := .still rfl rfl
  act _ _ _ := .still rfl rfl
  closeSession request := by
    intro w
    have run : host.release.on w = ((host.release.on w).1, (host.release.on w).2) := rfl
    obtain ⟨w'', events, ended, journal, released, own⟩ := Builtin.closeSession_on request run
    rw [ended]
    refine (goesRound_release calm nodup w).trans (.append journal released fun e member leaf => ?_)
    have about := (own e member).1
    cases e <;> first | rfl | cases about

end Host

theorem Journal.closings_releases (journal : Journal) (leaf : LeafKey) :
    journal.releases.closings leaf = journal.closings leaf := by
  rw [closings, closings, releases, List.countP_filter]
  refine List.countP_congr fun e _ => ?_
  cases e <;> simp [Event.isClosingOf, Event.operation?]

namespace Router

variable {r : Router} {w : World} {rounds : Nat} (calm : r.host.Calm)
  (nodup : r.host.backend.leaves.Nodup) (inRounds : r.host.InRounds w rounds) {entry : Entry}
  (reaches : entry.Reaches r w) {leaf : LeafKey} (member : leaf ∈ r.host.backend.leaves)

include calm nodup reaches member

private theorem closings_ask : ((entry.ask r).run w).2.journal.closings leaf =
    w.journal.closings leaf + if w.released then 0 else 1 := by
  obtain ⟨ended, events, round, -, journal⟩ := Entry.ask_of_reaches reaches
  have added : events.closings leaf = if w.released then 0 else 1 := by
    generalize counts : ((entry.ask r).run w).2.released = after at round
    generalize counted : w.released = before at round ⊢
    cases round with
    | idle => rfl
    | @settled inner outcome nested called all =>
      have each : List.filterMap Event.closing? (.releasing :: inner ++
          [.released (.ok outcome), .answered outcome outcome.isOk]) = r.host.backend.leaves := by
        rw [List.cons_append, List.filterMap_cons_none rfl, List.filterMap_append, called]
        exact List.append_nil _
      rw [Journal.closings_eq_count, each]
      exact List.count_eq_one_of_mem nodup member
    | @broken inner left nested origin =>
      obtain ⟨key, own, attempt, crashed⟩ := origin
      obtain ⟨outcome, ends⟩ := calm key own attempt
      rw [crashed] at ends
      cases ends
  rw [← Journal.closings_releases, journal, Journal.closings_append, Journal.closings_releases,
    added]

include inRounds

private theorem callsOf_ask : ((entry.ask r).run w).2.journal.callsOf leaf =
    w.journal.callsOf leaf ++
      if w.released then [] else r.host.catalogue.call leaf (rounds + 1) := by
  obtain ⟨later, -, inRounds'⟩ := leads_call (r.host.permits_goesRound calm nodup)
    (r.host.goesRound_release calm nodup) (fun _ _ => .still rfl rfl) (.ask entry) rounds inRounds
  have count : later = rounds + if w.released then 0 else 1 := by
    rw [← inRounds'.closings member, ← inRounds.closings member]
    exact closings_ask calm nodup reaches member
  have calls : ((entry.ask r).run w).2.journal.callsOf leaf = r.host.catalogue.rounds leaf later :=
    inRounds'.calls leaf member
  rw [calls, count, inRounds.calls leaf member]
  cases w.released with
  | true => exact (List.append_nil _).symm
  | false => exact Catalogue.rounds_succ ..

end Router

namespace Router

/-- If no release breaks off and each single backend occurs once, the single backends are released
round by round. -/
theorem releasesInRounds_after (r : Router) (calm : r.host.Calm)
    (nodup : r.host.backend.leaves.Nodup) (threshold : Option Level) (calls : List Call) :
    ∃ rounds, r.ReleasesInRounds (r.after calls (.initial threshold)) rounds := by
  obtain ⟨rounds, -, inRounds⟩ := leads_after (r.host.permits_goesRound calm nodup)
    (r.host.goesRound_release calm nodup) (fun _ _ => .still rfl rfl) calls 0 (.initial threshold)
  refine ⟨rounds, inRounds, fun leaf member => ?_, fun entry reaches leaf member =>
    callsOf_ask calm nodup inRounds reaches member⟩
  rw [← Journal.reclosed_callsOf, inRounds.calls leaf member, Catalogue.reclosed_rounds]

/-- Two backends as one. The first one fails at first, the second one never does. -/
def halfway : Router where
  registry := .ofHost
    { catalogue :=
        { operation := fun _ => .idle
          leaf := fun key => ⟨[], fun attempt => .finish
            (if key.value = 0 ∧ attempt = 1 then .error (.cause "busy") else .ok ())⟩ }
      sessionId := ⟨1⟩
      backend := .aggregate [.leaf ⟨0⟩, .leaf ⟨1⟩] }
  limit := defaultLimit

def releasedTwice : World := halfway.after [.ask .registry, .ask .registry] (.initial none)

theorem releasesInRounds_of_halfway :
    halfway.host.Calm ∧ halfway.host.backend.leaves.Nodup ∧
      halfway.ReleasesInRounds releasedTwice 2 := by
  have calm : halfway.host.Calm := fun leaf member attempt => ⟨_, rfl⟩
  have nodup : halfway.host.backend.leaves.Nodup := by decide
  obtain ⟨rounds, inRounds⟩ := releasesInRounds_after halfway calm nodup none
    [.ask .registry, .ask .registry]
  have member : (⟨0⟩ : LeafKey) ∈ halfway.host.backend.leaves := by decide
  have count : rounds = 2 := (inRounds.closings member).symm
  exact ⟨calm, nodup, count ▸ inRounds⟩

/-- After a release that failed for one backend only, the next one releases the other backend again
although its release has succeeded. -/
theorem reclosed_of_halfway :
    releasedTwice.journal.releases =
      [.releasing, .closing ⟨0⟩ 1, .closed ⟨0⟩ (.ok (.error (.cause "busy"))), .closing ⟨1⟩ 1,
        .closed ⟨1⟩ (.ok (.ok ())), .released (.ok (.error (.cause "busy"))),
        .answered (.error (.cause "busy")) false,
        .releasing, .closing ⟨0⟩ 2, .closed ⟨0⟩ (.ok (.ok ())), .closing ⟨1⟩ 2,
        .closed ⟨1⟩ (.ok (.ok ())), .released (.ok (.ok ())), .answered (.ok ()) true] ∧
      releasedTwice.journal.Reclosed ⟨1⟩ := by
  have calls : releasedTwice.journal.callsOf ⟨1⟩ = halfway.host.catalogue.rounds ⟨1⟩ 2 := rfl
  refine ⟨rfl, ?_⟩
  rw [← Journal.reclosed_callsOf, calls]
  exact Catalogue.reclosed_rounds.2 ⟨1, by decide, by decide, rfl⟩

end Router

end RpcRouting
