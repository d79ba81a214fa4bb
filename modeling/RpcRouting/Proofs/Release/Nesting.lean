import RpcRouting.Host
import RpcRouting.Proofs.Run
/-!
What happens while a backend is being released. The backend counts as released all the time, so
that every further request for its release that comes from within is answered at once; hence one
level of nesting is all there is, whatever the bound.
-/

set_option autoImplicit false
set_option relaxedAutoImplicit false

namespace RpcRouting

/-- How a release of a single backend ends if each request that it makes on the way is answered
with success while the backend counts as released. -/
def Closing.ended : Closing → Except Crash (Except Failure Unit)
  | finish outcome => .ok outcome
  | crash left => .error left
  | reenter resume => (resume (.ok ()) true).ended

def Closing.requests : Closing → Nat
  | finish _ => 0
  | crash _ => 0
  | reenter resume => (resume (.ok ()) true).requests + 1

/-- The events that a release leaves between its beginning and its end: single backends begin and
end, and whoever asks again is told that the backend was released. -/
def Event.isInner : Event → Bool
  | closing _ _ => true
  | closed _ _ => true
  | reentered _ outcome counted => counted && outcome.isOk
  | _ => false

def Event.closing? : Event → Option LeafKey
  | closing leaf _ => some leaf
  | _ => none

theorem Journal.closings_eq_count (events : Journal) (leaf : LeafKey) :
    events.closings leaf = (events.filterMap Event.closing?).count leaf := by
  rw [closings, List.count, List.countP_filterMap]
  refine List.countP_congr fun e _ => ?_
  cases e <;> simp [Event.isClosingOf, Event.closing?]

/-- A run answers at once, and changes nothing, while the backend counts as released. -/
def Run.Idle (again : Run (Except Failure Unit)) : Prop :=
  ∀ w, w.released = true → again.on w = (.ok (.ok ()), w)

theorem Host.releaseWithin_idle (host : Host) (depth : Nat) :
    (host.releaseWithin depth).Idle := by
  intro w counted
  cases depth with
  | zero =>
    rw [releaseWithin, Run.on_bind_of_ok Run.on_get, if_pos counted]
    exact Run.on_pure _
  | succ depth =>
    rw [releaseWithin, Run.on_bind_of_ok Run.on_get, if_pos counted]
    exact Run.on_pure _

def World.recordAll (w : World) (events : List Event) : World :=
  { w with journal := w.journal ++ events }

theorem Closing.run_on (leaf : LeafKey) {again : Run (Except Failure Unit)} (idle : again.Idle)
    (closing : Closing) (w : World) (counted : w.released = true) :
    (closing.run leaf again).on w = (closing.ended,
      w.recordAll (List.replicate closing.requests (.reentered leaf (.ok ()) true))) := by
  induction closing generalizing w with
  | finish outcome => simp [Closing.run, ended, requests, World.recordAll]
  | crash left => simp [Closing.run, ended, requests, World.recordAll]
  | reenter resume ih =>
    rw [Closing.run, Run.on_bind_of_ok (idle w counted), Run.on_bind_of_ok Run.on_get,
      Run.on_bind_of_ok (Run.on_note _), counted, ih (.ok ()) true (w.record _) counted, ended,
      requests]
    simp [World.recordAll, World.record, List.replicate_succ]

/-- A run over single backends that started in the world `w` while the backend counted as released,
and ended in the world `w'`. -/
structure Backend.Visits {α : Type} (catalogue : Catalogue) (leaves : List LeafKey)
    (success : α → Prop) (w : World) (ended : Except Crash α) (w' : World) : Prop where
  released : w'.released = true
  sessions : w'.sessions = w.sessions
  bindings : w'.bindings = w.bindings
  /-- Inner events were added. If the run came to its end, then each single backend was called once,
  in order, and if it succeeded, so did all of them. -/
  journal : ∃ inner, w'.journal = w.journal ++ inner ∧ (∀ e ∈ inner, e.isInner = true) ∧
    ∀ a, ended = .ok a → inner.filterMap Event.closing? = leaves ∧
      (success a → ∀ leaf ∈ leaves, .closed leaf (.ok (.ok ())) ∈ inner)
  crash : ∀ c, ended = .error c →
    ∃ leaf ∈ leaves, ∃ attempt, ((catalogue.leaf leaf).close attempt).ended = .error c

namespace Backend

variable {α β : Type} {catalogue : Catalogue} {again : Run (Except Failure Unit)}

theorem closeLeaf_on (idle : again.Idle) (leaf : LeafKey) (w : World)
    (counted : w.released = true) :
    (closeLeaf catalogue again leaf).on w =
      (((catalogue.leaf leaf).close (w.journal.closings leaf + 1)).ended,
        ((w.record (.closing leaf (w.journal.closings leaf + 1))).recordAll
          (List.replicate ((catalogue.leaf leaf).close (w.journal.closings leaf + 1)).requests
            (.reentered leaf (.ok ()) true))).record
          (.closed leaf ((catalogue.leaf leaf).close (w.journal.closings leaf + 1)).ended)) := by
  rw [closeLeaf, Run.on_bind_of_ok Run.on_get, Run.on_bind_of_ok (Run.on_note _), Run.on_noteEnd,
    Closing.run_on leaf idle _ _ (by exact counted)]

private theorem visits_closeLeaf (idle : again.Idle) (leaf : LeafKey) (w : World)
    (counted : w.released = true) :
    Visits catalogue [leaf] (· = .ok ()) w ((closeLeaf catalogue again leaf).on w).1
      ((closeLeaf catalogue again leaf).on w).2 := by
  let attempt := w.journal.closings leaf + 1
  let closing := (catalogue.leaf leaf).close attempt
  rw [closeLeaf_on idle leaf w counted]
  refine ⟨counted, rfl, rfl, ⟨.closing leaf attempt ::
    List.replicate closing.requests (.reentered leaf (.ok ()) true) ++
      [.closed leaf closing.ended], ?_, ?_, ?_⟩, ?_⟩
  · simp [World.recordAll, attempt, closing]
  · intro e he
    simp only [List.cons_append, List.mem_cons, List.mem_append, List.mem_replicate,
      List.not_mem_nil, or_false] at he
    rcases he with rfl | ⟨-, rfl⟩ | rfl <;> rfl
  · intro outcome hended
    have quiet : (List.replicate closing.requests (Event.reentered leaf (.ok ()) true)).filterMap
        Event.closing? = [] := by
      rw [List.filterMap_replicate_of_none rfl]
    refine ⟨by simp [Event.closing?, quiet], ?_⟩
    intro success key member
    rw [List.mem_singleton] at member
    subst member success
    have result : closing.ended = .ok (.ok ()) := hended
    simp [result]
  · intro c hended
    exact ⟨leaf, List.mem_singleton_self _, attempt, hended⟩

private theorem Visits.andThen {γ : Type} {first second : List LeafKey} {success₁ : α → Prop}
    {success₂ : β → Prop} {success : γ → Prop} {w w₁ w₂ : World} {a : α}
    {ended : Except Crash β} {g : β → γ} (before : Visits catalogue first success₁ w (.ok a) w₁)
    (after : Visits catalogue second success₂ w₁ ended w₂)
    (both : ∀ b, success (g b) → success₁ a ∧ success₂ b) :
    Visits catalogue (first ++ second) success w (ended.map g) w₂ := by
  obtain ⟨inner₁, grown₁, nested₁, all₁⟩ := before.journal
  obtain ⟨inner₂, grown₂, nested₂, all₂⟩ := after.journal
  refine ⟨after.released, after.sessions.trans before.sessions,
    after.bindings.trans before.bindings, ⟨inner₁ ++ inner₂, ?_, ?_, ?_⟩, ?_⟩
  · rw [grown₂, grown₁, List.append_assoc]
  · intro e he
    exact (List.mem_append.1 he).elim (nested₁ e) (nested₂ e)
  · intro c hended
    cases ended with
    | error crash => cases hended
    | ok b =>
      cases hended
      obtain ⟨called₁, closed₁⟩ := all₁ a rfl
      obtain ⟨called₂, closed₂⟩ := all₂ b rfl
      refine ⟨by rw [List.filterMap_append, called₁, called₂], ?_⟩
      intro succeeded leaf member
      obtain ⟨success₁, success₂⟩ := both b succeeded
      rcases List.mem_append.1 member with member | member
      · exact List.mem_append_left _ (closed₁ success₁ leaf member)
      · exact List.mem_append_right _ (closed₂ success₂ leaf member)
  · intro c hended
    cases ended with
    | ok b => cases hended
    | error c =>
      cases hended
      obtain ⟨leaf, member, attempt, crashed⟩ := after.crash c rfl
      exact ⟨leaf, List.mem_append_right _ member, attempt, crashed⟩

private theorem Visits.broken {first second : List LeafKey} {success₁ : α → Prop}
    {success : β → Prop} {w w' : World} {c : Crash}
    (before : Visits catalogue first success₁ w (.error c) w') :
    Visits catalogue (first ++ second) success w (.error c) w' := by
  obtain ⟨inner, grown, nested, -⟩ := before.journal
  refine ⟨before.released, before.sessions, before.bindings,
    ⟨inner, grown, nested, fun b hended => nomatch hended⟩, ?_⟩
  intro left hended
  cases hended
  obtain ⟨leaf, member, attempt, crashed⟩ := before.crash c rfl
  exact ⟨leaf, List.mem_append_left _ member, attempt, crashed⟩

private theorem Visits.map {leaves : List LeafKey} {success₁ : α → Prop} {success : β → Prop}
    {w w' : World} {ended : Except Crash α} {g : α → β}
    (before : Visits catalogue leaves success₁ w ended w')
    (weaker : ∀ a, success (g a) → success₁ a) :
    Visits catalogue leaves success w (ended.map g) w' := by
  obtain ⟨inner, grown, nested, all⟩ := before.journal
  refine ⟨before.released, before.sessions, before.bindings, ⟨inner, grown, nested, ?_⟩, ?_⟩
  · intro b hended
    cases ended with
    | error c => cases hended
    | ok a =>
      cases hended
      obtain ⟨called, closed⟩ := all a rfl
      exact ⟨called, fun succeeded => closed (weaker a succeeded)⟩
  · intro c hended
    cases ended with
    | ok a => cases hended
    | error left =>
      cases hended
      exact before.crash c rfl

private theorem Visits.failureOf {leaves : List LeafKey} {w w' : World}
    {outcome : Except Failure Unit}
    (before : Visits catalogue leaves (· = .ok ()) w (.ok outcome) w') :
    ∃ failed w'', (failureOf outcome).on w' = (.ok failed, w'') ∧
      Visits catalogue leaves (· = []) w (.ok failed) w'' := by
  obtain ⟨inner, grown, nested, all⟩ := before.journal
  cases outcome with
  | ok success =>
    refine ⟨[], w', rfl, before.released, before.sessions, before.bindings,
      ⟨inner, grown, nested, fun _ _ => ?_⟩, fun c hended => nomatch hended⟩
    obtain ⟨called, closed⟩ := all (.ok ()) rfl
    exact ⟨called, fun _ => closed rfl⟩
  | error failure =>
    refine ⟨[failure], w'.emit _, rfl, before.released, before.sessions, before.bindings,
      ⟨inner, grown, nested, ?_⟩, fun c hended => nomatch hended⟩
    intro failed hended
    cases hended
    exact ⟨(all (.error failure) rfl).1, fun empty => nomatch empty⟩

mutual

theorem visits_close (idle : again.Idle) : (backend : Backend) → (w : World) →
    w.released = true → Visits catalogue backend.leaves (· = .ok ()) w
      ((close catalogue again backend).on w).1 ((close catalogue again backend).on w).2
  | leaf key, w, counted => visits_closeLeaf idle key w counted
  | aggregate members, w, counted => by
    have all := visits_closeAll idle members w counted
    have combined : Visits catalogue (leavesOfAll members) (· = .ok ()) w
        (((closeAll catalogue again members).on w).1.map Failure.combine)
        ((closeAll catalogue again members).on w).2 :=
      all.map fun failures h => Failure.combine_eq_ok_iff.1 h
    rw [close, leaves]
    cases run : (closeAll catalogue again members).on w with
    | mk ended w' =>
      rw [run] at combined
      cases ended with
      | error c =>
        rw [Run.on_bind_of_error run]
        exact combined
      | ok failures =>
        rw [Run.on_bind_of_ok run]
        exact combined

theorem visits_closeAll (idle : again.Idle) : (members : List Backend) → (w : World) →
    w.released = true → Visits catalogue (leavesOfAll members) (· = []) w
      ((closeAll catalogue again members).on w).1 ((closeAll catalogue again members).on w).2
  | [], w, counted => ⟨counted, rfl, rfl, ⟨[], by simp [closeAll], by simp, by simp [leavesOfAll]⟩,
      fun c hended => by simp [closeAll] at hended⟩
  | member :: rest, w, counted => by
    have first := visits_close idle member w counted
    rw [closeAll, leavesOfAll]
    cases run : (close catalogue again member).on w with
    | mk ended w₁ =>
      rw [run] at first
      cases ended with
      | error c =>
        rw [Run.on_bind_of_error run]
        exact first.broken
      | ok outcome =>
        obtain ⟨failed, w₂, noted, visited⟩ := first.failureOf
        have others := visits_closeAll idle rest w₂ visited.released
        have joined : Visits catalogue (member.leaves ++ leavesOfAll rest) (· = []) w
            (((closeAll catalogue again rest).on w₂).1.map (failed ++ ·))
            ((closeAll catalogue again rest).on w₂).2 :=
          visited.andThen others fun more h => List.append_eq_nil_iff.1 h
        rw [Run.on_bind_of_ok run, Run.on_bind_of_ok noted]
        cases more : (closeAll catalogue again rest).on w₂ with
        | mk ended w₃ =>
          rw [more] at joined
          cases ended with
          | error c =>
            rw [Run.on_bind_of_error more]
            exact joined
          | ok failures =>
            rw [Run.on_bind_of_ok more]
            exact joined

end

variable {again' : Run (Except Failure Unit)}

mutual

/-- What is done when somebody asks again meanwhile makes no difference, as long as it is nothing
while the backend counts as released. -/
theorem close_congr (idle : again.Idle) (idle' : again'.Idle) : (backend : Backend) →
    (w : World) → w.released = true →
      (close catalogue again backend).on w = (close catalogue again' backend).on w
  | leaf key, w, counted => by
    rw [close, close, closeLeaf_on idle key w counted, closeLeaf_on idle' key w counted]
  | aggregate members, w, counted => by
    rw [close, close]
    exact Run.on_bind_congr (closeAll_congr idle idle' members w counted) fun _ _ _ => rfl

theorem closeAll_congr (idle : again.Idle) (idle' : again'.Idle) : (members : List Backend) →
    (w : World) → w.released = true →
      (closeAll catalogue again members).on w = (closeAll catalogue again' members).on w
  | [], _, _ => rfl
  | member :: rest, w, counted => by
    rw [closeAll, closeAll]
    refine Run.on_bind_congr (close_congr idle idle' member w counted) fun outcome w₁ run => ?_
    have visited : Visits catalogue member.leaves (· = .ok ()) w
        ((close catalogue again member).on w).1 ((close catalogue again member).on w).2 :=
      visits_close idle member w counted
    rw [run] at visited
    obtain ⟨failed, w₂, noted, counted₂⟩ := visited.failureOf
    rw [Run.on_bind_of_ok noted, Run.on_bind_of_ok noted]
    exact Run.on_bind_congr (closeAll_congr idle idle' rest w₂ counted₂.released) fun _ _ _ => rfl

end

end Backend

theorem Host.releaseWithin_succ (host : Host) (depth : Nat) (w : World) :
    (host.releaseWithin (depth + 1)).on w = (host.releaseWithin 1).on w := by
  cases counted : w.released with
  | true => rw [host.releaseWithin_idle _ w counted, host.releaseWithin_idle _ w counted]
  | false =>
    let start := (w.mark true).record .releasing
    have same : (host.backend.close host.catalogue (host.releaseWithin depth)).on start =
        (host.backend.close host.catalogue (host.releaseWithin 0)).on start :=
      Backend.close_congr (host.releaseWithin_idle depth) (host.releaseWithin_idle 0) host.backend
        start rfl
    have noted : (Run.noteEnd .released
        (host.backend.close host.catalogue (host.releaseWithin depth))).on start =
          (Run.noteEnd .released
            (host.backend.close host.catalogue (host.releaseWithin 0))).on start := by
      rw [Run.on_noteEnd, Run.on_noteEnd, same]
    have free : ¬ w.released = true := by simp [counted]
    rw [releaseWithin, Run.on_bind_of_ok Run.on_get, if_neg free,
      Run.on_bind_of_ok (Run.on_modify _), Run.on_bind_of_ok (Run.on_note _)]
    rw [releaseWithin, Run.on_bind_of_ok Run.on_get, if_neg free,
      Run.on_bind_of_ok (Run.on_modify _), Run.on_bind_of_ok (Run.on_note _)]
    exact Run.on_bind_congr noted fun _ _ _ => rfl

end RpcRouting
