import RpcRouting.Proofs.Release.Course
/-!
When the release flag tells the truth. The flag is set before the backend is called and taken back
only after a failure that was reported; hence it says that the backend was released also after a
release that broke off. As long as none has broken off, the flag and every confirmation can be
believed.
-/

set_option autoImplicit false
set_option relaxedAutoImplicit false

namespace RpcRouting

/-- The flag says that the backend was released exactly if it was; nobody was told so before, and
no session was ended; and as long as the backend was not released, every entry leads to it. -/
structure Router.Truthful (r : Router) (w : World) : Prop where
  flag : w.released = true ↔ w.journal.Succeeded
  closed : w.journal.Succeeded →
    ∀ leaf ∈ r.host.backend.leaves, .closed leaf (.ok (.ok ())) ∈ w.journal
  told : ∀ (early : Journal) event, early ++ [event] <+: w.journal → event.tellsRelease = true →
    early.Succeeded
  next : ¬ w.journal.Succeeded → ∀ entry : Entry, entry.Reaches r w →
    ∃ events, ((entry.ask r).run w).2.journal.releases =
      w.journal.releases ++ .releasing :: events

theorem Journal.BrokeOff.of_prefix {early journal : Journal} (broken : early.BrokeOff)
    (h : early <+: journal) : journal.BrokeOff := by
  obtain ⟨left, member⟩ := broken
  exact ⟨left, h.subset member⟩

theorem Host.Round.exists_releasing {host : Host} {counts : Bool}
    {ended : Except Crash (Except Failure Unit)} {events : Journal}
    (round : host.Round false ended events counts) : ∃ rest, events = .releasing :: rest := by
  cases round with
  | settled nested called all => exact ⟨_, rfl⟩
  | broken nested origin => exact ⟨_, rfl⟩

namespace Router

/-- The flag is set exactly after a release that succeeded or broke off. It tells the truth, and so
does whoever relies on it, exactly as long as no release has broken off. -/
theorem truthful_iff_not_brokeOff (r : Router) (threshold : Option Level) (calls : List Call) :
    ((r.after calls (.initial threshold)).released = true ↔
      (r.after calls (.initial threshold)).journal.Succeeded ∨
        (r.after calls (.initial threshold)).journal.BrokeOff) ∧
    (r.Truthful (r.after calls (.initial threshold)) ↔
      ¬ (r.after calls (.initial threshold)).journal.BrokeOff) := by
  have consistent := r.consistent_after threshold calls
  generalize r.after calls (.initial threshold) = w at consistent
  have counted := consistent.order.counted_iff
  refine ⟨counted, fun truthful broken => ?_, fun whole => ?_⟩
  · have released := counted.2 (.inr broken)
    exact consistent.order.not_succeeded_of_brokeOff broken (truthful.flag.1 released)
  · have flag : w.released = true ↔ w.journal.Succeeded := by
      rw [counted]
      exact or_iff_left whole
    refine ⟨flag, consistent.closed, fun early event h tells => ?_, fun open' entry reaches => ?_⟩
    · obtain ⟨phase, past, -⟩ := consistent.order
      rcases past.settled_of_prefix h tells with succeeded | broken
      · exact succeeded
      · exact absurd (broken.of_prefix ((List.prefix_append _ _).trans h)) whole
    · have free : w.released = false := by
        cases released : w.released with
        | false => rfl
        | true => exact absurd (flag.1 released) open'
      obtain ⟨ended, events, round, -, journal⟩ := Entry.ask_of_reaches reaches
      rw [free] at round
      obtain ⟨rest, rfl⟩ := round.exists_releasing
      exact ⟨rest, journal⟩

/-- A backend whose first release breaks off and whose next one would succeed. -/
def brittleHost : Host where
  catalogue :=
    { operation := fun _ => .idle
      leaf := fun _ => ⟨[], fun attempt =>
        if attempt = 1 then .crash (.saying "boom") else .finish (.ok ())⟩ }
  sessionId := ⟨1⟩
  backend := .leaf ⟨0⟩

def endRequest : Document := .request "1" (.within "close-session" baseNamespace)

def brittle : Router := ⟨.ofHost brittleHost, defaultLimit⟩

def brokenOff : World :=
  brittle.after [.begin ⟨1⟩, .ask (.routed endRequest ⟨0, ⟨1⟩⟩)] (.initial none)

/-- After a release that broke off the backend counts as released although it never was. The next
release is confirmed and does not reach it. -/
theorem released_of_brokeOff :
    brokenOff.released = true ∧ ¬ brokenOff.journal.Succeeded ∧
      ((Entry.router.ask brittle).run brokenOff).1 = .closed (.ok (.ok ())) ∧
      ((Entry.router.ask brittle).run brokenOff).2.journal.releases =
        brokenOff.journal.releases ++ [.answered (.ok ()) true] ∧
      ¬ brittle.Truthful brokenOff := by
  have released : brokenOff.released = true := rfl
  have releases : brokenOff.journal.releases = [.releasing, .closing ⟨0⟩ 1,
      .closed ⟨0⟩ (.error (.saying "boom")), .released (.error (.saying "boom"))] := rfl
  have failed : ¬ brokenOff.journal.Succeeded := by
    intro succeeded
    have member : .released (.ok (.ok ())) ∈ brokenOff.journal.releases :=
      List.mem_filter.2 ⟨succeeded, rfl⟩
    simp [releases] at member
  have reaches : Entry.router.Reaches brittle brokenOff := trivial
  obtain ⟨ended, events, round, told, journal⟩ := Entry.ask_of_reaches reaches
  rw [released] at round
  have lies : ¬ brittle.Truthful brokenOff := fun truthful => failed (truthful.flag.1 released)
  cases round with
  | idle => exact ⟨released, failed, told, journal, lies⟩

end Router

end RpcRouting
