import RpcRouting.Proofs.Routing.CallTree
/-!
Reading call trees. A property of journals that holds of the parts of an operation's call holds of
the whole call (`Operation.Covers`), and what holds of the calls of some operations holds under any
number of other operations above them, since these add events of their own only
(`Chain.Called.under`). Nothing reaches an operation unless all those above it have passed a
document on (`Chain.Called.passedOn`).
-/

set_option autoImplicit false
set_option relaxedAutoImplicit false

namespace RpcRouting

namespace Event

def isHandlingOf (operation : Operation) : Event → Bool
  | handling o _ _ => o = operation
  | _ => false

def isDelegatingOf (operation : Operation) : Event → Bool
  | delegating o _ => o = operation
  | _ => false

def isBracketOf (operation : Operation) : Event → Bool
  | handling o _ _ => o = operation
  | handled o _ => o = operation
  | _ => false

def goingOn (operation : Operation) : Except Crash (Except OperationError Document) → Event
  | .ok outcome => delegated operation (outcome.map some)
  | .error left => handled operation (.error left)

def MayBeOf (operation : Operation) (event : Event) : Prop :=
  event.operation? = some operation ∨ event.operation? = none

end Event

variable {host : Host} {onward : Onward} {operation : Operation}
  {rest operations above : List Operation} {request : Document} {events : Journal}
  {ended : Except Crash (Except OperationError Document)} {outcome : Except Crash Outcome}

theorem Chain.ofList_operations (chain : Chain) : ofList chain.operations = chain := by
  induction chain with
  | terminus => rfl
  | link operation rest ih => rw [Chain.operations, ofList, ih]

section Splits

variable {x y : Event} {xs ys before after : Journal}

theorem split_of_cons (split : x :: xs = before ++ y :: after) (other : x ≠ y) :
    ∃ before', before = x :: before' ∧ xs = before' ++ y :: after := by
  cases before with
  | nil => exact absurd (List.cons.inj split).1 other
  | cons first before =>
    obtain ⟨rfl, rest⟩ := List.cons.inj split
    exact ⟨before, rfl, rest⟩

theorem split_of_append (split : xs ++ ys = before ++ y :: after) :
    (∃ later, xs = before ++ y :: later ∧ after = later ++ ys) ∨
      ∃ earlier, before = xs ++ earlier ∧ ys = earlier ++ y :: after := by
  rcases List.append_eq_append_iff.1 split with ⟨earlier, within, beyond⟩ | ⟨later, within, beyond⟩
  · exact .inr ⟨earlier, within, beyond⟩
  · cases later with
    | nil => exact .inr ⟨[], by rw [within, List.append_nil, List.append_nil], beyond.symm⟩
    | cons event later =>
      obtain ⟨rfl, rest⟩ := List.cons.inj beyond
      exact .inl ⟨later, within, rest⟩

end Splits

/-- A property of journals that passes from the parts of an operation's call to the whole. -/
structure Operation.Covers (operation : Operation) (onward : Onward) (M : Journal → Prop) :
    Prop where
  append : ∀ {xs ys}, M xs → M ys → M (xs ++ ys)
  single : ∀ e : Event, e.MayBeOf operation → e.isDelegatingOf operation = false → M [e]
  answered : ∀ {request outcome call}, onward request (.ok outcome) call →
    M (.delegating operation request :: call ++ [.delegated operation outcome])
  broken : ∀ {request left call}, onward request (.error left) call →
    M (.delegating operation request :: call ++ [.handled operation (.error left)])

namespace Operation.Covers

variable {M : Journal → Prop}

theorem of_single (append : ∀ {xs ys}, M xs → M ys → M (xs ++ ys))
    (single : ∀ e : Event, e.MayBeOf operation → M [e])
    (called : ∀ {request outcome call}, onward request outcome call → M call) :
    operation.Covers onward M := by
  have around : ∀ first last call, Event.MayBeOf operation first → Event.MayBeOf operation last →
      M call → M (first :: call ++ [last]) := fun first last call begins ends within =>
    append (append (single first begins) within) (single last ends)
  exact ⟨append, fun e own _ => single e own,
    fun within => around _ _ _ (.inl rfl) (.inl rfl) (called within),
    fun within => around _ _ _ (.inl rfl) (.inl rfl) (called within)⟩

variable (covers : operation.Covers onward M)

include covers

theorem cons {event : Event} {later : Journal} (own : event.MayBeOf operation)
    (other : event.isDelegatingOf operation = false) (holds : M later) : M (event :: later) :=
  covers.append (covers.single event own other) holds

theorem works {handling : Handling} (works : handling.Works operation rest onward ended events) :
    M events := by
  induction works with
  | finish => exact covers.single _ (.inl rfl) rfl
  | crash => exact covers.single _ (.inl rfl) rfl
  | @answered request resume outcome ended call later called next ih =>
    have parts : M ((.delegating operation request :: call ++ [.delegated operation outcome]) ++
        later) := covers.append (covers.answered called) ih
    simpa using parts
  | broken called => exact covers.broken called
  | inspect next ih => exact covers.cons (.inl rfl) rfl ih
  | consult next ih => exact covers.cons (.inl rfl) rfl ih

theorem called (called : operation.Called host rest onward request ended events) : M events := by
  cases called with
  | contributed works => exact covers.cons (.inl rfl) rfl (covers.works works)
  | @builtin b seen ended inner asides =>
    have later : M (inner ++ [.handled (.builtin b) ended]) := by
      induction inner with
      | nil => exact covers.single _ (.inl rfl) rfl
      | cons e inner ih =>
        obtain ⟨quiet, own⟩ := asides e List.mem_cons_self
        have other : e.isDelegatingOf (.builtin b) = false := by
          cases e <;> first | rfl | cases quiet
        exact covers.cons own other (ih fun e member => asides e (List.mem_cons_of_mem _ member))
    exact covers.cons (.inl rfl) rfl later

end Operation.Covers

theorem Chain.Called.under {M : Journal → Prop} (append : ∀ {xs ys}, M xs → M ys → M (xs ++ ys))
    (single : ∀ o ∈ above, ∀ e : Event, e.MayBeOf o → M [e])
    (base : ∀ {request outcome events},
      (Chain.ofList operations).Called host request outcome events → M events)
    (called : (Chain.ofList (above ++ operations)).Called host request outcome events) :
    M events := by
  induction above generalizing request outcome events with
  | nil => exact base called
  | cons top above ih =>
    obtain ⟨ended, called, -⟩ := called
    have covers : top.Covers ((Chain.ofList (above ++ operations)).Called host) M :=
      .of_single append (single top List.mem_cons_self) fun within =>
        ih (fun o member => single o (List.mem_cons_of_mem _ member)) within
    exact covers.called called

theorem Chain.Called.mem_of_operation?
    (called : (Chain.ofList operations).Called host request outcome events) :
    ∀ e ∈ events, ∀ o, e.operation? = some o → o ∈ operations := by
  have called' : (Chain.ofList (operations ++ [])).Called host request outcome events := by
    rwa [List.append_nil]
  refine under (M := fun events => ∀ e ∈ events, ∀ o, e.operation? = some o → o ∈ operations)
    ?_ ?_ ?_ called'
  · intro xs ys first second e member
    exact (List.mem_append.1 member).elim (first e) (second e)
  · intro o member e about e' same o' own
    rw [List.mem_singleton.1 same] at own
    rcases about with about | about <;> rw [about] at own
    · exact Option.some.inj own ▸ member
    · cases own
  · rintro request outcome events ⟨-, rfl⟩ e member
    cases member

def Onward.Spares (onward : Onward) (operation : Operation) : Prop :=
  ∀ {request outcome call}, onward request outcome call → ∀ e ∈ call, e.operation? ≠ some operation

theorem Chain.spares_of_notMem (absent : operation ∉ operations) :
    Onward.Spares ((Chain.ofList operations).Called host) operation :=
  fun called e member own => absent (called.mem_of_operation? e member operation own)

section Brackets

variable {e : Event}

theorem Event.isHandlingOf_of_ne (other : e.operation? ≠ some operation) :
    e.isHandlingOf operation = false := by
  cases e <;> simp_all [isHandlingOf, operation?]

theorem Event.isDelegatingOf_of_ne (other : e.operation? ≠ some operation) :
    e.isDelegatingOf operation = false := by
  cases e <;> simp_all [isDelegatingOf, operation?]

theorem Event.isBracketOf_of_ne (other : e.operation? ≠ some operation) :
    e.isBracketOf operation = false := by
  cases e <;> simp_all [isBracketOf, operation?]

theorem Event.isBracketOf_of_isAsideOf {o : Operation} (aside : e.IsAsideOf o) :
    e.isBracketOf operation = false := by
  obtain ⟨quiet, -⟩ := aside
  cases e <;> first | rfl | cases quiet

end Brackets

private theorem Handling.Works.exists_inner {handling : Handling}
    (spares : onward.Spares operation)
    (works : handling.Works operation rest onward ended events) :
    ∃ inner, events = inner ++ [.handled operation ended] ∧
      ∀ e ∈ inner, e.isBracketOf operation = false := by
  have around : ∀ {request outcome call}, onward request outcome call →
      ∀ e ∈ Event.delegating operation request :: call, e.isBracketOf operation = false := by
    intro request outcome call called e member
    rcases List.mem_cons.1 member with rfl | member
    · rfl
    · exact Event.isBracketOf_of_ne (spares called e member)
  have aside : ∀ {event : Event} {inner : Journal}, event.isBracketOf operation = false →
      (∀ e ∈ inner, e.isBracketOf operation = false) →
      ∀ e ∈ event :: inner, e.isBracketOf operation = false := by
    intro event inner first others e member
    rcases List.mem_cons.1 member with rfl | member
    · exact first
    · exact others e member
  induction works with
  | finish => exact ⟨[], rfl, by simp⟩
  | crash => exact ⟨[], rfl, by simp⟩
  | @answered request resume outcome ended call later called next ih =>
    obtain ⟨inner, rfl, free⟩ := ih
    refine ⟨.delegating operation request :: call ++ .delegated operation outcome :: inner, by simp,
      fun e member => ?_⟩
    rcases List.mem_append.1 member with member | member
    · exact around called e member
    · exact aside rfl free e member
  | @broken request resume left call called =>
    exact ⟨.delegating operation request :: call, rfl, around called⟩
  | inspect next ih =>
    obtain ⟨inner, rfl, free⟩ := ih
    exact ⟨_ :: inner, rfl, aside rfl free⟩
  | consult next ih =>
    obtain ⟨inner, rfl, free⟩ := ih
    exact ⟨_ :: inner, rfl, aside rfl free⟩

theorem Operation.Called.exists_inner (spares : onward.Spares operation)
    (called : operation.Called host rest onward request ended events) :
    ∃ seen inner,
      events = .handling operation request seen :: (inner ++ [.handled operation ended]) ∧
      ∀ e ∈ inner, e.isBracketOf operation = false := by
  cases called with
  | @builtin b seen ended inner asides =>
    exact ⟨seen, inner, rfl, fun e member => Event.isBracketOf_of_isAsideOf (asides e member)⟩
  | @contributed key seen history ended inner works =>
    obtain ⟨inner, rfl, free⟩ := works.exists_inner spares
    exact ⟨seen, inner, rfl, free⟩

theorem Operation.Covers.of_calls {M : Journal → Prop} {next : Operation} {lower : Chain}
    (append : ∀ {xs ys}, M xs → M ys → M (xs ++ ys))
    (single : ∀ e : Event, e.MayBeOf operation → e.isDelegatingOf operation = false → M [e])
    (call : ∀ {request ended events},
      next.Called host lower.operations (lower.Called host) request ended events →
      M (.delegating operation request :: events ++ [.goingOn operation ended])) :
    operation.Covers ((Chain.link next lower).Called host) M := by
  refine ⟨append, single, fun ⟨ended, within, same⟩ => ?_, fun ⟨ended, within, same⟩ => ?_⟩
  · cases ended with
    | error left => cases same
    | ok outcome =>
      cases same
      exact call within
  · cases ended with
    | error left =>
      cases same
      exact call within
    | ok outcome => cases same

def Journal.PassedOn (operation : Operation) (events : Journal) : Prop :=
  (∃ document seen, .handling operation document seen ∈ events) ∧
    ∃ document, .delegating operation document ∈ events

theorem Journal.PassedOn.mono {earlier : Journal} (within : earlier ⊆ events)
    (passed : earlier.PassedOn operation) : events.PassedOn operation := by
  obtain ⟨⟨given, seen, handling⟩, document, delegating⟩ := passed
  exact ⟨⟨given, seen, within handling⟩, document, within delegating⟩

private theorem Operation.Called.exists_handling
    (called : operation.Called host rest onward request ended events) :
    ∃ seen later, events = .handling operation request seen :: later := by
  cases called with
  | builtin asides => exact ⟨_, _, rfl⟩
  | contributed works => exact ⟨_, _, rfl⟩

/-- Whenever an operation is given a document, one above it has delegated before, and each of those
in between has passed a document on. -/
private def Journal.Behind (top : Operation) (between : List Operation) (operation : Operation)
    (events : Journal) : Prop :=
  ∀ {before after : Journal} {document seen},
    events = before ++ .handling operation document seen :: after →
    (∃ document, .delegating top document ∈ before) ∧ ∀ o ∈ between, before.PassedOn o

section Behind

variable {top : Operation} {between below : List Operation}

private theorem Journal.Behind.append {xs ys : Journal} (first : xs.Behind top between operation)
    (second : ys.Behind top between operation) :
    Journal.Behind top between operation (xs ++ ys) := by
  intro before after document seen split
  rcases split_of_append split with ⟨later, within, -⟩ | ⟨earlier, rfl, beyond⟩
  · exact first within
  · obtain ⟨⟨document, delegating⟩, others⟩ := second beyond
    exact ⟨⟨document, List.mem_append_right _ delegating⟩,
      fun o member => (others o member).mono (List.subset_append_right _ _)⟩

private theorem Chain.Called.behind (distinct : operation ≠ top)
    (passed : ∀ {request outcome events},
      (Chain.ofList (between ++ below)).Called host request outcome events →
      ∀ {before after : Journal} {document seen},
        events = before ++ .handling operation document seen :: after →
        ∀ o ∈ between, before.PassedOn o) :
    top.Covers ((Chain.ofList (between ++ below)).Called host)
      (Journal.Behind top between operation) := by
  have around : ∀ {request outcome call last}, (∀ d seen, last ≠ .handling operation d seen) →
      (Chain.ofList (between ++ below)).Called host request outcome call →
      Journal.Behind top between operation (.delegating top request :: call ++ [last]) := by
    intro request outcome call last other called before after document seen split
    rw [List.cons_append] at split
    obtain ⟨before, rfl, inner⟩ := split_of_cons split nofun
    rcases split_of_append inner with ⟨later, within, -⟩ | ⟨earlier, -, beyond⟩
    · refine ⟨⟨request, List.mem_cons_self⟩, fun o member => ?_⟩
      exact (passed called within o member).mono (List.subset_cons_self _ _)
    · have member : .handling operation document seen ∈ [last] := by simp [beyond]
      exact absurd (List.mem_singleton.1 member).symm (other document seen)
  refine ⟨Journal.Behind.append, ?_, fun called => around (by rintro _ _ ⟨⟩) called,
    fun called => around (by rintro _ _ ⟨⟩) called⟩
  intro e own _ before after document seen split
  have member : .handling operation document seen ∈ [e] := by simp [split]
  rw [← List.mem_singleton.1 member] at own
  rcases own with own | own
  · exact absurd (Option.some.inj own) distinct
  · cases own

/-- An operation is given a document only after all operations above it have passed one on. -/
theorem Chain.Called.passedOn (absent : operation ∉ above)
    (called : (Chain.ofList (above ++ below)).Called host request outcome events)
    {before after : Journal} {document : Document} {seen : Option Session}
    (split : events = before ++ .handling operation document seen :: after) :
    ∀ top ∈ above, before.PassedOn top := by
  -- A call further down lies within the call of the top, behind what the top passed on.
  induction above generalizing request outcome events before document seen after with
  | nil => simp
  | cons top above ih =>
    obtain ⟨distinct, absent⟩ : operation ≠ top ∧ operation ∉ above := by simpa using absent
    obtain ⟨ended, called, -⟩ := called
    have covers := behind distinct fun called => ih absent called
    obtain ⟨delegating, others⟩ := covers.called called split
    obtain ⟨first, later, begun⟩ := called.exists_handling
    have other : Event.handling top request first ≠ .handling operation document seen :=
      fun same => distinct (Event.handling.inj same).1.symm
    obtain ⟨earlier, rfl, -⟩ := split_of_cons (begun.symm.trans split) other
    exact List.forall_mem_cons.2 ⟨⟨⟨request, first, List.mem_cons_self⟩, delegating⟩, others⟩

end Behind

end RpcRouting
