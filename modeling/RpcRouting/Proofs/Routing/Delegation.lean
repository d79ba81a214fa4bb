import RpcRouting.Proofs.Routing.Calls
import Mathlib.Algebra.Group.Nat.Defs
import Mathlib.Data.List.Induction
/-!
Delegation along a chain of distinct operations. An operation is handled exactly as often as the
one above it passes a document on, each time within that call and with that document; below the
last one there is nothing. The law of one level is read off the calls of one operation, and holds
under any number of levels above.
-/

set_option autoImplicit false
set_option relaxedAutoImplicit false

namespace RpcRouting

namespace Journal

def handlings (journal : Journal) (operation : Operation) : Nat :=
  journal.countP (·.isHandlingOf operation)

def delegations (journal : Journal) (operation : Operation) : Nat :=
  journal.countP (·.isDelegatingOf operation)

/-- Whenever `lower` begins to handle a document, `upper` has just passed this document on; and
`upper` does nothing until it goes on with the end of this very call. -/
def Nests (journal : Journal) (upper lower : Operation) : Prop :=
  ∀ before request seen after, journal = before ++ .handling lower request seen :: after →
    ∃ earlier inner ended later, before = earlier ++ [.delegating upper request] ∧
      after = inner ++ .handled lower ended :: .goingOn upper ended :: later ∧
      ∀ e ∈ inner, e.isBracketOf lower = false ∧ e.operation? ≠ some upper

/-- Whenever the operation passes a document on, there is nobody, and nothing comes back. -/
def Exhausts (journal : Journal) (operation : Operation) : Prop :=
  ∀ before request after, journal = before ++ .delegating operation request :: after →
    ∃ later, after = .delegated operation (.ok none) :: later

def AllReplied (journal : Journal) : Prop :=
  ∀ operation ended, .handled operation ended ∈ journal → ∃ reply, ended = .ok (.ok reply)

end Journal

/-- The steps pass documents on exactly so many times, as long as nothing fails. -/
inductive Handling.PassesOn : Nat → Handling → Prop
  | replied {reply : Document} : PassesOn 0 (.finish (.ok reply))
  | failed {count : Nat} {error : OperationError} : PassesOn count (.finish (.error error))
  | crashed {count : Nat} {left : Crash} : PassesOn count (.crash left)
  | delegate {count : Nat} {request : Document} {resume : Outcome → Handling}
      (next : ∀ reply, PassesOn count (resume (.ok reply))) :
    PassesOn (count + 1) (.delegate request resume)
  | inspect {count : Nat} {resume : List Operation → Handling}
      (next : ∀ rest, PassesOn count (resume rest)) : PassesOn count (.inspect resume)
  | consult {count : Nat} {action : Option SessionAction} {resume : Option Session → Handling}
      (next : ∀ seen, PassesOn count (resume seen)) : PassesOn count (.consult action resume)

/-- The operation passes documents on exactly so many times for each request, as long as nothing
fails. Built-in operations never do. -/
def Operation.PassesOn (host : Host) (count : Nat) : Operation → Prop
  | builtin _ => count = 0
  | contributed key =>
    ∀ history request, ((host.catalogue.operation key).handle history request).PassesOn count

/-- What happened when some operations in a row were called: a request was given to the first one. -/
structure Journal.Delegates (host : Host) (operations : List Operation) (request : Document)
    (events : Journal) : Prop where
  begun : ∀ head rest, operations = head :: rest → events.handlings head = 1 ∧
    ∃ seen later, events = .handling head request seen :: later
  passed : ∀ above upper lower below, operations = above ++ upper :: lower :: below →
    events.handlings lower = events.delegations upper
  nested : ∀ above upper lower below, operations = above ++ upper :: lower :: below →
    events.Nests upper lower
  exhausted : ∀ above last, operations = above ++ [last] → events.Exhausts last
  hidden : ∀ above operation below, operations = above ++ operation :: below →
    events.delegations operation = 0 → ∀ lower ∈ below, events.handlings lower = 0
  even : ∀ count, (∀ o ∈ operations, o.PassesOn host count) → events.AllReplied →
    ∀ o ∈ operations, events.delegations o = count * events.handlings o
  multiplied : ∀ count, (∀ o ∈ operations, events.delegations o = count * events.handlings o) →
    ∀ above operation below, operations = above ++ operation :: below →
      events.handlings operation = count ^ above.length

variable {host : Host} {onward : Onward} {operation upper lower : Operation}
  {rest operations above lowest : List Operation} {request : Document} {events : Journal}
  {ended : Except Crash (Except OperationError Document)} {outcome : Except Crash Outcome}

/-! ### Counting -/

namespace Journal

variable {xs ys : Journal}

theorem handlings_append (xs ys : Journal) (o : Operation) :
    handlings (xs ++ ys) o = xs.handlings o + ys.handlings o := List.countP_append ..

theorem delegations_append (xs ys : Journal) (o : Operation) :
    delegations (xs ++ ys) o = xs.delegations o + ys.delegations o := List.countP_append ..

theorem handlings_eq_zero (other : ∀ e ∈ xs, e.isHandlingOf operation = false) :
    xs.handlings operation = 0 := by
  simpa [handlings, List.countP_eq_zero] using other

theorem delegations_eq_zero (other : ∀ e ∈ xs, e.isDelegatingOf operation = false) :
    xs.delegations operation = 0 := by
  simpa [delegations, List.countP_eq_zero] using other

theorem handlings_singleton {e : Event} (other : e.isHandlingOf operation = false) :
    handlings [e] operation = 0 :=
  handlings_eq_zero fun _ member => List.mem_singleton.1 member ▸ other

theorem delegations_singleton {e : Event} (other : e.isDelegatingOf operation = false) :
    delegations [e] operation = 0 :=
  delegations_eq_zero fun _ member => List.mem_singleton.1 member ▸ other

end Journal

namespace Event

variable {e : Event}

theorem MayBeOf.ne {o : Operation} (own : e.MayBeOf o) (distinct : o ≠ operation) :
    e.operation? ≠ some operation := by
  intro same
  rcases own with own | own <;> rw [own] at same
  · exact distinct (Option.some.inj same)
  · cases same

theorem isHandlingOf_of_isBracketOf (free : e.isBracketOf operation = false) :
    e.isHandlingOf operation = false := by
  cases e <;> first | rfl | exact free

theorem isHandlingOf_goingOn (o : Operation) : (goingOn o ended).isHandlingOf operation = false := by
  cases ended <;> rfl

theorem isDelegatingOf_goingOn (o : Operation) :
    (goingOn o ended).isDelegatingOf operation = false := by
  cases ended <;> rfl

end Event

theorem Operation.Called.handlings_eq_one (spares : onward.Spares operation)
    (called : operation.Called host rest onward request ended events) :
    events.handlings operation = 1 := by
  obtain ⟨seen, inner, rfl, free⟩ := called.exists_inner spares
  have begun : Journal.handlings [.handling operation request seen] operation = 1 := by
    simp [Journal.handlings, Event.isHandlingOf]
  have later : Journal.handlings (inner ++ [.handled operation ended]) operation = 0 := by
    refine Journal.handlings_eq_zero fun e member => ?_
    rcases List.mem_append.1 member with member | member
    · exact Event.isHandlingOf_of_isBracketOf (free e member)
    · exact List.mem_singleton.1 member ▸ rfl
  calc Journal.handlings ([.handling operation request seen] ++ (inner ++ _)) operation
      = 1 + 0 := by rw [Journal.handlings_append, begun, later]
    _ = 1 := rfl

/-! ### Nesting -/

namespace Journal.Nests

variable {xs ys : Journal}

theorem of_foreign (foreign : ∀ e ∈ xs, e.isHandlingOf lower = false) : xs.Nests upper lower := by
  rintro before request seen after rfl
  have own := foreign (.handling lower request seen) (by simp)
  simp [Event.isHandlingOf] at own

theorem append (first : xs.Nests upper lower) (second : ys.Nests upper lower) :
    Nests (xs ++ ys) upper lower := by
  intro before request seen after split
  rcases List.append_eq_append_iff.1 split with ⟨early, rfl, within⟩ | ⟨late, within, split⟩
  · obtain ⟨earlier, inner, ended, later, rfl, rest⟩ := second early request seen after within
    exact ⟨xs ++ earlier, inner, ended, later, by rw [List.append_assoc], rest⟩
  · cases late with
    | nil =>
      obtain ⟨earlier, inner, ended, later, impossible, -⟩ :=
        second [] request seen after split.symm
      simp at impossible
    | cons event late =>
      obtain ⟨rfl, rfl⟩ := List.cons.inj split
      obtain ⟨earlier, inner, ended, later, same, rfl, rest⟩ := first before request seen late within
      exact ⟨earlier, inner, ended, later ++ ys, same, by simp, rest⟩

theorem of_call {seen : Option Session} {inner : Journal}
    (free : ∀ e ∈ inner, e.isBracketOf lower = false ∧ e.operation? ≠ some upper) :
    Nests (.delegating upper request ::
      (.handling lower request seen :: (inner ++ [.handled lower ended])) ++
        [.goingOn upper ended]) upper lower := by
  have absent : ∀ e ∈ inner ++ [.handled lower ended, .goingOn upper ended],
      e.isHandlingOf lower = false := by
    intro e member
    rcases List.mem_append.1 member with member | member
    · exact Event.isHandlingOf_of_isBracketOf (free e member).1
    · simp only [List.mem_cons, List.not_mem_nil, or_false] at member
      rcases member with rfl | rfl
      · rfl
      · exact Event.isHandlingOf_goingOn upper
  intro before request' seen' after split
  match before, split with
  | [first], split =>
    simp only [List.cons_append, List.nil_append, List.cons.injEq, Event.handling.injEq] at split
    obtain ⟨rfl, ⟨-, rfl, rfl⟩, rfl⟩ := split
    exact ⟨[], inner, ended, [], rfl, by simp, free⟩
  | first :: second :: before, split =>
    simp only [List.cons_append, List.cons.injEq] at split
    have whole : inner ++ [Event.handled lower ended, .goingOn upper ended] =
        before ++ .handling lower request' seen' :: after := by simpa using split.2.2
    have other := absent (.handling lower request' seen') (by simp [whole])
    simp [Event.isHandlingOf] at other

end Journal.Nests

/-! ### One level -/

section Level

variable {next : Operation} {lower : Chain} (distinct : operation ≠ next)
  (below : Onward.Spares ((Chain.link next lower).Called host) operation)
  (beneath : Onward.Spares (lower.Called host) next)
  (called : operation.Called host rest ((Chain.link next lower).Called host) request ended events)

include distinct below beneath called

theorem Operation.Called.handlings_eq_delegations :
    events.handlings next = events.delegations operation := by
  have covers : operation.Covers ((Chain.link next lower).Called host)
      (fun events => events.handlings next = events.delegations operation) := by
    refine .of_calls (fun {xs ys} first second => ?_) (fun e own other => ?_)
      fun {request ended call} within => ?_
    · rw [Journal.handlings_append, Journal.delegations_append, first, second]
    · rw [Journal.handlings_singleton (Event.isHandlingOf_of_ne (own.ne distinct)),
        Journal.delegations_singleton other]
    · have once : call.handlings next = 1 := within.handlings_eq_one beneath
      have spared : call.delegations operation = 0 := Journal.delegations_eq_zero fun e member =>
        Event.isDelegatingOf_of_ne (below ⟨ended, within, rfl⟩ e member)
      have passed : Journal.delegations [.delegating operation request] operation = 1 := by
        simp [Journal.delegations, Event.isDelegatingOf]
      have split : Event.delegating operation request :: call ++ [.goingOn operation ended] =
          [.delegating operation request] ++ call ++ [.goingOn operation ended] := rfl
      rw [split, Journal.handlings_append, Journal.handlings_append, Journal.delegations_append,
        Journal.delegations_append, once, spared, passed, Journal.handlings_singleton rfl,
        Journal.handlings_singleton (Event.isHandlingOf_goingOn operation),
        Journal.delegations_singleton (Event.isDelegatingOf_goingOn operation)]
  exact covers.called called

theorem Operation.Called.nests : events.Nests operation next := by
  have covers : operation.Covers ((Chain.link next lower).Called host)
      (fun events => events.Nests operation next) := by
    refine .of_calls .append (fun e own other => .of_foreign fun e' same => ?_)
      fun {request ended call} within => ?_
    · rw [List.mem_singleton.1 same]
      exact Event.isHandlingOf_of_ne (own.ne distinct)
    · have spared := below ⟨ended, within, rfl⟩
      obtain ⟨seen, inner, rfl, free⟩ := within.exists_inner beneath
      exact .of_call fun e member => ⟨free e member, spared e (by simp [member])⟩
  exact covers.called called

end Level

/-! ### The terminus -/

namespace Journal.Exhausts

variable {xs ys : Journal}

theorem of_foreign (foreign : ∀ e ∈ xs, e.isDelegatingOf operation = false) :
    xs.Exhausts operation := by
  rintro before request after rfl
  have own := foreign (.delegating operation request) (by simp)
  simp [Event.isDelegatingOf] at own

theorem append (first : xs.Exhausts operation) (second : ys.Exhausts operation) :
    Exhausts (xs ++ ys) operation := by
  intro before request after split
  rcases List.append_eq_append_iff.1 split with ⟨early, rfl, within⟩ | ⟨late, within, split⟩
  · exact second early request after within
  · cases late with
    | nil => exact second [] request after split.symm
    | cons event late =>
      obtain ⟨rfl, rfl⟩ := List.cons.inj split
      obtain ⟨later, rfl⟩ := first before request late within
      exact ⟨later ++ ys, rfl⟩

end Journal.Exhausts

theorem Operation.Called.exhausts
    (called : operation.Called host rest (Chain.terminus.Called host) request ended events) :
    events.Exhausts operation := by
  have covers : operation.Covers (Chain.terminus.Called host)
      (fun events => events.Exhausts operation) := by
    refine ⟨.append, fun e own other => .of_foreign fun e' same => ?_, ?_, ?_⟩
    · exact List.mem_singleton.1 same ▸ other
    · rintro request outcome call ⟨same, rfl⟩
      cases same
      intro before request' after split
      match before, split with
      | [], split =>
        simp only [List.cons_append, List.nil_append, List.cons.injEq] at split
        exact ⟨[], split.2.symm⟩
      | [first], split => simp at split
      | first :: second :: before, split => simp at split
    · rintro request left call ⟨same, -⟩
      cases same
  exact covers.called called

/-! ### Operations that pass on equally often -/

namespace Journal.AllReplied

variable {xs ys : Journal}

theorem left (all : AllReplied (xs ++ ys)) : xs.AllReplied :=
  fun o ended member => all o ended (List.mem_append_left ys member)

theorem right (all : AllReplied (xs ++ ys)) : ys.AllReplied :=
  fun o ended member => all o ended (List.mem_append_right xs member)

theorem tail {event : Event} (all : AllReplied (event :: xs)) : xs.AllReplied :=
  fun o ended member => all o ended (List.mem_cons_of_mem event member)

end Journal.AllReplied

theorem Operation.Called.exists_reply (spares : onward.Spares operation)
    (called : operation.Called host rest onward request ended events) (all : events.AllReplied) :
    ∃ reply, ended = .ok (.ok reply) := by
  obtain ⟨seen, inner, rfl, -⟩ := called.exists_inner spares
  exact all operation ended (by simp)

def Onward.Answers (onward : Onward) : Prop :=
  ∀ {request outcome call}, onward request outcome call → call.AllReplied →
    ∃ reply, outcome = .ok (.ok reply)

theorem Chain.answers_of_nodup (nodup : operations.Nodup) :
    Onward.Answers ((Chain.ofList operations).Called host) := by
  intro request outcome call called all
  cases operations with
  | nil => exact ⟨none, called.1⟩
  | cons operation rest =>
    obtain ⟨ended, called, rfl⟩ := called
    obtain ⟨reply, rfl⟩ :=
      called.exists_reply (Chain.spares_of_notMem (List.nodup_cons.1 nodup).1) all
    exact ⟨some reply, rfl⟩

theorem Handling.Works.delegations_eq {handling : Handling} {count : Nat}
    (spares : onward.Spares operation) (answers : onward.Answers)
    (works : handling.Works operation rest onward ended events)
    (passesOn : handling.PassesOn count) (all : events.AllReplied) :
    events.delegations operation = count := by
  -- Whatever is called between two events of the operation spares it, and so does not count.
  induction works generalizing count with
  | finish =>
    obtain ⟨reply, replied⟩ := all operation _ (List.mem_singleton_self _)
    cases replied
    cases passesOn
    rfl
  | crash =>
    obtain ⟨reply, replied⟩ := all operation _ (List.mem_singleton_self _)
    cases replied
  | @answered request resume outcome ended call later called next ih =>
    have parts : Event.delegating operation request :: call ++ .delegated operation outcome :: later =
        [.delegating operation request] ++ call ++ [.delegated operation outcome] ++ later := by simp
    rw [parts] at all ⊢
    obtain ⟨reply, replied⟩ := answers called all.left.left.right
    cases replied
    cases passesOn with
    | @delegate count _ _ onwards =>
      have spared : call.delegations operation = 0 := Journal.delegations_eq_zero fun e member =>
        Event.isDelegatingOf_of_ne (spares called e member)
      have passed : Journal.delegations [.delegating operation request] operation = 1 := by
        simp [Journal.delegations, Event.isDelegatingOf]
      rw [Journal.delegations_append, Journal.delegations_append, Journal.delegations_append, passed,
        spared, Journal.delegations_singleton rfl, ih (onwards reply) all.right]
      omega
  | @broken request resume left call called =>
    obtain ⟨reply, replied⟩ := all operation (.error left) (by simp)
    cases replied
  | @inspect resume ended later next ih =>
    cases passesOn with
    | inspect onwards => exact ih (onwards rest) all.tail
  | @consult action resume seen ended later next ih =>
    cases passesOn with
    | consult onwards => exact ih (onwards seen) all.tail

theorem Operation.Called.delegations_eq {count : Nat} (spares : onward.Spares operation)
    (answers : onward.Answers)
    (called : operation.Called host rest onward request ended events)
    (passesOn : operation.PassesOn host count) (all : events.AllReplied) :
    events.delegations operation = count := by
  cases called with
  | @builtin b seen ended inner asides =>
    rw [show count = 0 from passesOn]
    refine Journal.delegations_eq_zero fun e member => ?_
    rcases List.mem_append.1 member with member | member
    · rcases List.mem_cons.1 member with rfl | member
      · rfl
      · obtain ⟨quiet, -⟩ := asides e member
        cases e <;> first | rfl | cases quiet
    · exact List.mem_singleton.1 member ▸ rfl
  | @contributed key seen history ended inner works =>
    have later := works.delegations_eq spares answers (passesOn _ _) all.tail
    simpa [Journal.delegations, Event.isDelegatingOf] using later

/-! ### All levels -/

section Levels

variable {chain : Chain} (nodup : chain.operations.Nodup)
  (called : chain.Called host request outcome events)

include nodup called

private theorem of_levels {M : Journal → Prop} {split : List Operation}
    (parts : chain.operations = above ++ split) (append : ∀ {xs ys}, M xs → M ys → M (xs ++ ys))
    (single : ∀ e : Event, (∀ o ∈ split, e.operation? ≠ some o) → M [e])
    (base : split.Nodup → ∀ {request outcome events},
      (Chain.ofList split).Called host request outcome events → M events) : M events := by
  rw [← chain.ofList_operations, parts] at called
  rw [parts] at nodup
  obtain ⟨-, distinct, apart⟩ := List.nodup_append.1 nodup
  refine called.under append (fun o member e own => single e fun o' member' => ?_) (base distinct)
  exact own.ne (apart o member o' member')

private theorem passed (parts : chain.operations = above ++ upper :: lower :: lowest) :
    events.handlings lower = events.delegations upper ∧ events.Nests upper lower := by
  refine of_levels (M := fun events =>
    events.handlings lower = events.delegations upper ∧ events.Nests upper lower) nodup called parts
    (fun {xs ys} first second => ?_) (fun e other => ?_)
    fun nodup {request outcome events} called => ?_
  · rw [Journal.handlings_append, Journal.delegations_append, first.1, second.1]
    exact ⟨rfl, first.2.append second.2⟩
  · have quiet : e.isHandlingOf lower = false := Event.isHandlingOf_of_ne (other lower (by simp))
    rw [Journal.handlings_singleton quiet,
      Journal.delegations_singleton (Event.isDelegatingOf_of_ne (other upper (by simp)))]
    exact ⟨rfl, .of_foreign fun e' same => List.mem_singleton.1 same ▸ quiet⟩
  · obtain ⟨ended, called, -⟩ := called
    obtain ⟨absent, nodup⟩ := List.nodup_cons.1 nodup
    have distinct : upper ≠ lower := fun same => absent (same ▸ List.mem_cons_self)
    have below : Onward.Spares ((Chain.ofList (lower :: lowest)).Called host) upper :=
      Chain.spares_of_notMem absent
    have beneath : Onward.Spares ((Chain.ofList lowest).Called host) lower :=
      Chain.spares_of_notMem (List.nodup_cons.1 nodup).1
    exact ⟨called.handlings_eq_delegations distinct below beneath,
      called.nests distinct below beneath⟩

private theorem exhausted (parts : chain.operations = above ++ [operation]) :
    events.Exhausts operation := by
  refine of_levels (M := fun events => events.Exhausts operation) nodup called parts .append
    (fun e other => .of_foreign fun e' same => ?_) fun nodup {request outcome events} called => ?_
  · rw [List.mem_singleton.1 same]
    exact Event.isDelegatingOf_of_ne (other operation (by simp))
  · obtain ⟨ended, called, -⟩ := called
    exact called.exhausts

private theorem idle (parts : chain.operations = above ++ operation :: lowest) :
    events.handlings operation = 0 → events.delegations operation = 0 := by
  refine of_levels (M := fun events =>
    events.handlings operation = 0 → events.delegations operation = 0) nodup called parts
    (fun {xs ys} first second => ?_) (fun e other _ => ?_)
    fun nodup {request outcome events} called => ?_
  · rw [Journal.handlings_append, Journal.delegations_append]
    omega
  · exact Journal.delegations_singleton (Event.isDelegatingOf_of_ne (other operation (by simp)))
  · obtain ⟨ended, called, -⟩ := called
    rw [called.handlings_eq_one (Chain.spares_of_notMem (List.nodup_cons.1 nodup).1)]
    exact fun none => nomatch none

private theorem even {count : Nat} (member : operation ∈ chain.operations)
    (passesOn : operation.PassesOn host count) (all : events.AllReplied) :
    events.delegations operation = count * events.handlings operation := by
  obtain ⟨above, lowest, parts⟩ := List.append_of_mem member
  refine of_levels (M := fun events => events.AllReplied →
    events.delegations operation = count * events.handlings operation) nodup called parts
    (fun {xs ys} first second all => ?_) (fun e other _ => ?_)
    (fun nodup {request outcome events} called all => ?_) all
  · rw [Journal.handlings_append, Journal.delegations_append, first all.left, second all.right,
      Nat.mul_add]
  · rw [Journal.delegations_singleton (Event.isDelegatingOf_of_ne (other operation (by simp))),
      Journal.handlings_singleton (Event.isHandlingOf_of_ne (other operation (by simp))), Nat.mul_zero]
  · obtain ⟨ended, called, -⟩ := called
    obtain ⟨absent, nodup⟩ := List.nodup_cons.1 nodup
    have spares : Onward.Spares ((Chain.ofList lowest).Called host) operation :=
      Chain.spares_of_notMem absent
    rw [called.handlings_eq_one spares, Nat.mul_one]
    exact called.delegations_eq spares (Chain.answers_of_nodup nodup) passesOn all

private theorem hidden (parts : chain.operations = above ++ operation :: lowest)
    (kept : events.delegations operation = 0) : ∀ o ∈ lowest, events.handlings o = 0 := by
  -- Down the chain: who is never called passes nothing on either.
  induction lowest generalizing above operation with
  | nil => exact fun o member => nomatch member
  | cons next lowest ih =>
    have uncalled : events.handlings next = 0 := (passed nodup called parts).1.trans kept
    have parts' : chain.operations = (above ++ [operation]) ++ next :: lowest := by simp [parts]
    intro o member
    rcases List.mem_cons.1 member with rfl | member
    · exact uncalled
    · exact ih parts' (idle nodup called parts' uncalled) o member

private theorem handlings_head (parts : chain.operations = operation :: lowest) :
    events.handlings operation = 1 ∧
      ∃ seen later, events = .handling operation request seen :: later := by
  rw [← chain.ofList_operations, parts] at called
  rw [parts] at nodup
  have spares : Onward.Spares ((Chain.ofList lowest).Called host) operation :=
    Chain.spares_of_notMem (List.nodup_cons.1 nodup).1
  obtain ⟨ended, called, -⟩ := called
  obtain ⟨seen, inner, begun, -⟩ := called.exists_inner spares
  exact ⟨called.handlings_eq_one spares, seen, _, begun⟩

private theorem handlings_eq_pow {count : Nat}
    (even : ∀ o ∈ chain.operations, events.delegations o = count * events.handlings o)
    (parts : chain.operations = above ++ operation :: lowest) :
    events.handlings operation = count ^ above.length := by
  -- On those above, the nearest one last: it is the one whose delegations are the calls here.
  induction above using List.reverseRecOn generalizing operation lowest with
  | nil => exact (handlings_head nodup called parts).1
  | append_singleton above upper ih =>
    have parts' : chain.operations = above ++ upper :: operation :: lowest := by simp [parts]
    calc events.handlings operation
        = events.delegations upper := (passed nodup called parts').1
      _ = count * events.handlings upper := even upper (by simp [parts'])
      _ = count * count ^ above.length := by rw [ih parts']
      _ = count ^ (above ++ [upper]).length := by
          rw [List.length_append, List.length_singleton, Nat.pow_succ, Nat.mul_comm]

end Levels

/-- Whatever distinct operations do when they are called one below the other, each one is called
just when the one above passes a document on. Below the last one nothing runs and nothing comes
back. -/
theorem Chain.delegates_execute (host : Host) (chain : Chain) (nodup : chain.operations.Nodup)
    (request : Document) (w : World) :
    (∃ events, ((chain.execute host request).on w).2.journal = w.journal ++ events ∧
      events.Delegates host chain.operations request) ∧
    (Chain.terminus.execute host request).on w = (.ok (.ok none), w) := by
  obtain ⟨events, journal, called⟩ := chain.emits_execute request w
  refine ⟨⟨events, journal, ?_⟩, rfl⟩
  exact {
    begun := fun head rest parts => handlings_head nodup called parts
    passed := fun above upper lower below parts => (passed nodup called parts).1
    nested := fun above upper lower below parts => (passed nodup called parts).2
    exhausted := fun above last parts => exhausted nodup called parts
    hidden := fun above operation below parts kept => hidden nodup called parts kept
    even := fun count passesOn all o member => even nodup called member (passesOn o member) all
    multiplied := fun count even above operation below parts =>
      handlings_eq_pow nodup called even parts }

/-- Operations that pass on another document first and the request after that, whatever comes
back. -/
def relayHost : Host where
  catalogue :=
    { operation := fun key => ⟨key.value, false, fun _ _ => none, fun _ _ _ => .ok .lowest,
        fun _ request => .delegate (.request "2" (.named "probe")) fun _ =>
          .delegate request fun _ => .finish (.ok request.okReply)⟩
      leaf := fun _ => ⟨[], fun _ => .finish (.ok ())⟩ }
  sessionId := ⟨1⟩
  backend := .leaf ⟨0⟩

def relays : Chain :=
  .ofList [.contributed ⟨"top"⟩, .contributed ⟨"middle"⟩, .contributed ⟨"bottom"⟩]

theorem Chain.delegates_execute_relays :
    relays.operations.Nodup ∧
      (∃ events, ((relays.execute relayHost (.request "1" (.named "get"))).on
          (.initial none)).2.journal = (World.initial none).journal ++ events ∧
        events.Delegates relayHost relays.operations (.request "1" (.named "get")) ∧
        events.handlings (.contributed ⟨"middle"⟩) = 2 ∧
        events.handlings (.contributed ⟨"bottom"⟩) = 4 ∧
        events.delegations (.contributed ⟨"bottom"⟩) = 8) ∧
      (Chain.terminus.execute relayHost (.request "1" (.named "get"))).on (.initial none) =
        (.ok (.ok none), .initial none) := by
  have nodup : relays.operations.Nodup := by decide
  obtain ⟨⟨events, journal, delegates⟩, silent⟩ :=
    Chain.delegates_execute relayHost relays nodup (.request "1" (.named "get")) (.initial none)
  have same : events = ((relays.execute relayHost (.request "1" (.named "get"))).on
      (.initial none)).2.journal := journal.symm
  exact ⟨nodup, ⟨events, journal, delegates, by rw [same]; rfl, by rw [same]; rfl,
    by rw [same]; rfl⟩, silent⟩

end RpcRouting
