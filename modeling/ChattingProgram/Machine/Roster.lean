import Mathlib.Data.Set.Basic
import ChattingProgram.Machine.Pool

namespace ChattingProgram.Machine

/-! # Rosters

The members of a group are kept twice: in a register, and in a map that says
where the announcements to a member go.  A process that brings a member in or
out changes the one and then the other, and afterwards announces the register.
If no announcement is out of date when it is made, then all members are told the
register in the end.
-/

/-- Where the process of a member stands: on the way in, or on the way out. -/
inductive Leg where
  | arriving
  | joining
  | spreading
  | answering
  | staying
  | leaving
  | informing
  | gone
deriving Repr, DecidableEq

namespace Leg

def registered : Leg → Bool
  | .joining | .spreading | .answering | .staying => true
  | .arriving | .leaving | .informing | .gone => false

def mapped : Leg → Bool
  | .spreading | .answering | .staying | .leaving => true
  | .arriving | .joining | .informing | .gone => false

/-- The register is changed and not yet announced. -/
def owes : Leg → Bool
  | .joining | .spreading | .leaving | .informing => true
  | .arriving | .answering | .staying | .gone => false

end Leg

structure Errand (Id Session : Type) where
  id : Id
  session : Session
  leg : Leg
deriving Repr, DecidableEq

structure Roster (Id Session : Type) where
  registered : Set Id
  mapped : Id → Option Session
  /-- What was announced last to a member. -/
  shown : Id → Session → Set Id
  errands : List (Option (Errand Id Session))

namespace Roster

variable {Id Session : Type} {roster after : Roster Id Session}

def Busy (roster : Roster Id Session) (id : Id) : Prop := ∃ errand,
  some errand ∈ roster.errands ∧ errand.id = id

/-- An announcement is still to come for the members at a session. -/
def Pending (roster : Roster Id Session) (session : Session) : Prop :=
  ∃ errand, some errand ∈ roster.errands ∧
    (errand.leg.owes = true ∨ errand.leg = .answering ∧ errand.session = session)

structure Agreed (roster : Roster Id Session) : Prop where
  holds : ∀ {errand : Errand Id Session}, some errand ∈ roster.errands →
    (errand.id ∈ roster.registered ↔ errand.leg.registered = true) ∧
      roster.mapped errand.id = if errand.leg.mapped then some errand.session else none
  apart : ∀ {first second : Nat} {left right : Errand Id Session}, roster.errands[first]? =
    some (some left) →
    roster.errands[second]? = some (some right) → left.id = right.id → first = second
  idle : ∀ id, roster.Busy id ∨ (id ∈ roster.registered ↔ (roster.mapped id).isSome = true)
  told : ∀ {id : Id} {session : Session}, roster.mapped id = some session →
    roster.shown id session = roster.registered ∨ roster.Pending session

/-- With no process under way, all members have been told the register. -/
theorem Agreed.settled (agreed : roster.Agreed)
    (finished : ∀ errand, some errand ∉ roster.errands) :
    (∀ id, id ∈ roster.registered ↔ (roster.mapped id).isSome = true) ∧
      ∀ id session, roster.mapped id = some session → roster.shown id session = roster.registered :=
        by
  refine ⟨?_, ?_⟩
  · intro id
    rcases agreed.idle id with ⟨errand, member, _⟩ | same
    · exact absurd member (finished errand)
    · exact same
  · intro id session isMember
    rcases agreed.told isMember with told | ⟨errand, member, _⟩
    · exact told
    · exact absurd member (finished errand)

/-- A process takes a step, or ends; nobody but its member is touched. -/
structure Turns (index : Nat) (errand : Errand Id Session) (next : Option Leg)
    (before after : Roster Id Session) : Prop where
  found : before.errands[index]? = some (some errand)
  errands : after.errands = before.errands.set index
    (next.map fun leg => { errand with leg := leg })
  registered : ∀ other, other ≠ errand.id → (other ∈ after.registered ↔ other ∈ before.registered)
  mapped : ∀ other, other ≠ errand.id → after.mapped other = before.mapped other

/-- What a step leaves of its own member. -/
def Leaves (errand : Errand Id Session) (after : Roster Id Session) : Option Leg → Prop
  | some leg => (errand.id ∈ after.registered ↔ leg.registered = true) ∧
      after.mapped errand.id = if leg.mapped then some errand.session else none
  | none => errand.id ∈ after.registered ↔ (after.mapped errand.id).isSome = true

section Turns

variable {index : Nat} {errand : Errand Id Session} {next : Option Leg}

theorem Turns.present (turns : Turns index errand next roster after) (continues : next = some leg) :
    some { errand with leg := leg } ∈ after.errands := by
  rw [turns.errands, continues]
  exact List.mem_set (List.getElem?_eq_some_iff.mp turns.found).1 _

/-- The other processes go on. -/
theorem Turns.other (turns : Turns index errand next roster after) {other : Errand Id Session}
    (member : some other ∈ roster.errands) : other = errand ∨ some other ∈ after.errands := by
  obtain ⟨place, found⟩ := List.mem_iff_getElem?.mp member
  by_cases here : index = place
  · subst here
    rw [turns.found] at found
    exact .inl (Option.some.inj (Option.some.inj found)).symm
  · right
    refine List.mem_iff_getElem?.mpr ⟨place, ?_⟩
    rw [turns.errands, List.getElem?_set_ne here, found]

theorem Turns.errand_cases (turns : Turns index errand next roster after)
    {other : Errand Id Session} (found : after.errands[place]? = some (some other)) :
    (place = index ∧ ∃ leg, next = some leg ∧ other = { errand with leg := leg }) ∨
      (index ≠ place ∧ roster.errands[place]? = some (some other)) := by
  rw [turns.errands] at found
  rcases getElem?_set_cases found with ⟨here, moved⟩ | elsewhere
  · cases next with
    | none => contradiction
    | some leg => exact .inl ⟨here, leg, rfl, Option.some.inj moved⟩
  · exact .inr elsewhere

theorem Turns.id_ne (agreed : roster.Agreed) (turns : Turns index errand next roster after)
    {other : Errand Id Session} (elsewhere : index ≠ place)
    (found : roster.errands[place]? = some (some other)) : other.id ≠ errand.id := fun same =>
      elsewhere (agreed.apart turns.found found same.symm)

/-- A step keeps the agreement when it leaves its own member in order and has told
everybody, or still has to. -/
theorem Agreed.turns (agreed : roster.Agreed) (turns : Turns index errand next roster after)
    (own : Leaves errand after next)
    (told : ∀ {id : Id} {session : Session}, after.mapped id = some session →
      after.shown id session = after.registered ∨ after.Pending session) : after.Agreed where
  holds := by
    intro other member
    obtain ⟨place, found⟩ := List.mem_iff_getElem?.mp member
    rcases turns.errand_cases found with ⟨_, leg, rfl, rfl⟩ | ⟨elsewhere, still⟩
    · exact own
    · have different := turns.id_ne agreed elsewhere still
      obtain ⟨register, map⟩ := agreed.holds (List.mem_of_getElem? still)
      exact ⟨(turns.registered _ different).trans register, (turns.mapped _ different).trans map⟩
  apart := by
    intro first second left right foundLeft foundRight same
    rcases turns.errand_cases foundLeft with ⟨rfl, leg, _, rfl⟩ | ⟨leftElsewhere, stillLeft⟩ <;>
      rcases turns.errand_cases foundRight with ⟨rfl, other, _, rfl⟩ | ⟨rightElsewhere, stillRight⟩
    · rfl
    · exact absurd same.symm (turns.id_ne agreed rightElsewhere stillRight)
    · exact absurd same (turns.id_ne agreed leftElsewhere stillLeft)
    · exact agreed.apart stillLeft stillRight same
  idle := by
    intro id
    by_cases mine : id = errand.id
    · subst mine
      cases next with
      | none => exact .inr own
      | some leg => exact .inl ⟨_, turns.present rfl, rfl⟩
    · rcases agreed.idle id with ⟨other, member, rfl⟩ | same
      · left
        rcases turns.other member with rfl | still
        · contradiction
        · exact ⟨other, still, rfl⟩
      · right
        rw [turns.registered id mine, turns.mapped id mine]
        exact same
  told := told

theorem Turns.pending (turns : Turns index errand next roster after) (continues : next = some leg)
    (owes : leg.owes = true) (session : Session) : after.Pending session :=
  ⟨_, turns.present continues, .inl owes⟩

/-- What was pending by others is still pending. -/
theorem Turns.pending_other (turns : Turns index errand next roster after)
    (pending : roster.Pending session) (silent : errand.leg.owes = false)
    (elsewhere : errand.leg = .answering → errand.session ≠ session) : after.Pending session := by
  obtain ⟨other, member, owes⟩ := pending
  rcases turns.other member with rfl | still
  · rcases owes with owes | ⟨answers, same⟩
    · rw [silent] at owes
      contradiction
    · exact absurd same (elsewhere answers)
  · exact ⟨other, still, owes⟩

end Turns

inductive Move (before after : Roster Id Session) : Prop where
  | stutter : after = before → Move before after
  | begins {errand : Errand Id Session} : ¬ before.Busy errand.id →
      (errand.leg = .arriving ∧ errand.id ∉ before.registered ∨
        errand.leg = .staying ∧ before.mapped errand.id = some errand.session) →
      after = { before with errands := before.errands ++ [some errand] } → Move before after
  /-- One of the two records is changed. -/
  | changes {index : Nat} {errand : Errand Id Session} {next : Leg} :
      Turns index errand (some next) before after →
      Leaves errand after (some next) → next.owes = true → Move before after
  /-- The register is announced to all others. -/
  | spreads {index : Nat} {errand : Errand Id Session} :
      Turns index errand (some .answering) before after →
      errand.leg = .spreading → after.registered = before.registered →
      after.mapped = before.mapped →
      (∀ id session, before.mapped id = some session → session ≠ errand.session →
        after.shown id session = before.registered) → Move before after
  /-- The register is announced to the newcomer. -/
  | answers {index : Nat} {errand : Errand Id Session} : Turns index errand none before after →
      errand.leg = .answering → after.registered = before.registered →
      after.mapped = before.mapped →
      (∀ id, after.shown id errand.session = before.registered) →
      (∀ id session, session ≠ errand.session → after.shown id session = before.shown id session) →
      Move before after
  /-- The register is announced to all who stay, unless it is empty. -/
  | informs {index : Nat} {errand : Errand Id Session} :
      Turns index errand (some .gone) before after →
      errand.leg = .informing → after.registered = before.registered →
      after.mapped = before.mapped →
      (before.registered = ∅ ∨
        ∀ id session, before.mapped id = some session →
        after.shown id session = before.registered) → Move before after
  | ends {index : Nat} {errand : Errand Id Session} : Turns index errand none before after →
      (errand.leg = .arriving ∨ errand.leg = .gone) → after.registered = before.registered →
      after.mapped = before.mapped → after.shown = before.shown → Move before after

section Moves

variable {index : Nat} {errand : Errand Id Session}

theorem Agreed.begins (agreed : roster.Agreed) (idle : ¬ roster.Busy errand.id)
    (start : errand.leg = .arriving ∧ errand.id ∉ roster.registered ∨
      errand.leg = .staying ∧ roster.mapped errand.id = some errand.session) :
    Agreed { roster with errands := roster.errands ++ [some errand] } := by
  have agrees : errand.id ∈ roster.registered ↔ (roster.mapped errand.id).isSome = true :=
    (agreed.idle errand.id).resolve_left idle
  have own : (errand.id ∈ roster.registered ↔ errand.leg.registered = true) ∧
      roster.mapped errand.id = if errand.leg.mapped then some errand.session else none := by
    rcases start with ⟨leg, outside⟩ | ⟨leg, inside⟩
    · have unmapped : roster.mapped errand.id = none := by
        by_contra mapped
        exact outside (agrees.mpr (Option.isSome_iff_ne_none.mpr mapped))
      simp [leg, outside, unmapped, Leg.registered, Leg.mapped]
    · have registered := agrees.mpr (Option.isSome_of_eq_some inside)
      simp [leg, registered, inside, Leg.registered, Leg.mapped]
  have grows : ∀ {other}, some other ∈ roster.errands →
      some other ∈ roster.errands ++ [some errand] :=
    fun member => List.mem_append_left _ member
  refine ⟨?_, ?_, ?_, ?_⟩
  · intro other member
    rcases List.mem_append.mp member with member | new
    · exact agreed.holds member
    · cases List.mem_singleton.mp new
      exact own
  · intro first second left right foundLeft foundRight same
    rcases getElem?_concat_cases foundLeft with foundLeft | ⟨rfl, newLeft⟩ <;>
      rcases getElem?_concat_cases foundRight with foundRight | ⟨rfl, newRight⟩
    · exact agreed.apart foundLeft foundRight same
    · cases newRight
      exact absurd ⟨left, List.mem_of_getElem? foundLeft, same⟩ idle
    · cases newLeft
      exact absurd ⟨right, List.mem_of_getElem? foundRight, same.symm⟩ idle
    · rfl
  · intro id
    rcases agreed.idle id with ⟨other, member, same⟩ | same
    · exact .inl ⟨other, grows member, same⟩
    · exact .inr same
  · intro id session isMember
    rcases agreed.told isMember with told | ⟨other, member, owes⟩
    · exact .inl told
    · exact .inr ⟨other, grows member, owes⟩

/-- A member that is under way to be left out is not yet left out. -/
theorem Agreed.leaver (agreed : roster.Agreed) (empty : roster.registered = ∅) {id : Id}
    (isMember : roster.mapped id = some session) :
    ∃ errand, some errand ∈ roster.errands ∧ errand.id = id ∧ errand.leg = .leaving := by
  have outside : id ∉ roster.registered := by simp [empty]
  rcases agreed.idle id with ⟨errand, member, rfl⟩ | same
  · refine ⟨errand, member, rfl, ?_⟩
    obtain ⟨register, map⟩ := agreed.holds member
    rw [isMember] at map
    cases leg : errand.leg <;> simp_all [Leg.registered, Leg.mapped]
  · exact absurd (same.mpr (Option.isSome_of_eq_some isMember)) outside

theorem Agreed.own (agreed : roster.Agreed) (found : roster.errands[index]? = some (some errand))
    (registered : after.registered = roster.registered) (mapped : after.mapped = roster.mapped)
    {next : Leg} (sameRegister : next.registered = errand.leg.registered)
    (sameMap : next.mapped = errand.leg.mapped) : Leaves errand after (some next) := by
  obtain ⟨register, map⟩ := agreed.holds (List.mem_of_getElem? found)
  refine ⟨?_, ?_⟩
  · rw [registered, sameRegister]
    exact register
  · rw [mapped, sameMap]
    exact map

theorem Move.agreed (move : Move roster after) (agreed : roster.Agreed) : after.Agreed := by
  cases move with
  | stutter same => exact same ▸ agreed
  | begins idle start grown => exact grown ▸ agreed.begins idle start
  | changes turns own owes => exact agreed.turns turns own fun _ => .inr (turns.pending rfl owes _)
  | @spreads index errand turns leg registered mapped tells =>
      refine agreed.turns turns (agreed.own turns.found registered mapped (by rw [leg]; rfl)
        (by rw [leg]; rfl)) ?_
      intro id session isMember
      rw [mapped] at isMember
      by_cases mine : session = errand.session
      · exact .inr ⟨_, turns.present rfl, .inr ⟨rfl, mine.symm⟩⟩
      · left
        rw [registered]
        exact tells id session isMember mine
  | @answers index errand turns leg registered mapped tells keeps =>
      obtain ⟨register, map⟩ := agreed.holds (List.mem_of_getElem? turns.found)
      refine agreed.turns turns ?_ ?_
      · change errand.id ∈ after.registered ↔ (after.mapped errand.id).isSome = true
        rw [registered, mapped, register, map, leg]
        simp [Leg.registered, Leg.mapped]
      · intro id session isMember
        rw [mapped] at isMember
        by_cases mine : session = errand.session
        · left
          rw [registered, mine]
          exact tells id
        · rcases agreed.told isMember with told | pending
          · left
            rw [registered, keeps id session mine]
            exact told
          · right
            exact turns.pending_other pending (by rw [leg]; rfl) fun _ => Ne.symm mine
  | @informs index errand turns leg registered mapped tells =>
      refine agreed.turns turns (agreed.own turns.found registered mapped (by rw [leg]; rfl)
        (by rw [leg]; rfl)) ?_
      intro id session isMember
      rw [mapped] at isMember
      rcases tells with empty | tells
      · obtain ⟨other, member, _, leaving⟩ := agreed.leaver empty isMember
        right
        rcases turns.other member with rfl | still
        · rw [leg] at leaving
          contradiction
        · exact ⟨other, still, .inl (by rw [leaving]; rfl)⟩
      · left
        rw [registered]
        exact tells id session isMember
  | @ends index errand turns leg registered mapped shown =>
      obtain ⟨register, map⟩ := agreed.holds (List.mem_of_getElem? turns.found)
      have silent : errand.leg.owes = false ∧ errand.leg ≠ .answering := by
        rcases leg with leg | leg <;> simp [leg, Leg.owes]
      refine agreed.turns turns ?_ ?_
      · change errand.id ∈ after.registered ↔ (after.mapped errand.id).isSome = true
        rw [registered, mapped, register, map]
        rcases leg with leg | leg <;> simp [leg, Leg.registered, Leg.mapped]
      · intro id session isMember
        rw [mapped] at isMember
        rcases agreed.told isMember with told | pending
        · left
          rw [registered, shown]
          exact told
        · exact .inr (turns.pending_other pending silent.1 fun answers => absurd answers silent.2)

end Moves

end Roster

end ChattingProgram.Machine
