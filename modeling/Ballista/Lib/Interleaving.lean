import Mathlib.Logic.Relation

/-! # Processes interleaved over a shared state

A configuration holds a shared state and the local state of each process, by
index. A process takes an atomic step when its step function is defined on the
shared state and its own state; any process may take the next step, so the
runs of a configuration are all the interleavings of its processes' steps. A
lock, a pending request or a program counter is part of the local or the
shared state, and a process waiting on it is one whose step is undefined.

`Config.schedule` lets the processes move in a given order, which computes one
run; `Reaches.exists_of_schedule_any` makes what holds at its end hold of a
reached configuration, and `Reaches.invariant` lifts an invariant of every step
to every run.
-/

namespace Interleaving

/-- The shared state and the local state of each process. -/
structure Config (Shared Local : Type) where
  shared : Shared
  procs : List Local

variable {Shared Local : Type} (step : Shared → Local → Option (Shared × Local))

/-- One atomic step of one process. -/
inductive Step : Config Shared Local → Config Shared Local → Prop
  | move (config : Config Shared Local) (index : Nat) (proc : Local) (shared : Shared)
      (moved : Local) (found : config.procs[index]? = some proc)
      (stepped : step config.shared proc = some (shared, moved)) :
      Step config { shared := shared, procs := config.procs.set index moved }

/-- After a step of the process at an index, a process is the moved one, at that
index, or another one, unchanged. -/
theorem getElem?_set_cases {procs : List Local} {index position : Nat} {moved proc : Local}
    (found : (procs.set index moved)[position]? = some proc) :
    (position = index ∧ proc = moved) ∨ (position ≠ index ∧ procs[position]? = some proc) := by
  rw [List.getElem?_set] at found
  by_cases same : index = position
  · subst position
    rw [if_pos rfl] at found
    split at found
    · exact .inl ⟨rfl, (Option.some.inj found).symm⟩
    · cases found
  · rw [if_neg same] at found
    exact .inr ⟨Ne.symm same, found⟩

theorem getElem?_set_moved {procs : List Local} {index : Nat} {proc : Local} (moved : Local)
    (found : procs[index]? = some proc) : (procs.set index moved)[index]? = some moved :=
  List.getElem?_set_self (List.getElem?_eq_some_iff.mp found).1

/-- Some process has a property after a step exactly when the moved one has it
or a process at another index had it. -/
theorem exists_getElem?_set_iff {procs : List Local} {index : Nat} {proc : Local} (moved : Local)
    (found : procs[index]? = some proc) (P : Local → Prop) :
    (∃ (position : Nat) (other : Local), (procs.set index moved)[position]? = some other ∧ P other) ↔
      P moved ∨ ∃ (position : Nat) (other : Local),
        position ≠ index ∧ procs[position]? = some other ∧ P other := by
  constructor
  · rintro ⟨position, other, stands, holds⟩
    rcases getElem?_set_cases stands with ⟨-, rfl⟩ | ⟨apart, before⟩
    · exact .inl holds
    · exact .inr ⟨position, other, apart, before, holds⟩
  · rintro (holds | ⟨position, other, apart, before, holds⟩)
    · exact ⟨index, moved, getElem?_set_moved moved found, holds⟩
    · refine ⟨position, other, ?_, holds⟩
      rw [List.getElem?_set_ne (Ne.symm apart)]
      exact before

/-- Some process has a property exactly when the one at an index has it or a
process at another index has it. -/
theorem exists_getElem?_iff {procs : List Local} {index : Nat} {proc : Local}
    (found : procs[index]? = some proc) (P : Local → Prop) :
    (∃ (position : Nat) (other : Local), procs[position]? = some other ∧ P other) ↔
      P proc ∨ ∃ (position : Nat) (other : Local),
        position ≠ index ∧ procs[position]? = some other ∧ P other := by
  obtain ⟨inBounds, rfl⟩ := List.getElem?_eq_some_iff.mp found
  rw [← exists_getElem?_set_iff procs[index] found P, List.set_getElem_self]

/-- The configurations a configuration reaches. -/
abbrev Reaches : Config Shared Local → Config Shared Local → Prop :=
  Relation.ReflTransGen (Step step)

namespace Config

/-- Let the process at an index take a step, when it can. -/
def move (config : Config Shared Local) (index : Nat) : Option (Config Shared Local) :=
  match config.procs[index]? with
  | none => none
  | some proc =>
    (step config.shared proc).map fun next =>
      { shared := next.1, procs := config.procs.set index next.2 }

/-- Let the processes take steps in the order of their indices in a schedule. -/
def schedule (config : Config Shared Local) : List Nat → Option (Config Shared Local)
  | [] => some config
  | index :: rest => (config.move step index).bind fun next => next.schedule rest

end Config

variable {step}

theorem Step.of_move {config next : Config Shared Local} {index : Nat}
    (moved : config.move step index = some next) : Step step config next := by
  unfold Config.move at moved
  split at moved
  · cases moved
  · rename_i proc found
    obtain ⟨⟨shared, proc'⟩, stepped, rfl⟩ := Option.map_eq_some_iff.mp moved
    exact .move config index proc shared proc' found stepped

theorem Reaches.of_schedule :
    ∀ {config next : Config Shared Local} {schedule : List Nat},
      config.schedule step schedule = some next → Reaches step config next
  | config, next, [], scheduled => by
    cases scheduled
    exact .refl
  | config, next, index :: rest, scheduled => by
    obtain ⟨middle, moved, later⟩ := Option.bind_eq_some_iff.mp scheduled
    exact .head (Step.of_move moved) (Reaches.of_schedule later)

/-- A property that holds of the configuration a schedule leaves, checked by
evaluating both, holds of a reached configuration. -/
theorem Reaches.exists_of_schedule_any {config : Config Shared Local} (schedule : List Nat)
    {P : Config Shared Local → Prop} [DecidablePred P]
    (holds : (config.schedule step schedule).any (fun next => decide (P next)) = true) :
    ∃ next, Reaches step config next ∧ P next := by
  obtain ⟨next, scheduled, satisfied⟩ := (Option.any_eq_true _ _).mp holds
  exact ⟨next, Reaches.of_schedule scheduled, of_decide_eq_true satisfied⟩

/-- An invariant that every step keeps holds along every run. -/
theorem Reaches.invariant {P : Config Shared Local → Prop}
    (preserved : ∀ config next, Step step config next → P config → P next)
    {config next : Config Shared Local} (reach : Reaches step config next) (holds : P config) :
    P next := by
  induction reach with
  | refl => exact holds
  | tail _ stepped kept => exact preserved _ _ stepped kept

end Interleaving
