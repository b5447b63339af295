import Mathlib.Control.Basic
import Mathlib.Order.Defs.Unbundled

/-! # Computations with state and errors

A method on `&mut self` that returns a `Result` is a computation in
`ExceptT ε (StateM σ)`: when it returns an error, the state it leaves is the one
it had mutated up to then. `ExceptT.exec` runs such a computation from a state,
giving its outcome and the state it leaves; the lemmas here compute `exec` on
the monad's operations, so that a method is read off step by step: `bind`
continues with the state the first computation left, or stops at its error.

`Steps R m` says that every run of `m`, to a value or to an error, leaves a
state that the preorder `R` relates to the state it started from. It is how a
frame condition or an invariant of a whole method is assembled from its parts:
`pure`, `get` and `throw` keep the state, `modify` must take an `R`-step, and
`bind` composes.

`StepsOk R m` asks the same of the runs that return a value only, for a
relation that a run ending in an error may break, as when a method writes part
of its work back before it throws.

`Triple pre m post` speaks of the runs of `m` that return a value: from a state
satisfying `pre` they leave one satisfying `post`. Its rules follow the same
operations, and `exec_bind_eq_ok` takes a run that returned apart. `Throws P m`
speaks of the runs that end in an error: the error satisfies `P`.
-/

namespace ExceptT

variable {ε σ α β : Type}

/-- Run a computation from a state: its outcome and the state it leaves. -/
def exec (m : ExceptT ε (StateM σ) α) (s : σ) : Except ε α × σ :=
  Id.run (m.run.run s)

@[simp] theorem exec_pure (a : α) (s : σ) :
    (pure a : ExceptT ε (StateM σ) α).exec s = (.ok a, s) := rfl

@[simp] theorem exec_throw (e : ε) (s : σ) :
    (throw e : ExceptT ε (StateM σ) α).exec s = (.error e, s) := rfl

@[simp] theorem exec_get (s : σ) : (get : ExceptT ε (StateM σ) σ).exec s = (.ok s, s) := rfl

@[simp] theorem exec_set (s s' : σ) :
    (set s' : ExceptT ε (StateM σ) PUnit).exec s = (.ok ⟨⟩, s') := rfl

@[simp] theorem exec_modify (f : σ → σ) (s : σ) :
    (modify f : ExceptT ε (StateM σ) PUnit).exec s = (.ok ⟨⟩, f s) := rfl

@[simp] theorem exec_modifyGet (f : σ → α × σ) (s : σ) :
    (modifyGet f : ExceptT ε (StateM σ) α).exec s = (.ok (f s).1, (f s).2) := rfl

/-- `bind` continues from the state the first computation left, or stops at
its error. -/
theorem exec_bind (m : ExceptT ε (StateM σ) α) (f : α → ExceptT ε (StateM σ) β) (s : σ) :
    (m >>= f).exec s =
      match m.exec s with
      | (.ok a, s') => (f a).exec s'
      | (.error e, s') => (.error e, s') := by
  simp only [exec, Id.run, ExceptT.run_bind, StateT.run_bind]
  generalize m.run.run s = first
  obtain ⟨result, s'⟩ := first
  cases result <;> rfl

theorem exec_map (f : α → β) (m : ExceptT ε (StateM σ) α) (s : σ) :
    (f <$> m).exec s =
      match m.exec s with
      | (.ok a, s') => (.ok (f a), s')
      | (.error e, s') => (.error e, s') := by
  rw [map_eq_pure_bind, exec_bind]
  rcases m.exec s with ⟨_ | _, _⟩ <;> rfl

theorem exec_bind_of_ok {m : ExceptT ε (StateM σ) α} {f : α → ExceptT ε (StateM σ) β} {s s' : σ}
    {a : α} (ran : m.exec s = (.ok a, s')) : (m >>= f).exec s = (f a).exec s' := by
  rw [exec_bind, ran]

theorem exec_bind_of_error {m : ExceptT ε (StateM σ) α} {f : α → ExceptT ε (StateM σ) β}
    {s s' : σ} {e : ε} (ran : m.exec s = (.error e, s')) : (m >>= f).exec s = (.error e, s') := by
  rw [exec_bind, ran]

/-- `tryCatch` hands an error to the handler, from the state the computation left. -/
theorem exec_tryCatch (m : ExceptT ε (StateM σ) α) (handle : ε → ExceptT ε (StateM σ) α) (s : σ) :
    (tryCatch m handle).exec s =
      match m.exec s with
      | (.ok a, s') => (.ok a, s')
      | (.error e, s') => (handle e).exec s' := by
  simp only [exec, Id.run, tryCatch, tryCatchThe, MonadExceptOf.tryCatch, ExceptT.tryCatch,
    ExceptT.run, ExceptT.mk, StateT.run_bind]
  generalize StateT.run m s = first
  obtain ⟨result, s'⟩ := first
  cases result <;> rfl

/-- A run of a `bind` that returns a value ran both parts to a value. -/
theorem exec_bind_eq_ok {m : ExceptT ε (StateM σ) α} {f : α → ExceptT ε (StateM σ) β} {s s' : σ}
    {b : β} (ran : (m >>= f).exec s = (.ok b, s')) :
    ∃ a middle, m.exec s = (.ok a, middle) ∧ (f a).exec middle = (.ok b, s') := by
  rw [exec_bind] at ran
  cases first : m.exec s with
  | mk result middle =>
    rw [first] at ran
    cases result with
    | ok a => exact ⟨a, middle, rfl, ran⟩
    | error e => cases ran

/-- Every run of `m`, to a value or to an error, leaves a state related to the
one it started from. -/
def Steps (R : σ → σ → Prop) (m : ExceptT ε (StateM σ) α) : Prop := ∀ s, R s (m.exec s).2

section Steps

variable {R : σ → σ → Prop}

/-- A run of a computation that keeps to `R` relates the state it starts from
to the state it leaves. -/
theorem Steps.of_exec {m : ExceptT ε (StateM σ) α} (steps : Steps R m) {s s' : σ}
    {result : Except ε α} (ran : m.exec s = (result, s')) : R s s' := by
  have stepped := steps s
  rw [ran] at stepped
  exact stepped

/-- A computation that keeps to `R` keeps to any relation containing `R`. -/
theorem Steps.mono {S : σ → σ → Prop} {m : ExceptT ε (StateM σ) α} (steps : Steps R m)
    (weaker : ∀ s s', R s s' → S s s') : Steps S m :=
  fun s => weaker s _ (steps s)

theorem Steps.pure [Std.Refl R] (a : α) : Steps R (pure a : ExceptT ε (StateM σ) α) :=
  fun s => Std.Refl.refl s

theorem Steps.throw [Std.Refl R] (e : ε) : Steps R (throw e : ExceptT ε (StateM σ) α) :=
  fun s => Std.Refl.refl s

theorem Steps.get [Std.Refl R] : Steps R (get : ExceptT ε (StateM σ) σ) :=
  fun s => Std.Refl.refl s

theorem Steps.modify {f : σ → σ} (step : ∀ s, R s (f s)) :
    Steps R (modify f : ExceptT ε (StateM σ) PUnit) :=
  step

theorem Steps.modifyGet {f : σ → α × σ} (step : ∀ s, R s (f s).2) :
    Steps R (modifyGet f : ExceptT ε (StateM σ) α) :=
  step

theorem Steps.bind [IsPreorder σ R] {m : ExceptT ε (StateM σ) α} {f : α → ExceptT ε (StateM σ) β}
    (first : Steps R m) (rest : ∀ a, Steps R (f a)) : Steps R (m >>= f) := by
  intro s
  have stepped := first s
  rw [exec_bind]
  generalize m.exec s = run at stepped ⊢
  obtain ⟨result, s'⟩ := run
  cases result with
  | ok a => exact IsTrans.trans _ _ _ stepped (rest a s')
  | error e => exact stepped

/-- A computation whose first part keeps to `R` keeps to any `S` that contains
`R` and absorbs an `R`-step before it. -/
theorem Steps.tryCatch [IsTrans σ R] {m : ExceptT ε (StateM σ) α}
    {handle : ε → ExceptT ε (StateM σ) α} (steps : Steps R m) (handled : ∀ e, Steps R (handle e)) :
    Steps R (tryCatch m handle) := by
  intro s
  have stepped := steps s
  rw [exec_tryCatch]
  generalize m.exec s = run at stepped ⊢
  obtain ⟨result, s'⟩ := run
  cases result with
  | ok a => exact stepped
  | error e => exact IsTrans.trans _ _ _ stepped (handled e s')

theorem Steps.bind_mono {S : σ → σ → Prop} {m : ExceptT ε (StateM σ) α}
    {f : α → ExceptT ε (StateM σ) β} (le : ∀ s s', R s s' → S s s')
    (absorb : ∀ s s' s'', R s s' → S s' s'' → S s s'') (first : Steps R m)
    (rest : ∀ a, Steps S (f a)) : Steps S (m >>= f) := by
  intro s
  have stepped := first s
  rw [exec_bind]
  generalize m.exec s = run at stepped ⊢
  obtain ⟨result, s'⟩ := run
  cases result with
  | ok a => exact absorb _ _ _ stepped (rest a s')
  | error e => exact le _ _ stepped

/-- A computation that reads the state first keeps to `R` when each of its
continuations keeps to `R` from the state it read. -/
theorem Steps.bind_get {f : σ → ExceptT ε (StateM σ) α} (steps : ∀ s, R s ((f s).exec s).2) :
    Steps R (MonadState.get >>= f) := by
  intro s
  rw [exec_bind, exec_get]
  exact steps s

/-- Writing a state related to the current one, then keeping to `R`. -/
theorem Steps.set_bind [IsTrans σ R] {s s' : σ} {g : PUnit → ExceptT ε (StateM σ) α}
    (step : R s s') (rest : Steps R (g ⟨⟩)) : R s ((set s' >>= g).exec s).2 := by
  rw [exec_bind, exec_set]
  exact IsTrans.trans _ _ _ step (rest s')

/-- Changing the current state by a step related to it, then keeping to `R`. -/
theorem steps_modify_bind [IsTrans σ R] {s : σ} {f : σ → σ} {g : PUnit → ExceptT ε (StateM σ) α}
    (step : R s (f s)) (rest : Steps R (g ⟨⟩)) : R s ((modify f >>= g).exec s).2 := by
  rw [exec_bind, exec_modify]
  exact IsTrans.trans _ _ _ step (rest (f s))

end Steps

/-- Every run of `m` that returns a value leaves a state related to the one it
started from. -/
def StepsOk (R : σ → σ → Prop) (m : ExceptT ε (StateM σ) α) : Prop :=
  ∀ s a s', m.exec s = (.ok a, s') → R s s'

section StepsOk

variable {R : σ → σ → Prop}

theorem Steps.stepsOk {m : ExceptT ε (StateM σ) α} (steps : Steps R m) : StepsOk R m :=
  fun _ _ _ ran => steps.of_exec ran

theorem StepsOk.bind [IsTrans σ R] {m : ExceptT ε (StateM σ) α} {f : α → ExceptT ε (StateM σ) β}
    (first : StepsOk R m) (rest : ∀ a, StepsOk R (f a)) : StepsOk R (m >>= f) := by
  intro s b s' ran
  obtain ⟨a, middle, ranFirst, ranRest⟩ := exec_bind_eq_ok ran
  exact IsTrans.trans _ _ _ (first s a middle ranFirst) (rest a middle b s' ranRest)

/-- A computation that reads the state first keeps to `R` on its successful
runs when each continuation does from the state it read. -/
theorem StepsOk.bind_get {f : σ → ExceptT ε (StateM σ) α}
    (steps : ∀ s a s', (f s).exec s = (.ok a, s') → R s s') : StepsOk R (MonadState.get >>= f) := by
  intro s a s' ran
  rw [exec_bind, exec_get] at ran
  exact steps s a s' ran

/-- Writing a state related to the current one, then keeping to `R` on the
successful runs. -/
theorem StepsOk.set_bind [IsTrans σ R] {s s' s'' : σ} {a : α} {g : PUnit → ExceptT ε (StateM σ) α}
    (ran : (set s' >>= g).exec s = (.ok a, s'')) (step : R s s') (rest : StepsOk R (g ⟨⟩)) : R s s'' := by
  rw [exec_bind, exec_set] at ran
  exact IsTrans.trans _ _ _ step (rest s' a s'' ran)

end StepsOk

/-- A triple over the runs that return a value: a run of `m` from a state
satisfying `pre` that returns `a` leaves a state satisfying `post a`. A run that
ends in an error is not constrained, so a triple speaks of a method's
successful calls only. -/
def Triple (pre : σ → Prop) (m : ExceptT ε (StateM σ) α) (post : α → σ → Prop) : Prop :=
  ∀ s a s', pre s → m.exec s = (.ok a, s') → post a s'

section Triple

variable {pre : σ → Prop}

theorem Triple.pure {post : α → σ → Prop} {a : α} (holds : ∀ s, pre s → post a s) :
    Triple pre (pure a : ExceptT ε (StateM σ) α) post := by
  intro s b s' before ran
  simp only [exec_pure, Prod.mk.injEq, Except.ok.injEq] at ran
  obtain ⟨rfl, rfl⟩ := ran
  exact holds s before

theorem Triple.throw {post : α → σ → Prop} (e : ε) :
    Triple pre (throw e : ExceptT ε (StateM σ) α) post := by
  intro s a s' _ ran
  simp at ran

theorem Triple.bind {middle : α → σ → Prop} {post : β → σ → Prop} {m : ExceptT ε (StateM σ) α}
    {f : α → ExceptT ε (StateM σ) β} (first : Triple pre m middle)
    (rest : ∀ a, Triple (middle a) (f a) post) : Triple pre (m >>= f) post := by
  intro s b s' before ran
  obtain ⟨a, state, ranFirst, ranRest⟩ := exec_bind_eq_ok ran
  exact rest a state b s' (first s a state before ranFirst) ranRest

theorem Triple.mono {pre' : σ → Prop} {post post' : α → σ → Prop} {m : ExceptT ε (StateM σ) α}
    (triple : Triple pre m post) (weaker : ∀ s, pre' s → pre s)
    (stronger : ∀ a s, post a s → post' a s) : Triple pre' m post' :=
  fun s a s' before ran => stronger a s' (triple s a s' (weaker s before) ran)

/-- Nothing is said of what a computation returns. -/
theorem Triple.any (m : ExceptT ε (StateM σ) α) : Triple pre m fun _ _ => True :=
  fun _ _ _ _ _ => trivial

/-- A fact that held before a run still holds after it, and the run's triple
may rest on it. -/
theorem Triple.assume {post : α → σ → Prop} {fact : Prop} {m : ExceptT ε (StateM σ) α}
    (triple : fact → Triple (fun _ => True) m post) : Triple (fun _ => fact) m fun a s => fact ∧ post a s :=
  fun s a s' holds ran => ⟨holds, triple holds s a s' trivial ran⟩

/-- A fact that held before a run still holds after it. -/
theorem Triple.frame {post : α → σ → Prop} {fact : Prop} {m : ExceptT ε (StateM σ) α}
    (triple : Triple (fun _ => True) m post) : Triple (fun _ => fact) m fun a s => fact ∧ post a s :=
  Triple.assume fun _ => triple

/-- A computation run on each element of a list, each run carrying an invariant
of the results so far over its own result, carries it over the whole list;
the results are as many as the elements. -/
theorem Triple.mapM {f : α → ExceptT ε (StateM σ) β} {I : List β → σ → Prop} :
    ∀ (items : List α) (done : List β),
      (∀ item ∈ items, ∀ done, Triple (I done) (f item) fun result => I (done ++ [result])) →
      Triple (I done) (items.mapM f) fun results s => results.length = items.length ∧ I (done ++ results) s
  | [], done, _ => by
    refine Triple.pure fun s holds => ⟨rfl, ?_⟩
    rw [List.reverse_nil, List.append_nil]
    exact holds
  | item :: items, done, each => by
    rw [List.mapM_cons]
    refine Triple.bind (each item List.mem_cons_self done) fun result => ?_
    refine Triple.bind (Triple.mapM items (done ++ [result])
      fun later mem => each later (List.mem_cons_of_mem item mem)) fun results => ?_
    refine Triple.pure fun s ⟨counted, holds⟩ => ⟨by simp [counted], ?_⟩
    rw [List.append_assoc, List.singleton_append] at holds
    exact holds

end Triple

/-- Every run of `m` that ends in an error ends in one satisfying `P`. -/
def Throws (P : ε → Prop) (m : ExceptT ε (StateM σ) α) : Prop :=
  ∀ s e s', m.exec s = (.error e, s') → P e

section Throws

variable {P : ε → Prop}

theorem Throws.pure (a : α) : Throws P (pure a : ExceptT ε (StateM σ) α) := by
  intro s e s' ran
  simp at ran

theorem Throws.throw {e : ε} (holds : P e) : Throws P (throw e : ExceptT ε (StateM σ) α) := by
  intro s e' s' ran
  simp only [exec_throw, Prod.mk.injEq, Except.error.injEq] at ran
  rw [← ran.1]
  exact holds

theorem Throws.get : Throws P (get : ExceptT ε (StateM σ) σ) := by
  intro s e s' ran
  simp at ran

theorem Throws.modify (f : σ → σ) : Throws P (modify f : ExceptT ε (StateM σ) PUnit) := by
  intro s e s' ran
  simp at ran

theorem Throws.set (s' : σ) : Throws P (set s' : ExceptT ε (StateM σ) PUnit) := by
  intro s e s'' ran
  simp at ran

theorem Throws.bind {m : ExceptT ε (StateM σ) α} {f : α → ExceptT ε (StateM σ) β}
    (first : Throws P m) (rest : ∀ a, Throws P (f a)) : Throws P (m >>= f) := by
  intro s e s' ran
  rw [exec_bind] at ran
  cases run : m.exec s with
  | mk result middle =>
    rw [run] at ran
    cases result with
    | ok a => exact rest a middle e s' ran
    | error e' =>
      simp only [Prod.mk.injEq, Except.error.injEq] at ran
      rw [← ran.1]
      exact first s e' middle run

end Throws

end ExceptT

namespace Except

variable {ε α β : Type}

/-- A fold in `Except` that reaches a value keeps an invariant that each of its
steps keeps, on the items folded over. -/
theorem foldlM_invariant_of_mem {f : β → α → Except ε β} (P : β → Prop) :
    ∀ (items : List α), (∀ b, ∀ a ∈ items, ∀ b', P b → f b a = .ok b' → P b') →
      ∀ {init result : β}, P init → items.foldlM f init = .ok result → P result
  | [], _, _, _, holds, folded => by
    cases folded
    exact holds
  | item :: items, step, init, _, holds, folded => by
    rw [List.foldlM_cons] at folded
    cases next : f init item with
    | error e =>
      rw [next] at folded
      cases folded
    | ok b =>
      rw [next] at folded
      exact foldlM_invariant_of_mem P items (fun b a mem => step b a (List.mem_cons_of_mem _ mem))
        (step init item List.mem_cons_self b holds next) folded

/-- A fold in `Except` that reaches a value keeps an invariant each of its steps keeps. -/
theorem foldlM_invariant {f : β → α → Except ε β} (P : β → Prop)
    (step : ∀ b a b', P b → f b a = .ok b' → P b') (items : List α) {init result : β} :
    P init → items.foldlM f init = .ok result → P result :=
  foldlM_invariant_of_mem P items fun b a _ => step b a

theorem mapError_eq_ok_iff {ε' : Type} {wrap : ε → ε'} {x : Except ε α} {value : α} :
    x.mapError wrap = .ok value ↔ x = .ok value := by
  cases x <;> simp [Except.mapError]

theorem mapError_eq_error_iff {ε' : Type} {wrap : ε → ε'} {x : Except ε α} {failure : ε'} :
    x.mapError wrap = .error failure ↔ ∃ e, x = .error e ∧ failure = wrap e := by
  cases x <;> simp [Except.mapError, eq_comm]

/-- A loop of checks in `Except` passes exactly when each check passes. -/
theorem forM_eq_ok_iff {check : α → Except ε PUnit} :
    ∀ {items : List α}, items.forM check = .ok () ↔ ∀ item ∈ items, check item = .ok ()
  | [] => ⟨fun _ _ mem => absurd mem List.not_mem_nil, fun _ => rfl⟩
  | item :: items => by
    rw [List.forM, List.forall_mem_cons]
    cases first : check item with
    | error e =>
      constructor
      · intro passed
        cases passed
      · intro ⟨passed, _⟩
        cases passed
    | ok u =>
      change items.forM check = .ok () ↔ _
      rw [forM_eq_ok_iff]
      exact ⟨fun rest => ⟨rfl, rest⟩, And.right⟩

/-- A loop of checks in `Except` that fails stops at a check that fails, with
its error. -/
theorem forM_eq_error {check : α → Except ε PUnit} {failure : ε} :
    ∀ {items : List α}, items.forM check = .error failure → ∃ item ∈ items, check item = .error failure
  | [], failed => by cases failed
  | item :: items, failed => by
    rw [List.forM] at failed
    cases first : check item with
    | error e =>
      rw [first] at failed
      cases failed
      exact ⟨item, List.mem_cons_self, first⟩
    | ok u =>
      rw [first] at failed
      obtain ⟨other, mem, fails⟩ := forM_eq_error failed
      exact ⟨other, List.mem_cons_of_mem item mem, fails⟩

/-- What a result carries of a witness: its value's, or the one its error holds. -/
def carried {γ : Type} (witness : β → γ) : Except (ε × γ) β → γ
  | .ok b => witness b
  | .error (_, c) => c

/-- A fold in `Except` whose errors hold a witness: a property of the witness
that every step carries over, from its value to its value or error, the fold
carries over, whether it reaches a value or stops at an error. -/
theorem carried_foldlM {γ : Type} {f : β → α → Except (ε × γ) β} {witness : β → γ} (P : γ → Prop)
    (step : ∀ b a, P (witness b) → P (carried witness (f b a))) :
    ∀ (items : List α) (init : β), P (witness init) → P (carried witness (items.foldlM f init))
  | [], _, holds => holds
  | item :: items, init, holds => by
    have first := step init item holds
    rw [List.foldlM_cons]
    cases next : f init item with
    | error e =>
      rw [next] at first
      exact first
    | ok b =>
      rw [next] at first
      exact carried_foldlM P step items b first

end Except
