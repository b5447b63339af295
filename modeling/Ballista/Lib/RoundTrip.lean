import Mathlib.Data.List.Basic

/-! # Encoders and decoders that undo each other

A codec writes values into a wire format and reads them back; either direction
may fail. It round-trips on the values of a predicate when reading what it wrote
gives the value back (`Codec.RoundTrips`). Round trips lift to optional values
(`RoundTrips.option`) and to lists written and read element by element, the
first failure ending the whole (`RoundTrips.list`). Beneath them lie the rules
of `List.mapM` into `Except`: it succeeds when every element does, relating
the elements to their results (`List.mapM_eq_ok_of_forall`), and gives back
what it is, element by element, an image of (`List.mapM_eq_ok_of_forall₂`).
-/

namespace Except

variable {α β ε ε' : Type}

@[simp] theorem ok_bind (value : α) (next : α → Except ε β) : (Except.ok value >>= next) = next value :=
  rfl

@[simp] theorem error_bind (failure : ε) (next : α → Except ε β) :
    (Except.error failure >>= next) = Except.error failure :=
  rfl

@[simp] theorem mapError_ok (wrap : ε → ε') (value : α) :
    (Except.ok value : Except ε α).mapError wrap = .ok value :=
  rfl

@[simp] theorem mapError_error (wrap : ε → ε') (failure : ε) :
    (Except.error failure : Except ε α).mapError wrap = .error (wrap failure) :=
  rfl

end Except

namespace List

variable {α β ε : Type}

/-- `mapM` into `Except` succeeds on a list whose every element succeeds, and
relates each element to its result by what holds of every element. -/
theorem mapM_eq_ok_of_forall {f : α → Except ε β} {R : α → β → Prop} :
    ∀ {values : List α}, (∀ value ∈ values, ∃ result, f value = .ok result ∧ R value result) →
      ∃ results, values.mapM f = .ok results ∧ Forall₂ R values results
  | [], _ => ⟨[], rfl, .nil⟩
  | head :: tail, each => by
    obtain ⟨result, headOk, headRelated⟩ := each head mem_cons_self
    obtain ⟨results, tailOk, tailRelated⟩ :=
      mapM_eq_ok_of_forall fun value mem => each value (mem_cons_of_mem head mem)
    refine ⟨result :: results, ?_, .cons headRelated tailRelated⟩
    rw [mapM_cons, headOk]
    change (List.mapM f tail >>= fun rest => pure (result :: rest)) = _
    rw [tailOk]
    rfl

/-- `mapM` into `Except` gives back a list of which the given one is, element
by element, the image. -/
theorem mapM_eq_ok_of_forall₂ {g : β → Except ε α} :
    ∀ {values : List α} {results : List β}, Forall₂ (fun value result => g result = .ok value) values results →
      results.mapM g = .ok values
  | [], [], .nil => rfl
  | head :: tail, result :: results, .cons headBack tailBack => by
    rw [mapM_cons, headBack]
    change (List.mapM g results >>= fun rest => pure (head :: rest)) = _
    rw [mapM_eq_ok_of_forall₂ tailBack]
    rfl

/-- An element of the right list of a pairing is paired with one of the left. -/
theorem Forall₂.exists_of_mem_right {R : α → β → Prop} :
    ∀ {lefts : List α} {rights : List β}, Forall₂ R lefts rights →
      ∀ {right : β}, right ∈ rights → ∃ left ∈ lefts, R left right
  | [], [], .nil, _, mem => absurd mem not_mem_nil
  | left :: _, _ :: _, .cons headRelated tailRelated, _, mem => by
    rcases mem_cons.mp mem with rfl | later
    · exact ⟨left, mem_cons_self, headRelated⟩
    · obtain ⟨other, otherMem, related⟩ := tailRelated.exists_of_mem_right later
      exact ⟨other, mem_cons_of_mem left otherMem, related⟩

end List

/-- An encoder into a wire format and a decoder back, both of which may fail. -/
structure Codec (α β ε : Type) where
  encode : α → Except ε β
  decode : β → Except ε α

namespace Codec

variable {α β ε : Type}

/-- Reading what the codec wrote gives the value back, for every value of `valid`. -/
def RoundTrips (codec : Codec α β ε) (valid : α → Prop) : Prop :=
  ∀ value, valid value → (codec.encode value >>= codec.decode) = .ok value

/-- Optional values, an absent one written as absent. -/
def option (codec : Codec α β ε) : Codec (Option α) (Option β) ε where
  encode
    | none => .ok none
    | some value => some <$> codec.encode value
  decode
    | none => .ok none
    | some wire => some <$> codec.decode wire

/-- Lists, element by element, as `Iterator::collect` into a `Result` reads and
writes them: the first failure is the result. -/
def list (codec : Codec α β ε) : Codec (List α) (List β) ε where
  encode := List.mapM codec.encode
  decode := List.mapM codec.decode

variable {codec : Codec α β ε} {valid : α → Prop}

/-- A codec round-trips exactly when it writes every valid value to a wire
value that it reads back as the value. -/
theorem roundTrips_iff :
    codec.RoundTrips valid ↔
      ∀ value, valid value → ∃ wire, codec.encode value = .ok wire ∧ codec.decode wire = .ok value := by
  constructor
  · intro trips value holds
    have back := trips value holds
    cases written : codec.encode value with
    | error failure =>
      rw [written] at back
      cases back
    | ok wire =>
      rw [written] at back
      exact ⟨wire, rfl, back⟩
  · intro writes value holds
    obtain ⟨wire, written, read⟩ := writes value holds
    rw [written]
    exact read

theorem RoundTrips.option (trips : codec.RoundTrips valid) :
    codec.option.RoundTrips fun value => ∀ present ∈ value, valid present := by
  rw [roundTrips_iff] at trips ⊢
  intro value holds
  cases value with
  | none => exact ⟨none, rfl, rfl⟩
  | some present =>
    obtain ⟨wire, written, read⟩ := trips present (holds present rfl)
    refine ⟨some wire, ?_, ?_⟩
    · change (some <$> codec.encode present) = _
      rw [written]
      rfl
    · change (some <$> codec.decode wire) = _
      rw [read]
      rfl

theorem RoundTrips.list (trips : codec.RoundTrips valid) :
    codec.list.RoundTrips fun values => ∀ value ∈ values, valid value := by
  rw [roundTrips_iff] at trips ⊢
  intro values holds
  obtain ⟨wires, written, related⟩ :=
    List.mapM_eq_ok_of_forall fun value mem => trips value (holds value mem)
  exact ⟨wires, written, List.mapM_eq_ok_of_forall₂ related⟩

end Codec
