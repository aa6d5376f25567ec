import CliGen.Proofs.Outcome
import CliGen.Storage.Files

/-!
# Steps on a disk

A step takes a disk to an outcome (`Disk.outcome`) and to the disk that it leaves behind
(`Disk.after`). The outcome of a chain of steps, or of a loop, is read off the outcomes of its
parts.
-/

namespace CliGen.Disk

variable {ε δ α β γ : Type}

/-- What a step comes to on a disk. -/
def outcome (d : Disk) (s : ExceptT ε (StateM Disk) α) : Except ε α := (s.run.run d).1

/-- The disk that a step leaves behind. -/
def after (d : Disk) (s : ExceptT ε (StateM Disk) α) : Disk := (s.run.run d).2

/-- A chain goes on from the disk that its first step leaves, unless that step fails. -/
theorem run_bind (d : Disk) (s : ExceptT ε (StateM Disk) α) (f : α → ExceptT ε (StateM Disk) β) :
    (s >>= f).run.run d = match d.outcome s with
      | .ok a => (f a).run.run (d.after s)
      | .error e => (.error e, d.after s) := by
  -- A chain is defined by the first outcome, and goes on with the disk that is left behind.
  change (match (s.run.run d).1 with
    | .ok a => (f a).run
    | .error e => pure (.error e) : StateM Disk (Except ε β)).run (s.run.run d).2 = _
  unfold outcome after
  rcases s.run.run d with ⟨e | a, d'⟩ <;> rfl

/-- Where the first step succeeds, the outcome of a chain is that of the next step. -/
theorem outcome_bind_of_ok {d : Disk} {s : ExceptT ε (StateM Disk) α} {a : α}
    (h : d.outcome s = .ok a) (f : α → ExceptT ε (StateM Disk) β) :
    d.outcome (s >>= f) = (d.after s).outcome (f a) := by
  rw [outcome, run_bind, h]
  rfl

/-- Where the first step succeeds, a chain leaves the disk that the next step leaves. -/
theorem after_bind_of_ok {d : Disk} {s : ExceptT ε (StateM Disk) α} {a : α}
    (h : d.outcome s = .ok a) (f : α → ExceptT ε (StateM Disk) β) :
    d.after (s >>= f) = (d.after s).after (f a) := by
  rw [after, run_bind, h]
  rfl

/-- Where the first step fails, a chain leaves the disk as that step does. -/
theorem after_bind_of_error {d : Disk} {s : ExceptT ε (StateM Disk) α} {e : ε}
    (h : d.outcome s = .error e) (f : α → ExceptT ε (StateM Disk) β) :
    d.after (s >>= f) = d.after s := by
  rw [after, run_bind, h]

/-- What holds after each step of a chain at which it may end holds after the chain. -/
theorem after_bind {motive : Disk → Prop} {d : Disk} {s : ExceptT ε (StateM Disk) α}
    {f : α → ExceptT ε (StateM Disk) β} (hs : ∀ e, d.outcome s = .error e → motive (d.after s))
    (hf : ∀ a, d.outcome s = .ok a → motive ((d.after s).after (f a))) :
    motive (d.after (s >>= f)) := by
  cases h : d.outcome s with
  | error e =>
    rw [after_bind_of_error h]
    exact hs e h
  | ok a =>
    rw [after_bind_of_ok h]
    exact hf a h

/-- An answer does nothing to the disk. -/
theorem after_bind_pure {d : Disk} {s : ExceptT ε (StateM Disk) α} {f : α → β} :
    d.after (s >>= fun a => pure (f a)) = d.after s :=
  after_bind (motive := (· = d.after s)) (fun _ _ => rfl) fun _ _ => rfl

/-- A handler starts from the disk that the failing step leaves. -/
theorem run_tryCatch (d : Disk) (s : ExceptT ε (StateM Disk) α)
    (handle : ε → ExceptT ε (StateM Disk) α) :
    (tryCatch s handle).run.run d = match d.outcome s with
      | .ok a => (.ok a, d.after s)
      | .error e => (handle e).run.run (d.after s) := by
  change (match (s.run.run d).1 with
    | .ok a => pure (.ok a)
    | .error e => (handle e).run : StateM Disk (Except ε α)).run (s.run.run d).2 = _
  unfold outcome after
  rcases s.run.run d with ⟨e | a, d'⟩ <;> rfl

/-- A chain succeeds if both of its steps do, the second on the disk that the first leaves. -/
theorem outcome_bind_eq_ok {d : Disk} {s : ExceptT ε (StateM Disk) α}
    {f : α → ExceptT ε (StateM Disk) β} {b : β} :
    d.outcome (s >>= f) = .ok b ↔
      ∃ a, d.outcome s = .ok a ∧ (d.after s).outcome (f a) = .ok b := by
  rw [outcome, run_bind]
  cases d.outcome s <;> simp [outcome]

/-- An answer is the outcome of answering. -/
@[simp]
theorem outcome_pure (d : Disk) (a : α) :
    d.outcome (pure a : ExceptT ε (StateM Disk) α) = .ok a := rfl

/-- A step that does not look at the disk has the outcome it is made of. -/
@[simp]
theorem outcome_ofExcept (d : Disk) (x : Except ε α) :
    d.outcome (MonadExcept.ofExcept x : ExceptT ε (StateM Disk) α) = x := by
  cases x <;> rfl

/-- A step that does not look at the disk leaves it as it is. -/
@[simp]
theorem after_ofExcept (d : Disk) (x : Except ε α) :
    d.after (MonadExcept.ofExcept x : ExceptT ε (StateM Disk) α) = d := by
  cases x <;> rfl

/-- An operation that answers its own failures always succeeds as a step. -/
@[simp]
theorem outcome_lift (d : Disk) (x : StateM Disk α) :
    d.outcome (ExceptT.lift x : ExceptT ε (StateM Disk) α) = .ok (x.run d).1 := rfl

/-- Seeing an operation as a step does not change the disk that it leaves. -/
@[simp]
theorem after_lift (d : Disk) (x : StateM Disk α) :
    d.after (ExceptT.lift x : ExceptT ε (StateM Disk) α) = (x.run d).2 := rfl

/-- Telling failures in other words does not change what succeeds. -/
@[simp]
theorem outcome_adapt_eq_ok {d : Disk} {s : ExceptT ε (StateM Disk) α} {f : ε → δ} {a : α} :
    d.outcome (s.adapt f) = .ok a ↔ d.outcome s = .ok a := by
  change (d.outcome s).mapError f = .ok a ↔ _
  cases d.outcome s <;> simp [Except.mapError]

/-- Dropping an answer does not change what succeeds. -/
theorem outcome_discard_eq_ok {d : Disk} {s : ExceptT ε (StateM Disk) α} {u : PUnit} :
    d.outcome (discard s) = .ok u ↔ ∃ a, d.outcome s = .ok a := by
  have hdiscard : discard s = s >>= fun _ => pure u := by
    rw [Functor.discard, map_const, Function.comp_apply, bind_pure_comp]
  rw [hdiscard, outcome_bind_eq_ok]
  simp

/-- A loop that checks items gets through if every item passes, whatever the checks do to the
disk. -/
theorem outcome_forIn_eq_ok {check : γ → ExceptT ε (StateM Disk) α} {passes : γ → Prop}
    (hcheck : ∀ c d, (∃ a, outcome d (check c) = .ok a) ↔ passes c) {d : Disk} {cs : List γ}
    {u : PUnit} :
    d.outcome (forIn cs PUnit.unit fun c _ => do
      discard (check c)
      pure (ForInStep.yield PUnit.unit)) = .ok u ↔ ∀ c ∈ cs, passes c := by
  induction cs generalizing d with
  | nil => simp
  | cons c cs ih =>
    rw [List.forIn_cons, List.forall_mem_cons, ← hcheck c d]
    simp only [outcome_bind_eq_ok, outcome_discard_eq_ok, outcome_pure, Except.ok.injEq]
    constructor
    · rintro ⟨_, ⟨_, hc, rfl⟩, hcs⟩
      exact ⟨hc, ih.1 hcs⟩
    · rintro ⟨hc, hcs⟩
      exact ⟨_, ⟨PUnit.unit, hc, rfl⟩, ih.2 hcs⟩

end CliGen.Disk
