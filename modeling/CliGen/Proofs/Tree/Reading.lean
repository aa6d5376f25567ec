import CliGen.Proofs.Outcome
import CliGen.Tree.Build

/-!
# What a reading yields

Reading one command fixes its place: name and path are those of the entry, and nothing lies below it
yet. Its arguments, options and aliases are those that its body tells. What is read as the name of a
command line is a name.
-/

namespace CliGen

namespace Build

open CliGen.Field Outcome

/-- Nothing is read behind a refused field. -/
@[simp]
theorem refuse_bind {α β : Type} (path : List String) (reason : String) (f : α → Outcome β) :
    ((refuse path reason : Outcome α) >>= f) = .error (.schema path reason) := rfl

/-- A command that is read stands at the place of its entry, without commands below it. -/
theorem readCommand_ok {parentPath : List String} {name : String} {body : Value} {c : Command}
    (h : readCommand parentPath name body = .ok c) :
    c.name = name ∧ c.parentPath = parentPath ∧ c.subcommands = [] := by
  unfold readCommand at h
  cases body
  case object fields =>
    simp only [pure_eq_ok, ok_bind, bind_eq_ok] at h
    obtain ⟨text, -, description, -, lifecycle, -, arguments, -, options, -, h⟩ := h
    split at h
    · simp at h
    · simp only [bind_eq_ok, Except.ok.injEq] at h
      obtain ⟨icon, -, aliases, -, hidden, -, rfl⟩ := h
      exact ⟨rfl, rfl, rfl⟩
  all_goals simp at h

/-- The parts of a command are read from the fields of its body, and no option has the identifier of
an argument. -/
theorem readCommand_parts {parentPath : List String} {name : String} {body : Value} {c : Command}
    (h : readCommand parentPath name body = .ok c) : ∃ fields, body = .object fields ∧
      Param.readArguments fields (parentPath ++ [name]) = .ok c.arguments ∧
      Param.readOptions fields (parentPath ++ [name]) = .ok c.options ∧
      (∀ o ∈ c.options, ¬ Param.isTaken o.name c.arguments) ∧
      Siblings.readAliases fields (parentPath ++ [name]) = .ok c.aliases := by
  unfold readCommand at h
  cases body
  case object fields =>
    simp only [pure_eq_ok, ok_bind, bind_eq_ok] at h
    obtain ⟨text, -, description, -, lifecycle, -, arguments, harguments, options, hoptions, h⟩ := h
    split at h
    next => simp at h
    next hnone =>
      simp only [bind_eq_ok, Except.ok.injEq] at h
      obtain ⟨icon, -, aliases, haliases, hidden, -, rfl⟩ := h
      have hapart : options.find? (Param.isTaken ·.name arguments) = none :=
        Option.eq_none_iff_forall_ne_some.2 hnone
      exact ⟨fields, rfl, harguments, hoptions, List.find?_eq_none.1 hapart, haliases⟩
  all_goals simp at h

/-- What it takes to read a waiting command: its place is not too deep, its body says what it is,
and the entries below it are a list of siblings. -/
theorem Waiting.read_ok {limit : Nat} {w : Waiting} {command : Command} {below : List NamedBody}
    (h : w.read limit = .ok (command, below)) :
    w.parentPath.length < limit ∧ readCommand w.parentPath w.name w.body = .ok command ∧
      Siblings.collect (w.body.get? "subcommands") "subcommands" w.path = .ok below ∧
      (command.lifecycle.isManaged = true → below = []) := by
  unfold Waiting.read at h
  split at h
  · cases h
  · simp only [bind_eq_ok] at h
    obtain ⟨c, hc, es, hes, h⟩ := h
    split at h
    next => simp at h
    next hfits =>
      simp only [pure_eq_ok, Except.ok.injEq, Prod.mk.injEq] at h
      obtain ⟨rfl, rfl⟩ := h
      refine ⟨by omega, hc, hes, fun hm => ?_⟩
      simpa [hm] using hfits

/-- The command line itself is called by a name, and its options are read from its fields. -/
theorem readHead_ok {fields : Fields} {head : CommandTree} (h : readHead fields = .ok head) :
    isName head.cliName = true ∧ Param.readOptions fields [] = .ok head.globalOptions := by
  unfold readHead at h
  simp only [bind_eq_ok] at h
  obtain ⟨text, -, cliName, -, h⟩ := h
  split at h
  next hname =>
    simp only [pure_eq_ok, bind_eq_ok, Except.ok.injEq] at h
    obtain ⟨version, -, tagline, -, description, -, options, hoptions, rfl⟩ := h
    exact ⟨hname, hoptions⟩
  next => simp at h

end Build

end CliGen
