import CliGen.Tree.Basic

/-!
# Forests

A list of commands is a forest: the first command, the forest below it, and the forest beside it.
`forest_induction` follows that shape, and `walkPending_cons` says the same of the walk, which the
running definition makes with one list of pending commands.
-/

namespace CliGen

/-- A property of forests holds of all of them if it holds of the empty one, and of a command with
commands beside it as soon as it holds of the forest below the command and of those beside it. -/
@[elab_as_elim]
theorem forest_induction {motive : List Command → Prop} (nil : motive [])
    (cons : ∀ c cs, motive c.subcommands → motive cs → motive (c :: cs)) (cs : List Command) :
    motive cs := by
  induction hn : sizeAll cs using Nat.strongRecOn generalizing cs with
  | _ n ih =>
    cases cs with
    | nil => exact nil
    | cons c cs =>
      have hsize : n = sizeAll c.subcommands + 1 + sizeAll cs := by
        rw [← hn, sizeAll, c.size_eq]
      exact cons c cs (ih _ (by omega) _ rfl) (ih _ (by omega) _ rfl)

/-- Without commands there is nothing to walk. -/
@[simp]
theorem walkPending_nil : walkPending [] = [] := by rw [walkPending]

/-- Commands in a row are walked in a row. -/
theorem walkPending_append (cs ds : List Command) :
    walkPending (cs ++ ds) = walkPending cs ++ walkPending ds := by
  induction cs using forest_induction generalizing ds with
  | nil => simp
  | cons c cs below beside =>
    rw [List.cons_append, walkPending, walkPending, ← List.append_assoc]
    rw [List.append_assoc, below, beside, below, List.cons_append, List.append_assoc]

/-- The walk of a forest: the first command, the walk below it, the walk beside it. -/
@[simp]
theorem walkPending_cons (c : Command) (cs : List Command) :
    walkPending (c :: cs) = c :: (walkPending c.subcommands ++ walkPending cs) := by
  rw [walkPending, walkPending_append]

/-- What holds of all commands of a forest holds of its first command, of those below it and of
those beside it. -/
theorem forall_mem_walkPending_cons {p : Command → Prop} {c : Command} {cs : List Command} :
    (∀ d ∈ walkPending (c :: cs), p d) ↔
      p c ∧ (∀ d ∈ walkPending c.subcommands, p d) ∧ ∀ d ∈ walkPending cs, p d := by
  rw [walkPending_cons, List.forall_mem_cons, List.forall_mem_append]

/-- Behind a command that is passed over, a search looks below it before it looks beside it. -/
theorem find?_walkPending_cons {p : Command → Bool} {c : Command} (hc : ¬ p c)
    (cs : List Command) : (walkPending (c :: cs)).find? p =
      ((walkPending c.subcommands).find? p).or ((walkPending cs).find? p) := by
  rw [walkPending_cons, List.find?_cons_of_neg hc, List.find?_append]

/-- Without commands nothing has a size. -/
@[simp]
theorem sizeAll_nil : sizeAll [] = 0 := by rw [sizeAll]

/-- A command counts itself and those below it. -/
@[simp]
theorem sizeAll_cons (c : Command) (cs : List Command) :
    sizeAll (c :: cs) = sizeAll c.subcommands + 1 + sizeAll cs := by
  rw [sizeAll, c.size_eq]

/-- The walk passes every command once. -/
theorem length_walkPending (cs : List Command) : (walkPending cs).length = sizeAll cs := by
  induction cs using forest_induction with
  | nil => simp
  | cons c cs below beside =>
    simp only [walkPending_cons, List.length_cons, List.length_append, below, beside, sizeAll_cons]
    omega

end CliGen
