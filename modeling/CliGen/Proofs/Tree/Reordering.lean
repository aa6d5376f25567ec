import CliGen.Proofs.Tree.Recursion

/-!
# Siblings in another order

Two forests may differ in nothing but the order of siblings, at any levels (`Reordered`). Their
walks then pass the same commands, taken without those below them (`Reordered.walk_perm`).
-/

namespace CliGen

/-- The forests differ only in the order of siblings, at any levels. -/
inductive Reordered : List Command → List Command → Prop where
  | nil : Reordered [] []
  | cons {c d : Command} {cs ds : List Command} (own : Build.bare c = Build.bare d)
      (below : Reordered c.subcommands d.subcommands) (beside : Reordered cs ds) :
      Reordered (c :: cs) (d :: ds)
  | swap (c d : Command) (cs : List Command) : Reordered (c :: d :: cs) (d :: c :: cs)
  | trans {cs ds es : List Command} : Reordered cs ds → Reordered ds es → Reordered cs es

namespace Reordered

variable {cs ds : List Command}

/-- Commands can be left in their order. -/
theorem refl (cs : List Command) : Reordered cs cs := by
  induction cs using forest_induction with
  | nil => exact .nil
  | cons c cs below beside => exact .cons rfl below beside

/-- Every order of the commands at the top is meant. -/
theorem of_perm (h : cs.Perm ds) : Reordered cs ds := by
  induction h with
  | nil => exact .nil
  | cons c _ beside => exact .cons rfl (refl c.subcommands) beside
  | swap c d cs => exact .swap d c cs
  | trans _ _ first second => exact first.trans second

/-- The walks pass the same commands. -/
theorem walk_perm (h : Reordered cs ds) :
    ((walkPending cs).map Build.bare).Perm ((walkPending ds).map Build.bare) := by
  induction h with
  | nil => exact .refl _
  | cons own _ _ below beside =>
    simp only [walkPending_cons, List.map_cons, List.map_append, own]
    exact (below.append beside).cons _
  | swap c d cs =>
    -- A command is passed together with those below it, so two such runs change places.
    have hruns (a b : Command) : walkPending (a :: b :: cs) = (a :: walkPending a.subcommands) ++
        ((b :: walkPending b.subcommands) ++ walkPending cs) := by simp
    rw [hruns, hruns]
    exact (List.perm_append_comm_assoc _ _ _).map _
  | trans _ _ first second => exact first.trans second

end Reordered

end CliGen
