import CliGen.Problem
import Mathlib.Data.List.Forall2

/-!
# Outcomes of steps

Steps that may meet a problem are chained and mapped over lists. A chain succeeds if each step does
(`bind_eq_ok`), and the first problem is the problem of the chain (`bind_eq_error`). `Outcome.Meets`
says of a step which problems it can meet at all; it is carried through chains, maps and folds.
`Outcome.Agree` compares two steps: the same problem, or answers that are related.
-/

namespace CliGen

variable {α β : Type}

/-- A list is related to some list, item by item, if each of its items is related to something. -/
theorem exists_forall₂ {R : α → β → Prop} {as : List α} :
    (∃ bs, List.Forall₂ R as bs) ↔ ∀ a ∈ as, ∃ b, R a b := by
  induction as with
  | nil => simp
  | cons a as ih =>
    rw [List.forall_mem_cons, ← ih]
    simp only [List.forall₂_cons_left_iff]
    constructor
    · rintro ⟨_, b, bs, hb, hbs, -⟩
      exact ⟨⟨b, hb⟩, bs, hbs⟩
    · rintro ⟨⟨b, hb⟩, bs, hbs⟩
      exact ⟨_, b, bs, hb, hbs, rfl⟩

/-- Each item of a list that is related to another is related to an item of that. -/
theorem exists_right_of_mem {R : α → β → Prop} {as : List α} {bs : List β}
    (h : List.Forall₂ R as bs) {a : α} (ha : a ∈ as) : ∃ b ∈ bs, R a b := by
  induction h with
  | nil => cases ha
  | cons hfirst _ ih =>
    rcases List.mem_cons.1 ha with rfl | ha
    · exact ⟨_, List.mem_cons_self, hfirst⟩
    · obtain ⟨b, hb, hrest⟩ := ih ha
      exact ⟨b, List.mem_cons_of_mem _ hb, hrest⟩

/-- The same from the right. -/
theorem exists_left_of_mem {R : α → β → Prop} {as : List α} {bs : List β}
    (h : List.Forall₂ R as bs) {b : β} (hb : b ∈ bs) : ∃ a ∈ as, R a b :=
  exists_right_of_mem h.flip hb

/-- A map over a list gives what the step gives at each item. -/
theorem mapM_eq_some {f : α → Option β} {as : List α} {bs : List β} :
    as.mapM f = some bs ↔ List.Forall₂ (fun a b => f a = some b) as bs := by
  induction as generalizing bs with
  | nil => simp [eq_comm]
  | cons a as ih =>
    simp only [List.mapM_cons, Option.bind_eq_bind, Option.bind_eq_some_iff, Option.pure_def,
      Option.some.injEq, List.forall₂_cons_left_iff]
    constructor
    · rintro ⟨b, hb, bs, hbs, rfl⟩
      exact ⟨b, bs, hb, ih.1 hbs, rfl⟩
    · rintro ⟨b, bs, hb, hbs, rfl⟩
      exact ⟨b, hb, bs, ih.2 hbs, rfl⟩

/-- A map over a list gives something if it does for every item. -/
theorem exists_mapM_eq_some {f : α → Option β} {as : List α} :
    (∃ bs, as.mapM f = some bs) ↔ ∀ a ∈ as, ∃ b, f a = some b := by
  simp only [mapM_eq_some, exists_forall₂]

/-- Two lists are mapped to the same one if that is so of what each item of a third is related
to. -/
theorem map_eq_map_of_forall₂ {γ δ : Type} {R : α → β → Prop} {S : α → γ → Prop} {f : β → δ}
    {g : γ → δ} (hsame : ∀ a b c, R a b → S a c → f b = g c) {as : List α} {bs : List β}
    {cs : List γ} (hbs : List.Forall₂ R as bs) (hcs : List.Forall₂ S as cs) :
    bs.map f = cs.map g := by
  induction hbs generalizing cs with
  | nil =>
    cases hcs
    rfl
  | cons hfirst _ ih =>
    obtain ⟨c, cs, hc, hrest, rfl⟩ := List.forall₂_cons_left_iff.1 hcs
    rw [List.map_cons, List.map_cons, ih hrest, hsame _ _ _ hfirst hc]

namespace Outcome

/-- A chain goes on with the answer of its first step. -/
@[simp]
theorem ok_bind (a : α) (f : α → Outcome β) : ((.ok a : Outcome α) >>= f) = f a := rfl

/-- A chain ends at the problem of its first step. -/
@[simp]
theorem error_bind (p : Problem) (f : α → Outcome β) :
    ((.error p : Outcome α) >>= f) = .error p := rfl

/-- Answering succeeds. -/
@[simp]
theorem pure_eq_ok (a : α) : (pure a : Outcome α) = .ok a := rfl

/-- A step succeeds if there is an answer. -/
theorem toBool_eq_true {ε : Type} {x : Except ε α} : x.toBool = true ↔ ∃ a, x = .ok a := by
  cases x <;> simp [Except.toBool]

/-- The answer of a step that succeeds. -/
theorem toOption_eq_some {x : Outcome α} {a : α} : x.toOption = some a ↔ x = .ok a := by
  cases x <;> simp [Except.toOption]

/-- A chain succeeds if both of its steps do. -/
theorem bind_eq_ok {x : Outcome α} {f : α → Outcome β} {b : β} :
    (x >>= f) = .ok b ↔ ∃ a, x = .ok a ∧ f a = .ok b := by
  cases x <;> simp

/-- A chain fails where its first step does, or else where the next one does. -/
theorem bind_eq_error {x : Outcome α} {f : α → Outcome β} {p : Problem} :
    (x >>= f) = .error p ↔ x = .error p ∨ ∃ a, x = .ok a ∧ f a = .error p := by
  cases x <;> simp

/-- Telling problems in other words does not change what succeeds. -/
theorem mapError_eq_ok {x : Outcome α} {f : Problem → Problem} {a : α} :
    x.mapError f = .ok a ↔ x = .ok a := by
  cases x <;> simp [Except.mapError]

/-- A map over a list succeeds if the step does at each item. -/
theorem mapM_eq_ok {f : α → Outcome β} {as : List α} {bs : List β} :
    as.mapM f = .ok bs ↔ List.Forall₂ (fun a b => f a = .ok b) as bs := by
  induction as generalizing bs with
  | nil => simp [eq_comm]
  | cons a as ih =>
    simp only [List.mapM_cons, bind_eq_ok, pure_eq_ok, Except.ok.injEq, List.forall₂_cons_left_iff]
    constructor
    · rintro ⟨b, hb, bs, hbs, rfl⟩
      exact ⟨b, bs, hb, ih.1 hbs, rfl⟩
    · rintro ⟨b, bs, hb, hbs, rfl⟩
      exact ⟨b, hb, bs, ih.2 hbs, rfl⟩

/-- A map over a list succeeds as soon as the step does at every item. -/
theorem exists_mapM_eq_ok {f : α → Outcome β} {as : List α} :
    (∃ bs, as.mapM f = .ok bs) ↔ ∀ a ∈ as, ∃ b, f a = .ok b := by
  simp only [mapM_eq_ok, exists_forall₂]

/-- Each answer of a map is the answer at some item. -/
theorem exists_of_mem_mapM {f : α → Outcome β} {as : List α} {bs : List β}
    (h : as.mapM f = .ok bs) {b : β} (hb : b ∈ bs) : ∃ a ∈ as, f a = .ok b :=
  exists_left_of_mem (mapM_eq_ok.1 h) hb

/-- What holds at the start of a fold, and after each of its steps, holds at its end. -/
theorem foldlM_induction {f : β → α → Outcome β} {motive : β → Prop}
    (step : ∀ b a b', motive b → f b a = .ok b' → motive b') {as : List α} {b c : β}
    (start : motive b) (h : as.foldlM f b = .ok c) : motive c := by
  induction as generalizing b with
  | nil => cases h; exact start
  | cons a as ih =>
    rw [List.foldlM_cons] at h
    obtain ⟨b', hstep, h⟩ := bind_eq_ok.1 h
    exact ih (step b a b' start hstep) h

/-- A fold that puts each answer behind those before it keeps what every single answer keeps. -/
theorem foldlM_concat_induction {f : List β → α → Outcome β} {motive : List β → Prop}
    {as : List α} {bs : List β} (hnil : motive [])
    (hconcat : ∀ before a b, motive before → f before a = .ok b → motive (before ++ [b]))
    (h : as.foldlM (fun before a => return before ++ [← f before a]) [] = .ok bs) : motive bs := by
  refine foldlM_induction ?_ hnil h
  intro before a after hbefore hstep
  obtain ⟨b, hb, hafter⟩ := bind_eq_ok.1 hstep
  cases hafter
  exact hconcat before a b hbefore hb

/-- A fold that puts each answer behind those before it answers the items one by one. -/
theorem forall₂_of_foldlM_concat {f : List β → α → Outcome β} {as : List α}
    {bs : List β} (h : as.foldlM (fun before a => return before ++ [← f before a]) [] = .ok bs) :
    List.Forall₂ (fun a b => ∃ before, f before a = .ok b) as bs := by
  suffices hfrom : ∀ start, as.foldlM (fun before a => return before ++ [← f before a]) start =
      .ok bs → ∃ new, bs = start ++ new ∧
        List.Forall₂ (fun a b => ∃ before, f before a = .ok b) as new by
    obtain ⟨new, rfl, hnew⟩ := hfrom [] h
    exact hnew
  clear h
  induction as with
  | nil =>
    rintro start ⟨⟩
    exact ⟨[], (List.append_nil _).symm, .nil⟩
  | cons a as ih =>
    intro start h
    rw [List.foldlM_cons] at h
    obtain ⟨after, hfirst, h⟩ := bind_eq_ok.1 h
    obtain ⟨b, hb, hafter⟩ := bind_eq_ok.1 hfirst
    cases hafter
    obtain ⟨new, rfl, hnew⟩ := ih _ h
    exact ⟨b :: new, by rw [List.append_assoc, List.singleton_append], .cons ⟨_, hb⟩ hnew⟩

/-- A check of every item of a list passes if each item passes. -/
theorem forM_eq_ok {f : α → Outcome Unit} {as : List α} (h : ∀ a ∈ as, f a = .ok ()) :
    as.forM f = .ok () := by
  induction as with
  | nil => rfl
  | cons a as ih =>
    rw [List.forM, h a (by simp), ok_bind]
    exact ih fun b hb => h b (by simp [hb])

/-- Where a check of every item passes, each item passes. -/
theorem ok_of_forM {f : α → Outcome Unit} {as : List α} (h : as.forM f = .ok ()) :
    ∀ a ∈ as, f a = .ok () := by
  induction as with
  | nil => simp
  | cons a as ih =>
    rw [List.forM] at h
    obtain ⟨_, ha, has⟩ := bind_eq_ok.1 h
    exact List.forall_mem_cons.2 ⟨ha, ih has⟩

/-! ## Which problems a step can meet -/

/-- Every problem that a step meets has a property. -/
def Meets (P : Problem → Prop) (x : Outcome α) : Prop := ∀ p, x = .error p → P p

variable {P : Problem → Prop}

/-- A success meets no problem. -/
theorem meets_ok (a : α) : Meets P (.ok a : Outcome α) := fun _ h => nomatch h

/-- Answering meets no problem. -/
theorem meets_pure (a : α) : Meets P (pure a : Outcome α) := meets_ok a

/-- A failure meets its own problem. -/
theorem meets_error {p : Problem} (hp : P p) : Meets P (.error p : Outcome α) := by
  rintro q ⟨⟩
  exact hp

/-- A chain meets the problems of its steps. -/
theorem meets_bind {x : Outcome α} {f : α → Outcome β} (hx : Meets P x)
    (hf : ∀ a, x = .ok a → Meets P (f a)) : Meets P (x >>= f) := by
  intro p hp
  rcases bind_eq_error.1 hp with h | ⟨a, ha, h⟩
  · exact hx p h
  · exact hf a ha p h

/-- Steps in a row meet the problems of each. -/
theorem meets_mapM {f : α → Outcome β} {as : List α} (hf : ∀ a ∈ as, Meets P (f a)) :
    Meets P (as.mapM f) := by
  induction as with
  | nil => exact meets_pure []
  | cons a as ih =>
    rw [List.mapM_cons]
    refine meets_bind (hf a (by simp)) fun b _ => ?_
    exact meets_bind (ih fun a ha => hf a (by simp [ha])) fun bs _ => meets_pure _

/-- Steps without answers meet the problems of each. -/
theorem meets_forM {f : α → Outcome Unit} {as : List α} (hf : ∀ a ∈ as, Meets P (f a)) :
    Meets P (as.forM f) := by
  induction as with
  | nil => exact meets_pure ()
  | cons a as ih =>
    rw [List.forM]
    exact meets_bind (hf a (by simp)) fun _ _ => ih fun b hb => hf b (by simp [hb])

/-- Steps that go on from one another meet the problems of each. -/
theorem meets_foldlM {f : β → α → Outcome β} (hf : ∀ b a, Meets P (f b a)) (as : List α) (b : β) :
    Meets P (as.foldlM f b) := by
  induction as generalizing b with
  | nil => exact meets_pure b
  | cons a as ih => exact meets_bind (hf b a) fun b' _ => ih b'

/-! ## Steps that agree -/

/-- Two steps meet the same problem, or both succeed with answers that are related. -/
inductive Agree (R : α → β → Prop) : Outcome α → Outcome β → Prop where
  | error (p : Problem) : Agree R (.error p) (.error p)
  | ok {a : α} {b : β} (related : R a b) : Agree R (.ok a) (.ok b)

namespace Agree

variable {γ δ : Type} {R : α → β → Prop}

/-- Equal outcomes agree. -/
theorem of_eq {R : α → α → Prop} (hR : ∀ a, R a a) {x y : Outcome α} (h : x = y) :
    Agree R x y := by
  subst h
  cases x with
  | error p => exact .error p
  | ok a => exact .ok (hR a)

/-- Outcomes that agree on equal answers are equal. -/
theorem eq {x y : Outcome α} (h : Agree (· = ·) x y) : x = y := by
  cases h with
  | error p => rfl
  | ok related => rw [related]

/-- Chains agree if their first steps do, and what comes after related answers does. -/
theorem bind {S : γ → δ → Prop} {x : Outcome α} {y : Outcome β} {f : α → Outcome γ}
    {g : β → Outcome δ} (h : Agree R x y) (hnext : ∀ a b, R a b → Agree S (f a) (g b)) :
    Agree S (x >>= f) (y >>= g) := by
  cases h with
  | error p => exact .error p
  | ok related => exact hnext _ _ related

/-- Maps over related lists agree if the steps at related items do. -/
theorem mapM {Q : γ → δ → Prop} {f : γ → Outcome α} {g : δ → Outcome β}
    (hstep : ∀ c d, Q c d → Agree R (f c) (g d)) {cs : List γ} {ds : List δ}
    (h : List.Forall₂ Q cs ds) : Agree (List.Forall₂ R) (cs.mapM f) (ds.mapM g) := by
  induction h with
  | nil => exact .ok .nil
  | cons hfirst _ ih =>
    rw [List.mapM_cons, List.mapM_cons]
    refine (hstep _ _ hfirst).bind fun a b hab => ?_
    exact ih.bind fun as bs hall => .ok (.cons hab hall)

end Agree

/-- Maps over related lists are the same if the steps at related items are. -/
theorem mapM_congr_of_forall₂ {γ δ : Type} {Q : γ → δ → Prop} {f : γ → Outcome α}
    {g : δ → Outcome α} (hstep : ∀ c d, Q c d → f c = g d) {cs : List γ} {ds : List δ}
    (h : List.Forall₂ Q cs ds) : cs.mapM f = ds.mapM g := by
  induction h with
  | nil => rfl
  | cons hfirst _ ih => rw [List.mapM_cons, List.mapM_cons, hstep _ _ hfirst, ih]

/-- Folds over related lists are the same if the steps at related items are. -/
theorem foldlM_congr_of_forall₂ {γ δ : Type} {Q : γ → δ → Prop} {f : β → γ → Outcome β}
    {g : β → δ → Outcome β} (hstep : ∀ b c d, Q c d → f b c = g b d) {cs : List γ} {ds : List δ}
    (h : List.Forall₂ Q cs ds) (b : β) : cs.foldlM f b = ds.foldlM g b := by
  induction h generalizing b with
  | nil => rfl
  | cons hfirst _ ih =>
    rw [List.foldlM_cons, List.foldlM_cons, hstep b _ _ hfirst]
    exact bind_congr fun after => ih after

end Outcome

end CliGen
