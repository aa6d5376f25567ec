import CliGen.Proofs.Template.Text

/-!
# What pieces show of fields

Values of fields that may be missing, the texts that helpers and loops make of them, and texts that
stand somewhere in another one (`Holds`).
-/

namespace CliGen

/-- A text stands somewhere in another one. -/
def Holds (text part : String) : Prop := ∃ before after, text = before ++ part ++ after

/-- What stands in a part of a text stands in the text. -/
theorem Holds.trans {text part inner : String} (h : Holds text part) (h' : Holds part inner) :
    Holds text inner := by
  obtain ⟨a, b, rfl⟩ := h
  obtain ⟨c, d, rfl⟩ := h'
  exact ⟨a ++ c, d ++ b, by simp only [String.append_assoc]⟩

/-- Every part stands in the text that is put together. -/
theorem holds_join {texts : List String} {s : String} (h : s ∈ texts) :
    Holds (String.join texts) s := by
  obtain ⟨before, after, rfl⟩ := List.append_of_mem h
  exact ⟨String.join before, String.join after, by
    rw [String.join_append, String.join_cons, String.append_assoc]⟩

namespace Template

variable {helpers : Helpers} {scopes : List Scope} {scope around : Scope}

/-- A field is looked up in the innermost scope, and is null if it is not there. -/
theorem value_field_eq (scope : Scope) (key : String) :
    (field key).value (scope :: scopes) = scope.value.field key := by
  simp only [field, Arg.value, Ref.find?, List.getElem?_cons_zero, Option.some_or, Option.bind_some,
    follow, Value.field]
  cases scope.value.get? key <;> rfl

/-- So is a field of the scope around. -/
theorem value_outer_eq (scope around : Scope) (key : String) :
    (outer key).value (scope :: around :: scopes) = around.value.field key := by
  simp only [outer, Arg.value, Ref.find?, List.getElem?_cons_succ, List.getElem?_cons_zero,
    Option.some_or, Option.bind_some, follow, Value.field]
  cases around.value.get? key <;> rfl

/-- A helper of any value. -/
theorem fill_ofValue {name : String} {f : Value → String}
    (hlookup : helpers.lookup name = some (Helper.ofValue f)) (arg : Arg) (ps : List Piece) :
    fill helpers scopes (call name arg :: ps) =
      (fill helpers scopes ps).map (f (arg.value scopes) ++ ·) :=
  fill_call hlookup rfl ps

/-- A field is shown, as nothing where it is missing. -/
theorem fill_put_field {key : String} (hplain : helpers.lookup key = none) (scope : Scope)
    (ps : List Piece) : fill helpers (scope :: scopes) (put key :: ps) =
      (fill helpers (scope :: scopes) ps).map (shownText (scope.value.field key) ++ ·) := by
  have hpiece : fillPiece helpers (scope :: scopes) (put key) =
      some (shownText (scope.value.field key)) := by
    simp only [put, fillPiece, Ref.plainName?, Option.bind_some, hplain, Ref.find?,
      List.getElem?_cons_zero, Option.some_or, follow, Value.field]
    cases scope.value.get? key <;> rfl
  rw [fill, hpiece]
  cases fill helpers (scope :: scopes) ps <;> rfl

/-- One of two templates. -/
theorem fill_either {subject : Arg} {body otherwise : Template} {s s' : String}
    (hbody : fill helpers scopes body = some s)
    (hotherwise : fill helpers scopes otherwise = some s') (ps : List Piece) :
    fill helpers scopes (either subject body otherwise :: ps) =
      (fill helpers scopes ps).map
        ((if isTrue (subject.value scopes) = true then s else s') ++ ·) := by
  have hpiece : fillPiece helpers scopes (either subject body otherwise) =
      some (if isTrue (subject.value scopes) = true then s else s') := by
    simp only [either, fillPiece, hbody, hotherwise]
    split <;> rfl
  rw [fill, hpiece]
  cases fill helpers scopes ps <;> rfl

/-- The text of a loop whose body makes a known text of each item. -/
theorem fill_forEach_of_body {subject : Arg} {body ps : Template} {s : String}
    {items : List Value} {f : Value → String} (hitems : subject.value scopes = .list items)
    (hbody : ∀ item ∈ items, ∀ scope : Scope, scope.value = item →
      fill helpers (scope :: scopes) body = some (f item))
    (h : fill helpers scopes (forEach subject body :: ps) = some s) :
    ∃ rest, s = String.join (items.map f) ++ rest ∧ fill helpers scopes ps = some rest := by
  obtain ⟨texts, rest, rfl, hrest, htexts⟩ := fill_forEach hitems h
  -- The texts are those of the items, one after the other.
  have hmap : texts = items.map f := by
    clear hitems h hrest
    induction htexts with
    | nil => rfl
    | cons hitem _ ih =>
      rw [List.forall_mem_cons] at hbody
      obtain ⟨scope, hscope, hfill⟩ := hitem
      rw [hbody.1 scope hscope, Option.some.injEq] at hfill
      rw [List.map_cons, hfill, ih hbody.2]
  exact ⟨rest, by rw [hmap], hrest⟩

/-- What the body of a loop shows from around it is somewhere in the text, if the loop has an
item. -/
theorem Engine.render_each {e : Engine} {name key list s text : String} {v : Value}
    {t body : Template} {items : List Value} (ht : e.templates.lookup name = some t)
    (hloop : forEach (field list) body ∈ t) (hput : putOuter key ∈ body)
    (hitems : v.get? list = some (.list items)) (hne : items ≠ [])
    (hs : v.get? key = some (.str s)) (h : e.render name v = .ok text) : Holds text s := by
  obtain ⟨before, after, rfl⟩ := List.append_of_mem hloop
  obtain ⟨inside, behind, rfl⟩ := List.append_of_mem hput
  obtain ⟨front, loop, -, hfill, rfl⟩ := fill_append_eq_some.1 (Engine.fill_of_render ht h)
  obtain ⟨texts, rest, rfl, -, htexts⟩ := fill_forEach (value_field hitems) hfill
  -- The first item shows it, and the loop shows the first item.
  obtain ⟨item, items, rfl⟩ := List.exists_cons_of_ne_nil hne
  obtain ⟨first, texts, ⟨scope, -, hfirst⟩, -, rfl⟩ := List.forall₂_cons_left_iff.1 htexts
  obtain ⟨a, b, -, hb, rfl⟩ := fill_append_eq_some.1 hfirst
  rw [putOuter, fill_shown (.outer hs)] at hb
  obtain ⟨b, -, rfl⟩ := Option.map_eq_some_iff.1 hb
  exact ⟨front ++ a, b ++ String.join texts ++ rest, by simp [String.append_assoc]⟩

end Template

end CliGen
