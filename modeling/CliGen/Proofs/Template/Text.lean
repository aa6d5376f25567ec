import CliGen.Proofs.Outcome
import CliGen.Template.Engine
import CliGen.Template.Pieces
import Mathlib.Data.List.Forall2

/-!
# Texts of templates

The text of a template is put together from the texts of its parts (`fill_append`). So what the
parts are known to show is found again in the text of the whole: at its beginning and further on
(`render_from`), or somewhere inside (`render_within`).
-/

namespace CliGen.Template

open Outcome

variable {helpers : Helpers} {scopes : List Scope}

/-- A template is filled in piece by piece. -/
theorem fill_cons_eq_some {p : Piece} {ps : List Piece} {s : String} :
    fill helpers scopes (p :: ps) = some s ↔ ∃ a b, fillPiece helpers scopes p = some a ∧
      fill helpers scopes ps = some b ∧ s = a ++ b := by
  rw [fill]
  constructor
  · intro h
    obtain ⟨a, ha, h⟩ := Option.bind_eq_some_iff.1 h
    obtain ⟨b, hb, h⟩ := Option.bind_eq_some_iff.1 h
    exact ⟨a, b, ha, hb, (Option.some.inj h).symm⟩
  · rintro ⟨a, b, ha, hb, rfl⟩
    rw [ha, hb]
    rfl

/-- A template is filled in part by part. -/
theorem fill_append_eq_some {ps qs : List Piece} {s : String} :
    fill helpers scopes (ps ++ qs) = some s ↔ ∃ a b, fill helpers scopes ps = some a ∧
      fill helpers scopes qs = some b ∧ s = a ++ b := by
  induction ps generalizing s with
  | nil => simp [fill]
  | cons p ps ih =>
    rw [List.cons_append, fill_cons_eq_some]
    constructor
    · rintro ⟨a, b, ha, hb, rfl⟩
      obtain ⟨c, d, hc, hd, rfl⟩ := ih.1 hb
      exact ⟨a ++ c, d, fill_cons_eq_some.2 ⟨a, c, ha, hc, rfl⟩, hd, String.append_assoc.symm⟩
    · rintro ⟨ac, d, hac, hd, rfl⟩
      obtain ⟨a, c, ha, hc, rfl⟩ := fill_cons_eq_some.1 hac
      exact ⟨a, c ++ d, ha, ih.2 ⟨c, d, hc, hd, rfl⟩, String.append_assoc⟩

/-! ## Values in scope -/

/-- The value at hand is the one of the innermost scope. -/
theorem value_this (scope : Scope) : this.value (scope :: scopes) = scope.value := rfl

/-- A field is looked up in the innermost scope. -/
theorem value_field {scope : Scope} {key : String} {v : Value} (h : scope.value.get? key = some v) :
    (field key).value (scope :: scopes) = v := by
  simp [field, Arg.value, Ref.find?, follow, h]

/-- A field of the scope around is looked up there. -/
theorem value_outer {scope around : Scope} {key : String} {v : Value}
    (h : around.value.get? key = some v) : (outer key).value (scope :: around :: scopes) = v := by
  simp [outer, Arg.value, Ref.find?, follow, h]

/-! ## Pieces whose text is known -/

/-- An empty template writes nothing. -/
@[simp]
theorem fill_nil : fill helpers scopes [] = some "" := by rw [fill]

/-- A text is written as it is. -/
@[simp]
theorem fill_text (s : String) (ps : List Piece) :
    fill helpers scopes (text s :: ps) = (fill helpers scopes ps).map (s ++ ·) := by
  rw [fill, text, fillPiece]
  cases fill helpers scopes ps <;> rfl

/-- Lines are written as they are, each with its end. -/
@[simp]
theorem fill_lines (ls : List String) (ps : List Piece) :
    fill helpers scopes (lines ls :: ps) =
      (fill helpers scopes ps).map (String.join (ls.map (· ++ "\n")) ++ ·) := fill_text _ ps

/-- A place where a text is found, unless its name is a helper's. -/
structure ShowsAt (helpers : Helpers) (scopes : List Scope) (r : Ref) (s : String) : Prop where
  isPlain : r.plainName?.bind (helpers.lookup ·) = none
  value : r.find? scopes = some (.str s)

/-- A reference writes what it shows. -/
theorem fill_shown {r : Ref} {s : String} (h : ShowsAt helpers scopes r s) (ps : List Piece) :
    fill helpers scopes (.shown r :: ps) = (fill helpers scopes ps).map (s ++ ·) := by
  have hpiece : fillPiece helpers scopes (.shown r) = some s := by
    simp only [fillPiece, h.isPlain, h.value]
    rfl
  rw [fill, hpiece]
  cases fill helpers scopes ps <;> rfl

/-- A reference on its own writes what it shows. -/
theorem ShowsAt.fill {r : Ref} {s : String} (h : ShowsAt helpers scopes r s) :
    Template.fill helpers scopes [.shown r] = some s := by
  rw [fill_shown h, fill_nil, Option.map_some, String.append_empty]

/-- A field of the value in scope. -/
theorem ShowsAt.here {scope : Scope} {key s : String} (hplain : helpers.lookup key = none)
    (hvalue : scope.value.get? key = some (.str s)) :
    ShowsAt helpers (scope :: scopes) (.keys 0 [key]) s where
  isPlain := hplain
  value := by simp [Ref.find?, follow, hvalue]

/-- A field of the value one scope further out. -/
theorem ShowsAt.outer {scope around : Scope} {key s : String}
    (hvalue : around.value.get? key = some (.str s)) :
    ShowsAt helpers (scope :: around :: scopes) (.keys 1 [key]) s where
  isPlain := rfl
  value := by simp [Ref.find?, follow, hvalue]

/-- A field of the context whose value is a text, and whose key is no helper's name. -/
structure Shows (helpers : Helpers) (v : Value) (key s : String) : Prop where
  isPlain : helpers.lookup key = none
  value : v.get? key = some (.str s)

variable {v : Value}

/-- A field writes what it shows. -/
theorem fill_put {key s : String} (h : Shows helpers v key s) (ps : List Piece) :
    fill helpers [.outermost v] (put key :: ps) =
      (fill helpers [.outermost v] ps).map (s ++ ·) :=
  fill_shown (.here h.isPlain h.value) ps

/-- A helper makes a text of the argument that it is called with. -/
theorem fill_call {name s : String} {helper : Helper} {arg : Arg}
    (hlookup : helpers.lookup name = some helper) (hs : helper [arg.value scopes] = some s)
    (ps : List Piece) : fill helpers scopes (call name arg :: ps) =
      (fill helpers scopes ps).map (s ++ ·) := by
  have hpiece : fillPiece helpers scopes (call name arg) = some s := by
    simp only [call, fillPiece, hlookup, Option.bind_some, List.map_cons, List.map_nil, hs]
  rw [fill, hpiece]
  cases fill helpers scopes ps <;> rfl

/-- A template that is left out or stands in place of its choice. -/
theorem fill_whenTrue {subject : Arg} {body : Template} {s : String}
    (hbody : isTrue (subject.value scopes) = true → fill helpers scopes body = some s)
    (ps : List Piece) : fill helpers scopes (whenTrue subject body :: ps) =
      (fill helpers scopes ps).map
        ((if isTrue (subject.value scopes) = true then s else "") ++ ·) := by
  have hpiece : fillPiece helpers scopes (whenTrue subject body) =
      some (if isTrue (subject.value scopes) = true then s else "") := by
    simp only [whenTrue, fillPiece]
    split
    next htrue => exact hbody htrue
    next => rw [fill_nil]
  rw [fill, hpiece]
  cases fill helpers scopes ps <;> rfl

/-- A text of the context between two other texts. -/
theorem fill_between {key s : String} (h : Shows helpers v key s) (a b : String) :
    fill helpers [.outermost v] [text a, put key, text b] = some (a ++ s ++ b) := by
  rw [fill_text, fill_put h, fill_text, fill_nil]
  simp [String.append_assoc]

/-- A text of the context is shown in one line. -/
theorem fill_one_line {key s : String}
    (hhelper : helpers.lookup "one_line" = some (Helper.ofText Text.oneLine))
    (hvalue : v.get? key = some (.str s)) (ps : List Piece) :
    fill helpers [.outermost v] (call "one_line" (field key) :: ps) =
      (fill helpers [.outermost v] ps).map (Text.oneLine s ++ ·) := by
  refine fill_call hhelper ?_ ps
  rw [value_field hvalue]
  rfl

/-! ## Loops -/

/-- A loop over a list has one scope for each item. -/
theorem Scope.map_value_loop (items : List Value) :
    (Scope.loop (.list items)).map (·.value) = items := by
  rw [loop, ofLoop, List.map_map]
  show List.map ((fun own : Value × Fields => own.1) ∘ Prod.fst) _ = items
  rw [← List.map_map, List.zipIdx_map_fst, List.map_map]
  exact List.zipIdx_map_fst 0 items

/-- The template that a loop fills in for each item. -/
def Piece.body : Piece → Template
  | .each _ body _ => body
  | _ => []

/-- The text of a loop over a list is made of one text for each item. -/
theorem fill_forEach {subject : Arg} {body : Template} {ps : List Piece} {s : String}
    {items : List Value} (hitems : subject.value scopes = .list items)
    (h : fill helpers scopes (forEach subject body :: ps) = some s) :
    ∃ texts rest, s = String.join texts ++ rest ∧ fill helpers scopes ps = some rest ∧
      List.Forall₂ (fun item text => ∃ scope : Scope, scope.value = item ∧
        fill helpers (scope :: scopes) body = some text) items texts := by
  obtain ⟨a, rest, ha, hrest, rfl⟩ := fill_cons_eq_some.1 h
  have hloop : ∃ texts, a = String.join texts ∧ List.Forall₂
      (fun scope text => fill helpers (scope :: scopes) body = some text)
      (Scope.loop (.list items)) texts := by
    simp only [forEach, fillPiece, hitems] at ha
    split at ha
    next hnone =>
      rw [fill_nil] at ha
      rw [hnone]
      exact ⟨[], (Option.some.inj ha).symm, .nil⟩
    next =>
      obtain ⟨texts, htexts, rfl⟩ := Option.map_eq_some_iff.1 ha
      exact ⟨texts, rfl, mapM_eq_some.1 htexts⟩
  obtain ⟨texts, rfl, htexts⟩ := hloop
  refine ⟨texts, rest, rfl, hrest, ?_⟩
  rw [← Scope.map_value_loop items, List.forall₂_map_left_iff]
  exact htexts.imp fun scope text hscope => ⟨scope, rfl, hscope⟩

/-- What two parts of a template show is found in the text, one after the other. -/
theorem fill_two {before part between part' after : Template} {s s' text : String}
    (hpart : fill helpers scopes part = some s) (hpart' : fill helpers scopes part' = some s')
    (h : fill helpers scopes (before ++ part ++ (between ++ part' ++ after)) = some text) :
    ∃ a b d, text = a ++ s ++ (b ++ s' ++ d) := by
  obtain ⟨x, y, hx, hy, rfl⟩ := fill_append_eq_some.1 h
  obtain ⟨a, c, -, hc, rfl⟩ := fill_append_eq_some.1 hx
  obtain ⟨bc, d, hbc, -, rfl⟩ := fill_append_eq_some.1 hy
  obtain ⟨b, c', -, hc', rfl⟩ := fill_append_eq_some.1 hbc
  rw [hpart] at hc
  rw [hpart'] at hc'
  cases hc
  cases hc'
  exact ⟨a, b, d, rfl⟩

/-! ## Named templates -/

variable {e : Engine} {name : String} {text : String}

/-- Rendering fills in the template of that name. -/
theorem Engine.render_eq_ok : e.render name v = .ok text ↔ ∃ t, e.templates.lookup name = some t ∧
    fill e.helpers [.outermost v] t = some text := by
  rw [Engine.render]
  cases e.templates.lookup name with
  | none => simp
  | some t => cases hfill : fill e.helpers [.outermost v] t <;> simp [hfill]

/-- What is rendered is what the template of that name writes. -/
theorem Engine.fill_of_render {t : Template} (ht : e.templates.lookup name = some t)
    (h : e.render name v = .ok text) : fill e.helpers [.outermost v] t = some text := by
  obtain ⟨u, hu, hfill⟩ := Engine.render_eq_ok.1 h
  rw [ht, Option.some.injEq] at hu
  rwa [hu]

/-- What a part of a template shows is somewhere in the text. -/
theorem Engine.render_within {before part after : Template} {s : String}
    (ht : e.templates.lookup name = some (before ++ part ++ after))
    (hpart : fill e.helpers [.outermost v] part = some s) (h : e.render name v = .ok text) :
    ∃ a b, text = a ++ s ++ b := by
  have hfill := Engine.fill_of_render ht h
  obtain ⟨ab, c, hab, -, rfl⟩ := fill_append_eq_some.1 hfill
  obtain ⟨a, b, -, hb, rfl⟩ := fill_append_eq_some.1 hab
  rw [hpart] at hb
  cases hb
  exact ⟨a, c, rfl⟩

/-- The text begins with what the first part shows, and what another part shows comes later. -/
theorem Engine.render_from {first between part after : Template} {s s' : String}
    (ht : e.templates.lookup name = some (first ++ (between ++ part ++ after)))
    (hfirst : fill e.helpers [.outermost v] first = some s)
    (hpart : fill e.helpers [.outermost v] part = some s') (h : e.render name v = .ok text) :
    ∃ a b, text = s ++ (a ++ s' ++ b) := by
  have hfill := Engine.fill_of_render ht h
  obtain ⟨a, rest, ha, hrest, rfl⟩ := fill_append_eq_some.1 hfill
  obtain ⟨bc, d, hbc, -, rfl⟩ := fill_append_eq_some.1 hrest
  obtain ⟨b, c, -, hc, rfl⟩ := fill_append_eq_some.1 hbc
  rw [hfirst] at ha
  rw [hpart] at hc
  cases ha
  cases hc
  exact ⟨b, d, rfl⟩

/-- The text begins with what the first part shows. -/
theorem Engine.render_starts {first after : Template} {s : String}
    (ht : e.templates.lookup name = some (first ++ after))
    (hfirst : fill e.helpers [.outermost v] first = some s) (h : e.render name v = .ok text) :
    ∃ b, text = s ++ b := by
  have hfill := Engine.fill_of_render ht h
  obtain ⟨a, b, ha, -, rfl⟩ := fill_append_eq_some.1 hfill
  rw [hfirst] at ha
  cases ha
  exact ⟨b, rfl⟩

/-- The text begins with a text in one line, and another one after it. -/
theorem Engine.render_commented {a b x y key key' s s' : String} {after : Template}
    (ht : e.templates.lookup name = some ([Template.text a, call "one_line" (field key),
      Template.text b] ++ [Template.text x, put key', Template.text y] ++ after))
    (hhelper : e.helpers.lookup "one_line" = some (Helper.ofText Text.oneLine))
    (hs : v.get? key = some (.str s)) (hs' : Shows e.helpers v key' s')
    (h : e.render name v = .ok text) :
    ∃ rest, text = a ++ Text.oneLine s ++ b ++ (x ++ s' ++ y ++ rest) := by
  have hcomment : fill e.helpers [.outermost v]
      [Template.text a, call "one_line" (field key), Template.text b] =
        some (a ++ Text.oneLine s ++ b) := by
    rw [fill_text, fill_one_line hhelper hs, fill_text, fill_nil]
    simp [String.append_assoc]
  have hfirst := fill_append_eq_some.2 ⟨_, _, hcomment, fill_between hs' x y, rfl⟩
  obtain ⟨rest, rfl⟩ := Engine.render_starts ht hfirst h
  exact ⟨rest, String.append_assoc⟩

/-- A text that the template shows is somewhere in the text. -/
theorem Engine.render_put {t : Template} {key s : String} (ht : e.templates.lookup name = some t)
    (hmem : put key ∈ t) (hs : Shows e.helpers v key s) (h : e.render name v = .ok text) :
    ∃ a b, text = a ++ s ++ b := by
  obtain ⟨before, after, rfl⟩ := List.append_of_mem hmem
  have hsplit : e.templates.lookup name = some (before ++ [put key] ++ after) := by
    rw [ht, List.append_assoc, List.singleton_append]
  have hshown : ShowsAt e.helpers [.outermost v] (.keys 0 [key]) s := .here hs.isPlain hs.value
  exact Engine.render_within hsplit hshown.fill h

/-- So is a text that the template shows between a line and another text. -/
theorem Engine.render_framed {before after : Template} {ls : List String} {l key closing s : String}
    (ht : e.templates.lookup name =
      some (before ++ [lines (ls ++ [l]), put key, Template.text closing] ++ after))
    (hs : Shows e.helpers v key s) (h : e.render name v = .ok text) :
    ∃ a b, text = a ++ (l ++ "\n" ++ s ++ closing) ++ b := by
  have hframe : fill e.helpers [.outermost v] [lines (ls ++ [l]), put key, Template.text closing] =
      some (String.join (ls.map (· ++ "\n")) ++ (l ++ "\n" ++ s ++ closing)) := by
    rw [fill_lines, fill_put hs, fill_text, fill_nil]
    simp [String.append_assoc]
  obtain ⟨a, b, rfl⟩ := Engine.render_within ht hframe h
  exact ⟨a ++ String.join (ls.map (· ++ "\n")), b, by simp only [String.append_assoc]⟩

end CliGen.Template
