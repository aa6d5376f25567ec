import CliGen.Template.Engine
import Mathlib.Data.List.Forall2

/-!
# Shapes of contexts

What is known of the values that templates are filled in with: which fields are texts, truth values
or lists, and which are missing or something of these. What a template is given has the shape that
is known from the shapes of its scopes (`Known.holds_value`), and where a subject is true, its field
is not missing (`Known.of_isTrue`).
-/

namespace CliGen

/-! ## Fields of extended objects -/

/-- Extending mappings keeps the fields that are not extended. -/
theorem Fields.get?_extend (fields extra : Fields) {key : String}
    (h : key ∉ extra.map (·.1)) : (fields.extend extra).get? key = fields.get? key := by
  induction extra generalizing fields with
  | nil => rfl
  | cons e extra ih =>
    rw [List.map_cons, List.mem_cons, not_or] at h
    rw [extend, List.foldl_cons, ← extend, ih _ h.2, get?_put, if_neg (Ne.symm h.1)]

/-- A field that an extension does not set is as it was. -/
theorem Value.field_extend (v : Value) (extra : Fields) {key : String}
    (h : key ∉ extra.map (·.1)) : (v.extend (.object extra)).field key = v.field key := by
  cases v with
  | object fields => exact congrArg (Option.getD · .null) (Fields.get?_extend fields extra h)
  | _ => rfl

namespace Template

/-! ## Shapes -/

/-- What is known of a value. -/
inductive Shape where
  /-- Nothing. -/
  | any
  | text
  | truth
  /-- It is null, or has a shape. -/
  | optional (s : Shape)
  /-- It is a list whose items have a shape. -/
  | list (item : Shape)
  /-- Some of its fields have shapes. -/
  | fields (known : List (String × Shape))

namespace Shape

/-- A value has a shape. -/
inductive Holds : Shape → Value → Prop where
  | any (v : Value) : Holds .any v
  | text (s : String) : Holds .text (.str s)
  | truth (b : Bool) : Holds .truth (.bool b)
  | absent (s : Shape) : Holds (.optional s) .null
  | given {s : Shape} {v : Value} (h : Holds s v) : Holds (.optional s) v
  | list {item : Shape} {items : List Value} (h : ∀ v ∈ items, Holds item v) :
    Holds (.list item) (.list items)
  | fields {known : List (String × Shape)} {v : Value}
    (h : ∀ f ∈ known, Holds f.2 (v.field f.1)) : Holds (.fields known) v

/-- The shape of a field. -/
def field (s : Shape) (key : String) : Shape :=
  match s with
  | fields known => (known.lookup key).getD any
  | _ => any

/-- The shape of the items of a list. -/
def item : Shape → Shape
  | list s => s
  | _ => any

/-- The shape of a value that is not null. -/
def present : Shape → Shape
  | optional s => s
  | s => s

/-- The shape of a value one of whose fields is not null. -/
def withField (key : String) : Shape → Shape
  | fields known => fields (known.map fun f => (f.1, if f.1 = key then f.2.present else f.2))
  | s => s

/-- Whether values of one shape can stand where another shape is wanted. -/
def fits : Shape → Shape → Bool
  | _, any => true
  | text, text => true
  | truth, truth => true
  | list s, list wanted => s.fits wanted
  | _, _ => false

variable {s : Shape} {v : Value}

namespace Holds

/-- A field has the shape that the shape of the mapping tells. -/
theorem field (h : s.Holds v) (key : String) : (s.field key).Holds (v.field key) := by
  cases h with
  | fields h =>
    rename_i known
    dsimp only [Shape.field]
    cases hlookup : known.lookup key with
    | none => exact .any _
    | some found =>
      obtain ⟨before, after, rfl, -⟩ := List.lookup_eq_some_iff.1 hlookup
      exact h (key, found) (by simp)
  | _ => exact .any _

/-- A value that is not null has the shape without null. -/
theorem present (h : s.Holds v) (hv : v ≠ .null) : s.present.Holds v := by
  cases h with
  | absent => exact absurd rfl hv
  | given h => exact h
  | any => exact .any _
  | text => exact .text _
  | truth => exact .truth _
  | list h => exact .list h
  | fields h => exact .fields h

/-- A mapping whose field is not null has the shape that says so. -/
theorem withField (h : s.Holds v) {key : String} (hv : v.field key ≠ .null) :
    (s.withField key).Holds v := by
  cases h with
  | fields h =>
    refine .fields fun f hf => ?_
    obtain ⟨g, hg, rfl⟩ := List.mem_map.1 hf
    dsimp only
    split
    next heq => exact (h g hg).present (heq ▸ hv)
    next => exact h g hg
  | absent => exact .absent _
  | given h => exact .given h
  | any => exact .any _
  | text => exact .text _
  | truth => exact .truth _
  | list h => exact .list h

/-- A value keeps its shape where it is extended by fields of which nothing is known. -/
theorem extend {known : List (String × Shape)} (h : (Shape.fields known).Holds v) (extra : Fields)
    (hkeys : ∀ f ∈ known, f.1 ∉ extra.map (·.1)) :
    (Shape.fields known).Holds (v.extend (.object extra)) := by
  cases h with
  | fields h =>
    refine .fields fun f hf => ?_
    rw [Value.field_extend v extra (hkeys f hf)]
    exact h f hf

/-- A value of a shape has every shape that this one fits. -/
theorem of_fits {wanted : Shape} (h : s.Holds v) (hfits : s.fits wanted = true) :
    wanted.Holds v := by
  induction h generalizing wanted with
  | list h ih =>
    cases wanted with
    | any => exact .any _
    | list wanted => exact .list fun v hv => ih v hv hfits
    | _ => cases hfits
  | text => cases wanted <;> first | exact .any _ | exact .text _ | cases hfits
  | truth => cases wanted <;> first | exact .any _ | exact .truth _ | cases hfits
  | _ => cases wanted <;> first | exact .any _ | cases hfits

private theorem value_mem_of_mem_ofLoop {items : List (Value × Fields)} {scope : Scope}
    (h : scope ∈ Scope.ofLoop items) : scope.value ∈ items.map (·.1) := by
  obtain ⟨⟨⟨v, own⟩, i⟩, hmem, rfl⟩ := List.mem_map.1 h
  exact List.mem_map_of_mem (List.fst_mem_of_mem_zipIdx hmem)

/-- The scopes of a loop have the shape of a list's items. -/
theorem loop (h : s.Holds v) {scope : Scope} (hscope : scope ∈ Scope.loop v) :
    s.item.Holds scope.value := by
  cases h with
  | list h =>
    have hmem := value_mem_of_mem_ofLoop hscope
    rw [List.map_map] at hmem
    obtain ⟨⟨w, i⟩, hw, rfl⟩ := List.mem_map.1 hmem
    exact h _ (List.fst_mem_of_mem_zipIdx hw)
  | _ => exact .any _

end Holds

end Shape

/-! ## Scopes -/

/-- Scopes have shapes, from the innermost outwards. -/
def Known (shapes : List Shape) (scopes : List Scope) : Prop :=
  List.Forall₂ (fun s scope => s.Holds scope.value) shapes scopes

/-- What is known of the value of a place. -/
def Ref.shape (shapes : List Shape) : Ref → Shape
  | keys outward path => path.foldl Shape.field (((shapes[outward]?).or shapes.head?).getD .any)
  | loop _ => .any

/-- What is known of a value that is given. -/
def Arg.shape (shapes : List Shape) : Arg → Shape
  | ref r => r.shape shapes
  | literal _ => .any

/-- What is known of scopes where a subject is true. -/
def narrow (subject : Arg) (shapes : List Shape) : List Shape :=
  match subject, shapes with
  | .ref (.keys 0 [key]), s :: outer => s.withField key :: outer
  | _, _ => shapes

namespace Known

variable {shapes : List Shape} {scopes : List Scope}

private theorem holds_follow {s : Shape} {v : Value} (h : s.Holds v) (path : List String) :
    (path.foldl Shape.field s).Holds ((follow path v).getD .null) := by
  induction path generalizing s v with
  | nil => exact h
  | cons key path ih =>
    rw [List.foldl_cons, follow]
    have hfield := ih (h.field key)
    cases hget : v.get? key with
    | some w => rwa [Value.field, hget] at hfield
    | none =>
      rw [Value.field, hget] at hfield
      cases path <;> exact hfield

private theorem getElem? (h : Known shapes scopes) (outward : Nat) :
    Option.Rel (fun s scope => s.Holds scope.value) shapes[outward]? scopes[outward]? := by
  induction h generalizing outward with
  | nil => exact .none
  | cons hs _ ih =>
    cases outward with
    | zero => exact .some hs
    | succ outward => exact ih outward

private theorem reached (h : Known shapes scopes) (outward : Nat) :
    Option.Rel (fun s scope => s.Holds scope.value)
      ((shapes[outward]?).or shapes.head?) ((scopes[outward]?).or scopes.head?) := by
  have hnear := h.getElem? outward
  -- There is nothing that far out on both sides or on neither, so both fall back on their heads.
  cases h with
  | nil => exact .none
  | @cons s scope shapes scopes hs _ =>
    generalize (s :: shapes)[outward]? = found at hnear
    generalize (scope :: scopes)[outward]? = scope? at hnear
    cases hnear with
    | some hs => exact .some hs
    | none => exact .some hs

/-- What is given has the shape that is known of it. -/
theorem holds_value (h : Known shapes scopes) (a : Arg) :
    (a.shape shapes).Holds (a.value scopes) := by
  cases a with
  | literal v => exact .any v
  | ref r =>
    cases r with
    | loop name => exact .any _
    | keys outward path =>
      have hreached := h.reached outward
      dsimp only [Arg.shape, Ref.shape, Arg.value, Ref.find?]
      generalize (shapes[outward]?).or shapes.head? = found at hreached
      generalize (scopes[outward]?).or scopes.head? = scope? at hreached
      cases hreached with
      | some hs => exact holds_follow hs path
      | none =>
        have hany := holds_follow (Shape.Holds.any .null) path
        cases path <;> exact hany

/-- More is known where a subject is true. -/
theorem of_isTrue (h : Known shapes scopes) {subject : Arg}
    (htrue : isTrue (subject.value scopes) = true) : Known (narrow subject shapes) scopes := by
  unfold narrow
  split
  next key s outer =>
    cases h with
    | @cons _ scope _ scopes hs houter =>
      refine .cons (hs.withField ?_) houter
      have hfield : (Arg.ref (.keys 0 [key])).value (scope :: scopes) = scope.value.field key := by
        simp [Arg.value, Ref.find?, follow, Value.field]
      rw [← hfield]
      rintro hnull
      rw [hnull] at htrue
      cases htrue
  next => exact h

end Known

end Template

end CliGen
