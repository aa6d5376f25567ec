import CliGen.Proofs.Outcome
import CliGen.Proofs.Template.Shape

/-!
# Safe templates

`Template.isSafe` checks a template against the shapes of its scopes: no helper is unknown, and none
is given what it may refuse. A safe template is filled in by every context of its shape
(`Template.fill_of_isSafe`), and so are the templates of an engine whose helpers want what their
signatures tell (`Engine.Typed.render_ok`).
-/

namespace CliGen.Template

/-! ## Helpers -/

/-- The shapes that helpers want of what they are given. -/
abbrev Signatures := List (String × List Shape)

/-- A helper makes a text of all that has the shapes it wants. -/
def Helper.Takes (helper : Helper) (wanted : List Shape) : Prop :=
  ∀ args, List.Forall₂ Shape.Holds wanted args → ∃ text, helper args = some text

/-- Helpers want what their signatures tell. -/
def Signatures.Describe (signatures : Signatures) (helpers : Helpers) : Prop :=
  List.Forall₂ (fun s h => s.1 = h.1 ∧ h.2.Takes s.2) signatures helpers

/-- A helper and its signature are found by the same name. -/
theorem Signatures.Describe.lookup {signatures : Signatures} {helpers : Helpers}
    (h : signatures.Describe helpers) (name : String) :
    Option.Rel (fun wanted helper => Helper.Takes helper wanted)
      (signatures.lookup name) (helpers.lookup name) := by
  induction h with
  | nil => exact .none
  | @cons s helper signatures helpers hs _ ih =>
    obtain ⟨own, wanted⟩ := s
    obtain ⟨_, helper⟩ := helper
    obtain ⟨rfl, htakes⟩ := hs
    rw [List.lookup_cons, List.lookup_cons]
    cases name == own with
    | true => exact .some htakes
    | false => exact ih

namespace Helper

/-- Helpers made of a function on values take any value. -/
theorem takes_ofValue (f : Value → String) : Takes (ofValue f) [.any] := by
  intro args h
  obtain ⟨v, _, -, -, rfl⟩ := List.forall₂_cons_left_iff.1 h
  exact ⟨f v, rfl⟩

/-- Helpers made of a function on texts take texts. -/
theorem takes_ofText (f : String → String) : Takes (ofText f) [.text] := by
  intro args h
  obtain ⟨_, _, ⟨⟩, -, rfl⟩ := List.forall₂_cons_left_iff.1 h
  exact ⟨f _, rfl⟩

/-- Helpers made of a function on truth values take these. -/
theorem takes_ofBool (f : Bool → String) : Takes (ofBool f) [.truth] := by
  intro args h
  obtain ⟨_, _, ⟨⟩, -, rfl⟩ := List.forall₂_cons_left_iff.1 h
  exact ⟨f _, rfl⟩

/-- Helpers made of a function on lists take lists. -/
theorem takes_ofList (f : List Value → String) : Takes (ofList f) [.list .any] := by
  intro args h
  obtain ⟨_, _, ⟨⟩, -, rfl⟩ := List.forall₂_cons_left_iff.1 h
  exact ⟨f _, rfl⟩

/-- What the helpers of every target want. -/
def sharedSignatures : Signatures :=
  [("upper_snake", [.text]), ("pascal", [.text]), ("json", [.any]), ("one_line", [.text]),
   ("join", [.list .any, .text])]

/-- The helpers of all targets have the signatures that are told of them. -/
theorem describe_shared : sharedSignatures.Describe shared := by
  refine .cons ⟨rfl, takes_ofText _⟩ (.cons ⟨rfl, takes_ofText _⟩ (.cons ⟨rfl, takes_ofValue _⟩
    (.cons ⟨rfl, takes_ofText _⟩ (.cons ⟨rfl, fun args h => ?_⟩ .nil))))
  obtain ⟨_, rest, ⟨⟩, hrest, rfl⟩ := List.forall₂_cons_left_iff.1 h
  obtain ⟨_, _, ⟨⟩, -, rfl⟩ := List.forall₂_cons_left_iff.1 hrest
  exact ⟨_, rfl⟩

end Helper

/-! ## Safe templates -/

/-- Whether what is given fits what is wanted, one for one. -/
def fitAll : List Shape → List Shape → Bool
  | [], [] => true
  | s :: shapes, w :: wanted => s.fits w && fitAll shapes wanted
  | _, _ => false

mutual

/-- Whether a piece can be filled in where scopes have some shapes. -/
def Piece.isSafe (signatures : Signatures) (shapes : List Shape) : Piece → Bool
  | .text _ => true
  | .shown r => (r.plainName?.bind (signatures.lookup ·)).isNone
  | .call name args => (signatures.lookup name).any (fitAll (args.map (·.shape shapes)))
  | .choose wanted subject body otherwise =>
    isSafe signatures (if wanted then narrow subject shapes else shapes) body &&
      isSafe signatures (if wanted then shapes else narrow subject shapes) otherwise
  | .each subject body otherwise =>
    isSafe signatures ((subject.shape shapes).item :: shapes) body &&
      isSafe signatures shapes otherwise

/-- Whether a template can be filled in where scopes have some shapes. -/
def isSafe (signatures : Signatures) (shapes : List Shape) : List Piece → Bool
  | [] => true
  | p :: rest => p.isSafe signatures shapes && isSafe signatures shapes rest

end

/-- Arguments of fitting shapes have the shapes that are wanted. -/
theorem holds_of_fitAll {shapes wanted : List Shape} {args : List Value}
    (h : List.Forall₂ Shape.Holds shapes args) (hfit : fitAll shapes wanted = true) :
    List.Forall₂ Shape.Holds wanted args := by
  induction h generalizing wanted with
  | nil =>
    cases wanted with
    | nil => exact .nil
    | cons => cases hfit
  | cons hs _ ih =>
    cases wanted with
    | nil => cases hfit
    | cons w wanted =>
      rw [fitAll, Bool.and_eq_true] at hfit
      exact .cons (hs.of_fits hfit.1) (ih hfit.2)

variable {signatures : Signatures} {helpers : Helpers}

mutual

/-- A safe piece is filled in. -/
theorem fillPiece_of_isSafe (hsig : signatures.Describe helpers) {shapes : List Shape}
    {scopes : List Scope} (hknown : Known shapes scopes) (p : Piece)
    (hsafe : p.isSafe signatures shapes = true) :
    ∃ text, fillPiece helpers scopes p = some text := by
  cases p with
  | text s => exact ⟨s, rfl⟩
  | shown r =>
    rw [Piece.isSafe, Option.isNone_iff_eq_none] at hsafe
    have hplain : r.plainName?.bind (helpers.lookup ·) = none := by
      cases hname : r.plainName? with
      | none => rfl
      | some name =>
        rw [hname, Option.bind_some] at hsafe
        have hlookup := hsig.lookup name
        rw [hsafe] at hlookup
        cases hfound : helpers.lookup name with
        | none => exact hfound
        | some helper => rw [hfound] at hlookup; cases hlookup
    rw [fillPiece, hplain]
    exact ⟨_, rfl⟩
  | call name args =>
    rw [Piece.isSafe, Option.any_eq_true] at hsafe
    obtain ⟨wanted, hwanted, hfit⟩ := hsafe
    have hlookup := hsig.lookup name
    rw [hwanted] at hlookup
    have hargs : List.Forall₂ Shape.Holds (args.map (·.shape shapes))
        (args.map (·.value scopes)) := by
      rw [List.forall₂_map_left_iff, List.forall₂_map_right_iff, List.forall₂_same]
      exact fun a _ => hknown.holds_value a
    cases hfound : helpers.lookup name with
    | none => rw [hfound] at hlookup; cases hlookup
    | some helper =>
      rw [hfound] at hlookup
      cases hlookup with
      | some htakes =>
        obtain ⟨text, htext⟩ := htakes _ (holds_of_fitAll hargs hfit)
        exact ⟨text, by rw [fillPiece, hfound]; exact htext⟩
  | choose wanted subject body otherwise =>
    rw [Piece.isSafe, Bool.and_eq_true] at hsafe
    obtain ⟨hbody, hotherwise⟩ := hsafe
    rw [fillPiece]
    -- More is known in one branch only: in the one that is taken where the subject is true.
    cases htrue : isTrue (subject.value scopes) <;> cases wanted <;>
      simp only [reduceIte, Bool.false_eq_true, Bool.true_eq_false] at hbody hotherwise ⊢
    · exact fill_of_isSafe hsig hknown body hbody
    · exact fill_of_isSafe hsig hknown otherwise hotherwise
    · exact fill_of_isSafe hsig (hknown.of_isTrue htrue) otherwise hotherwise
    · exact fill_of_isSafe hsig (hknown.of_isTrue htrue) body hbody
  | each subject body otherwise =>
    rw [Piece.isSafe, Bool.and_eq_true] at hsafe
    obtain ⟨hbody, hotherwise⟩ := hsafe
    rw [fillPiece]
    split
    next => exact fill_of_isSafe hsig hknown otherwise hotherwise
    next inner _ =>
      have hinner : ∀ s ∈ Scope.loop (subject.value scopes),
          ∃ text, fill helpers (s :: scopes) body = some text := fun s hs =>
        fill_of_isSafe hsig (.cons ((hknown.holds_value subject).loop hs) hknown) body hbody
      obtain ⟨texts, htexts⟩ := exists_mapM_eq_some.2 hinner
      exact ⟨String.join texts, by rw [htexts]; rfl⟩

/-- A safe template is filled in. -/
theorem fill_of_isSafe (hsig : signatures.Describe helpers) {shapes : List Shape}
    {scopes : List Scope} (hknown : Known shapes scopes) (ps : List Piece)
    (hsafe : isSafe signatures shapes ps = true) :
    ∃ text, fill helpers scopes ps = some text := by
  cases ps with
  | nil => exact ⟨"", rfl⟩
  | cons p rest =>
    rw [isSafe, Bool.and_eq_true] at hsafe
    obtain ⟨s, hs⟩ := fillPiece_of_isSafe hsig hknown p hsafe.1
    obtain ⟨more, hmore⟩ := fill_of_isSafe hsig hknown rest hsafe.2
    exact ⟨s ++ more, by rw [fill, hs, hmore]; rfl⟩

end

/-! ## Engines -/

/-- An engine has safe templates for contexts of some shapes. -/
structure Engine.Typed (e : Engine) (signatures : Signatures) (shapes : List (String × Shape)) :
    Prop where
  describe : signatures.Describe e.helpers
  isSafe : (shapes.all fun entry =>
    (e.templates.lookup entry.1).any (isSafe signatures [entry.2])) = true

/-- A template is rendered for every context of its shape. -/
theorem Engine.Typed.render_ok {typed e : Engine} {shapes : List (String × Shape)}
    (ht : typed.Typed signatures shapes) (he : e = typed) (name : String) {s : Shape}
    (hs : (name, s) ∈ shapes) {context : Value} (hcontext : s.Holds context) :
    ∃ text, e.render name context = .ok text := by
  subst he
  obtain ⟨t, hlookup, hsafe⟩ := (Option.any_eq_true _ _).1 (List.all_eq_true.1 ht.isSafe _ hs)
  have hknown : Known [s] [Scope.outermost context] := .cons hcontext .nil
  obtain ⟨text, htext⟩ := fill_of_isSafe ht.describe hknown t hsafe
  exact ⟨text, by rw [render, hlookup]; simp only [htext]⟩

/-- A value that is extended by what a template makes of another value keeps its shape, if no field
that the shape knows is set. -/
theorem Engine.Typed.extend_ok {typed e : Engine} {shapes : List (String × Shape)}
    (ht : typed.Typed signatures shapes) (he : e = typed) (name : String) {s : Shape}
    (hs : (name, s) ∈ shapes) {context : Value} (hcontext : s.Holds context) {v : Value}
    {known : List (String × Shape)} (hv : (Shape.fields known).Holds v) {added : String → Fields}
    (hadded : ∀ text, ∀ f ∈ known, f.1 ∉ (added text).map (·.1)) :
    ∃ extended, (do
        let text ← e.render name context
        return v.extend (.object (added text)) : Outcome Value) = .ok extended ∧
      (Shape.fields known).Holds extended := by
  obtain ⟨text, htext⟩ := ht.render_ok he name hs hcontext
  exact ⟨_, by rw [htext]; rfl, hv.extend _ (hadded text)⟩

end CliGen.Template
