import CliGen.Proofs.Outcome
import CliGen.Proofs.Template.Text
import CliGen.Template.Registration

/-!
# Templates and their texts

A template is spelled by marks: texts by their characters, places, and the beginnings, middles and
ends of what stands inside of a piece (`Spelling`). If a text is cut into the marks of a template,
wherever its texts are cut in two, it is read, and what is read is filled in like the template
(`exists_parse_of_spelling`).

That is so because filling in a template depends on its texts as they stand together only
(`nest_joinTexts`).
-/

namespace CliGen.Template

open Outcome

/-! ## Templates that are filled in alike -/

/-- Templates that nothing tells apart once they are filled in. -/
def Alike (t u : Template) : Prop :=
  ∀ helpers scopes, fill helpers scopes t = fill helpers scopes u

namespace Alike

variable {t t' u u' v : Template}

/-- A template writes what it writes. -/
theorem refl (t : Template) : Alike t t := fun _ _ => rfl

/-- Templates that write the same do so either way round. -/
theorem symm (h : Alike t u) : Alike u t := fun helpers scopes => (h helpers scopes).symm

/-- Templates that write what a third one writes write the same. -/
theorem trans (h : Alike t u) (h' : Alike u v) : Alike t v := fun helpers scopes =>
  (h helpers scopes).trans (h' helpers scopes)

/-- Templates can be put together from parts that write the same. -/
theorem append (h : Alike t u) (h' : Alike t' u') : Alike (t ++ t') (u ++ u') := by
  intro helpers scopes
  refine Option.ext fun s => ?_
  simp only [fill_append_eq_some, h helpers scopes, h' helpers scopes]

/-- A piece in front of templates that write the same. -/
theorem cons (p : Piece) (h : Alike t u) : Alike (p :: t) (p :: u) := (refl [p]).append h

/-- An empty text shows nothing. -/
theorem empty : Alike [.text ""] [] := by
  intro helpers scopes
  exact fill_text "" []

/-- Texts that stand together show what they show as one. -/
theorem texts (a b : String) : Alike [.text a, .text b] [.text (a ++ b)] := by
  intro helpers scopes
  show fill helpers scopes [text a, text b] = fill helpers scopes [text (a ++ b)]
  simp [fill_text]

/-- Branches that write the same make choices that do. -/
theorem choose (wanted : Bool) (subject : Arg) (h : Alike t u) (h' : Alike t' u') :
    Alike [.choose wanted subject t t'] [.choose wanted subject u u'] := by
  intro helpers scopes
  simp only [fill, fillPiece, h helpers scopes, h' helpers scopes]

/-- Bodies that write the same make loops that do. -/
theorem each (subject : Arg) (h : Alike t u) (h' : Alike t' u') :
    Alike [.each subject t t'] [.each subject u u'] := by
  intro helpers scopes
  simp only [fill, fillPiece, h helpers, h' helpers scopes]

end Alike

/-! ## Blocks -/

/-- Open blocks in which all that was read so far is filled in alike. -/
structure OpenBlock.Alike (b c : OpenBlock) : Prop where
  name_eq : b.name = c.name
  args_eq : b.args = c.args
  before : Template.Alike b.before.reverse c.before.reverse
  first : Option.Rel (fun p q => Template.Alike p.reverse q.reverse) b.first c.first

/-- A block is open alike to itself. -/
theorem OpenBlock.Alike.refl (b : OpenBlock) : b.Alike b := by
  refine ⟨rfl, rfl, .refl _, ?_⟩
  cases b.first with
  | none => exact .none
  | some p => exact .some (.refl _)

/-- Blocks that are open alike have both come to their second half or neither. -/
theorem OpenBlock.Alike.isNone_first {b c : OpenBlock} (h : b.Alike c) :
    b.first.isNone = c.first.isNone := by
  have hfirst := h.first
  revert hfirst
  rcases b.first with _ | p <;> rcases c.first with _ | q <;> intro hfirst
  · rfl
  · cases hfirst
  · cases hfirst
  · rfl

/-- The pieces of such blocks are filled in alike. -/
theorem OpenBlock.Alike.close {b c : OpenBlock} (h : b.Alike c) {p q : List Piece}
    (hlast : Template.Alike p.reverse q.reverse) : Template.Alike [b.close p] [c.close q] := by
  obtain ⟨name, args, before, first⟩ := b
  obtain ⟨_, _, before', first'⟩ := c
  obtain ⟨rfl, rfl, -, hfirst⟩ := h
  unfold OpenBlock.close
  dsimp only at hfirst ⊢
  cases hfirst with
  | none =>
    dsimp only
    split
    · exact .choose true _ hlast (.refl _)
    · exact .choose false _ hlast (.refl _)
    · exact .each _ hlast (.refl _)
    · exact .refl _
  | some hfirst =>
    dsimp only
    split
    · exact .choose true _ hfirst hlast
    · exact .choose false _ hfirst hlast
    · exact .each _ hfirst hlast
    · exact .refl _

/-- A piece behind pieces read so far, which stand in reverse. -/
theorem Alike.concat {p q : List Piece} {a b : Piece} (h : Alike p.reverse q.reverse)
    (hlast : Alike [a] [b]) : Alike (a :: p).reverse (b :: q).reverse := by
  rw [List.reverse_cons, List.reverse_cons]
  exact h.append hlast

/-- The rest of a template is put into blocks alike. -/
theorem nest_alike (ts : List Token) {blocks blocks' : List OpenBlock} {read read' : List Piece}
    (hblocks : List.Forall₂ OpenBlock.Alike blocks blocks')
    (hread : Alike read.reverse read'.reverse) :
    Option.Rel Alike (nest blocks read ts) (nest blocks' read' ts) := by
  -- Every token does the same to blocks that are open alike.
  induction ts generalizing blocks blocks' read read' with
  | nil =>
    cases hblocks with
    | nil => exact .some hread
    | cons => exact .none
  | cons token rest ih =>
    cases token with
    | text cs =>
      rw [nest, nest]
      split
      · exact ih hblocks hread
      · exact ih hblocks (hread.concat (.refl _))
    | tag t =>
      cases t with
      | shown r => exact ih hblocks (hread.concat (.refl _))
      | call helper args => exact ih hblocks (hread.concat (.refl _))
      | opens name args => exact ih (.cons ⟨rfl, rfl, hread, .none⟩ hblocks) (.refl _)
      | otherwise =>
        cases hblocks with
        | nil => exact .none
        | @cons b c outer outer' hb houter =>
          rw [nest, nest, hb.isNone_first]
          split
          · exact ih (.cons ⟨hb.name_eq, hb.args_eq, hb.before, .some hread⟩ houter) (.refl _)
          · exact .none
      | closes name =>
        cases hblocks with
        | nil => exact .none
        | @cons b c outer outer' hb houter =>
          rw [nest, nest, hb.name_eq]
          split
          · exact ih houter (hb.before.concat (hb.close hread))
          · exact .none

/-- Templates that can be read alike can be so either way round. -/
theorem alike_symm {x y : Option Template} (h : Option.Rel Alike x y) : Option.Rel Alike y x := by
  cases h with
  | none => exact .none
  | some h => exact .some h.symm

/-- Templates that are read as a third one is are read alike. -/
theorem alike_trans {x y z : Option Template} (h : Option.Rel Alike x y)
    (h' : Option.Rel Alike y z) : Option.Rel Alike x z := by
  cases h with
  | none => exact h'
  | some h =>
    cases h' with
    | some h' => exact .some (h.trans h')

/-! ## Marks -/

/-- A text between tags, or a tag that is given nothing but places. -/
inductive Mark where
  | text (cs : List Char)
  | shown (r : Ref)
  | call (helper : String) (args : List Ref)
  | opens (block : String) (args : List Ref)
  | otherwise
  | closes (block : String)
  deriving BEq, ReflBEq, LawfulBEq

/-- What stands in the text of a template. -/
def Mark.token : Mark → Token
  | text cs => .text cs
  | shown r => .tag (.shown r)
  | call helper args => .tag (.call helper (args.map .ref))
  | opens block args => .tag (.opens block (args.map .ref))
  | otherwise => .tag .otherwise
  | closes block => .tag (.closes block)

/-- The place that is given. -/
def Arg.ref? : Arg → Option Ref
  | ref r => some r
  | literal _ => none

/-- What a token marks. -/
def Token.mark? : Token → Option Mark
  | text cs => some (.text cs)
  | tag (.shown r) => some (.shown r)
  | tag (.call helper args) => (args.mapM Arg.ref?).map (.call helper)
  | tag (.opens block args) => (args.mapM Arg.ref?).map (.opens block)
  | tag .otherwise => some .otherwise
  | tag (.closes block) => some (.closes block)

private theorem eq_map_ref {args : List Arg} {refs : List Ref}
    (h : args.mapM Arg.ref? = some refs) : args = refs.map .ref := by
  have hall := mapM_eq_some.1 h
  clear h
  induction hall with
  | nil => rfl
  | @cons a r _ _ ha _ ih =>
    cases a with
    | ref place =>
      cases ha
      rw [List.map_cons, ← ih]
    | literal v => cases ha

/-- A mark tells its token. -/
theorem Token.eq_of_mark? {t : Token} {m : Mark} (h : t.mark? = some m) : t = m.token := by
  cases t with
  | text cs =>
    cases h
    rfl
  | tag t =>
    cases t with
    | shown r =>
      cases h
      rfl
    | call helper args =>
      obtain ⟨refs, hrefs, rfl⟩ := Option.map_eq_some_iff.1 h
      rw [eq_map_ref hrefs]
      rfl
    | opens block args =>
      obtain ⟨refs, hrefs, rfl⟩ := Option.map_eq_some_iff.1 h
      rw [eq_map_ref hrefs]
      rfl
    | otherwise =>
      cases h
      rfl
    | closes block =>
      cases h
      rfl

/-- The marks of the text of a template. -/
def marks (cs : List Char) : Option (List Mark) := do
  (dropTagLines true false (← tokens (cs.length + 1) cs)).mapM Token.mark?

/-- A text is read by its marks. -/
theorem parse_of_marks {cs : List Char} {ms : List Mark} (h : marks cs = some ms) :
    parse (String.ofList cs) = nest [] [] (ms.map (·.token)) := by
  obtain ⟨ts, hts, hms⟩ := Option.bind_eq_some_iff.1 h
  have htokens : dropTagLines true false ts = ms.map (·.token) := by
    have hall := mapM_eq_some.1 hms
    clear hms h hts
    generalize dropTagLines true false ts = us at hall
    induction hall with
    | nil => rfl
    | cons hm _ ih => rw [List.map_cons, Token.eq_of_mark? hm, ih]
  rw [parse, ← String.length_toList, String.toList_ofList, hts, ← htokens]
  rfl

/-! ## Texts that stand together -/

/-- Put texts together that stand next to each other. -/
def joinTexts : List Mark → List Mark
  | [] => []
  | .text cs :: rest =>
    match joinTexts rest with
    | .text ds :: more => .text (cs ++ ds) :: more
    | more => if cs.isEmpty then more else .text cs :: more
  | m :: rest => m :: joinTexts rest

/-- A text is read as a piece that shows it, or as none. -/
private theorem nest_text (cs : List Char) : ∃ p, Alike p.reverse [.text (String.ofList cs)] ∧
    ∀ blocks read ts, nest blocks read (.text cs :: ts) = nest blocks (p ++ read) ts := by
  cases cs with
  | nil => exact ⟨[], Alike.empty.symm, fun _ _ _ => rfl⟩
  | cons c cs => exact ⟨[.text (String.ofList (c :: cs))], .refl _, fun _ _ _ => rfl⟩

/-- Pieces that are filled in alike may be read in front of the rest. -/
private theorem nest_front {p q : List Piece} (h : Alike p.reverse q.reverse)
    (blocks : List OpenBlock) (read : List Piece) (ts : List Token) :
    Option.Rel Alike (nest blocks (p ++ read) ts) (nest blocks (q ++ read) ts) := by
  refine nest_alike ts (List.forall₂_same.2 fun b _ => .refl b) ?_
  rw [List.reverse_append, List.reverse_append]
  exact (Alike.refl _).append h

/-- Filling in a template depends on its texts as they stand together only. -/
theorem nest_joinTexts (ms : List Mark) (blocks : List OpenBlock) (read : List Piece) :
    Option.Rel Alike (nest blocks read (ms.map (·.token)))
      (nest blocks read ((joinTexts ms).map (·.token))) := by
  -- For all open blocks, since a mark may open or close one.
  induction ms generalizing blocks read with
  | nil => exact nest_front (p := []) (q := []) (.refl []) blocks read []
  | cons m rest ih =>
    cases m with
    | text cs =>
      obtain ⟨p, hp, hnest⟩ := nest_text cs
      have hrest := ih blocks (p ++ read)
      rw [← hnest] at hrest
      refine alike_trans hrest ?_
      rw [joinTexts]
      split
      next ds more hjoin =>
        obtain ⟨q, hq, hnext⟩ := nest_text ds
        obtain ⟨both, hboth, hnestBoth⟩ := nest_text (cs ++ ds)
        rw [hjoin, List.map_cons, List.map_cons, Mark.token, Mark.token, hnext, hnestBoth,
          ← List.append_assoc]
        refine nest_front ?_ blocks read _
        rw [List.reverse_append, String.ofList_append] at *
        exact ((hp.append hq).trans (.texts _ _)).trans hboth.symm
      next =>
        split
        next hempty =>
          rw [List.isEmpty_iff.1 hempty] at hp
          exact nest_front (q := []) (hp.trans Alike.empty) blocks read _
        next =>
          rw [List.map_cons, Mark.token, hnest]
          exact nest_front (.refl _) blocks read _
    | shown r => exact ih blocks _
    | call helper args => exact ih blocks _
    | opens name args => exact ih _ []
    | otherwise =>
      cases blocks with
      | nil => exact .none
      | cons b outer =>
        show Option.Rel Alike (nest (b :: outer) read (.tag .otherwise :: rest.map _))
          (nest (b :: outer) read (.tag .otherwise :: (joinTexts rest).map _))
        rw [nest, nest]
        split
        · exact ih _ []
        · exact .none
    | closes name =>
      cases blocks with
      | nil => exact .none
      | cons b outer =>
        show Option.Rel Alike (nest (b :: outer) read (.tag (.closes name) :: rest.map _))
          (nest (b :: outer) read (.tag (.closes name) :: (joinTexts rest).map _))
        rw [nest, nest]
        split
        · exact ih outer _
        · exact .none

/-! ## Spelling templates -/

/-- Texts and their characters. -/
inductive Spelled : List String → List (List Char) → Prop
  | nil : Spelled [] []
  | cons {cs : List Char} {ls : List String} {css : List (List Char)} :
    Spelled ls css → Spelled (String.ofList cs :: ls) (cs :: css)

/-- Templates and their marks. -/
inductive Spelling : Template → List Mark → Prop
  | nil : Spelling [] []
  | lines {ls : List String} {css : List (List Char)} {ps : List Piece} {ms : List Mark} :
    Spelled ls css → Spelling ps ms →
      Spelling (lines ls :: ps) (.text (css.foldr (fun cs rest => cs ++ '\n' :: rest) []) :: ms)
  | text {cs : List Char} {ps : List Piece} {ms : List Mark} : Spelling ps ms →
    Spelling (text (String.ofList cs) :: ps) (.text cs :: ms)
  | shown {r : Ref} {ps : List Piece} {ms : List Mark} : Spelling ps ms →
    Spelling (.shown r :: ps) (.shown r :: ms)
  | call {helper : String} {r : Ref} {ps : List Piece} {ms : List Mark} : Spelling ps ms →
    Spelling (call helper (.ref r) :: ps) (.call helper [r] :: ms)
  | whenTrue {r : Ref} {body ps : List Piece} {inner ms : List Mark} : Spelling body inner →
    Spelling ps ms → Spelling (whenTrue (.ref r) body :: ps)
      (.opens "if" [r] :: inner ++ .closes "if" :: ms)
  | either {r : Ref} {body other ps : List Piece} {inner last ms : List Mark} :
    Spelling body inner → Spelling other last → Spelling ps ms →
      Spelling (either (.ref r) body other :: ps)
        (.opens "if" [r] :: inner ++ .otherwise :: last ++ .closes "if" :: ms)
  | forEach {r : Ref} {body ps : List Piece} {inner ms : List Mark} : Spelling body inner →
    Spelling ps ms → Spelling (forEach (.ref r) body :: ps)
      (.opens "each" [r] :: inner ++ .closes "each" :: ms)

private theorem lines_eq {ls : List String} {css : List (List Char)} (h : Spelled ls css) :
    lines ls = .text (String.ofList (css.foldr (fun cs rest => cs ++ '\n' :: rest) [])) := by
  refine congrArg Piece.text ?_
  induction h with
  | nil => rfl
  | cons _ ih =>
    rw [List.map_cons, String.join_cons, ih, List.foldr_cons, String.ofList_append,
      String.append_assoc, ← List.singleton_append, String.ofList_append]

/-- The text of lines that are spelled. -/
theorem spell_eq {ls : List String} {css : List (List Char)} (h : Spelled ls css) :
    spell ls = String.ofList (joinLines css) := by
  have hlines : ls.map String.toList = css := by
    induction h with
    | nil => rfl
    | cons _ ih => rw [List.map_cons, ih, String.toList_ofList]
  rw [spell, hlines]

/-- A text in front of a template that is read so far. -/
private theorem exists_nest_text (cs : List Char) {t u : Template} {ms : List Mark}
    (hu : Alike u t) (hnest : ∀ blocks read ts,
      nest blocks read (ms.map (·.token) ++ ts) = nest blocks (u.reverse ++ read) ts) :
    ∃ u, Alike u (.text (String.ofList cs) :: t) ∧ ∀ blocks read ts,
      nest blocks read ((Mark.text cs :: ms).map (·.token) ++ ts) =
        nest blocks (u.reverse ++ read) ts := by
  obtain ⟨p, hp, htext⟩ := nest_text cs
  refine ⟨p.reverse ++ u, hp.append hu, fun blocks read ts => ?_⟩
  rw [List.reverse_append, List.reverse_reverse, List.append_assoc, ← hnest]
  exact htext blocks read _

/-- The marks of a block are put into one piece. -/
private theorem nest_block {body : Template} {inner : List Mark}
    (hbody : ∀ blocks read ts,
      nest blocks read (inner.map (·.token) ++ ts) = nest blocks (body.reverse ++ read) ts)
    (name : String) (r : Ref) (ms : List Mark) (blocks : List OpenBlock) (read : List Piece)
    (ts : List Token) :
    nest blocks read ((.opens name [r] :: inner ++ .closes name :: ms).map (·.token) ++ ts) =
      nest blocks (OpenBlock.close ⟨name, [.ref r], read, none⟩ body.reverse :: read)
        (ms.map (·.token) ++ ts) := by
  have hopen := hbody (⟨name, [.ref r], read, none⟩ :: blocks) []
    (.tag (.closes name) :: (ms.map (·.token) ++ ts))
  rw [List.append_nil, nest, if_pos (beq_self_eq_true name)] at hopen
  simp only [List.map_cons, List.map_append, Mark.token, List.cons_append, List.append_assoc,
    List.map_nil]
  rw [nest]
  exact hopen

/-- So are those of a block with two branches. -/
private theorem nest_branches {body other : Template} {inner last : List Mark}
    (hbody : ∀ blocks read ts,
      nest blocks read (inner.map (·.token) ++ ts) = nest blocks (body.reverse ++ read) ts)
    (hother : ∀ blocks read ts,
      nest blocks read (last.map (·.token) ++ ts) = nest blocks (other.reverse ++ read) ts)
    (name : String) (r : Ref) (ms : List Mark) (blocks : List OpenBlock) (read : List Piece)
    (ts : List Token) :
    nest blocks read ((.opens name [r] :: inner ++ .otherwise :: last ++
      .closes name :: ms).map (·.token) ++ ts) =
      nest blocks (OpenBlock.close ⟨name, [.ref r], read, some body.reverse⟩ other.reverse :: read)
        (ms.map (·.token) ++ ts) := by
  have hopen := hbody (⟨name, [.ref r], read, none⟩ :: blocks) []
    (.tag .otherwise :: (last.map (·.token) ++ .tag (.closes name) :: (ms.map (·.token) ++ ts)))
  have hlast := hother (⟨name, [.ref r], read, some body.reverse⟩ :: blocks) []
    (.tag (.closes name) :: (ms.map (·.token) ++ ts))
  rw [List.append_nil, nest, if_pos (beq_self_eq_true name)] at hlast
  rw [List.append_nil, nest, Option.isNone_none, if_pos rfl] at hopen
  simp only [List.map_cons, List.map_append, Mark.token, List.cons_append, List.append_assoc,
    List.map_nil]
  rw [nest]
  exact hopen.trans hlast

/-- Marks are put into the pieces that they spell. -/
theorem exists_nest_of_spelling {t : Template} {ms : List Mark} (h : Spelling t ms) :
    ∃ u, Alike u t ∧ ∀ blocks read ts,
      nest blocks read (ms.map (·.token) ++ ts) = nest blocks (u.reverse ++ read) ts := by
  -- The pieces of a body are read while its block is open, hence for all open blocks.
  induction h with
  | nil => exact ⟨[], .refl _, fun _ _ _ => rfl⟩
  | @lines ls css ps ms hls _ ih =>
    obtain ⟨u, hu, hnest⟩ := ih
    rw [lines_eq hls]
    exact exists_nest_text _ hu hnest
  | text _ ih =>
    obtain ⟨u, hu, hnest⟩ := ih
    exact exists_nest_text _ hu hnest
  | @shown r _ _ _ ih =>
    obtain ⟨u, hu, hnest⟩ := ih
    refine ⟨.shown r :: u, hu.cons _, fun blocks read ts => ?_⟩
    rw [List.reverse_cons, List.append_assoc]
    exact hnest blocks (.shown r :: read) ts
  | @call helper r _ _ _ ih =>
    obtain ⟨u, hu, hnest⟩ := ih
    refine ⟨.call helper [.ref r] :: u, hu.cons _, fun blocks read ts => ?_⟩
    rw [List.reverse_cons, List.append_assoc]
    exact hnest blocks (.call helper [.ref r] :: read) ts
  | @whenTrue r _ _ _ _ _ _ ihbody ih =>
    obtain ⟨b, hb, hbody⟩ := ihbody
    obtain ⟨u, hu, hnest⟩ := ih
    refine ⟨.choose true (.ref r) b [] :: u, (Alike.choose true _ hb (.refl [])).append hu,
      fun blocks read ts => ?_⟩
    have hclose : OpenBlock.close ⟨"if", [.ref r], read, none⟩ b.reverse =
        .choose true (.ref r) b [] := by simp [OpenBlock.close]
    rw [nest_block hbody, hclose, hnest, List.reverse_cons, List.append_assoc]
    rfl
  | @either r _ _ _ _ _ _ _ _ _ ihbody ihother ih =>
    obtain ⟨b, hb, hbody⟩ := ihbody
    obtain ⟨o, ho, hother⟩ := ihother
    obtain ⟨u, hu, hnest⟩ := ih
    refine ⟨.choose true (.ref r) b o :: u, (Alike.choose true _ hb ho).append hu,
      fun blocks read ts => ?_⟩
    have hclose : OpenBlock.close ⟨"if", [.ref r], read, some b.reverse⟩ o.reverse =
        .choose true (.ref r) b o := by simp [OpenBlock.close]
    rw [nest_branches hbody hother, hclose, hnest, List.reverse_cons, List.append_assoc]
    rfl
  | @forEach r _ _ _ _ _ _ ihbody ih =>
    obtain ⟨b, hb, hbody⟩ := ihbody
    obtain ⟨u, hu, hnest⟩ := ih
    refine ⟨.each (.ref r) b [] :: u, (Alike.each _ hb (.refl [])).append hu,
      fun blocks read ts => ?_⟩
    have hclose : OpenBlock.close ⟨"each", [.ref r], read, none⟩ b.reverse =
        .each (.ref r) b [] := by simp [OpenBlock.close]
    rw [nest_block hbody, hclose, hnest, List.reverse_cons, List.append_assoc]
    rfl

/-- **A text with the marks of a template is read**, and what is read is filled in like the
template. -/
theorem exists_parse_of_spelling {cs : List Char} {t : Template} {ms : List Mark}
    (h : Spelling t ms) (hmarks : (marks cs).map joinTexts = some (joinTexts ms)) :
    ∃ u, parse (String.ofList cs) = some u ∧ Alike u t := by
  obtain ⟨ns, hns, hjoin⟩ := Option.map_eq_some_iff.1 hmarks
  obtain ⟨u, hu, hnest⟩ := exists_nest_of_spelling h
  have hspelled : Option.Rel Alike (nest [] [] ((joinTexts ms).map (·.token))) (some u) := by
    have hall := hnest [] [] []
    rw [List.append_nil, List.append_nil, nest, List.reverse_reverse] at hall
    have hjoined := nest_joinTexts ms [] []
    rw [hall] at hjoined
    exact alike_symm hjoined
  rw [← hjoin] at hspelled
  have hread := alike_trans (nest_joinTexts ns [] []) hspelled
  rw [parse_of_marks hns]
  generalize nest [] [] (ns.map (·.token)) = read at hread
  cases hread with
  | some hv => exact ⟨_, rfl, hv.trans hu⟩

/-- Lines are read as a template if they have its marks. -/
def Reads (ls : List String) (t : Template) : Prop := ∃ u, parse (spell ls) = some u ∧ Alike u t

/-- Whether lines read as a template is told by their marks, which can be computed. -/
theorem Reads.of_marks {ls : List String} {css : List (List Char)} {t : Template} {ms : List Mark}
    (hls : Spelled ls css) (ht : Spelling t ms)
    (hmarks : ((marks (joinLines css)).map joinTexts == some (joinTexts ms)) = true) :
    Reads ls t := by
  rw [Reads, spell_eq hls]
  exact exists_parse_of_spelling ht (eq_of_beq hmarks)

/-! ## Engines -/

/-- Engines with the same helpers, whose templates are filled in alike. -/
structure Engine.Alike (e f : Engine) : Prop where
  helpers_eq : e.helpers = f.helpers
  templates : List.Forall₂ (fun a b => a.1 = b.1 ∧ Template.Alike a.2 b.2) e.templates f.templates

/-- What is found by name is filled in alike. -/
private theorem lookup_alike {ts us : List (String × Template)}
    (h : List.Forall₂ (fun a b => a.1 = b.1 ∧ Template.Alike a.2 b.2) ts us) (name : String) :
    Option.Rel Template.Alike (ts.lookup name) (us.lookup name) := by
  induction h with
  | nil => exact .none
  | @cons a b _ _ hab _ ih =>
    obtain ⟨key, t⟩ := a
    obtain ⟨_, u⟩ := b
    obtain ⟨rfl, halike⟩ := hab
    rw [List.lookup_cons, List.lookup_cons]
    cases name == key
    · exact ih
    · exact .some halike

/-- They render the same. -/
theorem Engine.Alike.render_eq {e f : Engine} (h : e.Alike f) (name : String) (v : Value) :
    e.render name v = f.render name v := by
  have hlookup := lookup_alike h.templates name
  rw [render, render, h.helpers_eq]
  revert hlookup
  generalize e.templates.lookup name = found
  generalize f.templates.lookup name = found'
  intro hlookup
  cases hlookup with
  | none => rfl
  | some hfound =>
    dsimp only
    rw [hfound]

/-- Texts that are read as templates are registered one after the other. -/
private theorem exists_registered {texts : List (String × List String)}
    {templates : List (String × Template)}
    (h : List.Forall₂ (fun a b => a.1 = b.1 ∧ Reads a.2 b.2) texts templates) {e f : Engine}
    (hef : e.Alike f) : ∃ g, (texts.map fun a => (a.1, spell a.2)).foldlM
      (fun e entry => e.registerText entry.1 entry.2) e = .ok g ∧
        g.Alike ⟨f.helpers, templates.reverse ++ f.templates⟩ := by
  induction h generalizing e f with
  | nil => exact ⟨e, rfl, hef⟩
  | @cons a b texts templates hab _ ih =>
    obtain ⟨hname, u, hparse, hu⟩ := hab
    have hnext : (e.register a.1 u).Alike (f.register b.1 b.2) :=
      ⟨hef.helpers_eq, .cons ⟨hname, hu⟩ hef.templates⟩
    obtain ⟨g, hg, halike⟩ := ih hnext
    refine ⟨g, ?_, ?_⟩
    · rw [List.map_cons, List.foldlM_cons, Engine.registerText, hparse]
      exact hg
    · rw [List.reverse_cons, List.append_assoc]
      exact halike

/-- **Texts that are read as templates make an engine** that renders like the one of these
templates. -/
theorem Engine.exists_ofTexts {texts : List (String × List String)}
    {templates : List (String × Template)}
    (h : List.Forall₂ (fun a b => a.1 = b.1 ∧ Reads a.2 b.2) texts templates)
    (helpers : Helpers) :
    ∃ e, Engine.ofTexts helpers (texts.map fun a => (a.1, spell a.2)) = .ok e ∧
      ∀ name v, e.render name v = (Engine.make helpers templates).render name v := by
  obtain ⟨e, he, halike⟩ := exists_registered h (e := .make helpers []) ⟨rfl, .nil⟩
  have hmade : e.Alike (make helpers templates) := by simpa [make] using halike
  exact ⟨e, he, hmade.render_eq⟩

end CliGen.Template
