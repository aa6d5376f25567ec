import CliGen.Proofs.Storage.Following

/-!
# Paths of artifacts

The paths that artifacts may have are told by a grammar: names with slashes in between, without
backslashes and without a drive in front. Such a path stays below every directory that it is joined
to, whatever steps lead to the directory, and no two of them lead to one place
(`Path.validatePath_exact`).

## Shape of the proof

The checks look at bytes and at the pieces between slashes. The second byte of a text is a colon
only behind a first character of one byte (`secondByte_eq_colon_iff`), and the pieces are names
exactly if the text is joined from names (`Path.isPlain_iff`). Where a path leads is a fold over its
steps (`Path.resolve`), and names are put behind what the fold has come to (`Path.resolve_join`).
-/

namespace CliGen

/-! ## Bytes -/

/-- The bytes of a text are those of its characters. -/
theorem bytes_eq (s : String) : s.toUTF8.data.toList = s.toList.flatMap String.utf8EncodeChar := by
  rw [String.toUTF8_eq_toByteArray, ← String.ofList_toList (s := s), String.toByteArray_ofList,
    List.utf8Encode, List.data_toByteArray, String.toList_ofList]

/-- A character of ASCII is one byte, and the bytes of others are none of ASCII. -/
theorem utf8EncodeChar_cases (c : Char) :
    c.utf8Size = 1 ∧ String.utf8EncodeChar c = [c.toUInt8] ∧ c.toNat ≤ 127 ∨
    c.utf8Size ≠ 1 ∧ ∃ first second rest, String.utf8EncodeChar c = first :: second :: rest ∧
      128 ≤ first.toNat ∧ 128 ≤ second.toNat := by
  have hmarked {bits mark : UInt8} (hmark : 128 ≤ mark.toNat) : 128 ≤ (bits ||| mark).toNat := by
    rw [UInt8.toNat_or]
    exact Nat.le_trans hmark Nat.right_le_or
  rcases c.utf8Size_eq with h | h | h | h
  · exact .inl ⟨h, String.utf8EncodeChar_eq_singleton h, Char.utf8Size_eq_one_iff.1 h⟩
  · exact .inr ⟨by simp [h], _, _, _, String.utf8EncodeChar_eq_cons_cons h,
      hmarked (by decide), hmarked (by decide)⟩
  · exact .inr ⟨by simp [h], _, _, _, String.utf8EncodeChar_eq_cons_cons_cons h,
      hmarked (by decide), hmarked (by decide)⟩
  · exact .inr ⟨by simp [h], _, _, _, String.utf8EncodeChar_eq_cons_cons_cons_cons h,
      hmarked (by decide), hmarked (by decide)⟩

/-- No byte of another character is a colon. -/
theorem ne_colon_of_le {b : UInt8} (h : 128 ≤ b.toNat) : b ≠ ':'.toUInt8 := by
  rintro rfl
  exact absurd h (by decide)

/-- The first byte of a text is a colon only if its first character is one. -/
theorem firstByte_eq_colon_iff {cs : List Char} :
    (cs.flatMap String.utf8EncodeChar).head? = some ':'.toUInt8 ↔ cs.head? = some ':' := by
  cases cs with
  | nil => simp
  | cons c cs =>
    rw [List.flatMap_cons]
    rcases utf8EncodeChar_cases c with ⟨-, hc, hsmall⟩ | ⟨hsize, first, second, rest, hc, hfirst, -⟩
    · have hbyte : c.toUInt8 = ':'.toUInt8 ↔ c = ':' := by
        have hcolon : ':'.toUInt8.toNat = ':'.toNat := rfl
        have hvalue : c.toUInt8.toNat = c.toNat % 256 := UInt32.toNat_toUInt8 c.val
        rw [← UInt8.toNat_inj, hcolon, hvalue, Nat.mod_eq_of_lt (by omega), Char.toNat_inj]
      rw [hc, List.singleton_append, List.head?_cons, List.head?_cons, Option.some_inj,
        Option.some_inj, hbyte]
    · have hne : c ≠ ':' := by
        rintro rfl
        exact hsize rfl
      simp [hc, ne_colon_of_le hfirst, hne]

/-- The second byte of a text is a colon exactly behind a first character of one byte. -/
theorem secondByte_eq_colon_iff {s : String} : s.toUTF8.data[1]? = some ':'.toUInt8 ↔
    ∃ c rest, s.toList = c :: ':' :: rest ∧ c.utf8Size = 1 := by
  rw [← Array.getElem?_toList, bytes_eq]
  cases s.toList with
  | nil => simp
  | cons c cs =>
    rw [List.flatMap_cons]
    rcases utf8EncodeChar_cases c with ⟨hsize, hc, -⟩ | ⟨hsize, first, second, rest, hc, -, hsecond⟩
    · rw [hc, List.singleton_append, List.getElem?_cons_succ, ← List.head?_eq_getElem?,
        firstByte_eq_colon_iff, List.head?_eq_some_iff]
      simp [hsize]
    · have hsmall : ¬ ∃ d rest, c :: cs = d :: ':' :: rest ∧ d.utf8Size = 1 := by
        rintro ⟨d, rest, heq, hd⟩
        exact hsize (by rwa [(List.cons.inj heq).1])
      rw [hc]
      exact iff_of_false (by simpa using ne_colon_of_le hsecond) hsmall

namespace Path

open Storage

/-! ## The grammar -/

/-- A path of names is joined from names. -/
theorem isPlain_iff {path : String} : IsPlain path ↔ ∃ segments, segments ≠ [] ∧
    (∀ s ∈ segments, '/' ∉ s.toList ∧ s ≠ "" ∧ s ≠ "." ∧ s ≠ "..") ∧
      path = "/".intercalate segments := by
  constructor
  · intro h
    refine ⟨Text.splitAt '/' path, by simp [Text.splitAt, Text.pieces_ne_nil], fun s hs => ?_, ?_⟩
    · exact ⟨Text.notMem_of_mem_splitAt hs, isName_iff.1 (h s hs)⟩
    · exact (Text.intercalate_splitAt '/' path).symm
  · rintro ⟨segments, hne, hnames, rfl⟩
    have hcut : Text.splitAt '/' ("/".intercalate segments) = segments :=
      Text.splitAt_intercalate hne fun s hs => (hnames s hs).1
    intro step hstep
    rw [hcut] at hstep
    exact isName_iff.2 (hnames step hstep).2

/-! ## Where paths lead -/

/-- Where a path leads, step by step, for somebody who works in a directory. -/
def resolve (directory : Location) (path : String) : Location :=
  (steps path).foldl enter (start directory path)

/-- Names lead down, one after the other. -/
theorem foldl_enter_of_isName {names : List String} (h : ∀ step ∈ names, IsName step)
    (l : Location) : names.foldl enter l = l ++ names := by
  induction names generalizing l with
  | nil => rw [List.foldl_nil, List.append_nil]
  | cons step names ih =>
    obtain ⟨hstep, hnames⟩ := List.forall_mem_cons.1 h
    rw [List.foldl_cons, enter_of_isName hstep, ih hnames, List.append_assoc,
      List.singleton_append]

/-- The slash at the end of a path to a directory is no step. -/
theorem foldl_enter_stepsTo (root : String) (l : Location) :
    (stepsTo root).foldl enter l = (steps root).foldl enter l := by
  rw [stepsTo]
  split
  next h =>
    obtain ⟨front, hfront⟩ : ∃ front, steps root = front ++ [""] := by
      rcases Bool.or_eq_true_iff.1 h with hempty | hlast
      · exact ⟨[], by rw [beq_iff_eq.1 hempty]; decide⟩
      · obtain ⟨chars, hchars⟩ := List.getLast?_eq_some_iff.1 (of_decide_eq_true hlast)
        obtain ⟨directory, rfl⟩ : ∃ s, root = s ++ String.singleton '/' ++ "" :=
          ⟨String.ofList chars, by rw [← String.toList_inj, hchars]; simp⟩
        have hle : (if isAbsolute (directory ++ String.singleton '/' ++ "") then 1 else 0) ≤ 1 := by
          split <;> decide
        rw [steps_eq_drop, Text.splitAt_append_separator, drop_splitAt_append hle]
        exact ⟨_, rfl⟩
    rw [hfront, List.dropLast_concat, List.foldl_concat]
    rfl
  next => rfl

/-- A plain path leads to its names below the directory that it is joined to. -/
theorem resolve_join {path : String} (h : IsPlain path) (directory : Location) (root : String) :
    resolve directory (join root path) = resolve directory root ++ Text.splitAt '/' path := by
  rw [resolve, steps_join h, List.foldl_append, foldl_enter_of_isName h, foldl_enter_stepsTo,
    start, isAbsolute_join h]
  rfl

/-- On every storage a path leads where it leads step by step, if it leads anywhere. -/
theorem eq_foldl_of_follow {s : Storage} {steps : List String} {l k : Location}
    (h : s.follow l steps = .ok k) : k = steps.foldl enter l := by
  induction steps generalizing l with
  | nil => exact (follow_nil_eq_ok.1 h).symm
  | cons step rest ih => exact ih (follow_cons_eq_ok.1 h).2.2

/-- A path that can be located leads where its steps lead. -/
theorem eq_resolve_of_locate {s : Storage} {directory l : Location} {path : String}
    (h : s.locate directory path = .ok l) : l = resolve directory path := by
  unfold locate at h
  split at h
  · cases h
  split at h
  · cases h
  · exact eq_foldl_of_follow h

/-- **Which paths artifacts may have, and where they lead.** A path is accepted exactly if it has no
backslash, its second byte is no colon, and it is one or more names with slashes in between, none of
them empty or made of one or two points only. Joined to whatever root, it leads strictly below where
the root leads, on every storage on which it leads anywhere; and no two of them lead to one place
below a root. -/
theorem validatePath_exact (path : String) :
    (validatePath path = .ok () ↔
      '\\' ∉ path.toList ∧ path.toUTF8.data[1]? ≠ some ':'.toUInt8 ∧
        ∃ segments, segments ≠ [] ∧
          (∀ s ∈ segments, '/' ∉ s.toList ∧ s ≠ "" ∧ s ≠ "." ∧ s ≠ "..") ∧
          path = "/".intercalate segments) ∧
    (validatePath path = .ok () → ∀ (directory : Location) (root : String),
      resolve directory root <+: resolve directory (join root path) ∧
      resolve directory (join root path) ≠ resolve directory root ∧
      (∀ (s : Storage) l, s.locate directory (join root path) = .ok l →
        l = resolve directory (join root path)) ∧
      ∀ other, validatePath other = .ok () → other ≠ path →
        resolve directory (join root other) ≠ resolve directory (join root path)) := by
  constructor
  · rw [validatePath_eq_ok_iff, ← isPlain_iff, ne_eq, secondByte_eq_colon_iff]
    exact and_congr_right fun _ => and_congr_right fun _ =>
      forall₂_congr fun s _ => isName_iff.symm
  · intro h directory root
    have hplain := isPlain_of_validatePath h
    have hjoin := resolve_join hplain directory root
    refine ⟨?_, ?_, fun s l hl => eq_resolve_of_locate hl, fun other hother hne heq => hne ?_⟩
    · rw [hjoin]
      exact List.prefix_append _ _
    · rw [hjoin, ne_eq, List.append_right_eq_self]
      simp [Text.splitAt, Text.pieces_ne_nil]
    · rw [hjoin, resolve_join (isPlain_of_validatePath hother), List.append_cancel_left_eq] at heq
      exact Text.splitAt_inj heq

/-- A colon behind a letter of two bytes is the third byte of a path. -/
theorem validatePath_exact_accented :
    validatePath "é:/..a" = .ok () ∧ validatePath "é/..a" = .ok () ∧
      resolve ["home", "me"] "../out/./" = ["home", "out"] ∧
      ["home", "out"] <+: resolve ["home", "me"] (join "../out/./" "é:/..a") ∧
      resolve ["home", "me"] (join "../out/./" "é/..a") ≠
        resolve ["home", "me"] (join "../out/./" "é:/..a") := by
  have haccented : validatePath "é:/..a" = .ok () := rfl
  have hother : validatePath "é/..a" = .ok () := rfl
  have hroot : resolve ["home", "me"] "../out/./" = ["home", "out"] := rfl
  obtain ⟨hbelow, -, -, hapart⟩ :=
    (validatePath_exact "é:/..a").2 haccented ["home", "me"] "../out/./"
  exact ⟨haccented, hother, hroot, hroot ▸ hbelow, hapart _ hother (by decide)⟩

end Path

end CliGen
