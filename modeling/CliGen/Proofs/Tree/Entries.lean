import CliGen.Proofs.Tree.Congruence
import CliGen.Proofs.Tree.Listing
import CliGen.Proofs.Tree.Names

/-!
# The entries of parameters

A document declares parameters in lists of mappings: the options of the command line, and for every
command its arguments and its options. The parameters of a tree are read from these entries, each
from its own and in the order in which they are declared (`CommandTree.readFrom_of_build`).
-/

namespace CliGen

open CliGen.Field Outcome Build

/-! ## What is declared -/

/-- The arguments of a command and then its options, without what only options have. -/
def Command.parameters (c : Command) : List Param := c.arguments ++ c.options.map (·.toParam)

/-- All parameters of a tree: the options of the command line, and then those of every command in
the order of the walk. -/
def CommandTree.parameters (t : CommandTree) : List Param :=
  t.globalOptions.map (·.toParam) ++ t.walk.flatMap Command.parameters

/-- The mappings in the list at a key. -/
def Value.mappingsAt (v : Value) (key : String) : List Fields :=
  (v.itemsAt key).filterMap Value.object?

/-- The entries of parameters in the body of a command. -/
def Value.ownEntries (body : Value) : List Fields :=
  body.mappingsAt "args" ++ body.mappingsAt "options"

/-- Some bodies in order, each with the bodies declared below it. -/
def declaredBodies : List NamedBody → List Value
  | [] => []
  | (_, body) :: rest =>
    body :: (declaredBodies (body.field "subcommands").declared ++ declaredBodies rest)
termination_by entries => (entries.map fun e => sizeOf e.2).sum
decreasing_by
  · have hbelow := bodySize_declared (body.field "subcommands")
    have hfield := sizeOf_field_le body "subcommands"
    simp only [Build.bodySize, List.map_cons, List.sum_cons] at *
    omega
  · have hbody := sizeOf_pos body
    simp only [List.map_cons, List.sum_cons]
    omega

/-- The entries of all parameters in a document, in the order of declaration. -/
def Value.parameterEntries (document : Value) : List Fields :=
  match cliSection? document with
  | none => []
  | some fields => (Value.object fields).mappingsAt "options" ++
      (declaredBodies ((fields.get? "commands").getD .null).declared).flatMap Value.ownEntries

/-- The mappings that are read at a key are all that stand there. -/
theorem Field.mappings_ok {fields : Fields} {key : String} {path : List String}
    {entries : List Fields} (h : mappings fields key path = .ok entries) :
    entries = (Value.object fields).mappingsAt key := by
  have hat : (Value.object fields).mappingsAt key =
      (((fields.get? key).getD .null).list?.getD []).filterMap Value.object? := rfl
  rw [hat]
  unfold mappings Fields.present? at h
  cases hfound : fields.get? key with
  | none => rw [hfound] at h; cases h; rfl
  | some v =>
    rw [hfound] at h
    cases v with
    | null => cases h; rfl
    | list items =>
      show entries = items.filterMap Value.object?
      have hall := mapM_eq_ok.1 h
      clear h hat hfound
      induction hall with
      | nil => rfl
      | @cons item entry _ _ hentry _ ih =>
        split at hentry
        next fields => cases hentry; rw [ih]; rfl
        next => cases hentry
    | _ => cases h

/-! ## Parameters and their entries -/

namespace Param

variable {fields : Fields} {role name : String} {path : List String} {p : Param}

/-- A parameter is read from an entry. Whether it has to be given is left open: for an argument it
is settled after the reading. -/
def ReadFrom (fields : Fields) (p : Param) : Prop :=
  ∃ (role : String) (path : List String) (required : Bool),
    read fields role p.name path required = .ok { p with required }

/-- A parameter is read from an entry by the steps that all parameters take. -/
theorem readFrom_iff :
    ReadFrom fields p ↔ ∃ (role : String) (path : List String),
      Steps fields s!"{role} '{p.name}'" path p := by
  constructor
  · rintro ⟨role, path, required, h⟩
    obtain ⟨-, -, hsteps⟩ := read_eq_ok_iff.1 h
    obtain ⟨hchoices, hdefault, htype, hlisted, hflag, hchecked, hdescription⟩ := hsteps
    exact ⟨role, path, hchoices, hdefault, htype, hlisted, hflag, hchecked, hdescription⟩
  · rintro ⟨role, path, hchoices, hdefault, htype, hlisted, hflag, hchecked, hdescription⟩
    exact ⟨role, path, p.required, read_eq_ok_iff.2
      ⟨rfl, rfl, hchoices, hdefault, htype, hlisted, hflag, hchecked, hdescription⟩⟩

/-- What parameters share is read from their entry, required or not. -/
theorem readFrom_of_read {required : Bool} (h : read fields role name path required = .ok p)
    (needed : Bool) : ReadFrom fields { p with required := needed } := by
  obtain ⟨rfl, rfl, -⟩ := read_eq_ok_iff.1 h
  exact ⟨role, path, p.required, h⟩

/-- An argument is read from its entry. -/
theorem readFrom_of_readArgument {before : List Argument} {a : Argument}
    (h : readArgument path before fields = .ok a) : ReadFrom fields a := by
  obtain ⟨name, argument, needed, -, -, hread, -, rfl, -⟩ := parts_of_readArgument h
  exact readFrom_of_read hread needed

/-- An option is read from its entry. -/
theorem readFrom_of_readOption {before : List NamedOption} {o : NamedOption}
    (h : readOption path before fields = .ok o) : ReadFrom fields o.toParam := by
  obtain ⟨name, short, env, required, param, -, -, -, -, -, hread, rfl⟩ := parts_of_readOption h
  exact readFrom_of_read hread param.required

/-- The arguments of a body are read from its entries. -/
theorem readFrom_of_readArguments {as : List Argument} (h : readArguments fields path = .ok as) :
    List.Forall₂ ReadFrom ((Value.object fields).mappingsAt "args") as := by
  obtain ⟨entries, hentries, h⟩ := bind_eq_ok.1 h
  rw [← Field.mappings_ok hentries]
  refine (forall₂_of_foldlM_concat h).imp fun entry a hread => ?_
  obtain ⟨before, hread⟩ := hread
  exact readFrom_of_readArgument hread

/-- The options of a body are read from its entries, and so are those of the command line. -/
theorem readFrom_of_readOptions {os : List NamedOption} (h : readOptions fields path = .ok os) :
    List.Forall₂ ReadFrom ((Value.object fields).mappingsAt "options") (os.map (·.toParam)) := by
  obtain ⟨entries, hentries, h⟩ := bind_eq_ok.1 h
  rw [← Field.mappings_ok hentries, List.forall₂_map_right_iff]
  refine (forall₂_of_foldlM_concat h).imp fun entry o hread => ?_
  obtain ⟨before, hread⟩ := hread
  exact readFrom_of_readOption hread

end Param

/-- The parameters of a command are read from the entries of its body. -/
theorem Build.readFrom_of_readNested {limit : Nat} {path : List String} {entry : NamedBody}
    {c : Command} (h : readNested limit path entry = .ok c) :
    List.Forall₂ Param.ReadFrom entry.2.ownEntries c.parameters := by
  obtain ⟨fields, own, hbody, harguments, hoptions⟩ := parameters_of_readNested h
  rw [hbody]
  exact List.rel_append (Param.readFrom_of_readArguments harguments)
    (Param.readFrom_of_readOptions hoptions)

/-- The parameters of a forest are read from the entries of the bodies that declare it. -/
theorem Build.readFrom_of_mapM {limit : Nat} {path : List String} {entries : List NamedBody}
    {cs : List Command} (h : entries.mapM (readNested limit path) = .ok cs) :
    List.Forall₂ Param.ReadFrom ((declaredBodies entries).flatMap Value.ownEntries)
      ((walkPending cs).flatMap Command.parameters) := by
  induction cs using forest_induction generalizing path entries with
  | nil =>
    have hnone : entries = [] := by simpa using mapM_eq_ok.1 h
    rw [hnone, walkPending_nil, declaredBodies]
    exact .nil
  | cons c cs below beside =>
    obtain ⟨⟨name, body⟩, rest, hc, hcs, rfl⟩ := List.forall₂_cons_right_iff.1 (mapM_eq_ok.1 h)
    obtain ⟨-, -, -, nested, hnested, hsubs⟩ := readNested_ok hc
    have hdeclared : nested = (body.field "subcommands").declared :=
      Siblings.eq_declared_of_collect hnested
    rw [walkPending_cons, declaredBodies, ← hdeclared, List.flatMap_cons, List.flatMap_cons,
      List.flatMap_append, List.flatMap_append]
    exact List.rel_append (readFrom_of_readNested hc)
      (List.rel_append (below hsubs) (beside (mapM_eq_ok.2 hcs)))

/-- The parameters of a tree are read from the entries of its document, each from its own and in the
order of declaration. -/
theorem CommandTree.readFrom_of_build {maxDepth : Nat} {document : Value} {t : CommandTree}
    (h : build maxDepth document = .ok t) :
    List.Forall₂ Param.ReadFrom document.parameterEntries t.parameters := by
  obtain ⟨fields, head, entries, hfields, hhead, hentries, hcommands, ht⟩ := parts_of_build h
  rw [Value.parameterEntries, hfields, parameters, congrArg globalOptions ht]
  dsimp only
  rw [← Siblings.eq_declared_of_collect hentries]
  exact List.rel_append (Param.readFrom_of_readOptions (readHead_ok hhead).2)
    (readFrom_of_mapM hcommands)

end CliGen
