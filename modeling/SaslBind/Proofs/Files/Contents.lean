import SaslBind.Proofs.Files.Extension
import SaslBind.Proofs.Related

/-!
# What stands in files

Two trees have the same shape if they have the same folders and files, whatever stands in these.  Then a path leads to
the same in both, and the same files can be read.  A file that is there can grow without any other shape.

* `FileTree.SameShape` : trees that differ at most in what stands in files;
* `FileReader.ReadAlike` : a path that two readers answer alike, whatever stands in the file.

Main statements: `readAlike_of_sameShape`, and `sameShape_extend`.
-/

namespace SaslBind

/-- Both readers read the file of a path, whatever stands in it, or both fail in the same way. -/
def FileReader.ReadAlike (files files' : FileReader) (p : Path) : Prop :=
  Agree (Agree fun _ _ => True) (files p) (files' p)

namespace FileTree

/-- Trees with the same folders and files, whatever stands in these. -/
inductive SameShape : FileTree → FileTree → Prop
  | refl (tree : FileTree) : SameShape tree tree
  | file (content content' : List UInt8) : SameShape (.file content) (.file content')
  | folder {es es' : Entries FileTree} (missing : ∀ name, es.lookup name = none ↔ es'.lookup name = none)
      (there : ∀ name node node', es.lookup name = some node → es'.lookup name = some node' → SameShape node node') :
      SameShape (.folder es) (.folder es')

namespace SameShape

variable {tree tree' top top' : FileTree}

/-- Trees of the same shape are files, or folders in which the same names lead to trees of the same shape. -/
theorem cases_shape (h : SameShape tree tree') :
    (∃ content content', tree = .file content ∧ tree' = .file content') ∨
      ∃ es es' : Entries FileTree, tree = .folder es ∧ tree' = .folder es' ∧
        ∀ name, Option.Rel SameShape (find? name es) (find? name es') := by
  cases h with
  | refl tree =>
    cases tree with
    | file content => exact .inl ⟨content, content, rfl, rfl⟩
    | folder es =>
      refine .inr ⟨es, es, rfl, rfl, fun name => ?_⟩
      cases find? name es with
      | none => exact .none
      | some node => exact .some (refl node)
  | file content content' => exact .inl ⟨content, content', rfl, rfl⟩
  | @folder es es' missing there =>
    refine .inr ⟨es, es', rfl, rfl, fun name => ?_⟩
    unfold find?
    cases h : es.lookup name.carried with
    | none =>
      rw [(missing _).1 h]
      exact .none
    | some node =>
      cases h' : es'.lookup name.carried with
      | none =>
        rw [(missing _).2 h'] at h
        cases h
      | some node' => exact .some (there _ node node' h h')

/-- Names lead to trees of the same shape, or nowhere for the same reason. -/
theorem walk_agree (ht : SameShape top top') {trail trail' : List FileTree} (h : List.Forall₂ SameShape trail trail')
    (names : List Text) : Agree SameShape (walk top trail names) (walk top' trail' names) := by
  have head {trail trail' : List FileTree} (h : List.Forall₂ SameShape trail trail') :
      SameShape (trail.headD top) (trail'.headD top') := by
    cases h with
    | nil => exact ht
    | cons h _ => exact h
  induction names generalizing trail trail' with
  | nil => exact .ok (head h)
  | cons name names ih =>
    unfold walk
    rcases (head h).cases_shape with ⟨content, content', hd, hd'⟩ | ⟨es, es', hd, hd', below⟩
    · rw [hd, hd']
      exact .error _
    · rw [hd, hd']
      simp only
      split
      · exact ih (List.forall₂_drop 1 h)
      · split
        · exact .error _
        · have found := below name
          revert found
          generalize find? name es = node, find? name es' = node'
          rintro (hn | _)
          · exact ih (.cons hn h)
          · exact .error _

end SameShape

theorem sameShape_update {change change' : Option FileTree → FileTree}
    (h : ∀ node, SameShape (change node) (change' node)) (names : List Text) (node : Option FileTree) :
    SameShape (update change names node) (update change' names node) := by
  induction names generalizing node with
  | nil => exact h node
  | cons name names ih =>
    refine .folder (fun other => ?_) fun other a b ha hb => ?_
    · rw [Entries.lookup_put, Entries.lookup_put]
      split
      · simp
      · rfl
    · rw [Entries.lookup_put] at ha hb
      split at ha
      · rw [if_pos ‹_›] at hb
        obtain rfl := Option.some.inj ha
        obtain rfl := Option.some.inj hb
        exact ih _
      · rw [if_neg ‹_›] at hb
        obtain rfl := Option.some.inj (ha.symm.trans hb)
        exact .refl a

theorem sameShape_append (tree : FileTree) (names : List Text) (bs cs : List UInt8) :
    SameShape (tree.append names bs) (tree.append names cs) := by
  refine sameShape_update (fun node => ?_) names (some tree)
  match node with
  | none => exact .file _ _
  | some (.file _) => exact .file _ _
  | some (.folder _) => exact .file _ _

end FileTree

namespace FileSystem

/-- Files of the same shape, with the same working folder. -/
structure SameShape (files files' : FileSystem) : Prop where
  root : FileTree.SameShape files.root files'.root
  working : files.working = files'.working

variable {files files' made grown : FileSystem} {p : Path} {bs : List UInt8}

/-- **The same files can be read.**  In file systems of the same shape a path is answered alike, whatever stands in the
files. -/
theorem readAlike_of_sameShape (h : SameShape files files') (p : Path) :
    FileReader.ReadAlike files.read files'.read p := by
  have located : Agree FileTree.SameShape (files.locate p) (files'.locate p) := by
    unfold locate names
    rw [h.working]
    split
    · exact .error _
    · exact h.root.walk_agree .nil _
  unfold FileReader.ReadAlike read
  cases pathFault? p with
  | some f => exact .error f
  | none =>
    revert located
    generalize files.locate p = node, files'.locate p = node'
    rintro (hn | e)
    · rcases hn.cases_shape with ⟨content, content', rfl, rfl⟩ | ⟨es, es', rfl, rfl, -⟩
      · exact .ok (.ok trivial)
      · exact .ok (.error _)
    · exact .ok (.error e)

/-- **Growing files keep the shape.**  Once a file is made, octets at its end do not change the shape. -/
theorem sameShape_extend (h : files.extend p [] = .ok made) (h' : made.extend p bs = .ok grown) :
    SameShape made grown := by
  have together := extend_of_extend h h'
  obtain ⟨-, -, rfl⟩ := extend_eq_ok_iff.1 h
  obtain ⟨-, -, rfl⟩ := extend_eq_ok_iff.1 together
  exact ⟨FileTree.sameShape_append _ _ _ _, rfl⟩

end FileSystem

end SaslBind
