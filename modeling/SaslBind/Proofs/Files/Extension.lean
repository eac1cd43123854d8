import SaslBind.Files.System

/-!
# Files that grow

Octets that are put at the end of a file in two parts are there as if they came at once.  If a file can be made then it
can be made again, since all that stands on the way to it then are folders.

* `FileTree.append_append` : two parts at the names of one file;
* `FileSystem.obstacle?_update` : a change that makes a file puts nothing in its own way.

Main statements: `extend_eq_ok_iff`, when a file can grow and what the files are then, and `extend_extend`.
-/

namespace SaslBind

variable {change : Option FileTree → FileTree}

namespace FileTree

theorem update_update (first second : Option FileTree → FileTree) (names : List Text) (node : Option FileTree) :
    update second names (some (update first names node)) = update (fun node => second (some (first node))) names node := by
  induction names generalizing node with
  | nil => rfl
  | cons name names ih =>
    let es := (node.getD (.folder [])).entries
    let below := update first names (find? name es)
    have found : find? name (Entries.put name.carried below es) = some below := by
      rw [find?, Entries.lookup_put, if_pos rfl]
    change FileTree.folder (Entries.put name.carried
      (update second names (find? name (Entries.put name.carried below es))) (Entries.put name.carried below es)) = _
    rw [found, ih, Entries.put_put]
    rfl

theorem append_append (tree : FileTree) (names : List Text) (bs cs : List UInt8) :
    (tree.append names bs).append names cs = tree.append names (bs ++ cs) := by
  unfold append
  rw [update_update]
  congr 1
  funext node
  match node with
  | none => rfl
  | some (.folder _) => rfl
  | some (.file content) => exact congrArg FileTree.file (List.append_assoc content bs cs)

end FileTree

namespace FileSystem

open FileTree (find? update size longestName)

/-! ### What stands in the way -/

/-- Nothing stands in the way of the first name of some, if what is there is a file of the last name, or if nothing
stands in the way of the other names in the folder that is there or could be made. -/
theorem obstacle?_cons_eq_none_iff {closed : Bool} {way names : List Text} {name : Text} {es : Entries FileTree} :
    obstacle? closed way es (name :: names) = none ↔ ¬ longestName < size name ∧
      match find? name es with
      | none => closed = false ∧ (names = [] ∨ obstacle? closed (way ++ [name]) [] names = none)
      | some (.file _) => names = []
      | some (.folder es) => obstacle? closed (way ++ [name]) es names = none := by
  rw [obstacle?.eq_def]
  by_cases long : longestName < size name
  · simp [long]
  simp only [long, if_false, not_false_eq_true, true_and]
  match find? name es, names with
  | none, names => cases closed <;> cases names <;> simp
  | some (.file _), [] => simp
  | some (.file _), [_] => simp
  | some (.file _), _ :: _ :: _ => simp
  | some (.folder _), names => simp

theorem obstacle?_update (makes : ∀ node, (∀ es, node ≠ some (.folder es)) → ∃ content, change node = .file content)
    {closed : Bool} {way names : List Text} {tree : FileTree} (h : obstacle? closed way tree.entries names = none) :
    obstacle? closed way (update change names (some tree)).entries names = none := by
  -- the way to the file is the same but for folders that were missing, which are empty
  induction names generalizing way tree with
  | nil => cases h
  | cons name names ih =>
    have found : find? name (update change (name :: names) (some tree)).entries =
        some (update change names (find? name tree.entries)) := by
      change find? name (Entries.put name.carried (update change names (find? name tree.entries)) tree.entries) = _
      rw [find?, Entries.lookup_put, if_pos rfl]
    obtain ⟨short, here⟩ := obstacle?_cons_eq_none_iff.1 h
    refine obstacle?_cons_eq_none_iff.2 ⟨short, ?_⟩
    rw [found]
    cases hn : find? name tree.entries with
    | none =>
      rw [hn] at here
      obtain ⟨-, rfl | below⟩ := here
      · obtain ⟨content, hc⟩ := makes none nofun
        rw [update, hc]
      · cases names with
        | nil => cases below
        | cons next names =>
          have free : obstacle? closed (way ++ [name]) (FileTree.folder []).entries (next :: names) = none := below
          exact ih free
    | some node =>
      rw [hn] at here
      cases node with
      | file content =>
        obtain rfl : names = [] := here
        obtain ⟨content, hc⟩ := makes (some (.file content)) nofun
        rw [update, hc]
      | folder es =>
        cases names with
        | nil => cases here
        | cons next names =>
          have free : obstacle? closed (way ++ [name]) (FileTree.folder es).entries (next :: names) = none := here
          exact ih free

variable {files made : FileSystem} {p : Path} {bs : List UInt8}

theorem check_eq_ok_iff :
    files.check p = .ok () ↔
      pathFault? p = none ∧ obstacle? (files.isClosed p.names) [] files.root.entries p.names = none := by
  unfold check
  cases pathFault? p <;> cases obstacle? (files.isClosed p.names) [] files.root.entries p.names <;> simp

/-- Octets are put at the end of a file if the path can be asked for and nothing stands in the way of it; nothing else
changes. -/
theorem extend_eq_ok_iff :
    files.extend p bs = .ok made ↔
      pathFault? p = none ∧ obstacle? (files.isClosed p.names) [] files.root.entries p.names = none ∧
        made = { files with root := files.root.append p.names bs } := by
  rw [← and_assoc, ← check_eq_ok_iff, extend, eq_comm (a := made)]
  cases files.check p <;> simp [Except.map]

/-- **Octets in two parts.**  If octets can be put at the end of a file, then so can others after them, and the file is
as if they came at once. -/
theorem extend_extend (h : files.extend p bs = .ok made) (cs : List UInt8) :
    ∃ last, made.extend p cs = .ok last ∧ files.extend p (bs ++ cs) = .ok last := by
  obtain ⟨askable, free, rfl⟩ := extend_eq_ok_iff.1 h
  refine ⟨{ files with root := files.root.append p.names (bs ++ cs) }, extend_eq_ok_iff.2 ⟨askable, ?_, ?_⟩,
    extend_eq_ok_iff.2 ⟨askable, free, rfl⟩⟩
  · refine obstacle?_update (fun node other => ?_) free
    match node with
    | none => exact ⟨bs, rfl⟩
    | some (.file content) => exact ⟨content ++ bs, rfl⟩
    | some (.folder es) => exact absurd rfl (other es)
  · rw [FileTree.append_append]

theorem extend_of_extend {last : FileSystem} {cs : List UInt8} (h : files.extend p bs = .ok made)
    (h' : made.extend p cs = .ok last) : files.extend p (bs ++ cs) = .ok last := by
  obtain ⟨last', added, together⟩ := extend_extend h cs
  rwa [Except.ok.inj (h'.symm.trans added)]

end FileSystem

end SaslBind
