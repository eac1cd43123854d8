import SaslBind.Log.File
import SaslBind.Proofs.Files.Extension
import SaslBind.Proofs.Related
import SaslBind.Proofs.Text.Surrogate

/-!
# What goes to a log file

Each record that goes to a log file has its line at the end of the file that is open then.  That is the one of the record
before, or the file has been turned over in between; and a record is lost if that fails or if its line can not be written.

* `OpenLog.Made` : a file that there is; it can always grow;
* `Fate` : what becomes of a record;
* `LogFile.Filed` : records that go to a log file, with what becomes of each;
* `LogFile.Calm` : the file is to be turned over before none of some records.

Main statements: `exists_fate`, a record has a fate, `Filed.grown`, the lines of records that stay with one file all stand
at its end, and `Filed.forall_stayed`, all records stay with a file that is calm.
-/

namespace SaslBind

/-! ### Files that are open -/

namespace OpenLog

/-- The file is there: it is what became of others when octets were put at its end. -/
def Made (b : OpenLog) : Prop := ∃ (files : FileSystem) (bs : List UInt8), files.extend b.path bs = .ok b.files

variable {b c : OpenLog} {bs : List UInt8}

theorem append_eq_ok_iff : b.append bs = .ok c ↔ c.path = b.path ∧ b.files.extend b.path bs = .ok c.files := by
  unfold append
  cases b.files.extend b.path bs with
  | error f => simp [Except.map]
  | ok files =>
    obtain ⟨path, files'⟩ := c
    simp [Except.map, and_comm, eq_comm]

theorem made_of_append (h : b.append bs = .ok c) : c.Made := by
  obtain ⟨path, grown⟩ := append_eq_ok_iff.1 h
  exact ⟨b.files, bs, by rw [path, grown]⟩

theorem Made.exists_append (h : b.Made) (bs : List UInt8) : ∃ c, b.append bs = .ok c := by
  obtain ⟨files, before, made⟩ := h
  obtain ⟨last, grown, -⟩ := FileSystem.extend_extend made bs
  exact ⟨⟨b.path, last⟩, append_eq_ok_iff.2 ⟨rfl, grown⟩⟩

end OpenLog

/-- What becomes of a record: its line stands in the file that was open already, or in the next one, or it is lost. -/
inductive Fate where
  | stayed
  | turned
  | lost
deriving DecidableEq, Repr

namespace LogFile

/-- Records that go to a log file, with their fates, from the occasion with some number on: what the file was before, and
what it is after them. -/
inductive Filed (l : LogFile) (occasions : Nat → Occasion) : Nat → OpenLog → List (Log.Record × Fate) → OpenLog → Prop
  | nil (n : Nat) (b : OpenLog) : Filed l occasions n b [] b
  /-- The file is not to be turned over, and the line of the record is put at its end. -/
  | stayed {n : Nat} {b c last : OpenLog} {r : Log.Record} {rs : List (Log.Record × Fate)}
      (due : l.isDue (occasions n) b ((occasions n).line r) = .ok false)
      (plain : ((occasions n).line r).hasSurrogate = false)
      (written : b.append ((occasions n).line r).octets = .ok c) (rest : Filed l occasions (n + 1) c rs last) :
      Filed l occasions n b ((r, .stayed) :: rs) last
  /-- The file is turned over, and the line is put at the end of the next one. -/
  | turned {n : Nat} {b next c last : OpenLog} {r : Log.Record} {rs : List (Log.Record × Fate)}
      (due : l.isDue (occasions n) b ((occasions n).line r) = .ok true) (turned : l.turnOver (occasions n) b = .ok next)
      (plain : ((occasions n).line r).hasSurrogate = false)
      (written : next.append ((occasions n).line r).octets = .ok c) (rest : Filed l occasions (n + 1) c rs last) :
      Filed l occasions n b ((r, .turned) :: rs) last
  /-- The record is lost, which happens only if the file is to be turned over, or no one can say that, or if the line can
  not be written.  Then nothing is put into the file, which may have been turned over. -/
  | lost {n : Nat} {b last : OpenLog} {r : Log.Record} {rs : List (Log.Record × Fate)}
      (why : l.isDue (occasions n) b ((occasions n).line r) = .ok false → ((occasions n).line r).hasSurrogate = true)
      (rest : Filed l occasions (n + 1) (l.left (occasions n) b r) rs last) : Filed l occasions n b ((r, .lost) :: rs) last

/-- The records that are lost. -/
def lostOf (rs : List (Log.Record × Fate)) : List Log.Record := (rs.filter (·.2 = .lost)).map Prod.fst

/-- The lines of records, from the occasion with some number on. -/
def lines (occasions : Nat → Occasion) : Nat → List Log.Record → Text
  | _, [] => []
  | n, r :: rs => (occasions n).line r ++ lines occasions (n + 1) rs

/-- The file is not to be turned over before any of some records when the lines of those before stand at its end, after
other octets. -/
def Calm (l : LogFile) (occasions : Nat → Occasion) (n : Nat) (files : FileSystem) (path : Path) (bs : List UInt8)
    (rs : List Log.Record) : Prop :=
  ∀ before r after, rs = before ++ r :: after → ∀ c : OpenLog, c.path = path →
    files.extend path (bs ++ (lines occasions n before).octets) = .ok c.files →
      l.isDue (occasions (n + before.length)) c ((occasions (n + before.length)).line r) = .ok false

variable {l : LogFile} {o : Occasion} {occasions : Nat → Occasion} {n : Nat} {b c last : OpenLog} {r : Log.Record}
  {rs : List (Log.Record × Fate)}

/-! ### One record -/

theorem made_of_turnOver (h : l.turnOver o b = .ok c) : c.Made := by
  obtain ⟨path, -, h⟩ := ok_of_bind h
  obtain ⟨files, -, h⟩ := ok_of_bind h
  exact OpenLog.made_of_append h

/-- The line of a record is put at the end of the file that it goes to, if it can be written. -/
theorem put_eq (hn : l.next o b (o.line r) = .ok c) (plain : (o.line r).hasSurrogate = false) :
    l.put o b r = c.append (o.line r).octets := by
  have run : (o.line r).surrogateRun? = none := Text.surrogateRun?_eq_none_iff.2 plain
  unfold put
  simp only [hn, run, bind, Except.bind]

theorem put_of_error {f : Fault} (hn : l.next o b (o.line r) = .error f) : l.put o b r = .error f := by
  unfold put
  simp only [hn, bind, Except.bind]

theorem put_of_surrogate (hn : l.next o b (o.line r) = .ok c) (foreign : (o.line r).hasSurrogate = true) :
    ∃ f, l.put o b r = .error f := by
  cases run : (o.line r).surrogateRun? with
  | none => exact nomatch foreign.symm.trans (Text.surrogateRun?_eq_none_iff.1 run)
  | some run' =>
    unfold put
    simp only [hn, run, bind, Except.bind]
    exact ⟨_, rfl⟩

theorem next_of_stays {line : Text} (due : l.isDue o b line = .ok false) : l.next o b line = .ok b := by
  simp only [next, due, bind, Except.bind, Bool.false_eq_true, if_false, pure, Except.pure]

theorem next_of_due {line : Text} (due : l.isDue o b line = .ok true) : l.next o b line = l.turnOver o b := by
  simp only [next, due, bind, Except.bind, if_true]

theorem next_of_error {line : Text} {f : Fault} (due : l.isDue o b line = .error f) :
    l.next o b line = .error f := by
  simp only [next, due, bind, Except.bind]

theorem made_of_next {line : Text} (made : b.Made) (h : l.next o b line = .ok c) : c.Made := by
  cases due : l.isDue o b line with
  | error f => exact nomatch h.symm.trans (next_of_error due)
  | ok isDue =>
    cases isDue with
    | false =>
      obtain rfl := Except.ok.inj (h.symm.trans (next_of_stays due))
      exact made
    | true => exact made_of_turnOver ((next_of_due due).symm.trans h)

theorem left_of_stays (due : l.isDue o b (o.line r) = .ok false) : l.left o b r = b := by
  rw [left, next_of_stays due]

theorem made_left (made : b.Made) (o : Occasion) (r : Log.Record) : (l.left o b r).Made := by
  unfold left
  split
  next next turned => exact made_of_next made turned
  next => exact made

/-- What a record comes to at a log file that is there: its line at the end of the file, or at the end of the next one,
or a fault, which comes of turning the file over or of a line that can not be written. -/
theorem exists_fate (made : b.Made) (o : Occasion) (r : Log.Record) :
    (∃ c, l.put o b r = .ok c ∧ l.isDue o b (o.line r) = .ok false ∧ (o.line r).hasSurrogate = false ∧
      b.append (o.line r).octets = .ok c) ∨
    (∃ next c, l.put o b r = .ok c ∧ l.isDue o b (o.line r) = .ok true ∧ l.turnOver o b = .ok next ∧
      (o.line r).hasSurrogate = false ∧ next.append (o.line r).octets = .ok c) ∨
    ∃ f, l.put o b r = .error f ∧ (l.isDue o b (o.line r) = .ok false → (o.line r).hasSurrogate = true) := by
  cases due : l.isDue o b (o.line r) with
  | error f => exact .inr (.inr ⟨f, put_of_error (next_of_error due), fun h => nomatch h⟩)
  | ok isDue =>
    cases isDue with
    | false =>
      cases foreign : (o.line r).hasSurrogate with
      | true =>
        obtain ⟨f, lost⟩ := put_of_surrogate (next_of_stays due) foreign
        exact .inr (.inr ⟨f, lost, fun _ => rfl⟩)
      | false =>
        obtain ⟨c, written⟩ := made.exists_append (o.line r).octets
        exact .inl ⟨c, (put_eq (next_of_stays due) foreign).trans written, rfl, rfl, written⟩
    | true =>
      have next := next_of_due due
      cases turned : l.turnOver o b with
      | error f => exact .inr (.inr ⟨f, put_of_error (next.trans turned), fun h => nomatch h⟩)
      | ok next' =>
        cases foreign : (o.line r).hasSurrogate with
        | true =>
          obtain ⟨f, lost⟩ := put_of_surrogate (next.trans turned) foreign
          exact .inr (.inr ⟨f, lost, fun h => nomatch h⟩)
        | false =>
          obtain ⟨c, written⟩ := (made_of_turnOver turned).exists_append (o.line r).octets
          exact .inr (.inl ⟨next', c, (put_eq (next.trans turned) foreign).trans written, rfl, rfl, rfl, written⟩)

/-! ### Records in a row -/

section

variable {files : FileSystem} {path : Path} {bs : List UInt8} {more : List Log.Record}

theorem Calm.head (calm : l.Calm occasions n files b.path bs (r :: more))
    (made : files.extend b.path bs = .ok b.files) : l.isDue (occasions n) b ((occasions n).line r) = .ok false :=
  calm [] r more rfl b rfl (by rwa [lines, Text.octets, List.flatMap_nil, List.append_nil])

theorem Calm.tail (calm : l.Calm occasions n files path bs (r :: more)) :
    l.Calm occasions (n + 1) files path (bs ++ ((occasions n).line r).octets) more := by
  intro before r' after parted c hc extended
  have due := calm (r :: before) r' after (congrArg (r :: ·) parted) c hc
    (by rwa [lines, Text.octets_append, ← List.append_assoc])
  rwa [List.length_cons, Nat.add_comm before.length, ← Nat.add_assoc] at due

end

/-- **One file.**  If the file is turned over at no record, and none is lost, then it has the same path after them, and
their lines stand at its end in order. -/
theorem Filed.grown (h : l.Filed occasions n b rs last) (stayed : ∀ e ∈ rs, e.2 = .stayed) {files : FileSystem}
    {bs : List UInt8} (made : files.extend b.path bs = .ok b.files) :
    last.path = b.path ∧
      files.extend b.path (bs ++ (lines occasions n (rs.map Prod.fst)).octets) = .ok last.files := by
  induction h generalizing bs with
  | nil n b => exact ⟨rfl, by rwa [List.map_nil, lines, Text.octets, List.flatMap_nil, List.append_nil]⟩
  | @stayed n b c last r rs due plain written rest ih =>
    obtain ⟨path, grown⟩ := OpenLog.append_eq_ok_iff.1 written
    have together := FileSystem.extend_of_extend made grown
    rw [← path] at together ⊢
    obtain ⟨same, all⟩ := ih (fun e he => stayed e (List.mem_cons_of_mem _ he)) together
    refine ⟨same, ?_⟩
    rwa [List.map_cons, lines, Text.octets_append, ← List.append_assoc]
  | turned => exact nomatch stayed _ List.mem_cons_self
  | lost => exact nomatch stayed _ List.mem_cons_self

/-- If the file is at no record to be turned over, and all lines can be written, then all records stay with it. -/
theorem Filed.forall_stayed (h : l.Filed occasions n b rs last) {files : FileSystem} {bs : List UInt8}
    (made : files.extend b.path bs = .ok b.files) (calm : l.Calm occasions n files b.path bs (rs.map Prod.fst))
    (plain : ∀ n, ∀ e ∈ rs, ((occasions n).line e.1).hasSurrogate = false) : ∀ e ∈ rs, e.2 = .stayed := by
  induction h generalizing bs with
  | nil => exact fun _ he => nomatch he
  | @stayed n b c last r rs due _ written rest ih =>
    intro e he
    rcases List.mem_cons.1 he with rfl | he
    · rfl
    · obtain ⟨path, grown⟩ := OpenLog.append_eq_ok_iff.1 written
      have together := FileSystem.extend_of_extend made grown
      rw [← path] at together calm
      exact ih together calm.tail (fun n e he => plain n e (List.mem_cons_of_mem _ he)) e he
  | turned due => exact nomatch (calm.head made).symm.trans due
  | lost why => exact nomatch (plain _ _ List.mem_cons_self).symm.trans (why (calm.head made))

end LogFile

end SaslBind
