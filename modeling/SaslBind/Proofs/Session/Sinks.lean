import SaslBind.Session

/-!
# Sessions and their sinks

What is known of a session without running it, from the sessions that it is put together from.

* `Sinks.hears` : whether an event happens with some sinks;
* `Session.Unheeding` : a session that does not heed which sinks are there.  What it does with some of them is what it
  does with both, less what is written to those that are missing;
* `Session.Says`, `Session.Faults` : with both sinks, a session ends with a value and has said something on one of them,
  or a fault ends it before it says anything;
* `Session.Shows`, `Session.Fails` : what that means with any sinks;
* `Session.Answers` : commands that say something on the output if they succeed, and on the error sink if they do not;
* `Session.Orderly` : commands that answer, or that a fault ends before they say anything.

Main statements: `Unheeding.bind` and `Says.bind`, sessions that go on with one another; `Unheeding.onlySuppresses`, a
missing sink only suppresses; and `Orderly.tellsSink`, a code tells on which sink there is text.
-/

namespace SaslBind

namespace Sinks

def both : Sinks := ⟨true, true⟩

/-- Whether an event happens with these sinks: what is written to a missing one is dropped. -/
def hears (sinks : Sinks) : Event → Bool
  | .write sink _ => sinks.has sink
  | .record _ => true

@[simp] theorem has_both (sink : Sink) : both.has sink = true := by cases sink <;> rfl

end Sinks

namespace Event

theorem textOn_write (sink : Sink) (t : Text) (other : Sink) :
    textOn other (.write sink t) = if sink = other then t else [] := rfl

theorem text_write (sink : Sink) (t : Text) (other : Sink) :
    text other (if t.isEmpty then [] else [.write sink t]) = if other = sink then t else [] := by
  cases t with
  | nil => simp
  | cons c t => simp [text, textOn_write, eq_comm]

/-- All that is written to a sink is there if events are chosen that have it. -/
theorem text_filter {keeps : Event → Bool} {sink : Sink} (h : ∀ t, keeps (.write sink t)) (events : List Event) :
    text sink (events.filter keeps) = text sink events := by
  induction events with
  | nil => rfl
  | cons e events ih =>
    have silent (hs : keeps e = false) : textOn sink e = [] := by
      cases e with
      | record r => rfl
      | write other t =>
        refine if_neg fun same => ?_
        rw [same, h t] at hs
        cases hs
    cases hk : keeps e with
    | true => simpa [text, hk] using ih
    | false => simpa [text, hk, silent hk] using ih

/-- The events with some sinks leave the same text on a sink that is there, and none on one that is not. -/
theorem text_filter_hears (sinks : Sinks) (sink : Sink) (events : List Event) :
    text sink (events.filter sinks.hears) = if sinks.has sink then text sink events else [] := by
  cases hs : sinks.has sink with
  | true => rw [if_pos rfl, text_filter fun _ => hs]
  | false =>
    rw [if_neg Bool.false_ne_true]
    refine List.flatMap_eq_nil_iff.2 fun e he => ?_
    cases e with
    | record r => rfl
    | write other t =>
      have there : sinks.has other = true := (List.mem_filter.1 he).2
      refine if_neg fun same => ?_
      rw [same, hs] at there
      cases there

theorem records_filter (keeps : Event → Bool) (events : List Event) :
    (events.filter keeps).filterMap record? = (events.filterMap record?).filter fun r => keeps (.record r) := by
  induction events with
  | nil => rfl
  | cons e events ih =>
    cases e with
    | record r =>
      have some : record? (.record r) = some r := rfl
      cases h : keeps (.record r) <;> simp [h, some, ih]
    | write sink t =>
      have none : record? (.write sink t) = none := rfl
      cases h : keeps (.write sink t) <;> simp [h, none, ih]

/-- All records are there with any sinks. -/
theorem records_filter_hears (sinks : Sinks) (events : List Event) :
    (events.filter sinks.hears).filterMap record? = events.filterMap record? := by
  rw [records_filter]
  exact List.filter_eq_self.2 fun _ _ => rfl

end Event

namespace Session

variable {α β : Type} {x : Session α} {f : α → Session β}

theorem bind_apply_ok {sinks : Sinks} {a : α} {events : List Event} (h : x sinks = (.ok a, events)) :
    (x >>= f) sinks = ((f a sinks).1, events ++ (f a sinks).2) := by
  simp only [Bind.bind, Session.bind, h]

theorem bind_apply_error {sinks : Sinks} {e : Fault} {events : List Event} (h : x sinks = (.error e, events)) :
    (x >>= f) sinks = (.error e, events) := by
  simp only [Bind.bind, Session.bind, h]

/-! ### Sessions that do not heed their sinks -/

/-- A session that does not heed which sinks are there: it ends as it ends with both, and of the events only those are
missing that are written to a missing sink. -/
def Unheeding (x : Session α) : Prop := ∀ sinks : Sinks, x sinks = ((x .both).1, (x .both).2.filter sinks.hears)

namespace Unheeding

theorem result_eq (hx : Unheeding x) (sinks : Sinks) : (x sinks).1 = (x .both).1 := by rw [hx sinks]

theorem lift (result : Except Fault α) : Unheeding (Session.lift result) := fun _ => rfl

theorem fail (f : Fault) : Unheeding (Session.fail (α := α) f) := fun _ => rfl

theorem pure (a : α) : Unheeding (Pure.pure a : Session α) := fun _ => rfl

theorem record (level : Log.Level) (message : Text) : Unheeding (Session.record level message) := fun _ => rfl

theorem write (sink : Sink) (t : Text) : Unheeding (Session.write sink t) := by
  intro sinks
  unfold Session.write
  cases t with
  | nil => simp
  | cons c t => cases h : sinks.has sink <;> simp [Sinks.hears, h]

theorem bind (hx : Unheeding x) (hf : ∀ a, Unheeding (f a)) : Unheeding (x >>= f) := by
  intro sinks
  rcases hb : x .both with ⟨result, events⟩
  have h := hx sinks
  rw [hb] at h
  cases result with
  | error e => rw [bind_apply_error h, bind_apply_error hb]
  | ok a => rw [bind_apply_ok h, bind_apply_ok hb, hf a sinks, List.filter_append]

theorem writeLine (sink : Sink) (line : Text) : Unheeding (Session.writeLine sink line) := write sink _

theorem writeLines (sink : Sink) (lines : List Text) : Unheeding (Session.writeLines sink lines) := by
  induction lines with
  | nil => exact pure ()
  | cons line lines ih => exact (writeLine sink line).bind fun _ => ih

end Unheeding

/-- Whatever sinks there are, a session ends in the same way, leaves the same records, and shows on each sink that is
there the same text. -/
def OnlySuppresses (x : Session α) : Prop :=
  ∃ exit records, ∃ shown : Sink → Text, ∀ sinks : Sinks, (x sinks).1 = exit ∧ (x sinks).2.filterMap Event.record? = records ∧
    ∀ sink, Event.text sink (x sinks).2 = if sinks.has sink then shown sink else []

/-- **A missing sink only suppresses** what is written to it. -/
theorem Unheeding.onlySuppresses (h : Unheeding x) : OnlySuppresses x := by
  refine ⟨(x .both).1, (x .both).2.filterMap Event.record?, fun sink => Event.text sink (x .both).2, fun sinks => ?_⟩
  rw [h sinks]
  exact ⟨rfl, Event.records_filter_hears sinks _, fun sink => Event.text_filter_hears sinks sink _⟩

/-! ### What is said with both sinks -/

/-- With both sinks, a session ends with a value, and it has said this on one sink and nothing on the other. -/
def Says (x : Session α) (a : α) (sink : Sink) (t : Text) : Prop :=
  ∃ events, x .both = (.ok a, events) ∧ ∀ other, Event.text other events = if other = sink then t else []

/-- With both sinks, a fault ends a session before it says anything. -/
def Faults (x : Session α) (f : Fault) : Prop :=
  ∃ events, x .both = (.error f, events) ∧ ∀ sink, Event.text sink events = []

section

variable {a : α} {b : β} {sink : Sink} {t u : Text} {fault : Fault}

theorem says_pure (a : α) (sink : Sink) : Says (pure a) a sink [] := ⟨[], rfl, by simp⟩

theorem says_lift (a : α) (sink : Sink) : Says (Session.lift (.ok a)) a sink [] := says_pure a sink

theorem says_record (level : Log.Level) (message : Text) (sink : Sink) :
    Says (Session.record level message) () sink [] :=
  ⟨_, rfl, by simp [Event.text, Event.textOn]⟩

theorem says_write (sink : Sink) (t : Text) : Says (Session.write sink t) () sink t := by
  refine ⟨if t.isEmpty then [] else [.write sink t], ?_, Event.text_write sink t⟩
  cases t <;> simp [Session.write]

theorem Says.bind (hx : Says x a sink t) (hf : Says (f a) b sink u) : Says (x >>= f) b sink (t ++ u) := by
  obtain ⟨events, hx, ht⟩ := hx
  obtain ⟨more, hf, hu⟩ := hf
  refine ⟨events ++ more, by rw [bind_apply_ok hx, hf], fun other => ?_⟩
  rw [Event.text_append, ht, hu]
  split <;> rfl

/-- A fault before which nothing is said. -/
theorem Says.bind_faults (hx : Says x a sink []) (hf : Faults (f a) fault) : Faults (x >>= f) fault := by
  obtain ⟨events, hx, ht⟩ := hx
  obtain ⟨more, hf, hu⟩ := hf
  refine ⟨events ++ more, by rw [bind_apply_ok hx, hf], fun other => ?_⟩
  rw [Event.text_append, ht, hu, ite_self, List.append_nil]

theorem Faults.bind (hx : Faults x fault) : Faults (x >>= f) fault := by
  obtain ⟨events, hx, ht⟩ := hx
  exact ⟨events, bind_apply_error hx, ht⟩

theorem faults_fail (fault : Fault) : Faults (Session.fail (α := α) fault) fault := ⟨[], rfl, fun _ => rfl⟩

/-- Lines as they are shown. -/
def shownLines (lines : List Text) : Text := lines.flatMap (· ++ "\n".toText)

theorem shownLines_ne_nil {lines : List Text} (h : lines ≠ []) : shownLines lines ≠ [] := by
  obtain ⟨line, lines, rfl⟩ := List.exists_cons_of_ne_nil h
  simp [shownLines, String.toText]

theorem says_writeLines (sink : Sink) (lines : List Text) :
    Says (Session.writeLines sink lines) () sink (shownLines lines) := by
  induction lines with
  | nil => exact says_pure () sink
  | cons line lines ih => exact (says_write sink _).bind ih

end

/-! ### What is shown with any sinks -/

section

variable {a : α} {sink : Sink} {t : Text} {fault : Fault}

/-- With any sinks, a session ends with a value; it shows this on one sink if that is there, and nothing else. -/
def Shows (x : Session α) (a : α) (sink : Sink) (t : Text) : Prop :=
  ∀ sinks : Sinks, (x sinks).1 = .ok a ∧
    ∀ other, Event.text other (x sinks).2 = if sinks.has other ∧ other = sink then t else []

/-- With any sinks, a fault ends a session and it shows nothing. -/
def Fails (x : Session α) (f : Fault) : Prop :=
  ∀ sinks : Sinks, (x sinks).1 = .error f ∧ ∀ sink, Event.text sink (x sinks).2 = []

theorem Says.shows (hx : Says x a sink t) (hu : Unheeding x) : Shows x a sink t := by
  obtain ⟨events, hx, ht⟩ := hx
  intro sinks
  rw [hu sinks, hx]
  refine ⟨rfl, fun other => ?_⟩
  rw [Event.text_filter_hears, ht]
  cases sinks.has other <;> simp

theorem Faults.fails (hx : Faults x fault) (hu : Unheeding x) : Fails x fault := by
  obtain ⟨events, hx, ht⟩ := hx
  intro sinks
  rw [hu sinks, hx]
  refine ⟨rfl, fun sink => ?_⟩
  rw [Event.text_filter_hears, ht, ite_self]

end

/-! ### Orderly commands -/

/-- A command that ends with a code and says something on one sink and nothing on the other: on the output if it
succeeds, and on the error sink if it does not. -/
inductive Answers (x : Session ResultCode) : Prop
  | succeeds {t : Text} (said : t ≠ []) (h : x.Says .success .out t)
  | refuses {code : ResultCode} {t : Text} (known : code = .paramError ∨ code = .localError) (said : t ≠ [])
      (h : x.Says code .err t)

/-- A command that answers, or that a fault ends before it says anything. -/
def Orderly (x : Session ResultCode) : Prop := x.Answers ∨ ∃ f, x.Faults f

variable {x : Session ResultCode}

theorem Answers.exists_code (hx : x.Answers) :
    ∃ code ∈ [ResultCode.success, .paramError, .localError], (x .both).1 = .ok code := by
  cases hx with
  | succeeds _ h =>
    obtain ⟨events, hx, -⟩ := h
    exact ⟨_, List.mem_cons_self, by rw [hx]⟩
  | refuses known _ h =>
    obtain ⟨events, hx, -⟩ := h
    refine ⟨_, List.mem_cons_of_mem _ ?_, by rw [hx]⟩
    rcases known with rfl | rfl <;> decide

/-- Records do not change what a command says. -/
theorem Orderly.between (hx : x.Orderly) {before : Session Unit} (hb : ∀ sink, before.Says () sink [])
    {after : ResultCode → Session Unit} (ha : ∀ code sink, (after code).Says () sink []) :
    Orderly (do before; let code ← x; after code; pure code) := by
  have said {code : ResultCode} {sink : Sink} {t : Text} (h : x.Says code sink t) :
      Says (do before; let code ← x; after code; pure code) code sink t := by
    have done : Says (do let code ← x; after code; pure code) code sink (t ++ []) :=
      h.bind ((ha code sink).bind (says_pure code sink))
    rw [List.append_nil] at done
    exact (hb sink).bind done
  rcases hx with (⟨hne, h⟩ | ⟨known, hne, h⟩) | ⟨f, h⟩
  · exact .inl (.succeeds hne (said h))
  · exact .inl (.refuses known hne (said h))
  · exact .inr ⟨f, (hb .out).bind_faults h.bind⟩

/-- With both sinks, the result of a command tells where there is text: after success on the output only, after one of
the two codes of failure on the error sink only, and after a fault on neither.  There are no other codes. -/
def TellsSink (x : Session ResultCode) : Prop :=
  match x .both with
  | (.ok .success, events) => Event.text .err events = [] ∧ Event.text .out events ≠ []
  | (.ok code, events) =>
    (code = .paramError ∨ code = .localError) ∧ Event.text .out events = [] ∧ Event.text .err events ≠ []
  | (.error _, events) => Event.text .out events = [] ∧ Event.text .err events = []

theorem Orderly.tellsSink (hx : x.Orderly) : x.TellsSink := by
  unfold TellsSink
  rcases hx with (⟨hne, events, hx, ht⟩ | ⟨known, hne, events, hx, ht⟩) | ⟨f, events, hx, ht⟩ <;> rw [hx]
  · exact ⟨ht .err, ht .out ▸ hne⟩
  · rcases known with rfl | rfl
    · exact ⟨.inl rfl, ht .out, ht .err ▸ hne⟩
    · exact ⟨.inr rfl, ht .out, ht .err ▸ hne⟩
  · exact ⟨ht .out, ht .err⟩

end Session

end SaslBind
