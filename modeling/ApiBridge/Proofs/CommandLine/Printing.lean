import ApiBridge.Proofs.CommandLine.Runs

/-!
# What parts of runs print

What a part of a run prints as data depends on what it comes to. Parts that only say something of
their work print no data, whatever they come to, so that the data of a run is put together from the
few parts that print data.
-/

namespace ApiBridge.CommandLine

namespace Run

open Printed

variable {α β ε : Type} {x : Run α} {f : α → Run β}

/-- However a part of a run ends, what it comes to and the data that it prints are related. -/
def Prints (x : Run α) (P : Except Failure α → String → Prop) : Prop :=
  ∀ s, ∃ ps, (x.after s).2.printed = s.printed ++ ps ∧ P (x.after s).1 (dataText ps)

/-- A part of a run prints no data. -/
def Silent (x : Run α) : Prop :=
  Prints x fun _ text => text = ""

/-! ### Single parts -/

lemma prints_pure {P : Except Failure α → String → Prop} {a : α} (h : P (.ok a) "") :
    Prints (pure a) P := by
  intro s
  refine ⟨[], ?_, h⟩
  rw [after_pure, List.append_nil]

lemma prints_print {P : Except Failure Unit → String → Prop} {ps : List Printed}
    (h : P (.ok ()) (dataText ps)) : Prints (print ps) P :=
  fun _ => ⟨ps, rfl, h⟩

/-- Writing files prints nothing. -/
lemma silent_write (kind : ε → Failure) (g : FileTree → FileTree × Option ε) :
    Silent (write kind g) := by
  intro s
  refine ⟨[], ?_, rfl⟩
  rw [after_write, List.append_nil]

/-! ### One part after another -/

lemma Prints.imp {P Q : Except Failure α → String → Prop} (hx : Prints x P)
    (h : ∀ r text, P r text → Q r text) : Prints x Q := by
  intro s
  obtain ⟨ps, printed, hP⟩ := hx s
  exact ⟨ps, printed, h _ _ hP⟩

lemma Prints.bind {P : Except Failure α → String → Prop} {Q : Except Failure β → String → Prop}
    (hx : Prints x P) (failed : ∀ e text, P (.error e) text → Q (.error e) text)
    (next : ∀ a text, P (.ok a) text → Prints (f a) fun r more => Q r (text ++ more)) :
    Prints (x >>= f) Q := by
  intro s
  obtain ⟨ps, printed, hP⟩ := hx s
  rw [after_bind]
  generalize x.after s = done at printed hP ⊢
  obtain ⟨r, t⟩ := done
  cases r with
  | error e => exact ⟨ps, printed, failed e _ hP⟩
  | ok a =>
    obtain ⟨qs, printed', hQ⟩ := next a _ hP t
    refine ⟨ps ++ qs, ?_, ?_⟩
    · rw [printed', show t.printed = s.printed ++ ps from printed, List.append_assoc]
    · rw [dataText_append]
      exact hQ

/-- After a part that prints no data, the data is that of what follows. -/
lemma Silent.bind {Q : Except Failure β → String → Prop} (hx : Silent x)
    (failed : ∀ e, Q (.error e) "") (next : ∀ a, Prints (f a) Q) : Prints (x >>= f) Q := by
  refine Prints.bind hx ?_ ?_
  · rintro e _ rfl
    exact failed e
  · rintro a _ rfl
    simpa only [String.empty_append] using next a

/-- What only says something afterwards does not change the data. -/
lemma Prints.before {P : String → Prop} {x y : Run Unit}
    (hx : Prints x fun r text => r = .ok () → P text) (hy : Silent y) :
    Prints (x >>= fun _ => y) fun r text => r = .ok () → P text := by
  refine hx.bind (fun _ _ _ h => by cases h) ?_
  rintro ⟨⟩ text shown
  refine hy.imp ?_
  rintro r _ rfl -
  rw [String.append_empty]
  exact shown rfl

/-! ### Messages -/

/-- What is known of messages is whether they are said to their end. -/
lemma prints_tell {c : ColorConsole} {ms : List Message} {P : Except Failure Unit → String → Prop}
    (drawn : c.Draws ms → P (.ok ()) "")
    (undrawn : ∀ reason, ¬c.Draws ms → P (.error (.marks reason)) "") : Prints (tell c ms) P := by
  intro s
  refine ⟨(c.sayAll ms).1, by rw [after_tell]; rfl, ?_⟩
  rw [after_tell, c.dataText_sayAll]
  cases stopped : (c.sayAll ms).2 with
  | none => exact drawn (ColorConsole.stopped_sayAll_iff.1 stopped)
  | some reason =>
    refine undrawn reason fun all => ?_
    cases stopped.symm.trans (ColorConsole.stopped_sayAll_iff.2 all)

/-- Messages do not show in the data. -/
lemma silent_tell (c : ColorConsole) (ms : List Message) : Silent (tell c ms) :=
  prints_tell (fun _ => rfl) fun _ _ => rfl

/-- What prints data on its way only starts to do so when all messages before it are drawn. -/
lemma prints_spoken_bind {c : ColorConsole} {ms : List Message} {r : Except Failure α}
    {Q : Except Failure β → String → Prop}
    (undrawn : ∀ reason, ¬c.Draws ms → Q (.error (.marks reason)) "")
    (failed : ∀ e, c.Draws ms → r = .error e → Q (.error e) "")
    (next : ∀ a, c.Draws ms → r = .ok a → Prints (f a) Q) :
    Prints (spoken c ms r >>= f) Q := by
  have comes : Prints (spoken c ms r) fun r' text => text = "" ∧
      ((c.Draws ms ∧ r' = r) ∨ ¬c.Draws ms ∧ ∃ reason, r' = .error (.marks reason)) := by
    intro s
    by_cases drawn : c.Draws ms
    · rw [after_spoken_of_draws drawn]
      exact ⟨_, rfl, c.dataText_sayAll ms, .inl ⟨drawn, rfl⟩⟩
    · obtain ⟨reason, stops⟩ := after_spoken_of_not_draws drawn r s
      rw [stops]
      exact ⟨_, rfl, c.dataText_sayAll ms, .inr ⟨drawn, reason, rfl⟩⟩
  refine comes.bind ?_ ?_
  · rintro e _ ⟨rfl, ⟨drawn, he⟩ | ⟨undrawable, reason, he⟩⟩
    · exact failed e drawn he.symm
    · cases he
      exact undrawn reason undrawable
  · rintro a _ ⟨rfl, ⟨drawn, ha⟩ | ⟨-, reason, ha⟩⟩
    · simpa only [String.empty_append] using next a drawn ha.symm
    · cases ha

/-- What is known of the data of a run that ends well is shown where its messages are drawn. -/
lemma prints_spoken_bind_of_ok {c : ColorConsole} {ms : List Message} {r : Except Failure α}
    {f : α → Run Unit} {P : String → Prop}
    (next : ∀ a, r = .ok a → Prints (f a) fun r' text => r' = .ok () → P text) :
    Prints (spoken c ms r >>= f) fun r' text => r' = .ok () → P text := by
  refine prints_spoken_bind (fun reason _ ended => ?_) (fun e _ _ ended => ?_)
    fun a _ ha => next a ha
  · cases ended
  · cases ended

/-- What prints data on its way goes on if something that may fail returns. -/
lemma prints_require_bind {kind : ε → Failure} {r : Except ε α}
    {Q : Except Failure β → String → Prop} (failed : ∀ e, r = .error e → Q (.error (kind e)) "")
    (next : ∀ a, r = .ok a → Prints (f a) Q) : Prints (require kind r >>= f) Q := by
  cases r with
  | ok a => exact next a rfl
  | error e =>
    intro s
    rw [after_bind, after_require]
    exact ⟨[], (List.append_nil _).symm, failed e rfl⟩

/-! ### Data -/

lemma prints_printData {P : Except Failure Unit → String → Prop} {d : Console.DataResult}
    (h : P (unlessStopped .data d.2) (dataText d.1)) : Prints (printData d) P := by
  intro s
  rw [after_printData]
  exact ⟨d.1, rfl, h⟩

lemma showTable_of_ne_rich {c : ColorConsole} (hc : c.format ≠ .rich) (title : String) (t : Table) :
    showTable c title t = printData (t.print c.toConsole) := by
  unfold showTable
  split
  case h_1 rich => exact absurd rich hc
  case h_2 => rfl

end Run

/-! ### Whole runs -/

open Run

variable {h : Host} {words : List String} {choice : ConsoleChoice} {task : Task}

/-- The report of a failure does not show in the data. -/
lemma dataText_told (f : Failure) (c : ColorConsole) : Printed.dataText (f.told c).1 = "" := by
  have report := c.dataText_say .error f.report
  unfold Failure.told
  split
  case h_1 hs =>
    rw [hs] at report
    exact report
  case h_2 =>
    split
    · exact c.dataText_say _ _
    · rfl

/-- What a task prints as data is all that a run with it prints as data. -/
lemma dataText_run (hw : Request.ofWords words = .ok (.work choice task))
    {P : Except Failure Unit → String → Prop}
    (hP : Prints (task.perform h (choice.console h)) P) :
    P (task.outcome h choice).1 (Printed.dataText (run h words).printed) := by
  obtain ⟨ps, printed, hr⟩ := hP ⟨[], h.tree, []⟩
  change (task.outcome h choice).2.printed = ps at printed
  change P (task.outcome h choice).1 _ at hr
  rw [run_eq hw]
  generalize task.outcome h choice = ended at printed hr ⊢
  obtain ⟨result, done⟩ := ended
  subst printed
  cases result with
  | ok _ => exact hr
  | error f =>
    simpa only [Effects.printed_withPrinted, Printed.dataText_append, dataText_told,
      String.append_empty] using hr

end ApiBridge.CommandLine
