import ApiBridge.Console.Terminal
import Mathlib.Tactic.Lemma

/-!
# Data and messages

What is printed goes to two streams, and the text of a stream is made of what was printed to it, one
piece after another. Whatever a console says of its work is a message: it does not show in the data.
Messages are said to their end unless the terminal cannot draw one that is shown.
-/

namespace ApiBridge

namespace Printed

@[simp] lemma dataText_nil : dataText [] = "" := rfl

@[simp] lemma dataText_append (ps qs : List Printed) :
    dataText (ps ++ qs) = dataText ps ++ dataText qs := by
  simp only [dataText, List.filterMap_append, String.join_append]

@[simp] lemma dataText_cons_data (text : String) (ps : List Printed) :
    dataText (.data text :: ps) = text ++ dataText ps := by
  simp only [dataText, List.filterMap_cons, String.join_cons]

@[simp] lemma dataText_cons_message (text : String) (ps : List Printed) :
    dataText (.message text :: ps) = dataText ps := rfl

end Printed

namespace Console

open Printed

variable (text : String)

@[simp] lemma dataText_line : dataText [line text] = text ++ "\n" := by
  simp only [line, dataText_cons_data, dataText_nil, String.append_empty]

@[simp] lemma dataText_messageLine : dataText (messageLine text) = "" := rfl

end Console

namespace ColorConsole

open Printed

variable (c : ColorConsole) (kind : Remark) (text : String)

lemma dataText_emit (plain marked : String) : dataText (c.emit plain marked).1 = "" := by
  unfold emit
  split
  · rfl
  · split <;> rfl

@[simp] lemma dataText_say : dataText (c.say kind text).1 = "" := by
  unfold say
  split
  · exact c.dataText_emit _ _
  · rfl

@[simp] lemma dataText_sayAll (ms : List Message) : dataText (c.sayAll ms).1 = "" := by
  induction ms with
  | nil => rfl
  | cons m ms ih =>
    obtain ⟨kind, text⟩ := m
    have first := c.dataText_say kind text
    rw [sayAll]
    split
    case h_1 h =>
      rw [h] at first
      exact first
    case h_2 h =>
      rw [h] at first
      rw [dataText_append, first, ih, String.append_empty]

/-! ### Messages that can be drawn -/

/-- Every message that the console shows can be drawn; without colours nothing has to be. -/
def Draws (ms : List Message) : Prop :=
  c.noColor = false → ∀ m ∈ ms, m.1.isShown c.toConsole = true →
    ∃ drawn, c.terminal.draw (m.1.marked m.2) = .ok drawn

variable {c} {kind} {text} {ms ns : List Message}

@[simp] lemma draws_nil : c.Draws [] :=
  fun _ => by simp

lemma draws_cons_iff {m : Message} : c.Draws (m :: ms) ↔ c.Draws [m] ∧ c.Draws ms := by
  simp only [Draws, List.forall_mem_cons, List.not_mem_nil, false_implies, implies_true, and_true]
  exact imp_and

lemma draws_append_iff : c.Draws (ms ++ ns) ↔ c.Draws ms ∧ c.Draws ns := by
  simp only [Draws, List.forall_mem_append]
  exact imp_and

/-- A message is said unless it has to be drawn and cannot be. -/
lemma stopped_say_iff : (c.say kind text).2 = none ↔ c.Draws [(kind, text)] := by
  simp only [Draws, say, emit, List.forall_mem_singleton]
  cases hidden : kind.isShown c.toConsole with
  | false => simp
  | true =>
    cases c.noColor with
    | true => simp
    | false =>
      cases c.terminal.draw (kind.marked text) with
      | ok drawn => simp
      | error reason => simp

/-- Messages are said to their end exactly if all that are shown can be drawn. -/
lemma stopped_sayAll_iff : (c.sayAll ms).2 = none ↔ c.Draws ms := by
  induction ms with
  | nil => simp [sayAll]
  | cons m ms ih =>
    obtain ⟨kind, text⟩ := m
    rw [draws_cons_iff, ← ih, ← stopped_say_iff, sayAll]
    split
    case h_1 h => simp [h]
    case h_2 h => simp [h]

/-- Messages after others are said unless one of the others cannot be. -/
lemma sayAll_append : c.sayAll (ms ++ ns) =
    match c.sayAll ms with
    | (ps, some reason) => (ps, some reason)
    | (ps, none) => (ps ++ (c.sayAll ns).1, (c.sayAll ns).2) := by
  induction ms with
  | nil => rfl
  | cons m ms ih =>
    obtain ⟨kind, text⟩ := m
    rw [List.cons_append, sayAll, sayAll, ih]
    rcases c.say kind text with ⟨ps, reason | reason⟩
    · rcases c.sayAll ms with ⟨qs, stopped | stopped⟩
      · simp only [List.append_assoc]
      · rfl
    · rfl

end ColorConsole

end ApiBridge
