import ApiBridge.Proofs.Value.Keys
import ApiBridge.Validation

/-!
# Checks that are passed, and checks that are not

A check of several parts is passed when each part passes its own. Keys are checked as texts: those
that pass are texts, and bytes that stand for one.
-/

namespace ApiBridge

/-- A key that can be taken as a name: a text, or bytes that are one. -/
def Scalar.IsName : Scalar → Prop
  | .text _ => True
  | .bytes bs => ∃ s, Text.decode bs = .ok s
  | _ => False

/-- A check that is not passed. -/
def Check.IsFlawed {α : Type} (c : Check α) : Prop :=
  ∃ fs, c = .flawed fs

namespace Check

variable {α β : Type}

@[simp] lemma isFlawed_ok (a : α) : (Check.ok a).IsFlawed ↔ False := by
  simp [IsFlawed]

@[simp] lemma isFlawed_complain (c : Complaint) : (complain c : Check α).IsFlawed ↔ True := by
  simp [IsFlawed, complain]

@[simp] lemma isFlawed_map (f : α → β) (c : Check α) : (f <$> c).IsFlawed ↔ c.IsFlawed := by
  cases c with
  | ok a => simp [IsFlawed, Functor.map, seq]
  | flawed fs => simp [IsFlawed, Functor.map, seq]

@[simp] lemma isFlawed_under (s : Step) (c : Check α) : (under s c).IsFlawed ↔ c.IsFlawed := by
  cases c with
  | ok a => simp [IsFlawed, under]
  | flawed fs => simp [IsFlawed, under]

lemma isFlawed_seq (f : Check (α → β)) (c : Check α) :
    (f <*> c).IsFlawed ↔ f.IsFlawed ∨ c.IsFlawed := by
  cases f with
  | ok f =>
    cases c with
    | ok a => simp [IsFlawed, Seq.seq, seq]
    | flawed fs => simp [IsFlawed, Seq.seq, seq]
  | flawed fs =>
    cases c with
    | ok a => simp [IsFlawed, Seq.seq, seq]
    | flawed gs => simp [IsFlawed, Seq.seq, seq]

/-- All checks are passed together, or none is. -/
@[simp] lemma isFlawed_all {cs : List (Check α)} : (all cs).IsFlawed ↔ ∃ c ∈ cs, c.IsFlawed := by
  induction cs with
  | nil => simp [all]
  | cons c cs ih => rw [all, isFlawed_seq, isFlawed_map, ih, List.exists_mem_cons_iff]

end Check

/-! ### Checks that are passed -/

namespace Check

variable {α β : Type}

lemma map_eq_ok_iff {f : α → β} {c : Check α} {b : β} :
    f <$> c = .ok b ↔ ∃ a, c = .ok a ∧ f a = b := by
  cases c with
  | ok a => simp [Functor.map, seq]
  | flawed fs => simp [Functor.map, seq]

lemma seq_eq_ok_iff {f : Check (α → β)} {c : Check α} {b : β} :
    f <*> c = .ok b ↔ ∃ g a, f = .ok g ∧ c = .ok a ∧ g a = b := by
  cases f with
  | ok f =>
    cases c with
    | ok a => simp [Seq.seq, seq]
    | flawed fs => simp [Seq.seq, seq]
  | flawed fs =>
    cases c with
    | ok a => simp [Seq.seq, seq]
    | flawed gs => simp [Seq.seq, seq]

lemma under_eq_ok_iff {s : Step} {c : Check α} {a : α} : under s c = .ok a ↔ c = .ok a := by
  cases c with
  | ok b => simp [under]
  | flawed fs => simp [under]

/-- All checks are passed exactly when each is, with the results in order. -/
lemma all_eq_ok_iff {cs : List (Check α)} {as : List α} : all cs = .ok as ↔ cs = as.map .ok := by
  induction cs generalizing as with
  | nil => cases as <;> simp [all]
  | cons c cs ih =>
    simp only [all, seq_eq_ok_iff, map_eq_ok_iff, ih]
    cases as with
    | nil =>
      refine iff_of_false ?_ (by simp)
      rintro ⟨_, _, ⟨_, -, rfl⟩, -, h⟩
      cases h
    | cons a as =>
      rw [List.map_cons, List.cons.injEq]
      constructor
      · rintro ⟨_, _, ⟨a', hc, rfl⟩, hcs, h⟩
        cases h
        exact ⟨hc, hcs⟩
      · rintro ⟨hc, hcs⟩
        exact ⟨_, _, ⟨a, hc, rfl⟩, hcs, rfl⟩

lemma toExcept_eq_ok_iff {c : Check α} {a : α} : c.toExcept = .ok a ↔ c = .ok a := by
  cases c with
  | ok b => simp [toExcept]
  | flawed fs => simp [toExcept]

end Check

/-- A field that may be missing passes when it is missing and the default is taken, or when it is
found and passes. -/
lemma checkFieldOr_eq_ok_iff {α : Type} {names : List String} {check : Value → Check α}
    {default a : α} {es : List (Scalar × Value)} :
    checkFieldOr names check default es = .ok a ↔
      findField names es = none ∧ a = default ∨
        ∃ name v, findField names es = some (name, v) ∧ check v = .ok a := by
  unfold checkFieldOr
  cases findField names es with
  | none => simp [eq_comm]
  | some found =>
    obtain ⟨name, v⟩ := found
    simp [Check.under_eq_ok_iff]

/-- A field is found under one of its names. -/
lemma findField_eq_some {names : List String} {es : List (Scalar × Value)} {found : String × Value}
    (h : findField names es = some found) :
    found.1 ∈ names ∧ lookupKey (.text found.1) es = some found.2 := by
  unfold findField at h
  induction names with
  | nil => cases h
  | cons name names ih =>
    rw [List.firstM] at h
    cases hl : lookupKey (.text name) es with
    | some v =>
      rw [hl] at h
      cases h
      exact ⟨List.mem_cons_self, hl⟩
    | none =>
      rw [hl] at h
      obtain ⟨hmem, hfound⟩ := ih h
      exact ⟨List.mem_cons_of_mem name hmem, hfound⟩

lemma findField_singleton (name : String) (es : List (Scalar × Value)) :
    findField [name] es = (lookupKey (.text name) es).map (name, ·) := by
  unfold findField
  cases hl : lookupKey (.text name) es with
  | none => simp [List.firstM, hl]
  | some v => simp [List.firstM, hl]

/-! ### Keys as texts -/

lemma isFlawed_checkText {k : Scalar} : (Value.scalar k).checkText.IsFlawed ↔ ¬k.IsName := by
  cases k with
  | bytes bs =>
    simp only [Value.checkText, Scalar.IsName]
    cases h : Text.decode bs with
    | ok s => simp
    | error e => simp
  | _ => simp [Value.checkText, Scalar.IsName]

/-- Texts that all differ are taken as the names that they are. -/
lemma checkTextKeys_of_texts {α : Type} {es : List (String × α)} (h : (es.map (·.1)).Nodup) :
    checkTextKeys (es.map fun e => (Scalar.text e.1, e.2)) = .ok es := by
  rw [checkTextKeys, Check.map_eq_ok_iff]
  refine ⟨es, ?_, foldl_insertName_eq_self h⟩
  rw [Check.all_eq_ok_iff, List.map_map]
  rfl

lemma isFlawed_checkTextKeys {α : Type} {entries : List (Scalar × α)} :
    (checkTextKeys entries).IsFlawed ↔ ∃ e ∈ entries, ¬e.1.IsName := by
  simp [checkTextKeys, isFlawed_checkText]

end ApiBridge
