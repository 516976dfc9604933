import ApiBridge.Notice
import Mathlib.Data.List.Forall2
import Mathlib.Data.Option.Basic
import Mathlib.Tactic.Lemma

/-!
# Outcomes

The outcome of a computation that reports notices is its result or its failure, with the notices
left aside. Taking the outcome commutes with everything such a computation is built from, so a
statement about results is a statement about `Except`, where sequences and lists of computations
are taken apart by the lemmas of the first section.
-/

namespace ApiBridge

variable {ε ε' α β : Type}

/-! ### Results and failures -/

lemma bind_eq_ok_iff {x : Except ε α} {f : α → Except ε β} {b : β} :
    x >>= f = .ok b ↔ ∃ a, x = .ok a ∧ f a = .ok b := by
  cases x with
  | ok a => simp [bind, Except.bind]
  | error e => simp [bind, Except.bind]

lemma bind_eq_error_iff {x : Except ε α} {f : α → Except ε β} {e : ε} :
    x >>= f = .error e ↔ x = .error e ∨ ∃ a, x = .ok a ∧ f a = .error e := by
  cases x with
  | ok a => simp [bind, Except.bind]
  | error e' => simp [bind, Except.bind]

lemma map_eq_ok_iff {x : Except ε α} {f : α → β} {b : β} :
    f <$> x = .ok b ↔ ∃ a, x = .ok a ∧ f a = b := by
  cases x with
  | ok a => simp [Functor.map, Except.map]
  | error e => simp [Functor.map, Except.map]

lemma mapError_eq_ok_iff {f : ε → ε'} {x : Except ε α} {a : α} :
    x.mapError f = .ok a ↔ x = .ok a := by
  cases x with
  | ok a => simp [Except.mapError]
  | error e => simp [Except.mapError]

lemma mapError_eq_error_iff {f : ε → ε'} {x : Except ε α} {e' : ε'} :
    x.mapError f = .error e' ↔ ∃ e, x = .error e ∧ f e = e' := by
  cases x with
  | ok a => simp [Except.mapError]
  | error e => simp [Except.mapError]

lemma toOption_eq_some_iff {x : Except ε α} {a : α} : x.toOption = some a ↔ x = .ok a := by
  cases x with
  | ok b => simp [Except.toOption]
  | error e => simp [Except.toOption]

lemma exists_of_isOk {x : Except ε α} (h : x.isOk = true) : ∃ a, x = .ok a := by
  cases x with
  | ok a => exact ⟨a, rfl⟩
  | error e => cases h

/-- A list of computations returns exactly when each of them does. -/
lemma mapM_eq_ok_iff {f : α → Except ε β} {xs : List α} {ys : List β} :
    xs.mapM f = .ok ys ↔ List.Forall₂ (fun x y => f x = .ok y) xs ys := by
  induction xs generalizing ys with
  | nil => simp [pure, Except.pure, eq_comm]
  | cons x xs ih =>
    simp only [List.mapM_cons, bind_eq_ok_iff, ih, pure, Except.pure, Except.ok.injEq,
      List.forall₂_cons_left_iff]
    grind

lemma mapM_returns {f : α → Except ε β} {xs : List α} (h : ∀ x ∈ xs, ∃ y, f x = .ok y) :
    ∃ ys, xs.mapM f = .ok ys := by
  induction xs with
  | nil => exact ⟨[], rfl⟩
  | cons x xs ih =>
    obtain ⟨y, hy⟩ := h x (by simp)
    obtain ⟨ys, hys⟩ := ih fun x' hx' => h x' (by simp [hx'])
    exact ⟨y :: ys, by simp [hy, hys, bind, Except.bind, pure, Except.pure]⟩

/-- A list of computations fails exactly when one of them does. -/
lemma mapM_fails_iff {f : α → Except ε β} {xs : List α} :
    (∃ e, xs.mapM f = .error e) ↔ ∃ x ∈ xs, ∃ e, f x = .error e := by
  induction xs with
  | nil => simp [pure, Except.pure]
  | cons x xs ih =>
    simp only [List.mapM_cons, List.exists_mem_cons_iff, ← ih]
    cases f x with
    | error e => simp [bind, Except.bind]
    | ok y =>
      cases xs.mapM f with
      | error e => simp [bind, Except.bind]
      | ok ys => simp [bind, Except.bind, pure, Except.pure]

/-! ### Lists -/

lemma mem_of_lookup {k : String} {a : α} {es : List (String × α)} (h : es.lookup k = some a) :
    (k, a) ∈ es := by
  obtain ⟨l₁, l₂, rfl, -⟩ := List.lookup_eq_some_iff.1 h
  simp

lemma lookup_of_mem {k : String} {a : α} {es : List (String × α)} (hn : (es.map (·.1)).Nodup)
    (h : (k, a) ∈ es) : es.lookup k = some a := by
  obtain ⟨before, after, rfl⟩ := List.append_of_mem h
  refine List.lookup_eq_some_iff.2 ⟨before, after, rfl, fun e he => ?_⟩
  rw [List.map_append, List.map_cons, List.nodup_append] at hn
  simpa using (hn.2.2 e.1 (List.mem_map_of_mem he) k (by simp)).symm

lemma exists_of_mem_right {R : α → β → Prop} {xs : List α} {ys : List β}
    (h : List.Forall₂ R xs ys) {y : β} (hy : y ∈ ys) : ∃ x ∈ xs, R x y := by
  induction h with
  | nil => simp at hy
  | cons hxy _ ih =>
    rcases List.mem_cons.1 hy with rfl | hy
    · exact ⟨_, by simp, hxy⟩
    · obtain ⟨x, hx, hr⟩ := ih hy
      exact ⟨x, by simp [hx], hr⟩

lemma exists_of_mem_left {R : α → β → Prop} {xs : List α} {ys : List β}
    (h : List.Forall₂ R xs ys) {x : α} (hx : x ∈ xs) : ∃ y ∈ ys, R x y :=
  exists_of_mem_right h.flip hx

lemma exists_getElem?_left {R : α → β → Prop} {xs : List α} {ys : List β}
    (h : List.Forall₂ R xs ys) {index : Nat} {y : β} (hy : ys[index]? = some y) :
    ∃ x, xs[index]? = some x ∧ R x y := by
  induction h generalizing index with
  | nil => simp at hy
  | cons hxy _ ih =>
    cases index with
    | zero =>
      obtain rfl := Option.some.inj hy
      exact ⟨_, rfl, hxy⟩
    | succ index => exact ih hy

/-- What a list of computations returns are the results of its elements. -/
lemma mem_of_mapM_eq_ok {f : α → Except ε β} {xs : List α} {ys : List β} (h : xs.mapM f = .ok ys)
    {y : β} : y ∈ ys ↔ ∃ x ∈ xs, f x = .ok y := by
  rw [mapM_eq_ok_iff] at h
  induction h with
  | nil => simp
  | cons hxy _ ih =>
    rw [List.mem_cons, ih, List.exists_mem_cons_iff, hxy, Except.ok.injEq, eq_comm]

lemma mapM_eq_error {f : α → Except ε β} {xs : List α} {e : ε} (h : xs.mapM f = .error e) :
    ∃ x ∈ xs, f x = .error e := by
  induction xs with
  | nil => cases h
  | cons x xs ih =>
    rw [List.mapM_cons] at h
    rcases bind_eq_error_iff.1 h with h | ⟨y, -, h⟩
    · exact ⟨x, by simp, h⟩
    · rcases bind_eq_error_iff.1 h with h | ⟨ys, -, h⟩
      · obtain ⟨x', hx', h⟩ := ih h
        exact ⟨x', by simp [hx'], h⟩
      · cases h

/-- Lists with the same elements return the same results or fail alike, where there is only one way
to fail. -/
lemma mapM_of_mem_iff {f : α → Except ε β} {e : ε} (hf : ∀ x e', f x = .error e' → e' = e)
    {xs xs' : List α} (h : ∀ x, x ∈ xs ↔ x ∈ xs') :
    (xs.mapM f = .error e ∧ xs'.mapM f = .error e) ∨
      ∃ ys ys', xs.mapM f = .ok ys ∧ xs'.mapM f = .ok ys' ∧ ∀ y, y ∈ ys ↔ y ∈ ys' := by
  have fails {zs : List α} (hz : ¬∃ ys, zs.mapM f = .ok ys) : zs.mapM f = .error e := by
    cases hm : zs.mapM f with
    | ok ys => exact absurd ⟨ys, hm⟩ hz
    | error e' =>
      obtain ⟨x, -, hx⟩ := mapM_eq_error hm
      rw [hf x e' hx]
  have returns {zs zs' : List α} (h : ∀ x, x ∈ zs' → x ∈ zs) (hz : ∃ ys, zs.mapM f = .ok ys) :
      ∃ ys, zs'.mapM f = .ok ys := by
    obtain ⟨ys, hys⟩ := hz
    refine mapM_returns fun x hx => ?_
    obtain ⟨y, -, hy⟩ := exists_of_mem_left (mapM_eq_ok_iff.1 hys) (h x hx)
    exact ⟨y, hy⟩
  by_cases hx : ∃ ys, xs.mapM f = .ok ys
  · obtain ⟨ys', hys'⟩ := returns (fun x => (h x).2) hx
    obtain ⟨ys, hys⟩ := hx
    refine .inr ⟨ys, ys', hys, hys', fun y => ?_⟩
    rw [mem_of_mapM_eq_ok hys, mem_of_mapM_eq_ok hys']
    simp only [h]
  · exact .inl ⟨fails hx, fails fun hx' => hx (returns (fun x => (h x).1) hx')⟩

lemma exists_forall₂ {R : α → β → Prop} {xs : List α} (h : ∀ x ∈ xs, ∃ y, R x y) :
    ∃ ys, List.Forall₂ R xs ys := by
  induction xs with
  | nil => exact ⟨[], .nil⟩
  | cons x xs ih =>
    obtain ⟨y, hy⟩ := h x (by simp)
    obtain ⟨ys, hys⟩ := ih fun x' hx' => h x' (by simp [hx'])
    exact ⟨y :: ys, .cons hy hys⟩

/-- Computations that are the same one by one are the same in sequence. -/
lemma mapM_eq_of_forall₂ {γ : Type} {m : Type → Type} [Monad m] [LawfulMonad m] {f : α → m γ}
    {g : β → m γ} {xs : List α} {ys : List β} (h : List.Forall₂ (fun x y => f x = g y) xs ys) :
    xs.mapM f = ys.mapM g := by
  induction h with
  | nil => rfl
  | cons hxy _ ih => rw [List.mapM_cons, List.mapM_cons, hxy, ih]

lemma forall₂_and_of_map_eq {γ : Type} {R : α → β → Prop} {f : α → γ} {g : β → γ} {xs : List α}
    {ys : List β} (h : List.Forall₂ R xs ys) (hm : ys.map g = xs.map f) :
    List.Forall₂ (fun x y => R x y ∧ g y = f x) xs ys := by
  induction h with
  | nil => exact .nil
  | cons hxy _ ih =>
    simp only [List.map_cons, List.cons.injEq] at hm
    exact .cons ⟨hxy, hm.1⟩ (ih hm.2)

lemma map_eq_of_forall₂ {γ : Type} {f : α → γ} {g : β → γ} {xs : List α} {ys : List β}
    (h : List.Forall₂ (fun x y => g y = f x) xs ys) : ys.map g = xs.map f := by
  induction h with
  | nil => rfl
  | cons hxy _ ih => simp only [List.map_cons, hxy, ih]

lemma rel_mono {R R' : α → β → Prop} (hR : ∀ x y, R x y → R' x y) {x : Option α}
    {y : Option β} (h : Option.Rel R x y) : Option.Rel R' x y := by
  cases h with
  | none => exact .none
  | some h => exact .some (hR _ _ h)

/-- What is found under a key in lists with the same keys. -/
lemma lookup_rel {R : α → β → Prop} {es : List (String × α)} {fs : List (String × β)}
    (h : List.Forall₂ (fun e f => f.1 = e.1 ∧ R e.2 f.2) es fs) (k : String) :
    Option.Rel R (es.lookup k) (fs.lookup k) := by
  induction h with
  | nil => exact .none
  | @cons e f _ _ hef _ ih =>
    obtain ⟨_, a⟩ := e
    obtain ⟨key, b⟩ := f
    obtain ⟨rfl, hab⟩ := hef
    by_cases hk : k = key
    · rw [hk, List.lookup_cons_self, List.lookup_cons_self]
      exact .some hab
    · rwa [List.lookup_cons, List.lookup_cons, beq_eq_false_iff_ne.2 hk]

lemma not_mem_intercalate {c : Char} {sep : List Char} {css : List (List Char)} (hs : c ∉ sep)
    (h : ∀ cs ∈ css, c ∉ cs) : c ∉ sep.intercalate css := by
  induction css with
  | nil => simp
  | cons cs css ih =>
    have first := h cs (by simp)
    have rest := ih fun cs' hcs => h cs' (by simp [hcs])
    cases css with
    | nil => simpa using first
    | cons cs' css =>
      rw [List.intercalate_cons_cons, List.mem_append, List.mem_append, not_or, not_or]
      exact ⟨⟨first, hs⟩, rest⟩

/-! ### Computations with notices -/

instance : LawfulMonad Noted :=
  LawfulMonad.mk' Noted (by intros; simp [Functor.map]) (by intros; rfl) (by intros; simp [bind])

namespace Attempt

/-- What a computation comes to. -/
def outcome (x : Attempt ε α) : Except ε α :=
  x.run.value

@[simp] lemma outcome_pure (a : α) : outcome (pure a : Attempt ε α) = .ok a := rfl

@[simp] lemma outcome_throw (e : ε) : outcome (throw e : Attempt ε α) = .error e := rfl

@[simp] lemma outcome_note (n : Notice) : outcome (note n : Attempt ε Unit) = .ok () := rfl

@[simp] lemma outcome_bind (x : Attempt ε α) (f : α → Attempt ε β) :
    outcome (x >>= f) = outcome x >>= fun a => outcome (f a) := by
  change (ExceptT.run x >>= ExceptT.bindCont f).value = _
  rw [Noted.value_bind]
  simp only [outcome]
  cases h : x.run.value with
  | ok a => rfl
  | error e => rfl

@[simp] lemma outcome_map (f : α → β) (x : Attempt ε α) :
    outcome (f <$> x) = f <$> outcome x := by
  rw [← bind_pure_comp, outcome_bind]
  cases outcome x with
  | ok a => rfl
  | error e => rfl

@[simp] lemma outcome_ofExcept (kind : ε → ε') (x : Except ε α) :
    outcome (ofExcept kind x) = x.mapError kind := by
  cases x with
  | ok a => rfl
  | error e => rfl

@[simp] lemma outcome_adapt (kind : ε → ε') (x : Attempt ε α) :
    outcome (ExceptT.adapt kind x) = (outcome x).mapError kind := rfl

@[simp] lemma outcome_liftM (x : Except ε α) : outcome (liftM x : Attempt ε α) = x := rfl

@[simp] lemma liftM_ok_bind (a : α) (f : α → Attempt ε β) :
    (liftM (.ok a : Except ε α) : Attempt ε α) >>= f = f a := rfl

@[simp] lemma ofExcept_ok_bind (kind : ε → ε') (a : α) (f : α → Attempt ε' β) :
    ofExcept kind (.ok a) >>= f = f a := rfl

@[simp] lemma ofExcept_error_bind (kind : ε → ε') (e : ε) (f : α → Attempt ε' β) :
    ofExcept kind (.error e) >>= f = throw (kind e) := rfl

@[simp] lemma outcome_mapM (f : α → Attempt ε β) (xs : List α) :
    outcome (xs.mapM f) = xs.mapM fun x => outcome (f x) := by
  induction xs with
  | nil => rfl
  | cons x xs ih =>
    simp only [List.mapM_cons, outcome_bind, ih]
    rfl

/-! ### Notices of a sequence -/

lemma notices_bind_of_ok {x : Attempt ε α} {f : α → Attempt ε β} {a : α}
    (h : outcome x = .ok a) :
    (x >>= f).run.notices = x.run.notices ++ (f a).run.notices := by
  rw [ExceptT.run_bind, Noted.notices_bind, show x.run.value = .ok a from h]

lemma notices_bind_of_error {x : Attempt ε α} {f : α → Attempt ε β} {e : ε}
    (h : outcome x = .error e) : (x >>= f).run.notices = x.run.notices := by
  rw [ExceptT.run_bind, Noted.notices_bind, show x.run.value = .error e from h]
  exact List.append_nil _

/-! ### Notices of a kind -/

/-- A notice of some kind is among those that a computation reports. -/
def Reports (p : Notice → Prop) (x : Attempt ε α) : Prop :=
  ∃ n ∈ x.run.notices, p n

variable {p : Notice → Prop}

@[simp] lemma reports_pure (a : α) : Reports p (pure a : Attempt ε α) ↔ False := by
  simp [Reports]

@[simp] lemma reports_throw (e : ε) : Reports p (throw e : Attempt ε α) ↔ False := by
  refine iff_false_intro ?_
  rintro ⟨n, hn, -⟩
  exact List.not_mem_nil hn

@[simp] lemma reports_note (n : Notice) : Reports p (note n : Attempt ε Unit) ↔ p n := by
  have notices : (note n : Attempt ε Unit).run.notices = [n] := rfl
  rw [Reports, notices]
  simp

@[simp] lemma reports_liftM (x : Except ε α) : Reports p (liftM x : Attempt ε α) ↔ False := by
  refine iff_false_intro ?_
  rintro ⟨n, hn, -⟩
  exact List.not_mem_nil hn

@[simp] lemma reports_bind (x : Attempt ε α) (f : α → Attempt ε β) :
    Reports p (x >>= f) ↔ Reports p x ∨ ∃ a, outcome x = .ok a ∧ Reports p (f a) := by
  unfold Reports outcome
  rw [ExceptT.run_bind, Noted.notices_bind]
  cases h : x.run.value with
  | ok a => simp [or_and_right, exists_or]
  | error e => simp

@[simp] lemma reports_map (f : α → β) (x : Attempt ε α) : Reports p (f <$> x) ↔ Reports p x := by
  rw [← bind_pure_comp, reports_bind]
  simp only [reports_pure, and_false, exists_false, or_false]

/-- When all of a list of computations return, the notices of each are reported. -/
lemma reports_mapM {f : α → Attempt ε β} {xs : List α} {ys : List β}
    (h : outcome (xs.mapM f) = .ok ys) :
    Reports p (xs.mapM f) ↔ ∃ x ∈ xs, Reports p (f x) := by
  induction xs generalizing ys with
  | nil => simp
  | cons x xs ih =>
    rw [List.mapM_cons, outcome_bind] at h
    obtain ⟨y, hy, h⟩ := bind_eq_ok_iff.1 h
    rw [outcome_bind] at h
    obtain ⟨ys', hys, -⟩ := bind_eq_ok_iff.1 h
    simp [List.mapM_cons, hy, ih hys]

/-- A computation returns a result, and nothing of some kind is reported on the way. -/
def Quiet (p : Notice → Prop) (x : Attempt ε α) (a : α) : Prop :=
  outcome x = .ok a ∧ ¬Reports p x

@[simp] lemma quiet_pure {a b : α} : Quiet p (pure a : Attempt ε α) b ↔ a = b := by
  simp [Quiet]

@[simp] lemma quiet_throw {e : ε} {a : α} : Quiet p (throw e : Attempt ε α) a ↔ False := by
  simp [Quiet]

@[simp] lemma quiet_note {n : Notice} {u : Unit} :
    Quiet p (note n : Attempt ε Unit) u ↔ ¬p n := by
  simp [Quiet]

@[simp] lemma quiet_ofExcept {kind : ε → ε'} {x : Except ε α} {a : α} :
    Quiet p (ofExcept kind x) a ↔ x = .ok a := by
  cases x with
  | ok b => simp [ofExcept]
  | error e => simp [ofExcept]

@[simp] lemma quiet_bind {x : Attempt ε α} {f : α → Attempt ε β} {b : β} :
    Quiet p (x >>= f) b ↔ ∃ a, Quiet p x a ∧ Quiet p (f a) b := by
  simp only [Quiet, outcome_bind, bind_eq_ok_iff, reports_bind, not_or, not_exists, not_and]
  constructor
  · rintro ⟨⟨a, ha, hb⟩, hx, hf⟩
    exact ⟨a, ⟨ha, hx⟩, hb, hf a ha⟩
  · rintro ⟨a, ⟨ha, hx⟩, hb, hf⟩
    refine ⟨⟨a, ha, hb⟩, hx, fun a' ha' => ?_⟩
    obtain rfl : a = a' := Except.ok.inj (ha.symm.trans ha')
    exact hf

@[simp] lemma quiet_map {f : α → β} {x : Attempt ε α} {b : β} :
    Quiet p (f <$> x) b ↔ ∃ a, Quiet p x a ∧ f a = b := by
  rw [← bind_pure_comp, quiet_bind]
  simp only [quiet_pure]

/-- A list of computations is quiet exactly when each of them is. -/
lemma quiet_mapM {f : α → Attempt ε β} {xs : List α} {ys : List β} :
    Quiet p (xs.mapM f) ys ↔ List.Forall₂ (fun x y => Quiet p (f x) y) xs ys := by
  induction xs generalizing ys with
  | nil => simp [eq_comm]
  | cons x xs ih =>
    simp only [List.mapM_cons, quiet_bind, quiet_pure, ih, List.forall₂_cons_left_iff]
    grind

/-! ### Failures -/

/-- A computation fails. -/
def Fails (x : Attempt ε α) : Prop :=
  ∃ e, outcome x = .error e

/-- When a computation fails, its error is of some kind. -/
def FailsOnly (q : ε → Prop) (x : Attempt ε α) : Prop :=
  ∀ e, outcome x = .error e → q e

variable {q : ε → Prop}

@[simp] lemma fails_pure (a : α) : Fails (pure a : Attempt ε α) ↔ False := by
  simp [Fails]

@[simp] lemma fails_note (n : Notice) : Fails (note n : Attempt ε Unit) ↔ False := by
  simp [Fails]

@[simp] lemma fails_bind (x : Attempt ε α) (f : α → Attempt ε β) :
    Fails (x >>= f) ↔ Fails x ∨ ∃ a, outcome x = .ok a ∧ Fails (f a) := by
  simp only [Fails, outcome_bind, bind_eq_error_iff, exists_or]
  refine or_congr_right ?_
  constructor
  · rintro ⟨e, a, ha, he⟩
    exact ⟨a, ha, e, he⟩
  · rintro ⟨a, ha, e, he⟩
    exact ⟨e, a, ha, he⟩

/-- Where it does not matter with what to go on, the first part fails or the rest does. -/
lemma fails_bind_of_forall {x : Attempt ε α} {f : α → Attempt ε β} {c : Prop}
    (h : ∀ a, Fails (f a) ↔ c) : Fails (x >>= f) ↔ Fails x ∨ c := by
  rw [fails_bind]
  constructor
  · rintro (hx | ⟨a, -, hf⟩)
    · exact .inl hx
    · exact .inr ((h a).1 hf)
  · rintro (hx | hc)
    · exact .inl hx
    · cases ha : outcome x with
      | ok a => exact .inr ⟨a, rfl, (h a).2 hc⟩
      | error e => exact .inl ⟨e, ha⟩

@[simp] lemma fails_map (f : α → β) (x : Attempt ε α) : Fails (f <$> x) ↔ Fails x := by
  rw [← bind_pure_comp, fails_bind]
  simp only [fails_pure, and_false, exists_false, or_false]

lemma fails_mapM {f : α → Attempt ε β} {xs : List α} :
    Fails (xs.mapM f) ↔ ∃ x ∈ xs, Fails (f x) := by
  simp only [Fails, outcome_mapM, mapM_fails_iff]

@[simp] lemma failsOnly_pure (a : α) : FailsOnly q (pure a : Attempt ε α) := by
  simp [FailsOnly]

@[simp] lemma failsOnly_note (n : Notice) : FailsOnly q (note n : Attempt ε Unit) := by
  simp [FailsOnly]

lemma FailsOnly.bind {x : Attempt ε α} {f : α → Attempt ε β} (hx : FailsOnly q x)
    (hf : ∀ a, FailsOnly q (f a)) : FailsOnly q (x >>= f) := by
  intro e he
  rw [outcome_bind] at he
  rcases bind_eq_error_iff.1 he with he | ⟨a, -, he⟩
  · exact hx e he
  · exact hf a e he

lemma FailsOnly.map {x : Attempt ε α} (hx : FailsOnly q x) (f : α → β) : FailsOnly q (f <$> x) := by
  rw [← bind_pure_comp]
  exact hx.bind fun a => failsOnly_pure (f a)

lemma FailsOnly.mapM {f : α → Attempt ε β} {xs : List α} (hf : ∀ x ∈ xs, FailsOnly q (f x)) :
    FailsOnly q (xs.mapM f) := by
  induction xs with
  | nil => exact failsOnly_pure []
  | cons x xs ih =>
    rw [List.mapM_cons]
    refine (hf x (by simp)).bind fun y => ?_
    exact (ih fun x' hx' => hf x' (by simp [hx'])).bind fun ys => failsOnly_pure _

end Attempt

end ApiBridge
