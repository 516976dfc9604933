import ApiBridge.Proofs.TypeScript.Declared
import Mathlib.Data.List.Nodup
import Mathlib.Data.List.Perm.Subperm
import Mathlib.Order.Bounds.Basic

/-!
# Names made distinct

A name that is asked for again is given out with a number. The number is searched for from the number
of times that the name has been asked for, where a name that was given out for another one counts as
asked for once more. Numbers that are taken are passed over, and since only finitely many names are
taken the search ends, at the least number from there on that makes the name new. So the names given
out are all different, whatever is asked for, and every name that is asked for is among them. Making
the names of declarations distinct changes nothing else about the declarations.
-/

namespace ApiBridge

/-! ### Numbered names -/

namespace Name

lemma append_toString_injective (name : String) :
    Function.Injective fun n : Nat => name ++ toString n := by
  intro m n h
  have digits : Nat.toDigits 10 m = Nat.toDigits 10 n := by
    simpa [Nat.toList_repr] using congrArg String.toList h
  calc m
    _ = Nat.ofDigitChars 10 (Nat.toDigits 10 m) 0 := Nat.ofDigitChars_ten_toDigits.symm
    _ = Nat.ofDigitChars 10 (Nat.toDigits 10 n) 0 := by rw [digits]
    _ = n := Nat.ofDigitChars_ten_toDigits

lemma ne_append_toString (name : String) (n : Nat) : name ≠ name ++ toString n := by
  intro h
  have digits : Nat.toDigits 10 n = [] := by
    simpa [Nat.toList_repr] using congrArg String.toList h
  exact Nat.toDigits_ne_nil digits

lemma isSome_lookup_iff {taken : Taken} {name : String} :
    (taken.lookup name).isSome ↔ name ∈ taken.map (·.1) := by
  simp

/-- One of the numbered names is free, by counting: they are all different, and so is the name
itself, which is taken. -/
lemma exists_free {taken : Taken} {name : String} (h : name ∈ taken.map (·.1)) (count : Nat) :
    ∃ i < taken.length, name ++ toString (count + i) ∉ taken.map (·.1) := by
  by_contra hn
  push Not at hn
  let numbered := (List.range taken.length).map fun i => name ++ toString (count + i)
  have distinct : (name :: numbered).Nodup := by
    refine List.nodup_cons.2 ⟨fun hm => ?_, ?_⟩
    · obtain ⟨i, -, hi⟩ := List.mem_map.1 hm
      exact ne_append_toString name (count + i) hi.symm
    · refine List.Nodup.map (fun i j hij => ?_) List.nodup_range
      exact Nat.add_left_cancel (append_toString_injective name hij)
  have sub : name :: numbered ⊆ taken.map (·.1) := by
    intro s hs
    rcases List.mem_cons.1 hs with rfl | hs
    · exact h
    · obtain ⟨i, hi, rfl⟩ := List.mem_map.1 hs
      exact hn i (List.mem_range.1 hi)
  have := (distinct.subperm sub).length_le
  simp only [List.length_cons, numbered, List.length_map, List.length_range] at this
  omega

/-- The search for a number of `name` that makes none of `names`, come to `count`, ends at `stop`:
the numbers before it are passed over one after another. -/
inductive SearchEnds (names : List String) (name : String) : Nat → Nat → Prop
  | free {count : Nat} (h : name ++ toString count ∉ names) : SearchEnds names name count count
  | passed {count stop : Nat} (h : name ++ toString count ∈ names)
    (rest : SearchEnds names name (count + 1) stop) : SearchEnds names name count stop

/-- The search ends at the least number that is free. -/
lemma SearchEnds.isLeast {names : List String} {name : String} {count stop : Nat}
    (h : SearchEnds names name count stop) :
    IsLeast {j | count ≤ j ∧ name ++ toString j ∉ names} stop := by
  induction h with
  | free h => exact ⟨⟨Nat.le_refl _, h⟩, fun j hj => hj.1⟩
  | @passed count stop h _ ih =>
    obtain ⟨⟨le, free⟩, least⟩ := ih
    refine ⟨⟨Nat.le_of_succ_le le, free⟩, fun j hj => least ⟨?_, hj.2⟩⟩
    have other : count ≠ j := by
      rintro rfl
      exact hj.2 h
    exact Nat.lt_of_le_of_ne hj.1 other

/-- Where one of the next numbers is free the search ends, and what is found is where it ends. -/
lemma exists_searchEnds {taken : Taken} {name : String} {fuel count : Nat}
    (h : ∃ i < fuel, name ++ toString (count + i) ∉ taken.map (·.1)) :
    ∃ stop, SearchEnds (taken.map (·.1)) name count stop ∧
      firstFree taken name fuel count = name ++ toString stop := by
  induction fuel generalizing count with
  | zero =>
    obtain ⟨i, hi, -⟩ := h
    exact absurd hi (Nat.not_lt_zero i)
  | succ fuel ih =>
    by_cases hc : name ++ toString count ∈ taken.map (·.1)
    · have rest : ∃ i < fuel, name ++ toString (count + 1 + i) ∉ taken.map (·.1) := by
        obtain ⟨i, hi, free⟩ := h
        cases i with
        | zero => exact absurd hc free
        | succ i => exact ⟨i, by omega, by rwa [Nat.add_assoc, Nat.add_comm 1]⟩
      obtain ⟨stop, ends, found⟩ := ih rest
      refine ⟨stop, .passed hc ends, ?_⟩
      rw [firstFree, if_pos (isSome_lookup_iff.2 hc), found]
    · refine ⟨count, .free hc, ?_⟩
      rw [firstFree, if_neg (mt isSome_lookup_iff.1 hc)]

/-! ### Names given out -/

lemma map_fst_count (taken : Taken) (name : String) (count : Nat) :
    (taken.map fun e => if e.1 = name then (name, count) else e).map (·.1) = taken.map (·.1) := by
  rw [List.map_map]
  refine List.map_congr_left fun e _ => ?_
  by_cases h : e.1 = name
  · simp [h]
  · simp [h]

/-- Asking for a name gives out one name more, which was not given out before. -/
lemma dedupe_spec (name : String) (taken : Taken) :
    (dedupe name taken).1 ∉ taken.map (·.1) ∧
      (dedupe name taken).2.map (·.1) = taken.map (·.1) ++ [(dedupe name taken).1] ∧
      (name ∈ taken.map (·.1) ∨ (dedupe name taken).1 = name) := by
  by_cases h : name ∈ taken.map (·.1)
  · obtain ⟨n, hn⟩ := Option.isSome_iff_exists.1 (isSome_lookup_iff.2 h)
    have names := map_fst_count taken name (n + 1)
    obtain ⟨stop, ends, found⟩ := exists_searchEnds (exists_free (names.symm ▸ h) (n + 1))
    have free := ends.isLeast.1.2
    rw [← found, names] at free
    simp only [dedupe, hn, List.map_append, List.map_cons, List.map_nil, names]
    exact ⟨free, trivial, .inl h⟩
  · rw [dedupe_of_free h]
    exact ⟨h, by simp, .inr rfl⟩

theorem nodup_dedupeAll (names : List String) {taken : Taken} (h : (taken.map (·.1)).Nodup) :
    (taken.map (·.1) ++ dedupeAll taken names).Nodup := by
  induction names generalizing taken with
  | nil => simpa [dedupeAll] using h
  | cons name names ih =>
    obtain ⟨fresh, after, -⟩ := dedupe_spec name taken
    have given : ((dedupe name taken).2.map (·.1)).Nodup := by
      rw [after, ← List.concat_eq_append]
      exact h.concat fresh
    simpa [dedupeAll, after] using ih given

/-- A name that is asked for is given out, then or before. -/
theorem mem_dedupeAll {names : List String} (taken : Taken) {name : String} (h : name ∈ names) :
    name ∈ taken.map (·.1) ++ dedupeAll taken names := by
  induction names generalizing taken with
  | nil => simp at h
  | cons n names ih =>
    obtain ⟨-, after, own⟩ := dedupe_spec n taken
    rcases List.mem_cons.1 h with rfl | h
    · rcases own with htaken | hown
      · exact List.mem_append_left _ htaken
      · exact List.mem_append_right _ (by simp [dedupeAll, hown])
    · simpa [dedupeAll, after] using ih (dedupe n taken).2 h

lemma dedupeAll_eq_self {names : List String} (h : names.Nodup) : dedupeAll [] names = names := by
  have free : (([] : Taken).map (·.1) ++ names).Nodup := by simpa using h
  obtain ⟨taken, h⟩ := dedupeAll_append [] free
  simpa [dedupeAll] using h

/-! ### Requests -/

section Requests

variable {requests : List String} {name : String}

/-- The names that are taken once names have been asked for one after another. -/
def takenAfter (requests : List String) : Taken :=
  requests.foldl (fun taken name => (dedupe name taken).2) []

/-- The names that have been given out once names have been asked for one after another. -/
def givenAfter (requests : List String) : List String :=
  dedupeAll [] requests

lemma takenAfter_concat (requests : List String) (name : String) :
    takenAfter (requests ++ [name]) = (dedupe name (takenAfter requests)).2 := by
  rw [takenAfter, List.foldl_append]
  rfl

lemma givenAfter_concat (requests : List String) (name : String) :
    givenAfter (requests ++ [name]) =
      givenAfter requests ++ [(dedupe name (takenAfter requests)).1] := by
  have from_taken (taken : Taken) : dedupeAll taken (requests ++ [name]) = dedupeAll taken requests
      ++ [(dedupe name (requests.foldl (fun taken name => (dedupe name taken).2) taken)).1] := by
    induction requests generalizing taken with
    | nil => rfl
    | cons first requests ih =>
      rw [List.cons_append, dedupeAll, dedupeAll, ih, List.cons_append, List.foldl_cons]
  exact from_taken []

lemma length_givenAfter (requests : List String) :
    (givenAfter requests).length = requests.length := by
  induction requests using List.reverseRecOn with
  | nil => rfl
  | append_singleton requests name ih => rw [givenAfter_concat]; simp [ih]

/-- The names that are taken are those that have been given out. -/
lemma map_fst_takenAfter (requests : List String) :
    (takenAfter requests).map (·.1) = givenAfter requests := by
  induction requests using List.reverseRecOn with
  | nil => rfl
  | append_singleton requests name ih =>
    obtain ⟨-, after, -⟩ := dedupe_spec name (takenAfter requests)
    rw [takenAfter_concat, after, ih, givenAfter_concat]

lemma mem_givenAfter (h : name ∈ requests) : name ∈ givenAfter requests := by
  simpa [givenAfter] using mem_dedupeAll [] h

/-! ### Counting -/

/-- The name has been given out to a request for another name. -/
def IsGivenForAnother (requests : List String) (name : String) : Prop :=
  ∃ p ∈ requests.zip (givenAfter requests), p.2 = name ∧ p.1 ≠ name

instance : Decidable (IsGivenForAnother requests name) :=
  inferInstanceAs (Decidable (∃ p ∈ _, _))

lemma IsGivenForAnother.mem (h : IsGivenForAnother requests name) :
    name ∈ givenAfter requests := by
  obtain ⟨p, hp, rfl, -⟩ := h
  exact (List.of_mem_zip hp).2

lemma isGivenForAnother_concat (last : String) :
    IsGivenForAnother (requests ++ [last]) name ↔ IsGivenForAnother requests name ∨
      (dedupe last (takenAfter requests)).1 = name ∧ last ≠ name := by
  unfold IsGivenForAnother
  rw [givenAfter_concat, List.zip_append (length_givenAfter requests).symm]
  simp only [List.mem_append, or_and_right, exists_or, List.zip_cons_cons, List.zip_nil_right,
    List.mem_singleton, exists_eq_left]

/-- How often a name counts as asked for: once for each request, and once if it was given out for
another name. -/
def requestCount (requests : List String) (name : String) : Nat :=
  requests.count name + if IsGivenForAnother requests name then 1 else 0

lemma requestCount_of_not_mem (h : name ∉ givenAfter requests) : requestCount requests name = 0 := by
  have none : requests.count name = 0 := List.count_eq_zero.2 fun hm => h (mem_givenAfter hm)
  rw [requestCount, none, if_neg fun hg => h hg.mem]

/-! ### Single requests -/

/-- A name that was not given out before is given out as it is. -/
lemma dedupe_of_not_mem (h : name ∉ givenAfter requests) :
    dedupe name (takenAfter requests) = (name, takenAfter requests ++ [(name, 1)]) :=
  dedupe_of_free (by rwa [map_fst_takenAfter])

/-- A name that was given out before is counted once more and given out with the number at which
the search from its count ends. -/
lemma dedupe_of_mem (h : name ∈ givenAfter requests) :
    ∃ n stop, (name, n) ∈ takenAfter requests ∧
      SearchEnds (givenAfter requests) name (n + 1) stop ∧
      dedupe name (takenAfter requests) = (name ++ toString stop,
        ((takenAfter requests).map fun e => if e.1 = name then (name, n + 1) else e) ++
          [(name ++ toString stop, 1)]) := by
  rw [← map_fst_takenAfter] at h ⊢
  obtain ⟨n, hn⟩ := Option.isSome_iff_exists.1 (isSome_lookup_iff.2 h)
  have names := map_fst_count (takenAfter requests) name (n + 1)
  obtain ⟨stop, ends, found⟩ := exists_searchEnds (exists_free (names.symm ▸ h) (n + 1))
  rw [names] at ends
  refine ⟨n, stop, mem_of_lookup hn, ends, ?_⟩
  simp only [dedupe, hn, found]

lemma fst_dedupe_not_mem (requests : List String) (name : String) :
    (dedupe name (takenAfter requests)).1 ∉ givenAfter requests := by
  rw [← map_fst_takenAfter]
  exact (dedupe_spec name (takenAfter requests)).1

/-- A request is counted for the name that it asks for and for the name that is given out. -/
lemma requestCount_concat (last : String) :
    requestCount (requests ++ [last]) name = requestCount requests name +
      if last = name ∨ (dedupe last (takenAfter requests)).1 = name then 1 else 0 := by
  simp only [requestCount, isGivenForAnother_concat, List.count_append, List.count_singleton]
  by_cases asked : last = name
  · simp [asked, Nat.add_right_comm]
  · by_cases given : (dedupe last (takenAfter requests)).1 = name
    · have first : ¬IsGivenForAnother requests name := fun h =>
        fst_dedupe_not_mem requests last (given ▸ h.mem)
      simp [asked, given, first]
    · simp [asked, given]

/-- The number that is kept for a name is how often the name counts as asked for. -/
lemma snd_of_mem_takenAfter {p : String × Nat} (h : p ∈ takenAfter requests) :
    p.2 = requestCount requests p.1 := by
  induction requests using List.reverseRecOn generalizing p with
  | nil => cases h
  | append_singleton requests last ih =>
    have fresh := fst_dedupe_not_mem requests last
    have old {e : String × Nat} (he : e ∈ takenAfter requests) : e.1 ∈ givenAfter requests := by
      rw [← map_fst_takenAfter]
      exact List.mem_map_of_mem he
    rw [takenAfter_concat] at h
    rw [requestCount_concat]
    by_cases hl : last ∈ givenAfter requests
    · obtain ⟨n, stop, kept, -, heq⟩ := dedupe_of_mem hl
      rw [heq] at h fresh ⊢
      rcases List.mem_append.1 h with h | h
      · obtain ⟨e, he, rfl⟩ := List.mem_map.1 h
        by_cases asked : e.1 = last
        · rw [if_pos asked, if_pos (.inl rfl), ← ih kept]
        · have given : last ++ toString stop ≠ e.1 := fun h => fresh (h ▸ old he)
          rw [if_neg asked, if_neg (not_or.2 ⟨Ne.symm asked, given⟩), ← ih he, Nat.add_zero]
      · obtain rfl := List.mem_singleton.1 h
        rw [if_pos (.inr rfl), requestCount_of_not_mem fresh]
    · rw [dedupe_of_not_mem hl] at h ⊢
      rcases List.mem_append.1 h with h | h
      · have asked : last ≠ p.1 := fun heq => hl (heq ▸ old h)
        rw [if_neg (not_or.2 ⟨asked, asked⟩), ← ih h, Nat.add_zero]
      · obtain rfl := List.mem_singleton.1 h
        rw [if_pos (.inl rfl), requestCount_of_not_mem hl]

/-! ### Sequences of requests -/

/-- Whatever names have been asked for, the names that are taken are those that have been given out,
in order. A name that was not given out before is given out as it is. For one that was, the search
from one more than its count ends, at the least number from there on that makes the name new. -/
theorem dedupe_least (requests : List String) (name : String) :
    (takenAfter requests).map (·.1) = givenAfter requests ∧
    (name ∉ givenAfter requests → (dedupe name (takenAfter requests)).1 = name) ∧
    (name ∈ givenAfter requests → ∃ j,
      SearchEnds (givenAfter requests) name (1 + requestCount requests name) j ∧
      IsLeast {j | 1 + requestCount requests name ≤ j ∧
        name ++ toString j ∉ givenAfter requests} j ∧
      (dedupe name (takenAfter requests)).1 = name ++ toString j) := by
  refine ⟨map_fst_takenAfter requests, fun h => ?_, fun h => ?_⟩
  · rw [dedupe_of_not_mem h]
  · obtain ⟨n, stop, kept, ends, heq⟩ := dedupe_of_mem h
    have count : n = requestCount requests name := snd_of_mem_takenAfter kept
    rw [count, Nat.add_comm] at ends
    exact ⟨stop, ends, ends.isLeast, by rw [heq]⟩

/-- A name is asked for once more when its numbers two and three are taken: the search starts from
three, and passes it over. The name with that number counts as asked for once, though nobody asked
for it. -/
theorem dedupe_least_drifting :
    (∃ j, SearchEnds ["Pet2", "Pet", "Pet3"] "Pet" 3 j ∧
      (dedupe "Pet" (takenAfter ["Pet2", "Pet", "Pet"])).1 = "Pet" ++ toString j) ∧
    ∃ j, SearchEnds ["Pet2", "Pet", "Pet3"] "Pet3" 2 j ∧
      (dedupe "Pet3" (takenAfter ["Pet2", "Pet", "Pet"])).1 = "Pet3" ++ toString j := by
  have given : givenAfter ["Pet2", "Pet", "Pet"] = ["Pet2", "Pet", "Pet3"] := by decide +kernel
  have counts : requestCount ["Pet2", "Pet", "Pet"] "Pet" = 2 ∧
      requestCount ["Pet2", "Pet", "Pet"] "Pet3" = 1 := by
    decide +kernel
  obtain ⟨j, ends, -, hj⟩ := (dedupe_least ["Pet2", "Pet", "Pet"] "Pet").2.2 (by rw [given]; decide)
  obtain ⟨i, ends', -, hi⟩ :=
    (dedupe_least ["Pet2", "Pet", "Pet"] "Pet3").2.2 (by rw [given]; decide)
  rw [given, counts.1] at ends
  rw [given, counts.2] at ends'
  exact ⟨⟨j, ends, hj⟩, i, ends', hi⟩

end Requests

end Name

/-! ### Expressions -/

variable {α : Type} [Layered α]

section Options

variable (registry : Registry α) (options : TypeOptions) (distinct : Bool)

/-- Whether names are made distinct does not matter to the compiler. -/
lemma TypeExpr.compileWithin_dedupeNames (fuel : Nat) :
    compileWithin registry { options with dedupeNames := distinct } fuel
      = compileWithin registry options fuel := by
  induction fuel with
  | zero => rfl
  | succ fuel ih =>
    funext schema context opened
    simp only [compileWithin, ih]

lemma Draft.ofApi_dedupeNames (api : Api α) :
    ofApi { options with dedupeNames := distinct } api = ofApi options api := by
  have compile : TypeExpr.compile api.schemas { options with dedupeNames := distinct }
      = TypeExpr.compile api.schemas options := by
    funext schema context identity
    simp only [TypeExpr.compile, TypeExpr.compileWithin_dedupeNames]
  have record : parametersRecord api.schemas { options with dedupeNames := distinct }
      = parametersRecord api.schemas options := by
    funext parameters
    simp only [parametersRecord, compile]
  have operation : ofOperation api.schemas { options with dedupeNames := distinct }
      = ofOperation api.schemas options := by
    funext o
    simp only [ofOperation, ofBody, compile, record]
  simp only [ofApi, ofSchema, compile, operation]

end Options

/-! ### Declarations -/

/-- What a declaration is, its name aside. -/
def Declaration.content (d : Declaration) : DeclarationKind × TypeExpr × DeclarationOrigin :=
  (d.kind, d.expression, d.origin)

lemma Draft.Settles.content_eq {d : Draft} {a b : Declaration} (ha : d.Settles a)
    (hb : d.Settles b) : a.content = b.content := by
  have expression : a.expression = b.expression :=
    Except.ok.inj (ha.expression.symm.trans hb.expression)
  simp only [Declaration.content, ha.kind, hb.kind, ha.origin, hb.origin, expression]

lemma Draft.content_eq {drafts : List Draft} {ds ds' : List Declaration}
    (h : List.Forall₂ Settles drafts ds) (h' : List.Forall₂ Settles drafts ds') :
    ds.map (·.content) = ds'.map (·.content) := by
  induction h generalizing ds' with
  | nil =>
    cases h'
    rfl
  | cons hd _ ih =>
    cases h' with
    | cons hd' hs' => simp only [List.map_cons, hd.content_eq hd', ih hs']

lemma Declaration.eq_of_map_eq {ds ds' : List Declaration}
    (hn : ds.map (·.name) = ds'.map (·.name)) (hc : ds.map (·.content) = ds'.map (·.content)) :
    ds = ds' := by
  induction ds generalizing ds' with
  | nil => exact (List.map_eq_nil_iff.1 hn.symm).symm
  | cons d ds ih =>
    cases ds' with
    | nil => simp at hn
    | cons d' ds' =>
      obtain ⟨name, kind, expression, origin⟩ := d
      obtain ⟨name', kind', expression', origin'⟩ := d'
      simp only [List.map_cons, List.cons.injEq, content, Prod.mk.injEq] at hn hc
      obtain ⟨rfl, hn⟩ := hn
      obtain ⟨⟨rfl, rfl, rfl⟩, hc⟩ := hc
      rw [ih hn hc]

namespace Draft

lemma settleAll_returns_iff {options : TypeOptions} {taken : Name.Taken} {drafts : List Draft} :
    (∃ ds, (settleAll options taken drafts).outcome = .ok ds) ↔
      ∀ d ∈ drafts, ∃ e, d.expression.outcome = .ok e := by
  constructor
  · rintro ⟨ds, h⟩ d hd
    obtain ⟨decl, -, hs⟩ := exists_of_mem_left (settleAll_eq_ok.1 h).1 hd
    exact ⟨decl.expression, hs.expression⟩
  · exact settleAll_returns options taken

end Draft

namespace Api

lemma map_name_take {api : Api α} {options : TypeOptions} (hk : (List.map (·.1) api.schemas).Nodup)
    {ds : List Declaration} (h : (api.declarations options).outcome = .ok ds) :
    (ds.take (List.length api.schemas)).map (·.name) = List.map (·.1) api.schemas := by
  obtain ⟨registered, rest, rfl, hr⟩ := declarations_registered hk h
  rw [hr.length_eq, List.take_left]
  exact map_eq_of_forall₂ (hr.imp fun _ _ h => h.name)

/-- Names made distinct are distinct, those of the reusable schemas stay first and as they are, and
nothing but names changes: no name is lost, and none changes that was distinct before. -/
theorem declarations_distinct (api : Api α) (options : TypeOptions)
    (hk : (List.map (·.1) api.schemas).Nodup) :
    ((∀ s ∈ api.compiledSchemas, s.IsWritableWithin) →
      ∃ ds, (api.declarations { options with dedupeNames := true }).outcome = .ok ds) ∧
    ((∃ ds, (api.declarations { options with dedupeNames := true }).outcome = .ok ds) ↔
      ∃ ds, (api.declarations { options with dedupeNames := false }).outcome = .ok ds) ∧
    ∀ ds ds₀, (api.declarations { options with dedupeNames := true }).outcome = .ok ds →
      (api.declarations { options with dedupeNames := false }).outcome = .ok ds₀ →
      (ds.map (·.name)).Nodup ∧
      (ds.take (List.length api.schemas)).map (·.name) = List.map (·.1) api.schemas ∧
      ds.map (·.content) = ds₀.map (·.content) ∧
      (∀ d₀ ∈ ds₀, ∃ d ∈ ds, d.name = d₀.name) ∧
      ((ds₀.map (·.name)).Nodup → ds = ds₀) := by
  refine ⟨declarations_returns _, ?_, fun ds ds₀ h h₀ => ?_⟩
  · simp only [declarations, Draft.settleAll_returns_iff, Draft.ofApi_dedupeNames]
  have registered := map_name_take hk h
  simp only [declarations, Draft.ofApi_dedupeNames, Draft.settleAll_eq_ok, Draft.givenNames,
    Bool.false_eq_true, ↓reduceIte] at h h₀
  obtain ⟨settled, names⟩ := h
  obtain ⟨settled₀, names₀⟩ := h₀
  have content := Draft.content_eq settled settled₀
  rw [← names₀] at names
  refine ⟨?_, registered, content, fun d₀ hd₀ => ?_, fun hn => ?_⟩
  · rw [names]
    have nothing : (([] : Name.Taken).map (·.1)).Nodup := by simp
    simpa using Name.nodup_dedupeAll (ds₀.map (·.name)) nothing
  · have given := Name.mem_dedupeAll [] (List.mem_map_of_mem (f := (·.name)) hd₀)
    rw [← names] at given
    simpa using given
  · refine Declaration.eq_of_map_eq ?_ content
    rw [names, Name.dedupeAll_eq_self hn]

/-- A query whose parameters ask for the name of a reusable schema, while another schema has the
next name in its key. -/
def claimed : Api Value where
  info := default
  servers := []
  operations := [⟨"/pets", .get, "listPets", none, none,
    [⟨"q", .query, false, none, none⟩], none, []⟩]
  schemas := [("ListPetsParams", .ofFields [("type", .text "string")]), ("ListPetsParams2", .null)]
  openapiVersion := "3.0.0"

/-- Both schemas keep their names, and the parameters get the next one. -/
theorem declarations_distinct_claimed :
    (List.map (·.1) claimed.schemas).Nodup ∧
    ∃ ds ds₀, (claimed.declarations { dedupeNames := true }).outcome = .ok ds ∧
      (claimed.declarations { dedupeNames := false }).outcome = .ok ds₀ ∧
      ds₀.map (·.name) = ["ListPetsParams", "ListPetsParams2", "ListPetsParams"] ∧
      ds.map (·.name) = ["ListPetsParams", "ListPetsParams2", "ListPetsParams3"] ∧
      (ds.map (·.name)).Nodup ∧ ds.map (·.content) = ds₀.map (·.content) := by
  obtain ⟨-, -, distinct⟩ := declarations_distinct claimed {} (by decide)
  let parameters : TypeExpr := .record [⟨"q", true, .any⟩]
  have on : (claimed.declarations { dedupeNames := true }).outcome
      = .ok [⟨"ListPetsParams", .alias, .string, .schema⟩, ⟨"ListPetsParams2", .alias, .any, .schema⟩,
        ⟨"ListPetsParams3", .record, parameters, .parameters⟩] := rfl
  have off : (claimed.declarations { dedupeNames := false }).outcome
      = .ok [⟨"ListPetsParams", .alias, .string, .schema⟩, ⟨"ListPetsParams2", .alias, .any, .schema⟩,
        ⟨"ListPetsParams", .record, parameters, .parameters⟩] := rfl
  obtain ⟨nodup, -, content, -, -⟩ := distinct _ _ on off
  exact ⟨by decide, _, _, on, off, rfl, rfl, nodup, content⟩

end Api

end ApiBridge
