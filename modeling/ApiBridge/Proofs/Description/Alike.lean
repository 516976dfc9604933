import ApiBridge.Proofs.Description.Describing
import ApiBridge.Proofs.Document.Stages
import ApiBridge.Proofs.Document.Trees

/-!
# Descriptions of nodes that go together

What a document is described as depends on the trees below its parts only. So where the nodes of
two documents go together, layer by layer, the documents are described in the same way, with the
same trees in their schemas.
-/

namespace ApiBridge

/-! ### Results that go together -/

namespace Alike

variable {ε ε' α β α' β' : Type} {R : α → β → Prop} {S : α' → β' → Prop} {x : Except ε α}
  {y : Except ε β}

lemma refl (x : Except ε α) : Alike (fun a b => b = a) x x := by
  cases x with
  | ok a => exact .ok rfl
  | error e => exact .error e e

lemma map {k : α → α'} {k' : β → β'} (h : Alike R x y) (hk : ∀ a b, R a b → S (k a) (k' b)) :
    Alike S (k <$> x) (k' <$> y) := by
  cases h with
  | ok h => exact .ok (hk _ _ h)
  | error e e' => exact .error e e'

lemma mapError {k : ε → ε'} (h : Alike R x y) : Alike R (x.mapError k) (y.mapError k) := by
  cases h with
  | ok h => exact .ok h
  | error e e' => exact .error _ _

lemma mapM {xs : List α} {ys : List β} {k : α → Except ε α'} {k' : β → Except ε β'}
    (h : List.Forall₂ (fun a b => Alike S (k a) (k' b)) xs ys) :
    Alike (List.Forall₂ S) (xs.mapM k) (ys.mapM k') := by
  induction h with
  | nil => exact .ok .nil
  | cons h _ ih =>
    rw [List.mapM_cons, List.mapM_cons]
    exact h.bind fun a b _ hab => ih.bind fun as bs _ habs => .ok (.cons hab habs)

lemma foldlM {xs : List α} {ys : List β} {k : α' → α → Except ε α'} {k' : β' → β → Except ε β'}
    {a : α'} {b : β'} (h : List.Forall₂ R xs ys)
    (hk : ∀ a b x y, S a b → R x y → Alike S (k a x) (k' b y)) (hab : S a b) :
    Alike S (xs.foldlM k a) (ys.foldlM k' b) := by
  induction h generalizing a b with
  | nil => exact .ok hab
  | cons hxy _ ih =>
    rw [List.foldlM_cons, List.foldlM_cons]
    exact (hk a b _ _ hab hxy).bind fun _ _ _ h => ih h

end Alike

/-- Lists of computations that are the same one by one. -/
lemma mapM_congr {ε α α' β : Type} {k : α → Except ε β} {k' : α' → Except ε β} {xs : List α}
    {ys : List α'} (h : List.Forall₂ (fun a b => k' b = k a) xs ys) : ys.mapM k' = xs.mapM k := by
  induction h with
  | nil => rfl
  | cons hab _ ih => rw [List.mapM_cons, List.mapM_cons, hab, ih]

section Names

variable {α β : Type} {R : α → β → Prop} {es : List (String × α)} {fs : List (String × β)}

/-- Entries that are related stay so when related values are set under a name. -/
lemma forall₂_insertName (h : List.Forall₂ (fun e f => e.1 = f.1 ∧ R e.2 f.2) es fs)
    (name : String) {a : α} {b : β} (hab : R a b) :
    List.Forall₂ (fun e f => e.1 = f.1 ∧ R e.2 f.2) (insertName name a es)
      (insertName name b fs) := by
  induction h with
  | nil => exact .cons ⟨rfl, hab⟩ .nil
  | @cons e f es fs hef hrest ih =>
    rw [insertName, insertName, hef.1]
    split
    case isTrue => exact .cons ⟨rfl, hab⟩ hrest
    case isFalse => exact .cons hef ih

lemma forall₂_foldl_insertName (h : List.Forall₂ (fun e f => e.1 = f.1 ∧ R e.2 f.2) es fs) :
    List.Forall₂ (fun e f => e.1 = f.1 ∧ R e.2 f.2)
      (es.foldl (fun done e => insertName e.1 e.2 done) [])
      (fs.foldl (fun done e => insertName e.1 e.2 done) []) := by
  have grown {done : List (String × α)} {done' : List (String × β)}
      (hdone : List.Forall₂ (fun e f => e.1 = f.1 ∧ R e.2 f.2) done done') :
      List.Forall₂ (fun e f => e.1 = f.1 ∧ R e.2 f.2)
        (es.foldl (fun done e => insertName e.1 e.2 done) done)
        (fs.foldl (fun done e => insertName e.1 e.2 done) done') := by
    induction h generalizing done done' with
    | nil => exact hdone
    | cons hef _ ih =>
      rw [List.foldl_cons, List.foldl_cons, hef.1]
      exact ih (forall₂_insertName hdone _ hef.2)
  exact grown .nil

/-- What is there of a list of optional results. -/
lemma forall₂_filterMap_id {xs : List (Option α)} {ys : List (Option β)}
    (h : List.Forall₂ (Option.Rel R) xs ys) :
    List.Forall₂ R (xs.filterMap id) (ys.filterMap id) := by
  induction h with
  | nil => exact .nil
  | cons hxy _ ih =>
    cases hxy with
    | none => exact ih
    | some hab => exact .cons hab ih

/-- What is not there has the same image under all functions. -/
lemma map_none_eq {γ : Type} (f : α → γ) (g : β → γ) : Option.map g none = Option.map f none :=
  rfl

/-- What there is of two lists of optional results has the same images if the lists have. -/
lemma filterMap_eq_of_forall₂ {γ : Type} {f : α → γ} {g : β → γ} {xs : List (Option α)}
    {ys : List (Option β)} (h : List.Forall₂ (fun x y => Option.map g y = Option.map f x) xs ys) :
    ys.filterMap (fun y => Option.map g (id y)) = xs.filterMap fun x => Option.map f (id x) := by
  induction h with
  | nil => rfl
  | cons hxy _ ih => rw [List.filterMap_cons, List.filterMap_cons, id, id, hxy, ih]

end Names

/-! ### Checks -/

/-- Two checks are passed, with results that are related, or both are not. -/
def Check.Alike {α β : Type} (R : α → β → Prop) (c : Check α) (c' : Check β) : Prop :=
  ApiBridge.Alike R c.toExcept c'.toExcept

namespace Check.Alike

variable {α β α' β' : Type} {R : α → β → Prop} {S : α' → β' → Prop} {c : Check α} {c' : Check β}

lemma ok {a : α} {b : β} (h : R a b) : Check.Alike R (.ok a) (.ok b) :=
  ApiBridge.Alike.ok h

lemma map {k : α → α'} {k' : β → β'} (h : Check.Alike R c c') (hk : ∀ a b, R a b → S (k a) (k' b)) :
    Check.Alike S (k <$> c) (k' <$> c') := by
  cases c with
  | ok a =>
    cases c' with
    | ok b =>
      cases h with
      | ok h => exact .ok (hk a b h)
    | flawed gs => cases h
  | flawed fs =>
    cases c' with
    | ok b => cases h
    | flawed gs => exact ApiBridge.Alike.error fs gs

lemma under (h : Check.Alike R c c') (s : Step) : Check.Alike R (.under s c) (.under s c') := by
  cases c with
  | ok a =>
    cases c' with
    | ok b => exact h
    | flawed gs => cases h
  | flawed fs =>
    cases c' with
    | ok b => cases h
    | flawed gs => exact ApiBridge.Alike.error _ _

lemma all {cs : List (Check α)} {cs' : List (Check β)} (h : List.Forall₂ (Check.Alike R) cs cs') :
    Check.Alike (List.Forall₂ R) (.all cs) (.all cs') := by
  induction h with
  | nil => exact .ok .nil
  | @cons c c' cs cs' hc _ ih =>
    rw [Check.all, Check.all]
    generalize Check.all cs = x, Check.all cs' = x' at ih
    cases c with
    | ok a =>
      cases c' with
      | flawed gs => cases hc
      | ok b =>
        cases hc with
        | ok hab =>
          cases x with
          | ok as =>
            cases x' with
            | flawed gs => cases ih
            | ok bs =>
              cases ih with
              | ok habs => exact .ok (.cons hab habs)
          | flawed fs =>
            cases x' with
            | ok bs => cases ih
            | flawed gs => exact ApiBridge.Alike.error _ _
    | flawed fs =>
      cases c' with
      | ok b => cases hc
      | flawed gs =>
        cases x with
        | _ =>
          cases x' with
          | _ => exact ApiBridge.Alike.error _ _

end Check.Alike

lemma checkTextKeys_alike {α β : Type} {R : α → β → Prop} {es : List (Scalar × α)}
    {fs : List (Scalar × β)} (h : List.Forall₂ (fun e f => e.1 = f.1 ∧ R e.2 f.2) es fs) :
    Check.Alike (List.Forall₂ fun e f => e.1 = f.1 ∧ R e.2 f.2) (checkTextKeys es)
      (checkTextKeys fs) := by
  unfold checkTextKeys
  refine Check.Alike.map (.all ?_) fun _ _ => forall₂_foldl_insertName
  rw [List.forall₂_map_left_iff, List.forall₂_map_right_iff]
  refine h.imp fun e f hef => ?_
  obtain ⟨k, v⟩ := e
  obtain ⟨l, w⟩ := f
  obtain ⟨rfl, hvw⟩ := hef
  refine ((Check.Alike.map (R := fun a b => b = a) ?_ fun a b hab => ⟨?_, hvw⟩).under _).under _
  · exact Alike.refl _
  · exact hab.symm

/-! ### Nodes -/

namespace Graph.Twins

variable {g g' : Graph} {R : NodeId → NodeId → Prop} {i i' : NodeId}

section Readings

variable (h : Twins g g' R) (hi : R i i')
include h hi

lemma field? (name : String) : Option.Rel R (g.field? i name) (g'.field? i' name) :=
  (h.node i i' hi).field? name

lemma entries? :
    Option.Rel (List.Forall₂ fun e f => e.1 = f.1 ∧ R e.2 f.2) (g.entries? i) (g'.entries? i') :=
  (h.node i i' hi).entries?

lemma items? : Option.Rel (List.Forall₂ R) (g.items? i) (g'.items? i') :=
  (h.node i i' hi).items?

omit hi in
lemma entriesOf {o o' : Option NodeId} (ho : Option.Rel R o o') :
    List.Forall₂ (fun e f => e.1 = f.1 ∧ R e.2 f.2) ((o.bind g.entries?).getD [])
      ((o'.bind g'.entries?).getD []) := by
  cases ho with
  | none => exact .nil
  | some hi =>
    have hes := h.entries? hi
    rw [Option.bind_some, Option.bind_some]
    generalize g.entries? _ = es, g'.entries? _ = fs at hes
    cases hes with
    | none => exact .nil
    | some hl => exact hl

omit hi in
lemma itemsOf {o o' : Option NodeId} (ho : Option.Rel R o o') :
    List.Forall₂ R ((o.bind g.items?).getD []) ((o'.bind g'.items?).getD []) := by
  cases ho with
  | none => exact .nil
  | some hi =>
    have his := h.items? hi
    rw [Option.bind_some, Option.bind_some]
    generalize g.items? _ = is, g'.items? _ = js at his
    cases his with
    | none => exact .nil
    | some hl => exact hl

lemma isSome_entries?_eq : (g'.entries? i').isSome = (g.entries? i).isSome := by
  have hes := h.entries? hi
  generalize g.entries? i = es, g'.entries? i' = fs at hes
  cases hes with
  | none | some => rfl

lemma isNone_entries?_eq : (g'.entries? i').isNone = (g.entries? i).isNone := by
  rw [← Option.not_isSome, ← Option.not_isSome, h.isSome_entries?_eq hi]

lemma fieldText?_eq (name : String) : g'.fieldText? i' name = g.fieldText? i name := by
  have hv := h.field? hi name
  rw [fieldText?, fieldText?]
  generalize g.field? i name = v, g'.field? i' name = v' at hv
  cases hv with
  | none => rfl
  | some hv => exact (h.node _ _ hv).text?_eq

lemma isTruthy_eq : g'.isTruthy i' = g.isTruthy i := by
  have hnode := h.node i i' hi
  rw [isTruthy, isTruthy]
  generalize g.node i = n, g'.node i' = n' at hnode
  cases hnode with
  | scalar | set | pair => rfl
  | list hl | map hl =>
    cases hl with
    | nil | cons => rfl

lemma fieldTruthy_eq (name : String) :
    ((g'.field? i' name).map g'.isTruthy).getD false =
      ((g.field? i name).map g.isTruthy).getD false := by
  have hv := h.field? hi name
  generalize g.field? i name = v, g'.field? i' name = v' at hv
  cases hv with
  | none => rfl
  | some hv => exact h.isTruthy_eq hv

lemma written_eq : g'.written i' = g.written i := by
  rw [written, written, h.unfold_eq hi]

omit hi in
lemma fieldsMap_eq {es fs : Fields NodeId}
    (hes : List.Forall₂ (fun e f => e.1 = f.1 ∧ R e.2 f.2) es fs) :
    fs.map g'.unfold = es.map g.unfold :=
  map_eq_of_forall₂ (hes.imp fun e f hef => by rw [hef.1, h.unfold_eq hef.2])

lemma checkFields : Check.Alike (fun es fs => Option.map (Fields.map g'.unfold) fs =
    Option.map (Fields.map g.unfold) es) (g.checkFields i) (g'.checkFields i') := by
  have hes := h.entries? hi
  unfold Graph.checkFields
  generalize g.entries? i = es, g'.entries? i' = fs at hes
  cases hes with
  | none => exact .ok (map_none_eq _ _)
  | some hl =>
    refine (checkTextKeys_alike hl).map fun es fs hef => ?_
    rw [Option.map_some, Option.map_some, h.fieldsMap_eq hef]

end Readings

end Graph.Twins

namespace Document

open Attempt

variable {g g' : Graph} {R : NodeId → NodeId → Prop} {i i' : NodeId} {path : String}

lemma passed_alike {α β : Type} {S : α → β → Prop} {c : Check α} {c' : Check β}
    (h : Check.Alike S c c') : Alike S (passed c).outcome (passed c').outcome := by
  cases c with
  | ok a =>
    cases c' with
    | ok b =>
      cases h with
      | ok h => exact .ok h
    | flawed gs => cases h
  | flawed fs =>
    cases c' with
    | ok b => cases h
    | flawed gs => exact .error _ _

section Operations

variable (h : g.Twins g' R)
include h

/-! ### Operations -/

lemma mediaSchemas_alike {content content' : Option NodeId} (hc : Option.Rel R content content') :
    Alike (List.Forall₂ fun e f => e.1 = f.1 ∧ Option.Rel R e.2 f.2) (mediaSchemas g content)
      (mediaSchemas g' content') := by
  unfold mediaSchemas
  refine Alike.foldlM (h.entriesOf hc) (fun done done' e f hdone hef => ?_) .nil
  rw [hef.1]
  refine (Alike.refl f.1.written).bind fun _ name _ hname => ?_
  subst hname
  exact .ok (forall₂_insertName hdone _ (h.field? hef.2 "schema"))

lemma describeContent_alike {content content' : Option NodeId}
    (hc : Option.Rel R content content') :
    Alike (fun c c' => Content.map g'.unfold c' = Content.map g.unfold c)
      (describeContent g content).outcome (describeContent g' content').outcome := by
  unfold describeContent
  rw [outcome_bind, outcome_bind, outcome_liftM, outcome_liftM]
  refine (mediaSchemas_alike h hc).mapError.bind fun schemas schemas' _ hs => passed_alike ?_
  refine Check.Alike.under ?_ _
  have hall : List.Forall₂ (Check.Alike fun e f =>
      (f.1, Option.map (Fields.map g'.unfold) f.2) = (e.1, Option.map (Fields.map g.unfold) e.2))
      (schemas.map fun e => checkMedia g e.1 e.2) (schemas'.map fun e => checkMedia g' e.1 e.2) := by
    rw [List.forall₂_map_left_iff, List.forall₂_map_right_iff]
    refine hs.imp fun e f hef => ?_
    obtain ⟨media, schema⟩ := e
    obtain ⟨media', schema'⟩ := f
    obtain ⟨rfl, hschema⟩ := hef
    unfold checkMedia
    refine Check.Alike.map (R := fun es fs => Option.map (Fields.map g'.unfold) fs =
      Option.map (Fields.map g.unfold) es) ?_ fun es fs hes => by rw [hes]
    cases hschema with
    | none => exact .ok (map_none_eq _ _)
    | some hi => exact (h.checkFields hi).under _
  exact (Check.Alike.all hall).imp fun _ _ => map_eq_of_forall₂

lemma describeParameter_alike (hi : R i i') :
    Alike (fun p p' => Option.map (Parameter.map g'.unfold) p' =
      Option.map (Parameter.map g.unfold) p)
      (describeParameter g path i).outcome (describeParameter g' path i').outcome := by
  unfold describeParameter
  have href := h.field? hi "$ref"
  rw [← reference?, ← reference?] at href
  rw [h.isNone_entries?_eq hi, h.fieldText?_eq hi, h.fieldText?_eq hi, h.fieldText?_eq hi,
    h.fieldTruthy_eq hi]
  split
  case isTrue => exact .ok (map_none_eq _ _)
  case isFalse =>
    generalize reference? g i = t, reference? g' i' = t' at href
    cases href with
    | some => exact .ok (map_none_eq _ _)
    | none =>
      simp only
      cases (g.fieldText? i "name").filter (· ≠ "") with
      | none => exact .ok (map_none_eq _ _)
      | some name =>
        simp only
        cases (g.fieldText? i "in").bind (ParameterLocation.choices.lookup ·) with
        | none => exact .ok (map_none_eq _ _)
        | some location =>
          simp only [outcome_bind, outcome_pure]
          have hschema : Check.Alike (fun es fs => Option.map (Fields.map g'.unfold) fs =
              Option.map (Fields.map g.unfold) es)
              (((g.field? i "schema").map g.checkFields).getD (.ok none))
              (((g'.field? i' "schema").map g'.checkFields).getD (.ok none)) := by
            have hv := h.field? hi "schema"
            generalize g.field? i "schema" = v, g'.field? i' "schema" = v' at hv
            cases hv with
            | none => exact .ok (map_none_eq _ _)
            | some hv => exact h.checkFields hv
          refine (passed_alike (hschema.under _)).bind fun es fs _ hes => .ok ?_
          simp only [Option.map_some, Parameter.map, hes]

lemma describeParameters_alike (hi : R i i') :
    Alike (fun ps ps' => List.map (Parameter.map g'.unfold) ps' =
      List.map (Parameter.map g.unfold) ps)
      (describeParameters g path i).outcome (describeParameters g' path i').outcome := by
  unfold describeParameters
  simp only [outcome_bind, outcome_mapM, outcome_pure]
  refine (Alike.mapM ((h.itemsOf (h.field? hi "parameters")).imp fun _ _ =>
    describeParameter_alike h)).bind fun ps ps' _ hps => .ok ?_
  rw [List.map_filterMap, List.map_filterMap]
  exact filterMap_eq_of_forall₂ hps

lemma describeBody_alike (hi : R i i') :
    Alike (fun b b' => Option.map (RequestBody.map g'.unfold) b' =
      Option.map (RequestBody.map g.unfold) b)
      (describeBody g i).outcome (describeBody g' i').outcome := by
  have hb := h.field? hi "requestBody"
  unfold describeBody
  generalize g.field? i "requestBody" = b, g'.field? i' "requestBody" = b' at hb
  cases hb with
  | none => exact .ok (map_none_eq _ _)
  | @some b b' hb =>
    have href : (reference? g' b').isSome = (reference? g b).isSome := by
      have href := h.field? hb "$ref"
      rw [← reference?, ← reference?] at href
      generalize reference? g b = t, reference? g' b' = t' at href
      cases href with
      | none | some => rfl
    simp only [h.isNone_entries?_eq hb, href, h.fieldTruthy_eq hb, h.fieldText?_eq hb]
    split
    case isTrue => exact .ok (map_none_eq _ _)
    case isFalse =>
      simp only [outcome_bind, outcome_pure]
      refine (describeContent_alike h (h.field? hb "content")).bind fun c c' _ hcc' => .ok ?_
      simp only [Option.map_some, RequestBody.map, hcc']

lemma describeResponse_alike (status : Scalar) (hi : R i i') :
    Alike (fun e e' => Option.map (fun e => (e.1, Response.map g'.unfold e.2)) e' =
      Option.map (fun e => (e.1, Response.map g.unfold e.2)) e)
      (describeResponse g path status i).outcome (describeResponse g' path status i').outcome := by
  have href := h.field? hi "$ref"
  have hcontent := h.field? hi "content"
  rw [← reference?, ← reference?] at href
  unfold describeResponse
  rw [h.isNone_entries?_eq hi, h.fieldText?_eq hi]
  split
  case isTrue =>
    rw [outcome_pure]
    exact .ok (map_none_eq _ _)
  case isFalse =>
    generalize reference? g i = t, reference? g' i' = t' at href
    cases href with
    | some =>
      simp only [outcome_bind, outcome_note, outcome_pure]
      exact .ok (map_none_eq _ _)
    | none =>
      have rest (c c' : Option (Content NodeId)) (hc : Option.map (Content.map g'.unfold) c' =
          Option.map (Content.map g.unfold) c) :
          Alike (fun e e' => Option.map (fun e => (e.1, Response.map g'.unfold e.2)) e' =
            Option.map (fun e => (e.1, Response.map g.unfold e.2)) e)
            (needed status.written >>= fun text => .ok (some
              (text, (⟨(g.fieldText? i "description").getD "", c⟩ : Response NodeId))))
            (needed status.written >>= fun text => .ok (some
              (text, (⟨(g.fieldText? i "description").getD "", c'⟩ : Response NodeId)))) := by
        refine (Alike.refl _).bind fun text _ _ htext => .ok ?_
        subst htext
        simp only [Option.map_some, Response.map, hc]
      generalize g.field? i "content" = c, g'.field? i' "content" = c' at hcontent
      cases hcontent with
      | none =>
        simp only [outcome_bind, outcome_pure, outcome_liftM]
        exact rest none none (map_none_eq _ _)
      | some hcc' =>
        simp only [outcome_bind, outcome_map, outcome_pure, outcome_liftM]
        refine Alike.bind (R := fun c c' => Option.map (Content.map g'.unfold) c' =
          Option.map (Content.map g.unfold) c) ?_ fun c c' _ => rest c c'
        refine (describeContent_alike h (.some hcc')).map fun c c' hcc' => ?_
        rw [Option.map_some, Option.map_some, hcc']

lemma describeResponses_alike (hi : R i i') :
    Alike (fun rs rs' => List.map (fun e => (e.1, Response.map g'.unfold e.2)) rs' =
      List.map (fun e => (e.1, Response.map g.unfold e.2)) rs)
      (describeResponses g path i).outcome (describeResponses g' path i').outcome := by
  unfold describeResponses
  simp only [outcome_bind, outcome_mapM, outcome_pure]
  refine (Alike.mapM ((h.entriesOf (h.field? hi "responses")).imp fun ⟨status, _⟩ ⟨_, _⟩ ⟨rfl, hi⟩ =>
    describeResponse_alike h status hi)).bind fun rs rs' _ hrs => .ok ?_
  have hrel : List.Forall₂ (Option.Rel fun e f => e.1 = f.1 ∧
      Response.map g'.unfold f.2 = Response.map g.unfold e.2) rs rs' := by
    refine hrs.imp fun e f hef => ?_
    cases e with
    | none =>
      rw [Option.map_none, Option.map_eq_none_iff] at hef
      rw [hef]
      exact .none
    | some e =>
      obtain ⟨f, rfl, hf⟩ := Option.map_eq_some_iff.1 hef
      exact .some (Prod.ext_iff.1 hf.symm |>.imp id Eq.symm)
  have hfound := forall₂_filterMap_id hrel
  refine map_eq_of_forall₂ ((forall₂_foldl_insertName (R := fun r r' =>
    Response.map g'.unfold r' = Response.map g.unfold r) hfound).imp ?_)
  exact fun e f hef => Prod.ext hef.1.symm hef.2

lemma describeOperation_alike (path key : Scalar) (hi : R i i') :
    Alike (fun o o' => Option.map (Operation.map g'.unfold) o' =
      Option.map (Operation.map g.unfold) o)
      (describeOperation g path key i).outcome (describeOperation g' path key i').outcome := by
  have hresponses : (g'.field? i' "responses").isNone = (g.field? i "responses").isNone := by
    have hr := h.field? hi "responses"
    generalize g.field? i "responses" = r, g'.field? i' "responses" = r' at hr
    cases hr with
    | none | some => rfl
  unfold describeOperation
  simp only [outcome_bind, outcome_liftM]
  refine (Alike.refl _).bind fun _ text _ htext => ?_
  subst htext
  cases Method.ofKey? (Text.lower text) with
  | none =>
    rw [outcome_pure]
    exact .ok (map_none_eq _ _)
  | some m =>
    simp only [hresponses, h.fieldText?_eq hi]
    split
    case isTrue =>
      simp only [outcome_bind, outcome_note, outcome_pure]
      exact .ok (map_none_eq _ _)
    case isFalse =>
      simp only [outcome_bind, outcome_liftM, outcome_pure]
      refine (Alike.refl _).bind fun _ text _ htext => ?_
      subst htext
      refine (describeParameters_alike h hi).bind fun ps ps' _ hps => ?_
      refine (describeBody_alike h hi).bind fun b b' _ hb => ?_
      refine (describeResponses_alike h hi).bind fun rs rs' _ hrs => .ok ?_
      simp only [Option.map_some, Operation.map, hps, hb, hrs]

lemma describePathItem_alike (path : Scalar) (hi : R i i') :
    Alike (fun os os' => List.map (Operation.map g'.unfold) os' =
      List.map (Operation.map g.unfold) os)
      (describePathItem g path i).outcome (describePathItem g' path i').outcome := by
  unfold describePathItem
  simp only [outcome_bind, outcome_mapM, outcome_pure]
  refine (Alike.mapM ((h.entriesOf (.some hi)).imp fun ⟨key, _⟩ ⟨_, _⟩ ⟨rfl, hi⟩ =>
    describeOperation_alike h path key hi)).bind fun os os' _ hos => .ok ?_
  rw [List.map_filterMap, List.map_filterMap]
  exact filterMap_eq_of_forall₂ hos

lemma describeOperations_alike {paths paths' : List (Scalar × NodeId)}
    (hp : List.Forall₂ (fun e f => e.1 = f.1 ∧ R e.2 f.2) paths paths') :
    Alike (fun os os' => List.map (Operation.map g'.unfold) os' =
      List.map (Operation.map g.unfold) os)
      (describeOperations g paths).outcome (describeOperations g' paths').outcome := by
  unfold describeOperations
  simp only [outcome_bind, outcome_mapM, outcome_pure]
  refine (Alike.mapM (hp.imp fun ⟨path, _⟩ ⟨_, _⟩ ⟨rfl, hi⟩ =>
    describePathItem_alike h path hi)).bind fun os os' _ hos => .ok ?_
  rw [List.map_flatten, List.map_flatten]
  exact congrArg List.flatten (map_eq_of_forall₂ hos)

/-! ### General information -/

lemma requiredText_eq (hi : R i i') (key : String) :
    requiredText g' i' key = requiredText g i key := by
  have hv := h.field? hi key
  unfold requiredText
  generalize g.field? i key = v, g'.field? i' key = v' at hv
  cases hv with
  | none => rfl
  | @some v v' hv =>
    have hnode := h.node v v' hv
    rw [Option.map_some, Option.map_some]
    generalize g.node v = n, g'.node v' = n' at hnode
    cases hnode with
    | _ => rfl

lemma describeServer_eq (hi : R i i') : describeServer g' i' = describeServer g i := by
  have hes := h.entries? hi
  have hurl := h.field? hi "url"
  unfold describeServer
  rw [h.fieldText?_eq hi]
  generalize g.entries? i = es, g'.entries? i' = fs at hes
  cases hes with
  | none => rfl
  | some =>
    generalize g.field? i "url" = u, g'.field? i' "url" = u' at hurl
    cases hurl with
    | none => rfl
    | some hu => simp only [h.written_eq hu]

end Operations

/-! ### Whole documents -/

/-- What the descriptions of two documents are read from goes together. -/
structure ReadsAlike (d d' : Document) (R : NodeId → NodeId → Prop) : Prop where
  graph : d.graph.Twins d'.graph R
  root : (d'.graph.entries? d'.root).isNone = (d.graph.entries? d.root).isNone
  field : ∀ name, name ≠ "components" → Option.Rel R (d.field? name) (d'.field? name)
  schemas : List.Forall₂ (fun e f => e.1 = f.1 ∧ R e.2 f.2) d.schemaEntries d'.schemaEntries

namespace ReadsAlike

variable {d d' : Document} (h : ReadsAlike d d' R)
include h

lemma describeInfo_eq : d'.describeInfo = d.describeInfo := by
  have hinfo := h.field "info" (by decide)
  unfold describeInfo
  generalize d.field? "info" = i, d'.field? "info" = i' at hinfo
  cases hinfo with
  | none => rfl
  | some hi =>
    have hmap := h.graph.isSome_entries?_eq hi
    simp only [hmap, requiredText_eq h.graph hi, h.graph.fieldText?_eq hi]

lemma describeVersion_eq : d'.describeVersion = d.describeVersion := by
  have hswagger := h.field "swagger" (by decide)
  have hopenapi := h.field "openapi" (by decide)
  unfold describeVersion
  generalize d.field? "swagger" = s, d'.field? "swagger" = s' at hswagger
  cases hswagger with
  | some hs =>
    simp only [h.graph.written_eq hs]
    cases needed (d.graph.written _) with
    | _ => rfl
  | none =>
    generalize d.field? "openapi" = o, d'.field? "openapi" = o' at hopenapi
    cases hopenapi with
    | none => rfl
    | @some i i' hi =>
      have hnull : d'.graph.node i' = .scalar .null ↔ d.graph.node i = .scalar .null := by
        have hnode := h.graph.node i i' hi
        generalize d.graph.node i = n, d'.graph.node i' = n' at hnode
        cases hnode with
        | _ => simp
      simp only [h.graph.written_eq hi, hnull]

lemma describePaths_alike :
    Alike (List.Forall₂ fun e f => e.1 = f.1 ∧ R e.2 f.2) d.describePaths d'.describePaths := by
  have hpaths := h.field "paths" (by decide)
  unfold describePaths
  generalize d.field? "paths" = p, d'.field? "paths" = p' at hpaths
  cases hpaths with
  | none => exact .ok .nil
  | @some p p' hp =>
    have hnode := h.graph.node p p' hp
    rw [Option.map_some, Option.map_some]
    generalize d.graph.node p = n, d'.graph.node p' = n' at hnode
    cases hnode with
    | map hl => exact .ok hl
    | scalar s =>
      cases s with
      | null => exact .ok .nil
      | _ => exact .error _ _
    | _ => exact .error _ _

lemma describeServers_eq : d'.describeServers = d.describeServers := by
  have hservers := h.field "servers" (by decide)
  unfold describeServers
  generalize d.field? "servers" = s, d'.field? "servers" = s' at hservers
  cases hservers with
  | none => rfl
  | @some s s' hs =>
    have hnode := h.graph.node s s' hs
    rw [Option.map_some, Option.map_some]
    generalize d.graph.node s = n, d'.graph.node s' = n' at hnode
    cases hnode with
    | list hl =>
      simp only [mapM_congr (hl.imp fun _ _ => describeServer_eq h.graph)]
    | scalar s =>
      cases s with
      | _ => rfl
    | _ => rfl

/-- The descriptions are the same, but for the nodes in their schemas, and these have the same
trees. -/
theorem describe_alike :
    Alike (fun a a' => Api.map d'.graph.unfold a' = Api.map d.graph.unfold a)
      d.describe.outcome d'.describe.outcome := by
  unfold describe
  rw [h.root, h.describeInfo_eq, h.describeVersion_eq, h.describeServers_eq]
  split
  case isTrue => exact .error _ _
  case isFalse =>
    simp only [outcome_bind, outcome_liftM, outcome_pure]
    refine (Alike.refl _).bind fun _ info _ hinfo => ?_
    subst hinfo
    refine (Alike.refl _).bind fun _ version _ hversion => ?_
    subst hversion
    refine h.describePaths_alike.bind fun paths paths' _ hpaths => ?_
    refine (Alike.refl _).bind fun _ servers _ hservers => ?_
    subst hservers
    refine (describeOperations_alike h.graph hpaths).bind fun os os' _ hos => ?_
    refine (passed_alike ((checkTextKeys_alike h.schemas).under _)).bind fun es es' _ hes => .ok ?_
    simp only [Api.map, hos, h.graph.fieldsMap_eq hes]

end ReadsAlike

end Document

end ApiBridge
