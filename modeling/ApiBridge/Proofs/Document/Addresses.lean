import ApiBridge.Proofs.Document.Layout
import ApiBridge.Proofs.Text.Integers

/-!
# Addresses of nodes

Each node has an address: the pointer that is written from a path of keys and indexes leads to the
node at the end of the path. The other way round, a pointer that leads somewhere goes through keys
and through what `Pointer.itemAt?` takes for an index, which is more than an index in decimal.
-/

namespace ApiBridge

/-! ### Segments -/

namespace Pointer

/-- The pointer through some segments. -/
def ofSegments (segments : List String) : String :=
  String.ofList ('#' :: '/' :: ['/'].intercalate (segments.map fun s => escape s.toList))

lemma slash_not_mem_escape (cs : List Char) : '/' ∉ escape cs := by
  induction cs with
  | nil => simp [escape]
  | cons c cs ih =>
    rw [escape]
    split
    case isTrue => simp [ih]
    case isFalse =>
      split
      case isTrue => simp [ih]
      case isFalse h =>
        rw [List.mem_cons, not_or]
        exact ⟨fun hc => h hc.symm, ih⟩

lemma segments?_ofSegments {segments : List String} (h : segments ≠ []) :
    segments? (ofSegments segments) = some segments := by
  have hsplit : (['/'].intercalate (segments.map fun s => escape s.toList)).splitOn '/' =
      segments.map fun s => escape s.toList := by
    refine List.splitOn_intercalate '/' (fun l hl => ?_) (by simpa using h)
    obtain ⟨s, -, rfl⟩ := List.mem_map.1 hl
    exact slash_not_mem_escape _
  rw [segments?, ofSegments, String.toList_ofList]
  simp only [hsplit, List.map_map, Option.some.injEq]
  refine (List.map_congr_left fun s _ => ?_).trans (List.map_id _)
  rw [Function.comp_apply, unescape_escape, String.ofList_toList, id]

/-- Write some characters for each occurrence of a character. -/
def replaceEach (c : Char) (by' : List Char) (cs : List Char) : List Char :=
  cs.flatMap fun x => if x = c then by' else [x]

/-- Escaping a text is two replacements, one after the other. -/
lemma escape_eq (cs : List Char) :
    escape cs = replaceEach '/' ['~', '1'] (replaceEach '~' ['~', '0'] cs) := by
  induction cs with
  | nil => rfl
  | cons c cs ih =>
    simp only [replaceEach, List.flatMap_cons, List.flatMap_append] at ih ⊢
    rw [escape, ih]
    split
    case isTrue => simp
    case isFalse =>
      split
      case isTrue h => simp [h]
      case isFalse h => simp [h]

end Pointer

/-! ### Paths -/

/-- A step of a path: to the entry of a key, or to the item at an index. -/
inductive Pointer.Step
  | key (name : String)
  | item (index : Nat)

namespace Pointer

/-- The text of a step: a key, or an index in decimal. -/
def Step.text : Step → String
  | key name => name
  | item index => toString index

/-- A step as a segment: a key is escaped, and an index is not. -/
def Step.segment : Step → List Char
  | key name => replaceEach '/' ['~', '1'] (replaceEach '~' ['~', '0'] name.toList)
  | item index => (toString index).toList

/-- The pointer along a path. -/
def ofPath (path : List Step) : String :=
  String.ofList ('#' :: '/' :: ['/'].intercalate (path.map Step.segment))

/-- What is neither a tilde nor a slash need not be escaped. -/
lemma escape_eq_self {cs : List Char} (htilde : '~' ∉ cs) (hslash : '/' ∉ cs) :
    escape cs = cs := by
  induction cs with
  | nil => rfl
  | cons c cs ih =>
    rw [List.mem_cons, not_or] at htilde hslash
    rw [escape, if_neg (Ne.symm htilde.1), if_neg (Ne.symm hslash.1), ih htilde.2 hslash.2]

lemma Step.segment_eq (s : Step) : s.segment = escape s.text.toList := by
  cases s with
  | key name => rw [segment, text, escape_eq]
  | item index =>
    have digits : (toString index).toList = Nat.toDigits 10 index := Nat.toList_repr
    have isDigit (c : Char) (hc : c ∈ Nat.toDigits 10 index) : c.isDigit = true :=
      Nat.isDigit_of_mem_toDigits (by decide) (by decide) hc
    rw [segment, text, digits, escape_eq_self]
    · exact fun h => absurd (isDigit _ h) (by decide)
    · exact fun h => absurd (isDigit _ h) (by decide)

lemma ofPath_eq (path : List Step) : ofPath path = ofSegments (path.map Step.text) := by
  have hsegment : Step.segment = fun s => escape s.text.toList := funext Step.segment_eq
  rw [ofPath, ofSegments, List.map_map, hsegment]
  rfl

end Pointer

namespace Graph

open Pointer

variable {g : Graph} {i j k : NodeId}

/-- A path leads from a node to another one. -/
inductive Along (g : Graph) : NodeId → List Step → NodeId → Prop
  | here {i : NodeId} : Along g i [] i
  | key {i j k : NodeId} {name : String} {path : List Step} (h : g.Entry i (.text name) j)
      (hk : Along g j path k) : Along g i (.key name :: path) k
  | item {i j k : NodeId} {is : List NodeId} {index : Nat} {path : List Step}
      (h : g.items? i = some is) (hj : is[index]? = some j) (hk : Along g j path k) :
      Along g i (.item index :: path) k

/-- No list is so long that the index of an item has more digits than are read. -/
def IsIndexable (g : Graph) : Prop :=
  ∀ i is, g.items? i = some is → is.length ≤ 10 ^ Text.decimalDigitLimit

/-- It is enough to look at each node once. -/
lemma IsIndexable.of_nodes (h : ∀ i < g.nodes.size, (g.items? i).all (fun is =>
    decide (is.length ≤ 10 ^ Text.decimalDigitLimit)) = true) : g.IsIndexable := by
  intro i is his
  have hlength := h i (lt_size_of_items? his)
  rwa [his, Option.all_some, decide_eq_true_eq] at hlength

lemma step_of_entry (hk : g.Keyed) {target name : String} (h : g.Entry i (.text name) j) :
    Pointer.step g target i name = .ok j := by
  have hlookup := hk.lookup_entry h
  obtain ⟨es, hes, -⟩ := h
  rw [hes, Option.bind_some] at hlookup
  simp only [Pointer.step, node_eq_of_entries? hes, hlookup]

/-- At a list a segment is read as an integer. -/
lemma step_of_items? {target segment : String} {is : List NodeId} (h : g.items? i = some is) :
    Pointer.step g target i segment = ((Text.readInteger? 10 segment.toList).bind
      (itemAt? is)).elim (.error (.badIndex target segment)) .ok := by
  simp only [Pointer.step, node_eq_of_items? h]
  cases (Text.readInteger? 10 segment.toList).bind (itemAt? is) with
  | none | some => rfl

lemma step_of_item (hg : g.IsIndexable) {target : String} {is : List NodeId} {index : Nat}
    (h : g.items? i = some is) (hj : is[index]? = some j) :
    Pointer.step g target i (toString index) = .ok j := by
  obtain ⟨hindex, -⟩ := List.getElem?_eq_some_iff.1 hj
  have hitem : itemAt? is index = some j := by
    rwa [itemAt?, if_pos (Int.natCast_nonneg index), Int.toNat_natCast]
  have hlt : index < 10 ^ Text.decimalDigitLimit := hindex.trans_le (hg i is h)
  have hread := Text.readInteger?_eq_some_iff.2 (Text.spells_toString hlt)
  rw [step_of_items? h, hread, Option.bind_some, hitem, Option.elim_some]

/-- The steps of a path are steps of a pointer. -/
lemma Along.foldlM_eq (hk : g.Keyed) (hg : g.IsIndexable) {target : String} {path : List Step}
    (h : g.Along i path j) : (path.map Step.text).foldlM (Pointer.step g target) i = .ok j := by
  induction h with
  | here => rfl
  | key h _ ih =>
    rw [List.map_cons, List.foldlM_cons]
    exact bind_eq_ok_iff.2 ⟨_, step_of_entry hk h, ih⟩
  | item h hj _ ih =>
    rw [List.map_cons, List.foldlM_cons]
    exact bind_eq_ok_iff.2 ⟨_, step_of_item hg h hj, ih⟩

end Graph

namespace Document

open Pointer

variable {d : Document}

/-- Every node is addressable: the pointer along a path leads to the node at its end. -/
theorem locate_ofPath (hk : d.graph.Keyed) (hg : d.graph.IsIndexable) {path : List Step}
    {j : NodeId} (h : d.graph.Along d.root path j) (hne : path ≠ []) :
    d.locate (ofPath path) = .ok j := by
  have hsegments : segments? (ofPath path) = some (path.map Step.text) := by
    rw [ofPath_eq]
    exact segments?_ofSegments (by simpa using hne)
  simp only [locate, hsegments]
  exact h.foldlM_eq hk hg

/-- A document with keys that are empty or that have slashes and tildes in them. -/
def oddKeys : Document :=
  ofValue (.ofFields [
    ("", .ofFields [("a/b", .ofFields [("x~y", .list [.text "first", .ofFields [
      ("~1", .ofFields [("~0", .text "second")])]])])])])

/-- The keys are found by their escaped texts. -/
theorem locate_ofPath_oddKeys :
    ofPath [.key "", .key "a/b", .key "x~y", .item 1, .key "~1", .key "~0"] =
        "#//a~1b/x~0y/1/~01/~00" ∧
      oddKeys.locate "#//a~1b/x~0y/1/~01/~00" = .ok 1 := by
  have hsound : oddKeys.IsSound := ofValue_isSound (by decide +kernel)
  have hindexable : oddKeys.graph.IsIndexable := .of_nodes (by decide +kernel)
  have entry {i j : NodeId} {name : String} (h : oddKeys.graph.field? i name = some j) :
      oddKeys.graph.Entry i (.text name) j := hsound.keyed.field?_iff.1 h
  have hitems : oddKeys.graph.items? 4 = some [0, 3] := by decide +kernel
  have halong : oddKeys.graph.Along oddKeys.root
      [.key "", .key "a/b", .key "x~y", .item 1, .key "~1", .key "~0"] 1 :=
    .key (entry (j := 6) (by decide +kernel)) <| .key (entry (j := 5) (by decide +kernel)) <|
    .key (entry (j := 4) (by decide +kernel)) <| .item hitems (j := 3) (by rfl) <|
    .key (entry (j := 2) (by decide +kernel)) <| .key (entry (by decide +kernel)) .here
  have hpath : ofPath [.key "", .key "a/b", .key "x~y", .item 1, .key "~1", .key "~0"] =
      "#//a~1b/x~0y/1/~01/~00" := by decide +kernel
  exact ⟨hpath, hpath ▸ locate_ofPath hsound.keyed hindexable halong (by simp)⟩

/-! ### Pointers that are read loosely -/

/-- A text is the index of an item in decimal. -/
def IsIndex (is : List NodeId) (segment : String) (j : NodeId) : Prop :=
  ∃ index : Nat, segment = toString index ∧ is[index]? = some j

/-- A text is no index in decimal, and an item is found by it: by another spelling of its index, or
by a negative number that counts from the end. -/
inductive Strays (is : List NodeId) (segment : String) : NodeId → Prop
  | spelling {index : Nat} {j : NodeId} (hs : Text.Spells segment.toList index)
      (hne : ∀ n : Nat, segment ≠ toString n) (hj : is[index]? = some j) : Strays is segment j
  | fromEnd {count : Nat} {j : NodeId} (hs : Text.Spells segment.toList (-count))
      (hpos : 0 < count) (hle : count ≤ is.length) (hj : is[is.length - count]? = some j) :
      Strays is segment j

variable {is : List NodeId} {s target : String} {before after : List String} {i j : NodeId}

lemma Strays.not_isIndex (h : Strays is s j) : ¬IsIndex is s i := by
  rintro ⟨n, rfl, -⟩
  cases h with
  | spelling _ hne => exact hne n rfl
  | fromEnd hs hpos =>
    have := Text.eq_of_spells_toString hs
    omega

/-- The item that a segment strays to is the one that is stepped to. -/
lemma Strays.itemAt? (h : Strays is s j) :
    (Text.readInteger? 10 s.toList).bind (Pointer.itemAt? is) = some j := by
  cases h with
  | spelling hs _ hj =>
    rw [Text.readInteger?_eq_some_iff.2 hs, Option.bind_some, Pointer.itemAt?,
      if_pos (Int.natCast_nonneg _), Int.toNat_natCast, hj]
  | @fromEnd count _ hs hpos hle hj =>
    rw [Text.readInteger?_eq_some_iff.2 hs, Option.bind_some, Pointer.itemAt?, if_neg (by omega),
      Int.natAbs_neg, Int.natAbs_natCast, if_pos hle, hj]

/-- The item that is stepped to has the segment as its index, or the segment strays to it. -/
lemma isIndex_or_strays
    (h : (Text.readInteger? 10 s.toList).bind (Pointer.itemAt? is) = some j) :
    IsIndex is s j ∨ Strays is s j := by
  obtain ⟨z, hread, hitem⟩ := Option.bind_eq_some_iff.1 h
  have hs := Text.readInteger?_eq_some_iff.1 hread
  unfold Pointer.itemAt? at hitem
  split at hitem
  case isTrue hz =>
    obtain ⟨index, rfl⟩ := Int.eq_ofNat_of_zero_le hz
    rw [Int.toNat_natCast] at hitem
    by_cases hne : ∀ n : Nat, s ≠ toString n
    · exact .inr (.spelling hs hne hitem)
    · obtain ⟨n, rfl⟩ : ∃ n : Nat, s = toString n := by simpa using hne
      obtain rfl : index = n := Int.ofNat.inj (Text.eq_of_spells_toString hs)
      exact .inl ⟨_, rfl, hitem⟩
  case isFalse hz =>
    split at hitem
    case isTrue hle =>
      obtain ⟨count, rfl⟩ : ∃ count : Nat, z = -count := ⟨z.natAbs, by omega⟩
      rw [Int.natAbs_neg, Int.natAbs_natCast] at hle hitem
      exact .inr (.fromEnd hs (by omega) hle hitem)
    case isFalse => cases hitem

/-- Where a pointer has come to a list, its next segment is the index of an item in decimal, and the
pointer goes on from that item, or the pointer leads nowhere -- unless the segment strays: it is no
index in decimal, and the pointer goes on from an item even so. -/
theorem locate_at_list (hsegments : segments? target = some (before ++ s :: after))
    (hbefore : before.foldlM (Pointer.step d.graph target) d.root = .ok i)
    (his : d.graph.items? i = some is) :
    ((∀ j, ¬Strays is s j) →
      (∀ v, d.locate target = .ok v →
        ∃ j, IsIndex is s j ∧ after.foldlM (Pointer.step d.graph target) j = .ok v) ∧
      ((∀ j, ¬IsIndex is s j) → d.locate target = .error (.badIndex target s))) ∧
    ∀ j, Strays is s j → (∀ v, ¬IsIndex is s v) ∧
      d.locate target = after.foldlM (Pointer.step d.graph target) j := by
  have hlocate : d.locate target = (Pointer.step d.graph target i s).bind
      (after.foldlM (Pointer.step d.graph target)) := by
    simp only [locate, hsegments, List.foldlM_append, hbefore]
    rfl
  rw [Graph.step_of_items? his] at hlocate
  refine ⟨fun hstrays => ?_, fun j hj => ⟨fun v => hj.not_isIndex, ?_⟩⟩
  · cases hitem : (Text.readInteger? 10 s.toList).bind (Pointer.itemAt? is) with
    | none =>
      rw [hitem] at hlocate
      exact ⟨fun v hv => (by cases hlocate.symm.trans hv), fun _ => hlocate⟩
    | some j =>
      rw [hitem] at hlocate
      have hindex := (isIndex_or_strays hitem).resolve_right (hstrays j)
      exact ⟨fun v hv => ⟨j, hindex, hlocate.symm.trans hv⟩, fun h => absurd hindex (h j)⟩
  · rw [hlocate, hj.itemAt?, Option.elim_some]
    rfl

/-- A document with a list of two servers. -/
def twoServers : Document :=
  ofValue (.ofFields [("servers", .list [
    .ofFields [("url", .text "a")], .ofFields [("url", .text "b")]])])

/-- Behind a minus sign, one stands for the last server; a sixth server is not found. -/
theorem locate_twoServers :
    ((∀ v, ¬IsIndex [1, 3] "-1" v) ∧ twoServers.locate "#/servers/-1" = .ok 3) ∧
      twoServers.locate "#/servers/5" = .error (.badIndex "#/servers/5" "5") := by
  have hitems : twoServers.graph.items? 4 = some [1, 3] := by decide +kernel
  have hbefore (target : String) :
      ["servers"].foldlM (Pointer.step twoServers.graph target) twoServers.root = .ok 4 := by rfl
  have spelled : Text.Spells "-1".toList (-(1 : Nat)) :=
    Text.readInteger?_eq_some_iff.1 (by decide +kernel)
  have strays : Strays [1, 3] "-1" 3 := .fromEnd spelled (by decide) (by decide) rfl
  have behind : ∀ j, ¬IsIndex [1, 3] "5" j := by
    rintro j ⟨n, hn, hj⟩
    have hfive : Text.Spells "5".toList (5 : Nat) :=
      Text.spells_toString (n := 5) (by decide +kernel)
    rw [hn] at hfive
    obtain rfl := Int.ofNat.inj (Text.eq_of_spells_toString hfive)
    cases hj
  have straight : ∀ j, ¬Strays [1, 3] "5" j := by
    rintro j (⟨-, hne, -⟩ | ⟨hs, hpos, -, -⟩)
    · exact hne 5 rfl
    · have := Text.eq_of_spells_toString (n := 5) hs
      omega
  have hlast : segments? "#/servers/-1" = some (["servers"] ++ "-1" :: []) := by decide +kernel
  have hsixth : segments? "#/servers/5" = some (["servers"] ++ "5" :: []) := by decide +kernel
  exact ⟨(locate_at_list hlast (hbefore _) hitems).2 3 strays,
    ((locate_at_list hsixth (hbefore _) hitems).1 straight).2 behind⟩

end Document

end ApiBridge
