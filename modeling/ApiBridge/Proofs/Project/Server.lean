import ApiBridge.Project.Generate
import ApiBridge.Proofs.Json.Spelling
import ApiBridge.Proofs.TypeScript.Declared

/-!
# What a server offers

The text of a generated server is read again: the table of routes after the line that opens it, and
the list of tools after its own, each entry with values in JSON. A server lists one tool for each
operation, under its name and with its description. Input schema and route are kept in tables by
name, so of tools with one name the last one lends its own to all.
-/

namespace ApiBridge

/-- A tool as a server lists it. -/
structure ListedTool where
  name : String
  description : String
  inputSchema : Value
  deriving Repr

/-- What a server offers: routes by name, and tools. -/
structure Offer where
  routes : List (String × Value)
  tools : List ListedTool
  deriving Repr

/-- What a server offers when the data of some tool is taken for each. -/
def Offer.ofTools (tools : List Tool) (source : Tool → Tool) : Offer where
  routes := tools.map fun t => (t.name, (source t).route)
  tools := tools.map fun t => ⟨t.name, t.description, (source t).inputSchema⟩

/-! ### Reading a server -/

namespace Offer

/-- What follows a text that the characters start with. -/
def after? (s : String) (cs : List Char) : Option (List Char) :=
  s.toList.isPrefixOf? cs

/-- What follows the first place where a text stands. -/
def afterFirst? (pattern : List Char) : List Char → Option (List Char)
  | [] => none
  | c :: cs =>
    match pattern.isPrefixOf? (c :: cs) with
    | some rest => some rest
    | none => afterFirst? pattern cs

/-- A value in JSON. -/
def value? (cs : List Char) : Option (Value × List Char) :=
  (Json.readValue cs.length cs).toOption

/-- A text in JSON. -/
def text? (cs : List Char) : Option (String × List Char) := do
  let (v, cs) ← value? cs
  let s ← v.text?
  return (s, cs)

/-- A route on a line of its own. -/
def route? (cs : List Char) : Option ((String × Value) × List Char) := do
  let cs ← after? "\n  " cs
  let (name, cs) ← text? cs
  let cs ← after? ": " cs
  let (route, cs) ← value? cs
  return ((name, route), cs)

/-- A tool that is listed. -/
def tool? (cs : List Char) : Option (ListedTool × List Char) := do
  let cs ← after? "\n      \x7b\n        name: " cs
  let (name, cs) ← text? cs
  let cs ← after? ",\n        description: " cs
  let (description, cs) ← text? cs
  let cs ← after? ",\n        inputSchema: " cs
  let (inputSchema, cs) ← value? cs
  let cs ← after? ",\n      \x7d" cs
  return (⟨name, description, inputSchema⟩, cs)

/-- As many entries as there are, with commas between them. -/
def entries {β : Type} (read : List Char → Option (β × List Char)) :
    Nat → List Char → List β × List Char
  | 0, cs => ([], cs)
  | fuel + 1, cs =>
    match read cs with
    | none => ([], cs)
    | some (e, cs) =>
      match after? "," cs with
      | none => ([e], cs)
      | some cs =>
        let (es, cs) := entries read fuel cs
        (e :: es, cs)

/-- What opens the table of routes. -/
def routesOpening : List Char :=
  "\nconst ROUTES: Record<string, Route> = \x7b".toList

/-- What opens the list of tools. -/
def toolsOpening : List Char :=
  "\n    tools: [".toList

/-- What the text of a server offers: the tables stand where they are first opened, and each is read
up to the line that closes it. -/
def read? (text : String) : Option Offer := do
  let cs ← afterFirst? routesOpening text.toList
  let (routes, cs) := entries route? cs.length cs
  let cs ← after? "\n\x7d;" cs
  let cs ← afterFirst? toolsOpening cs
  let (tools, cs) := entries tool? cs.length cs
  let _ ← after? "\n    ]," cs
  return ⟨routes, tools⟩

/-! ### Parts of a text -/

variable {cs rest pattern skipped : List Char}

lemma after?_append (s : String) (rest : List Char) : after? s (s.toList ++ rest) = some rest :=
  List.isPrefixOf?_eq_some_iff_append_eq.2 rfl

lemma value?_spells {v : Value} (h : Json.Spells cs v) (hw : v.isWritable = true)
    (hr : Json.EndsBefore v rest) : value? (cs ++ rest) = some (v, rest) := by
  rw [value?, h.isRead hw _ (by simp) _ hr]
  rfl

lemma value?_write {style : Json.Style} {v : Value} (h : Json.IsPlain v) (rest : List Char) :
    value? ((Json.write style v).toList ++ rest) = some (v, rest) :=
  value?_spells (Json.spells_writeAt style 0 h) h.isWritable (h.endsBefore rest)

lemma text?_writeString (style : Json.Style) (s : String) (rest : List Char) :
    text? ((Json.writeString style s).toList ++ rest) = some (s, rest) := by
  have plain := Json.IsPlain.text s
  rw [text?, value?_spells (.text style s) plain.isWritable (plain.endsBefore rest)]
  rfl

/-- A pattern does not begin among some characters, whatever follows them. -/
def Clear (pattern skipped : List Char) : Prop :=
  ∀ rest, afterFirst? pattern (skipped ++ rest) = afterFirst? pattern rest

/-- Where its first character does not stand, a pattern does not begin. -/
lemma clear_of_not_mem {c : Char} (hp : pattern.head? = some c) (h : c ∉ skipped) :
    Clear pattern skipped := by
  obtain ⟨ps, rfl⟩ := List.head?_eq_some_iff.1 hp
  intro rest
  induction skipped with
  | nil => rfl
  | cons d skipped ih =>
    obtain ⟨hd, hs⟩ := not_or.1 (List.mem_cons.not.1 h)
    rw [List.cons_append, afterFirst?, ih hs, List.isPrefixOf?, if_neg (by simpa using hd)]

/-- Both texts have a character at some place, and not the same one. -/
def clashes : List Char → List Char → Bool
  | p :: ps, c :: cs => p != c || clashes ps cs
  | _, _ => false

lemma isPrefixOf?_of_clashes (h : clashes pattern cs = true) (rest : List Char) :
    pattern.isPrefixOf? (cs ++ rest) = none := by
  induction pattern generalizing cs with
  | nil => simp [clashes] at h
  | cons p ps ih =>
    cases cs with
    | nil => simp [clashes] at h
    | cons c cs =>
      rw [List.cons_append, List.isPrefixOf?]
      by_cases hp : p = c
      · subst hp
        rw [if_pos (by simp), ih (by simpa [clashes] using h)]
      · rw [if_neg (by simpa using hp)]

/-- A pattern clashes with the characters at every place. -/
def clashesAll (pattern : List Char) : List Char → Bool
  | [] => true
  | c :: cs => clashes pattern (c :: cs) && clashesAll pattern cs

lemma clear_of_clashesAll (h : clashesAll pattern skipped = true) : Clear pattern skipped := by
  intro rest
  induction skipped with
  | nil => rfl
  | cons c cs ih =>
    obtain ⟨hc, hcs⟩ := Bool.and_eq_true_iff.1 h
    rw [List.cons_append, afterFirst?, ← List.cons_append, isPrefixOf?_of_clashes hc, ih hcs]

lemma after?_append_of_isPrefixOf {s : String} (h : s.toList.isPrefixOf cs = true)
    (rest : List Char) : after? s (cs ++ rest) = some (cs.drop s.toList.length ++ rest) := by
  obtain ⟨more, rfl⟩ := List.isPrefixOf_iff_prefix.1 h
  rw [List.append_assoc, after?_append, List.drop_left]

lemma length_le_of_afterFirst? {found : List Char} (h : afterFirst? pattern cs = some found) :
    pattern.length ≤ cs.length := by
  induction cs with
  | nil => simp [afterFirst?] at h
  | cons c cs ih =>
    cases hp : pattern.isPrefixOf? (c :: cs) with
    | none =>
      simp only [afterFirst?, hp] at h
      exact Nat.le_succ_of_le (ih h)
    | some more =>
      rw [← List.isPrefixOf?_eq_some_iff_append_eq.1 hp]
      simp

/-- A place that is found among some characters is found whatever follows them: at all places before
it there are enough characters to see that the pattern does not stand there. -/
lemma afterFirst?_append (found : List Char) (h : afterFirst? pattern cs = some found)
    (rest : List Char) : afterFirst? pattern (cs ++ rest) = some (found ++ rest) := by
  induction cs with
  | nil => simp [afterFirst?] at h
  | cons c cs ih =>
    cases hp : pattern.isPrefixOf? (c :: cs) with
    | some more =>
      simp only [afterFirst?, hp, Option.some.injEq] at h
      have whole : pattern ++ (found ++ rest) = c :: (cs ++ rest) := by
        rw [← List.append_assoc, ← h, List.isPrefixOf?_eq_some_iff_append_eq.1 hp]
        rfl
      simp only [List.cons_append, afterFirst?, List.isPrefixOf?_eq_some_iff_append_eq.2 whole]
    | none =>
      simp only [afterFirst?, hp] at h
      have none : pattern.isPrefixOf? (c :: (cs ++ rest)) = none := by
        refine Option.eq_none_iff_forall_ne_some.2 fun more hmore => ?_
        have whole := List.isPrefixOf?_eq_some_iff_append_eq.1 hmore
        obtain ⟨t, ht⟩ : pattern <+: c :: cs :=
          List.prefix_of_prefix_length_le ⟨more, whole⟩ ⟨rest, rfl⟩
            (Nat.le_succ_of_le (length_le_of_afterFirst? h))
        rw [List.isPrefixOf?_eq_some_iff_append_eq.2 ht] at hp
        contradiction
      simp only [List.cons_append, afterFirst?, none, ih h]

/-! ### Tables -/

/-- The entries of a table are read until something else follows. -/
lemma entries_intercalate {β γ : Type} {read : List Char → Option (β × List Char)}
    (written : γ → List Char) (content : γ → β)
    (hw : ∀ x rest, read (written x ++ rest) = some (content x, rest)) {rest : List Char}
    (he : read rest = none) (hc : after? "," rest = none) {xs : List γ} {fuel : Nat}
    (hf : xs.length ≤ fuel) :
    entries read fuel ([','].intercalate (xs.map written) ++ rest)
      = (xs.map content, rest) := by
  induction xs generalizing fuel with
  | nil =>
    cases fuel with
    | zero => rfl
    | succ fuel => simp [entries, he]
  | cons x xs ih =>
    cases fuel with
    | zero => simp at hf
    | succ fuel =>
      cases xs with
      | nil => simp [entries, hw, hc]
      | cons y ys =>
        have comma : after? "," (',' :: ([','].intercalate ((y :: ys).map written) ++ rest))
            = some ([','].intercalate ((y :: ys).map written) ++ rest) := after?_append "," _
        rw [List.map_cons, List.map_cons, List.intercalate_cons_cons, ← List.map_cons,
          List.append_assoc, List.append_assoc, List.singleton_append, entries, hw]
        simp only [comma, ih (Nat.le_of_succ_le_succ hf)]
        rfl

lemma length_le_intercalate (css : List (List Char)) :
    css.length ≤ ([','].intercalate css).length + 1 := by
  induction css with
  | nil => simp
  | cons cs css ih =>
    cases css with
    | nil => simp
    | cons cs' css =>
      rw [List.intercalate_cons_cons]
      simp only [List.length_append, List.length_cons, List.length_nil] at ih ⊢
      omega

/-- The lines of a table, each with its line break in front. -/
lemma newline_commaLines (lines : List String) :
    '\n' :: (Blueprint.commaLines lines).toList
      = [','].intercalate (lines.map fun l => '\n' :: l.toList) ++ ['\n'] := by
  cases lines with
  | nil => rfl
  | cons l ls =>
    have lines := Json.append_intercalate ['\n'] ['\n'] l.toList (ls.map String.toList)
    rw [List.map_map] at lines
    simp only [Blueprint.commaLines, String.toList_append, String.toList_intercalate]
    calc _ = (['\n'] ++ [',', '\n'].intercalate (l.toList :: ls.map String.toList)) ++ ['\n'] := rfl
      _ = _ := by rw [lines]; rfl

/-- A table is read up to where no entry follows. -/
lemma entries_commaLines {β : Type} {read : List Char → Option (β × List Char)}
    {tools : List Tool} (line : Tool → String) (content : Tool → β)
    (hw : ∀ t rest, read ('\n' :: (line t).toList ++ rest) = some (content t, rest))
    {rest cs : List Char} (he : read ('\n' :: rest) = none)
    (hcs : cs = '\n' :: (Blueprint.commaLines (tools.map line)).toList ++ rest) :
    entries read cs.length cs = (tools.map content, '\n' :: rest) := by
  have enough := length_le_intercalate (tools.map fun t => '\n' :: (line t).toList)
  rw [List.length_map] at enough
  rw [newline_commaLines, List.map_map, List.append_assoc, List.singleton_append] at hcs
  rw [hcs]
  refine entries_intercalate (fun t => '\n' :: (line t).toList) content hw he rfl ?_
  simp only [List.length_append, List.length_cons, Function.comp_def] at enough ⊢
  omega

/-! ### Lines of tools -/

lemma route?_routeLine {tools : List Tool} {t : Tool}
    (hp : Json.IsPlain (Blueprint.lastNamed tools t).route) (rest : List Char) :
    route? ('\n' :: (Blueprint.routeLine tools t).toList ++ rest)
      = some ((t.name, (Blueprint.lastNamed tools t).route), rest) := by
  have start : '\n' :: (Blueprint.routeLine tools t).toList ++ rest
      = "\n  ".toList ++ ((Json.writeString .script t.name).toList ++ (": ".toList
        ++ ((Json.write .script (Blueprint.lastNamed tools t).route).toList ++ rest))) := by
    simp [Blueprint.routeLine, Blueprint.json, Blueprint.jsonValue]
  rw [start]
  simp only [route?, after?_append, text?_writeString, value?_write hp, Option.bind_eq_bind,
    Option.bind_some]
  rfl

lemma tool?_toolEntry {tools : List Tool} {t : Tool}
    (hp : Json.IsPlain (Blueprint.lastNamed tools t).inputSchema) (rest : List Char) :
    tool? ('\n' :: (Blueprint.toolEntry tools t).toList ++ rest)
      = some (⟨t.name, t.description, (Blueprint.lastNamed tools t).inputSchema⟩, rest) := by
  have start : '\n' :: (Blueprint.toolEntry tools t).toList ++ rest
      = "\n      \x7b\n        name: ".toList ++ ((Json.writeString .script t.name).toList
        ++ (",\n        description: ".toList ++ ((Json.writeString .script t.description).toList
        ++ (",\n        inputSchema: ".toList
        ++ ((Json.write .script (Blueprint.lastNamed tools t).inputSchema).toList
        ++ (",\n      \x7d".toList ++ rest)))))) := by
    have opening : '\n' :: "      \x7b\n        name: ".toList
        = "\n      \x7b\n        name: ".toList := by simp
    unfold Blueprint.toolEntry
    simp only [String.toList_append, List.append_assoc, List.cons_append]
    exact congrArg (· ++ _) opening
  rw [start]
  simp only [tool?, after?_append, text?_writeString, value?_write hp, Option.bind_eq_bind,
    Option.bind_some]
  rfl

/-! ### Servers -/

lemma afterFirst?_serverStart {baseUrl contentType : String} (hb : '\n' ∉ baseUrl.toList)
    (hc : '\n' ∉ contentType.toList) (rest : List Char) :
    afterFirst? routesOpening ((Blueprint.serverStart baseUrl contentType).toList ++ rest)
      = some ('\n' :: rest) := by
  have head : routesOpening.head? = some '\n' := by
    unfold routesOpening
    rewrite [String.toList_ofList]
    rfl
  unfold Blueprint.serverStart
  simp only [String.toList_append, List.append_assoc]
  rewrite [← List.append_assoc (String.toList (String.join _))]
  refine (clear_of_clashesAll ?base _).trans ?_
  case base =>
    unfold routesOpening Blueprint.serverImports
    simp only [List.map_cons, List.map_nil, String.join, List.foldl_cons, List.foldl_nil,
      String.toList_append]
    repeat rewrite [String.toList_ofList]
    decide +kernel
  refine (clear_of_not_mem head hb _).trans ?_
  refine (clear_of_clashesAll ?content _).trans ?_
  case content =>
    unfold routesOpening
    rewrite [String.toList_ofList, String.toList_ofList]
    decide +kernel
  refine (clear_of_not_mem head hc _).trans ?_
  refine afterFirst?_append ['\n'] ?_ rest
  unfold routesOpening
  rewrite [String.toList_ofList, String.toList_ofList]
  decide +kernel

lemma route?_serverMiddle (title version : String) (rest : List Char) :
    route? ('\n' :: ((Blueprint.serverMiddle title version).toList ++ rest)) = none := by
  unfold Blueprint.serverMiddle
  simp only [String.toList_append, List.append_assoc]
  rewrite [← List.cons_append]
  have clash (cs : List Char) (h : clashes "\n  ".toList cs = true) (rest : List Char) :
      route? (cs ++ rest) = none := by
    rw [route?, after?, isPrefixOf?_of_clashes h]
    rfl
  refine clash _ ?_ _
  rewrite [String.toList_ofList, String.toList_ofList]
  decide +kernel

/-- The table of routes is closed, and the list of tools is opened. -/
lemma exists_after?_serverMiddle {title version : String} (ht : '\n' ∉ title.toList)
    (hv : '\n' ∉ version.toList) (rest : List Char) :
    ∃ cs, after? "\n\x7d;" ('\n' :: ((Blueprint.serverMiddle title version).toList ++ rest))
      = some cs ∧ afterFirst? toolsOpening cs = some ('\n' :: rest) := by
  have head : toolsOpening.head? = some '\n' := by
    unfold toolsOpening
    rewrite [String.toList_ofList]
    rfl
  unfold Blueprint.serverMiddle
  simp only [String.toList_append, List.append_assoc]
  rewrite [← List.cons_append]
  refine ⟨_, after?_append_of_isPrefixOf ?_ _, ?_⟩
  · rewrite [String.toList_ofList, String.toList_ofList]
    decide +kernel
  refine (clear_of_clashesAll ?name _).trans ?_
  case name =>
    unfold toolsOpening
    rewrite [String.toList_ofList, String.toList_ofList, String.toList_ofList]
    decide +kernel
  refine (clear_of_not_mem head ht _).trans ?_
  refine (clear_of_clashesAll ?version _).trans ?_
  case version =>
    unfold toolsOpening
    rewrite [String.toList_ofList, String.toList_ofList]
    decide +kernel
  refine (clear_of_not_mem head hv _).trans ?_
  refine afterFirst?_append ['\n'] ?_ rest
  unfold toolsOpening
  rewrite [String.toList_ofList, String.toList_ofList]
  decide +kernel

/-- The list of tools is closed. -/
lemma exists_after?_serverEnd (banner : String) :
    tool? ('\n' :: (Blueprint.serverEnd banner).toList) = none ∧
      ∃ cs, after? "\n    ]," ('\n' :: (Blueprint.serverEnd banner).toList) = some cs := by
  unfold Blueprint.serverEnd
  simp only [String.toList_append, List.append_assoc]
  rewrite [← List.cons_append]
  have clash (cs : List Char) (h : clashes "\n      \x7b\n        name: ".toList cs = true)
      (rest : List Char) : tool? (cs ++ rest) = none := by
    rw [tool?, after?, isPrefixOf?_of_clashes h]
    rfl
  refine ⟨clash _ ?_ _, _, after?_append_of_isPrefixOf ?_ _⟩
  · rewrite [String.toList_ofList, String.toList_ofList]
    decide +kernel
  · rewrite [String.toList_ofList, String.toList_ofList]
    decide +kernel

/-- The text of a server is read as its two tables. -/
theorem read?_serverText (b : Blueprint)
    (hr : ∀ t, Json.IsPlain (Blueprint.lastNamed b.tools t).route)
    (hs : ∀ t, Json.IsPlain (Blueprint.lastNamed b.tools t).inputSchema) :
    read? b.serverText = some (ofTools b.tools (Blueprint.lastNamed b.tools)) := by
  have line (s : String) : '\n' ∉ (Blueprint.json s).toList :=
    Json.newline_not_mem_writeString .script s
  let routeLines := Blueprint.commaLines (b.tools.map (Blueprint.routeLine b.tools))
  let toolLines := Blueprint.commaLines (b.tools.map (Blueprint.toolEntry b.tools))
  let middle := Blueprint.serverMiddle (Blueprint.json b.title) (Blueprint.json b.version)
  let ending := Blueprint.serverEnd (Blueprint.json (b.title ++ " MCP server running on stdio"))
  let offered := toolLines.toList ++ ending.toList
  have text : b.serverText.toList = (Blueprint.serverStart (Blueprint.json b.baseUrl)
      (Blueprint.json b.settings.constants.contentType)).toList
      ++ (routeLines.toList ++ (middle.toList ++ offered)) := by
    unfold Blueprint.serverText
    simp only [String.toList_append, List.append_assoc, routeLines, toolLines, middle, ending,
      offered]
  have opened := afterFirst?_serverStart (line b.baseUrl) (line b.settings.constants.contentType)
    (routeLines.toList ++ (middle.toList ++ offered))
  have routes := entries_commaLines (Blueprint.routeLine b.tools) _
    (fun t rest => route?_routeLine (hr t) rest) (route?_serverMiddle _ _ offered)
    (rfl : '\n' :: (routeLines.toList ++ (middle.toList ++ offered)) = _)
  obtain ⟨cs, hclosed, hopened⟩ :=
    exists_after?_serverMiddle (line b.title) (line b.version) offered
  obtain ⟨noTool, last, hlast⟩ :=
    exists_after?_serverEnd (Blueprint.json (b.title ++ " MCP server running on stdio"))
  have tools := entries_commaLines (Blueprint.toolEntry b.tools) _
    (fun t rest => tool?_toolEntry (hs t) rest) noTool (rfl : '\n' :: offered = _)
  rewrite [read?, text, opened]
  simp only [Option.bind_eq_bind, Option.bind_some, routes, hclosed, hopened, tools, hlast]
  rfl

end Offer

end ApiBridge
