import ApiBridge.Console.Session
import ApiBridge.Proofs.Console.Streams

/-!
# What a session prints

The data of a session come from the calls that print data alone. How quiet, verbose or colourful the
console is does not show in them, as long as it keeps no call from being made: a message that cannot
be drawn ends the session, and only a console with colours draws messages. On a quiet console the
messages are those that matter. Bridging the records of the library again and again leaves one
bridge, so that a record is printed once at most.
-/

namespace ApiBridge

open Printed

/-! ### Data alone -/

namespace Printed

@[simp] lemma messageText_nil : messageText [] = "" := rfl

@[simp] lemma messageText_append (ps qs : List Printed) :
    messageText (ps ++ qs) = messageText ps ++ messageText qs := by
  simp only [messageText, List.filterMap_append, String.join_append]

@[simp] lemma messageText_cons_data (text : String) (ps : List Printed) :
    messageText (.data text :: ps) = messageText ps := rfl

/-- Nothing but data. -/
def AllData (ps : List Printed) : Prop :=
  ∀ p ∈ ps, ∃ text, p = .data text

lemma allData_nil : AllData [] := by
  intro p hp
  cases hp

lemma AllData.cons_line {ps : List Printed} (h : AllData ps) (text : String) :
    AllData (Console.line text :: ps) := by
  intro p hp
  cases hp with
  | head => exact ⟨text ++ "\n", rfl⟩
  | tail _ hp => exact h p hp

lemma allData_map_line (texts : List String) : AllData (texts.map Console.line) := by
  induction texts with
  | nil => exact allData_nil
  | cons text texts ih => exact ih.cons_line text

lemma AllData.messageText {ps : List Printed} (h : AllData ps) : messageText ps = "" := by
  induction ps with
  | nil => rfl
  | cons p ps ih =>
    obtain ⟨text, rfl⟩ := h p List.mem_cons_self
    rw [messageText_cons_data]
    exact ih fun q hq ↦ h q (List.mem_cons_of_mem _ hq)

end Printed

namespace Console

lemma allData_printJson (v : Value) : AllData (printJson v).1 := by
  unfold printJson
  split
  · exact allData_nil
  · exact allData_nil.cons_line _

lemma allData_printRecord (c : Console) (v : Value) : AllData (c.printRecord v).1 := by
  unfold printRecord
  split
  · exact allData_map_line _
  · exact allData_printJson v

lemma allData_printSourceValue (v : Value) : AllData (printSourceValue v).1 := by
  unfold printSourceValue
  split
  · exact allData_nil.cons_line _
  · exact allData_nil
  · exact allData_nil

lemma allData_printRows (rows : List Value) : AllData (printRows rows).1 := by
  induction rows with
  | nil => exact allData_nil
  | cons row rows ih =>
    unfold printRows
    split
    · exact allData_nil
    · exact ih.cons_line _

lemma allData_printTable (c : Console) (headers rows : Value) :
    AllData (c.printTable headers rows).1 := by
  unfold printTable
  split
  · split
    · exact allData_printJson _
    · exact allData_nil
  · split
    · exact allData_nil
    · split
      · exact allData_nil.cons_line _
      · exact (allData_printRows _).cons_line _

lemma printRecord_congr {c c' : Console} (hformat : c.format = c'.format) (v : Value) :
    c.printRecord v = c'.printRecord v := by
  simp only [printRecord, hformat]

lemma printTable_congr {c c' : Console} (hformat : c.format = c'.format) (headers rows : Value) :
    c.printTable headers rows = c'.printTable headers rows := by
  simp only [printTable, hformat]

end Console

/-! ### Bridges -/

lemma RecordLevel.reaches_of_le {level least least' : RecordLevel} (h : level.reaches least)
    (hle : least'.number ≤ least.number) : level.reaches least' := by
  simp only [reaches, decide_eq_true_eq] at h ⊢
  exact Int.le_trans hle h

namespace Logger

/-- What is known of a logger from the calls so far: it is as at first while nothing is bridged, and
has the level and the one bridge of the last time afterwards. -/
def Follows (l : Logger) : Option Bool → Prop
  | none => l = fresh
  | some details => l.level = .bridged details ∧ l.handlers.count .bridge = 1

lemma count_bridge (l : Logger) (details : Bool) :
    (l.bridge details).handlers.count .bridge = 1 := by
  have hnone : LogHandler.bridge ∉ l.handlers.filter (· ≠ .bridge) := by
    intro hmem
    simpa using (List.mem_filter.mp hmem).2
  simp only [bridge, List.count_append, List.count_eq_zero_of_not_mem hnone, List.count_singleton,
    beq_self_eq_true, if_true, Nat.zero_add]

end Logger

/-- Whether records are bridged after a call, and if so, whether details are. -/
def SessionCall.bridging (bridged : Option Bool) : SessionCall → Option Bool
  | .bridge details => some details
  | _ => bridged

namespace Logger

lemma Follows.after {l : Logger} {bridged : Option Bool} (h : l.Follows bridged)
    (call : SessionCall) : (l.after call).Follows (call.bridging bridged) := by
  cases call with
  | bridge details => exact ⟨rfl, count_bridge l details⟩
  | _ => exact h

lemma Follows.foldl_after {l : Logger} {bridged : Option Bool} (h : l.Follows bridged)
    (calls : List SessionCall) :
    (calls.foldl Logger.after l).Follows (calls.foldl SessionCall.bridging bridged) := by
  induction calls generalizing l bridged with
  | nil => exact h
  | cons call calls ih => exact ih (h.after call)

/-- While nothing is bridged, the logger lets through what matters. -/
lemma lets_fresh (level : RecordLevel) : fresh.lets level = level.matters := by
  have hleast : fresh.least = .warning := rfl
  simp only [lets, hleast, RecordLevel.matters, RecordLevel.reaches, RecordLevel.unset,
    RecordLevel.warning]
  grind

/-- A bridge lets through what is bridged. -/
lemma lets_of_level {l : Logger} {details : Bool} (h : l.level = .bridged details)
    (level : RecordLevel) : l.lets level = level.reaches (.bridged details) := by
  cases details <;>
    simp only [lets, least, h, RecordLevel.bridged, RecordLevel.reaches, RecordLevel.unset,
      RecordLevel.debug, RecordLevel.info] <;>
    grind

end Logger

/-! ### Messages -/

namespace ColorConsole

variable (c : ColorConsole) (l : Logger)

lemma length_emit_le (plain marked : String) : (c.emit plain marked).1.length ≤ 1 := by
  unfold emit
  split
  · exact Nat.le_refl 1
  · split
    · exact Nat.le_refl 1
    · exact Nat.zero_le 1

lemma length_say_le (kind : Remark) (text : String) : (c.say kind text).1.length ≤ 1 := by
  unfold say
  split
  · exact c.length_emit_le _ _
  · exact Nat.zero_le 1

lemma dataText_handOver (kind : Remark) (text : String) (handlers : List LogHandler) :
    dataText (c.handOver kind text handlers).1 = "" := by
  induction handlers with
  | nil => rfl
  | cons handler handlers ih =>
    cases handler with
    | elsewhere => exact ih
    | bridge =>
      have hsay := c.dataText_say kind text
      rw [handOver]
      split
      · next h =>
        rw [h] at hsay
        exact hsay
      · next h =>
        rw [h] at hsay
        rw [dataText_append, hsay, ih, String.append_empty]

lemma handOver_of_count_zero (kind : Remark) (text : String) {handlers : List LogHandler}
    (h : handlers.count .bridge = 0) : c.handOver kind text handlers = ([], none) := by
  induction handlers with
  | nil => rfl
  | cons handler handlers ih =>
    cases handler with
    | bridge => simp at h
    | elsewhere => exact ih (by simpa using h)

/-- A single bridge says a message once, whatever stands around it. -/
lemma handOver_of_count_one (kind : Remark) (text : String) {handlers : List LogHandler}
    (h : handlers.count .bridge = 1) : c.handOver kind text handlers = c.say kind text := by
  induction handlers with
  | nil => simp at h
  | cons handler handlers ih =>
    cases handler with
    | elsewhere => exact ih (by simpa using h)
    | bridge =>
      have hrest : handlers.count .bridge = 0 := by simpa using h
      rw [handOver]
      split
      · next hsay => rw [hsay]
      · next hsay => simp only [hsay, c.handOver_of_count_zero kind text hrest, List.append_nil]

lemma dataText_log (r : LogRecord) : dataText (c.log l r).1 = "" := by
  have hbare : ∀ text, dataText (r.printBare text) = "" := by
    intro text
    unfold LogRecord.printBare
    split
    · exact Console.dataText_messageLine text
    · rfl
  unfold log
  split
  · rfl
  · split
    · split
      · split
        · exact hbare _
        · exact c.dataText_handOver _ _ _
      · rfl
    · exact hbare _

/-- What becomes of a record depends on the last time that records were bridged; the handlers may be
forgotten. -/
lemma log_of_follows {l : Logger} {bridged : Option Bool} (h : l.Follows bridged) {r : LogRecord}
    (hlibrary : r.isLibrary) {text : String} (htext : r.text? = some text) :
    c.log l r =
      match bridged with
      | none => (r.printBare text, none)
      | some details =>
        if r.level.reaches (.bridged details) then c.say (.ofLevel r.level.toLevel) text
        else ([], none) := by
  cases bridged with
  | none =>
    obtain rfl : l = .fresh := h
    have hhandlers : Logger.fresh.handlers.isEmpty = true := rfl
    by_cases hmatters : r.level.matters
    · simp only [log, htext, hlibrary, Logger.lets_fresh, hmatters, hhandlers, if_true]
    · simp [log, htext, hlibrary, Logger.lets_fresh, hmatters, LogRecord.printBare]
  | some details =>
    obtain ⟨hlevel, hcount⟩ := h
    have hhandlers : l.handlers.isEmpty = false := by
      cases hl : l.handlers with
      | nil => simp [hl] at hcount
      | cons => rfl
    simp only [log, htext, hlibrary, Logger.lets_of_level hlevel, hhandlers, if_true,
      Bool.false_eq_true, if_false, c.handOver_of_count_one _ _ hcount]

lemma length_log_le {l : Logger} {bridged : Option Bool} (h : l.Follows bridged) {r : LogRecord}
    (hlibrary : r.isLibrary) : (c.log l r).1.length ≤ 1 := by
  cases htext : r.text? with
  | none => simp [log, htext]
  | some text =>
    rw [c.log_of_follows h hlibrary htext]
    cases bridged with
    | none =>
      simp only [LogRecord.printBare]
      split
      · exact Nat.le_refl 1
      · exact Nat.zero_le 1
    | some details =>
      simp only
      split
      · exact c.length_say_le _ _
      · exact Nat.zero_le 1

/-! ### Calls -/

lemma allData_perform {call : SessionCall} (h : call.isData) : AllData (c.perform l call).1 := by
  cases call with
  | response v => exact Console.allData_printRecord _ v
  | json v => exact Console.allData_printJson v
  | data text => exact allData_nil.cons_line text
  | source v => exact Console.allData_printSourceValue v
  | table headers rows => exact Console.allData_printTable _ headers rows
  | remark | bridge | record => cases h

lemma dataText_perform {call : SessionCall} (h : ¬call.isData) :
    dataText (c.perform l call).1 = "" := by
  cases call with
  | remark kind text => exact c.dataText_say kind text
  | bridge => rfl
  | record r => exact c.dataText_log l r
  | response | json | data | source | table => exact absurd rfl h

lemma perform_congr {c c' : ColorConsole} (hformat : c.format = c'.format) (l l' : Logger)
    {call : SessionCall} (h : call.isData) : c.perform l call = c'.perform l' call := by
  cases call with
  | response v => exact congrArg printed (Console.printRecord_congr hformat v)
  | json | data | source => rfl
  | table headers rows => exact congrArg printed (Console.printTable_congr hformat headers rows)
  | remark | bridge | record => cases h

/-! ### The calls that are made -/

/-- The calls of a session that are made: all up to the first that fails. -/
def made (c : ColorConsole) (l : Logger) : List SessionCall → List SessionCall
  | [] => []
  | call :: calls =>
    call :: if (c.perform l call).2.isSome then [] else c.made (l.after call) calls

/-- A session ends at a message that cannot be drawn. -/
def IsCutShort (c : ColorConsole) (l : Logger) (calls : List SessionCall) : Prop :=
  ∃ reason, (c.session l calls).2 = some (.notDrawn reason)

variable {c l}

lemma session_of_fault {call : SessionCall} {ps : List Printed} {fault : CallFault}
    (h : c.perform l call = (ps, some fault)) (calls : List SessionCall) :
    c.session l (call :: calls) = (ps, some fault) ∧ c.made l (call :: calls) = [call] := by
  simp [session, made, h]

lemma session_of_none {call : SessionCall} {ps : List Printed} (h : c.perform l call = (ps, none))
    (calls : List SessionCall) :
    c.session l (call :: calls) =
        (ps ++ (c.session (l.after call) calls).1, (c.session (l.after call) calls).2) ∧
      c.made l (call :: calls) = call :: c.made (l.after call) calls := by
  simp [session, made, h]

/-- A session takes its calls one by one: the first fails, or the others are made after it. -/
lemma perform_cases (c : ColorConsole) (l : Logger) (call : SessionCall) :
    (∃ ps fault, c.perform l call = (ps, some fault)) ∨ ∃ ps, c.perform l call = (ps, none) := by
  obtain ⟨ps, fault⟩ := c.perform l call
  cases fault with
  | some fault => exact .inl ⟨ps, fault, rfl⟩
  | none => exact .inr ⟨ps, rfl⟩

lemma made_isPrefix (c : ColorConsole) (l : Logger) (calls : List SessionCall) :
    c.made l calls <+: calls := by
  induction calls generalizing l with
  | nil => exact List.prefix_rfl
  | cons call calls ih =>
    rcases c.perform_cases l call with ⟨ps, fault, h⟩ | ⟨ps, h⟩
    · rw [(session_of_fault h calls).2]
      exact ⟨calls, rfl⟩
    · rw [(session_of_none h calls).2, List.prefix_cons_inj]
      exact ih _

/-- A session that nothing stops makes all of its calls. -/
lemma made_of_session {calls : List SessionCall} (h : (c.session l calls).2 = none) :
    c.made l calls = calls := by
  induction calls generalizing l with
  | nil => rfl
  | cons call calls ih =>
    rcases c.perform_cases l call with ⟨ps, fault, hc⟩ | ⟨ps, hc⟩
    · rw [(session_of_fault hc calls).1] at h
      cases h
    · rw [(session_of_none hc calls).1] at h
      rw [(session_of_none hc calls).2, ih h]

/-- What stops a call that prints data is no message. -/
lemma ne_notDrawn_of_isData {call : SessionCall} (hd : call.isData) (reason : String) :
    (c.perform l call).2 ≠ some (.notDrawn reason) := by
  cases call with
  | data => simp [perform]
  | response | json | source | table => simp [perform, printed]
  | remark | bridge | record => cases hd

/-- What stops a call that prints no data is a message. -/
lemma exists_notDrawn {call : SessionCall} (hd : ¬call.isData) {fault : CallFault}
    (h : (c.perform l call).2 = some fault) : ∃ reason, fault = .notDrawn reason := by
  cases call with
  | remark | record =>
    obtain ⟨reason, -, rfl⟩ := Option.map_eq_some_iff.1 h
    exact ⟨reason, rfl⟩
  | bridge => cases h
  | response | json | data | source | table => exact absurd rfl hd

variable (c l)

/-- The data of a session are those of the calls that print data among those that are made, on any
console of the format and with any logger. -/
lemma dataText_session {c c' : ColorConsole} (hformat : c.format = c'.format) (l l' : Logger)
    (calls : List SessionCall) : dataText (c.session l calls).1 =
      dataText (c'.session l' ((c.made l calls).filter (·.isData))).1 := by
  induction calls generalizing l l' with
  | nil => rfl
  | cons call calls ih =>
    by_cases hdata : call.isData
    · have same := perform_congr hformat l l' hdata
      rcases c.perform_cases l call with ⟨ps, fault, h⟩ | ⟨ps, h⟩
      · rw [(session_of_fault h calls).1, (session_of_fault h calls).2,
          List.filter_cons_of_pos hdata, (session_of_fault (same.symm.trans h) _).1]
      · rw [(session_of_none h calls).1, (session_of_none h calls).2,
          List.filter_cons_of_pos hdata, (session_of_none (same.symm.trans h) _).1]
        simp only [dataText_append]
        rw [ih]
    · have silent := c.dataText_perform l hdata
      rcases c.perform_cases l call with ⟨ps, fault, h⟩ | ⟨ps, h⟩
      · rw [h] at silent
        rw [(session_of_fault h calls).1, (session_of_fault h calls).2,
          List.filter_cons_of_neg hdata, silent]
        rfl
      · rw [h] at silent
        rw [(session_of_none h calls).1, (session_of_none h calls).2,
          List.filter_cons_of_neg hdata, dataText_append, silent, String.empty_append, ih]

/-- Where another console makes more calls, its data are those of the first console and after them
those of the further calls. -/
lemma dataText_session_of_made_append {c c' : ColorConsole} (hformat : c.format = c'.format)
    {l l' : Logger} {calls further : List SessionCall}
    (h : c'.made l' calls = c.made l calls ++ further) :
    dataText (c'.session l' calls).1 = dataText (c.session l calls).1 ++
      dataText (c.session .fresh (further.filter (·.isData))).1 := by
  induction calls generalizing l l' with
  | nil =>
    obtain rfl : further = [] := by simpa [made] using h
    rfl
  | cons call calls ih =>
    -- A call that fails on the first console only says something, and prints no data.
    by_cases hdata : call.isData
    · have same := perform_congr hformat l l' hdata
      rcases c.perform_cases l call with ⟨ps, fault, hc⟩ | ⟨ps, hc⟩
      · have hc' := same.symm.trans hc
        rw [(session_of_fault hc calls).2, (session_of_fault hc' calls).2] at h
        obtain rfl : further = [] := by simpa using h
        rw [(session_of_fault hc calls).1, (session_of_fault hc' calls).1]
        simp [session]
      · have hc' := same.symm.trans hc
        rw [(session_of_none hc calls).2, (session_of_none hc' calls).2, List.cons_append,
          List.cons.injEq] at h
        rw [(session_of_none hc calls).1, (session_of_none hc' calls).1]
        simp only [dataText_append]
        rw [ih h.2, String.append_assoc]
    · have silent := c.dataText_perform l hdata
      rcases c.perform_cases l call with ⟨ps, fault, hc⟩ | ⟨ps, hc⟩
      · rw [hc] at silent
        rw [(session_of_fault hc calls).2] at h
        have rest := dataText_session hformat.symm l' .fresh (call :: calls)
        rw [h, List.singleton_append, List.filter_cons_of_neg hdata] at rest
        rw [rest, (session_of_fault hc calls).1, silent, String.empty_append]
      · have silent' := c'.dataText_perform l' hdata
        rw [hc] at silent
        rw [(session_of_none hc calls).2] at h
        rw [(session_of_none hc calls).1, dataText_append, silent, String.empty_append]
        rcases c'.perform_cases l' call with ⟨qs, fault, hc'⟩ | ⟨qs, hc'⟩
        · rw [hc'] at silent'
          rw [(session_of_fault hc' calls).2, List.cons_append, List.cons.injEq] at h
          obtain ⟨hmade, rfl⟩ := List.append_eq_nil_iff.1 h.2.symm
          have nothing := dataText_session (c := c) rfl (l.after call) .fresh calls
          rw [hmade] at nothing
          rw [(session_of_fault hc' calls).1, silent', nothing]
          simp [session]
        · rw [hc'] at silent'
          rw [(session_of_none hc' calls).2, List.cons_append, List.cons.injEq] at h
          rw [(session_of_none hc' calls).1, dataText_append, silent', String.empty_append, ih h.2]

/-- Consoles of one format whose sessions are not cut short make the same calls. -/
lemma made_congr {c c' : ColorConsole} (hformat : c.format = c'.format) {l l' : Logger}
    {calls : List SessionCall} (h : ¬c.IsCutShort l calls) (h' : ¬c'.IsCutShort l' calls) :
    c.made l calls = c'.made l' calls := by
  induction calls generalizing l l' with
  | nil => rfl
  | cons call calls ih =>
    rcases c.perform_cases l call with ⟨ps, fault, hc⟩ | ⟨ps, hc⟩
    · by_cases hdata : call.isData
      · have hc' := (perform_congr hformat l l' hdata).symm.trans hc
        rw [(session_of_fault hc calls).2, (session_of_fault hc' calls).2]
      · obtain ⟨reason, rfl⟩ := exists_notDrawn hdata (congrArg Prod.snd hc)
        exact absurd ⟨reason, by rw [(session_of_fault hc calls).1]⟩ h
    · rcases c'.perform_cases l' call with ⟨qs, fault, hc'⟩ | ⟨qs, hc'⟩
      · by_cases hdata : call.isData
        · rw [perform_congr hformat l l' hdata, hc'] at hc
          cases hc
        · obtain ⟨reason, rfl⟩ := exists_notDrawn hdata (congrArg Prod.snd hc')
          exact absurd ⟨reason, by rw [(session_of_fault hc' calls).1]⟩ h'
      · rw [(session_of_none hc calls).2, (session_of_none hc' calls).2]
        refine congrArg _ (ih ?_ ?_)
        · simpa only [IsCutShort, (session_of_none hc calls).1] using h
        · simpa only [IsCutShort, (session_of_none hc' calls).1] using h'

lemma dataText_session_congr {c c' : ColorConsole} (hformat : c.format = c'.format) {l l' : Logger}
    {calls : List SessionCall} (h : ¬c.IsCutShort l calls) (h' : ¬c'.IsCutShort l' calls) :
    dataText (c'.session l' calls).1 = dataText (c.session l calls).1 := by
  have same : c'.made l' calls = c.made l calls ++ [] := by
    rw [List.append_nil, made_congr hformat h h']
  rw [dataText_session_of_made_append hformat same]
  exact String.append_empty

/-! ### Without colours -/

lemma say_of_noColor {c : ColorConsole} (hcolor : c.noColor) (kind : Remark) (text : String) :
    (c.say kind text).2 = none := by
  rw [say, emit, if_pos hcolor]
  split
  · rfl
  · rfl

lemma handOver_of_noColor {c : ColorConsole} (hcolor : c.noColor) (kind : Remark) (text : String)
    (handlers : List LogHandler) : (c.handOver kind text handlers).2 = none := by
  induction handlers with
  | nil => rfl
  | cons handler handlers ih =>
    cases handler with
    | elsewhere => exact ih
    | bridge =>
      have said := say_of_noColor hcolor kind text
      rw [handOver]
      split
      · next h =>
        rw [h] at said
        cases said
      · exact ih

lemma log_of_noColor {c : ColorConsole} (hcolor : c.noColor) (l : Logger) (r : LogRecord) :
    (c.log l r).2 = none := by
  unfold log
  split
  · rfl
  · split
    · split
      · split
        · rfl
        · exact handOver_of_noColor hcolor _ _ _
      · rfl
    · rfl

/-- Without colours no session is cut short. -/
lemma not_isCutShort {c : ColorConsole} (hcolor : c.noColor) (l : Logger)
    (calls : List SessionCall) : ¬c.IsCutShort l calls := by
  induction calls generalizing l with
  | nil =>
    rintro ⟨reason, h⟩
    cases h
  | cons call calls ih =>
    rintro ⟨reason, h⟩
    rcases c.perform_cases l call with ⟨ps, fault, hc⟩ | ⟨ps, hc⟩
    · rw [(session_of_fault hc calls).1] at h
      have hfault : (c.perform l call).2 = some (.notDrawn reason) := by rw [hc, ← h]
      cases call with
      | remark kind text => simp [perform, spoken, say_of_noColor hcolor] at hfault
      | record r => simp [perform, spoken, log_of_noColor hcolor] at hfault
      | bridge => cases hfault
      | response | json | data | source | table => exact ne_notDrawn_of_isData rfl reason hfault
    · rw [(session_of_none hc calls).1] at h
      exact ih _ ⟨reason, h⟩

end ColorConsole

/-! ### A quiet console -/

/-- Is a message of a kind a warning, an error, or a detail on a verbose console? -/
def Remark.isEssential (verbose : Bool) : Remark → Bool
  | warning | error => true
  | detail => verbose
  | info | success | suggestion => false

/-- The line for a record of the library that is a warning or an error, or a detail that is asked
for both of the bridge and of the console. Without a bridge the line is bare. -/
def LogRecord.essential? (verbose : Bool) (bridged : Option Bool) (r : LogRecord) (text : String) :
    Option String :=
  match bridged with
  | none => if r.level.reaches .warning then some text else none
  | some details =>
    if r.level.reaches .error then some ("Error: " ++ text)
    else if r.level.reaches .warning then some ("Warning: " ++ text)
    else if r.level.reaches .info then none
    else if verbose && details && r.level.reaches .debug then some ("[debug] " ++ text)
    else none

namespace SessionCall

/-- The line for a call that says something essential. -/
def essential? (verbose : Bool) (bridged : Option Bool) : SessionCall → Option String
  | remark kind text => if kind.isEssential verbose then some (kind.plain text) else none
  | record r => r.text?.bind (r.essential? verbose bridged)
  | _ => none

/-- The lines for the calls that say something essential, in order. -/
def essentialLines (verbose : Bool) : Option Bool → List SessionCall → List String
  | _, [] => []
  | bridged, call :: calls =>
    (call.essential? verbose bridged).toList ++
      essentialLines verbose (call.bridging bridged) calls

/-- A record that is logged comes from the library, and its arguments fit. -/
def Fits : SessionCall → Prop
  | record r => r.isLibrary ∧ r.text?.isSome
  | _ => True

end SessionCall

namespace Remark

lemma isShown_of_quiet {c : Console} (h : c.quiet) (kind : Remark) :
    kind.isShown c = kind.isEssential c.verbose := by
  cases kind <;> simp [isShown, isEssential, h]

end Remark

namespace ColorConsole

variable (c : ColorConsole)

/-- Lines as one text. -/
def linesText (lines : List String) : String :=
  String.join (lines.map (· ++ "\n"))

lemma linesText_append (lines lines' : List String) :
    linesText (lines ++ lines') = linesText lines ++ linesText lines' := by
  simp only [linesText, List.map_append, String.join_append]

lemma messageText_messageLine (text : String) :
    messageText (Console.messageLine text) = linesText [text] := rfl

/-- A quiet console without colours says what is essential, and only that. -/
lemma messageText_say (hquiet : c.quiet) (hcolor : c.noColor) (kind : Remark) (text : String) :
    messageText (c.say kind text).1 =
      linesText (if kind.isEssential c.verbose then some (kind.plain text) else none).toList := by
  rw [say, Remark.isShown_of_quiet hquiet]
  split
  · simp only [emit, hcolor, if_true, messageText_messageLine, Option.toList_some]
  · rfl

lemma messageText_printBare (r : LogRecord) (text : String) :
    messageText (r.printBare text) =
      linesText (if r.level.matters then some text else none).toList := by
  rw [LogRecord.printBare]
  split
  · exact messageText_messageLine text
  · rfl

lemma messageText_log (hquiet : c.quiet) (hcolor : c.noColor) {l : Logger} {bridged : Option Bool}
    (h : l.Follows bridged) {r : LogRecord} (hlibrary : r.isLibrary) {text : String}
    (htext : r.text? = some text) :
    messageText (c.log l r).1 = linesText (r.essential? c.verbose bridged text).toList := by
  rw [c.log_of_follows h hlibrary htext]
  cases bridged with
  | none =>
    rw [messageText_printBare]
    rfl
  | some details =>
    have hsay := fun kind ↦ c.messageText_say hquiet hcolor kind text
    simp only [LogRecord.essential?, RecordLevel.toLevel]
    -- levels are tried from the greatest down, as the kind of the message is
    by_cases hinfo : r.level.reaches .info
    · have hbridged : r.level.reaches (.bridged details) := by
        apply RecordLevel.reaches_of_le hinfo
        cases details <;> decide
      by_cases hwarning : r.level.reaches .warning
      · by_cases herror : r.level.reaches .error
        · simp [herror, hbridged, Remark.ofLevel, hsay, Remark.isEssential, Remark.plain]
        · simp [herror, hwarning, hbridged, Remark.ofLevel, hsay, Remark.isEssential, Remark.plain]
      · have herror : ¬r.level.reaches .error := fun h ↦
          hwarning (RecordLevel.reaches_of_le h (by decide))
        simp [herror, hwarning, hinfo, hbridged, Remark.ofLevel, hsay, Remark.isEssential]
    · have hwarning : ¬r.level.reaches .warning := fun h ↦
        hinfo (RecordLevel.reaches_of_le h (by decide))
      have herror : ¬r.level.reaches .error := fun h ↦
        hinfo (RecordLevel.reaches_of_le h (by decide))
      cases details with
      | false => simp [herror, hwarning, hinfo, RecordLevel.bridged, linesText]
      | true =>
        by_cases hdebug : r.level.reaches .debug
        · cases hverbose : c.verbose <;>
            simp [herror, hwarning, hinfo, hdebug, hverbose, RecordLevel.bridged, Remark.ofLevel,
              hsay, Remark.isEssential, Remark.plain]
        · simp [herror, hwarning, hinfo, hdebug, RecordLevel.bridged, linesText]

lemma messageText_perform (hquiet : c.quiet) (hcolor : c.noColor) {l : Logger}
    {bridged : Option Bool} (h : l.Follows bridged) {call : SessionCall} (hfits : call.Fits) :
    messageText (c.perform l call).1 =
      linesText (call.essential? c.verbose bridged).toList := by
  cases call with
  | remark kind text => exact c.messageText_say hquiet hcolor kind text
  | bridge details => rfl
  | record r =>
    obtain ⟨hlibrary, hfit⟩ := hfits
    obtain ⟨text, htext⟩ := Option.isSome_iff_exists.mp hfit
    simp only [SessionCall.essential?, htext, Option.bind_some]
    exact c.messageText_log hquiet hcolor h hlibrary htext
  | response | json | data | source | table => exact (c.allData_perform l rfl).messageText

/-- What a quiet console without colours says in a session: the warnings, the errors and, if it is
verbose, the details, in order. -/
lemma messageText_session (hquiet : c.quiet) (hcolor : c.noColor) {l : Logger}
    {bridged : Option Bool} (h : l.Follows bridged) {calls : List SessionCall}
    (hfits : ∀ call ∈ calls, call.Fits) :
    messageText (c.session l calls).1 =
      linesText (SessionCall.essentialLines c.verbose bridged (c.made l calls)) := by
  induction calls generalizing l bridged with
  | nil => rfl
  | cons call calls ih =>
    have hcall := c.messageText_perform hquiet hcolor h (hfits call List.mem_cons_self)
    rcases c.perform_cases l call with ⟨ps, fault, hc⟩ | ⟨ps, hc⟩
    · rw [hc] at hcall
      rw [(session_of_fault hc calls).1, (session_of_fault hc calls).2, SessionCall.essentialLines,
        SessionCall.essentialLines, List.append_nil, hcall]
    · rw [hc] at hcall
      rw [(session_of_none hc calls).1, (session_of_none hc calls).2, messageText_append, hcall,
        SessionCall.essentialLines, linesText_append,
        ih (h.after call) fun other hother ↦ hfits other (List.mem_cons_of_mem _ hother)]

/-- Two consoles have one format, and it is none that is drawn. -/
def Alike (c c' : ColorConsole) : Prop :=
  c.format = c'.format ∧ c.format ≠ .rich

/-- The data of a session come from the calls that print data among those that are made: all calls,
if none fails. Consoles of one format print the same data, however quiet and verbose they are, unless
a message that cannot be drawn cuts one of the sessions short, which happens on no console without
colours. Where it does, the console that makes more calls prints the data of the other one and after
them those of the further calls. A quiet console without colours says the warnings, the errors and,
if it is verbose, the details of the calls that are made, in order. A record is printed once at most,
however often records were bridged before. -/
theorem session_streams (c c' : ColorConsole) (alike : c.Alike c') {calls : List SessionCall}
    (hfits : ∀ call ∈ calls, call.Fits) :
    (c.made .fresh calls <+: calls ∧
      ((c.session .fresh calls).2 = none → c.made .fresh calls = calls) ∧
      dataText (c.session .fresh calls).1 =
        dataText (c.session .fresh ((c.made .fresh calls).filter (·.isData))).1) ∧
      ((¬c.IsCutShort .fresh calls → ¬c'.IsCutShort .fresh calls →
          dataText (c.session .fresh calls).1 = dataText (c'.session .fresh calls).1) ∧
        ((c.noColor → ¬c.IsCutShort .fresh calls) ∧
        ∀ further, c'.made .fresh calls = c.made .fresh calls ++ further →
          dataText (c'.session .fresh calls).1 = dataText (c.session .fresh calls).1 ++
            dataText (c.session .fresh (further.filter (·.isData))).1)) ∧
      (c.quiet → c.noColor →
        messageText (c.session .fresh calls).1 = String.join
          ((SessionCall.essentialLines c.verbose none (c.made .fresh calls)).map (· ++ "\n"))) ∧
      ∀ earlier r later, calls = earlier ++ .record r :: later →
        (c.perform (earlier.foldl Logger.after .fresh) (.record r)).1.length ≤ 1 := by
  have hfresh : Logger.fresh.Follows none := rfl
  refine ⟨⟨c.made_isPrefix _ _, made_of_session, dataText_session rfl _ _ calls⟩,
    ⟨fun h h' ↦ (dataText_session_congr alike.1 h h').symm, fun h ↦ not_isCutShort h _ _,
      fun _ ↦ dataText_session_of_made_append alike.1⟩, ?_, ?_⟩
  · intro hquiet hcolor
    exact c.messageText_session hquiet hcolor hfresh hfits
  · rintro earlier r later rfl
    have hr : SessionCall.Fits (.record r) := hfits _ (by simp)
    exact c.length_log_le (hfresh.foldl_after earlier) hr.1

/-- A quiet console without colours and a talkative one with colours. In the first session there are
two bridges, a record that matters and one that does not. In the second one the talkative console
meets a closing mark that closes nothing, and the data after it are lost. -/
theorem session_streams_twoSessions :
    let quiet : ColorConsole := ⟨⟨.plain, true, false⟩, true, .monochrome⟩
    let talkative : ColorConsole := ⟨⟨.plain, false, true⟩, false, .monochrome⟩
    let bridges : List SessionCall := [.bridge true, .data "a", .remark .info "b", .bridge false,
      .record ⟨"lightning_mcp.parser", .warning, "deep %s", [.text "c"]⟩,
      .record ⟨"lightning_mcp", .info, "d", []⟩, .remark .error "e"]
    let marks : List SessionCall := [.data "a", .remark .warning "[/x]", .data "b"]
    (talkative.Alike quiet ∧ ∀ call ∈ bridges ++ marks, call.Fits) ∧
      dataText (quiet.session .fresh bridges).1 = dataText (talkative.session .fresh bridges).1 ∧
      messageText (quiet.session .fresh bridges).1 = "Warning: deep c\nError: e\n" ∧
      dataText (quiet.session .fresh marks).1 =
        dataText (talkative.session .fresh marks).1 ++ "b\n" := by
  intro quiet talkative bridges marks
  have hbridges : ∀ call ∈ bridges, call.Fits := by
    simp only [bridges, List.forall_mem_cons, SessionCall.Fits, List.not_mem_nil, false_imp_iff,
      implies_true, true_and, and_true]
    decide +kernel
  have hmarks : ∀ call ∈ marks, call.Fits := by
    simp [marks, SessionCall.Fits]
  obtain ⟨-, ⟨hdata, hcut, -⟩, hmessages, -⟩ :=
    session_streams quiet talkative ⟨rfl, by decide⟩ hbridges
  obtain ⟨-, ⟨-, -, hfurther⟩, -⟩ := session_streams talkative quiet ⟨rfl, by decide⟩ hmarks
  have htalkative : ¬talkative.IsCutShort .fresh bridges := by
    rintro ⟨reason, h⟩
    have stopped : (talkative.session .fresh bridges).2 = none := by decide +kernel
    rw [stopped] at h
    cases h
  refine ⟨⟨⟨rfl, by decide⟩, List.forall_mem_append.2 ⟨hbridges, hmarks⟩⟩,
    hdata (hcut rfl) htalkative, ?_, ?_⟩
  · rw [hmessages rfl rfl]
    decide +kernel
  · rw [hfurther [.data "b"] (by rfl)]
    rfl

end ColorConsole

end ApiBridge
