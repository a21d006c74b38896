import Delegation.Proofs.Asking
import Delegation.Proofs.Chronicle
import Delegation.Proofs.Replies

/-!
# Polls that overlap

Several polls can be under way at once. Each goes on by its own questions and answers, and all of
them ask one host; in which order they do so is open. `Overlap` is such a run: at every step some
poll asks its next question. A poll decides by the record that it found when it started, which may
be stale when it writes, and the last write wins (`Overlap.last_write_wins`): `Overlap.step_law`
says what one step does to a record, and `Overlap.run_law` what a record keeps over a whole run.
-/

namespace Delegation

open Remote (WaitOutcome waitCall historyCall latestReply?)

open Procedure (Asks asks_map)

/-! ## Polls under way -/

/-- A record of the ledger as it was at some time, not over then. -/
structure Snapshot where
  record : RunRecord
  named : Name.parse? record.runId.text = some record.runId
  unfinished : record.status.isTerminal = false

/-- A status query, or the first wait for a run by the record that was entered for it. -/
inductive Watch where
  | query (id : String)
  | wait (s : Snapshot) (windowMs : UInt64)

namespace Watch

def procedure (t : Tracker) : Watch → Procedure (Except Failure (Option RunRecord))
  | .query id => t.reconcile id
  | .wait s windowMs => t.pollOnce s.record windowMs true >>= fun polled => pure (polled.map some)

/-- The record that a poll goes by: a query looks it up at its start. -/
def snapshot? (log : List Exchange) : Watch → Option RunRecord
  | .query _ =>
    log.findSome? fun e =>
      match e with
      | ⟨.find _, found⟩ => found
      | _ => none
  | .wait s _ => some s.record

/-- The output that a poll has to offer: the one in its snapshot, or else the reply that it read. -/
def offer? (log : List Exchange) (w : Watch) : Option String :=
  ((w.snapshot? log).bind (·.usableOutput?)).or
    ((log.findSome? Exchange.historyAnswer?).bind latestReply?)

/-- What a write makes of a record, whatever the record says by then: the status is that of the
answer to the poll's own wait, and if that says that the run is over, the output is the one that
the poll offers, if any. -/
def Rewrites (w : Watch) (log : List Exchange) (id : RunId) (r r' : RunRecord) : Prop :=
  ∃ raw, log.filterMap (Exchange.waitAnswer? id) = [raw] ∧
    r' = Tracker.polled r (.ofAnswer true raw)
      (if (WaitOutcome.ofAnswer true raw).status = .running then none else w.offer? log)

/-- What a poll offers is not blank. -/
theorem offer?_not_blank {w : Watch} {log : List Exchange} {text : String}
    (offered : w.offer? log = some text) : Text.trim text ≠ "" := by
  rcases Option.or_eq_some_iff.1 offered with prior | ⟨-, read⟩
  · obtain ⟨r, -, hr⟩ := Option.bind_eq_some_iff.1 prior
    exact of_decide_eq_true (Option.filter_eq_some_iff.1 hr).2
  · obtain ⟨raw, -, hr⟩ := Option.bind_eq_some_iff.1 read
    exact Remote.latestReply?_not_blank hr

namespace Rewrites

variable {w : Watch} {log : List Exchange} {id : RunId} {r r' : RunRecord}

theorem output (rewrites : w.Rewrites log id r r') :
    r'.output = r.output ∨ r'.status ≠ .running ∧ r'.output = w.offer? log := by
  obtain ⟨raw, -, rfl⟩ := rewrites
  rw [Tracker.polled_output, Tracker.polled_status]
  split
  · exact .inl rfl
  · rename_i ended
    cases w.offer? log with
    | none => exact .inl rfl
    | some text => exact .inr ⟨ended, rfl⟩

/-- An output that is not blank may be replaced, but not by a blank one. -/
theorem usable (rewrites : w.Rewrites log id r r') (usable : r.usableOutput? ≠ none) :
    r'.usableOutput? ≠ none := by
  unfold RunRecord.usableOutput? at usable ⊢
  rcases rewrites.output with same | ⟨-, offered⟩
  · rwa [same]
  · cases ho : w.offer? log with
    | none =>
      obtain ⟨raw, -, rfl⟩ := rewrites
      rw [Tracker.polled_output, ho, ite_self, Option.none_or]
      exact usable
    | some text =>
      rw [offered, ho]
      simpa using offer?_not_blank ho

end Rewrites

variable {t : Tracker} {w : Watch} {log : List Exchange}

/-- What a poll has exchanged when it writes. -/
inductive Ready (t : Tracker) : Watch → List Exchange → RunRecord → Json → Option String → Prop
  | query {id : String} {r : RunRecord} (unfinished : r.status.isTerminal = false) (raw : Json)
    {reading : List Exchange} {output : Option String}
    (reads : t.Reads r (WaitOutcome.ofAnswer true raw).status reading output) :
    Ready t (.query id)
      (⟨.find id, some r⟩ :: ⟨.call (waitCall r.runId t.windowMs), .ok raw⟩ :: reading) r raw output
  | wait (s : Snapshot) (windowMs : UInt64) (raw : Json) {reading : List Exchange}
    {output : Option String}
    (reads : t.Reads s.record (WaitOutcome.ofAnswer true raw).status reading output) :
    Ready t (.wait s windowMs) (⟨.call (waitCall s.record.runId windowMs), .ok raw⟩ :: reading)
      s.record raw output

/-- A poll writes when it is ready, and nothing else that it asks is a write. -/
theorem asks_procedure {q : Question} (ha : (w.procedure t).Asks log q) :
    q.keepsLedger = true ∨ ∃ r raw output, Ready t w log r raw output ∧
      q = .amend r.runId.text (Tracker.news (.ofAnswer true raw) output) := by
  cases w with
  | wait s windowMs =>
    rcases Tracker.asks_pollOnce (asks_map ha) with keeps | ⟨raw, reading, output, reads, rfl, rfl⟩
    · exact .inl keeps
    · exact .inr ⟨_, raw, output, .wait s windowMs raw reads, rfl⟩
  | query id =>
    replace ha : (t.reconcile id).Asks log q := ha
    unfold Tracker.reconcile at ha
    rcases Procedure.asks_bind ha with first | ⟨log₁, found, rest, he, hn, rfl⟩
    · rw [(Procedure.asks_asking first).2]
      exact .inl rfl
    · rw [Procedure.ends_asking he]
      cases found with
      | none => exact absurd hn Procedure.not_asks_pure
      | some r =>
        dsimp only at hn
        split at hn
        · exact absurd hn Procedure.not_asks_pure
        · rename_i unfinished
          rcases Tracker.asks_pollOnce (asks_map hn) with
            keeps | ⟨raw, reading, output, reads, rfl, rfl⟩
          · exact .inl keeps
          · exact .inr ⟨r, raw, output, .query (Bool.not_eq_true _ ▸ unfinished) raw reads, rfl⟩

namespace Ready

variable {r : RunRecord} {raw : Json} {output : Option String}

/-- A poll that is ready has one answer to its wait, and has its output from its own offer. -/
theorem rewrites (ready : Ready t w log r raw output) (r₀ : RunRecord) :
    w.Rewrites log r.runId r₀ (Tracker.polled r₀ (.ofAnswer true raw) output) := by
  cases ready with
  | query unfinished raw reads =>
    refine ⟨raw, ?_, congrArg _ ?_⟩
    · rw [List.filterMap_cons, List.filterMap_cons, Exchange.waitAnswer?_wait, if_pos rfl,
        waitAnswers_reading reads]
      rfl
    · unfold offer?
      rw [List.findSome?_cons, List.findSome?_cons, Exchange.historyAnswer?_wait]
      exact output_eq_of_reads reads
  | wait s windowMs raw reads =>
    refine ⟨raw, ?_, congrArg _ ?_⟩
    · rw [List.filterMap_cons, Exchange.waitAnswer?_wait, if_pos rfl, waitAnswers_reading reads]
    · unfold offer?
      rw [List.findSome?_cons, Exchange.historyAnswer?_wait]
      exact output_eq_of_reads reads

end Ready

end Watch

/-- Is an exchange a write into the record of a run? -/
def Exchange.writes (id : RunId) : Exchange → Bool
  | ⟨.amend name _, _⟩ => (Name.parse? name : Option RunId) = some id
  | _ => false

/-! ## Runs -/

variable {ι : Type} [DecidableEq ι]

/-- The exchanges of one poll. -/
def own (i : ι) (log : List (ι × Exchange)) : List Exchange := (log.filter (·.1 = i)).map (·.2)

theorem own_append (i : ι) (log₁ log₂ : List (ι × Exchange)) :
    own i (log₁ ++ log₂) = own i log₁ ++ own i log₂ := by
  unfold own
  rw [List.filter_append, List.map_append]

theorem own_singleton (i : ι) (e : Exchange) : own i [(i, e)] = [e] := by
  simp [own]

theorem mem_of_mem_own {i : ι} {log : List (ι × Exchange)} {e : Exchange} (he : e ∈ own i log) :
    (i, e) ∈ log := by
  obtain ⟨⟨j, e⟩, hj, rfl⟩ := List.mem_map.1 he
  obtain ⟨hj, same⟩ := List.mem_filter.1 hj
  have same : j = i := of_decide_eq_true same
  exact same ▸ hj

/-- Polls that are under way together: in each step one of them asks its next question, which
follows from its own exchanges alone, and the host answers it. The run goes on from some past. -/
inductive Overlap (t : Tracker) (ws : ι → Watch) (past : List (ι × Exchange)) (h : Host) :
    List (ι × Exchange) → Host → Prop
  | start : Overlap t ws past h [] h
  | step {log : List (ι × Exchange)} {h₁ h' : Host} {i : ι} {q : Question} {a : q.Answer}
    (before : Overlap t ws past h log h₁)
    (asks : ((ws i).procedure t).Asks (own i (past ++ log)) q) (answered : h₁.Answers q a h') :
    Overlap t ws past h (log ++ [(i, ⟨q, a⟩)]) h'

namespace Overlap

variable {t : Tracker} {ws : ι → Watch} {h₀ h h' : Host} {past log : List (ι × Exchange)}

/-- What follows a run and goes on from it is part of one run. -/
theorem append {later : List (ι × Exchange)} (reached : Overlap t ws past h₀ log h)
    (goes : Overlap t ws (past ++ log) h later h') : Overlap t ws past h₀ (log ++ later) h' := by
  induction goes with
  | start => rwa [List.append_nil]
  | step _ asks answered ih =>
    rw [List.append_assoc] at asks
    rw [← List.append_assoc]
    exact .step ih asks answered

/-- A record that was found has the name under which it was looked up. -/
theorem named_of_found (reached : Overlap t ws [] h₀ log h) {i : ι} {id : String} {r : RunRecord}
    (found : (i, ⟨.find id, some r⟩) ∈ log) : Name.parse? id = some r.runId := by
  induction reached with
  | start => cases found
  | @step log h₁ h' j q a _ _ answered ih =>
    rcases List.mem_append.1 found with earlier | last
    · exact ih earlier
    · cases List.mem_singleton.1 last
      obtain ⟨same, -⟩ := Host.answers_find.1 answered
      obtain ⟨runId, parsed, hf⟩ := Option.bind_eq_some_iff.1 same.symm
      rw [Ledger.runId_of_find? hf]
      exact parsed

/-- The record that a poll goes by has a name that parsing leaves alone. -/
theorem named_of_ready (reached : Overlap t ws [] h₀ log h) {i : ι} {r : RunRecord} {raw : Json}
    {output : Option String} (ready : (ws i).Ready t (own i log) r raw output) :
    Name.parse? r.runId.text = some r.runId := by
  generalize hw : ws i = w at ready
  generalize he : own i log = exchanges at ready
  cases ready with
  | wait s => exact s.named
  | @query id =>
    have first : ⟨.find id, some r⟩ ∈ own i log := by
      rw [he]
      exact .head _
    exact Name.parse?_text (named_of_found reached (mem_of_mem_own first))

/-- One step of some poll writes the record of a run as `Watch.Rewrites` says, or leaves it. -/
theorem step_law (reached : Overlap t ws [] h₀ log h) {i : ι} {q : Question} {a : q.Answer}
    (asks : ((ws i).procedure t).Asks (own i log) q) (answered : h.Answers q a h') {id : RunId}
    {r : RunRecord} (stored : h.ledger.find? id = some r) :
    ∃ r', h'.ledger.find? id = some r' ∧
      (Exchange.writes id ⟨q, a⟩ = true → (ws i).Rewrites (own i log) id r r') ∧
      (Exchange.writes id ⟨q, a⟩ = false → r' = r) := by
  rcases Watch.asks_procedure asks with keeps | ⟨s, raw, output, ready, rfl⟩
  · have silent : Exchange.writes id ⟨q, a⟩ = false := by
      cases q <;> first | rfl | cases keeps
    rw [answered.ledger_eq keeps, silent]
    exact ⟨r, stored, nofun, fun _ => rfl⟩
  · have named := named_of_ready reached ready
    have looked : h.ledger.get? s.runId.text = h.ledger.find? s.runId :=
      Ledger.get?_of_parse? named
    obtain ⟨-, rfl⟩ := Host.answers_amend.1 answered
    have writes : Exchange.writes id
        ⟨.amend s.runId.text (Tracker.news (.ofAnswer true raw) output), a⟩ =
          decide (s.runId = id) := by
      unfold Exchange.writes
      dsimp only
      rw [named]
      exact decide_eq_decide.2 (by rw [Option.some.injEq])
    rw [writes]
    by_cases he : s.runId = id
    · subst he
      rw [Ledger.patch_of_get? _ (looked.trans stored), Tracker.amended_news]
      refine ⟨_, ?_, fun _ => ready.rewrites r, fun other => absurd rfl (of_decide_eq_false other)⟩
      have put := Ledger.find?_put_self (Tracker.polled r (.ofAnswer true raw) output) h.ledger
      rwa [Tracker.polled_runId, Ledger.runId_of_find? stored] at put
    · refine ⟨r, ?_, fun same => absurd (of_decide_eq_true same) he, fun _ => rfl⟩
      cases known : h.ledger.find? s.runId with
      | none => rwa [Ledger.patch_of_get?_eq_none _ (looked.trans known)]
      | some r₂ =>
        have other : (Tracker.polled r₂ (.ofAnswer true raw) output).runId ≠ id := by
          rw [Tracker.polled_runId, Ledger.runId_of_find? known]
          exact he
        rw [Ledger.patch_of_get? _ (looked.trans known), Tracker.amended_news]
        exact (Ledger.find?_put_of_ne other h.ledger).trans stored

theorem over_of_ne_running {raw : Json}
    (ended : (WaitOutcome.ofAnswer true raw).status ≠ .running) :
    (WaitOutcome.ofAnswer true raw).status ∈ [.completed, .failed] := by
  replace ended : Remote.waitStatus true _ ≠ .running := ended
  show Remote.waitStatus true _ ∈ _
  unfold Remote.waitStatus at ended ⊢
  split at ended
  · exact .head _
  · exact .tail _ (.head _)
  · exact absurd rfl ended
  · exact absurd rfl ended

/-- What a record keeps over a run: an output that is not blank stays not blank, and a run that is
over stays over, unless a poll whose own wait found it unfinished writes. -/
theorem run_law (reached : Overlap t ws [] h₀ past h) (goes : Overlap t ws past h log h')
    {id : RunId} {r : RunRecord} (stored : h.ledger.find? id = some r) :
    ∃ r', h'.ledger.find? id = some r' ∧
      (r.usableOutput? ≠ none → r'.usableOutput? ≠ none) ∧
      (r.status ∈ [.completed, .failed] →
        (∀ i, (own i log).any (Exchange.writes id) = true →
          ∀ raw ∈ (own i (past ++ log)).filterMap (Exchange.waitAnswer? id),
            (WaitOutcome.ofAnswer true raw).status ≠ .running) →
        r'.status ∈ [.completed, .failed]) := by
  induction goes with
  | start => exact ⟨r, stored, fun usable => usable, fun ended _ => ended⟩
  | @step log h₁ h' i q a before asks answered ih =>
    obtain ⟨r₁, stored₁, usable, ended⟩ := ih
    obtain ⟨r', stored', writes, silent⟩ := step_law (reached.append before) asks answered stored₁
    refine ⟨r', stored', fun hr => ?_, fun hr answers => ?_⟩
    · cases hw : Exchange.writes id ⟨q, a⟩ with
      | true => exact (writes hw).usable (usable hr)
      | false => exact silent hw ▸ usable hr
    · cases hw : Exchange.writes id ⟨q, a⟩ with
      | true =>
        obtain ⟨raw, only, rfl⟩ := writes hw
        refine over_of_ne_running (answers i ?_ raw ?_)
        · rw [own_append, own_singleton, List.any_append, List.any_cons, hw, Bool.true_or,
            Bool.or_true]
        · rw [← List.append_assoc, own_append, List.filterMap_append, only]
          exact List.mem_append_left _ (.head _)
      | false =>
        rw [silent hw]
        refine ended hr fun j wrote raw hm => answers j ?_ raw ?_
        · rw [own_append, List.any_append, wrote, Bool.true_or]
        · rw [← List.append_assoc, own_append, List.filterMap_append]
          exact List.mem_append_left _ hm

end Overlap

/-! ## Three queries of one run -/

namespace Sample

/-- The record that all three of them find. -/
def stale : RunRecord := Dispatcher.acceptedRecord ⟨"technical"⟩ acceptance

/-- The history after one more message. -/
def lateHistory : Json :=
  .obj [("messages", .arr [.obj [("content", .str "done, and checked"),
    ("role", .str "assistant")]])]

/-- A host that has the record. -/
def host : Host := { Host.ofConfig {} with ledger := Ledger.empty.put stale }

def queries : Fin 3 → Watch := fun _ => .query "r-1"

def found : Exchange := ⟨.find "r-1", some stale⟩

/-- A wait that is answered. -/
def waited (answer : Json) : Exchange :=
  ⟨.call (waitCall ⟨"r-1"⟩ dispatcher.tracker.windowMs), .ok answer⟩

/-- A reading of the history that is answered. -/
def read (answer : Json) : Exchange :=
  ⟨.call (historyCall ⟨"child"⟩ dispatcher.tracker.historyLimit
    dispatcher.tracker.historyTimeoutMs), .ok answer⟩

/-- The news of a query that found the run over, and read a history. -/
def newsOf (answer : Json) : RunPatch :=
  Tracker.news (.ofAnswer true ended)
    (Tracker.backfillOf ((.ok answer : Reply Json).map latestReply?)).output?

/-- The news of a query that found the run unfinished. -/
def noNews : RunPatch := Tracker.news (.ofAnswer true started) none

def write (h : Host) (news : RunPatch) : Exchange :=
  ⟨.amend "r-1" news, (h.ledger.patch "r-1" news).1⟩

def written (h : Host) (news : RunPatch) : Host :=
  { h with ledger := (h.ledger.patch "r-1" news).2 }

variable {past : List (Fin 3 × Exchange)} {h : Host} {i : Fin 3}

theorem overlap_looks (new : own i past = []) (stored : h.ledger.get? "r-1" = some stale) :
    Overlap dispatcher.tracker queries past h ([] ++ [(i, found)]) h := by
  refine .step .start ?_ (Host.answers_find.2 ⟨stored.symm, rfl⟩)
  rw [List.append_nil, new]
  exact .now

/-- A query that finds the run over reads the history and writes. -/
theorem overlap_ends (looked : own i past = [found]) (answer : Json) :
    Overlap dispatcher.tracker queries past h
      ([] ++ [(i, waited ended)] ++ [(i, read answer)] ++ [(i, write h (newsOf answer))])
      (written h (newsOf answer)) := by
  refine .step (.step (.step .start ?_ (Host.answers_call.2 rfl)) ?_ (Host.answers_call.2 rfl)) ?_
    (Host.answers_amend.2 ⟨rfl, rfl⟩)
  · rw [List.append_nil, looked]
    exact .later .now
  · rw [own_append, looked, List.nil_append, own_singleton]
    exact .later (.later .now)
  · rw [own_append, own_append, looked, List.nil_append, own_singleton, own_singleton]
    exact .later (.later (.later .now))

/-- A query that finds the run unfinished writes at once. -/
theorem overlap_goesOn (looked : own i past = [found]) :
    Overlap dispatcher.tracker queries past h
      ([] ++ [(i, waited started)] ++ [(i, write h noNews)]) (written h noNews) := by
  refine .step (.step .start ?_ (Host.answers_call.2 rfl)) ?_ (Host.answers_amend.2 ⟨rfl, rfl⟩)
  · rw [List.append_nil, looked]
    exact .later .now
  · rw [own_append, looked, List.nil_append, own_singleton]
    exact .later (.later .now)

/-- All three queries find the run as it was accepted. -/
def looked : List (Fin 3 × Exchange) := [(0, found), (1, found), (2, found)]

/-- The first query writes that the run is over, with its output. -/
def finished : Host := written host (newsOf history)

/-- The second one has read a later history, and writes that. -/
def finishedAgain : Host := written finished (newsOf lateHistory)

/-- The third one had been told that the run goes on, and writes that. -/
def unfinishedAgain : Host := written finishedAgain noNews

def firstLog : List (Fin 3 × Exchange) :=
  looked ++ [(0, waited ended), (0, read history), (0, write host (newsOf history))]

def secondLog : List (Fin 3 × Exchange) :=
  [(1, waited ended), (1, read lateHistory), (1, write finished (newsOf lateHistory))]

def thirdLog : List (Fin 3 × Exchange) :=
  [(2, waited started), (2, write finishedAgain noNews)]

theorem overlap_first : Overlap dispatcher.tracker queries [] host firstLog finished := by
  have one : Overlap dispatcher.tracker queries [] host [(0, found)] host := overlap_looks rfl rfl
  have two : Overlap dispatcher.tracker queries [] host [(0, found), (1, found)] host :=
    one.append (overlap_looks rfl rfl)
  have three : Overlap dispatcher.tracker queries [] host looked host :=
    two.append (overlap_looks rfl rfl)
  exact three.append (overlap_ends rfl history)

theorem overlap_second : Overlap dispatcher.tracker queries firstLog finished secondLog
    finishedAgain :=
  overlap_ends rfl lateHistory

theorem overlap_third : Overlap dispatcher.tracker queries (firstLog ++ secondLog) finishedAgain
    thirdLog unfinishedAgain :=
  overlap_goesOn rfl

end Sample

/-! ## The last write wins -/

namespace Overlap

variable {t : Tracker} {ws : ι → Watch} {h₀ h : Host} {past : List (ι × Exchange)}

/-- Whatever the order in which polls go on, and whatever they are answered: a write gives a record
the status that the poll's own wait was answered with, and the output that it offers or the one that
was there. A run that is over stays over unless a poll writes whose own wait found it unfinished,
and an output that is not blank is never blanked. -/
theorem last_write_wins (reached : Overlap t ws [] h₀ past h) {id : RunId} {r : RunRecord}
    (stored : h.ledger.find? id = some r) :
    (∀ i q (a : q.Answer) h', ((ws i).procedure t).Asks (own i past) q → h.Answers q a h' →
      ∃ r', h'.ledger.find? id = some r' ∧
        (Exchange.writes id ⟨q, a⟩ = false → r' = r) ∧
        (Exchange.writes id ⟨q, a⟩ = true →
          ∃ raw, (own i past).filterMap (Exchange.waitAnswer? id) = [raw] ∧
            r'.status = (WaitOutcome.ofAnswer true raw).status ∧
            (r'.output = r.output ∨
              r'.status ≠ .running ∧ r'.output = (ws i).offer? (own i past)))) ∧
    ∀ log h', Overlap t ws past h log h' → ∃ r', h'.ledger.find? id = some r' ∧
      (r.usableOutput? ≠ none → r'.usableOutput? ≠ none) ∧
      (r.status ∈ [.completed, .failed] →
        (∀ i, (own i log).any (Exchange.writes id) = true →
          ∀ raw ∈ (own i (past ++ log)).filterMap (Exchange.waitAnswer? id),
            (WaitOutcome.ofAnswer true raw).status ≠ .running) →
        r'.status ∈ [.completed, .failed]) := by
  refine ⟨fun i q a h' asks answered => ?_, fun log h' goes => run_law reached goes stored⟩
  obtain ⟨r', stored', writes, silent⟩ := step_law reached asks answered stored
  refine ⟨r', stored', silent, fun hw => ?_⟩
  have rewrites := writes hw
  have output := rewrites.output
  obtain ⟨raw, only, rfl⟩ := rewrites
  exact ⟨raw, only, rfl, output⟩

/-- The second of the three queries writes after the first one, and the run stays over. -/
theorem last_write_wins_sample : ∃ past h log h' r r',
    Overlap Sample.dispatcher.tracker Sample.queries [] Sample.host past h ∧
    Overlap Sample.dispatcher.tracker Sample.queries past h log h' ∧
    h.ledger.find? ⟨"r-1"⟩ = some r ∧ r.status = .completed ∧
    h'.ledger.find? ⟨"r-1"⟩ = some r' ∧ r'.status ∈ [.completed, .failed] ∧
    r'.usableOutput? ≠ none := by
  have stored : Sample.finished.ledger.find? ⟨"r-1"⟩ = some _ := rfl
  obtain ⟨r', stored', usable, ended⟩ :=
    (last_write_wins Sample.overlap_first stored).2 _ _ Sample.overlap_second
  exact ⟨_, _, _, _, _, r', Sample.overlap_first, Sample.overlap_second, rfl, rfl, stored',
    ended (by decide) (by decide), usable (by decide)⟩

/-- Neither the status of a run that is over nor its output is kept by every write: the second
query replaces the output, and the third one has the run go on. -/
theorem not_kept :
    (¬ ∀ past h log h' r r',
      Overlap Sample.dispatcher.tracker Sample.queries [] Sample.host past h →
      Overlap Sample.dispatcher.tracker Sample.queries past h log h' →
      h.ledger.find? ⟨"r-1"⟩ = some r → h'.ledger.find? ⟨"r-1"⟩ = some r' →
      r.status ∈ [.completed, .failed] → r'.status ∈ [.completed, .failed]) ∧
    ¬ ∀ past h log h' r r',
      Overlap Sample.dispatcher.tracker Sample.queries [] Sample.host past h →
      Overlap Sample.dispatcher.tracker Sample.queries past h log h' →
      h.ledger.find? ⟨"r-1"⟩ = some r → h'.ledger.find? ⟨"r-1"⟩ = some r' →
      r.status ∈ [.completed, .failed] → r.usableOutput? ≠ none → r'.output = r.output := by
  constructor
  · intro kept
    have reached := Sample.overlap_first.append Sample.overlap_second
    have ended := kept _ _ _ _ _ _ reached Sample.overlap_third rfl rfl (by decide)
    exact absurd ended (by decide)
  · intro kept
    have same := kept _ _ _ _ _ _ Sample.overlap_first Sample.overlap_second rfl rfl (by decide)
      (by decide)
    exact absurd same (by decide)

end Overlap

end Delegation
