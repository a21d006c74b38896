import Delegation.Proofs.Durations
import Delegation.Proofs.Effect

/-!
# The record of a run is its history

What the ledger says of an accepted run depends on the answers to the polls of that run alone, not
on what was done to other runs in between: it is the `account` of these polls, which is put
together from the answers directly, without a ledger and without merging. The main law is
`get?_eq_account`. The step behind it is `account_append_singleton`: to merge one more answer into
an account that is still open is to give the account of one more poll.
-/

namespace Delegation

open Remote (Acceptance Entries statusWord? millisField errorField latestReply?)

/-! ## The account of a run -/

namespace Poll

/-- What was answered, field by field. An answer that is no object has no fields. -/
def fields (p : Poll) : Entries := p.answer.entries?.getD []

/-- How the run ended, if the answer says that it did. -/
def verdict? (p : Poll) : Option Status :=
  match statusWord? p.fields with
  | some "ok" => some .completed
  | some "error" => some .failed
  | _ => none

def startedAt (p : Poll) : Option Int64 := millisField p.fields "startedAt"

def endedAt (p : Poll) : Option Int64 := millisField p.fields "endedAt"

def error (p : Poll) : Option String := errorField p.fields "error"

end Poll

/-- The polls that count: all up to the first that was answered with the end of the run. -/
def decisive : List Poll → List Poll
  | [] => []
  | p :: rest => if p.verdict?.isSome then [p] else p :: decisive rest

/-- The value that was given last. -/
def latest {β : Type} (field : Poll → Option β) (ps : List Poll) : Option β :=
  ps.reverse.findSome? field

/-- How a run stands after some polls. -/
def standing (ps : List Poll) : Status :=
  match ps.findSome? Poll.verdict? with
  | some ended => ended
  | none => if ps.isEmpty then .accepted else .running

/-- What is to be said of an accepted run after some polls of it. -/
def account (agent : AgentName) (a : Acceptance) (ps : List Poll) : RunRecord where
  runId := a.runId
  agent := agent
  status := standing ps
  childSessionKey := some a.childSessionKey
  output := (ps.find? fun p => p.verdict?.isSome).bind Poll.reply
  error := latest Poll.error (decisive ps)
  startedAt := latest Poll.startedAt (decisive ps)
  endedAt := latest Poll.endedAt (decisive ps)
  durationMs :=
    elapsed? (latest Poll.startedAt (decisive ps)) (latest Poll.endedAt (decisive ps))

/-! ## One more poll -/

/-- No poll was answered with the end of the run. -/
def Pending (ps : List Poll) : Prop := ∀ p ∈ ps, p.verdict? = none

namespace Pending

variable {ps : List Poll} {p : Poll}

theorem decisive_append_singleton (pending : Pending ps) : decisive (ps ++ [p]) = ps ++ [p] := by
  induction ps with
  | nil =>
    show decisive [p] = [p]
    unfold decisive
    split <;> rfl
  | cons q ps ih =>
    have hq : q.verdict? = none := pending q (.head _)
    show decisive (q :: (ps ++ [p])) = q :: (ps ++ [p])
    unfold decisive
    rw [hq, ih fun x hx => pending x (.tail _ hx)]
    rfl

theorem decisive_eq (pending : Pending ps) : decisive ps = ps := by
  induction ps with
  | nil => rfl
  | cons q ps ih =>
    have hq : q.verdict? = none := pending q (.head _)
    unfold decisive
    rw [hq, ih fun x hx => pending x (.tail _ hx)]
    rfl

theorem findSome?_eq_none (pending : Pending ps) : ps.findSome? Poll.verdict? = none :=
  List.findSome?_eq_none_iff.2 pending

theorem find?_eq_none (pending : Pending ps) : ps.find? (fun p => p.verdict?.isSome) = none := by
  refine List.find?_eq_none.2 fun q hq => ?_
  rw [pending q hq]
  exact Bool.false_ne_true

end Pending

theorem latest_append_singleton {β : Type} (field : Poll → Option β) (ps : List Poll) (p : Poll) :
    latest field (ps ++ [p]) = (field p).or (latest field ps) := by
  unfold latest
  rw [List.reverse_append, List.findSome?_append]
  cases hf : field p <;> simp [hf]

/-! ## One more answer -/

namespace Poll

theorem status_ofAnswer (p : Poll) :
    (Remote.WaitOutcome.ofAnswer true p.answer).status = p.verdict?.getD .running := by
  show Remote.waitStatus true (statusWord? p.fields) = _
  unfold Remote.waitStatus verdict?
  generalize statusWord? p.fields = word
  split
  · rfl
  · rfl
  · rfl
  · rename_i not_ok not_error _
    split
    · exact absurd rfl not_ok
    · exact absurd rfl not_error
    · rfl

end Poll

theorem standing_append_singleton {ps : List Poll} {p : Poll} (pending : Pending ps) :
    standing (ps ++ [p]) = p.verdict?.getD .running := by
  unfold standing
  rw [List.findSome?_append, pending.findSome?_eq_none, Option.none_or, List.findSome?_singleton]
  cases p.verdict? with
  | some ended => rfl
  | none =>
    have some_poll : (ps ++ [p]).isEmpty = false := by simp
    rw [some_poll]
    rfl

/-- To merge one more answer into an account that is open is to give the account of one more
poll. -/
theorem account_append_singleton {agent : AgentName} {a : Acceptance} {ps : List Poll} {p : Poll}
    (pending : Pending ps) (unread : p.verdict? = none → p.reply = none) :
    account agent a (ps ++ [p]) =
      Tracker.polled (account agent a ps) (.ofAnswer true p.answer) p.reply := by
  have replies : ((ps ++ [p]).find? fun q => q.verdict?.isSome).bind Poll.reply =
      p.reply.or ((ps.find? fun q => q.verdict?.isSome).bind Poll.reply) := by
    rw [List.find?_append, pending.find?_eq_none, Option.none_or, Option.bind_none, Option.or_none]
    cases hv : p.verdict? with
    | some ended => simp [hv]
    | none => simp [hv, unread hv]
  unfold account Tracker.polled
  rw [pending.decisive_append_singleton, pending.decisive_eq, standing_append_singleton pending,
    p.status_ofAnswer, replies]
  simp only [latest_append_singleton]
  congr 1
  exact (elapsed?_merged p.startedAt p.endedAt (latest Poll.startedAt ps)
    (latest Poll.endedAt ps)).symm

theorem account_nil (agent : AgentName) (a : Acceptance) :
    account agent a [] = Dispatcher.acceptedRecord agent a := rfl

theorem isTerminal_standing (ps : List Poll) :
    (standing ps).isTerminal = false ↔ Pending ps := by
  unfold standing
  constructor
  · intro ht
    cases hf : ps.findSome? Poll.verdict? with
    | none => exact List.findSome?_eq_none_iff.1 hf
    | some ended =>
      rw [hf] at ht
      obtain ⟨p, -, hp⟩ := List.exists_of_findSome?_eq_some hf
      unfold Poll.verdict? at hp
      split at hp <;> cases hp <;> cases ht
  · intro pending
    rw [pending.findSome?_eq_none]
    cases ps <;> rfl

/-! ## What a poll of an account reads -/

/-- A poll of an open account gives the account of one more poll. -/
theorem polled_account {t : Tracker} {agent : AgentName} {a : Acceptance} {ps : List Poll}
    {raw : Json} {reading : List Exchange} {output : Option String} (pending : Pending ps)
    (reads : t.Reads (account agent a ps) (Remote.WaitOutcome.ofAnswer true raw).status reading
      output) :
    Tracker.polled (account agent a ps) (.ofAnswer true raw) output =
      account agent a (ps ++ [.ofReading raw reading]) := by
  have unusable : (account agent a ps).usableOutput? = none := by
    unfold RunRecord.usableOutput? account
    rw [pending.find?_eq_none]
    rfl
  have read : output = (Poll.ofReading raw reading).reply := by
    rw [output_eq_of_reads reads, unusable, Option.none_or]
    split
    · rename_i running
      rw [reading_eq_nil_of_reads reads running]
      rfl
    · rfl
  rw [read]
  symm
  refine account_append_singleton (p := .ofReading raw reading) pending fun unended => ?_
  have running := (Poll.ofReading raw reading).status_ofAnswer
  rw [unended] at running
  unfold Poll.ofReading
  rw [reading_eq_nil_of_reads reads running]
  rfl

/-! ## The law of the ledger -/

/-- The ledger keeps the accounts of the accepted runs, and no other record. -/
structure Tallies (accepted : List (AgentName × Acceptance)) (polled : RunId → List Poll)
    (l : Ledger) : Prop where
  known : ∀ agent a, (agent, a) ∈ accepted →
    l.find? a.runId = some (account agent a (polled a.runId))
  unknown : ∀ id, id ∉ accepted.map (·.2.runId) → l.find? id = none ∧ polled id = []

namespace Tallies

variable {accepted : List (AgentName × Acceptance)} {polled : RunId → List Poll} {l : Ledger}

theorem empty : Tallies [] (fun _ => []) .empty where
  known _ _ hm := nomatch hm
  unknown _ _ := ⟨rfl, rfl⟩

/-- Whatever is found is the account of an accepted run. -/
theorem eq_account (ht : Tallies accepted polled l) {r : RunRecord}
    (found : l.find? r.runId = some r) :
    ∃ agent a, (agent, a) ∈ accepted ∧ a.runId = r.runId ∧
      r = account agent a (polled r.runId) := by
  by_cases hm : r.runId ∈ accepted.map (·.2.runId)
  · obtain ⟨⟨agent, a⟩, hm, hid⟩ := List.mem_map.1 hm
    have hid : a.runId = r.runId := hid
    refine ⟨agent, a, hm, hid, ?_⟩
    have := ht.known agent a hm
    rw [hid, found] at this
    exact Option.some.inj this
  · rw [(ht.unknown _ hm).1] at found
    cases found

theorem enter (ht : Tallies accepted polled l) {agent : AgentName} {a : Acceptance}
    (new : a.runId ∉ accepted.map (·.2.runId)) :
    Tallies (accepted ++ [(agent, a)]) polled (l.put (Dispatcher.acceptedRecord agent a)) where
  known agent' a' hm := by
    rcases List.mem_append.1 hm with hm | hm
    · have other : a.runId ≠ a'.runId := fun he => new (he ▸ List.mem_map_of_mem hm)
      rw [Ledger.find?_put_of_ne (r := Dispatcher.acceptedRecord agent a) other]
      exact ht.known agent' a' hm
    · cases List.mem_singleton.1 hm
      rw [(ht.unknown _ new).2, account_nil]
      exact Ledger.find?_put_self (Dispatcher.acceptedRecord agent a) l
  unknown id hm := by
    rw [List.map_append, List.mem_append, not_or] at hm
    have other : a.runId ≠ id := fun he => hm.2 (by simp [he])
    rw [Ledger.find?_put_of_ne (r := Dispatcher.acceptedRecord agent a) other]
    exact ht.unknown id hm.1

theorem poll (ht : Tallies accepted polled l) {t : Tracker} {r : RunRecord}
    (found : l.find? r.runId = some r) (unfinished : r.status.isTerminal = false) {raw : Json}
    {reading : List Exchange} {output : Option String}
    (reads : t.Reads r (Remote.WaitOutcome.ofAnswer true raw).status reading output) :
    Tallies accepted
      (fun id => polled id ++ if r.runId = id then [.ofReading raw reading] else [])
      (l.put (Tracker.polled r (.ofAnswer true raw) output)) := by
  obtain ⟨agent₀, a₀, hm₀, hid, hr⟩ := ht.eq_account found
  have pending : Pending (polled r.runId) := by
    rw [hr] at unfinished
    exact (isTerminal_standing _).1 unfinished
  constructor
  · intro agent a hm
    have hk := ht.known agent a hm
    by_cases he : r.runId = a.runId
    · have hr : r = account agent a (polled a.runId) := by
        rw [he, hk] at found
        exact (Option.some.inj found).symm
      rw [he] at pending
      rw [hr] at reads
      rw [if_pos he, hr, polled_account pending reads]
      exact Ledger.find?_put_self (account agent a _) l
    · rw [if_neg he, List.append_nil,
        Ledger.find?_put_of_ne (r := Tracker.polled r (.ofAnswer true raw) output) he]
      exact hk
  · intro id hm
    have other : r.runId ≠ id := fun he => hm (he ▸ hid ▸ List.mem_map_of_mem hm₀)
    rw [if_neg other, List.append_nil,
      Ledger.find?_put_of_ne (r := Tracker.polled r (.ofAnswer true raw) output) other]
    exact ht.unknown id hm

/-- One operation keeps the tallies, unless it is told of a run that was accepted before. -/
theorem next (ht : Tallies accepted polled l) {t : Tracker} {new : List (AgentName × Acceptance)}
    {asked : RunId → List Poll} {l' : Ledger} (effect : Effect t l new asked l')
    (distinct : ((accepted ++ new).map (·.2.runId)).Nodup) :
    Tallies (accepted ++ new) (fun id => polled id ++ asked id) l' := by
  have fresh (agent : AgentName) (a : Acceptance) (hn : new = [(agent, a)]) :
      a.runId ∉ accepted.map (·.2.runId) := by
    rw [hn, List.map_append] at distinct
    intro hm
    exact (List.nodup_append.1 distinct).2.2 _ hm _ (.head _) rfl
  cases effect with
  | nothing => simpa only [List.append_nil] using ht
  | entered agent a => simpa only [List.append_nil] using ht.enter (fresh agent a rfl)
  | followed agent a raw reads =>
    have entered : Tallies (accepted ++ [(agent, a)]) polled _ := ht.enter (fresh agent a rfl)
    have found := Ledger.find?_put_self (Dispatcher.acceptedRecord agent a) l
    exact entered.poll found rfl reads
  | polled known unfinished raw reads =>
    simpa only [List.append_nil] using ht.poll known unfinished reads

/-- What happened is what the ledger says. -/
theorem of_chronicle {d : Dispatcher} (real : d.config.backend = .real) {h₀ h : Host}
    {es : List Episode} (chronicle : Chronicle d h₀ es h) (empty : h₀.ledger = .empty)
    (distinct : ((acceptances es).map (·.2.runId)).Nodup) :
    Tallies (acceptances es) (fun id => polls id es) h.ledger := by
  induction chronicle with
  | start =>
    rw [empty]
    exact .empty
  | next before happens ih =>
    rw [acceptances_append_singleton] at distinct ⊢
    have earlier : ((acceptances _).map (·.2.runId)).Nodup :=
      (List.nodup_append.1 (List.map_append ▸ distinct)).1
    simpa only [polls_append_singleton] using (ih earlier).next (happens.effect real) distinct
  | pause _ _ ih => exact ih distinct

end Tallies

/-- The law of the run history. -/
theorem get?_eq_account {d : Dispatcher} (real : d.config.backend = .real) {h₀ h : Host}
    {es : List Episode} (chronicle : Chronicle d h₀ es h) (empty : h₀.ledger = .empty)
    (distinct : ((acceptances es).map (·.2.runId)).Nodup) {agent : AgentName} {a : Acceptance}
    (accepted : (agent, a) ∈ acceptances es) :
    h.ledger.get? a.runId.text = some (account agent a (polls a.runId es)) := by
  rw [Ledger.get?_of_parse? (parse?_of_acceptances accepted)]
  exact (Tallies.of_chronicle real chronicle empty distinct).known agent a accepted

/-- The two timestamps of this run come in different answers, and its duration from both. -/
theorem get?_eq_account_sample : ∃ es h r, Chronicle Sample.dispatcher (.ofConfig {}) es h ∧
    ((acceptances es).map (·.2.runId)).Nodup ∧ (⟨"technical"⟩, Sample.acceptance) ∈ acceptances es ∧
    h.ledger.get? "r-1" = some r ∧ r.status = .completed ∧ r.output = some "done" ∧
    r.durationMs = some 2500 := by
  obtain ⟨spawned, spawnEnv, asked, statusEnv, h, -, chronicle, accepted, polled, -⟩ :=
    Sample.chronicle
  have distinct : ((acceptances [.spawn Sample.order spawned spawnEnv,
      .status " r-1 " asked statusEnv]).map (·.2.runId)).Nodup := by
    rw [accepted]
    decide
  have member : (⟨"technical"⟩, Sample.acceptance) ∈ acceptances
      [.spawn Sample.order spawned spawnEnv, .status " r-1 " asked statusEnv] := by
    rw [accepted]
    exact .head _
  have law := get?_eq_account rfl chronicle rfl distinct member
  rw [show Sample.acceptance.runId = ⟨"r-1"⟩ from rfl, polled] at law
  exact ⟨_, h, _, chronicle, distinct, member, law, by decide, by decide, by decide⟩

end Delegation
