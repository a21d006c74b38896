import Delegation.Proofs.SideBySide
import Delegation.Proofs.Simulating

/-!
# The operations side by side

An operation mirrors itself: with collaborators that answer alike it asks the same, and its results
are the same, whatever two runs may differ in. Two dispatchers with one configuration mirror one
another as far as their dealings with the memory do (`mirrors_spawn`), and in status queries always
(`mirrors_status`).
-/

namespace Delegation

open Remote (spawnReply sendReply)

namespace Remote

/-- What a reply to a spawn comes to depends on the object that it holds, not on its shape. -/
theorem spawnReply_congr {a b : Reply Json} (same : a.map unwrapped = b.map unwrapped) :
    spawnReply a = spawnReply b := by
  cases a with
  | error reason =>
    cases b with
    | error reason' => cases same; rfl
    | ok => cases same
  | ok raw =>
    cases b with
    | error => cases same
    | ok raw' => exact congrArg Acceptance.ofAnswer (Except.ok.inj same)

theorem sendReply_congr {a b : Reply Json} (same : a.map unwrapped = b.map unwrapped) :
    sendReply a = sendReply b := by
  cases a with
  | error reason =>
    cases b with
    | error reason' => cases same; rfl
    | ok => cases same
  | ok raw =>
    cases b with
    | error => cases same
    | ok raw' => exact congrArg SendOutcome.ofAnswer (Except.ok.inj same)

end Remote

namespace Comparison

variable {c : Comparison} {α β : Type}

variable (c) in
/-- A procedure that asks the same, and ends with the same, if it is answered the same. -/
abbrev Mirrored (p : Procedure α) : Prop := c.Mirrors Eq p p

theorem mirrored_pure (a : α) : c.Mirrored (pure a) := .done rfl

theorem Mirrors.next {S : β → β → Prop} {p₁ p₂ : Procedure α} {f g : α → Procedure β}
    (mirrors : c.Mirrors Eq p₁ p₂) (rest : ∀ a, c.Mirrors S (f a) (g a)) :
    c.Mirrors S (p₁ >>= f) (p₂ >>= g) := by
  refine mirrors.bind ?_
  rintro a _ rfl
  exact rest a

/-! ## The remote side -/

theorem mirrored_call (call : Remote.MethodCall) : c.Mirrored (.call call) :=
  Mirrors.asking (q := .call call) rfl (dealt_of_not_isMemory rfl)

/-- An invocation under a fresh name, of which only the object counts that the reply holds. -/
theorem mirrored_invoking {tool : Remote.Tool} {invocation : CallId → Remote.Invocation}
    {read : Reply Json → α}
    (unnamed : ∀ i j, (Question.invoke (invocation i)).unnamed = .unnamed (.invoke (invocation j)))
    (congr : ∀ a b : Reply Json, a.map Remote.unwrapped = b.map Remote.unwrapped →
      read a = read b) :
    c.Mirrored (.mint tool >>= fun callId => .invoke (invocation callId) >>= fun reply =>
      pure (read reply)) := by
  refine .ask rfl (dealt_of_not_isMemory rfl) fun i j _ => ?_
  refine .ask (unnamed i j) (dealt_of_not_isMemory rfl) fun a b alike => ?_
  exact .done (congr a b (c.unwrapped_eq a b alike.replied))

theorem mirrored_remoteSpawn (r : Remote.SpawnRequest) : c.Mirrored (Remote.spawn r) := by
  rw [Remote.spawn_eq]
  exact mirrored_invoking (fun _ _ => rfl) fun _ _ => Remote.spawnReply_congr

theorem mirrored_remoteSend (r : Remote.SendRequest) : c.Mirrored (Remote.send r) := by
  rw [Remote.send_eq]
  exact mirrored_invoking (fun _ _ => rfl) fun _ _ => Remote.sendReply_congr

/-! ## Polls -/

variable (t : Tracker) (r : RunRecord)

theorem mirrored_backfill : c.Mirrored (t.backfill r) := by
  unfold Tracker.backfill
  split
  · exact mirrored_pure _
  · exact mirrored_pure _
  · unfold Remote.readLatestReply
    exact ((mirrored_call _).next fun _ => mirrored_pure _).next fun _ => mirrored_pure _

theorem mirrored_outputFor (s : Status) : c.Mirrored (t.outputFor r s) := by
  unfold Tracker.outputFor
  split
  · exact mirrored_pure _
  · exact (mirrored_backfill t r).next fun _ => mirrored_pure _

theorem mirrored_pollOnce (windowMs : UInt64) (soft : Bool) :
    c.Mirrored (t.pollOnce r windowMs soft) := by
  rw [Tracker.pollOnce_eq]
  unfold Remote.wait
  refine ((mirrored_call _).next fun _ => mirrored_pure _).next fun x => ?_
  cases x with
  | error reason => exact mirrored_pure _
  | ok outcome =>
    refine (mirrored_outputFor t r outcome.status).next fun output => ?_
    exact (Mirrors.asking rfl (dealt_of_not_isMemory rfl)).next fun _ => mirrored_pure _

theorem mirrored_reconcile (id : String) : c.Mirrored (t.reconcile id) := by
  unfold Tracker.reconcile
  refine (Mirrors.asking rfl (dealt_of_not_isMemory rfl)).next fun found => ?_
  cases found with
  | none => exact mirrored_pure _
  | some r =>
    dsimp only
    split
    · exact mirrored_pure _
    · exact (mirrored_pollOnce t r t.windowMs true).next fun _ => mirrored_pure _

/-! ## The parts of a spawn -/

theorem mirrored_spawnSimulated (agent : AgentName) (task : String) (o : SpawnOrder) :
    c.Mirrored (Dispatcher.spawnSimulated agent task o) := by
  unfold Dispatcher.spawnSimulated
  refine (Mirrors.asking rfl (dealt_of_not_isMemory rfl)).next fun found => ?_
  cases found with
  | error => exact mirrored_pure _
  | ok started =>
    dsimp only
    split
    · exact mirrored_pure _
    · exact (Mirrors.asking rfl (dealt_of_not_isMemory rfl)).next fun _ => mirrored_pure _

theorem mirrored_follow (d : Dispatcher) (agent : AgentName) (o : SpawnOrder)
    (a : Remote.Acceptance) : c.Mirrored (d.follow agent o a) := by
  unfold Dispatcher.follow
  refine (Mirrors.asking rfl (dealt_of_not_isMemory rfl)).next fun found => ?_
  cases found with
  | none => exact mirrored_pure _
  | some entered =>
    dsimp only
    split
    · exact mirrored_pure _
    · exact (mirrored_pollOnce _ _ _ _).next fun _ => mirrored_pure _

theorem mirrored_spawnRemote (d : Dispatcher) (agent : AgentName) (message : String)
    (session : Session) (o : SpawnOrder) :
    c.Mirrored (d.spawnRemote agent message session o) := by
  rw [Dispatcher.spawnRemote_eq]
  refine (mirrored_remoteSpawn _).next fun x => ?_
  cases x with
  | error f => exact mirrored_pure _
  | ok a => exact mirrored_follow d agent o a

theorem mirrored_dispatcherSend (d : Dispatcher) (agent : AgentName) (message : String)
    (session : Session) (o : SpawnOrder) : c.Mirrored (d.send agent message session o) := by
  rw [Dispatcher.dispatcherSend_eq]
  exact (mirrored_remoteSend _).next fun _ => mirrored_pure _

/-! ## The memory -/

theorem mirrored_augmented
    (dealt : ∀ query topK minScore, c.aside (.search query topK minScore) = false)
    (d : Dispatcher) (o : SpawnOrder) (task : String) : c.Mirrored (d.augmented o task) := by
  unfold Dispatcher.augmented
  split
  · unfold Recall.augment
    exact (Mirrors.asking rfl (dealt _ _ _)).next fun _ => mirrored_pure _
  · exact mirrored_pure _

theorem mirrored_memoryReport (dealt : ∀ q, c.aside q = false) (d : Dispatcher)
    (agent : AgentName) (task : String) (r : SpawnResult) :
    c.Mirrored (d.memoryReport agent task r) := by
  unfold Dispatcher.memoryReport
  split
  · exact mirrored_pure _
  · split
    · exact mirrored_pure _
    · split
      · split
        · exact mirrored_pure _
        · unfold Dispatcher.remember
          refine (Mirrors.asking rfl (dealt _)).next fun stored => ?_
          cases stored with
          | error reason => exact mirrored_pure _
          | ok entryId => exact (Mirrors.asking rfl (dealt _)).next fun _ => mirrored_pure _
      · exact mirrored_pure _

theorem mirrored_persisted (dealt : ∀ q, c.aside q = false) (d : Dispatcher) (o : SpawnOrder)
    (agent : AgentName) (task : String) (r : SpawnResult) :
    c.Mirrored (d.persisted o agent task r) := by
  unfold Dispatcher.persisted
  split
  · exact (mirrored_memoryReport dealt d agent task r).next fun _ => mirrored_pure _
  · exact mirrored_pure _

/-! ## Whole operations -/

section

variable {d₁ d₂ : Dispatcher} {view : SpawnResult → SpawnResult}

/-- A result that is remembered, or a failure, as far as `view` shows it. -/
theorem mirrors_finish {o : SpawnOrder} {agent : AgentName} {task : String}
    (persisted : ∀ r, c.Mirrors (fun r₁ r₂ => view r₁ = view r₂) (d₁.persisted o agent task r)
      (d₂.persisted o agent task r)) (x : Except Failure SpawnResult) :
    c.Mirrors (fun x₁ x₂ => (Dispatcher.outcomeEnvelope x₁).map view =
      (Dispatcher.outcomeEnvelope x₂).map view) (d₁.finish o agent task x)
      (d₂.finish o agent task x) := by
  cases x with
  | error f => exact .done rfl
  | ok r => exact (persisted r).map fun r₁ r₂ same => congrArg Envelope.success same

/-- Two dispatchers with one configuration carry out an order in the same way if they enrich its
task in the same way, and what they remember does not show. -/
theorem mirrors_spawn (config : d₁.config = d₂.config)
    (augmented : ∀ o task, c.Mirrors Eq (d₁.augmented o task) (d₂.augmented o task))
    (persisted : ∀ o agent task r, c.Mirrors (fun r₁ r₂ => view r₁ = view r₂)
      (d₁.persisted o agent task r) (d₂.persisted o agent task r)) (o : SpawnOrder) :
    c.Mirrors (fun e₁ e₂ => e₁.map view = e₂.map view) (d₁.spawn o) (d₂.spawn o) := by
  cases checked : o.checked with
  | error f =>
    unfold Dispatcher.spawn
    rw [checked]
    exact .done rfl
  | ok order =>
    obtain ⟨agent, task⟩ := order
    rw [Dispatcher.spawn_of_checked checked, Dispatcher.spawn_of_checked checked]
    refine Mirrors.map (R := fun x₁ x₂ => (Dispatcher.outcomeEnvelope x₁).map view =
      (Dispatcher.outcomeEnvelope x₂).map view) ?_ fun _ _ same => same
    cases backend : d₁.config.backend with
    | mock =>
      rw [Dispatcher.carryOut_of_mock backend, Dispatcher.carryOut_of_mock (config ▸ backend)]
      refine (augmented o task).next fun message => ?_
      exact (mirrored_spawnSimulated agent message o).next (mirrors_finish (persisted o agent task))
    | real =>
      cases caller : o.session with
      | none =>
        unfold Dispatcher.carryOut
        rw [← config, backend, caller]
        exact .done rfl
      | some session =>
        rw [Dispatcher.carryOut_of_real backend caller,
          Dispatcher.carryOut_of_real (config ▸ backend) caller]
        refine (augmented o task).next fun message => ?_
        have sends : d₂.send agent message session o = d₁.send agent message session o := by
          unfold Dispatcher.send Dispatcher.runTimeoutMs
          rw [config]
        have spawns : d₂.spawnRemote agent message session o =
            d₁.spawnRemote agent message session o := by
          unfold Dispatcher.spawnRemote Dispatcher.follow Dispatcher.runTimeoutMs Dispatcher.tracker
          rw [config]
        rw [sends, spawns]
        cases o.useSessionsSend with
        | true => exact (mirrored_dispatcherSend _ _ _ _ _).next fun _ => .done rfl
        | false =>
          exact (mirrored_spawnRemote _ _ _ _ _).next (mirrors_finish (persisted o agent task))

theorem mirrors_status (config : d₁.config = d₂.config) (q : String) :
    c.Mirrors Eq (d₁.status q) (d₂.status q) := by
  cases named : Text.nonBlank? q with
  | none =>
    unfold Dispatcher.status
    rw [named]
    exact .done rfl
  | some id =>
    rw [Dispatcher.status_of_named named, Dispatcher.status_of_named named]
    have looks : d₂.lookUp id = d₁.lookUp id := by
      unfold Dispatcher.lookUp Dispatcher.tracker
      rw [config]
    rw [looks]
    refine Mirrors.next ?_ fun _ => mirrored_pure _
    unfold Dispatcher.lookUp
    split
    · exact (Mirrors.asking rfl (dealt_of_not_isMemory rfl)).next fun _ => mirrored_pure _
    · exact mirrored_reconcile _ id

end

end Comparison

end Delegation
