import Delegation.Proofs.Remembering

/-!
# A memory of no use

A memory whose searches all fail or find nothing leaves every task as it was given, and what it
answers when something is put into it does not show. So a dispatcher with such a memory does and
answers the same as one without any (`memory_unnoticed`), through any number of operations, but for
the memory parts of its results.
-/

namespace Delegation

/-- A search that failed, or found nothing. Of other exchanges nothing is said. -/
def Exchange.IsFruitless : Exchange → Prop
  | ⟨.search _ _ _, answer⟩ => answer = .ok [] ∨ ∃ reason, answer = .error reason
  | _ => True

/-- What is asked of the remote side and of the simulator, in order, the names of invocations left
out. -/
def errands (log : List Exchange) : List Question :=
  (log.map (·.question.unnamed)).filter fun q => q.isOutside && !q.isMemory

/-- Two runs may differ in what is asked of the memory; the second has one of no use. -/
def noUse : Comparison :=
  { keeping with
    aside := Question.isMemory
    isMemory := fun _ => id
    expected := Exchange.IsFruitless }

/-- A search without fruit leaves the task as it is. -/
theorem Recall.enriched_of_isFruitless {task query : String} {topK : UInt64}
    {minScore : Number.Single} {answer : Reply (List MemoryHit)}
    (fruitless : Exchange.IsFruitless ⟨.search query topK minScore, answer⟩) :
    enriched task answer = task := by
  rcases fruitless with rfl | ⟨reason, rfl⟩
  · simp [enriched, splice]
  · rfl

namespace Comparison

/-- With a memory of no use the same message is delegated as without one. -/
theorem mirrors_augmented (config : Config) (o : SpawnOrder) (task : String) :
    noUse.Mirrors Eq (Dispatcher.augmented ⟨config, false⟩ o task)
      (Dispatcher.augmented ⟨config, true⟩ o task) := by
  show noUse.Mirrors Eq (.done task) _
  unfold Dispatcher.augmented
  split
  · refine .second rfl fun answer fruitless => ?_
    show noUse.Mirrors Eq (.done task) (.done (Recall.enriched task answer))
    rw [Recall.enriched_of_isFruitless fruitless]
    exact .done rfl
  · exact .done rfl

theorem map_unnamed_of_alike {c : Comparison} {log₁ log₂ : List Exchange}
    (alike : List.Forall₂ c.Alike log₁ log₂) :
    log₁.map (·.question.unnamed) = log₂.map (·.question.unnamed) := by
  induction alike with
  | nil => rfl
  | cons alike _ ih => simp [alike.unnamed_eq, ih]

theorem errands_eq_dealings (log : List Exchange) :
    errands log = ((noUse.dealings log).map (·.question.unnamed)).filter Question.isOutside := by
  have dealt : noUse.dealings log = log.filter fun e => !e.question.isMemory := rfl
  rw [dealt]
  unfold errands
  induction log with
  | nil => rfl
  | cons e log ih =>
    have ih := ih rfl
    cases hm : e.question.isMemory <;>
      simp [hm, Question.isMemory_unnamed, List.filter_cons, ih]

/-- Runs that match ask the same of all others than the memory. -/
theorem Matches.errands_eq {log₁ log₂ : List Exchange} (same : noUse.Matches log₁ log₂) :
    errands log₁ = errands log₂ := by
  rw [errands_eq_dealings, errands_eq_dealings, map_unnamed_of_alike same]

end Comparison

/-- A memory of which every search fails or finds nothing is noticed by nobody: with it and without
it, the same is asked of the remote side and of the simulator, the same records are kept, and the
answers are the same but for the memory parts of results. -/
theorem memory_unnoticed {config : Config} {g₁ g₂ h₁ h₂ : Host} {es₁ es₂ : List Episode}
    (without : Chronicle ⟨config, false⟩ g₁ es₁ h₁) (within : Chronicle ⟨config, true⟩ g₂ es₂ h₂)
    (requests : es₁.map Episode.request = es₂.map Episode.request)
    (ledgers : g₁.ledger = g₂.ledger) (script : noUse.Agree (exchanges es₁) (exchanges es₂))
    (fruitless : ∀ e ∈ exchanges es₂, e.IsFruitless) :
    errands (exchanges es₁) = errands (exchanges es₂) ∧ h₁.ledger = h₂.ledger ∧
      es₁.map (Episode.answer SpawnResult.withoutMemory) =
        es₂.map (Episode.answer SpawnResult.withoutMemory) := by
  have spawns (o : SpawnOrder) : noUse.Mirrors
      (fun e₁ e₂ => e₁.map SpawnResult.withoutMemory = e₂.map SpawnResult.withoutMemory)
      (Dispatcher.spawn ⟨config, false⟩ o) (Dispatcher.spawn ⟨config, true⟩ o) := by
    refine Comparison.mirrors_spawn ?_ (Comparison.mirrors_augmented config) ?_ o
    · rfl
    · exact Comparison.mirrors_persisted (fun _ => Question.isMemory_of_isKeeping) _ _
  obtain ⟨same, answers, ledgers⟩ := Comparison.chronicles spawns
    (Comparison.mirrors_status rfl) without within requests ledgers script
    fun e he _ => fruitless e he
  exact ⟨same.errands_eq, ledgers, answers⟩

namespace Sample

/-- An order of which the task is to be enriched, and the result to be remembered. -/
def orderWithRecall : SpawnOrder := { orderToRemember with wantsRecall := some true }

/-- The search fails, and so does the storing. -/
def failingLog : List Exchange :=
  [⟨.search "sum up" 3 ({} : RecallConfig).minScore, .error "down"⟩,
    ⟨.simulate ⟨"memory"⟩ "sum up" none, .ok concluded⟩, ⟨.store summedUp, .error "full"⟩]

/-- What is exchanged without a memory. -/
def plainLog : List Exchange := [⟨.simulate ⟨"memory"⟩ "sum up" none, .ok concluded⟩]

/-- A run and a query about it, with the exchanges of the run. -/
def spawnAndQuery (log : List Exchange) (env : Envelope SpawnResult) : List Episode :=
  [.spawn orderWithRecall log env,
    .status " mock-1 " [⟨.observe ⟨"mock-1"⟩, some concluded⟩] (.success (.ofRecord concluded))]

theorem chronicle_spawnAndQuery {hasMemory : Bool} {log : List Exchange}
    {env : Envelope SpawnResult} {h h' : Host}
    (hp : h.Performs (Dispatcher.spawn ⟨{}, hasMemory⟩ orderWithRecall) log env h') :
    Chronicle ⟨{}, hasMemory⟩ h (spawnAndQuery log env) h' := by
  have first : Chronicle ⟨{}, hasMemory⟩ h ([] ++ [.spawn orderWithRecall _ _]) _ :=
    .next (e := .spawn orderWithRecall _ _) .start hp
  exact .next (e := .status " mock-1 " _ _) first (.ask (.standIn _ _ rfl) (.done _ _))

end Sample

/-- A memory that fails throughout. -/
theorem memory_unnoticed_sample : ∃ env₁ env₂ h₁ h₂,
    Chronicle ⟨{}, false⟩ (.ofConfig {}) (Sample.spawnAndQuery Sample.plainLog env₁) h₁ ∧
    Chronicle ⟨{}, true⟩ (.ofConfig {}) (Sample.spawnAndQuery Sample.failingLog env₂) h₂ ∧
    h₁.ledger = h₂.ledger ∧
    env₁.map SpawnResult.withoutMemory = env₂.map SpawnResult.withoutMemory := by
  have plain : Host.Performs (.ofConfig {}) (Dispatcher.spawn ⟨{}, false⟩ Sample.orderWithRecall)
      Sample.plainLog _ _ := .ask (.standIn _ _ rfl) (.done _ _)
  have failing : Host.Performs (.ofConfig {}) (Dispatcher.spawn ⟨{}, true⟩ Sample.orderWithRecall)
      Sample.failingLog _ _ :=
    .ask (.standIn _ _ rfl) (.ask (.standIn _ _ rfl) (.ask (.standIn _ _ rfl) (.done _ _)))
  have without := Sample.chronicle_spawnAndQuery plain
  have within := Sample.chronicle_spawnAndQuery failing
  have script (env₁ env₂ : Envelope SpawnResult) :
      noUse.Agree (exchanges (Sample.spawnAndQuery Sample.plainLog env₁))
        (exchanges (Sample.spawnAndQuery Sample.failingLog env₂)) := by
    refine Comparison.agree_of_forall fun e₁ he₁ e₂ he₂ outside dealt unnamed => ?_
    simp only [exchanges, Sample.spawnAndQuery, Sample.plainLog, Sample.failingLog, Episode.log,
      List.flatMap_cons, List.flatMap_nil, List.append_nil, List.cons_append, List.nil_append,
      List.mem_cons, List.not_mem_nil, or_false] at he₁ he₂
    rcases he₁ with rfl | rfl <;> rcases he₂ with rfl | rfl | rfl | rfl <;>
      first | exact .plain rfl | cases unnamed
  have fruitless (env₂ : Envelope SpawnResult) :
      ∀ e ∈ exchanges (Sample.spawnAndQuery Sample.failingLog env₂), e.IsFruitless := by
    simp [exchanges, Sample.spawnAndQuery, Sample.failingLog, Episode.log, Exchange.IsFruitless]
  obtain ⟨-, ledgers, answers⟩ := memory_unnoticed without within rfl rfl (script _ _) (fruitless _)
  refine ⟨_, _, _, _, without, within, ledgers, ?_⟩
  simpa [Sample.spawnAndQuery, Episode.answer] using answers

end Delegation
