import Delegation.Proofs.Chronicle
import Delegation.Proofs.Simulating
import Delegation.Tool

/-!
# What envelopes say

The parts of an envelope say one thing: it is ok exactly if its code is OK, and exactly if it has no
error; then it has data, and else only if a message was not delivered (`Envelope.Sound`). Both
operations answer with such envelopes on either backend, each with codes of its own (`Tool.codes`),
and `callNamed_disciplined` says it of the documents that the tools answer with, whatever the
arguments and whatever the collaborators do.
-/

namespace Delegation

open Remote (Entries)

variable {d : Dispatcher} {h h' : Host} {log : List Exchange}

/-- The codes of messages that were not delivered. -/
def Code.undelivered : List Code := [.sendFailed, .sendForbidden]

namespace Envelope

variable {α : Type}

/-- The parts of an envelope agree. -/
structure Sound (e : Envelope α) : Prop where
  ok_iff_code : e.ok = true ↔ e.code = .ok
  ok_iff_error : e.ok = true ↔ e.error = none
  data_of_ok : e.ok = true → e.data ≠ none
  data_of_failed : e.ok = false → (e.data ≠ none ↔ e.code ∈ Code.undelivered)

theorem sound_success (data : α) : (success data).Sound where
  ok_iff_code := ⟨fun _ => rfl, fun _ => rfl⟩
  ok_iff_error := ⟨fun _ => rfl, fun _ => rfl⟩
  data_of_ok _ := nofun
  data_of_failed failed := nomatch failed

/-- A failure without data is none of a message. -/
theorem sound_failure {code : Code} (message : String)
    (coded : code ∉ Code.ok :: Code.undelivered) :
    (failure code message : Envelope α).Sound where
  ok_iff_code := ⟨nofun, fun same => absurd (same ▸ .head _) coded⟩
  ok_iff_error := ⟨nofun, nofun⟩
  data_of_ok well := nomatch well
  data_of_failed _ := ⟨fun there => absurd rfl there, fun sent => absurd (.tail _ sent) coded⟩

/-- A failure with data is one of a message. -/
theorem sound_failureWith {code : Code} (message : String) (data : α)
    (sent : code ∈ Code.undelivered) : (failureWith code message data).Sound where
  ok_iff_code := ⟨nofun, fun same => absurd ((show code = Code.ok from same) ▸ sent) (by decide)⟩
  ok_iff_error := ⟨nofun, nofun⟩
  data_of_ok well := nomatch well
  data_of_failed _ := ⟨fun _ => sent, fun _ => nofun⟩

end Envelope

/-! ## Codes -/

/-- The codes that a tool answers with on a backend. -/
def Tool.codes : Tool → Backend → List Code
  | .runStatus, .mock => [.ok, .invalidParams]
  | .runStatus, .real => [.ok, .invalidParams, .statusFailed]
  | .spawnExpert, .mock => [.ok, .invalidParams, .agentNotFound]
  | .spawnExpert, .real =>
    [.ok, .invalidParams, .missingSessionContext, .spawnFailed, .spawnForbidden, .sendFailed,
      .sendForbidden]

/-- An envelope that a tool may answer with. -/
structure Envelope.Fits {α : Type} (t : Tool) (backend : Backend) (e : Envelope α) : Prop where
  sound : e.Sound
  code_mem : e.code ∈ t.codes backend

namespace Envelope.Fits

variable {α : Type} {t : Tool} {backend : Backend}

theorem success (data : α) : (Envelope.success data).Fits t backend where
  sound := sound_success data
  code_mem := by
    show Code.ok ∈ t.codes backend
    cases t <;> cases backend <;> exact .head _

theorem failure {code : Code} (message : String) (coded : code ∈ t.codes backend)
    (plain : code ∉ Code.ok :: Code.undelivered) :
    (Envelope.failure code message : Envelope α).Fits t backend where
  sound := sound_failure message plain
  code_mem := coded

theorem invalidParams (message : String) :
    (Envelope.failure .invalidParams message : Envelope α).Fits t backend :=
  failure message (by cases t <;> cases backend <;> decide) (by decide)

end Envelope.Fits

theorem SpawnOrder.code_of_error {o : SpawnOrder} {f : Failure} (unchecked : o.checked = .error f) :
    f.code = .invalidParams := by
  unfold checked at unchecked
  split at unchecked
  · cases unchecked
    rfl
  · cases unchecked
    rfl
  · split at unchecked
    · cases unchecked
      rfl
    · cases unchecked

theorem Remote.code_of_spawnReply {reply : Reply Json} {f : Failure}
    (refusal : spawnReply reply = .error f) : f.code ∈ [Code.spawnFailed, .spawnForbidden] := by
  cases reply with
  | error reason =>
    cases refusal
    exact .head _
  | ok raw =>
    unfold spawnReply Acceptance.ofAnswer at refusal
    dsimp only at refusal
    split at refusal
    · cases refusal
      exact .tail _ (.head _)
    · split at refusal
      · split at refusal
        · cases refusal
        · cases refusal
          exact .head _
      · cases refusal
        exact .head _

theorem Remote.SendOutcome.code_of_failure? {o : SendOutcome} {f : Failure}
    (failed : o.failure? = some f) : f.code ∈ Code.undelivered := by
  unfold failure? at failed
  dsimp only at failed
  split at failed <;> cases failed <;> first | exact .head _ | exact .tail _ (.head _)

/-! ## The operations -/

namespace Dispatcher

variable {o : SpawnOrder}

theorem fits_of_checked {f : Failure} (unchecked : o.checked = .error f) (backend : Backend) :
    (Envelope.ofFailure f : Envelope SpawnResult).Fits .spawnExpert backend := by
  unfold Envelope.ofFailure
  rw [SpawnOrder.code_of_error unchecked]
  exact .invalidParams _

theorem SpawnCourse.fits {env : Envelope SpawnResult} (course : SpawnCourse d o h log env h') :
    env.Fits .spawnExpert .real := by
  cases course with
  | refused unchecked => exact fits_of_checked unchecked .real
  | sessionless => exact .failure _ (by decide) (by decide)
  | @sent agent _ _ _ _ _ _ _ _ reply =>
    show (Spawned.sent _ (Remote.sendReply reply).failure?).envelope.Fits .spawnExpert .real
    cases failed : (Remote.sendReply reply).failure? with
    | none => exact .success _
    | some f =>
      -- the one failure that carries data
      have coded := Remote.SendOutcome.code_of_failure? failed
      refine ⟨Envelope.sound_failureWith f.message _ coded, ?_⟩
      have listed : ∀ c ∈ Code.undelivered, c ∈ Tool.spawnExpert.codes .real := by
        decide
      exact listed f.code coded
  | refusedThere _ _ _ _ refusal =>
    have coded := Remote.code_of_spawnReply refusal
    have listed : ∀ c ∈ [Code.spawnFailed, .spawnForbidden], c ∈ Tool.spawnExpert.codes .real ∧
        c ∉ Code.ok :: Code.undelivered := by
      decide
    exact .failure _ (listed _ coded).1 (listed _ coded).2
  | taken => exact .success _

theorem SimulatedCourse.fits {env : Envelope SpawnResult}
    (course : SimulatedCourse d o h log env h') : env.Fits .spawnExpert .mock := by
  cases course with
  | refused unchecked => exact fits_of_checked unchecked .mock
  | unknown =>
    show (Envelope.failure Code.agentNotFound _).Fits .spawnExpert .mock
    exact .failure _ (by decide) (by decide)
  | started => exact .success _

theorem StatusCourse.fits {q : String} {env : Envelope StatusReport}
    (course : StatusCourse d q h log env h') : env.Fits .runStatus .real := by
  cases course with
  | blank => exact .invalidParams _
  | unknown | ended | answered => exact .success _
  | unanswered =>
    show (Envelope.failure Code.statusFailed _).Fits .runStatus .real
    exact .failure _ (by decide) (by decide)

theorem fits_spawn {env : Envelope SpawnResult} (hp : h.Performs (d.spawn o) log env h') :
    env.Fits .spawnExpert d.config.backend := by
  cases backend : d.config.backend with
  | real => exact ((performs_spawn backend).1 hp).fits
  | mock => exact (simulatedCourse_of_performs backend hp).fits

theorem fits_status {q : String} {env : Envelope StatusReport}
    (hp : h.Performs (d.status q) log env h') : env.Fits .runStatus d.config.backend := by
  cases backend : d.config.backend with
  | real => exact ((performs_status backend).1 hp).fits
  | mock =>
    cases named : Text.nonBlank? q with
    | none =>
      obtain ⟨-, rfl, -⟩ := (performs_status_of_blank named).1 hp
      exact .invalidParams _
    | some id =>
      obtain ⟨found, -, rfl⟩ := performs_status_simulated backend named hp
      cases found with
      | none => exact .success _
      | some r => exact .success _

end Dispatcher

/-! ## The documents -/

/-- What a tool answers: a document of four parts that agree, with a code that the tool and the
backend may have. -/
structure ToolAnswer.Disciplined (a : ToolAnswer) (name : String) (backend : Backend) (ok : Bool)
    (code : String) (error data : Json) : Prop where
  structured : a.structured =
    .obj [("ok", .bool ok), ("code", .str code), ("error", error), ("data", data)]
  isError : a.isError = !ok
  ok_iff_code : ok = true ↔ code = "OK"
  ok_iff_error : ok = true ↔ error = .null
  data_of_ok : ok = true → data ≠ .null
  data_of_failed : ok = false → (data ≠ .null ↔ code ∈ ["SEND_FAILED", "SEND_FORBIDDEN"])
  run_status : name = "delegate.run_status" → code ∈ ["OK", "INVALID_PARAMS", "STATUS_FAILED"]
  status_failed : code = "STATUS_FAILED" → backend = .real
  agent_not_found : code = "AGENT_NOT_FOUND" → backend = .mock
  remote : code ∈ ["MISSING_SESSION_CONTEXT", "SPAWN_FAILED", "SPAWN_FORBIDDEN", "SEND_FAILED",
    "SEND_FORBIDDEN"] → backend = .real

theorem Code.text_eq_ok_iff {c : Code} : c.text = "OK" ↔ c = .ok := by
  cases c <;> decide

theorem Code.text_mem_sent_iff {c : Code} :
    c.text ∈ ["SEND_FAILED", "SEND_FORBIDDEN"] ↔ c ∈ Code.undelivered := by
  cases c <;> decide

/-- What the codes of a tool look like. -/
theorem Tool.text_of_codes : ∀ (t : Tool) (backend : Backend), ∀ c ∈ t.codes backend,
    (t.name = "delegate.run_status" → c.text ∈ ["OK", "INVALID_PARAMS", "STATUS_FAILED"]) ∧
    (c.text = "STATUS_FAILED" → backend = .real) ∧ (c.text = "AGENT_NOT_FOUND" → backend = .mock) ∧
    (c.text ∈ ["MISSING_SESSION_CONTEXT", "SPAWN_FAILED", "SPAWN_FORBIDDEN", "SEND_FAILED",
      "SEND_FORBIDDEN"] → backend = .real) := by
  intro t backend
  cases t <;> cases backend <;> decide

theorem SpawnResult.encode_ne_null (r : SpawnResult) : r.encode ≠ .null := by
  unfold encode
  exact nofun

theorem StatusReport.encode_ne_null (r : StatusReport) : r.encode ≠ .null := by
  unfold encode
  exact nofun

theorem ofOption_eq_null_iff {α : Type} {write : α → Json} (written : ∀ a, write a ≠ .null)
    {x : Option α} : Json.ofOption write x = .null ↔ x = none := by
  cases x with
  | none => exact ⟨fun _ => rfl, fun _ => rfl⟩
  | some a => exact ⟨fun same => absurd same (written a), nofun⟩

theorem Envelope.Fits.disciplined {α : Type} {t : Tool} {backend : Backend} {e : Envelope α}
    (fits : e.Fits t backend) {write : α → Json} (written : ∀ a, write a ≠ .null) :
    (ToolAnswer.ofEnvelope write e).Disciplined t.name backend e.ok e.code.text
      (.ofOption .str e.error) (.ofOption write e.data) := by
  obtain ⟨run_status, status_failed, agent_not_found, remote⟩ :=
    t.text_of_codes backend e.code fits.code_mem
  exact
    { structured := rfl
      isError := rfl
      ok_iff_code := fits.sound.ok_iff_code.trans Code.text_eq_ok_iff.symm
      ok_iff_error := fits.sound.ok_iff_error.trans (ofOption_eq_null_iff nofun).symm
      data_of_ok := fun well null =>
        fits.sound.data_of_ok well ((ofOption_eq_null_iff written).1 null)
      data_of_failed := fun failed => by
        rw [Code.text_mem_sent_iff, ← fits.sound.data_of_failed failed, ne_eq, ne_eq,
          ofOption_eq_null_iff written]
      run_status, status_failed, agent_not_found, remote }

/-- The envelope that is behind the answer of a tool. -/
theorem Tool.disciplined_of_performs {t : Tool} {defaultSession : Option Session} {args : Entries}
    {answer : ToolAnswer} (hp : h.Performs (t.call d defaultSession args) log answer h') :
    ∃ ok code error data, answer.Disciplined t.name d.config.backend ok code error data := by
  unfold call at hp
  cases t with
  | spawnExpert =>
    dsimp only at hp
    cases decoded : SpawnArgs.decode (Json.obj args) with
    | ok a =>
      rw [decoded] at hp
      obtain ⟨env, spawned, rfl⟩ := Host.performs_map.1 hp
      exact ⟨_, _, _, _, (Dispatcher.fits_spawn spawned).disciplined SpawnResult.encode_ne_null⟩
    | error e =>
      rw [decoded] at hp
      obtain ⟨-, rfl, -⟩ := Host.performs_pure.1 hp
      exact ⟨_, _, _, _, (Envelope.Fits.invalidParams _).disciplined SpawnResult.encode_ne_null⟩
  | runStatus =>
    dsimp only at hp
    cases asked : (Json.find "runId" args).bind Json.text? with
    | some q =>
      rw [asked] at hp
      obtain ⟨env, reported, rfl⟩ := Host.performs_map.1 hp
      exact ⟨_, _, _, _, (Dispatcher.fits_status reported).disciplined StatusReport.encode_ne_null⟩
    | none =>
      rw [asked] at hp
      obtain ⟨-, rfl, -⟩ := Host.performs_pure.1 hp
      exact ⟨_, _, _, _, (Envelope.Fits.invalidParams _).disciplined StatusReport.encode_ne_null⟩

theorem Tool.find?_eq_none_iff {name : String} :
    find? name = none ↔ name ≠ "delegate.run_status" ∧ name ≠ "delegate.spawn_expert" := by
  unfold find?
  rw [List.find?_eq_none]
  simp [all, Tool.name, eq_comm]

/-- A call fails only for a name that is no tool's. Any other call comes to an end, and however it
goes, its answer is disciplined. -/
theorem Tool.callNamed_disciplined (d : Dispatcher) (defaultSession : Option Session)
    (name : String) (args : Entries) :
    (callNamed d defaultSession name args = none ↔
      name ≠ "delegate.run_status" ∧ name ≠ "delegate.spawn_expert") ∧
    ∀ p, callNamed d defaultSession name args = some p → ∀ h : Host,
      (∀ others : Behaviour, ∃ log answer h', h.Performs p log answer h' ∧ others.Shows log) ∧
      ∀ log answer h', h.Performs p log answer h' →
        ∃ ok code error data, answer.Disciplined name d.config.backend ok code error data := by
  refine ⟨?_, fun p called h => ⟨fun others => h.performs_of_behaviour others p, ?_⟩⟩
  · unfold callNamed
    rw [Option.map_eq_none_iff, find?_eq_none_iff]
  · intro log answer h' hp
    obtain ⟨t, found, rfl⟩ := Option.map_eq_some_iff.1 called
    have named : t.name = name := by simpa using List.find?_some found
    rw [← named]
    exact disciplined_of_performs hp

namespace Sample

/-- A message to an expert. -/
def messaging : Entries :=
  [("agent", .str "technical"), ("task", .str "fix it"), ("useSessionsSend", .bool true)]

end Sample

/-- A name that is no tool's, and a message that cannot be delivered. -/
theorem Tool.callNamed_disciplined_sample :
    callNamed Sample.dispatcher none "delegate.stop" [] = none ∧
    ∃ p log answer h' error data,
      callNamed Sample.dispatcher (some (.ofKey ⟨"main"⟩)) "delegate.spawn_expert"
        Sample.messaging = some p ∧
      Host.Performs (.ofConfig {}) p log answer h' ∧
      answer.Disciplined "delegate.spawn_expert" .real false "SEND_FAILED" error data ∧
      answer.isError = true ∧ data ≠ .null := by
  refine ⟨(callNamed_disciplined Sample.dispatcher none "delegate.stop" []).1.2 (by decide), ?_⟩
  obtain ⟨log, performed, -⟩ := Host.performs_alone (.ofConfig {})
    (Tool.spawnExpert.call Sample.dispatcher (some (.ofKey ⟨"main"⟩)) Sample.messaging)
  obtain ⟨ok, code, error, data, answered⟩ :=
    ((callNamed_disciplined Sample.dispatcher (some (.ofKey ⟨"main"⟩)) "delegate.spawn_expert"
      Sample.messaging).2 _ rfl (.ofConfig {})).2 log _ _ performed
  obtain ⟨reason, result, shape⟩ : ∃ reason result, (Host.alone (Tool.spawnExpert.call
      Sample.dispatcher (some (.ofKey ⟨"main"⟩)) Sample.messaging) (.ofConfig {})).1.structured =
      .obj [("ok", .bool false), ("code", .str "SEND_FAILED"), ("error", reason),
        ("data", result)] := ⟨_, _, rfl⟩
  cases answered.structured.symm.trans shape
  exact ⟨_, log, _, _, error, data, rfl, performed, answered, answered.isError,
    (answered.data_of_failed rfl).2 (by decide)⟩

end Delegation
