import Delegation.Envelope
import Delegation.Memory.Basic
import Delegation.Proofs.Codec
import Delegation.Report

/-!
# What callers are told can be read back

Every record that the program hands out is decoded again from what was written of it, in all forms
in which it may be held (`wire_round_trip`). A field whose two sides drift apart would break its
record's codec here: each record is taken field by field, in the shape of its layout.

The verdict of a sending is not written. It is the only thing that is lost.
-/

namespace Delegation

open Json (Source Faithful RoundTrips faithful_bool faithful_string faithful_variant)
open Json.Layout
open Remote (SendOutcome)

/-! ## What is not kept -/

def Remote.SendOutcome.withoutVerdict (o : SendOutcome) : SendOutcome := { o with verdict := none }

def SpawnResult.withoutVerdict (r : SpawnResult) : SpawnResult :=
  { r with sessionsSend := r.sessionsSend.map SendOutcome.withoutVerdict }

section
variable {ν : Type} [Source ν]

/-! ## Single values -/

theorem Name.faithful {kind : NameKind} :
    Faithful (ν := ν) (α := Name kind) Name.encode Name.decode id where
  neat n := .str n.text
  solid _ := Json.noConfusion
  reads n v shown := by
    have decoded := faithful_string.reads n.text v shown
    simp [Name.decode, decoded, Except.map]
  settled _ _ _ := rfl

theorem int64_inRange (i : Int64) : int64Min ≤ i.toInt ∧ i.toInt ≤ int64Max := by
  have least := i.le_toInt
  have greatest := i.toInt_lt
  simp only [int64Min, int64Max]
  omega

theorem faithful_int64 : Faithful (ν := ν) encodeInt64 Json.decodeInt64 id where
  neat i := by
    obtain ⟨least, greatest⟩ := int64_inRange i
    refine .int ⟨least, ?_⟩
    simp only [int64Max, wordMax] at greatest ⊢
    omega
  solid _ := Json.noConfusion
  reads i v shown := by
    cases shown with
    | num seen => simp [Json.decodeInt64, seen, int64_inRange i]
  settled _ _ _ := rfl

theorem faithful_word (expected : String) :
    Faithful (ν := ν) encodeWord (Json.decodeWord expected) id where
  neat n := by
    have greatest := n.toNat_lt
    refine .int ⟨?_, ?_⟩ <;> simp only [int64Min, wordMax] <;> omega
  solid _ := Json.noConfusion
  reads n v shown := by
    cases shown with
    | num seen =>
      have inRange : n.toNat ≤ wordMax := by
        have greatest := n.toNat_lt
        simp only [wordMax]
        omega
      simp [Json.decodeWord, seen, inRange]
  settled _ _ _ := rfl

theorem Status.faithful : Faithful (ν := ν) Status.encode Status.decode id :=
  faithful_variant (fun s => by cases s <;> decide) (by decide)

theorem LookupStatus.faithful :
    Faithful (ν := ν) LookupStatus.encode LookupStatus.decode id := by
  refine faithful_variant (fun s => ?_) (by decide)
  cases s with
  | known s => cases s <;> decide
  | notFound => decide

theorem Backend.faithful : Faithful (ν := ν) Backend.encode Backend.decode id :=
  faithful_variant (fun b => by cases b <;> decide) (by decide)

theorem Code.faithful : Faithful (ν := ν) Code.encode Code.decode id :=
  faithful_variant (fun c => by cases c <;> decide) (by decide)

/-! ## Records -/

theorem SpawnInfo.faithful : Faithful (ν := ν) SpawnInfo.encode SpawnInfo.decode id := by
  refine .record (by simp) (fun i => ⟨_, _, ?_, ?_,
    (agrees_required Backend.faithful i.mode).map SpawnInfo.mk
      |>.ap (agrees_entryIf faithful_string i.warning)⟩) fun _ _ _ => rfl
  · simp [SpawnInfo.encode]
  · simp

theorem RunRecord.faithful : Faithful (ν := ν) RunRecord.encode RunRecord.decode id := by
  refine .record (by simp) (fun r => ⟨_, _, ?_, ?_,
    (agrees_required Name.faithful r.runId).map RunRecord.mk
      |>.ap (agrees_required Name.faithful r.agent)
      |>.ap (agrees_required Status.faithful r.status)
      |>.ap (agrees_entryIf Name.faithful r.childSessionKey)
      |>.ap (agrees_nullable faithful_string r.output)
      |>.ap (agrees_nullable faithful_string r.error)
      |>.ap (agrees_omissible faithful_int64 r.startedAt)
      |>.ap (agrees_omissible faithful_int64 r.endedAt)
      |>.ap (agrees_omissible faithful_int64 r.durationMs)⟩) fun _ _ _ => rfl
  · simp [RunRecord.encode]
  · simp

theorem MemoryReport.faithful :
    Faithful (ν := ν) MemoryReport.encode MemoryReport.decode id := by
  refine .record (by simp) (fun r => ⟨_, _, ?_, ?_,
    (agrees_required faithful_bool r.persisted).map MemoryReport.mk
      |>.ap (agrees_entryIf faithful_string r.entryId)
      |>.ap (agrees_defaulted (faithful_word "usize") 0 r.captured)
      |>.ap (agrees_entryIf faithful_string r.reason)⟩) fun _ _ _ => rfl
  · simp [MemoryReport.encode]
  · simp

/-- An outcome that was decoded has no verdict. -/
theorem Remote.SendOutcome.verdict_of_decode {v : ν} {o : SendOutcome}
    (decoded : SendOutcome.decode v = .ok o) : o.verdict = none := by
  refine Always.decode (P := fun o => o.verdict = none) ?_ decoded
  refine .ap_any <| .ap_any <| .ap_any <| .ap_any <| always_map ?_
  intros
  rfl

theorem Remote.SendOutcome.faithful :
    Faithful (ν := ν) SendOutcome.encode SendOutcome.decode SendOutcome.withoutVerdict := by
  refine .record (by simp) (fun o => ⟨_, _, ?_, ?_,
    (agrees_required faithful_bool o.attempted).map (fun attempted status runId reply error =>
        SendOutcome.mk attempted status runId reply error none)
      |>.ap (agrees_required faithful_string o.status)
      |>.ap (agrees_nullable Name.faithful o.runId)
      |>.ap (agrees_nullable faithful_string o.reply)
      |>.ap (agrees_nullable faithful_string o.error)⟩) fun v o decoded => ?_
  · simp [SendOutcome.encode]
  · simp [SendOutcome.withoutVerdict]
  · obtain ⟨attempted, status, runId, reply, error, verdict⟩ := o
    have none : verdict = none := SendOutcome.verdict_of_decode decoded
    rw [none]
    rfl

theorem SpawnResult.faithful :
    Faithful (ν := ν) SpawnResult.encode SpawnResult.decode SpawnResult.withoutVerdict := by
  refine .record (by simp) (fun r => ⟨_, _, ?_, ?_,
    (agrees_nullable Name.faithful r.runId).map SpawnResult.mk
      |>.ap (agrees_required Name.faithful r.agent)
      |>.ap (agrees_required Status.faithful r.status)
      |>.ap (agrees_nullable faithful_string r.output)
      |>.ap (agrees_nullable faithful_int64 r.durationMs)
      |>.ap (agrees_nullable faithful_string r.error)
      |>.ap (agrees_entryIf Name.faithful r.childSessionKey)
      |>.ap (agrees_required SpawnInfo.faithful r.spawn)
      |>.ap (agrees_entryIf SendOutcome.faithful r.sessionsSend)
      |>.ap (agrees_entryIf MemoryReport.faithful r.memory)⟩) fun v r decoded => ?_
  · simp [SpawnResult.encode]
  · simp [SpawnResult.withoutVerdict]
  · refine Always.decode (P := fun r => r.withoutVerdict = r) ?_ decoded
    -- Of the ten fields only the one that holds an outcome can lose anything.
    refine .ap_any (.ap ?_ (always_omissible SendOutcome.faithful))
    refine .ap_any <| .ap_any <| .ap_any <| .ap_any <| .ap_any <| .ap_any <| .ap_any <|
      always_map ?_
    intros
    simp [SpawnResult.withoutVerdict, *]

theorem StatusReport.faithful :
    Faithful (ν := ν) StatusReport.encode StatusReport.decode id := by
  refine .record (by simp) (fun r => ⟨_, _, ?_, ?_,
    (agrees_required faithful_string r.runId).map StatusReport.mk
      |>.ap (agrees_required faithful_string r.agent)
      |>.ap (agrees_required LookupStatus.faithful r.status)
      |>.ap (agrees_nullable faithful_string r.output)
      |>.ap (agrees_nullable faithful_int64 r.durationMs)
      |>.ap (agrees_nullable faithful_string r.error)⟩) fun _ _ _ => rfl
  · simp [StatusReport.encode]
  · simp

theorem MemoryEntry.faithful : Faithful (ν := ν) MemoryEntry.encode MemoryEntry.decode id := by
  refine .record (by simp) (fun e => ⟨_, _, ?_, ?_,
    (agrees_required faithful_string e.content).map MemoryEntry.mk
      |>.ap (agrees_nullable Name.faithful e.agent)
      |>.ap (agrees_nullable Name.faithful e.sourceRun)
      |>.ap (agrees_required faithful_string.list e.tags)⟩) fun _ _ _ => rfl
  · simp [MemoryEntry.encode]
  · simp

theorem Session.faithful : Faithful (ν := ν) Session.encode Session.decode id := by
  refine .record (by simp) (fun s => ⟨_, _, ?_, ?_,
    (agrees_required Name.faithful s.key).map Session.mk
      |>.ap (agrees_entryIf faithful_string s.agentId)
      |>.ap (agrees_entryIf faithful_string s.channel)
      |>.ap (agrees_entryIf faithful_string s.accountId)⟩) fun _ _ _ => rfl
  · simp [Session.encode]
  · simp

/-- An envelope is as faithful as its data. -/
theorem Envelope.faithful {α : Type} {encode : α → Json} {decode : ν → Json.Decoded α}
    {kept : α → α} (codec : Faithful encode decode kept) :
    Faithful (Envelope.encode encode) (Envelope.decode decode) (Envelope.map kept) := by
  refine .record (by simp) (fun e => ⟨_, _, ?_, ?_,
    (agrees_required faithful_bool e.ok).map Envelope.mk
      |>.ap (agrees_required Code.faithful e.code)
      |>.ap (agrees_nullable faithful_string e.error)
      |>.ap (agrees_nullable codec e.data)⟩) fun v e decoded => ?_
  · simp [Envelope.encode]
  · simp [Envelope.map]
  · refine Always.decode (P := fun e => e.map kept = e) ?_ decoded
    refine .ap (.ap_any <| .ap_any <| always_map ?_) (always_nullable codec)
    intros
    simp [Envelope.map, *]

end

/-! ## There and back -/

/-- Every record is decoded from its document as it was, whether the document is held as it was
written, with its keys in ascending order or as a text; only the verdict of a sending is lost. So
a record that was decoded from anything at all comes back whole when it is written and decoded
again. -/
theorem wire_round_trip :
    RoundTrips RunRecord.encode RunRecord.decode id ∧
      RoundTrips SpawnResult.encode SpawnResult.decode SpawnResult.withoutVerdict ∧
      RoundTrips StatusReport.encode StatusReport.decode id ∧
      RoundTrips SendOutcome.encode SendOutcome.decode SendOutcome.withoutVerdict ∧
      RoundTrips MemoryReport.encode MemoryReport.decode id ∧
      RoundTrips MemoryEntry.encode MemoryEntry.decode id ∧
      RoundTrips Session.encode Session.decode id ∧
      RoundTrips (Envelope.encode SpawnResult.encode) (Envelope.decode SpawnResult.decode)
        (Envelope.map SpawnResult.withoutVerdict) ∧
      RoundTrips (Envelope.encode StatusReport.encode) (Envelope.decode StatusReport.decode) id ∧
      ∀ {ν : Type} [Source ν] (v : ν) (o : SendOutcome),
        SendOutcome.decode v = .ok o → o.verdict = none := by
  have reports : RoundTrips (Envelope.encode StatusReport.encode)
      (Envelope.decode StatusReport.decode) id := by
    have codec := Faithful.roundTrips (Envelope.faithful StatusReport.faithful)
    have same : (Envelope.map id : Envelope StatusReport → _) = id := funext Envelope.map_id
    rwa [same] at codec
  exact ⟨Faithful.roundTrips RunRecord.faithful, Faithful.roundTrips SpawnResult.faithful,
    Faithful.roundTrips StatusReport.faithful, Faithful.roundTrips SendOutcome.faithful,
    Faithful.roundTrips MemoryReport.faithful, Faithful.roundTrips MemoryEntry.faithful,
    Faithful.roundTrips Session.faithful,
    Faithful.roundTrips (Envelope.faithful SpawnResult.faithful), reports,
    fun _ _ => SendOutcome.verdict_of_decode⟩

/-- A record from an array that ends early is written as an object. -/
example :
    (RunRecord.decode <|
        Json.arr [.str "r-1", .str "coder", .str "running", .null, .null, .null]).map
          RunRecord.encode =
      .ok (.obj [("runId", .str "r-1"), ("agent", .str "coder"), ("status", .str "running"),
        ("output", .null), ("error", .null), ("startedAt", .null), ("endedAt", .null),
        ("durationMs", .null)]) := rfl

end Delegation
