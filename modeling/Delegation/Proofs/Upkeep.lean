import Mathlib.Data.List.Nodup
import Delegation.Proofs.Bookkeeping
import Delegation.Proofs.Durations

/-!
# What the ledger keeps, whatever is written into it

Anybody may write into the ledger, and anything: reports and news with any texts and any timestamps.
Still every record stands under its own name and no name is listed twice, names are trimmed and not
blank, and a duration is never negative and never missing when both timestamps are there
(`Ledger.Sound`). One write keeps that (`Sound.write`), so any number of them do (`sound_written`).
`orderly_written` adds what a single write may and may not change.
-/

namespace Delegation

/-- A name as it is kept: trimmed, and not blank. -/
structure Name.Kept {kind : NameKind} (n : Name kind) : Prop where
  trimmed : Text.trim n.text = n.text
  solid : n.text ≠ ""

theorem Name.kept_of_parse? {kind : NameKind} {s : String} {n : Name kind}
    (hn : Name.parse? s = some n) : n.Kept := by
  obtain ⟨text, solid⟩ := Name.parse?_eq_some_iff.1 hn
  exact ⟨by rw [text, Text.trim_trim], by rw [text]; exact solid⟩

theorem Name.Kept.parse? {kind : NameKind} {n : Name kind} (kept : n.Kept) :
    Name.parse? n.text = some n :=
  Name.parse?_eq_some_iff.2 ⟨kept.trimmed.symm, by rw [kept.trimmed]; exact kept.solid⟩

/-! ## Single records -/

namespace RunRecord

/-- A record as the ledger keeps it. -/
structure Sound (r : RunRecord) : Prop where
  runId : r.runId.Kept
  agent : Text.trim r.agent.text = r.agent.text
  childSessionKey : ∀ key, r.childSessionKey = some key → key.Kept
  duration_nonneg : ∀ ms, r.durationMs = some ms → 0 ≤ ms.toInt
  duration_known : r.startedAt ≠ none → r.endedAt ≠ none → r.durationMs ≠ none

/-- A later record of the same run says at least as much: what was present is not gone. -/
structure Outgrows (r' r : RunRecord) : Prop where
  runId : r'.runId = r.runId
  agent : r'.agent = r.agent
  childSessionKey : r'.childSessionKey = none → r.childSessionKey = none
  output : r'.output = none → r.output = none
  error : r'.error = none → r.error = none
  startedAt : r'.startedAt = none → r.startedAt = none
  endedAt : r'.endedAt = none → r.endedAt = none
  durationMs : r'.durationMs = none → r.durationMs = none

theorem Outgrows.rfl {r : RunRecord} : r.Outgrows r :=
  ⟨Eq.refl _, Eq.refl _, id, id, id, id, id, id⟩

end RunRecord

/-- Whatever a report says, the record that it makes is sound. -/
theorem RunReport.sound_of_record? {report : RunReport} {r : RunRecord}
    (hr : report.record? = some r) : r.Sound := by
  obtain ⟨runId, named, rfl⟩ := Option.map_eq_some_iff.1 hr
  constructor
  · exact Name.kept_of_parse? named
  · exact Text.trim_trim report.agent
  · intro key hk
    obtain ⟨text, -, parsed⟩ := Option.bind_eq_some_iff.1 hk
    exact Name.kept_of_parse? parsed
  · intro ms hd
    rcases Option.or_eq_some_iff.1 hd with given | ⟨-, derived⟩
    · obtain ⟨ms', -, rfl⟩ := Option.map_eq_some_iff.1 given
      exact toInt_nonNegative_nonneg ms'
    · exact toInt_elapsed?_nonneg derived
  · intro started ended missing
    rcases elapsed?_eq_none_iff.1 (Option.or_eq_none_iff.1 missing).2 with none | none
    · exact started none
    · exact ended none

namespace RunRecord

variable {r : RunRecord}

/-- News keeps a record sound. -/
theorem Sound.amended (sound : r.Sound) (p : RunPatch) : (r.amended p).Sound := by
  constructor
  · exact sound.runId
  · exact sound.agent
  · intro key hk
    rcases Option.or_eq_some_iff.1 hk with new | ⟨-, old⟩
    · obtain ⟨text, -, parsed⟩ := Option.bind_eq_some_iff.1 new
      exact Name.kept_of_parse? parsed
    · exact sound.childSessionKey key old
  · intro ms hd
    unfold RunRecord.amended at hd
    dsimp only at hd
    split at hd
    · cases hd
      exact toInt_nonNegative_nonneg _
    · rcases Option.or_eq_some_iff.1 hd with derived | ⟨-, old⟩
      · exact toInt_elapsed?_nonneg derived
      · exact sound.duration_nonneg ms old
  · intro started ended missing
    unfold RunRecord.amended at missing
    dsimp only at missing
    split at missing
    · cases missing
    · rcases elapsed?_eq_none_iff.1 (Option.or_eq_none_iff.1 missing).1 with none | none
      · exact started none
      · exact ended none

/-- News takes nothing away. -/
theorem outgrows_amended (r : RunRecord) (p : RunPatch) : (r.amended p).Outgrows r where
  runId := rfl
  agent := rfl
  childSessionKey missing := (Option.or_eq_none_iff.1 missing).2
  output missing := (Option.or_eq_none_iff.1 missing).2
  error missing := (Option.or_eq_none_iff.1 missing).2
  startedAt missing := (Option.or_eq_none_iff.1 missing).2
  endedAt missing := (Option.or_eq_none_iff.1 missing).2
  durationMs missing := by
    unfold RunRecord.amended at missing
    dsimp only at missing
    split at missing
    · cases missing
    · exact (Option.or_eq_none_iff.1 missing).2

end RunRecord

/-! ## The list of records -/

namespace Ledger

variable {l : Ledger} {r : RunRecord} {id : RunId}

theorem mem_place {x : RunRecord} {rs : List RunRecord} (hx : x ∈ place r rs) :
    x = r ∨ x ∈ rs := by
  induction rs with
  | nil => exact .inl (List.mem_singleton.1 hx)
  | cons y rest ih =>
    unfold place at hx
    split at hx
    · rcases List.mem_cons.1 hx with rfl | hx
      · exact .inl rfl
      · exact .inr (.tail _ hx)
    · rcases List.mem_cons.1 hx with rfl | hx
      · exact .inr (.head _)
      · exact (ih hx).imp_right (.tail _)

/-- A name that is listed already stays where it is; a new one comes last. -/
theorem runIds_place (rs : List RunRecord) :
    (place r rs).map (·.runId) =
      if r.runId ∈ rs.map (·.runId) then rs.map (·.runId) else rs.map (·.runId) ++ [r.runId] := by
  induction rs with
  | nil => rfl
  | cons x rest ih =>
    unfold place
    by_cases hx : x.runId = r.runId
    · rw [if_pos hx, if_pos (by rw [List.map_cons, hx]; exact .head _), List.map_cons, List.map_cons,
        hx]
    · have later : r.runId ∈ (x :: rest).map (·.runId) ↔ r.runId ∈ rest.map (·.runId) := by
        rw [List.map_cons, List.mem_cons, or_iff_right (Ne.symm hx)]
      rw [if_neg hx, List.map_cons, ih]
      simp only [later]
      split <;> rfl

theorem nodup_put (distinct : l.runIds.Nodup) (r : RunRecord) : (l.put r).runIds.Nodup := by
  unfold runIds put
  rw [runIds_place]
  split
  · exact distinct
  · rename_i new
    refine List.nodup_append.2 ⟨distinct, List.nodup_singleton _, ?_⟩
    intro a ha b hb same
    rw [List.mem_singleton.1 hb] at same
    exact new (same ▸ ha)

theorem mem_runIds_iff : id ∈ l.runIds ↔ (l.find? id).isSome := by
  unfold runIds find?
  rw [List.find?_isSome, List.mem_map]
  simp only [decide_eq_true_eq]

theorem find?_of_mem (distinct : l.runIds.Nodup) (hr : r ∈ l.records) :
    l.find? r.runId = some r := by
  obtain ⟨x, hx⟩ := Option.isSome_iff_exists.1 (mem_runIds_iff.1 (List.mem_map_of_mem hr))
  rw [hx]
  exact congrArg some (List.inj_on_of_nodup_map distinct (List.mem_of_find?_eq_some hx) hr
    (runId_of_find? hx))

/-! ## Writes -/

/-- A ledger that is well kept. -/
structure Sound (l : Ledger) : Prop where
  distinct : l.runIds.Nodup
  records : ∀ r ∈ l.records, r.Sound

theorem sound_empty : Ledger.empty.Sound := ⟨List.nodup_nil, fun _ hr => nomatch hr⟩

theorem Sound.put (sound : l.Sound) (hr : r.Sound) : (l.put r).Sound where
  distinct := nodup_put sound.distinct r
  records x hx := by
    rcases mem_place hx with rfl | hx
    · exact hr
    · exact sound.records x hx

theorem Sound.of_get? (sound : l.Sound) {q : String} (hg : l.get? q = some r) : r.Sound := by
  obtain ⟨id, -, hf⟩ := Option.bind_eq_some_iff.1 hg
  exact sound.records r (List.mem_of_find?_eq_some hf)

/-- What can be written into the ledger. -/
inductive Write where
  | upsert (report : RunReport)
  | patch (id : String) (news : RunPatch)
  | ensure (report : RunReport)
  /-- Drop every record. -/
  | clear

/-- The ledger after a write. -/
def write (l : Ledger) : Write → Ledger
  | .upsert report => (l.upsert report).2
  | .patch id news => (l.patch id news).2
  | .ensure report => (l.ensure report).2
  | .clear => .empty

/-- The ledger after any number of writes, the first first. -/
def written (writes : List Write) : Ledger := writes.foldl write .empty

theorem Sound.write (sound : l.Sound) (w : Write) : (l.write w).Sound := by
  cases w with
  | upsert report =>
    show (l.upsert report).2.Sound
    unfold upsert
    split
    · rename_i r hr
      exact sound.put (RunReport.sound_of_record? hr)
    · exact sound
  | patch id news =>
    show (l.patch id news).2.Sound
    unfold patch
    split
    · rename_i r hg
      exact sound.put ((sound.of_get? hg).amended news)
    · exact sound
  | ensure report =>
    show (l.ensure report).2.Sound
    unfold ensure
    split
    · exact sound
    · rename_i r hr
      split
      · exact sound
      · exact sound.put (RunReport.sound_of_record? hr)
  | clear => exact sound_empty

theorem sound_written (writes : List Write) : (written writes).Sound := by
  have from_sound (l : Ledger) (sound : l.Sound) : (writes.foldl Ledger.write l).Sound := by
    induction writes generalizing l with
    | nil => exact sound
    | cons w writes ih => exact ih _ (sound.write w)
  exact from_sound .empty sound_empty

/-! ## What a write may change -/

/-- Two texts that name the same run are the same to the ledger. -/
theorem get?_congr {q q' : String} (same : Text.trim q = Text.trim q') (l : Ledger) :
    l.get? q = l.get? q' := by
  unfold get?
  rw [Name.parse?_congr same]

theorem patch_congr {q q' : String} (same : Text.trim q = Text.trim q') (p : RunPatch)
    (l : Ledger) : l.patch q p = l.patch q' p := by
  unfold patch
  rw [get?_congr same]

theorem record?_congr {q q' : String} (same : Text.trim q = Text.trim q') (report : RunReport) :
    ({ report with runId := q } : RunReport).record? =
      ({ report with runId := q' } : RunReport).record? := by
  unfold RunReport.record?
  rw [Name.parse?_congr same]

theorem record?_eq_none_iff {report : RunReport} :
    report.record? = none ↔ Text.trim report.runId = "" := by
  unfold RunReport.record?
  rw [Option.map_eq_none_iff, Name.parse?_eq_none_iff]

theorem parse?_of_record? {report : RunReport} (hr : report.record? = some r) :
    Name.parse? report.runId = some r.runId := by
  obtain ⟨runId, named, rfl⟩ := Option.map_eq_some_iff.1 hr
  exact named

theorem upsert_of_record? {report : RunReport} (hr : report.record? = some r) (l : Ledger) :
    l.upsert report = (some r, l.put r) := by
  unfold upsert
  rw [hr]

theorem text_of_get? {q : String} (hg : l.get? q = some r) : r.runId.text = Text.trim q := by
  obtain ⟨id, named, hf⟩ := Option.bind_eq_some_iff.1 hg
  rw [runId_of_find? hf]
  exact (Name.parse?_eq_some_iff.1 named).1

/-- News about whatever run: every record is still there, and none has lost anything. -/
theorem outgrows_patch (q : String) (p : RunPatch) (hf : l.find? id = some r) :
    ∃ r', (l.patch q p).2.find? id = some r' ∧ r'.Outgrows r := by
  cases hg : l.get? q with
  | none =>
    rw [patch_of_get?_eq_none p hg]
    exact ⟨r, hf, .rfl⟩
  | some x =>
    rw [patch_of_get? p hg]
    by_cases same : x.runId = id
    · obtain ⟨id', -, hx⟩ := Option.bind_eq_some_iff.1 hg
      have hx : l.find? id = some x := by
        rw [← same, runId_of_find? hx]
        exact hx
      cases hf.symm.trans hx
      refine ⟨r.amended p, ?_, r.outgrows_amended p⟩
      rw [← same]
      exact find?_put_self (r.amended p) l
    · exact ⟨r, (find?_put_of_ne (r := x.amended p) same l).trans hf, .rfl⟩

/-- How a ledger is kept, and what any single write into it may change. -/
structure Orderly (l : Ledger) : Prop where
  sound : l.Sound
  /-- A record stands under its own name. -/
  own_name : ∀ r ∈ l.records, l.get? r.runId.text = some r
  found : ∀ q r, l.get? q = some r → r ∈ l.records ∧ r.runId.text = Text.trim q
  listed : ∀ q, (⟨Text.trim q⟩ : RunId) ∈ l.runIds ↔ ∃ r, l.get? q = some r
  /-- The blanks around a name do not matter. -/
  alike : ∀ q q', Text.trim q = Text.trim q' →
    l.get? q = l.get? q' ∧ (∀ p, l.patch q p = l.patch q' p) ∧
    ∀ report : RunReport,
      l.upsert { report with runId := q } = l.upsert { report with runId := q' } ∧
      l.ensure { report with runId := q } = l.ensure { report with runId := q' }
  unnamed : ∀ report : RunReport, Text.trim report.runId = "" →
    l.upsert report = (none, l) ∧ l.ensure report = (none, l)
  entered : ∀ report : RunReport, Text.trim report.runId ≠ "" →
    ∃ r l', l.upsert report = (some r, l') ∧ l'.get? report.runId = some r ∧
      ∀ id, id ≠ r.runId → l'.find? id = l.find? id
  known : ∀ (report : RunReport) r, l.get? report.runId = some r → l.ensure report = (some r, l)
  unknown : ∀ q p, l.get? q = none → l.patch q p = (none, l)
  patched : ∀ q p id r, l.find? id = some r →
    ∃ r', (l.patch q p).2.find? id = some r' ∧ r'.Outgrows r

theorem Sound.get?_text (sound : l.Sound) (hr : r ∈ l.records) : l.get? r.runId.text = some r := by
  rw [get?_of_parse? (sound.records r hr).runId.parse?]
  exact find?_of_mem sound.distinct hr

/-- The list of names has exactly those under which something is found. -/
theorem Sound.mem_runIds_trim (sound : l.Sound) (q : String) :
    (⟨Text.trim q⟩ : RunId) ∈ l.runIds ↔ ∃ r, l.get? q = some r := by
  by_cases blank : Text.trim q = ""
  · have nothing : l.get? q = none := by
      unfold get?
      rw [Name.parse?_eq_none_iff.2 blank]
      rfl
    rw [nothing, blank]
    constructor
    · intro listed
      obtain ⟨r, hr, named⟩ := List.mem_map.1 listed
      exact absurd (congrArg Name.text named) (sound.records r hr).runId.solid
    · rintro ⟨r, hr⟩
      cases hr
  · have parsed : Name.parse? q = some (⟨Text.trim q⟩ : RunId) :=
      Name.parse?_eq_some_iff.2 ⟨rfl, blank⟩
    rw [get?_of_parse? parsed, mem_runIds_iff, Option.isSome_iff_exists]

theorem Sound.orderly (sound : l.Sound) : l.Orderly where
  sound := sound
  own_name r hr := sound.get?_text hr
  found q r hg := by
    obtain ⟨id, -, hf⟩ := Option.bind_eq_some_iff.1 hg
    exact ⟨List.mem_of_find?_eq_some hf, text_of_get? hg⟩
  listed := sound.mem_runIds_trim
  alike q q' same := by
    refine ⟨get?_congr same l, fun p => patch_congr same p l, fun report => ?_⟩
    unfold upsert ensure
    rw [record?_congr same report]
    exact ⟨rfl, rfl⟩
  unnamed report blank := by
    unfold upsert ensure
    rw [record?_eq_none_iff.2 blank]
    exact ⟨rfl, rfl⟩
  entered report solid := by
    cases hr : report.record? with
    | none => exact absurd (record?_eq_none_iff.1 hr) solid
    | some r =>
      refine ⟨r, l.put r, upsert_of_record? hr l, ?_, fun id other => ?_⟩
      · rw [get?_of_parse? (parse?_of_record? hr)]
        exact find?_put_self r l
      · exact find?_put_of_ne other.symm l
  known report r hg := by
    obtain ⟨id, named, hf⟩ := Option.bind_eq_some_iff.1 hg
    have record : ∃ x, report.record? = some x ∧ x.runId = id := by
      unfold RunReport.record?
      rw [named]
      exact ⟨_, rfl, rfl⟩
    obtain ⟨x, hx, rfl⟩ := record
    unfold ensure
    rw [hx]
    dsimp only
    rw [hf]
  unknown q p missing := patch_of_get?_eq_none p missing
  patched q p id r hf := outgrows_patch q p hf

/-- Whatever was written, and in whatever order: the ledger is in order, and stays so. -/
theorem orderly_written (writes : List Write) : (written writes).Orderly :=
  (sound_written writes).orderly

/-- Blanks around the names, a status that is none, timestamps at the two ends of their range, and
a duration below zero. -/
def unruly : List Write :=
  [.upsert
      { runId := " r-1 ", agent := " technical ", status := some "lost"
        childSessionKey := some "  ", startedAt := some Int64.minValue
        endedAt := some Int64.maxValue },
    .ensure { runId := "  ", agent := "technical" },
    .patch "r-1\t" { childSessionKey := some " child ", durationMs := some (-5) }]

theorem orderly_written_sample : ∃ r, (written unruly).get? "r-1" = some r ∧ r.Sound ∧
    r.status = .running ∧ r.childSessionKey = some ⟨"child"⟩ ∧ r.durationMs = some 0 ∧
    (written unruly).ensure { runId := "r-1 ", agent := "other" } = (some r, written unruly) := by
  have orderly := orderly_written unruly
  obtain ⟨r, hr⟩ := (orderly.listed "r-1").1 (by decide)
  have sound := orderly.sound.records r (orderly.found _ r hr).1
  cases hr
  exact ⟨_, rfl, sound, rfl, rfl, by decide, orderly.known _ _ rfl⟩

end Ledger

end Delegation
