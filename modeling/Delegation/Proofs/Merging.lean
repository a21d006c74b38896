import Delegation.Proofs.Upkeep

/-!
# News that is merged

News about a run may come in parts, twice, or in another order, and what the ledger says in the end
should not depend on that. It does not, as long as the parts carry no durations of their own: two
parts are as good as one (`amended_followedBy`), the same part twice is as good as once, and news
about different runs does not mix (`patch_patch_of_ne`). The duration is derived anew with every
part, so all of this rests on how durations are merged: `elapsed?_or_elapsed?` says that a duration
which was derived on the way is never left standing beside timestamps that give another.
-/

namespace Delegation

namespace RunPatch

/-- The news of two parts in one: of each field what the later part supplies, else what the earlier
one does. A status that is none of the five, and a blank key, supply nothing. -/
def followedBy (p q : RunPatch) : RunPatch where
  status := if (q.status.bind Status.parse?).isSome then q.status else p.status
  childSessionKey :=
    if (q.childSessionKey.bind fun key => (Name.parse? key : Option SessionKey)).isSome then
      q.childSessionKey
    else p.childSessionKey
  output := q.output.or p.output
  error := q.error.or p.error
  startedAt := q.startedAt.or p.startedAt
  endedAt := q.endedAt.or p.endedAt
  durationMs := q.durationMs.or p.durationMs

/-- Each timestamp comes in one of the two parts at most. -/
structure Apart (p q : RunPatch) : Prop where
  startedAt : p.startedAt = none ∨ q.startedAt = none
  endedAt : p.endedAt = none ∨ q.endedAt = none

theorem followedBy_self (p : RunPatch) : p.followedBy p = p := by
  simp [followedBy]

end RunPatch

/-! ## One record -/

theorem getD_bind_of_followed {β γ : Type} (read : β → Option γ) (p q : Option β) (last : γ) :
    ((if (q.bind read).isSome then q else p).bind read).getD last =
      (q.bind read).getD ((p.bind read).getD last) := by
  cases hq : q.bind read <;> simp [hq]

theorem or_bind_of_followed {β γ : Type} (read : β → Option γ) (p q : Option β)
    (last : Option γ) :
    ((if (q.bind read).isSome then q else p).bind read).or last =
      (q.bind read).or ((p.bind read).or last) := by
  cases hq : q.bind read <;> simp [hq]

theorem or_comm_of_apart {β : Type} {x y : Option β} (apart : x = none ∨ y = none) :
    x.or y = y.or x := by
  rcases apart with rfl | rfl <;> simp

/-- A duration that was derived from the earlier timestamps gives way to the one that all of them
give. -/
theorem elapsed?_or_elapsed? (start finish start' finish' last : Option Int64) :
    (elapsed? (start.or start') (finish.or finish')).or ((elapsed? start' finish').or last) =
      (elapsed? (start.or start') (finish.or finish')).or last := by
  cases start' with
  | none => rfl
  | some s =>
    cases finish' with
    | none => rfl
    | some f => cases start <;> cases finish <;> rfl

namespace RunRecord

variable {p q : RunPatch}

/-- News in two parts is news in one, if the earlier part carries no duration. A duration of its own
would be overwritten by one derived with the later part. -/
theorem amended_followedBy (r : RunRecord) (derived : p.durationMs = none) (q : RunPatch) :
    (r.amended p).amended q = r.amended (p.followedBy q) := by
  unfold amended RunPatch.followedBy
  simp only [derived, getD_bind_of_followed, or_bind_of_followed, Option.or_assoc, Option.or_none]
  cases q.durationMs with
  | some ms => rfl
  | none =>
    dsimp only
    congr 1
    exact elapsed?_or_elapsed? _ _ _ _ _

/-- The same news a second time is no news. -/
theorem amended_amended_self (r : RunRecord) (p : RunPatch) :
    (r.amended p).amended p = r.amended p := by
  cases given : p.durationMs with
  | none => rw [amended_followedBy r given, p.followedBy_self]
  | some ms =>
    unfold amended
    simp only [given, ← Option.or_assoc, Option.or_self]
    cases p.status.bind Status.parse? <;> rfl

/-- What the duration depends on. -/
theorem durationMs_amended_congr (r : RunRecord) (start : p.startedAt = q.startedAt)
    (finish : p.endedAt = q.endedAt) (duration : p.durationMs = q.durationMs) :
    (r.amended p).durationMs = (r.amended q).durationMs := by
  unfold amended
  rw [start, finish, duration]

/-- It does not matter which of the timestamps comes first. -/
theorem durationMs_amended_comm (r : RunRecord) (hp : p.durationMs = none)
    (hq : q.durationMs = none) (apart : p.Apart q) :
    ((r.amended q).amended p).durationMs = (r.amended (p.followedBy q)).durationMs := by
  rw [amended_followedBy r hq]
  refine r.durationMs_amended_congr (or_comm_of_apart apart.startedAt)
    (or_comm_of_apart apart.endedAt) ?_
  show p.durationMs.or q.durationMs = q.durationMs.or p.durationMs
  rw [hp, hq]

end RunRecord

/-! ## The ledger -/

namespace Ledger

variable {l : Ledger} {r r' : RunRecord} {id : String} {p q : RunPatch}

theorem place_place (same : r'.runId = r.runId) (rs : List RunRecord) :
    place r' (place r rs) = place r' rs := by
  induction rs with
  | nil => simp only [place, same, if_true]
  | cons x rest ih =>
    by_cases hx : x.runId = r.runId
    · simp only [place, hx, same, if_true]
    · simp only [place, hx, same, if_false, ih]

/-- Two records that take the places of others do not get in each other's way. -/
theorem place_comm (other : r.runId ≠ r'.runId) {rs : List RunRecord}
    (hr : r.runId ∈ rs.map (·.runId)) (hr' : r'.runId ∈ rs.map (·.runId)) :
    place r' (place r rs) = place r (place r' rs) := by
  induction rs with
  | nil => cases hr
  | cons x rest ih =>
    by_cases hx : x.runId = r.runId
    · have hx' : x.runId ≠ r'.runId := hx ▸ other
      simp only [place, hx, other, if_true, if_false]
    · by_cases hx' : x.runId = r'.runId
      · simp only [place, hx', other.symm, if_true, if_false]
      · simp only [place, hx, hx', if_false]
        rw [ih ((List.mem_cons.1 hr).resolve_left (Ne.symm hx))
          ((List.mem_cons.1 hr').resolve_left (Ne.symm hx'))]

/-- Of two records with one name the later one stays. -/
theorem put_put (same : r'.runId = r.runId) (l : Ledger) : (l.put r).put r' = l.put r' :=
  congrArg Ledger.mk (place_place same l.records)

theorem put_comm (other : r.runId ≠ r'.runId) (hr : r.runId ∈ l.runIds)
    (hr' : r'.runId ∈ l.runIds) : (l.put r).put r' = (l.put r').put r :=
  congrArg Ledger.mk (place_comm other hr hr')

theorem mem_runIds_of_get? (hg : l.get? id = some r) : r.runId ∈ l.runIds := by
  obtain ⟨name, -, hf⟩ := Option.bind_eq_some_iff.1 hg
  exact List.mem_map_of_mem (List.mem_of_find?_eq_some hf)

/-- What is found after news is the amended record. -/
theorem get?_patch (p : RunPatch) (hg : l.get? id = some r) :
    (l.patch id p).2.get? id = some (r.amended p) := by
  obtain ⟨name, named, hf⟩ := Option.bind_eq_some_iff.1 hg
  rw [patch_of_get? p hg, get?_of_parse? named, ← runId_of_find? hf]
  exact find?_put_self (r.amended p) l

/-- News about another run changes nothing. -/
theorem get?_patch_of_ne {id' : String} (apart : Text.trim id ≠ Text.trim id') (p : RunPatch)
    (l : Ledger) : (l.patch id p).2.get? id' = l.get? id' := by
  cases hg : l.get? id with
  | none => rw [patch_of_get?_eq_none p hg]
  | some r =>
    rw [patch_of_get? p hg]
    unfold get?
    cases named : (Name.parse? id' : Option RunId) with
    | none => rfl
    | some name =>
      have other : r.runId ≠ name := by
        intro same
        refine apart ?_
        rw [← text_of_get? hg, same]
        exact (Name.parse?_eq_some_iff.1 named).1
      exact find?_put_of_ne (r := r.amended p) other l

/-- Two pieces of news about one run leave one record of it. -/
theorem patch_patch (p q : RunPatch) (hg : l.get? id = some r) :
    (l.patch id p).2.patch id q =
      (some ((r.amended p).amended q), l.put ((r.amended p).amended q)) := by
  have same : ((r.amended p).amended q).runId = (r.amended p).runId := rfl
  rw [patch_of_get? q (get?_patch p hg), patch_of_get? p hg, put_put same]

theorem patch_followedBy (derived : p.durationMs = none) (id : String) (q : RunPatch)
    (l : Ledger) : (l.patch id p).2.patch id q = l.patch id (p.followedBy q) := by
  cases hg : l.get? id with
  | none => rw [patch_of_get?_eq_none p hg, patch_of_get?_eq_none q hg, patch_of_get?_eq_none _ hg]
  | some r => rw [patch_patch p q hg, patch_of_get? _ hg, r.amended_followedBy derived]

theorem patch_patch_self (id : String) (p : RunPatch) (l : Ledger) :
    (l.patch id p).2.patch id p = l.patch id p := by
  cases hg : l.get? id with
  | none => rw [patch_of_get?_eq_none p hg, patch_of_get?_eq_none p hg]
  | some r => rw [patch_patch p p hg, patch_of_get? _ hg, r.amended_amended_self]

/-- News about one run and news about another can change places. -/
theorem patch_patch_of_ne {id' : String} (apart : Text.trim id ≠ Text.trim id')
    (p q : RunPatch) (l : Ledger) :
    ((l.patch id p).2.patch id' q).2 = ((l.patch id' q).2.patch id p).2 := by
  cases hg : l.get? id with
  | none =>
    have still := get?_patch_of_ne apart.symm q l
    rw [hg] at still
    rw [patch_of_get?_eq_none p hg, patch_of_get?_eq_none p still]
  | some r =>
    cases hg' : l.get? id' with
    | none =>
      have still := get?_patch_of_ne apart p l
      rw [hg'] at still
      rw [patch_of_get?_eq_none q hg', patch_of_get?_eq_none q still]
    | some r' =>
      have still := get?_patch_of_ne apart.symm q l
      have still' := get?_patch_of_ne apart p l
      rw [hg] at still
      rw [hg'] at still'
      rw [patch_of_get? q still', patch_of_get? p still, patch_of_get? q hg', patch_of_get? p hg]
      have other : r.runId ≠ r'.runId := by
        intro same
        refine apart ?_
        rw [← text_of_get? hg, same, text_of_get? hg']
      have listed : (r.amended p).runId ∈ l.runIds := mem_runIds_of_get? (r := r) hg
      have listed' : (r'.amended q).runId ∈ l.runIds := mem_runIds_of_get? (r := r') hg'
      exact put_comm other listed listed'

/-- The duration that the ledger gives for a run. -/
def durationOf (l : Ledger) (id : String) : Option Int64 := (l.get? id).bind (·.durationMs)

theorem durationOf_patch_comm (hp : p.durationMs = none) (hq : q.durationMs = none)
    (apart : p.Apart q) (id : String) (l : Ledger) :
    ((l.patch id q).2.patch id p).2.durationOf id =
      (l.patch id (p.followedBy q)).2.durationOf id := by
  cases hg : l.get? id with
  | none => rw [patch_of_get?_eq_none q hg, patch_of_get?_eq_none p hg, patch_of_get?_eq_none _ hg]
  | some r =>
    unfold durationOf
    rw [get?_patch p (get?_patch q hg), get?_patch _ hg]
    exact r.durationMs_amended_comm hp hq apart

/-- The laws of merging. -/
theorem patch_laws (l : Ledger) (id : String) (p q : RunPatch) :
    (l.patch id p).2.patch id p = l.patch id p ∧
    (p.durationMs = none → q.durationMs = none →
      (l.patch id p).2.patch id q = l.patch id (p.followedBy q) ∧
      (p.Apart q →
        ((l.patch id p).2.patch id q).2.durationOf id =
            (l.patch id (p.followedBy q)).2.durationOf id ∧
          ((l.patch id q).2.patch id p).2.durationOf id =
            (l.patch id (p.followedBy q)).2.durationOf id)) ∧
    ∀ id', Text.trim id ≠ Text.trim id' →
      ((l.patch id p).2.patch id' q).2 = ((l.patch id' q).2.patch id p).2 := by
  refine ⟨patch_patch_self id p l, fun hp hq => ?_, fun id' apart => patch_patch_of_ne apart p q l⟩
  have fused := patch_followedBy hp id q l
  exact ⟨fused, fun apart => ⟨by rw [fused], durationOf_patch_comm hp hq apart id l⟩⟩

namespace Sample

/-- Two runs that were accepted. -/
def running : Ledger :=
  written [.upsert { runId := "r-1", agent := "technical" },
    .upsert { runId := "r-2", agent := "writer" }]

def begun : RunPatch := { status := some "lost", startedAt := some 1000 }

def finished : RunPatch := { status := some " Completed ", endedAt := some 3500 }

end Sample

/-- The end of a run is heard of before its beginning, and news of another run comes between. -/
theorem patch_laws_sample :
    (Sample.running.patch "r-1" Sample.begun).2.patch "r-1" Sample.finished =
        Sample.running.patch "r-1"
          { status := some " Completed ", startedAt := some 1000, endedAt := some 3500 } ∧
      ((Sample.running.patch "r-1" Sample.finished).2.patch "r-1" Sample.begun).2.durationOf "r-1" =
        some 2500 ∧
      ((Sample.running.patch "r-1" Sample.begun).2.patch " r-2 " Sample.finished).2 =
        ((Sample.running.patch " r-2 " Sample.finished).2.patch "r-1" Sample.begun).2 := by
  obtain ⟨-, fused, mixed⟩ := patch_laws Sample.running "r-1" Sample.begun Sample.finished
  obtain ⟨fused, timed⟩ := fused rfl rfl
  obtain ⟨-, reversed⟩ := timed ⟨.inr rfl, .inl rfl⟩
  exact ⟨fused, reversed.trans (by decide), mixed " r-2 " (by decide)⟩

end Ledger

end Delegation
