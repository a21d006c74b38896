import Mathlib.Data.List.DropRight
import Mathlib.Data.List.Nodup
import Delegation.Proofs.Timeline

/-!
# What the simulator evicts

A simulator that is full evicts one run for each run that it starts (`yields_makeRoom`). The choice
looks at two things, whether a run is in flight and when it was started; but as the latency is the
same for every run, and none was started in the future, the runs that are over are also the older
ones. So the victim is always a run that was started first (`started_le_of_first`), and any such run
in some table (`exists_place_of_first`). If no two were started at one instant, the runs that are
kept are the latest (`Kept.latest`). `keeps_latest` is the whole law, for any number of events.
-/

namespace Delegation.Simulator

variable {s : Simulator} {now : Nat} {runs kept : List SimulatedRun} {v : SimulatedRun}

/-! ## The victim -/

theorem goesBefore_iff (a b : SimulatedRun) :
    s.goesBefore now a b = true ↔
      (s.inFlight now a = false ∧ s.inFlight now b = true) ∨
        s.inFlight now a = s.inFlight now b ∧ (a.started < b.started ∨
          a.started = b.started ∧ s.place a.runId < s.place b.runId) := by
  unfold goesBefore
  cases s.inFlight now a <;> cases s.inFlight now b <;> simp

/-- Of two runs of which neither goes before the other, and one and a third, the same holds of the
outer two: the choice is by a key. -/
theorem not_goesBefore_trans {a b c : SimulatedRun} (hab : s.goesBefore now b a = false)
    (hbc : s.goesBefore now c b = false) : s.goesBefore now c a = false := by
  rw [← Bool.not_eq_true, goesBefore_iff] at hab hbc ⊢
  cases ha : s.inFlight now a <;> cases hb : s.inFlight now b <;>
    cases hc : s.inFlight now c <;> simp [ha, hb, hc] at hab hbc ⊢ <;> omega

theorem not_goesBefore_self (a : SimulatedRun) : s.goesBefore now a a = false := by
  rw [← Bool.not_eq_true, goesBefore_iff]
  cases s.inFlight now a <;> simp

theorem not_goesBefore_of_goesBefore {a b : SimulatedRun} (h : s.goesBefore now a b = true) :
    s.goesBefore now b a = false := by
  rw [goesBefore_iff] at h
  rw [← Bool.not_eq_true, goesBefore_iff]
  cases ha : s.inFlight now a <;> cases hb : s.inFlight now b <;> simp [ha, hb] at h ⊢
  all_goals omega

theorem victim?_eq_none_iff : s.victim? now runs = none ↔ runs = [] := by
  cases runs with
  | nil => simp [victim?]
  | cons r runs =>
    simp only [victim?]
    split <;> simp

/-- The victim is one of the runs, and no other goes before it. -/
theorem victim?_spec (hv : s.victim? now runs = some v) :
    v ∈ runs ∧ ∀ r ∈ runs, s.goesBefore now r v = false := by
  induction runs generalizing v with
  | nil => cases hv
  | cons r runs ih =>
    simp only [victim?] at hv
    cases hw : s.victim? now runs with
    | none =>
      rw [hw] at hv
      cases hv
      have empty := victim?_eq_none_iff.1 hw
      subst empty
      simp [not_goesBefore_self]
    | some w =>
      rw [hw] at hv
      obtain ⟨member, first⟩ := ih hw
      by_cases before : s.goesBefore now w r = true
      · simp only [before, if_true, Option.some.injEq] at hv
        subst hv
        refine ⟨List.mem_cons_of_mem r member, ?_⟩
        intro a ha
        rcases List.mem_cons.1 ha with rfl | ha
        · exact not_goesBefore_of_goesBefore before
        · exact first a ha
      · simp only [before, Bool.false_eq_true, if_false, Option.some.injEq] at hv
        subst hv
        refine ⟨List.mem_cons_self, ?_⟩
        intro a ha
        rcases List.mem_cons.1 ha with rfl | ha
        · exact not_goesBefore_self a
        · exact not_goesBefore_trans (Bool.not_eq_true _ ▸ before) (first a ha)

/-- Nothing but the table decides between runs that started at one instant: any run that is in
flight only if all are, and that none was started before, is the victim in some table. -/
theorem exists_place_of_first (distinct : (runs.map (·.runId)).Nodup) (member : v ∈ runs)
    (finished : ∀ r ∈ runs, s.inFlight now v = true → s.inFlight now r = true)
    (oldest : ∀ r ∈ runs, s.inFlight now v = s.inFlight now r → v.started ≤ r.started) :
    ∃ place, ({ s with place } : Simulator).victim? now runs = some v := by
  refine ⟨fun id => if id = v.runId then 0 else 1, ?_⟩
  cases chosen : ({ s with place := _ } : Simulator).victim? now runs with
  | none =>
    rw [victim?_eq_none_iff.1 chosen] at member
    cases member
  | some w =>
    obtain ⟨among, first⟩ := victim?_spec chosen
    have named : w.runId = v.runId := by
      by_contra other
      -- the other one is not in front by flight or start, and has the place behind
      refine Bool.false_ne_true ((first v member).symm.trans (goesBefore_iff v w |>.2 ?_))
      show (s.inFlight now v = false ∧ s.inFlight now w = true) ∨
        s.inFlight now v = s.inFlight now w ∧ _
      by_cases level : s.inFlight now v = s.inFlight now w
      · refine .inr ⟨level, (Nat.lt_or_eq_of_le (oldest w among level)).imp_right fun same => ?_⟩
        exact ⟨same, by simp [other]⟩
      · refine .inl ?_
        cases hv : s.inFlight now v with
        | true => exact absurd (hv.trans (finished w among hv).symm) level
        | false =>
          rw [hv] at level
          exact ⟨rfl, eq_true_of_ne_false fun hw => level hw.symm⟩
    rw [List.inj_on_of_nodup_map distinct among member named]

/-- Whoever goes first was started first, since a run that is over was started before any that is
in flight. -/
theorem started_le_of_first {r : SimulatedRun} (first : s.goesBefore now r v = false)
    (hr : r.started ≤ now) : v.started ≤ r.started := by
  rw [← Bool.not_eq_true, goesBefore_iff] at first
  simp only [inFlight, decide_eq_decide, decide_eq_true_eq, decide_eq_false_iff_not] at first
  omega

/-- No run is a victim in flight while another is over. -/
theorem inFlight_of_first {r : SimulatedRun} (first : s.goesBefore now r v = false)
    (hv : s.inFlight now v = true) : s.inFlight now r = true := by
  rw [← Bool.not_eq_true, goesBefore_iff, hv] at first
  cases hr : s.inFlight now r <;> simp [hr] at first ⊢

/-! ## Making room -/

/-- What is kept when room is made for one more run: everything if there is room, and everything
but one run if there is none. -/
inductive Yields (s : Simulator) (now : Nat) : List SimulatedRun → List SimulatedRun → Prop
  | roomy {runs : List SimulatedRun} (room : runs.length < s.capacity) : Yields s now runs runs
  | full {before after : List SimulatedRun} {v : SimulatedRun}
    (full : (before ++ v :: after).length = s.capacity)
    (first : ∀ r ∈ before ++ after, s.goesBefore now r v = false) :
    Yields s now (before ++ v :: after) (before ++ after)

theorem makeRoom_of_lt (room : runs.length < s.capacity) (fuel : Nat) :
    s.makeRoom now fuel runs = runs := by
  cases fuel with
  | zero => rfl
  | succ fuel => simp [makeRoom, room]

/-- Runs go by their names: without the name of one, the others are left. -/
theorem filter_of_nodup {before after : List SimulatedRun}
    (distinct : ((before ++ v :: after).map (·.runId)).Nodup) :
    (before ++ v :: after).filter (·.runId ≠ v.runId) = before ++ after := by
  rw [List.map_append, List.map_cons, List.nodup_middle, List.nodup_cons] at distinct
  have others : ∀ r ∈ before ++ after, r.runId ≠ v.runId := by
    intro r hr same
    apply distinct.1
    rw [← List.map_append, ← same]
    exact List.mem_map_of_mem hr
  have rest : (before ++ after).filter (·.runId ≠ v.runId) = before ++ after :=
    List.filter_eq_self.2 fun r hr => decide_eq_true (others r hr)
  rw [List.filter_append] at rest ⊢
  simpa using rest

/-- One eviction makes room enough. -/
theorem yields_makeRoom (spare : 0 < s.capacity) (bounded : runs.length ≤ s.capacity)
    (distinct : (runs.map (·.runId)).Nodup) :
    s.Yields now runs (s.makeRoom now runs.length runs) := by
  by_cases room : runs.length < s.capacity
  · rw [makeRoom_of_lt room]
    exact .roomy room
  · have full : runs.length = s.capacity := by omega
    cases hv : s.victim? now runs with
    | none =>
      have empty := victim?_eq_none_iff.1 hv
      subst empty
      simp at full
      omega
    | some v =>
      obtain ⟨member, first⟩ := victim?_spec hv
      obtain ⟨before, after, rfl⟩ := List.append_of_mem member
      have made : s.makeRoom now (before ++ v :: after).length (before ++ v :: after) =
          before ++ after := by
        have more : (before ++ v :: after).length = (before ++ after).length + 1 := by
          simp only [List.length_append, List.length_cons]
          omega
        rw [more, makeRoom, if_neg room, hv]
        dsimp only
        rw [filter_of_nodup distinct]
        exact makeRoom_of_lt (by omega) _
      rw [made]
      refine .full full ?_
      intro r hr
      apply first
      simp only [List.mem_append, List.mem_cons] at hr ⊢
      rcases hr with hr | hr <;> simp [hr]

theorem Yields.sublist (yields : s.Yields now runs kept) : kept.Sublist runs := by
  cases yields with
  | roomy => exact List.Sublist.refl _
  | full => exact List.Sublist.append (List.Sublist.refl _) (List.sublist_cons_self _ _)

theorem Yields.length_lt (yields : s.Yields now runs kept) : kept.length < s.capacity := by
  cases yields with
  | roomy room => exact room
  | full full =>
    simp only [List.length_append, List.length_cons] at full ⊢
    omega

/-- What goes is the one run that nobody goes before, and it goes from a full simulator. -/
theorem Yields.gone (yields : s.Yields now runs kept) {w : SimulatedRun} (hw : w ∈ runs)
    (gone : w ∉ kept) :
    runs.length = s.capacity ∧ (∀ r ∈ kept, s.goesBefore now r w = false) ∧
      ∀ w' ∈ runs, w' ∉ kept → w = w' := by
  cases yields with
  | roomy => exact absurd hw gone
  | @full before after v full first =>
    have only : ∀ r ∈ before ++ v :: after, r ∉ before ++ after → r = v := by
      intro r hr left
      simp only [List.mem_append, List.mem_cons, not_or] at hr left
      rcases hr with hr | hr | hr
      · exact absurd hr left.1
      · exact hr
      · exact absurd hr left.2
    have same := only w hw gone
    subst same
    exact ⟨full, first, fun w' hw' gone' => (only w' hw' gone').symm⟩

/-! ## What is kept -/

namespace Scene

variable {x : Scene} {e : Event} {run : SimulatedRun} {past : List SimulatedRun}

/-- How a simulator stands to the runs that it has started so far. -/
structure Kept (x : Scene) (past : List SimulatedRun) : Prop where
  spare : 0 < x.simulator.capacity
  bounded : x.simulator.runs.length ≤ x.simulator.capacity
  sublist : x.simulator.runs.Sublist past
  /-- They were started one after the other, and none in the future. -/
  ordered : past.Pairwise fun a b => a.started ≤ b.started
  started : ∀ r ∈ past, r.started ≤ x.now

theorem Kept.yields (kept : x.Kept past) (distinct : (past.map (·.runId)).Nodup) :
    x.simulator.Yields x.now x.simulator.runs
      (x.simulator.makeRoom x.now x.simulator.runs.length x.simulator.runs) :=
  yields_makeRoom kept.spare kept.bounded (distinct.sublist (kept.sublist.map _))

theorem Kept.next (kept : x.Kept past)
    (distinct : ((past ++ (x.started? e).toList).map (·.runId)).Nodup) :
    (x.next e).Kept (past ++ (x.started? e).toList) := by
  cases hr : x.started? e with
  | none =>
    have same := next_of_started_none hr
    simp only [Option.toList_none, List.append_nil]
    exact ⟨by rw [same]; exact kept.spare, by rw [same]; exact kept.bounded,
      by rw [same]; exact kept.sublist, kept.ordered,
      fun r hr => Nat.le_trans (kept.started r hr) (x.now_le_next e)⟩
  | some run =>
    rw [hr, Option.toList_some, List.map_append] at distinct
    have yields := kept.yields distinct.of_append_left
    have begun := started_eq_now hr
    rw [next_of_started? hr, Option.toList_some]
    refine ⟨kept.spare, ?_, ?_, ?_, ?_⟩
    · have := yields.length_lt
      simp only [List.length_append, List.length_singleton]
      omega
    · exact (yields.sublist.trans kept.sublist).append (List.Sublist.refl _)
    · refine List.pairwise_append.2 ⟨kept.ordered, List.pairwise_singleton _ _, ?_⟩
      intro a ha b hb
      rw [List.mem_singleton.1 hb, begun]
      exact kept.started a ha
    · intro r hr
      rcases List.mem_append.1 hr with hr | hr
      · exact kept.started r hr
      · rw [List.mem_singleton.1 hr, begun]

theorem Kept.after (kept : x.Kept past) {es : List Event}
    (distinct : ((past ++ x.spawned es).map (·.runId)).Nodup) :
    (x.after es).Kept (past ++ x.spawned es) := by
  induction es generalizing x past with
  | nil => simpa [spawned, Scene.after] using kept
  | cons e es ih =>
    rw [spawned, ← List.append_assoc] at distinct ⊢
    have first : ((past ++ (x.started? e).toList).map (·.runId)).Nodup := by
      rw [List.map_append] at distinct
      exact distinct.of_append_left
    exact ih (kept.next first) distinct

/-! ## The latest runs -/

/-- The first of runs that were started at different instants is the victim. -/
theorem eq_nil_of_first {before after : List SimulatedRun}
    (ascending : (before ++ v :: after).Pairwise fun a b => a.started < b.started)
    (oldest : ∀ r ∈ before ++ after, v.started ≤ r.started) : before = [] := by
  cases before with
  | nil => rfl
  | cons r before =>
    have less := (List.pairwise_append.1 ascending).2.2 r List.mem_cons_self v List.mem_cons_self
    have := oldest r (by simp)
    omega

theorem drop_append_singleton {n : Nat} {kept : List SimulatedRun} (spare : 0 < n)
    (dropped : kept = past.drop (past.length + 1 - n)) :
    kept ++ [run] = (past ++ [run]).drop ((past ++ [run]).length - n) := by
  rw [List.length_append, List.length_singleton, List.drop_append_of_le_length (by omega), dropped]

theorem Kept.latest_next (kept : x.Kept past)
    (distinct : ((past ++ (x.started? e).toList).map (·.runId)).Nodup)
    (apart : ((past ++ (x.started? e).toList).map (·.started)).Nodup)
    (latest : x.simulator.runs = past.drop (past.length - x.simulator.capacity)) :
    (x.next e).simulator.runs = (past ++ (x.started? e).toList).drop
      ((past ++ (x.started? e).toList).length - x.simulator.capacity) := by
  cases hr : x.started? e with
  | none =>
    rw [next_of_started_none hr, Option.toList_none, List.append_nil]
    exact latest
  | some run =>
    rw [hr, Option.toList_some, List.map_append] at distinct apart
    have spare := kept.spare
    have ascending : past.Pairwise fun a b => a.started < b.started := by
      have := List.pairwise_map.1 apart.of_append_left
      exact kept.ordered.imp₂ (fun a b le ne => Nat.lt_of_le_of_ne le ne) this
    have yields := kept.yields distinct.of_append_left
    have within := kept.sublist
    rw [next_of_started? hr, Option.toList_some]
    refine drop_append_singleton spare ?_
    generalize x.simulator.makeRoom x.now _ _ = left at yields ⊢
    generalize x.simulator.runs = runs at yields within latest
    cases yields with
    | roomy room =>
      rw [latest, List.length_drop] at room
      rw [latest]
      congr 1
      omega
    | @full before after v full first =>
      have oldest : ∀ r ∈ before ++ after, v.started ≤ r.started := by
        intro r hr
        refine started_le_of_first (first r hr) (kept.started r (within.subset ?_))
        simp only [List.mem_append, List.mem_cons] at hr ⊢
        rcases hr with hr | hr <;> simp [hr]
      have none := eq_nil_of_first (ascending.sublist within) oldest
      subst none
      have long : past.length + 1 - x.simulator.capacity =
          past.length - x.simulator.capacity + 1 := by
        have := within.length_le
        omega
      rw [long, ← List.drop_drop, ← latest]
      rfl

theorem Kept.latest (kept : x.Kept past) {es : List Event}
    (distinct : ((past ++ x.spawned es).map (·.runId)).Nodup)
    (apart : ((past ++ x.spawned es).map (·.started)).Nodup)
    (latest : x.simulator.runs = past.drop (past.length - x.simulator.capacity)) :
    (x.after es).simulator.runs =
      (past ++ x.spawned es).drop ((past ++ x.spawned es).length - x.simulator.capacity) := by
  induction es generalizing x past with
  | nil => simpa [spawned, Scene.after] using latest
  | cons e es ih =>
    rw [spawned, ← List.append_assoc] at distinct apart ⊢
    have first := distinct
    have firstApart := apart
    rw [List.map_append] at first firstApart
    obtain ⟨runs, same⟩ := x.next_simulator e
    have capacity : (x.next e).simulator.capacity = x.simulator.capacity := by rw [same]
    rw [after_cons, ← capacity]
    refine ih (kept.next first.of_append_left) distinct apart ?_
    rw [capacity]
    exact kept.latest_next first.of_append_left firstApart.of_append_left latest

/-! ## Starting a run -/

/-- A run is started, and at most one other is evicted for it. -/
structure Admits (x : Scene) (run : SimulatedRun) (y : Scene) : Prop where
  present : run ∈ y.simulator.runs
  others : ∀ r ∈ y.simulator.runs, r = run ∨ r ∈ x.simulator.runs
  atMostOne : ∀ v ∈ x.simulator.runs, v ∉ y.simulator.runs →
    ∀ w ∈ x.simulator.runs, w ∉ y.simulator.runs → v = w
  onlyFull : ∀ v ∈ x.simulator.runs, v ∉ y.simulator.runs →
    x.simulator.runs.length = x.simulator.capacity
  oldest : ∀ v ∈ x.simulator.runs, v ∉ y.simulator.runs →
    ∀ r ∈ x.simulator.runs, r ∈ y.simulator.runs → v.started ≤ r.started
  /-- A run in flight only goes if no run that is over stays. -/
  finishedFirst : ∀ v ∈ x.simulator.runs, v ∉ y.simulator.runs →
    x.simulator.inFlight x.now v = true →
    ∀ r ∈ y.simulator.runs, x.simulator.inFlight x.now r = true

theorem Kept.admits (kept : x.Kept past) (distinct : (past.map (·.runId)).Nodup)
    (hr : x.started? e = some run) : x.Admits run (x.next e) := by
  have yields := kept.yields distinct
  have begun := started_eq_now hr
  rw [next_of_started? hr]
  have stays : ∀ r,
      r ∉ x.simulator.makeRoom x.now x.simulator.runs.length x.simulator.runs ++ [run] →
      r ∉ x.simulator.makeRoom x.now x.simulator.runs.length x.simulator.runs :=
    fun r gone member => gone (List.mem_append_left _ member)
  constructor
  · simp
  · intro r hr
    rcases List.mem_append.1 hr with hr | hr
    · exact .inr (yields.sublist.subset hr)
    · exact .inl (List.mem_singleton.1 hr)
  · intro v hv gone w hw gone'
    exact (yields.gone hv (stays v gone)).2.2 w hw (stays w gone')
  · intro v hv gone
    exact (yields.gone hv (stays v gone)).1
  · intro v hv gone r hr left
    have past := kept.started r (kept.sublist.subset hr)
    rcases List.mem_append.1 left with left | left
    · exact started_le_of_first ((yields.gone hv (stays v gone)).2.1 r left) past
    · have before := kept.started v (kept.sublist.subset hv)
      rw [List.mem_singleton.1 left, begun]
      exact before
  · intro v hv gone flies r hr
    rcases List.mem_append.1 hr with hr | hr
    · exact inFlight_of_first ((yields.gone hv (stays v gone)).2.1 r hr) flies
    · rw [List.mem_singleton.1 hr]
      simp only [inFlight, decide_eq_true_eq] at flies ⊢
      omega

end Scene

/-- A simulator of a configuration, whatever its latency and its responses are, and wherever its
table puts a run. -/
def configured (c : MockConfig) (latencyMs : Nat) (responses : List (String × String))
    (place : RunId → Nat) : Simulator :=
  { ofConfig c place with latencyMs, responses }

theorem kept_configured (c : MockConfig) (latencyMs : Nat) (responses : List (String × String))
    (place : RunId → Nat) (start : Nat) :
    Scene.Kept ⟨configured c latencyMs responses place, start⟩ [] where
  spare := by
    show 0 < max 1 c.maxRuns.toNat
    omega
  bounded := Nat.zero_le _
  sublist := List.Sublist.refl _
  ordered := .nil
  started := nofun

/-- A configured simulator never keeps more runs than its configuration says, or than one if it says
none. A spawn of a known agent leaves its own run and evicts at most one, and that only if the
simulator is full: a run that was started first, and no run in flight while one that is over is
kept. Nothing else evicts a run. If no two runs were started at one instant, those that are kept are
the latest. -/
theorem keeps_latest (c : MockConfig) (latencyMs : Nat) (responses : List (String × String))
    (place : RunId → Nat) (start : Nat) (es : List Event)
    (distinct : ((Scene.spawned ⟨configured c latencyMs responses place, start⟩ es).map
      (·.runId)).Nodup) :
    let s := configured c latencyMs responses place
    let x := Scene.after ⟨s, start⟩ es
    let spawned := Scene.spawned ⟨s, start⟩ es
    x.simulator.runs.length ≤ max 1 c.maxRuns.toNat ∧
    (∀ id startedAt agent task label,
      (agent.text ∈ c.agents →
        x.Admits ⟨id, agent, task, label, x.now, startedAt, s.outputFor agent task⟩
          (x.next (.spawn id startedAt agent task label))) ∧
      (agent.text ∉ c.agents → x.next (.spawn id startedAt agent task label) = x)) ∧
    (∀ id timeoutMs ms, (x.next (.wait id timeoutMs)).simulator = x.simulator ∧
      (x.next (.status id)).simulator = x.simulator ∧ (x.next (.pass ms)).simulator = x.simulator) ∧
    ((spawned.map (·.started)).Nodup →
      x.simulator.runs = spawned.rtake (min (max 1 c.maxRuns.toNat) spawned.length)) := by
  intro s x spawned
  have begun := kept_configured c latencyMs responses place start
  have kept : x.Kept spawned := begun.after distinct
  obtain ⟨runs, same⟩ := Scene.after_simulator ⟨s, start⟩ es
  have agents : x.simulator.agents = c.agents := by
    rw [same]
    rfl
  have outputs : x.simulator.outputFor = s.outputFor := by
    rw [same]
    rfl
  have bound : x.simulator.capacity = max 1 c.maxRuns.toNat := by
    rw [same]
    rfl
  refine ⟨bound ▸ kept.bounded, ?_, ?_, ?_⟩
  · intro id startedAt agent task label
    constructor
    · intro known
      refine kept.admits distinct ?_
      simp [Scene.started?, agents, known, outputs]
    · intro unknown
      simp [Scene.next, Simulator.spawn, agents, unknown]
  · intro id timeoutMs ms
    exact ⟨rfl, rfl, rfl⟩
  · intro apart
    have latest := begun.latest distinct apart List.drop_nil.symm
    have less : ∀ n m : Nat, n - min m n = n - m := by omega
    rw [List.rtake, less]
    exact latest

namespace Sample

/-- Room for two runs of five seconds. -/
def twoOfFive : MockConfig := { latencyMs := 5000, agents := ["technical"], maxRuns := 2 }

def roomForTwo : Simulator := configured twoOfFive 5000 [] fun _ => 0

def spawnOf (name : String) : Event := .spawn ⟨name⟩ 0 ⟨"technical"⟩ name none

/-- Two runs are started, and the first is waited for until it is over. -/
def twoRuns : List Event := [spawnOf "one", .pass 1000, spawnOf "two", .wait ⟨"one"⟩ 4000]

end Sample

/-- The run that is over is evicted for the third one, and the one in flight stays. -/
theorem keeps_latest_sample :
    ∃ spawned : List SimulatedRun, spawned = Scene.spawned ⟨Sample.roomForTwo, 0⟩ Sample.twoRuns ∧
    spawned.map (·.runId.text) = ["one", "two"] ∧ (spawned.map (·.runId)).Nodup ∧
    (spawned.map (·.started)).Nodup ∧
    ∃ x : Scene, x = Scene.after ⟨Sample.roomForTwo, 0⟩ Sample.twoRuns ∧
    x.now = 5000 ∧ x.simulator.runs.length ≤ 2 ∧ x.simulator.runs = spawned.rtake 2 ∧
    (∃ run, x.Admits run (x.next (Sample.spawnOf "three"))) ∧
    (x.next (Sample.spawnOf "three")).simulator.runs.map (·.runId.text) = ["two", "three"] := by
  have distinct :
      ((Scene.spawned ⟨Sample.roomForTwo, 0⟩ Sample.twoRuns).map (·.runId)).Nodup := by decide
  have apart :
      ((Scene.spawned ⟨Sample.roomForTwo, 0⟩ Sample.twoRuns).map (·.started)).Nodup := by decide
  obtain ⟨bounded, spawns, -, latest⟩ :=
    keeps_latest Sample.twoOfFive 5000 [] (fun _ => 0) 0 Sample.twoRuns distinct
  have admitted := (spawns ⟨"three"⟩ 0 ⟨"technical"⟩ "three" none).1 (by decide)
  exact ⟨_, rfl, by decide, distinct, apart, _, rfl, by decide, bounded, latest apart,
    ⟨_, admitted⟩, by decide⟩

end Delegation.Simulator
